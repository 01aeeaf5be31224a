import Kestrel.Spawn.AuthorityLocks
import Kestrel.Spawn.AuthoritySlots

/-!
# The authority of a born child

What became of a reservation is what the registry says of it: it is pending, or a record that is not
retired has its claim, or it was withdrawn or retired; one that was reaped bore no identity. The
slots of the registry are exclusive over every run in which no child is recorded into the slot of a
pending reservation.
-/

namespace Kestrel.Spawn.Authority

open Function Dictionary Registry World

namespace World

variable {host : Host} {world after : World} {reservationId : String}

/-- What the registry says of a reservation. -/
structure Settled (host : Host) (world : World) (reservationId : String) : Prop where
  pending : ∀ reservation, world.registry.pending.get reservationId = some reservation →
    world.fate reservationId = some .reserved ∧ world.issued reservationId = some reservation
  reserved : world.fate reservationId = some .reserved →
    ∃ reservation, world.registry.pending.get reservationId = some reservation
  promoted : ∀ childDid, world.fate reservationId = some (.promoted childDid) →
    ∃ reservation, world.issued reservationId = some reservation ∧
      world.registry.claimOf host childDid = some (reservation.claim host)
  reaped : world.fate reservationId = some .reaped →
    reservationId ∉ world.born ∧
      ∀ process, ¬ world.Engages process (.pending reservationId)
  born : reservationId ∈ world.born → world.fate reservationId ≠ none
  anchored : reservationId ∈ world.born → ∀ reservation,
    world.issued reservationId = some reservation →
      host.resolve reservation.config.dataDir ∈ world.anchors

/-- The invariant of the processes and their registry. -/
structure Sound (host : Host) (world : World) : Prop where
  custody : ∀ reservationId, world.Custody reservationId
  settled : ∀ reservationId, world.Settled host reservationId

theorem Sound.initial : World.initial.Sound host where
  custody := by
    intro reservationId
    refine ⟨?_, ?_, ?_, ?_, ?_⟩ <;>
      simp [World.initial, World.holding, Process.idle, Engages, Marks]
  settled := by
    intro reservationId
    refine ⟨?_, ?_, ?_, ?_, ?_, ?_⟩ <;> simp [World.initial, Registry.empty]

/-! ## Frames -/

theorem Settled.frame (settled : world.Settled host reservationId)
    (pending : after.registry.pending.get reservationId = world.registry.pending.get reservationId)
    (claimOf : ∀ childDid, world.fate reservationId = some (.promoted childDid) →
      after.registry.claimOf host childDid = world.registry.claimOf host childDid)
    (fate : after.fate reservationId = world.fate reservationId)
    (issued : after.issued reservationId = world.issued reservationId)
    (born : after.born = world.born) (anchors : after.anchors = world.anchors)
    (engages : ∀ process, after.Engages process (.pending reservationId) →
      world.Engages process (.pending reservationId)) :
    after.Settled host reservationId where
  pending := by
    rw [pending, fate, issued]
    exact settled.pending
  reserved := by
    rw [pending, fate]
    exact settled.reserved
  promoted := by
    intro childDid current
    rw [fate] at current
    rw [issued, claimOf childDid current]
    exact settled.promoted childDid current
  reaped := by
    intro gone
    rw [fate] at gone
    obtain ⟨unborn, free⟩ := settled.reaped gone
    exact ⟨by rwa [born], fun process engaged => free process (engages process engaged)⟩
  born := by
    rw [born, fate]
    exact settled.born
  anchored := by
    rw [born, issued, anchors]
    exact settled.anchored

theorem Custody.refate (custody : world.Custody reservationId) (files : after.files = world.files)
    (process : after.process = world.process) (drawn : after.drawn = world.drawn)
    (fate : world.fate reservationId = none → after.fate reservationId ≠ none →
      ∃ producer inode, world.holding producer (.pending reservationId) = .owned inode) :
    after.Custody reservationId := by
  have holding : ∀ producer third, after.holding producer third = world.holding producer third := by
    intro producer third
    rw [holding, holding, process]
  have marks : ∀ producer third, after.Marks producer third ↔ world.Marks producer third := by
    intro producer third
    rw [Marks, Marks, process]
  refine ⟨?_, ?_, ?_, ?_, ?_⟩
  · intro producer inode held
    rw [files]
    exact custody.owned producer inode ((holding _ _).symm.trans held)
  · intro producer inode held
    rw [holding] at held
    obtain ⟨linked, unwritten⟩ := custody.opened producer inode held
    refine ⟨by rw [files]; exact linked, ?_⟩
    by_contra written
    obtain ⟨other, inode', owned⟩ := fate unwritten written
    have same := custody.unique producer other (by rw [Engages, held]; simp)
      (by rw [Engages, owned]; simp)
    subst same
    rw [held] at owned
    cases owned
  · intro producer other engaged marked
    rw [Engages, holding] at engaged
    exact custody.engaged producer other engaged ((marks _ _).mp marked)
  · intro producer other engaged engaged'
    rw [Engages, holding] at engaged engaged'
    exact custody.unique producer other engaged engaged'
  · intro fresh
    rw [drawn] at fresh
    obtain ⟨unwritten, free, unmarked⟩ := custody.drawn fresh
    refine ⟨?_, ?_, fun producer marked => unmarked producer ((marks _ _).mp marked)⟩
    · by_contra written
      obtain ⟨other, inode, owned⟩ := fate unwritten written
      exact free other (by rw [Engages, owned]; simp)
    · intro producer engaged
      rw [Engages, holding] at engaged
      exact free producer engaged

variable {registry : Registry} {reservation : Reservation} {producer : ℕ} {childDid : String}

theorem Sound.keeps (sound : world.Sound host) (keeps : Keeps host world.registry registry)
    :
    ({ world with registry := registry } : World).Sound host where
  custody := fun reservationId =>
    (sound.custody reservationId).refate rfl rfl rfl (fun unwritten written =>
      absurd unwritten written)
  settled := fun reservationId =>
    (sound.settled reservationId).frame (by rw [keeps.pending]) (fun _ _ => keeps.claimOf _) rfl rfl
      rfl rfl (fun _ engaged => engaged)

/-! ## Reservations -/

theorem Sound.reserved {inode : ℕ} (sound : world.Sound host)
    (held : world.holding producer (.pending reservation.reservationId) = .owned inode)
    (unwritten : world.fate reservation.reservationId = none) :
    ({ world with
      registry :=
        { world.registry with pending := world.registry.pending.put reservation }
      issued := update world.issued reservation.reservationId reservation
      fate := update world.fate reservation.reservationId (some .reserved) } :
      World).Sound host where
  custody := by
    intro reservationId
    refine (sound.custody reservationId).refate rfl rfl rfl ?_
    intro before written
    by_cases same : reservationId = reservation.reservationId
    · subst same
      exact ⟨producer, inode, held⟩
    · dsimp only at written
      rw [update_of_ne same] at written
      exact absurd before written
  settled := by
    intro reservationId
    have settled := sound.settled reservationId
    by_cases same : reservationId = reservation.reservationId
    · subst same
      refine ⟨?_, ?_, ?_, ?_, ?_, ?_⟩
      · intro other found
        rw [get_put_self] at found
        cases found
        simp
      · intro _
        exact ⟨reservation, get_put_self⟩
      · simp
      · simp
      · simp
      · intro born
        exact absurd unwritten (settled.born born)
    · exact settled.frame (get_put_of_ne same) (fun _ _ => rfl)
        (update_of_ne same _ _) (update_of_ne same _ _) rfl rfl
        (fun _ engaged => engaged)

theorem Sound.left {fate : Fate} (sound : world.Sound host)
    (found : world.registry.pending.get reservationId = some reservation)
    (final : fate = .withdrawn ∨ fate = .reaped ∧ reservationId ∉ world.born ∧
      ∀ process, ¬ world.Engages process (.pending reservationId)) :
    (({ world with
      registry :=
        { world.registry with
          pending := world.registry.pending.erase reservationId } } : World).setFate
      reservationId fate).Sound host where
  custody := by
    intro other
    refine (sound.custody other).refate rfl rfl rfl ?_
    intro before written
    by_cases same : other = reservationId
    · subst same
      rw [((sound.settled other).pending reservation found).1] at before
      cases before
    · rw [setFate] at written
      dsimp only at written
      rw [update_of_ne same] at written
      exact absurd before written
  settled := by
    intro other
    have settled := sound.settled other
    by_cases same : other = reservationId
    · subst same
      refine ⟨?_, ?_, ?_, ?_, ?_, settled.anchored⟩
      · simp [setFate]
      · obtain rfl | ⟨rfl, _⟩ := final <;> simp [setFate]
      · obtain rfl | ⟨rfl, _⟩ := final <;> simp [setFate]
      · intro gone
        obtain rfl | ⟨rfl, unborn, free⟩ := final
        · simp [setFate] at gone
        · exact ⟨unborn, free⟩
      · simp [setFate]
    · exact settled.frame (get_erase_of_ne same) (fun _ _ => rfl)
        (update_of_ne same _ _) rfl rfl rfl (fun _ engaged => engaged)

theorem ne_of_claimOf {other : String} {claim : Claim}
    (held : registry.claimOf host childDid = some claim)
    (absent : registry.records.get other = none) : childDid ≠ other := by
  rintro rfl
  simp [claimOf, absent] at held

theorem Sound.promoted {promotion : Promotion} (sound : world.Sound host)
    (found : world.registry.pending.get promotion.reservationId = some reservation)
    (fits : promotion.Matches host reservation)
    (absent : world.registry.records.get promotion.childDid = none) :
    (({ world with
      registry :=
        { pending := world.registry.pending.erase promotion.reservationId
          records := world.registry.records.put promotion.witness } } : World).setFate
      promotion.reservationId (.promoted promotion.childDid)).Sound host where
  custody := by
    intro other
    refine (sound.custody other).refate rfl rfl rfl ?_
    intro before written
    by_cases same : other = promotion.reservationId
    · subst same
      rw [((sound.settled _).pending reservation found).1] at before
      cases before
    · rw [setFate] at written
      dsimp only at written
      rw [update_of_ne same] at written
      exact absurd before written
  settled := by
    intro other
    have settled := sound.settled other
    by_cases same : other = promotion.reservationId
    · subst same
      refine ⟨?_, ?_, ?_, ?_, ?_, settled.anchored⟩
      · simp [setFate]
      · simp [setFate]
      · intro childDid current
        have same : promotion.childDid = childDid := by simpa [setFate] using current
        subst same
        refine ⟨reservation, (settled.pending reservation found).2, ?_⟩
        rw [← fits.claim]
        exact claimOf_put promotion.witness rfl
      · simp [setFate]
      · simp [setFate]
    · refine settled.frame (get_erase_of_ne same) ?_
        (update_of_ne same _ _) rfl rfl rfl (fun _ engaged => engaged)
      intro childDid current
      obtain ⟨_, _, held⟩ := settled.promoted childDid current
      exact claimOf_put_of_ne promotion.witness (ne_of_claimOf held absent)

/-! ## Records -/

theorem Sound.recorded (witness : Witness) (sound : world.Sound host)
    (absent : world.registry.records.get witness.childDid = none) :
    ({ world with
      registry := { world.registry with records := world.registry.records.put witness } } :
      World).Sound host where
  custody := fun reservationId =>
    (sound.custody reservationId).refate rfl rfl rfl (fun unwritten written =>
      absurd unwritten written)
  settled := by
    intro reservationId
    have settled := sound.settled reservationId
    refine settled.frame rfl ?_ rfl rfl rfl rfl (fun _ engaged => engaged)
    intro childDid current
    obtain ⟨_, _, held⟩ := settled.promoted childDid current
    exact claimOf_put_of_ne witness (ne_of_claimOf held absent)

theorem Sound.closed {fate : Fate} (sound : world.Sound host)
    (final : fate = .withdrawn ∨ fate = .retired)
    (pending : registry.pending = world.registry.pending) (others : ∀ other, other ≠ childDid →
      registry.claimOf host other = world.registry.claimOf host other) :
    (({ world with registry := registry } : World).close childDid fate).Sound host where
  custody := by
    intro reservationId
    refine (sound.custody reservationId).refate rfl rfl rfl ?_
    intro before written
    simp [close, before] at written
  settled := by
    intro reservationId
    have settled := sound.settled reservationId
    by_cases closes : world.fate reservationId = some (.promoted childDid)
    · have now : (({ world with registry := registry } : World).close childDid fate).fate
          reservationId = some fate := if_pos closes
      refine ⟨?_, ?_, ?_, ?_, ?_, settled.anchored⟩
      · intro reservation found
        have before := (settled.pending reservation (by rw [← pending]; exact found)).1
        rw [closes] at before
        cases before
      · rw [now]
        obtain rfl | rfl := final <;> simp
      · rw [now]
        obtain rfl | rfl := final <;> simp
      · rw [now]
        obtain rfl | rfl := final <;> simp
      · rw [now]
        simp
    · refine settled.frame (by rw [← pending]; rfl) ?_ (if_neg closes) rfl rfl rfl
        (fun _ engaged => engaged)
      intro other current
      refine others other ?_
      rintro rfl
      exact closes current

/-! ## Births -/

theorem of_mayBear (bears : world.mayBear producer reservationId = true) :
    world.Engages producer (.pending reservationId) ∧ world.fate reservationId ≠ none := by
  unfold mayBear at bears
  split at bears
  · cases bears
  · rename_i _ held written
    exact ⟨by rw [Engages, held]; simp, by rw [written]; simp⟩
  · cases bears

theorem Sound.birth (sound : world.Sound host) (bears : world.mayBear producer reservationId = true)
    (issued : world.issued reservationId = some reservation) :
    ({ world with
      born := reservationId :: world.born
      anchors := host.resolve reservation.config.dataDir :: world.anchors } : World).Sound
      host where
  custody := fun other =>
    (sound.custody other).refate rfl rfl rfl (fun unwritten written => absurd unwritten written)
  settled := by
    intro other
    have settled := sound.settled other
    obtain ⟨engaged, written⟩ := of_mayBear bears
    refine ⟨settled.pending, settled.reserved, settled.promoted, ?_, ?_, ?_⟩
    · intro gone
      obtain ⟨unborn, free⟩ := settled.reaped gone
      refine ⟨?_, free⟩
      -- a producer that still has its sidecar was not reaped
      intro born
      obtain rfl | old := List.mem_cons.mp born
      · exact free producer engaged
      · exact unborn old
    · intro born
      obtain rfl | old := List.mem_cons.mp born
      · exact written
      · exact settled.born old
    · intro born other' known
      obtain rfl | old := List.mem_cons.mp born
      · cases issued.symm.trans known
        exact List.mem_cons_self
      · exact List.mem_cons_of_mem _ (settled.anchored old other' known)

/-! ## Reconciliations -/

theorem Sound.sidecars (sound : world.Sound host) (registry : after.registry = world.registry)
    (fate : after.fate = world.fate) (issued : after.issued = world.issued)
    (born : after.born = world.born) (anchors : after.anchors = world.anchors)
    (engages : ∀ reservationId process, world.fate reservationId ≠ none →
      after.Engages process (.pending reservationId) →
      world.Engages process (.pending reservationId))
    (custody : ∀ reservationId, after.Custody reservationId) : after.Sound host where
  custody := custody
  settled := by
    intro reservationId
    have settled := sound.settled reservationId
    refine ⟨?_, ?_, ?_, ?_, ?_, ?_⟩
    · rw [registry, fate, issued]
      exact settled.pending
    · rw [registry, fate]
      exact settled.reserved
    · rw [registry, fate, issued]
      exact settled.promoted
    · intro gone
      rw [fate] at gone
      obtain ⟨unborn, free⟩ := settled.reaped gone
      refine ⟨by rwa [born], fun process engaged => free process ?_⟩
      exact engages reservationId process (by rw [gone]; simp) engaged
    · rw [born, fate]
      exact settled.born
    · rw [born, issued, anchors]
      exact settled.anchored

theorem Sound.reapOrphaned {process : ℕ} {obscured : List String} (sound : world.Sound host) :
    (reapOrphaned host process obscured world reservationId).Sound host ∧
      Frees host world.registry
        (reapOrphaned host process obscured world reservationId).registry ∧
      KeepsFinal world.registry
        (reapOrphaned host process obscured world reservationId).registry := by
  unfold World.reapOrphaned
  cases found : world.registry.pending.get reservationId with
  | none => exact ⟨sound, .refl _, .refl _⟩
  | some reservation =>
    obtain ⟨reserved, issued⟩ := (sound.settled reservationId).pending reservation found
    have custody := sound.custody reservationId
    dsimp only
    cases claimed : (world.files (.pending reservationId)).openOrCreate.2.tryLock
        (world.files (.pending reservationId)).openOrCreate.1 ⟨process, .prober⟩ with
    | none =>
      refine ⟨sound.sidecars rfl rfl rfl rfl rfl (fun _ _ _ engaged => engaged) ?_,
        .refl _, .refl _⟩
      intro other
      by_cases same : other = reservationId
      · subst same
        exact custody.probe (by rw [reserved]; simp)
      · exact (sound.custody other).setFile (by simpa using same)
    | some locked =>
      have free := custody.free_of_probe (by rw [reserved]; simp) claimed
      have drawn := custody.mem_drawn_of_written (by rw [reserved]; simp)
      have probed : (world.claim process (.pending reservationId)
          (world.files (.pending reservationId)).openOrCreate.1 locked).Sound host := by
        refine sound.sidecars rfl rfl rfl rfl rfl ?_ ?_
        · intro other third _ engaged
          rwa [Engages, holding_claim] at engaged
        · intro other
          refine (sound.custody other).claim ?_ ?_
          · intro same
            cases same
            exact free
          · intro same
            cases same
            exact drawn
      dsimp only
      split_ifs with unborn
      · refine ⟨?_, frees_erase_pending, fun _ _ stored _ => stored⟩
        refine probed.left found (.inr ⟨rfl, ?_, ?_⟩)
        · intro born
          have anchored := probed.settled reservationId |>.anchored born reservation issued
          unfold identityAnchorBirthStatus at unborn
          split_ifs at unborn with hidden
          simp [anchored] at unborn
        · intro other engaged
          rw [Engages, holding_claim] at engaged
          exact free other engaged
      · exact ⟨probed, .refl _, .refl _⟩

theorem Sound.admitOrphaned {process : ℕ} {unreadable : List String} (sound : world.Sound host) :
    (admitOrphaned process unreadable world childDid).Sound host ∧
      Frees host world.registry
        (admitOrphaned process unreadable world childDid).registry ∧
      KeepsFinal world.registry
        (admitOrphaned process unreadable world childDid).registry := by
  unfold World.admitOrphaned
  cases found : world.registry.records.get childDid with
  | none => exact ⟨sound, .refl _, .refl _⟩
  | some witness =>
    dsimp only
    split_ifs with skipped
    · exact ⟨sound, .refl _, .refl _⟩
    · have active : witness.state = .active := by
        by_contra inactive
        exact skipped (.inl inactive)
      have known := found
      rw [← key_of_get found] at known
      have keeps : Keeps host world.registry (world.registry.setState witness .retiring) :=
        keeps_setState known (by simp [active]) (by simp)
      have retiring := sound.keeps keeps
      cases linked : (world.files (.provisional childDid)).linked with
      | none => exact ⟨retiring, keeps.frees, keeps.final⟩
      | some inode =>
        dsimp only
        cases claimed : (world.files (.provisional childDid)).tryLock inode ⟨process, .prober⟩ with
        | none => exact ⟨sound, .refl _, .refl _⟩
        | some locked =>
          refine ⟨?_, keeps.frees, keeps.final⟩
          refine retiring.sidecars rfl rfl rfl rfl rfl ?_ ?_
          · intro other third _ engaged
            rwa [Engages, holding_claim] at engaged
          · intro other
            exact (retiring.custody other).claim (by simp) (by simp)

end World

end Kestrel.Spawn.Authority
