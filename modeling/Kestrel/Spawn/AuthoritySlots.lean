import Kestrel.Spawn.AuthorityRegistry
import Mathlib.Data.List.Nodup

/-!
# The slots that a registry has given out

Pending reservations and records that are not retired each claim a name and a data directory. A
mutation gives out one claim at most, and every other one only frees or hands over.
-/

namespace Kestrel.Spawn.Authority

open List Except Dictionary Witness Host

/-- A case-folded name and a resolved data directory. -/
structure Claim where
  name : String
  dataDir : String
  deriving DecidableEq, Repr

def Host.claim (host : Host) (name : String) (config : LocalAgentConfig) : Claim :=
  ⟨host.casefold name, host.resolve config.dataDir⟩

def Witness.claim (host : Host) (witness : Witness) : Claim :=
  host.claim witness.childName witness.config

def Reservation.claim (host : Host) (reservation : Reservation) : Claim :=
  host.claim reservation.childName reservation.config

/-- Two claims share a name or a directory. -/
def Claim.Meets (first second : Claim) : Prop :=
  first.name = second.name ∨ first.dataDir = second.dataDir

variable {config : LocalAgentConfig}

theorem Host.clashes_iff {host : Host} {name name' : String} {config' : LocalAgentConfig} :
    host.clashes name config name' config' = true ↔
      (host.claim name config).Meets (host.claim name' config') := by
  simp [clashes, sameName, sameDataSlot, Claim.Meets, claim]

namespace Registry

variable (host : Host)

def recorded (records : Dictionary Witness.childDid) : List Claim :=
  (records.rows.filter (·.live)).map (·.claim host)

def occupied (registry : Registry) : List Claim :=
  registry.pending.rows.map (·.claim host) ++ recorded host registry.records

/-- The claims are pairwise distinct in both of their parts. -/
structure Distinct (registry : Registry) : Prop where
  names : ((registry.occupied host).map (·.name)).Nodup
  dataDirs : ((registry.occupied host).map (·.dataDir)).Nodup

/-- A mutation that gives out nothing. -/
def Frees (before after : Registry) : Prop :=
  List.Subperm (after.occupied host) (before.occupied host)

/-- A mutation that gives out one claim. -/
def Takes (before after : Registry) (claim : Claim) : Prop :=
  (after.occupied host).Perm (claim :: before.occupied host)

/-- Retired records stay as they are. -/
def KeepsFinal (before after : Registry) : Prop :=
  ∀ childDid witness, before.records.get childDid = some witness → witness.state = .retired →
    after.records.get childDid = some witness

variable {host} {registry before after : Registry}

theorem length_occupied (host : Host) (registry : Registry) :
    (registry.occupied host).length = registry.authoritySlots := by
  simp [occupied, recorded, authoritySlots, Nat.add_comm]

theorem Frees.refl (registry : Registry) : Frees host registry registry :=
  Subperm.refl _

theorem Distinct.of_frees (distinct : before.Distinct host) (frees : Frees host before after) :
    after.Distinct host := by
  obtain ⟨kept, perm, sublist⟩ := frees
  exact
    { names := (perm.map _).nodup_iff.mp (distinct.names.sublist (sublist.map _))
      dataDirs := (perm.map _).nodup_iff.mp (distinct.dataDirs.sublist (sublist.map _)) }

theorem Distinct.of_takes {claim : Claim} (distinct : before.Distinct host)
    (takes : Takes host before after claim)
    (fresh : ∀ other ∈ before.occupied host, ¬ other.Meets claim) : after.Distinct host where
  names := by
    refine (takes.map _).nodup_iff.mpr ?_
    rw [map_cons, nodup_cons]
    refine ⟨?_, distinct.names⟩
    intro taken
    obtain ⟨other, member, same⟩ := mem_map.mp taken
    exact fresh other member (.inl same)
  dataDirs := by
    refine (takes.map _).nodup_iff.mpr ?_
    rw [map_cons, nodup_cons]
    refine ⟨?_, distinct.dataDirs⟩
    intro taken
    obtain ⟨other, member, same⟩ := mem_map.mp taken
    exact fresh other member (.inr same)

theorem KeepsFinal.refl (registry : Registry) : KeepsFinal registry registry :=
  fun _ _ found _ => found

variable {middle : Registry} {witness existing : Witness} {childDid : String}
  {records : Dictionary Witness.childDid} {reservation : Reservation}

theorem KeepsFinal.trans (first : KeepsFinal before middle) (second : KeepsFinal middle after)
    : KeepsFinal before after :=
  fun childDid witness found final => second childDid witness (first childDid witness found final)
    final

theorem Frees.trans (first : Frees host before middle) (second : Frees host middle after)
    : Frees host before after :=
  Subperm.trans second first

/-! ## Collisions -/

theorem meets_of_collision {name : String}
    (free : registry.collision host name config = false) :
    ∀ other ∈ recorded host registry.records, ¬ other.Meets (host.claim name config) := by
  intro other member meets
  obtain ⟨record, stored, rfl⟩ := mem_map.mp member
  obtain ⟨stored, live⟩ := mem_filter.mp stored
  rw [collision, any_eq_false] at free
  exact free record stored (by simp [live, clashes_iff.mpr meets])

theorem meets_of_pendingCollision {name : String}
    (free : registry.pendingCollision host name config = false) :
    ∀ other ∈ registry.pending.rows.map (·.claim host), ¬ other.Meets (host.claim name config) := by
  intro other member meets
  obtain ⟨reservation, stored, rfl⟩ := mem_map.mp member
  rw [pendingCollision, any_eq_false] at free
  exact free reservation stored (clashes_iff.mpr meets)

/-! ## What the dictionaries give out -/

def claims (host : Host) (witness : Witness) : List Claim :=
  if witness.live then [witness.claim host] else []

theorem recorded_perm {rows : List Witness} (same : records.rows.Perm (witness :: rows)) :
    (recorded host records).Perm
      (claims host witness ++ (rows.filter (·.live)).map (·.claim host)) := by
  unfold recorded claims
  refine ((same.filter _).map _).trans ?_
  by_cases live : witness.live = true
  · rw [filter_cons_of_pos live, if_pos live, map_cons, singleton_append]
  · rw [filter_cons_of_neg live, if_neg live, nil_append]

theorem recorded_put : (recorded host (records.put witness)).Perm
      (claims host witness ++ recorded host (records.erase witness.childDid)) :=
  recorded_perm rows_put_perm

theorem recorded_get (found : records.get childDid = some witness) :
    (recorded host records).Perm (claims host witness ++ recorded host (records.erase childDid)) :=
  recorded_perm (rows_perm_of_get found)

theorem takes_record (registry : Registry) (witness : Witness)
    (absent : registry.records.get witness.childDid = none) (live : witness.live = true) :
    Takes host registry { registry with records := registry.records.put witness }
      (witness.claim host) := by
  have put : (recorded host (registry.records.put witness)).Perm
      (witness.claim host :: recorded host registry.records) := by
    have perm : (recorded host (registry.records.put witness)).Perm
        (claims host witness ++ recorded host (registry.records.erase witness.childDid)) :=
      recorded_put
    rw [claims, if_pos live, recorded, recorded, erase_of_absent absent] at perm
    exact perm
  exact (put.append_left _).trans perm_middle

theorem frees_record (witness : Witness)
    (found : registry.records.get witness.childDid = some existing)
    (claimed : (claims host witness).Sublist (claims host existing)) :
    Frees host registry { registry with records := registry.records.put witness } := by
  have fewer : Subperm (recorded host (registry.records.put witness))
      (recorded host registry.records) := by
    refine recorded_put.subperm.trans ?_
    refine Subperm.trans ?_ (recorded_get found).symm.subperm
    exact (claimed.append_right _).subperm
  exact (subperm_append_left _).mpr fewer

theorem frees_erase_record :
    Frees host registry { registry with records := registry.records.erase childDid } := by
  have fewer : (recorded host (registry.records.erase childDid)).Sublist
      (recorded host registry.records) :=
    (filter_sublist.filter _).map _
  exact (Sublist.append_left fewer _).subperm

variable {reservationId : String} {promotion : Promotion}

theorem frees_erase_pending :
    Frees host registry { registry with pending := registry.pending.erase reservationId } := by
  have fewer : ((registry.pending.erase reservationId).rows.map (·.claim host)).Sublist
      (registry.pending.rows.map (·.claim host)) := filter_sublist.map _
  exact (fewer.append_right _).subperm

theorem takes_pending (absent : registry.pending.get reservation.reservationId = none) :
    Takes host registry { registry with pending := registry.pending.put reservation }
      (reservation.claim host) := by
  have put : (registry.pending.put reservation).rows.Perm
      (reservation :: registry.pending.rows) := by
    have perm : (registry.pending.put reservation).rows.Perm
        (reservation :: (registry.pending.erase reservation.reservationId).rows) :=
      rows_put_perm
    rwa [erase_of_absent absent] at perm
  exact (put.map _).append_right _

theorem Promotion.Matches.claim (fits : promotion.Matches host reservation)
    :
    promotion.witness.claim host = reservation.claim host := by
  obtain ⟨named, _, placed, _⟩ := fits
  have same : host.resolve reservation.config.dataDir = host.resolve promotion.config.dataDir := by
    simpa [Host.sameDataSlot] using placed
  simp [Witness.claim, Reservation.claim, Promotion.witness, Host.claim, named, same]

theorem frees_promotion
    (found : registry.pending.get promotion.reservationId = some reservation)
    (fits : promotion.Matches host reservation)
    (absent : registry.records.get promotion.childDid = none) :
    Frees host registry
      { pending := registry.pending.erase promotion.reservationId
        records := registry.records.put promotion.witness } := by
  have recorded : Takes host
      { registry with pending := registry.pending.erase promotion.reservationId }
      { pending := registry.pending.erase promotion.reservationId
        records := registry.records.put promotion.witness } (promotion.witness.claim host) :=
    takes_record { registry with pending := registry.pending.erase promotion.reservationId }
      promotion.witness absent rfl
  have released : (registry.occupied host).Perm (reservation.claim host ::
      occupied host { registry with
        pending := registry.pending.erase promotion.reservationId }) :=
    ((rows_perm_of_get found).map _).append_right _
  rw [fits.claim] at recorded
  exact (recorded.trans released.symm).subperm

/-! ## Records that are final -/

theorem keepsFinal_put (witness : Witness)
    (found : registry.records.get witness.childDid = some existing)
    (live : existing.state ≠ .retired) :
    KeepsFinal registry { registry with records := registry.records.put witness } := by
  intro childDid final stored retired
  have other : childDid ≠ witness.childDid := by
    rintro rfl
    rw [found] at stored
    cases stored
    exact live retired
  exact (get_put_of_ne other).trans stored

theorem keepsFinal_new (witness : Witness) (absent : registry.records.get witness.childDid = none) :
    KeepsFinal registry { registry with records := registry.records.put witness } := by
  intro childDid final stored _
  have other : childDid ≠ witness.childDid := by
    rintro rfl
    rw [absent] at stored
    cases stored
  exact (get_put_of_ne other).trans stored

theorem keepsFinal_erase (found : registry.records.get childDid = some existing)
    (live : existing.state ≠ .retired) :
    KeepsFinal registry { registry with records := registry.records.erase childDid } := by
  intro other final stored retired
  have distinct : other ≠ childDid := by
    rintro rfl
    rw [found] at stored
    cases stored
    exact live retired
  exact (get_erase_of_ne distinct).trans stored

/-! ## What each mutation does -/

section Mutations

theorem reservePending_eq_ok {reservation result : Reservation} {cap : Option ℕ}
    (written : registry.reservePending host reservation cap = .ok (result, after)) :
    registry.collision host reservation.childName reservation.config = false ∧
      registry.pendingCollision host reservation.childName reservation.config = false ∧
      (∀ limit ∈ cap, registry.authoritySlots < limit) ∧
      after = { registry with pending := registry.pending.put reservation } := by
  simp only [reservePending, checkCap, bind_eq_ok, require_eq_ok, exists_const] at written
  obtain ⟨_, _, _, _, ⟨free, pendingFree⟩, below, written⟩ := written
  cases written
  exact ⟨free, pendingFree, below, rfl⟩

variable {childName childDid : String} {result : Witness}

theorem withdrawPending_eq_ok {result : Unit}
    (written : registry.withdrawPending reservationId childName = .ok (result, after)) :
    (∃ reservation, registry.pending.get reservationId = some reservation) ∧
      after = { registry with pending := registry.pending.erase reservationId } := by
  unfold withdrawPending at written
  split at written
  · cases written
  · rename_i existing found
    simp only [bind_eq_ok, require_eq_ok, exists_const] at written
    obtain ⟨_, written⟩ := written
    cases written
    exact ⟨⟨existing, found⟩, rfl⟩

theorem promotePending_eq_ok
    (written : registry.promotePending host promotion = .ok (result, after)) :
    ∃ reservation, registry.pending.get promotion.reservationId = some reservation ∧
      promotion.Matches host reservation ∧ registry.records.get promotion.childDid = none ∧
      after =
        { pending := registry.pending.erase promotion.reservationId
          records := registry.records.put promotion.witness } := by
  simp only [promotePending, bind_eq_ok, require_eq_ok, exists_const] at written
  obtain ⟨_, _, _, _, _, written⟩ := written
  split at written
  · cases written
  · rename_i reservation found
    simp only [bind_eq_ok, require_eq_ok, exists_const] at written
    obtain ⟨fits, absent, _, written⟩ := written
    cases written
    exact ⟨reservation, found, fits, absent, rfl⟩

theorem recordActive_eq_ok {activation : Activation} {cap : Option ℕ}
    (written : registry.recordActive host activation cap = .ok (result, after)) :
    after = registry ∨ registry.records.get activation.childDid = none ∧
        registry.collision host activation.childName activation.config = false ∧
        (∀ limit ∈ cap, registry.authoritySlots < limit) ∧
        after = { registry with records := registry.records.put activation.witness } := by
  simp only [recordActive, bind_eq_ok, require_eq_ok, exists_const] at written
  obtain ⟨_, _, _, _, _, written⟩ := written
  split at written
  · simp only [bind_eq_ok, require_eq_ok, exists_const] at written
    obtain ⟨_, _, written⟩ := written
    cases written
    exact .inl rfl
  · rename_i absent
    simp only [checkCap, bind_eq_ok, require_eq_ok, exists_const] at written
    obtain ⟨free, below, written⟩ := written
    cases written
    exact .inr ⟨absent, free, below, rfl⟩

theorem commitActiveReceipt_eq_ok {expected committed : SpawnMandate}
    (written : registry.commitActiveReceipt host childName childDid expected committed =
      .ok (result, after)) :
    ∃ existing, registry.records.get childDid = some existing ∧ existing.state = .active ∧ after =
        { registry with
          records := registry.records.put { existing with mandate := committed } } := by
  simp only [commitActiveReceipt, bind_eq_ok, require_eq_ok, exists_const] at written
  obtain ⟨_, _, _, _, _, _, _, _, written⟩ := written
  split at written
  · cases written
  · rename_i existing found
    simp only [bind_eq_ok, require_eq_ok, exists_const] at written
    obtain ⟨active, _, written⟩ := written
    cases written
    exact ⟨existing, found, active, rfl⟩

theorem withdrawActive_eq_ok {mandate : SpawnMandate} {result : Unit}
    (written : registry.withdrawActive childName childDid mandate = .ok (result, after)) :
    registry.records.get childDid = none ∧ after = registry ∨
      ∃ existing, registry.records.get childDid = some existing ∧ existing.state = .active ∧
        after = { registry with records := registry.records.erase childDid } := by
  unfold withdrawActive at written
  split at written
  · rename_i absent
    cases written
    exact .inl ⟨absent, rfl⟩
  · rename_i existing found
    simp only [bind_eq_ok, require_eq_ok, exists_const] at written
    obtain ⟨active, _, _, _, _, written⟩ := written
    cases written
    exact .inr ⟨existing, found, active, rfl⟩

theorem cancelRetirement_eq_ok {result : Bool}
    (written : registry.cancelRetirement host childName childDid = .ok (result, after)) :
    after = registry ∨
      ∃ existing, registry.records.get childDid = some existing ∧ existing.state ≠ .retired ∧
        after = registry.setState existing .active := by
  unfold cancelRetirement at written
  split at written
  · cases written
    exact .inl rfl
  · rename_i existing found
    simp only [bind_eq_ok, require_eq_ok, exists_const] at written
    obtain ⟨_, live, written⟩ := written
    split at written
    · cases written
      exact .inl rfl
    · cases written
      exact .inr ⟨existing, found, live, rfl⟩

theorem retire_eq_ok {result : Bool}
    (written : registry.retire host childName childDid = .ok (result, after)) :
    after = registry ∨
      ∃ existing, registry.records.get childDid = some existing ∧ existing.state ≠ .retired ∧
        after = registry.setState existing .retired := by
  unfold retire at written
  split at written
  · cases written
    exact .inl rfl
  · rename_i existing found
    simp only [bind_eq_ok, require_eq_ok, exists_const] at written
    obtain ⟨_, written⟩ := written
    split at written
    · cases written
      exact .inl rfl
    · rename_i live
      cases written
      exact .inr ⟨existing, found, live, rfl⟩

end Mutations

/-! ## Who holds a claim -/

/-- The claim of a child whose record is not retired. -/
def claimOf (host : Host) (registry : Registry) (childDid : String) : Option Claim :=
  ((registry.records.get childDid).filter (·.live)).map (·.claim host)

theorem mem_occupied_of_claimOf {claim : Claim} (held : registry.claimOf host childDid = some claim)
    : claim ∈ registry.occupied host := by
  obtain ⟨witness, found, rfl⟩ := Option.map_eq_some_iff.mp held
  obtain ⟨found, live⟩ := Option.filter_eq_some_iff.mp found
  refine mem_append_right _ (mem_map_of_mem ?_)
  exact mem_filter.mpr ⟨mem_of_get found, live⟩

theorem mem_occupied_of_pending
    (found : registry.pending.get reservationId = some reservation) :
    reservation.claim host ∈ registry.occupied host :=
  mem_append_left _ (mem_map_of_mem (mem_of_get found))

/-- A mutation that hands no claim over. -/
structure Keeps (host : Host) (before after : Registry) : Prop where
  pending : after.pending = before.pending
  claimOf : ∀ childDid, after.claimOf host childDid = before.claimOf host childDid
  frees : Frees host before after
  final : KeepsFinal before after

theorem Keeps.refl (registry : Registry) : Keeps host registry registry :=
  ⟨rfl, fun _ => rfl, .refl registry, .refl registry⟩

theorem Keeps.trans (first : Keeps host before middle) (second : Keeps host middle after)
    : Keeps host before after where
  pending := second.pending.trans first.pending
  claimOf := fun childDid => (second.claimOf childDid).trans (first.claimOf childDid)
  frees := first.frees.trans second.frees
  final := first.final.trans second.final

theorem keeps_record (witness : Witness)
    (found : registry.records.get witness.childDid = some existing) (live : existing.live = true)
    (live' : witness.live = true) (same : witness.claim host = existing.claim host) :
    Keeps host registry { registry with records := registry.records.put witness } where
  pending := rfl
  claimOf := by
    intro childDid
    unfold Registry.claimOf
    by_cases this : childDid = witness.childDid
    · subst this
      rw [get_put_self, found, Option.filter_some_pos live',
        Option.filter_some_pos live, Option.map_some, Option.map_some, same]
    · rw [get_put_of_ne this]
  frees := frees_record witness found (by simp [claims, live, live', same])
  final := keepsFinal_put witness found (by simpa [Witness.live] using live)

theorem live_of_ne (live : witness.state ≠ .retired) : witness.live = true := by
  simpa [Witness.live] using live

theorem keeps_setState {state : AuthorityState}
    (found : registry.records.get existing.childDid = some existing)
    (live : existing.state ≠ .retired) (live' : state ≠ .retired) :
    Keeps host registry (registry.setState existing state) :=
  keeps_record (existing.withState state) found (live_of_ne live) (live_of_ne live') rfl

theorem claimOf_put (witness : Witness) (live : witness.live = true) :
    claimOf host { registry with records := registry.records.put witness } witness.childDid =
      some (witness.claim host) := by
  simp [claimOf, live]

theorem claimOf_put_of_ne (witness : Witness) (other : childDid ≠ witness.childDid) :
    claimOf host { registry with records := registry.records.put witness } childDid =
      registry.claimOf host childDid := by
  unfold claimOf
  rw [get_put_of_ne other]

theorem claimOf_erase_of_ne {other : String} (distinct : other ≠ childDid) :
    claimOf host { registry with records := registry.records.erase childDid } other =
      registry.claimOf host other := by
  unfold claimOf
  rw [get_erase_of_ne distinct]

theorem keeps_beginRetirement {target : String × String}
    (unfinished : ∀ existing, registry.records.get target.2 = some existing →
      existing.state ≠ .retired) :
    Keeps host registry (beginRetirement registry target) := by
  unfold beginRetirement
  cases found : registry.records.get target.2 with
  | none => exact .refl registry
  | some existing =>
    dsimp only
    by_cases retiring : existing.state = .retiring
    · rw [if_pos retiring]
      exact .refl registry
    · rw [if_neg retiring]
      have known := found
      rw [← key_of_get found] at known
      exact keeps_setState known (unfinished existing found) (by simp)

theorem state_beginRetirement {target : String × String}
    (unfinished : ∀ existing, registry.records.get childDid = some existing →
      existing.state ≠ .retired) :
    ∀ witness, (beginRetirement registry target).records.get childDid = some witness →
      witness.state ≠ .retired := by
  unfold beginRetirement
  cases found : registry.records.get target.2 with
  | none => exact unfinished
  | some existing =>
    dsimp only
    by_cases retiring : existing.state = .retiring
    · rw [if_pos retiring]
      exact unfinished
    · rw [if_neg retiring]
      intro witness stored
      obtain rfl | ⟨old, _⟩ := mem_put.mp (mem_of_get stored)
      · simp [withState]
      · refine unfinished witness ?_
        rw [← key_of_get stored]
        exact get_of_mem old

theorem keeps_foldl_beginRetirement (targets : List (String × String)) (registry : Registry)
    (unfinished : ∀ target ∈ targets, ∀ existing,
      registry.records.get target.2 = some existing → existing.state ≠ .retired) :
    Keeps host registry (targets.foldl beginRetirement registry) := by
  induction targets generalizing registry with
  | nil => exact .refl registry
  | cons target targets ih =>
    refine (keeps_beginRetirement (unfinished target mem_cons_self)).trans (ih _ ?_)
    intro other member
    exact state_beginRetirement (unfinished other (mem_cons_of_mem _ member))

theorem keeps_admitRetirements {targets : List (String × String)}
    {results : List ((String × String) × Bool × Bool)}
    (written : registry.admitRetirements host targets = .ok (results, after)) :
    Keeps host registry after := by
  simp only [admitRetirements, bind_eq_ok] at written
  obtain ⟨_, _, _, checked, written⟩ := written
  cases written
  refine keeps_foldl_beginRetirement targets registry ?_
  intro target member existing found
  obtain ⟨result, passed⟩ := exists_of_mapM_eq_ok checked target member
  rw [checkRetirement, found] at passed
  simp only [bind_eq_ok, require_eq_ok, exists_const] at passed
  exact passed.2.1

theorem keeps_commitActiveReceipt {childName : String} {expected committed : SpawnMandate}
    {result : Witness}
    (written : registry.commitActiveReceipt host childName childDid expected committed =
      .ok (result, after)) : Keeps host registry after := by
  obtain ⟨existing, found, active, rfl⟩ := commitActiveReceipt_eq_ok written
  have live : existing.live = true := by simp [live, active]
  rw [← key_of_get found] at found
  exact keeps_record { existing with mandate := committed } found live live rfl

theorem keeps_cancelRetirement {childName : String} {result : Bool}
    (written : registry.cancelRetirement host childName childDid = .ok (result, after)) :
    Keeps host registry after := by
  obtain rfl | ⟨existing, found, live, rfl⟩ := cancelRetirement_eq_ok written
  · exact .refl after
  · rw [← key_of_get found] at found
    exact keeps_setState found live (by simp)

end Registry

end Kestrel.Spawn.Authority
