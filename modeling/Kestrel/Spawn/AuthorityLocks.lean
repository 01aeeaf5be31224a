import Kestrel.Spawn.AuthorityProcesses
import Mathlib.Tactic.SplitIfs

/-!
# The sidecar of a reservation

While a producer has the sidecar of its reservation in its hands, the path still names the file that
it opened and no reconciliation has claimed it: the files that are unlinked and created again are
those of reservations that nobody produces any more.
-/

namespace Kestrel.Spawn.Authority

open World Sidecar

namespace World

variable {world after : World} {process other inode : ℕ} {sidecar : Sidecar}
  {reservationId : String}

def Engages (world : World) (process : ℕ) (sidecar : Sidecar) : Prop :=
  world.holding process sidecar ≠ .absent

def Marks (world : World) (process : ℕ) (sidecar : Sidecar) : Prop :=
  sidecar ∈ (world.process process).unlinking ∨
    ∃ inode, (sidecar, inode) ∈ (world.process process).claimed

/-- The invariant of the sidecar of a reservation. -/
structure Custody (world : World) (reservationId : String) : Prop where
  owned : ∀ process inode, world.holding process (.pending reservationId) = .owned inode →
    (world.files (.pending reservationId)).linked = some inode ∧
      (world.files (.pending reservationId)).holder inode = some ⟨process, .owner⟩
  opened : ∀ process inode, world.holding process (.pending reservationId) = .opened inode →
    (world.files (.pending reservationId)).linked = some inode ∧ world.fate reservationId = none
  engaged : ∀ process other, world.Engages process (.pending reservationId) →
    ¬ world.Marks other (.pending reservationId)
  unique : ∀ process other, world.Engages process (.pending reservationId) →
    world.Engages other (.pending reservationId) → process = other
  drawn : reservationId ∉ world.drawn → world.fate reservationId = none ∧
    (∀ process, ¬ world.Engages process (.pending reservationId)) ∧
    ∀ process, ¬ world.Marks process (.pending reservationId)

/-! ## What the operations change -/

@[simp] theorem process_setProcess_self (new : Process) :
    (world.setProcess process new).process process = new := by
  simp [setProcess]

theorem process_setProcess_of_ne {new : Process} (distinct : other ≠ process) :
    (world.setProcess process new).process other = world.process other := by
  simp [setProcess, distinct]

@[simp] theorem files_setProcess (new : Process) :
    (world.setProcess process new).files = world.files := rfl

@[simp] theorem fate_setProcess (new : Process) :
    (world.setProcess process new).fate = world.fate := rfl

@[simp] theorem drawn_setProcess (new : Process) :
    (world.setProcess process new).drawn = world.drawn := rfl

@[simp] theorem files_setFile_self (file : LockFile Handle) :
    (world.setFile sidecar file).files sidecar = file := by
  simp [setFile]

variable {file locked : LockFile Handle} {third : Sidecar} {holding : Holding} {unlink : Bool}

theorem files_setFile_of_ne (distinct : third ≠ sidecar) :
    (world.setFile sidecar file).files third = world.files third := by
  simp [setFile, distinct]

@[simp] theorem process_setFile (file : LockFile Handle) :
    (world.setFile sidecar file).process = world.process := rfl

@[simp] theorem holding_setFile (file : LockFile Handle) (third : Sidecar) :
    (world.setFile sidecar file).holding process third = world.holding process third := rfl

@[simp] theorem fate_setFile (file : LockFile Handle) :
    (world.setFile sidecar file).fate = world.fate := rfl

@[simp] theorem drawn_setFile (file : LockFile Handle) :
    (world.setFile sidecar file).drawn = world.drawn := rfl

@[simp] theorem files_setHolding (holding : Holding) :
    (world.setHolding process sidecar holding).files = world.files := rfl

@[simp] theorem fate_setHolding (holding : Holding) :
    (world.setHolding process sidecar holding).fate = world.fate := rfl

@[simp] theorem drawn_setHolding (holding : Holding) :
    (world.setHolding process sidecar holding).drawn = world.drawn := rfl

@[simp] theorem holding_setHolding_self (holding : Holding) :
    (world.setHolding process sidecar holding).holding process sidecar = holding := by
  simp [World.holding, setHolding]

theorem holding_setHolding_of_ne (distinct : third ≠ sidecar) :
    (world.setHolding process sidecar holding).holding other third =
      world.holding other third := by
  unfold World.holding setHolding
  by_cases same : other = process
  · subst same
    simp [distinct]
  · rw [process_setProcess_of_ne same]

theorem holding_setHolding_of_other (distinct : other ≠ process) :
    (world.setHolding process sidecar holding).holding other sidecar =
      world.holding other sidecar := by
  unfold World.holding setHolding
  rw [process_setProcess_of_ne distinct]

@[simp] theorem marks_setHolding :
    (world.setHolding process sidecar holding).Marks other third ↔ world.Marks other third := by
  unfold Marks setHolding
  by_cases same : other = process
  · subst same
    simp
  · rw [process_setProcess_of_ne same]

@[simp] theorem marks_setFile :
    (world.setFile sidecar file).Marks other third ↔ world.Marks other third := Iff.rfl

/-! ## Frames -/

theorem Custody.frame (custody : world.Custody reservationId)
    (files : after.files (.pending reservationId) = world.files (.pending reservationId))
    (holding : ∀ process, after.holding process (.pending reservationId) =
      world.holding process (.pending reservationId))
    (marks : ∀ process, after.Marks process (.pending reservationId) →
      world.Marks process (.pending reservationId))
    (fate : after.fate reservationId = world.fate reservationId)
    (drawn : world.drawn ⊆ after.drawn) : after.Custody reservationId where
  owned := by
    intro process inode held
    rw [files]
    exact custody.owned process inode ((holding process).symm.trans held)
  opened := by
    intro process inode held
    rw [files, fate]
    exact custody.opened process inode ((holding process).symm.trans held)
  engaged := by
    intro process other engaged marked
    rw [Engages, holding] at engaged
    exact custody.engaged process other engaged (marks other marked)
  unique := by
    intro process other engaged engaged'
    rw [Engages, holding] at engaged engaged'
    exact custody.unique process other engaged engaged'
  drawn := by
    intro fresh
    obtain ⟨unwritten, free, unmarked⟩ := custody.drawn fun known => fresh (drawn known)
    refine ⟨fate.trans unwritten, ?_, fun process marked => unmarked process (marks process marked)⟩
    intro process engaged
    rw [Engages, holding] at engaged
    exact free process engaged

theorem Custody.of_free (free : ∀ process, ¬ world.Engages process (.pending reservationId))
    (drawn : reservationId ∈ world.drawn) : world.Custody reservationId where
  owned := by
    intro process inode held
    exact absurd held (by simp [not_not.mp (free process)])
  opened := by
    intro process inode held
    exact absurd held (by simp [not_not.mp (free process)])
  engaged := fun process _ engaged => absurd engaged (free process)
  unique := fun process _ engaged => absurd engaged (free process)
  drawn := fun fresh => absurd drawn fresh

theorem Custody.mem_drawn (custody : world.Custody reservationId)
    (known : world.Engages process (.pending reservationId) ∨
      world.Marks process (.pending reservationId)) : reservationId ∈ world.drawn := by
  by_contra fresh
  obtain ⟨_, free, unmarked⟩ := custody.drawn fresh
  obtain engaged | marked := known
  · exact free process engaged
  · exact unmarked process marked

theorem Custody.mem_drawn_of_written (custody : world.Custody reservationId)
    (written : world.fate reservationId ≠ none) : reservationId ∈ world.drawn := by
  by_contra fresh
  exact written (custody.drawn fresh).1

theorem Custody.free_of_marks (custody : world.Custody reservationId)
    (marked : world.Marks process (.pending reservationId)) :
    ∀ other, ¬ world.Engages other (.pending reservationId) :=
  fun other engaged => custody.engaged other process engaged marked

/-! ## Producers -/

section

variable (custody : world.Custody reservationId)

include custody

theorem Custody.openSidecar {sidecar : Sidecar} (other : pending reservationId ≠ sidecar) :
    (world.openSidecar process sidecar).Custody reservationId := by
  refine custody.frame ?_ (fun _ => ?_) (fun _ => ?_) rfl (fun _ known => known)
  · simp [World.openSidecar, files_setFile_of_ne other]
  · rw [World.openSidecar, holding_setHolding_of_ne other, holding_setFile]
  · simp [World.openSidecar]

theorem Custody.draw (drawnId : String) :
    ({ world with drawn := drawnId :: world.drawn } : World).Custody reservationId :=
  custody.frame rfl (fun _ => rfl) (fun _ marked => marked) rfl
    (fun _ known => List.mem_cons_of_mem _ known)

theorem Custody.openFresh (fresh : reservationId ∉ world.drawn) :
    ({ world with drawn := reservationId :: world.drawn }.openSidecar process
      (.pending reservationId) : World).Custody reservationId := by
  obtain ⟨unwritten, free, unmarked⟩ := custody.drawn fresh
  have alone : ∀ other, ({ world with drawn := reservationId :: world.drawn }.openSidecar process
      (.pending reservationId) : World).Engages other (.pending reservationId) →
      other = process := by
    intro other engaged
    by_contra distinct
    rw [Engages, World.openSidecar, holding_setHolding_of_other distinct, holding_setFile]
      at engaged
    exact free other engaged
  refine ⟨?_, ?_, ?_, ?_, ?_⟩
  · intro other inode held
    obtain rfl := alone other (by rw [Engages, held]; simp)
    rw [World.openSidecar, holding_setHolding_self] at held
    cases held
  · intro other inode held
    obtain rfl := alone other (by rw [Engages, held]; simp)
    rw [World.openSidecar, holding_setHolding_self] at held
    cases held
    exact ⟨by simp [World.openSidecar], unwritten⟩
  · intro _ other _ marked
    simp only [World.openSidecar, marks_setHolding, marks_setFile] at marked
    exact unmarked other marked
  · intro first second engaged engaged'
    exact (alone first engaged).trans (alone second engaged').symm
  · intro known
    exact absurd List.mem_cons_self known

theorem Custody.lockSidecar (held : world.holding process sidecar = .opened inode)
    (claimed : (world.files sidecar).tryLock inode ⟨process, .owner⟩ = some locked) :
    ((world.setFile sidecar locked).setHolding process sidecar (.owned inode)).Custody
      reservationId := by
  obtain ⟨_, rfl⟩ := LockFile.tryLock_eq_some.mp claimed
  by_cases same : pending reservationId = sidecar
  · subst same
    have engaged : world.Engages process (.pending reservationId) := by
      rw [Engages, held]
      simp
    have alone : ∀ other, other ≠ process → ¬ world.Engages other (.pending reservationId) :=
      fun other distinct engaged' => distinct (custody.unique other process engaged' engaged)
    refine ⟨?_, ?_, ?_, ?_, ?_⟩
    · intro other inode' owned
      by_cases this : other = process
      · subst this
        rw [holding_setHolding_self] at owned
        cases owned
        simpa using (custody.opened other _ held).1
      · rw [holding_setHolding_of_other this, holding_setFile] at owned
        exact absurd (by rw [Engages, owned]; simp) (alone other this)
    · intro other inode' opened
      by_cases this : other = process
      · subst this
        rw [holding_setHolding_self] at opened
        cases opened
      · rw [holding_setHolding_of_other this, holding_setFile] at opened
        exact absurd (by rw [Engages, opened]; simp) (alone other this)
    · intro _ other _ marked
      simp only [marks_setHolding, marks_setFile] at marked
      exact custody.engaged process other engaged marked
    · have only : ∀ file other, ((world.setFile (.pending reservationId) file).setHolding process
          (.pending reservationId) (.owned inode)).Engages other (.pending reservationId) →
          other = process := by
        intro file other engaged'
        by_contra this
        rw [Engages, holding_setHolding_of_other this, holding_setFile] at engaged'
        exact alone other this engaged'
      intro first second engaged' engaged''
      exact (only _ first engaged').trans (only _ second engaged'').symm
    · intro fresh
      exact absurd (custody.mem_drawn (.inl engaged)) fresh
  · refine custody.frame ?_ (fun _ => ?_) (fun _ => ?_) rfl (fun _ known => known)
    · simp [files_setFile_of_ne same]
    · rw [holding_setHolding_of_ne same, holding_setFile]
    · simp

end

theorem holding_release_self :
    (world.release process sidecar inode unlink).holding process sidecar = .absent := by
  unfold release
  cases unlink with
  | false => simp
  | true => simp [holding, setHolding]

theorem holding_release_of_other (distinct : other ≠ process) :
    (world.release process sidecar inode unlink).holding other third =
      world.holding other third := by
  unfold release holding setHolding
  cases unlink with
  | false | true => simp [process_setProcess_of_ne distinct]

theorem holding_release_of_ne (distinct : third ≠ sidecar) :
    (world.release process sidecar inode unlink).holding other third =
      world.holding other third := by
  by_cases same : other = process
  · subst same
    unfold release holding setHolding
    cases unlink with
    | false | true => simp [distinct]
  · exact holding_release_of_other same

theorem marks_release (distinct : third ≠ sidecar)
    (marked : (world.release process sidecar inode unlink).Marks other third) :
    world.Marks other third := by
  unfold release at marked
  cases unlink with
  | false => simpa using marked
  | true =>
    by_cases same : other = process
    · subst same
      simpa [Marks, setHolding, distinct] using marked
    · simpa [Marks, setHolding, process_setProcess_of_ne same] using marked

theorem Custody.release (custody : world.Custody reservationId)
    (held : world.holding process sidecar = .owned inode) :
    (world.release process sidecar inode unlink).Custody reservationId := by
  by_cases same : pending reservationId = sidecar
  · subst same
    have engaged : world.Engages process (.pending reservationId) := by
      rw [Engages, held]
      simp
    refine .of_free ?_ ?_
    · intro other engaged'
      by_cases this : other = process
      · subst this
        exact engaged' holding_release_self
      · rw [Engages, holding_release_of_other this] at engaged'
        exact this (custody.unique other process engaged' engaged)
    · have drawn := custody.mem_drawn (.inl engaged)
      cases unlink <;> exact drawn
  · refine custody.frame ?_ (fun _ => holding_release_of_ne same)
      (fun _ marked => marks_release same marked) ?_ ?_
    · cases unlink <;> simp [release, files_setFile_of_ne same]
    · cases unlink <;> rfl
    · cases unlink <;> exact fun _ known => known

/-! ## Reconciliations -/

theorem Custody.free_of_probe {handle : Handle} (custody : world.Custody reservationId)
    (written : world.fate reservationId ≠ none)
    (claimed : (world.files (.pending reservationId)).openOrCreate.2.tryLock
      (world.files (.pending reservationId)).openOrCreate.1 handle = some locked) :
    ∀ other, ¬ world.Engages other (.pending reservationId) := by
  intro other engaged
  cases held : world.holding other (.pending reservationId) with
  | absent => exact engaged held
  | opened inode => exact written (custody.opened other inode held).2
  | owned inode =>
    obtain ⟨linked, holder⟩ := custody.owned other inode held
    rw [LockFile.openOrCreate_of_linked linked, LockFile.tryLock_eq_some] at claimed
    rw [holder] at claimed
    cases claimed.1

theorem Custody.probe (custody : world.Custody reservationId)
    (written : world.fate reservationId ≠ none) :
    (world.setFile (.pending reservationId)
      (world.files (.pending reservationId)).openOrCreate.2).Custody reservationId where
  owned := by
    intro process inode held
    obtain ⟨linked, holder⟩ := custody.owned process inode held
    rw [files_setFile_self, LockFile.openOrCreate_of_linked linked]
    exact ⟨linked, holder⟩
  opened := fun process inode held => absurd (custody.opened process inode held).2 written
  engaged := custody.engaged
  unique := custody.unique
  drawn := custody.drawn

theorem Custody.setFile (custody : world.Custody reservationId)
    (other : pending reservationId ≠ sidecar) :
    (world.setFile sidecar file).Custody reservationId :=
  custody.frame (files_setFile_of_ne other) (fun _ => rfl) (fun _ marked => marked) rfl
    (fun _ known => known)

theorem holding_claim : (world.claim process sidecar inode locked).holding other third =
      world.holding other third := by
  unfold claim holding
  by_cases same : other = process
  · subst same
    simp
  · rw [process_setProcess_of_ne same, process_setFile]

theorem Custody.claim (custody : world.Custody reservationId)
    (free : pending reservationId = sidecar →
      ∀ other, ¬ world.Engages other (.pending reservationId))
    (drawn : pending reservationId = sidecar → reservationId ∈ world.drawn) :
    (world.claim process sidecar inode locked).Custody reservationId := by
  by_cases same : pending reservationId = sidecar
  · refine .of_free ?_ (drawn same)
    intro other engaged
    rw [Engages, holding_claim] at engaged
    exact free same other engaged
  · refine custody.frame ?_ (fun _ => holding_claim) ?_ rfl (fun _ known => known)
    · simp [World.claim, files_setFile_of_ne same]
    · intro other marked
      unfold World.claim at marked
      by_cases this : other = process
      · subst this
        simpa [Marks, same] using marked
      · simpa [Marks, process_setProcess_of_ne this] using marked

theorem holding_dropClaim {rest : List (Sidecar × ℕ)} :
    (world.dropClaim process sidecar inode rest).holding other third =
      world.holding other third := by
  unfold dropClaim holding
  by_cases this : other = process
  · subst this
    simp
  · rw [process_setProcess_of_ne this, process_setFile]

theorem holding_unlinkSidecar :
    (world.unlinkSidecar process sidecar).holding other third = world.holding other third := by
  unfold unlinkSidecar holding
  by_cases this : other = process
  · subst this
    simp
  · rw [process_setProcess_of_ne this, process_setFile]

theorem Custody.dropClaim {rest : List (Sidecar × ℕ)} (custody : world.Custody reservationId)
    (held : (world.process process).claimed = (sidecar, inode) :: rest) :
    (world.dropClaim process sidecar inode rest).Custody reservationId := by
  have marked : world.Marks process sidecar := .inr ⟨inode, by simp [held]⟩
  by_cases same : pending reservationId = sidecar
  · subst same
    refine .of_free ?_ (custody.mem_drawn (.inr marked))
    intro other engaged
    rw [Engages, holding_dropClaim] at engaged
    exact custody.free_of_marks marked other engaged
  · refine custody.frame ?_ (fun _ => holding_dropClaim) ?_ rfl (fun _ known => known)
    · simp [World.dropClaim, files_setFile_of_ne same]
    · intro other marked
      unfold World.dropClaim at marked
      by_cases this : other = process
      · subst this
        obtain listed | ⟨inode', kept⟩ := marked
        · rw [process_setProcess_self, List.mem_cons] at listed
          exact .inl (listed.resolve_left same)
        · rw [process_setProcess_self] at kept
          exact .inr ⟨inode', by rw [held]; exact List.mem_cons_of_mem _ kept⟩
      · simpa [Marks, process_setProcess_of_ne this] using marked

theorem Custody.unlinkSidecar (custody : world.Custody reservationId)
    (owed : sidecar ∈ (world.process process).unlinking) :
    (world.unlinkSidecar process sidecar).Custody reservationId := by
  by_cases same : pending reservationId = sidecar
  · subst same
    have marked : world.Marks process (.pending reservationId) := .inl owed
    refine .of_free ?_ (custody.mem_drawn (.inr marked))
    intro other engaged
    rw [Engages, holding_unlinkSidecar] at engaged
    exact custody.free_of_marks marked other engaged
  · refine custody.frame ?_ (fun _ => holding_unlinkSidecar) ?_ rfl (fun _ known => known)
    · simp [World.unlinkSidecar, files_setFile_of_ne same]
    · intro other marked
      unfold World.unlinkSidecar at marked
      by_cases this : other = process
      · subst this
        obtain listed | kept := marked
        · rw [process_setProcess_self] at listed
          exact .inl (List.mem_of_mem_erase listed)
        · rw [process_setProcess_self] at kept
          exact .inr kept
      · simpa [Marks, process_setProcess_of_ne this] using marked

theorem holding_die_of_ne (distinct : other ≠ process) :
    (world.die process).holding other third = world.holding other third := by
  simp [die, holding, distinct]

theorem engages_die (engaged : (world.die process).Engages other third) :
    other ≠ process ∧ world.Engages other third := by
  by_cases this : other = process
  · subst this
    simp [die, holding, Engages, Process.idle] at engaged
  · exact ⟨this, by rwa [Engages, holding_die_of_ne this] at engaged⟩

theorem Custody.die (custody : world.Custody reservationId) :
    (world.die process).Custody reservationId := by
  have marks : ∀ other, (world.die process).Marks other (.pending reservationId) →
      world.Marks other (.pending reservationId) := by
    intro other marked
    by_cases this : other = process
    · subst this
      simp [die, Marks, Process.idle] at marked
    · simpa [World.die, Marks, this] using marked
  refine ⟨?_, ?_, ?_, ?_, ?_⟩
  · intro other inode held
    obtain ⟨distinct, _⟩ := engages_die (by rw [Engages, held]; simp)
    rw [holding_die_of_ne distinct] at held
    obtain ⟨linked, holder⟩ := custody.owned other inode held
    exact ⟨linked, by simp [World.die, holder, distinct]⟩
  · intro other inode held
    obtain ⟨distinct, _⟩ := engages_die (by rw [Engages, held]; simp)
    rw [holding_die_of_ne distinct] at held
    exact custody.opened other inode held
  · intro first second engaged marked
    exact custody.engaged first second (engages_die engaged).2 (marks second marked)
  · intro first second engaged engaged'
    exact custody.unique first second (engages_die engaged).2 (engages_die engaged').2
  · intro fresh
    obtain ⟨unwritten, free, unmarked⟩ := custody.drawn fresh
    exact ⟨unwritten, fun other engaged => free other (engages_die engaged).2,
      fun other marked => unmarked other (marks other marked)⟩

end World

end Kestrel.Spawn.Authority
