import Kestrel.Base.Run
import Mathlib.Data.Set.Insert
import Mathlib.Data.List.Nodup
import Mathlib.Logic.Function.Basic

/-!
# Successive tenures of a lease

One owner at a time admits work under a lease. When the lease lapses, the owner tells its running
work to stop, and a new owner takes the lease under an identity of its own. Histories have their
newest event first.
-/

namespace Tenure

open List Function

variable {Identity Work : Type*}

inductive Event (Identity Work : Type*) where
  /-- An owner takes the lease. -/
  | held (identity : Identity)
  /-- The owner's lease is known to be lost. -/
  | lapsed (identity : Identity)
  | told (work : Work)
  | admitted (work : Work) (identity : Identity)
  /-- Some work began to end. -/
  | finishing (work : Work)
  | closed
  deriving DecidableEq

/-- The owner whose lease is not known to be lost. -/
def tenant : List (Event Identity Work) → Option Identity
  | [] => none
  | .held identity :: _ => some identity
  | .lapsed _ :: _ => none
  | .told _ :: earlier => tenant earlier
  | .admitted _ _ :: earlier => tenant earlier
  | .finishing _ :: earlier => tenant earlier
  | .closed :: earlier => tenant earlier

/-- The identities that took the lease, the newest first. -/
def owners : List (Event Identity Work) → List Identity
  | [] => []
  | .held identity :: earlier => identity :: owners earlier
  | .lapsed _ :: earlier => owners earlier
  | .told _ :: earlier => owners earlier
  | .admitted _ _ :: earlier => owners earlier
  | .finishing _ :: earlier => owners earlier
  | .closed :: earlier => owners earlier

/-- All work that was admitted under a lapsed identity, and had not begun to end by then, was told
to stop since. -/
def Warned (history : List (Event Identity Work)) : Prop :=
  ∀ since former before, history = since ++ .lapsed former :: before →
    ∀ work, .admitted work former ∈ before → .finishing work ∈ before ∨ .told work ∈ since

/-- Every owner takes the lease under an identity of its own. Work is admitted under the identity
that holds the lease, which never lapsed, once all work of lapsed identities was told to stop. -/
structure Fenced (history : List (Event Identity Work)) : Prop where
  distinct : (owners history).Nodup
  leased : ∀ later work identity before,
    history = later ++ .admitted work identity :: before →
      tenant before = some identity ∧ .lapsed identity ∉ before
  warned : ∀ later work identity before,
    history = later ++ .admitted work identity :: before → Warned before

structure State (Identity Work : Type*) where
  owner : Identity
  lapsed : Prop
  candidate : Option Identity
  drawn : Set Identity
  known : Set Work
  /-- The identity that some work runs under, unless it began to end. -/
  running : Work → Option Identity
  closed : Prop
  history : List (Event Identity Work)

def State.initial (owner : Identity) (drawn : Set Identity) (known : Set Work) :
    State Identity Work where
  owner := owner
  lapsed := False
  candidate := none
  drawn := insert owner drawn
  known := known
  running := fun _ => none
  closed := False
  history := [.held owner]

/-- What an owner can do. -/
inductive Moves [DecidableEq Work] (state : State Identity Work) : State Identity Work → Prop where
  | lapse {fresh : Identity} {told : List Work} : ¬ state.lapsed → fresh ∉ state.drawn →
      (∀ work, state.running work = some state.owner → work ∈ told) →
      Moves state { state with
        lapsed := True
        candidate := some fresh
        drawn := insert fresh state.drawn
        history := told.map .told ++ .lapsed state.owner :: state.history }
  | propose {fresh : Identity} : fresh ∉ state.drawn →
      Moves state { state with candidate := some fresh, drawn := insert fresh state.drawn }
  | take {candidate : Identity} : state.lapsed → state.candidate = some candidate →
      Moves state { state with
        owner := candidate
        lapsed := False
        candidate := none
        history := .held candidate :: state.history }
  | start {work : Work} : work ∉ state.known →
      Moves state { state with
        known := insert work state.known
        running := Function.update state.running work (some state.owner) }
  | tell {work : Work} : Moves state { state with history := .told work :: state.history }
  | admits {work : Work} : ¬ state.lapsed → ¬ state.closed →
      state.running work = some state.owner ∨ work ∈ state.known ∧ .finishing work ∈ state.history →
      Moves state { state with history := .admitted work state.owner :: state.history }
  | finish {work : Work} :
      Moves state { state with
        running := Function.update state.running work none
        history := .finishing work :: state.history }
  | close :
      Moves state { state with
        running := fun _ => none
        closed := True
        history := .closed :: state.history }

/-- What the moves keep. -/
structure Valid (state : State Identity Work) : Prop where
  fenced : Fenced state.history
  warned : ¬ state.closed → Warned state.history
  tenant : ¬ state.lapsed → tenant state.history = some state.owner
  unlapsed : ¬ state.lapsed → .lapsed state.owner ∉ state.history
  lapsedOwners : ∀ identity, .lapsed identity ∈ state.history → identity ∈ owners state.history
  drawnOwners : ∀ identity ∈ owners state.history, identity ∈ state.drawn
  owner : state.owner ∈ owners state.history
  candidate : ∀ candidate, state.candidate = some candidate →
    candidate ∈ state.drawn ∧ candidate ∉ owners state.history
  runningKnown : ∀ work identity, state.running work = some identity → work ∈ state.known
  admittedKnown : ∀ work identity, .admitted work identity ∈ state.history → work ∈ state.known
  accounted : ¬ state.closed → ∀ work identity, .admitted work identity ∈ state.history →
    .finishing work ∈ state.history ∨ state.running work = some identity

section Histories

variable {history : List (Event Identity Work)} {event : Event Identity Work}
  {told : List Work} {identity : Identity} {work : Work}

theorem owners_append_told : owners (told.map .told ++ history) = owners history := by
  induction told with
  | nil => rfl
  | cons work told ih => exact ih

theorem Warned.cons (warned : Warned history) (kept : ∀ identity, event ≠ .lapsed identity) :
    Warned (event :: history) := by
  intro since former before split work admitted
  cases since with
  | nil => exact absurd (cons.inj split).1 (kept former)
  | cons newest since =>
    obtain ⟨_, split⟩ := cons.inj split
    exact (warned since former before split work admitted).imp_right (mem_cons_of_mem _)

theorem Warned.lapse (warned : Warned history) (tells : ∀ work, .admitted work identity ∈ history →
      .finishing work ∈ history ∨ work ∈ told) :
    Warned (told.map .told ++ .lapsed identity :: history) := by
  have lapsed : ∀ since former before, .lapsed identity :: history =
      since ++ .lapsed former :: before → ∀ work, .admitted work former ∈ before →
        .finishing work ∈ before ∨ .told work ∈ told.map .told ++ since := by
    intro since former before split work admitted
    cases since with
    | nil =>
      obtain ⟨same, rfl⟩ := cons.inj split
      cases same
      rw [append_nil]
      exact (tells work admitted).imp_right mem_map_of_mem
    | cons newest since =>
      obtain ⟨_, split⟩ := cons.inj split
      refine (warned since former before split work admitted).imp_right fun said => ?_
      exact mem_append_right _ (.tail _ said)
  intro since former before split
  rcases append_eq_append_iff.mp split with ⟨rest, rfl, beyond⟩ | ⟨rest, split', beyond⟩
  · exact lapsed rest former before beyond
  · cases rest with
    | nil =>
      rw [append_nil] at split'
      have at_lapse := lapsed [] former before beyond.symm
      rw [append_nil, split'] at at_lapse
      exact at_lapse
    | cons newest rest =>
      obtain ⟨rfl, _⟩ := cons.inj beyond
      have said : .lapsed former ∈ told.map Event.told := by
        rw [split']
        exact mem_append_right _ mem_cons_self
      obtain ⟨_, _, impossible⟩ := mem_map.mp said
      cases impossible

theorem Fenced.cons (fenced : Fenced history) (distinct : (owners (event :: history)).Nodup)
    (admits : ∀ work identity, event = .admitted work identity →
      tenant history = some identity ∧ .lapsed identity ∉ history ∧ Warned history) :
    Fenced (event :: history) where
  distinct := distinct
  leased := by
    intro later work identity before split
    cases later with
    | nil =>
      obtain ⟨same, rfl⟩ := cons.inj split
      obtain ⟨held, unlapsed, _⟩ := admits work identity same
      exact ⟨held, unlapsed⟩
    | cons newest later => exact fenced.leased later work identity before (cons.inj split).2
  warned := by
    intro later work identity before split
    cases later with
    | nil =>
      obtain ⟨same, rfl⟩ := cons.inj split
      exact (admits work identity same).2.2
    | cons newest later => exact fenced.warned later work identity before (cons.inj split).2

theorem Fenced.append_told (fenced : Fenced history) : Fenced (told.map .told ++ history) := by
  induction told with
  | nil => exact fenced
  | cons work told ih => exact ih.cons ih.distinct (fun _ _ impossible => by cases impossible)

end Histories

section Runs

variable {state after : State Identity Work}

theorem Valid.initial (owner : Identity) (drawn : Set Identity) (known : Set Work) :
    Valid (State.initial owner drawn known) where
  fenced := Fenced.cons ⟨nodup_nil, by simp, by simp⟩ (nodup_singleton owner)
    fun _ _ impossible => by cases impossible
  warned _ := Warned.cons (by simp [Warned]) fun _ impossible => by cases impossible
  tenant _ := rfl
  unlapsed _ := by simp [State.initial]
  lapsedOwners := by simp [State.initial]
  drawnOwners := by simp [State.initial, owners]
  owner := mem_singleton_self owner
  candidate := nofun
  runningKnown := nofun
  admittedKnown := by simp [State.initial]
  accounted _ := by simp [State.initial]

/-- An event that no lease begins or ends with. -/
theorem Valid.record (valid : Valid state) {event : Event Identity Work}
    (passing : ∀ identity, event ≠ .held identity ∧ event ≠ .lapsed identity)
    (admits : ∀ work identity, event = .admitted work identity →
      ¬ state.lapsed ∧ ¬ state.closed ∧ identity = state.owner ∧ work ∈ state.known ∧
        (.finishing work ∈ state.history ∨ state.running work = some identity)) :
    Valid { state with history := event :: state.history } := by
  have same : Tenure.tenant (event :: state.history) = Tenure.tenant state.history ∧
      owners (event :: state.history) = owners state.history := by
    cases event with
    | held identity => exact absurd rfl (passing identity).1
    | lapsed identity => exact absurd rfl (passing identity).2
    | told | admitted | finishing | closed => exact ⟨rfl, rfl⟩
  have earlier : ∀ identity, .lapsed identity ∈ event :: state.history →
      .lapsed identity ∈ state.history := by
    intro identity lapsed
    exact (mem_cons.mp lapsed).resolve_left fun here => (passing identity).2 here.symm
  refine { valid with fenced := ?_, warned := ?_, tenant := ?_, unlapsed := ?_,
                      lapsedOwners := ?_, drawnOwners := ?_, owner := ?_, candidate := ?_,
                      admittedKnown := ?_, accounted := ?_ }
  · refine valid.fenced.cons (by rw [same.2]; exact valid.fenced.distinct) ?_
    intro work identity admitted
    obtain ⟨held, opened, rfl, _⟩ := admits work identity admitted
    exact ⟨valid.tenant held, valid.unlapsed held, valid.warned opened⟩
  · exact fun opened => (valid.warned opened).cons fun identity => (passing identity).2
  · exact fun held => same.1.trans (valid.tenant held)
  · exact fun held lapsed => valid.unlapsed held (earlier _ lapsed)
  · intro identity lapsed
    rw [same.2]
    exact valid.lapsedOwners identity (earlier identity lapsed)
  · rw [same.2]
    exact valid.drawnOwners
  · rw [same.2]
    exact valid.owner
  · rw [same.2]
    exact valid.candidate
  · intro work identity admitted
    rcases mem_cons.mp admitted with here | admitted
    · exact (admits work identity here.symm).2.2.2.1
    · exact valid.admittedKnown work identity admitted
  · intro opened work identity admitted
    rcases mem_cons.mp admitted with here | admitted
    · exact (admits work identity here.symm).2.2.2.2.imp_left (mem_cons_of_mem _)
    · exact (valid.accounted opened work identity admitted).imp_left (mem_cons_of_mem _)

variable [DecidableEq Work]

theorem Valid.moves (valid : Valid state) (moves : Moves state after) : Valid after := by
  cases moves with
  | @lapse fresh told held unused tells =>
    have lapsing : Fenced (.lapsed state.owner :: state.history) :=
      valid.fenced.cons valid.fenced.distinct fun _ _ impossible => by cases impossible
    refine ⟨lapsing.append_told, ?_, fun unlapsed => absurd trivial unlapsed,
      fun unlapsed => absurd trivial unlapsed, ?_, ?_, ?_, ?_, valid.runningKnown, ?_, ?_⟩
    · intro opened
      refine (valid.warned opened).lapse fun work admitted => ?_
      exact (valid.accounted opened work _ admitted).imp_right (tells work)
    · intro identity lapsed
      rw [owners_append_told]
      rcases mem_append.mp lapsed with said | lapsed
      · obtain ⟨_, _, impossible⟩ := mem_map.mp said
        cases impossible
      · rcases mem_cons.mp lapsed with same | lapsed
        · cases same
          exact valid.owner
        · exact valid.lapsedOwners identity lapsed
    · intro identity held
      rw [owners_append_told] at held
      exact Set.mem_insert_of_mem _ (valid.drawnOwners identity held)
    · rw [owners_append_told]
      exact valid.owner
    · intro candidate chosen
      cases chosen
      rw [owners_append_told]
      exact ⟨Set.mem_insert _ _, fun held => unused (valid.drawnOwners _ held)⟩
    · intro work identity admitted
      refine valid.admittedKnown work identity ?_
      simpa using admitted
    · intro opened work identity admitted
      have admitted : .admitted work identity ∈ state.history := by simpa using admitted
      refine (valid.accounted opened work identity admitted).imp_left fun finishing => ?_
      exact mem_append_right _ (.tail _ finishing)
  | propose unused =>
    refine { valid with
      drawnOwners := fun identity held => Set.mem_insert_of_mem _ (valid.drawnOwners _ held)
      candidate := ?_ }
    intro candidate chosen
    cases chosen
    exact ⟨Set.mem_insert _ _, fun held => unused (valid.drawnOwners _ held)⟩
  | @take candidate lapsed chosen =>
    obtain ⟨drawn, unheld⟩ := valid.candidate candidate chosen
    refine ⟨valid.fenced.cons (nodup_cons.mpr ⟨unheld, valid.fenced.distinct⟩)
      (fun _ _ impossible => by cases impossible),
      fun opened => (valid.warned opened).cons (fun _ impossible => by cases impossible),
      fun _ => rfl, ?_, ?_, ?_, mem_cons_self, nofun, valid.runningKnown, ?_, ?_⟩
    · intro _ lapsed
      rcases mem_cons.mp lapsed with impossible | lapsed
      · cases impossible
      · exact unheld (valid.lapsedOwners candidate lapsed)
    · intro identity lapsed
      rcases mem_cons.mp lapsed with impossible | lapsed
      · cases impossible
      · exact mem_cons_of_mem _ (valid.lapsedOwners identity lapsed)
    · intro identity held
      rcases mem_cons.mp held with rfl | held
      · exact drawn
      · exact valid.drawnOwners identity held
    · intro work identity admitted
      exact valid.admittedKnown work identity (by simpa using admitted)
    · intro opened work identity admitted
      refine (valid.accounted opened work identity (by simpa using admitted)).imp_left ?_
      exact mem_cons_of_mem _
  | @start work unknown =>
    refine { valid with runningKnown := ?_, admittedKnown := ?_, accounted := ?_ }
    · intro other identity runs
      by_cases same : other = work
      · exact .inl same
      · exact .inr (valid.runningKnown other identity
          ((update_of_ne same _ _).symm.trans runs))
    · intro other identity admitted
      exact .inr (valid.admittedKnown other identity admitted)
    · intro opened other identity admitted
      have different : other ≠ work := by
        rintro rfl
        exact unknown (valid.admittedKnown _ identity admitted)
      exact (valid.accounted opened other identity admitted).imp_right fun runs =>
        (update_of_ne different _ _).trans runs
  | tell => exact valid.record (fun _ => ⟨nofun, nofun⟩) nofun
  | @admits work held opened runs =>
    refine valid.record (fun _ => ⟨nofun, nofun⟩) ?_
    intro other identity same
    cases same
    rcases runs with runs | ⟨known, finishing⟩
    · exact ⟨held, opened, rfl, valid.runningKnown _ _ runs, .inr runs⟩
    · exact ⟨held, opened, rfl, known, .inl finishing⟩
  | @finish work =>
    have recorded : Valid { state with history := .finishing work :: state.history } :=
      valid.record (fun _ => ⟨nofun, nofun⟩) nofun
    refine { recorded with runningKnown := ?_, accounted := ?_ }
    · intro other identity runs
      by_cases same : other = work
      · subst other
        exact nomatch (update_self _ _ _).symm.trans runs
      · exact valid.runningKnown other identity ((update_of_ne same _ _).symm.trans runs)
    · intro opened other identity admitted
      by_cases same : other = work
      · subst other
        exact .inl mem_cons_self
      · exact (recorded.accounted opened other identity admitted).imp_right fun runs =>
          (update_of_ne same _ _).trans runs
  | close =>
    have recorded : Valid { state with history := .closed :: state.history } :=
      valid.record (fun _ => ⟨nofun, nofun⟩) nofun
    exact { recorded with
      warned := fun opened => absurd trivial opened
      runningKnown := nofun
      accounted := fun opened => absurd trivial opened }

/-- **Whatever the owners do, admitted work is fenced.** -/
theorem Valid.run (valid : Valid state) (run : Relation.ReflTransGen Moves state after) :
    Valid after := by
  induction run with
  | refl => exact valid
  | tail _ moves ih => exact ih.moves moves

end Runs

end Tenure
