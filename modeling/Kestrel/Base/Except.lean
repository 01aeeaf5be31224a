import Mathlib.Data.List.Forall2
import Mathlib.Logic.Function.Basic
import Mathlib.Tactic.TypeStar
import Mathlib.Tactic.Cases

/-! # Runs of a fallible computation that succeed -/

namespace Except

open List

universe u

variable {Error State Value : Type*}

theorem bind_eq_ok {Middle Result : Type u} {first : Except Error Middle}
    {next : Middle → Except Error Result}
    {result : Result} :
    (first >>= next) = .ok result ↔ ∃ value, first = .ok value ∧ next value = .ok result := by
  cases first with
  | error error =>
    constructor
    · intro impossible
      cases impossible
    · rintro ⟨value, impossible, _⟩
      cases impossible
  | ok value =>
    constructor
    · intro succeeded
      exact ⟨value, rfl, succeeded⟩
    · rintro ⟨_, same, succeeded⟩
      cases same
      exact succeeded

variable {First Second : Type u} {change : First → Second} {computed : Except Error First}
  {values : List Value} {Result : Type*} {step : State → Except Error Result} {before : State}

theorem ok_bind {Result : Type u} (value : First) (next : First → Except Error Result) :
    ((.ok value : Except Error First) >>= next) = next value := rfl

/-- A check that fails with an error. -/
def require (condition : Prop) [Decidable condition] (error : Error) : Except Error Unit :=
  if condition then .ok () else .error error

/-- A check succeeds exactly when its condition holds. -/
theorem require_eq_ok {condition : Prop} [Decidable condition] {error : Error} {value : Unit} :
    require condition error = .ok value ↔ condition := by
  unfold require
  split_ifs with holds
  · exact iff_of_true rfl holds
  · exact iff_of_false (fun impossible => nomatch impossible) holds

theorem require_bind_eq_ok {Error Result : Type} {condition : Prop} [Decidable condition]
    {error : Error} {next : Unit → Except Error Result} {result : Result} :
    (require condition error >>= next) = .ok result ↔ condition ∧ next () = .ok result := by
  unfold require
  by_cases holds : condition
  · rw [if_pos holds]
    exact (and_iff_right holds).symm
  · rw [if_neg holds]
    refine iff_of_false ?_ (fun found => holds found.1)
    intro impossible
    cases impossible

theorem map_eq_ok {result : Second} :
    computed.map change = .ok result ↔ ∃ first, computed = .ok first ∧ change first = result := by
  cases computed with
  | error error =>
    refine iff_of_false ?_ ?_
    · intro impossible
      cases impossible
    · rintro ⟨_, impossible, _⟩
      cases impossible
  | ok first =>
    constructor
    · intro mapped
      exact ⟨first, rfl, Except.ok.inj mapped⟩
    · rintro ⟨_, same, mapped⟩
      cases same
      exact congrArg Except.ok mapped

theorem map_fst_eq_ok {computed : Except Error (First × Second)} {first : First}
    (mapped : computed.map Prod.fst = .ok first) :
    ∃ second, computed = .ok (first, second) := by
  cases computed with
  | error _ => cases mapped
  | ok pair =>
    cases mapped
    exact ⟨pair.2, rfl⟩

theorem map_eq_ok_of_injective (injective : Function.Injective change) {first : First}
    (mapped : computed.map change = .ok (change first)) : computed = .ok first := by
  cases computed with
  | error _ => cases mapped
  | ok value => exact congrArg Except.ok (injective (Except.ok.inj mapped))

/-- A map of a result fails only where the result does. -/
theorem map_eq_error {error : Error} (mapped : computed.map change = .error error) :
    computed = .error error := by
  cases computed with
  | error _ =>
    cases mapped
    rfl
  | ok value => cases mapped

theorem forM_eq_ok {check : Value → Except Error Unit} :
    values.forM check = .ok () ↔ ∀ value ∈ values, check value = .ok () := by
  induction values with
  | nil =>
    refine iff_of_true rfl ?_
    intro value member
    cases member
  | cons first values ih =>
    change (check first >>= fun _ => values.forM check) = .ok () ↔ _
    rw [bind_eq_ok, forall_mem_cons, ← ih]
    constructor
    · intro found
      obtain ⟨_, head, tail⟩ := found
      exact ⟨head, tail⟩
    · intro found
      exact ⟨(), found.1, found.2⟩

theorem mapM_eq_ok {values : List State} {results : List Result} : values.mapM step = .ok results ↔
      Forall₂ (fun value result => step value = .ok result) values results := by
  induction values generalizing results with
  | nil =>
    rw [mapM_nil, forall₂_nil_left_iff]
    constructor
    · intro mapped
      cases mapped
      rfl
    · intro empty
      rw [empty]
      rfl
  | cons value values ih =>
    rw [mapM_cons, forall₂_cons_left_iff, bind_eq_ok]
    constructor
    · intro found
      obtain ⟨first, stepped, found⟩ := found
      obtain ⟨rest, mapped, found⟩ := bind_eq_ok.mp found
      cases found
      exact ⟨first, rest, stepped, ih.mp mapped, rfl⟩
    · intro found
      obtain ⟨first, rest, stepped, mapped, rfl⟩ := found
      exact ⟨first, stepped, bind_eq_ok.mpr ⟨rest, ih.mpr mapped, rfl⟩⟩

theorem exists_of_mapM_eq_ok {values : List State} {results : List Result}
    (mapped : values.mapM step = .ok results) :
    ∀ value ∈ values, ∃ result, step value = .ok result := by
  have related := mapM_eq_ok.mp mapped
  clear mapped
  induction related with
  | nil => simp
  | cons first _ ih => exact forall_mem_cons.mpr ⟨⟨_, first⟩, ih⟩

theorem exists_mapM_eq_ok {values : List State}
    (steps : ∀ value ∈ values, ∃ result, step value = .ok result) :
    ∃ results, values.mapM step = .ok results := by
  induction values with
  | nil => exact ⟨[], rfl⟩
  | cons value values ih =>
    obtain ⟨first, stepped⟩ := steps value mem_cons_self
    obtain ⟨rest, mapped⟩ := ih fun other member => steps other (mem_cons_of_mem _ member)
    exact ⟨first :: rest, mapM_eq_ok.mpr (.cons stepped (mapM_eq_ok.mp mapped))⟩

theorem foldlM_relates {step : State → Value → Except Error State}
    {relates : State → State → Prop} (refl : ∀ state, relates state state)
    (trans : ∀ {first second third}, relates first second → relates second third →
      relates first third)
    {values : List Value} {before after : State}
    (respects : ∀ before value after, value ∈ values → step before value = .ok after →
      relates before after)
    (folded : values.foldlM step before = .ok after) : relates before after := by
  induction values generalizing before with
  | nil =>
    cases folded
    exact refl _
  | cons value values ih =>
    rw [foldlM_cons, bind_eq_ok] at folded
    obtain ⟨middle, stepped, folded⟩ := folded
    exact trans (respects _ _ _ mem_cons_self stepped) (ih (fun before value after member =>
        respects before value after (mem_cons_of_mem _ member)) folded)

theorem foldlM_invariant {step : State → Value → Except Error State} {holds : State → Prop}
    (preserved : ∀ before value after, value ∈ values → holds before →
      step before value = .ok after → holds after) {after : State} (initial : holds before)
    (folded : values.foldlM step before = .ok after) : holds after := by
  induction values generalizing before with
  | nil =>
    cases folded
    exact initial
  | cons value values ih =>
    rw [foldlM_cons, bind_eq_ok] at folded
    obtain ⟨middle, stepped, folded⟩ := folded
    exact ih (fun before value after member => preserved before value after (by simp [member]))
      (preserved before value middle (by simp) initial stepped) folded

/-- A fold that succeeds keeps every predicate of the values it went through and the state that
the steps it takes keep. -/
theorem foldlM_induction {step : State → Value → Except Error State}
    {holds : List Value → State → Prop} {before : State} {values : List Value}
    (preserved : ∀ processed value rest middle after, values = processed ++ value :: rest →
      processed.foldlM step before = .ok middle → holds processed middle →
      step middle value = .ok after → holds (processed ++ [value]) after)
    (initial : holds [] before) {after : State} (folded : values.foldlM step before = .ok after) :
    holds values after := by
  have prefixes : ∀ rest processed middle, values = processed ++ rest →
      processed.foldlM step before = .ok middle → holds processed middle →
      rest.foldlM step middle = .ok after → holds values after := by
    intro rest
    induction rest with
    | nil =>
      intro processed middle split _ valid finished
      cases finished
      rw [split, append_nil]
      exact valid
    | cons value rest ih =>
      intro processed middle split reached valid folded
      rw [foldlM_cons, bind_eq_ok] at folded
      obtain ⟨next, stepped, folded⟩ := folded
      refine ih (processed ++ [value]) next ?_ ?_
        (preserved processed value rest middle next split reached valid stepped) folded
      · rw [split, append_assoc, singleton_append]
      · rw [foldlM_append, bind_eq_ok]
        refine ⟨middle, reached, ?_⟩
        rw [foldlM_cons, bind_eq_ok]
        exact ⟨next, stepped, rfl⟩
  exact prefixes values [] before rfl rfl initial folded

/-- A fold succeeds where its steps do from every state that a predicate of the values it went
through allows, and then the predicate holds at its end. -/
theorem exists_foldlM_eq_ok {step : State → Value → Except Error State}
    (holds : List Value → State → Prop) (values : List Value) (initial : holds [] before)
    (steps : ∀ processed value rest state, values = processed ++ value :: rest →
      holds processed state →
      ∃ next, step state value = .ok next ∧ holds (processed ++ [value]) next) :
    ∃ after, values.foldlM step before = .ok after ∧ holds values after := by
  have suffixes : ∀ rest processed state, values = processed ++ rest → holds processed state →
      ∃ after, rest.foldlM step state = .ok after ∧ holds values after := by
    intro rest
    induction rest with
    | nil =>
      intro processed state same valid
      rw [same, append_nil]
      exact ⟨state, rfl, valid⟩
    | cons value rest ih =>
      intro processed state same valid
      obtain ⟨next, stepped, valid⟩ := steps processed value rest state same valid
      obtain ⟨after, folded, finished⟩ :=
        ih (processed ++ [value]) next (same.trans (append_cons processed value rest)) valid
      exact ⟨after, bind_eq_ok.mpr ⟨next, stepped, folded⟩, finished⟩
  exact suffixes values [] before rfl initial

theorem foldlM_establishes {step : State → Value → Except Error State}
    {relates : State → State → Prop} {done : State → Value → Prop}
    (refl : ∀ state, relates state state)
    (trans : ∀ {first second third}, relates first second → relates second third →
      relates first third)
    (kept : ∀ {before value after}, done before value → relates before after → done after value)
    {after : State}
    (respects : ∀ before value after, value ∈ values → step before value = .ok after →
      relates before after)
    (established : ∀ before value after, value ∈ values → step before value = .ok after →
      done after value) (folded : values.foldlM step before = .ok after)
    : ∀ value ∈ values, done after value := by
  induction values generalizing before with
  | nil => intro value member; cases member
  | cons first values ih =>
    rw [foldlM_cons, bind_eq_ok] at folded
    obtain ⟨middle, stepped, folded⟩ := folded
    have later : ∀ before value after, value ∈ values → step before value = .ok after →
        relates before after := fun before value after member =>
      respects before value after (mem_cons_of_mem _ member)
    intro value member
    rcases mem_cons.mp member with rfl | member
    · exact kept (established _ _ _ mem_cons_self stepped) (foldlM_relates refl trans later folded)
    · exact ih later (fun before value after member =>
        established before value after (mem_cons_of_mem _ member)) folded value member

theorem foldlM_collects {step : List Result → Value → Except Error (List Result)}
    {collect : Value → Result} (steps : ∀ before value after, values = before ++ value :: after →
      step (before.map collect) value = .ok ((before ++ [value]).map collect)) :
    values.foldlM step [] = .ok (values.map collect) := by
  have continued : ∀ rest before, values = before ++ rest →
      rest.foldlM step (before.map collect) = .ok (values.map collect) := by
    intro rest
    induction rest with
    | nil =>
      intro before same
      rw [same, append_nil]
      rfl
    | cons value rest ih =>
      intro before same
      rw [foldlM_cons, bind_eq_ok]
      exact ⟨_, steps before value rest same, ih _ (by rw [same, append_cons])⟩
  exact continued values [] rfl

/-- A fold whose every step goes through exactly when its value is ready at its turn goes through
exactly when every value is. -/
theorem foldlM_succeeds_iff {step : State → Value → Except Error State}
    {holds : List Value → State → Prop} {ready : List Value → Value → Prop} {values : List Value}
    (steps : ∀ processed value rest state, values = processed ++ value :: rest →
      holds processed state →
      (∀ next, step state value = .ok next →
        ready processed value ∧ holds (processed ++ [value]) next) ∧
      (ready processed value → ∃ next, step state value = .ok next))
    {before : State} (initial : holds [] before) :
    (∀ after, values.foldlM step before = .ok after → holds values after) ∧
      ((∃ after, values.foldlM step before = .ok after) ↔
        ∀ processed value rest, values = processed ++ value :: rest → ready processed value) := by
  have continued : ∀ rest processed state, values = processed ++ rest → holds processed state →
      (∀ after, rest.foldlM step state = .ok after → holds values after) ∧
      ((∃ after, rest.foldlM step state = .ok after) ↔
        ∀ taken value later, rest = taken ++ value :: later → ready (processed ++ taken) value) := by
    intro rest
    induction rest with
    | nil =>
      intro processed state split valid
      refine ⟨?_, iff_of_true ⟨state, rfl⟩ ?_⟩
      · intro after finished
        cases finished
        rw [split, append_nil]
        exact valid
      · intro taken value later impossible
        cases taken <;> cases impossible
    | cons value rest ih =>
      intro processed state split valid
      obtain ⟨sound, complete⟩ := steps processed value rest state split valid
      have split' : values = (processed ++ [value]) ++ rest := by
        rw [split, append_assoc, singleton_append]
      constructor
      · intro after folded
        rw [foldlM_cons, bind_eq_ok] at folded
        obtain ⟨next, stepped, folded⟩ := folded
        exact (ih _ next split' (sound next stepped).2).1 after folded
      · constructor
        · intro folded
          obtain ⟨after, folded⟩ := folded
          rw [foldlM_cons, bind_eq_ok] at folded
          obtain ⟨next, stepped, folded⟩ := folded
          have rests := (ih _ next split' (sound next stepped).2).2.mp ⟨after, folded⟩
          intro taken other later placed
          cases taken with
          | nil =>
            cases placed
            rw [append_nil]
            exact (sound next stepped).1
          | cons first taken =>
            cases placed
            have place := rests taken other later rfl
            rw [append_assoc, singleton_append] at place
            exact place
        · intro passes
          have turn := passes [] value rest rfl
          rw [append_nil] at turn
          obtain ⟨next, stepped⟩ := complete turn
          have rests : ∀ taken other later, rest = taken ++ other :: later →
              ready ((processed ++ [value]) ++ taken) other := by
            intro taken other later placed
            have place := passes (value :: taken) other later (by rw [placed]; rfl)
            rw [append_assoc, singleton_append]
            exact place
          obtain ⟨after, folded⟩ := (ih _ next split' (sound next stepped).2).2.mpr rests
          refine ⟨after, ?_⟩
          rw [foldlM_cons, stepped]
          exact folded
  have whole := continued values [] before rfl initial
  simpa only [nil_append] using whole

end Except
