import Mathlib.Data.Set.Lattice

/-!
# Least sets closed under Horn rules

A rule relates a list of premises to a conclusion. The derivable elements over a base are
the least set that contains the base and every conclusion whose premises it contains.
-/

namespace Horn

variable {Fact : Type*}

/-- A set contains the conclusion of every rule whose premises it contains. -/
def Closed (rule : List Fact → Fact → Prop) (facts : Set Fact) : Prop :=
  ∀ premises conclusion, rule premises conclusion →
    (∀ premise ∈ premises, premise ∈ facts) → conclusion ∈ facts

inductive Derives (rule : List Fact → Fact → Prop) (base : Set Fact) : Fact → Prop where
  | base {fact : Fact} : fact ∈ base → Derives rule base fact
  | rule {premises : List Fact} {conclusion : Fact} : rule premises conclusion →
      (∀ premise ∈ premises, Derives rule base premise) → Derives rule base conclusion

inductive DerivesFrom (rule : List Fact → Fact → Prop) (base chosen : Set Fact) :
    Fact → Prop where
  | leaf {fact : Fact} : fact ∈ base → fact ∈ chosen → DerivesFrom rule base chosen fact
  | rule {premises : List Fact} {conclusion premise : Fact} : rule premises conclusion →
      (∀ each ∈ premises, Derives rule base each) → premise ∈ premises →
      DerivesFrom rule base chosen premise → DerivesFrom rule base chosen conclusion

variable {rule : List Fact → Fact → Prop} {base : Set Fact}

theorem subset_derives : base ⊆ {fact | Derives rule base fact} :=
  fun _ member => .base member

theorem closed_derives : Closed rule {fact | Derives rule base fact} :=
  fun _ _ instance_ premises => .rule instance_ premises

theorem Derives.mem_of_closed {facts : Set Fact} (above : base ⊆ facts)
    (closed : Closed rule facts) {fact : Fact} (derived : Derives rule base fact) :
    fact ∈ facts := by
  induction derived with
  | base member => exact above member
  | rule instance_ _ members => exact closed _ _ instance_ members

theorem isLeast_derives :
    IsLeast {facts | base ⊆ facts ∧ Closed rule facts} {fact | Derives rule base fact} :=
  ⟨⟨subset_derives, closed_derives⟩, fun _ valid _ derived => derived.mem_of_closed valid.1 valid.2⟩

theorem Derives.mono {wider : List Fact → Fact → Prop} {larger : Set Fact}
    (bases : base ⊆ larger) (rules : ∀ premises fact, rule premises fact → wider premises fact)
    {fact : Fact} (derived : Derives rule base fact) : Derives wider larger fact := by
  induction derived with
  | base member => exact .base (bases member)
  | rule instance_ _ derivations => exact .rule (rules _ _ instance_) derivations

theorem DerivesFrom.derives {chosen : Set Fact} {fact : Fact}
    (derived : DerivesFrom rule base chosen fact) : Derives rule base fact := by
  induction derived with
  | leaf member _ => exact .base member
  | rule instance_ premises _ _ _ => exact .rule instance_ premises

end Horn
