import Kestrel.Base.Chains
import Kestrel.Base.Table
import Kestrel.Hold.Snapshot

/-!
# Walks of the receipt graph

An authority leads to the Hold that consumed it, and a release ends a chain without leaving an open
authority. Where every successor is later than what it consumes, the walks end, and the only open
authority they end at is the one that nothing consumed.
-/

namespace Kestrel.Hold

open List Relation

/-- Where the consumer of an authority leads. -/
def nextAuthority : Option HoldReceipt → Chains.Next String
  | none => .opens
  | some successor => if successor.action = .release then .stops else .onward successor.receiptId

/-- The chains of authorities that a mapping of consumers tells. -/
def consumerChain (consumers : Table String HoldReceipt) : Chains.Chain String where
  sources := consumers.keys
  next authorityId := nextAuthority (consumers.row authorityId)
  finite source target edge := by
    rw [consumers.mem_keys]
    intro none
    rw [none] at edge
    cases edge

/-- The walks raise where they find nothing. -/
def orCycle {α : Type} : Option α → Except HoldError α
  | none => .error (.corrupt "Hold receipt graph contains a cycle")
  | some found => .ok found

/-- `_terminal_authority_ids` of the two mappings. -/
def terminalAuthorityIdsOf (authorities consumers : Table String HoldReceipt) :
    Except HoldError (List String) :=
  orCycle (Chains.ends (consumerChain consumers) authorities.keys)

def HoldSuccessor (consumers : Table String HoldReceipt) (authorityId next : String) : Prop :=
  ∃ successor, consumers.row authorityId = some successor ∧ successor.action = .hold ∧
    successor.receiptId = next

theorem nextAuthority_eq_onward {consumer : Option HoldReceipt} {target : String} :
    nextAuthority consumer = .onward target ↔
      ∃ successor, consumer = some successor ∧ successor.action = .hold ∧
        successor.receiptId = target := by
  cases consumer with
  | none => simp [nextAuthority]
  | some successor =>
    unfold nextAuthority
    cases action : successor.action <;> simp [action]

theorem nextAuthority_eq_opens {consumer : Option HoldReceipt} :
    nextAuthority consumer = .opens ↔ consumer = none := by
  cases consumer with
  | none => simp [nextAuthority]
  | some successor =>
    dsimp only [nextAuthority]
    split_ifs <;> simp

theorem edge_consumerChain (consumers : Table String HoldReceipt) :
    (consumerChain consumers).Edge = HoldSuccessor consumers := by
  funext authorityId next
  exact propext nextAuthority_eq_onward

variable {authorities consumers : Table String HoldReceipt}

/-- Where every Hold that consumed an authority is an authority itself, the walks end, raise exactly
where the Hold successors of an authority go around a cycle, and return exactly the authorities
without a consumer elsewhere. -/
theorem terminalAuthorityIdsOf_exact
    (held : ∀ authorityId successor, consumers.row authorityId = some successor →
      successor.action = .hold → successor.receiptId ∈ authorities.keys) :
    (∀ completed, WellFounded (flip ((consumerChain consumers).Moves completed))) ∧
    (terminalAuthorityIdsOf authorities consumers =
        .error (.corrupt "Hold receipt graph contains a cycle") ↔
      ∃ authorityId ∈ authorities.keys, ∃ other,
        ReflTransGen (HoldSuccessor consumers) authorityId other ∧
          TransGen (HoldSuccessor consumers) other other) ∧
    ((¬ ∃ authorityId ∈ authorities.keys, ∃ other,
        ReflTransGen (HoldSuccessor consumers) authorityId other ∧
          TransGen (HoldSuccessor consumers) other other) →
      ∃ terminal, terminalAuthorityIdsOf authorities consumers = .ok terminal ∧ terminal.Nodup ∧
        ∀ authorityId, authorityId ∈ terminal ↔
          authorityId ∈ authorities.keys ∧ consumers.row authorityId = none) := by
  obtain ⟨raises, returns⟩ := Chains.ends_exact (consumerChain consumers) authorities.keys
  simp only [Chains.Chain.Cycles, edge_consumerChain] at raises returns
  refine ⟨Chains.Chain.moves_wellFounded, ?_, ?_⟩
  · rw [← raises, terminalAuthorityIdsOf]
    cases Chains.ends (consumerChain consumers) authorities.keys with
    | none => exact iff_of_true rfl rfl
    | some terminal => exact iff_of_false nofun nofun
  · intro acyclic
    rw [← raises] at acyclic
    obtain ⟨terminal, ended⟩ := Option.ne_none_iff_exists'.mp acyclic
    obtain ⟨nodup, exact'⟩ := returns terminal ended
    refine ⟨terminal, by rw [terminalAuthorityIdsOf, ended]; rfl, nodup, fun authorityId => ?_⟩
    rw [exact', consumerChain, nextAuthority_eq_opens, and_comm]
    refine and_congr_left fun _ => ⟨?_, fun listed => ⟨authorityId, listed, .refl⟩⟩
    rintro ⟨start, listed, reaches⟩
    rcases ReflTransGen.cases_tail reaches with rfl | ⟨_, _, successor, consumed, hold, rfl⟩
    · exact listed
    · exact held _ successor consumed hold

/-- A Hold with the authority that it consumed. -/
def sampleHold (receiptId prior : String) : HoldReceipt :=
  ⟨receiptId, receiptId, .hold, .applied, .host, hostHoldTarget, "reason", "actor", "noon", "",
    prior, receiptId, .sovereign⟩

def sampleAuthorities : Table String HoldReceipt :=
  (Table.empty.insert "first" (sampleHold "first" "")).insert "second" (sampleHold "second" "first")

def sampleConsumers : Table String HoldReceipt :=
  Table.empty.insert "first" (sampleHold "second" "first")

theorem terminalAuthorityIdsOf_exact_sample :
    terminalAuthorityIdsOf sampleAuthorities sampleConsumers =
        .error (.corrupt "Hold receipt graph contains a cycle") ↔
      ∃ authorityId ∈ sampleAuthorities.keys, ∃ other,
        ReflTransGen (HoldSuccessor sampleConsumers) authorityId other ∧
          TransGen (HoldSuccessor sampleConsumers) other other := by
  refine (terminalAuthorityIdsOf_exact fun authorityId successor consumed _ => ?_).2.1
  rw [sampleConsumers, Table.row_insert] at consumed
  split_ifs at consumed
  · cases consumed
    decide
  · cases consumed

/-- A receipt graph whose successors come later and whose only open authority is known. -/
structure Ordered (known : List String) (consumers : String → Option HoldReceipt)
    (opened : Option String) : Prop where
  /-- A Hold that consumed an authority is a later one. -/
  later : ∀ cursor ∈ known, ∀ successor, consumers cursor = some successor →
    successor.action ≠ .release → successor.receiptId ∈ known ∧
      known.idxOf cursor < known.idxOf successor.receiptId
  unconsumed : ∀ cursor ∈ known, consumers cursor = none ↔ opened = some cursor
  member : ∀ id ∈ opened, id ∈ known

section Walks

variable {known : List String} {consumers : String → Option HoldReceipt}
  {chain : Chains.Chain String}

theorem walkSuccessors_eq (same : ∀ id ∈ known, chain.next id = nextAuthority (consumers id))
    (within : ∀ id ∈ known, ∀ target, chain.Edge id target → target ∈ known)
    (completed : List String) (fuel : ℕ) {cursor : String} {path : List String}
    (member : cursor ∈ known) (visited : path ⊆ known) (nodup : path.Nodup)
    (enough : known.length < path.length + fuel) :
    walkSuccessors consumers completed fuel cursor path =
      orCycle (Chains.walk chain completed cursor path) := by
  induction fuel generalizing cursor path with
  | zero =>
    have := (nodup.subperm visited).length_le
    omega
  | succ fuel ih =>
    rw [walkSuccessors, Chains.walk]
    split_ifs with done met
    · rfl
    · rfl
    · have next := same cursor member
      split
      · next none =>
        split
        · rfl
        · next stops => simp [none, nextAuthority, stops] at next
        · next target onward => simp [none, nextAuthority, onward] at next
      · next successor consumed =>
        rw [consumed] at next
        dsimp only [nextAuthority] at next
        split_ifs at next ⊢ with released
        · split
          · next opens => cases opens.symm.trans next
          · rfl
          · next target onward => cases onward.symm.trans next
        · split
          · next opens => cases opens.symm.trans next
          · next stops => cases stops.symm.trans next
          · next target onward =>
            cases onward.symm.trans next
            exact ih (within cursor member _ onward) (cons_subset.mpr ⟨member, visited⟩)
              (nodup_cons.mpr ⟨met, nodup⟩) (by rw [length_cons]; omega)

/-- The validator walks as the mappings are walked. -/
theorem terminalAuthorityIds_eq_ends {authorities : List HoldReceipt}
    (same : ∀ id ∈ authorities.map HoldReceipt.receiptId,
      chain.next id = nextAuthority (consumers id))
    (within : ∀ id ∈ authorities.map HoldReceipt.receiptId, ∀ target, chain.Edge id target →
      target ∈ authorities.map HoldReceipt.receiptId) :
    terminalAuthorityIds authorities consumers =
      orCycle (Chains.ends chain (authorities.map HoldReceipt.receiptId)) := by
  have folded {step : List String × List String → HoldReceipt →
        Except HoldError (List String × List String)}
      (visits : ∀ found, ∀ authority ∈ authorities,
        step found authority = orCycle (Chains.visit chain found authority.receiptId))
      (rest : List HoldReceipt) (listed : rest ⊆ authorities)
      (found : List String × List String) :
      rest.foldlM step found =
        orCycle ((rest.map HoldReceipt.receiptId).foldlM (Chains.visit chain) found) := by
    induction rest generalizing found with
    | nil => rfl
    | cons authority rest ih =>
      obtain ⟨first, listed⟩ := cons_subset.mp listed
      rw [foldlM_cons, map_cons, foldlM_cons, visits found authority first]
      cases Chains.visit chain found authority.receiptId with
      | none => rfl
      | some result => exact ih listed result
  unfold terminalAuthorityIds Chains.ends
  rw [folded ?_ authorities (Subset.refl _)]
  · cases foldlM (Chains.visit chain) ([], []) (authorities.map HoldReceipt.receiptId) <;> rfl
  · rintro ⟨terminal, completed⟩ authority first
    dsimp only
    rw [walkSuccessors_eq same within completed (authorities.length + 1)
      (mem_map_of_mem first) (nil_subset _) nodup_nil (by rw [length_map, length_nil]; omega),
      Chains.visit]
    split_ifs with done
    · rw [Chains.walk, if_pos done]
      exact congrArg (fun terminal => Except.ok (terminal, completed)) (append_nil terminal)
    · cases Chains.walk chain completed authority.receiptId [] <;> rfl

end Walks

namespace Ordered

variable {known : List String} {consumers : String → Option HoldReceipt} {opened : Option String}

def chain (known : List String) (consumers : String → Option HoldReceipt) : Chains.Chain String where
  sources := known
  next id := if id ∈ known then nextAuthority (consumers id) else .stops
  finite source target edge := by
    by_contra unknown
    rw [if_neg unknown] at edge
    cases edge

theorem next_chain {id : String} (member : id ∈ known) :
    (chain known consumers).next id = nextAuthority (consumers id) := if_pos member

theorem rises (ordered : Ordered known consumers opened) {source target : String}
    (edge : (chain known consumers).Edge source target) :
    target ∈ known ∧ known.idxOf source < known.idxOf target := by
  have member : source ∈ known := (chain known consumers).finite _ _ edge
  rw [Chains.Chain.Edge, next_chain member, nextAuthority_eq_onward] at edge
  obtain ⟨successor, consumed, hold, rfl⟩ := edge
  exact ordered.later source member successor consumed (by rw [hold]; decide)

theorem opens_iff (ordered : Ordered known consumers opened) (id : String) :
    (chain known consumers).next id = .opens ∧ id ∈ known ↔ opened = some id := by
  constructor
  · rintro ⟨opens, member⟩
    rwa [next_chain member, nextAuthority_eq_opens, ordered.unconsumed id member] at opens
  · intro opens
    have member := ordered.member id opens
    rw [next_chain member, nextAuthority_eq_opens, ordered.unconsumed id member]
    exact ⟨opens, member⟩

theorem terminalAuthorityIds_eq {authorities : List HoldReceipt}
    (ordered : Ordered (authorities.map HoldReceipt.receiptId) consumers opened) :
    terminalAuthorityIds authorities consumers = .ok opened.toList := by
  set known := authorities.map HoldReceipt.receiptId with listed
  have climbs {source target : String} (path : TransGen (chain known consumers).Edge source target) :
      known.idxOf source < known.idxOf target := by
    induction path with
    | single edge => exact (ordered.rises edge).2
    | tail _ edge ih => exact ih.trans (ordered.rises edge).2
  have starts (id : String) : (∃ start ∈ known, ReflTransGen (chain known consumers).Edge start id) ↔
      id ∈ known := by
    refine ⟨?_, fun member => ⟨id, member, .refl⟩⟩
    rintro ⟨start, member, path⟩
    rcases ReflTransGen.cases_tail path with rfl | ⟨_, _, edge⟩
    · exact member
    · exact (ordered.rises edge).1
  obtain ⟨raises, returns⟩ := Chains.ends_exact (chain known consumers) known
  rw [terminalAuthorityIds_eq_ends (fun id => next_chain) fun id _ target edge =>
    (ordered.rises edge).1, ← listed]
  cases ended : Chains.ends (chain known consumers) known with
  | none =>
    obtain ⟨_, _, _, _, cycle⟩ := raises.mp ended
    exact absurd (climbs cycle) (lt_irrefl _)
  | some terminal =>
    obtain ⟨nodup, exact'⟩ := returns terminal ended
    have same : terminal.Perm opened.toList := by
      refine (perm_ext_iff_of_nodup nodup (Option.toList_nodup _)).mpr fun id => ?_
      rw [exact', starts, ordered.opens_iff, Option.mem_toList]
    cases opened with
    | none => rw [perm_nil.mp same]; rfl
    | some id => rw [perm_singleton.mp same]; rfl

end Ordered

end Kestrel.Hold
