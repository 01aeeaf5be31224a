import Kestrel.Identity.ChainSoundness

/-!
# Which keys a chain resolves its DIDs to

Statements are linked by their positions, and the chain's resolver looks successors up by their
DIDs. Where a DID returns in a chain, the two can differ.
-/

namespace Kestrel.Identity

open List

variable {Other Key : Type} {verifier : Verifier Other Key}

/-- Every link of a chain resolves to the successor before it, and the ends of a chain resolve as
the supplied resolver says. -/
structure ResolvesLinks (verifier : Verifier Other Key)
    (chain : SuccessionChain verifier.language) : Prop where
  link : ∀ (index : ℕ) (previous statement : SuccessionStatement Other) (did : String),
    chain.statements[index]? = some previous → chain.statements[index + 1]? = some statement →
      statement.predecessorDid = .text did → ∀ userResolver,
        ∃ vms, previous.successorVerificationMethods = .array vms ∧
          chainInternalResolver verifier chain userResolver did =
            some (.object [("id", .text did), ("verificationMethod", .array vms)])
  tip : ∀ (tip : SuccessionStatement Other) (did : String),
    chain.statements.getLast? = some tip → tip.successorDid = .text did → ∀ userResolver,
      chainInternalResolver verifier chain userResolver did = userResolver.bind (· did)
  root : ∀ (first : SuccessionStatement Other) (did : String),
    chain.statements.head? = some first → first.predecessorDid = .text did → ∀ userResolver,
      chainInternalResolver verifier chain userResolver did = userResolver.bind (· did)

/-- The successors before the tip have one set of methods for each DID, and the ends of the chain
have DIDs of their own. -/
structure SeparateDids (statements : List (SuccessionStatement Other)) : Prop where
  methods : ∀ first ∈ statements.dropLast, ∀ second ∈ statements.dropLast, ∀ did,
    first.successorDid = .text did → second.successorDid = .text did →
      first.successorVerificationMethods = second.successorVerificationMethods
  tip : ∀ tip did, statements.getLast? = some tip → tip.successorDid = .text did →
    ∀ inner ∈ statements.dropLast, inner.successorDid ≠ .text did
  root : ∀ first did, statements.head? = some first → first.predecessorDid = .text did →
    ∀ inner ∈ statements.dropLast, inner.successorDid ≠ .text did

section Lookups

variable {statements : List (SuccessionStatement Other)} {did : String}

theorem linkageMethods_eq_some {vms : Value Other}
    (found : linkageMethods statements did = some vms) :
    ∃ statement ∈ statements, statement.successorDid = .text did ∧
      statement.successorVerificationMethods = vms := by
  obtain ⟨statement, located, rfl⟩ := Option.map_eq_some_iff.mp found
  have named := find?_some located
  exact ⟨statement, mem_reverse.mp (mem_of_find?_eq_some located),
    Value.text?_eq_some.mp (of_decide_eq_true named), rfl⟩

theorem linkageMethods_eq_none : linkageMethods statements did = none ↔
      ∀ statement ∈ statements, statement.successorDid ≠ .text did := by
  unfold linkageMethods
  rw [Option.map_eq_none_iff, find?_eq_none]
  simp only [mem_reverse, decide_eq_true_eq]
  exact forall₂_congr fun statement _ => not_congr Value.text?_eq_some

end Lookups

section Links

variable {language : Language Other} {statements : List (SuccessionStatement Other)}

theorem linked_of_checkStatements {index position : ℕ}
    {previous : Option (SuccessionStatement Other)} {first second : SuccessionStatement Other}
    (checked : checkStatements language index previous statements = .ok ())
    (here : statements[position]? = some first)
    (next : statements[position + 1]? = some second) :
    ∃ place effective, checkLink language place first second effective = .ok () := by
  induction statements generalizing index previous position with
  | nil => exact nomatch here
  | cons statement statements ih =>
    obtain ⟨effective, _, _, checked⟩ := checkStatements_cons checked
    cases position with
    | succ position => exact ih checked here next
    | zero =>
      cases here
      cases statements with
      | nil => exact nomatch next
      | cons other statements =>
        cases next
        obtain ⟨later, _, linked, _⟩ := checkStatements_cons checked
        exact ⟨_, later, linked _ rfl⟩

theorem checkLink_joins {index : ℕ} {previous statement : SuccessionStatement Other} {effective : ℤ}
    (linked : checkLink language index previous statement effective = .ok ()) :
    (∀ did, statement.predecessorDid = .text did ↔ previous.successorDid = .text did) ∧
      ∃ vms, previous.successorVerificationMethods = .array vms := by
  obtain ⟨same, linked⟩ := Except.require_bind_eq_ok.mp linked
  obtain ⟨⟨keyed, _⟩, _⟩ := Except.require_bind_eq_ok.mp linked
  refine ⟨fun did => ⟨fun named => ?_, fun named => ?_⟩, ?_⟩
  · rw [named] at same
    exact Value.equals_text.mp same
  · rw [named] at same
    cases other : statement.predecessorDid with
    | text value =>
      rw [other] at same
      rw [Value.equals_text.mp same]
    | null | boolean _ | integer _ | other _ | array _ | object _ =>
      rw [other] at same
      exact nomatch same
  · cases keys : vmLinkageKeys previous.successorVerificationMethods with
    | none => exact absurd keys keyed
    | some found =>
      obtain ⟨methods, array, _⟩ := Option.bind_eq_some_iff.mp keys
      exact ⟨methods, Value.array?_eq_some.mp array⟩

theorem mem_dropLast_iff {first : SuccessionStatement Other} :
    first ∈ statements.dropLast ↔ ∃ position second, statements[position]? = some first ∧
      statements[position + 1]? = some second := by
  rw [mem_iff_getElem?]
  constructor
  · rintro ⟨position, here⟩
    rw [getElem?_dropLast] at here
    split_ifs at here with inner
    exact ⟨position, _, here, getElem?_eq_getElem (by omega)⟩
  · rintro ⟨position, second, here, next⟩
    obtain ⟨bounded, _⟩ := List.getElem?_eq_some_iff.mp next
    refine ⟨position, ?_⟩
    rw [getElem?_dropLast, if_pos (by omega), here]

end Links

section Chains

variable {chain : SuccessionChain verifier.language} {did : String}

variable {statement : SuccessionStatement Other}

theorem methods_of_mem_dropLast (inner : statement ∈ chain.statements.dropLast) :
    ∃ vms, statement.successorVerificationMethods = .array vms := by
  obtain ⟨position, next, here, behind⟩ := mem_dropLast_iff.mp inner
  obtain ⟨_, _, linked⟩ := linked_of_checkStatements chain.checked here behind
  exact (checkLink_joins linked).2

theorem chainInternalResolver_inner {vms : List (Value Other)}
    (found : linkageMethods chain.statements.dropLast did = some (.array vms))
    (userResolver : Option (Resolver Other)) :
    chainInternalResolver verifier chain userResolver did =
      some (.object [("id", .text did), ("verificationMethod", .array vms)]) := by
  unfold chainInternalResolver
  rw [found]
  rfl

theorem chainInternalResolver_outer :
    (∀ userResolver, chainInternalResolver verifier chain userResolver did =
        userResolver.bind (· did)) ↔
      ∀ inner ∈ chain.statements.dropLast, inner.successorDid ≠ .text did := by
  rw [← linkageMethods_eq_none]
  constructor
  · intro deferred
    cases found : linkageMethods chain.statements.dropLast did with
    | none => rfl
    | some vms =>
      obtain ⟨statement, inner, _, rfl⟩ := linkageMethods_eq_some found
      obtain ⟨methods, listed⟩ := methods_of_mem_dropLast inner
      have resolved := deferred none
      rw [listed] at found
      rw [chainInternalResolver_inner found] at resolved
      exact nomatch resolved
  · intro absent userResolver
    unfold chainInternalResolver
    rw [absent]

theorem linkageMethods_of_separate (separate : SeparateDids chain.statements)
    (inner : statement ∈ chain.statements.dropLast) (named : statement.successorDid = .text did) :
    linkageMethods chain.statements.dropLast did = some statement.successorVerificationMethods := by
  cases found : linkageMethods chain.statements.dropLast did with
  | none => exact absurd named (linkageMethods_eq_none.mp found statement inner)
  | some vms =>
    obtain ⟨other, inner', named', rfl⟩ := linkageMethods_eq_some found
    rw [separate.methods statement inner other inner' did named named']

theorem ResolvesLinks.methods (resolves : ResolvesLinks verifier chain)
    (inner : statement ∈ chain.statements.dropLast) (named : statement.successorDid = .text did) :
    linkageMethods chain.statements.dropLast did = some statement.successorVerificationMethods := by
  obtain ⟨position, next, here, behind⟩ := mem_dropLast_iff.mp inner
  obtain ⟨_, _, linked⟩ := linked_of_checkStatements chain.checked here behind
  have joined := (checkLink_joins linked).1 did
  obtain ⟨vms, listed, resolved⟩ :=
    resolves.link position statement next did here behind (joined.mpr named) none
  cases found : linkageMethods chain.statements.dropLast did with
  | none => exact absurd named (linkageMethods_eq_none.mp found statement inner)
  | some methods =>
    obtain ⟨other, inner', _, rfl⟩ := linkageMethods_eq_some found
    obtain ⟨published, listed'⟩ := methods_of_mem_dropLast inner'
    rw [listed'] at found
    rw [chainInternalResolver_inner found] at resolved
    cases resolved
    rw [listed', listed]

end Chains

/-- **Resolution of links.** A chain resolves its DIDs by their positions exactly if the successors
before the tip do not share a DID with other methods, and no end of the chain has the DID of one of
them. -/
theorem resolvesLinks_iff (chain : SuccessionChain verifier.language) :
    ResolvesLinks verifier chain ↔ SeparateDids chain.statements := by
  constructor
  · intro resolves
    refine ⟨?_, ?_, ?_⟩
    · intro first inner second inner' did named named'
      have found := resolves.methods inner named
      rw [resolves.methods inner' named'] at found
      exact (Option.some.inj found).symm
    · intro tip did last named
      exact chainInternalResolver_outer.mp (resolves.tip tip did last named)
    · intro first did head named
      exact chainInternalResolver_outer.mp (resolves.root first did head named)
  · intro separate
    refine ⟨?_, ?_, ?_⟩
    · intro index previous statement did here next named userResolver
      obtain ⟨_, _, linked⟩ := linked_of_checkStatements chain.checked here next
      obtain ⟨joined, vms, listed⟩ := checkLink_joins linked
      have inner := mem_dropLast_iff.mpr ⟨index, statement, here, next⟩
      have found := linkageMethods_of_separate separate inner ((joined did).mp named)
      rw [listed] at found
      exact ⟨vms, listed, chainInternalResolver_inner found userResolver⟩
    · intro tip did last named
      exact chainInternalResolver_outer.mpr (separate.tip tip did last named)
    · intro first did head named
      exact chainInternalResolver_outer.mpr (separate.root first did head named)

section Return

/-- A verifier that knows three instants. -/
def returnVerifier : Verifier Empty (List UInt8) where
  language :=
    { smallVerifier.language with
      fromisoformat := fun text =>
        if text = "2026-01-01T00:00:00+00:00" then some ⟨some 0, 1⟩
        else if text = "2026-02-01T00:00:00+00:00" then some ⟨some 0, 2⟩
        else if text = "2026-03-01T00:00:00+00:00" then some ⟨some 0, 3⟩
        else none }
  registry := smallVerifier.registry
  sha256 := .standard
  ethereumAddress := fun _ => none

/-- A rotation between two DIDs at a time, unsigned. -/
def rotation (predecessor successor time multibase multibase' : String) :
    SuccessionStatement Empty where
  predecessorDid := .text predecessor
  successorDid := .text successor
  effectiveFrom := .text time
  reason := .text "rotation"
  predecessorVerificationMethods := .array [smallMethod predecessor multibase]
  successorVerificationMethods := .array [smallMethod successor multibase']
  predecessorSignatures := .array []
  successorSignatures := .array []
  archivalSignature := .null
  archivalVerificationMethod := .null
  statementId := .null

/-- An identity leaves a DID, returns to it and leaves it again, each time with new keys. -/
def returnChain : SuccessionChain returnVerifier.language :=
  ⟨[rotation "did:web:a" "did:web:b" "2026-01-01T00:00:00Z" "k0" "k1",
    rotation "did:web:b" "did:web:a" "2026-02-01T00:00:00Z" "k1" "k2",
    rotation "did:web:a" "did:web:b" "2026-03-01T00:00:00Z" "k2" "k3"], by decide +kernel⟩

/-- The tip of the chain resolves to the keys of an earlier rotation, without any published
document. -/
theorem returnChain_tip : ¬ ∀ (verifier : Verifier Empty (List UInt8))
    (chain : SuccessionChain verifier.language), ResolvesLinks verifier chain := by
  intro resolves
  have deferred := (resolves returnVerifier returnChain).tip _ "did:web:b" rfl rfl none
  have embedded : (chainInternalResolver returnVerifier returnChain none "did:web:b").isSome := by
    decide +kernel
  rw [deferred] at embedded
  exact nomatch embedded

end Return

end Kestrel.Identity
