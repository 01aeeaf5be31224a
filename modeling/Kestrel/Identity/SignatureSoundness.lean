import Kestrel.Base.Except
import Kestrel.Identity.Signatures

/-!
# What a verified signature array shows

An entry counts only where a method of the set with its kid has a key of its algorithm that
verifies it. Entries that no method verifies, and the order of the others, decide nothing.
-/

namespace Kestrel.Identity

open List SignatureVerification Value VerificationMethodIndex

variable {Other Key : Type}

section Specification

inductive VerifiesUnder (registry : Registry Key) (data : List UInt8) (vms : Value Other)
    (suite : CryptoSuite Key) : Value Other → Prop where
  | intro {fields method : List (String × Value Other)} {methods : List (Value Other)}
      {kid sigHex vmId : String} {publicKey : Key} {sigBytes : List UInt8}
      (alg_named : Value.get fields "alg" = .text suite.algId)
      (kid_named : Value.get fields "kid" = .text kid)
      (sig_named : Value.get fields "sig" = .text sigHex)
      (is_array : vms = .array methods)
      (member : .object method ∈ methods)
      (id_named : Value.get method "id" = .text vmId)
      (addressed : verificationMethodKid vmId = kid)
      (decoded : decodeVerificationMethodKey registry method = some (suite, publicKey))
      (hex : fromHex sigHex.toList = some sigBytes)
      (verified : suite.verify data sigBytes publicKey = true) :
      VerifiesUnder registry data vms suite (.object fields)

def HasVerified (registry : Registry Key) (data : List UInt8) (signatures vms : Value Other)
    (suite : CryptoSuite Key) : Prop :=
  ∃ entries entry, signatures = .array entries ∧ entry ∈ entries ∧
    VerifiesUnder registry data vms suite entry

end Specification

section Methods

def Addresses (vms : List (Value Other)) (method : String × List (String × Value Other)) : Prop :=
  .object method.2 ∈ vms ∧
    ∃ vmId, Value.get method.2 "id" = .text vmId ∧ verificationMethodKid vmId = method.1

variable {value : Value Other}

theorem Value.object?_eq_some {entries : List (String × Value Other)} :
    value.object? = some entries ↔ value = .object entries := by
  cases value with
  | object entries' | null | boolean _ | integer _ | other _ | text _ | array _ => simp [object?]

theorem Value.array?_eq_some {values : List (Value Other)} :
    value.array? = some values ↔ value = .array values := by
  cases value with
  | array values' | null | boolean _ | integer _ | other _ | text _ | object _ => simp [array?]

theorem Value.text?_eq_some {text : String} : value.text? = some text ↔ value = .text text := by
  cases value with
  | text text' | null | boolean _ | integer _ | other _ | array _ | object _ => simp [text?]

variable {position : ℕ} {method : String × List (String × Value Other)}

theorem VerificationMethodIndex.mem_add {index : VerificationMethodIndex Other} {vm : Value Other}
    (member : method ∈ (index.add position vm).methods) :
    method ∈ index.methods ∨ Addresses [vm] method := by
  unfold add at member
  cases object : vm.object? with
  | none =>
    rw [object] at member
    exact .inl member
  | some entries =>
    simp only [object] at member
    cases named : Value.get entries "id" with
    | null | boolean _ | integer _ | other _ | array _ | object _ =>
      rw [named] at member
      exact .inl member
    | text vmId =>
      simp only [named] at member
      split_ifs at member with empty known
      · exact .inl member
      · exact .inl member
      · rcases mem_append.mp member with member | member
        · exact .inl member
        · obtain rfl := mem_singleton.mp member
          rw [object?_eq_some] at object
          exact .inr ⟨mem_singleton.mpr object.symm, vmId, named, rfl⟩

theorem VerificationMethodIndex.mem_addAll {vms : List (Value Other)}
    {index : VerificationMethodIndex Other} (member : method ∈ (index.addAll position vms).methods)
    :
    method ∈ index.methods ∨ Addresses vms method := by
  induction vms generalizing index position with
  | nil => exact .inl member
  | cons vm vms ih =>
    rcases ih member with member | ⟨later, named⟩
    · rcases mem_add member with member | ⟨now, named⟩
      · exact .inl member
      · rw [mem_singleton] at now
        exact .inr ⟨now ▸ mem_cons_self, named⟩
    · exact .inr ⟨mem_cons_of_mem _ later, named⟩

theorem indexVerificationMethods_get {vms : Value Other} {kid : String}
    {method : List (String × Value Other)}
    (found : (indexVerificationMethods vms).get kid = some method) :
    ∃ methods, vms = .array methods ∧ Addresses methods (kid, method) := by
  obtain ⟨⟨kid', method'⟩, first, rfl⟩ := Option.map_eq_some_iff.mp found
  have same : kid' = kid := by simpa using find?_some first
  have member := mem_of_find?_eq_some first
  subst same
  unfold indexVerificationMethods at member
  cases array : vms.array? with
  | none =>
    rw [array] at member
    cases member
  | some methods =>
    rw [array] at member
    rcases mem_addAll member with member | addressed
    · cases member
    · exact ⟨methods, array?_eq_some.mp array, addressed⟩

end Methods

section Entries

variable {registry : Registry Key} {data : List UInt8}

theorem requiredField_eq_ok {entries : List (String × Value Other)} {name value : String}
    (required : requiredField entries name = .ok value) :
    get entries name = .text value ∧ value ≠ "" := by
  unfold requiredField at required
  cases text : (get entries name).text? with
  | none =>
    rw [text] at required
    cases required
  | some found =>
    simp only [text] at required
    by_cases empty : found = ""
    · rw [if_pos empty] at required
      cases required
    · rw [if_neg empty] at required
      cases required
      exact ⟨text?_eq_some.mp text, empty⟩

theorem mem_suites_of_decode {method : List (String × Value Other)} {suite : CryptoSuite Key}
    {publicKey : Key}
    (decoded : decodeVerificationMethodKey registry method = some (suite, publicKey)) :
    suite ∈ registry.suites := by
  obtain ⟨multibase, _, decoded⟩ := Option.bind_eq_some_iff.mp decoded
  obtain ⟨⟨codec, publicBytes⟩, _, decoded⟩ := Option.bind_eq_some_iff.mp decoded
  obtain ⟨found, searched, decoded⟩ := Option.bind_eq_some_iff.mp decoded
  obtain ⟨key, _, same⟩ := Option.bind_eq_some_iff.mp decoded
  cases same
  exact mem_of_find?_eq_some searched

theorem verifiesUnder_of_checkEntry {vms entry : Value Other}
    (checked : checkEntry registry data (indexVerificationMethods vms) entry = .ok ()) :
    ∃ suite, VerifiesUnder registry data vms suite entry ∧ entryAlg entry = suite.algId ∧
      suite ∈ registry.suites ∧ suite.algId ≠ "" := by
  unfold checkEntry at checked
  cases object : entry.object? with
  | none =>
    rw [object] at checked
    cases checked
  | some fields =>
    simp only [object, Except.bind_eq_ok] at checked
    obtain ⟨alg, algRequired, kid, kidRequired, sigHex, sigRequired, checked⟩ := checked
    obtain ⟨algNamed, algFull⟩ := requiredField_eq_ok algRequired
    obtain ⟨kidNamed, _⟩ := requiredField_eq_ok kidRequired
    obtain ⟨sigNamed, _⟩ := requiredField_eq_ok sigRequired
    cases found : (indexVerificationMethods vms).get kid with
    | none => simp [found] at checked
    | some method =>
      cases decoded : decodeVerificationMethodKey registry method with
      | none => simp [found, decoded] at checked
      | some key =>
        obtain ⟨suite, publicKey⟩ := key
        simp only [found, decoded] at checked
        by_cases other : suite.algId ≠ alg
        · rw [if_pos other] at checked
          cases checked
        · rw [if_neg other] at checked
          cases hex : fromHex sigHex.toList with
          | none => simp [hex] at checked
          | some sigBytes =>
            simp only [hex] at checked
            by_cases verified : suite.verify data sigBytes publicKey = true
            · obtain rfl := not_not.mp other
              obtain rfl := object?_eq_some.mp object
              obtain ⟨methods, rfl, member, vmId, named, addressed⟩ :=
                indexVerificationMethods_get found
              refine ⟨suite, .intro algNamed kidNamed sigNamed rfl member named addressed
                decoded hex verified, ?_, ?_, algFull⟩
              · simp [entryAlg, object?, algNamed, text?]
              · exact mem_suites_of_decode decoded
            · rw [if_neg verified] at checked
              cases checked

theorem SignatureVerification.checkAll_eq (registry : Registry Key) (data : List UInt8)
    (methods : VerificationMethodIndex Other) (verification : SignatureVerification Other)
    (position : ℕ) (entries : List (Value Other)) :
    (verification.checkAll registry data methods position entries).fatal = verification.fatal ∧
      (verification.checkAll registry data methods position entries).verified =
        verification.verified ++
          entries.filter fun entry => (checkEntry registry data methods entry).isOk := by
  induction entries generalizing verification position with
  | nil => exact ⟨rfl, (append_nil _).symm⟩
  | cons entry entries ih =>
    cases checked : checkEntry registry data methods entry with
    | error rejection =>
      rw [checkAll, checked, (ih _ _).1, (ih _ _).2, filter_cons, checked]
      exact ⟨rfl, rfl⟩
    | ok accepted =>
      rw [checkAll, checked, (ih _ _).1, (ih _ _).2, filter_cons, checked, append_assoc]
      exact ⟨rfl, rfl⟩

end Entries

section Policies

variable {registry : Registry Key}

theorem classify_of_mem {suite : CryptoSuite Key} (registered : suite ∈ registry.suites) :
    classify registry suite.algId = some suite.isPostQuantum := by
  unfold classify
  cases found : registry.suites.find? fun other => other.algId = suite.algId with
  | none =>
    have missing := find?_eq_none.mp found suite registered
    exact absurd (decide_eq_true rfl) missing
  | some other =>
    have named : other.algId = suite.algId := by simpa using find?_some found
    have same := inj_on_of_nodup_map registry.nodup (mem_of_find?_eq_some found) registered named
    rw [same, Option.map_some]

variable {postCutoffClassicalAllowed : Bool} {kinds : List (Option Bool)}

theorem satisfies_some {policy : VerifyPolicy}
    (satisfied : satisfies policy postCutoffClassicalAllowed kinds = true) :
    (∃ kind, kind ∈ kinds) ∧ (postCutoffClassicalAllowed = false → some true ∈ kinds) := by
  unfold satisfies at satisfied
  split_ifs at satisfied with empty unknown cutoff
  refine ⟨exists_mem_of_ne_nil _ empty, ?_⟩
  intro refused
  by_contra missing
  exact cutoff ⟨by simp [refused], missing⟩

theorem satisfies_hybridRequired
    (satisfied : satisfies .hybridRequired postCutoffClassicalAllowed kinds = true) :
    ∀ kind, some kind ∈ kinds := by
  unfold satisfies at satisfied
  split_ifs at satisfied with empty unknown cutoff
  have both : some false ∈ kinds ∧ some true ∈ kinds := of_decide_eq_true satisfied
  intro kind
  cases kind with
  | false => exact both.1
  | true => exact both.2

theorem satisfies_congr {policy : VerifyPolicy} {kinds' : List (Option Bool)}
    (same : ∀ kind, kind ∈ kinds ↔ kind ∈ kinds') :
    satisfies policy postCutoffClassicalAllowed kinds =
      satisfies policy postCutoffClassicalAllowed kinds' := by
  have empty : kinds = [] ↔ kinds' = [] := by
    rw [eq_nil_iff_forall_not_mem, eq_nil_iff_forall_not_mem]
    exact forall_congr' fun kind => not_congr (same kind)
  unfold satisfies
  simp only [empty, same]

end Policies

section Verdicts

variable {registry : Registry Key} {data : List UInt8} {vms : Value Other} {policy : VerifyPolicy}
  {postCutoffClassicalAllowed : Bool}

/-- The entries of an array that verify under a set of methods. -/
def passing (registry : Registry Key) (data : List UInt8) (vms : Value Other)
    (entries : List (Value Other)) : List (Value Other) :=
  entries.filter fun entry =>
    (checkEntry registry data (indexVerificationMethods vms) entry).isOk

theorem mem_passing {entries : List (Value Other)} {entry : Value Other} :
    entry ∈ passing registry data vms entries ↔ entry ∈ entries ∧
        checkEntry registry data (indexVerificationMethods vms) entry = .ok () := by
  rw [passing, mem_filter]
  apply and_congr_right
  intro _
  cases checkEntry registry data (indexVerificationMethods vms) entry with
  | error _ => exact iff_of_false Bool.noConfusion nofun
  | ok _ => exact iff_of_true rfl rfl

theorem evaluate_array (entries : List (Value Other)) :
    ((verifySignatureEntries registry data (.array entries) vms).evaluate registry policy
        postCutoffClassicalAllowed).ok = true ↔
      (indexVerificationMethods vms).fatal = [] ∧ satisfies policy postCutoffClassicalAllowed
          ((passing registry data vms entries).map (classify registry ∘ entryAlg)) = true := by
  simp only [verifySignatureEntries, array?]
  by_cases fatal : (indexVerificationMethods vms).fatal = []
  · obtain ⟨noFatal, verified⟩ := checkAll_eq registry data
      (indexVerificationMethods vms) ⟨[], [], []⟩ 0 entries
    have named : "" ∉ (passing registry data vms entries).map entryAlg := by
      intro unnamed
      obtain ⟨entry, passes, empty⟩ := mem_map.mp unnamed
      obtain ⟨suite, _, alg, _, full⟩ := verifiesUnder_of_checkEntry (mem_passing.mp passes).2
      exact full (alg.symm.trans empty)
    rw [if_neg (not_not.mpr fatal), evaluate, if_neg (not_not.mpr noFatal), verified, nil_append]
    change (evaluateSignatures registry ((passing registry data vms entries).map entryAlg) policy
      postCutoffClassicalAllowed).ok = true ↔ _
    rw [evaluateSignatures, if_neg named, map_map]
    exact (and_iff_right fatal).symm
  · rw [if_pos fatal, evaluate, if_pos fatal]
    exact iff_of_false Bool.noConfusion (fun found => fatal found.1)

theorem exists_hasVerified_of_ok {signatures : Value Other}
    (ok : ((verifySignatureEntries registry data signatures vms).evaluate registry policy
      postCutoffClassicalAllowed).ok = true) :
    ∃ kinds, satisfies policy postCutoffClassicalAllowed kinds = true ∧
      ∀ kind ∈ kinds, ∃ suite, HasVerified registry data signatures vms suite ∧
        kind = some suite.isPostQuantum := by
  cases array : signatures.array? with
  | none =>
    have fatal : (indexVerificationMethods vms).fatal ++ [Finding.notList] ≠ [] :=
      append_ne_nil_of_right_ne_nil _ (cons_ne_nil _ _)
    simp only [verifySignatureEntries, array, evaluate, if_pos fatal] at ok
    cases ok
  | some entries =>
    obtain rfl := array?_eq_some.mp array
    obtain ⟨_, satisfied⟩ := (evaluate_array entries).mp ok
    refine ⟨_, satisfied, ?_⟩
    intro kind member
    obtain ⟨entry, passes, classified⟩ := mem_map.mp member
    obtain ⟨present, checked⟩ := mem_passing.mp passes
    obtain ⟨suite, verifies, alg, registered, _⟩ := verifiesUnder_of_checkEntry checked
    refine ⟨suite, ⟨entries, entry, rfl, present, verifies⟩, ?_⟩
    rw [← classified, Function.comp_apply, alg, classify_of_mem registered]

theorem evaluate_array_congr {entries entries' junk : List (Value Other)}
    (same : entries'.Perm (entries ++ junk))
    (unverified : ∀ entry ∈ junk, ∀ suite, ¬ VerifiesUnder registry data vms suite entry) :
    ((verifySignatureEntries registry data (.array entries') vms).evaluate registry policy
        postCutoffClassicalAllowed).ok =
      ((verifySignatureEntries registry data (.array entries) vms).evaluate registry policy
        postCutoffClassicalAllowed).ok := by
  have counted : ∀ entry, entry ∈ passing registry data vms entries' ↔
      entry ∈ passing registry data vms entries := by
    intro entry
    rw [mem_passing, mem_passing, same.mem_iff, mem_append]
    apply and_congr_left
    intro checked
    obtain ⟨suite, verifies, _⟩ := verifiesUnder_of_checkEntry checked
    exact or_iff_left fun added => unverified entry added suite verifies
  have kinds : ∀ kind,
      kind ∈ (passing registry data vms entries').map (classify registry ∘ entryAlg) ↔
        kind ∈ (passing registry data vms entries).map (classify registry ∘ entryAlg) := by
    intro kind
    simp only [mem_map, counted]
  rw [Bool.eq_iff_iff, evaluate_array, evaluate_array, satisfies_congr kinds]

end Verdicts

end Kestrel.Identity
