import Kestrel.Hold.Latch

/-!
# Mandate latch keys as a code

The key of a mandate latch names one pair of identities, and the key's beginning names the target.
A key is made of stripped identities, and a beginning of an identity as it is given.
-/

namespace Kestrel.Hold

variable {targetId holderId key : String}

theorem parse_mandateLatchKey (keyed : mandateLatchKey targetId holderId = .ok key) :
    parseMandateLatchKey key = .ok (Text.strip targetId, Text.strip holderId) := by
  obtain ⟨target, holder, required, required', distinct, rfl, rfl, rfl⟩ :=
    mandateLatchKey_eq_ok keyed
  exact parseMandateLatchKey_eq_ok.mpr ⟨required, required', distinct, rfl⟩

theorem mandateLatchKey_of_parse {target holder : String}
    (parsed : parseMandateLatchKey key = .ok (target, holder)) :
    mandateLatchKey target holder = .ok key := by
  obtain ⟨required, required', distinct, rfl⟩ := parseMandateLatchKey_eq_ok.mp parsed
  exact mandateLatchKey_of_isRequired required required' distinct

theorem mandateKeyPrefix_begins (keyed : mandateLatchKey targetId holderId = .ok key)
    (subject : String) :
    (mandateKeyPrefix subject).toList <+: key.toList ↔ subject = Text.strip targetId := by
  obtain ⟨target, holder, _, _, _, same, _, rfl⟩ := mandateLatchKey_eq_ok keyed
  rw [← same]
  exact Json.pairPrefix_isPrefix.trans eq_comm

/-- **Exact keys.** A key reads back as its stripped pair, is the key of no other pair, begins like
the keys of its stripped target alone, and every text that reads back is a key. -/
theorem mandateLatchKey_exact (keyed : mandateLatchKey targetId holderId = .ok key) :
    parseMandateLatchKey key = .ok (Text.strip targetId, Text.strip holderId) ∧
      (∀ targetId' holderId', mandateLatchKey targetId' holderId' = .ok key →
        Text.strip targetId' = Text.strip targetId ∧ Text.strip holderId' = Text.strip holderId) ∧
      (∀ subject, (mandateKeyPrefix subject).toList <+: key.toList ↔
        subject = Text.strip targetId) ∧
      ∀ text target holder, parseMandateLatchKey text = .ok (target, holder) →
        mandateLatchKey target holder = .ok text := by
  have parsed := parse_mandateLatchKey keyed
  refine ⟨parsed, ?_, mandateKeyPrefix_begins keyed, fun _ _ _ => mandateLatchKey_of_parse⟩
  intro targetId' holderId' keyed'
  have parsed' := parse_mandateLatchKey keyed'
  rw [parsed] at parsed'
  obtain ⟨targets, holders⟩ := Prod.mk.inj (Except.ok.inj parsed')
  exact ⟨targets.symm, holders.symm⟩

theorem mandateLatchKey_exact_padded : parseMandateLatchKey "[\"did:a\",\"did:b\"]" =
      .ok (Text.strip " did:a", Text.strip "did:b ") :=
  (mandateLatchKey_exact (by decide +kernel)).1

/-- The key of a padded identity does not begin like the keys of the padded identity. -/
theorem padded_mandateKeyPrefix : ¬ ∀ targetId holderId targetId' holderId' key key' : String,
    mandateLatchKey targetId holderId = .ok key → mandateLatchKey targetId' holderId' = .ok key' →
        ((mandateKeyPrefix targetId').toList <+: key.toList ↔
          Text.strip targetId = Text.strip targetId') := by
  intro begins
  have keyed : mandateLatchKey " did:a" "did:b" = .ok "[\"did:a\",\"did:b\"]" := by
    decide +kernel
  have both := begins " did:a" "did:b" " did:a" "did:b" _ _ keyed keyed
  have absent : ¬ (mandateKeyPrefix " did:a").toList <+: "[\"did:a\",\"did:b\"]".toList := by
    decide +kernel
  exact absent (both.mpr rfl)

end Kestrel.Hold
