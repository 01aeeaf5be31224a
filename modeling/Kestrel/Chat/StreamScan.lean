import Kestrel.Chat.StreamParser
import Mathlib.Tactic.Cases
import Mathlib.Tactic.Common

/-!
# Scans of well-formed streams

A scan of complete pieces reads them one by one. Both parsers add text to their state in a way that
does not depend on how the text is cut, so a segment counts as its letters.
-/

namespace Kestrel.Chat

open Search ServerState Nat

section Openings

variable {kind other : SentinelKind} {find : SentinelKind → Option ℕ} {closer : ℕ → ℕ → Bool}
  {text rest seg next payload base : List Char} {idx : ℕ}

theorem separator_notMem_label (kind : SentinelKind) : separator ∉ kind.label := by
  cases kind <;> decide

theorem mem_streamSentinels (kind : SentinelKind) : kind ∈ streamSentinels := by
  cases kind <;> decide

instance {holds : SentinelKind → Prop} [DecidablePred holds] : Decidable (∀ kind, holds kind) :=
  decidable_of_iff (∀ kind ∈ streamSentinels, holds kind)
    ⟨fun all kind => all kind (mem_streamSentinels kind), fun all kind _ => all kind⟩

theorem eq_of_opening (inside : kind.opening <+: other.opening) : kind = other := by
  revert inside
  cases kind <;> cases other <;> decide

theorem eq_of_openings (first : kind.opening <+: text) (second : other.opening <+: text) :
    kind = other := by
  rcases List.prefix_or_prefix_of_prefix first second with inside | inside
  · exact eq_of_opening inside
  · exact (eq_of_opening inside).symm

/-- A part of an opening that a packet has cut, possibly nothing. -/
def PartialOpening (next : List Char) : Prop :=
  ∃ kind : SentinelKind, next <+: kind.opening ∧ next ≠ kind.opening

instance : Decidable (PartialOpening next) :=
  decidable_of_iff (¬ ∀ kind : SentinelKind, ¬ (next <+: kind.opening ∧ next ≠ kind.opening))
    not_forall_not

theorem partialOpening_nil : PartialOpening [] := ⟨.revise, List.nil_prefix, by decide⟩

theorem PartialOpening.eq_cons (cut : PartialOpening next) (some : next ≠ []) :
    ∃ label, next = separator :: label ∧ separator ∉ label := by
  obtain ⟨kind, begins, _⟩ := cut
  cases next with
  | nil => exact absurd rfl some
  | cons head label =>
    obtain ⟨rfl, inside⟩ := List.cons_prefix_cons.mp begins
    exact ⟨label, rfl, fun listed => separator_notMem_label kind (inside.subset listed)⟩

theorem PartialOpening.not_opening (cut : PartialOpening next) (kind : SentinelKind) :
    ¬ kind.opening <+: next := by
  obtain ⟨whole, begins, cut⟩ := cut
  intro opened
  cases eq_of_opening (opened.trans begins)
  exact cut (begins.eq_of_length (le_antisymm begins.length_le opened.length_le))

theorem PartialOpening.not_occursAt (cut : PartialOpening next) (plain : separator ∉ seg)
    (kind : SentinelKind) (index : ℕ) : ¬ OccursAt kind.opening (seg ++ next) index := by
  intro occurs
  obtain ⟨inner, rfl⟩ := Nat.exists_eq_add_of_le (le_of_occursAt plain occurs)
  rw [occursAt_append] at occurs
  cases inner with
  | zero => exact cut.not_opening kind occurs
  | succ inner =>
    have nonempty : next ≠ [] := by
      rintro rfl
      exact absurd occurs.length_le (not_succ_le_zero _)
    obtain ⟨label, rfl, unseparated⟩ := cut.eq_cons nonempty
    exact unseparated (List.mem_of_mem_drop (occurs.subset List.mem_cons_self))

theorem closerSentinel_eq_some {found : Option (SentinelKind × ℕ)} {other : SentinelKind} {index : ℕ}
    (selected : closerSentinel find closer found kind = some (other, index)) :
    found = some (other, index) ∨ kind = other ∧ find kind = some index := by
  cases located : find kind with
  | none => exact .inl (by simpa [closerSentinel, located] using selected)
  | some best =>
    cases found with
    | none => exact .inr (by simpa [closerSentinel, located] using selected)
    | some earlier =>
      rw [closerSentinel, located] at selected
      dsimp only at selected
      split_ifs at selected
      · exact .inr (by simpa using selected)
      · exact .inl selected

theorem foldl_closerSentinel (here : find kind = some idx)
    (others : ∀ other, other ≠ kind → ∀ found, find other = some found → closer found idx = false)
    (kinds : List SentinelKind) :
    kinds.foldl (closerSentinel find closer) (some (kind, idx)) = some (kind, idx) := by
  induction kinds with
  | nil => rfl
  | cons other kinds ih =>
    have stays : closerSentinel find closer (some (kind, idx)) other = some (kind, idx) := by
      by_cases same : other = kind
      · subst same
        simp [closerSentinel, here]
      · cases found : find other with
        | none => simp [closerSentinel, found]
        | some index => simp [closerSentinel, found, others other same index found]
    rw [List.foldl_cons, stays, ih]

theorem closestSentinel_eq_some (here : find kind = some idx)
    (others : ∀ other, other ≠ kind → ∀ found, find other = some found →
      closer idx found = true ∧ closer found idx = false) :
    closestSentinel find closer = some (kind, idx) := by
  have selects : ∀ (kinds : List SentinelKind) (found : Option (SentinelKind × ℕ)),
      kind ∈ kinds → (∀ other index, found = some (other, index) → closer idx index = true) →
      kinds.foldl (closerSentinel find closer) found = some (kind, idx) := by
    intro kinds
    induction kinds with
    | nil => exact fun _ listed => absurd listed List.not_mem_nil
    | cons other kinds ih =>
      intro found listed farther
      rw [List.foldl_cons]
      by_cases same : other = kind
      · subst same
        have taken : closerSentinel find closer found other = some (other, idx) := by
          cases found with
          | none => simp [closerSentinel, here]
          | some best => simp [closerSentinel, here, farther best.1 best.2 rfl]
        rw [taken]
        exact foldl_closerSentinel here
          (fun other different found seen => (others other different found seen).2) kinds
      · refine ih _ ((List.mem_cons.mp listed).resolve_left (Ne.symm same)) ?_
        intro next index seen
        obtain seen | ⟨rfl, here⟩ := closerSentinel_eq_some seen
        · exact farther next index seen
        · exact (others other same index here).1
  exact selects _ none (mem_streamSentinels kind) nofun

theorem closestSentinel_eq_none (absent : ∀ kind, find kind = none) :
    closestSentinel find closer = none := by
  simp [closestSentinel, closerSentinel, streamSentinels, absent]

theorem find_of_closestSentinel (selected : closestSentinel find closer = some (kind, idx)) :
    find kind = some idx := by
  have known : ∀ (kinds : List SentinelKind) (found : Option (SentinelKind × ℕ)),
      (∀ other index, found = some (other, index) → find other = some index) →
      ∀ other index, kinds.foldl (closerSentinel find closer) found = some (other, index) →
        find other = some index := by
    intro kinds
    induction kinds with
    | nil => exact fun _ seen => seen
    | cons next kinds ih =>
      intro found seen
      refine ih _ ?_
      intro other index here
      obtain here | ⟨rfl, located⟩ := closerSentinel_eq_some here
      · exact seen other index here
      · exact located
  exact known _ none nofun kind idx selected

theorem findNextStreamSentinel_eq_some (plain : separator ∉ seg) (rest : List Char) :
    findNextStreamSentinel (seg ++ (kind.opening ++ rest)) = some (kind, seg.length) := by
  have located (other : SentinelKind) : indexOf other.opening (seg ++ (kind.opening ++ rest)) =
      (indexOf other.opening (kind.opening ++ rest)).map (seg.length + ·) :=
    indexOf_append_eq_some plain
  refine closestSentinel_eq_some ?_ ?_
  · have first : indexOf kind.opening (kind.opening ++ rest) = some 0 :=
      indexOf_eq_some.mpr ⟨zero_le _, List.prefix_append _ _,
        fun _ small => absurd small (not_lt_zero _)⟩
    rw [located, first]
    rfl
  · intro other different found seen
    rw [located, Option.map_eq_some_iff] at seen
    obtain ⟨inner, seen, rfl⟩ := seen
    have later : inner ≠ 0 := by
      rintro rfl
      exact different (eq_of_openings (indexOf_eq_some.mp seen).2.1 (List.prefix_append _ _))
    simp only [decide_eq_true_eq, decide_eq_false_iff_not]
    omega

theorem findNextStreamSentinel_eq_none (plain : separator ∉ seg) (cut : PartialOpening next) :
    findNextStreamSentinel (seg ++ next) = none :=
  closestSentinel_eq_none fun kind =>
    indexOf_eq_none.mpr fun index _ => cut.not_occursAt plain kind index

end Openings

section Scans

variable {loads : List Char → Option Payload} {State : Type} {append : State → List Char → State}
  {strip : State → SentinelKind → List Char → State} {state : State} {kind : SentinelKind}
  {seg payload next rest : List Char}

theorem scan_sentinel (plain : separator ∉ seg) (unseparated : separator ∉ payload) :
    scan append strip state (seg ++ (kind.opening ++ (payload ++ separator :: rest))) =
      scan append strip (strip (append state seg) kind payload) rest := by
  have body : (seg ++ (kind.opening ++ (payload ++ separator :: rest))).drop
      (seg.length + kind.opening.length) = payload ++ separator :: rest := by
    rw [← List.drop_drop, List.drop_left, List.drop_left]
  rw [scan, findNextStreamSentinel_eq_some plain]
  dsimp only
  rw [body, indexOf_singleton unseparated]
  dsimp only
  rw [List.take_left, List.take_left, ← List.drop_drop, List.drop_left,
    List.drop_one, List.tail_cons]

theorem scan_plain (plain : separator ∉ seg) (cut : PartialOpening next) :
    scan append strip state (seg ++ next) = append state (seg ++ next) := by
  rw [scan, findNextStreamSentinel_eq_none plain cut]

/-- A parser's step over one piece. -/
def readPiece (append : State → List Char → State)
    (strip : State → SentinelKind → List Char → State) (state : State) : Piece loads → State
  | .letter character _ => append state [character]
  | .sentinel built => strip state built.kind built.payload

theorem scan_wire (empty : ∀ state, append state [] = state)
    (joins : ∀ state first second, append (append state first) second =
      append state (first ++ second)) (cut : PartialOpening next) (pieces : List (Piece loads)) :
    scan append strip state (wire pieces ++ next) =
      append (pieces.foldl (readPiece append strip) state) next := by
  have behind : ∀ (pieces : List (Piece loads)) (state : State) (seg : List Char),
      separator ∉ seg → scan append strip state (seg ++ (wire pieces ++ next)) =
        append (pieces.foldl (readPiece append strip) (append state seg)) next := by
    intro pieces
    induction pieces with
    | nil =>
      intro state seg plain
      exact (scan_plain plain cut).trans (joins state seg next).symm
    | cons piece pieces ih =>
      intro state seg plain
      cases piece with
      | letter character plainly =>
        have longer : separator ∉ seg ++ [character] := by
          simpa [plain] using Ne.symm plainly
        have read := ih state (seg ++ [character]) longer
        rw [List.append_assoc] at read
        rw [List.foldl_cons, readPiece, joins]
        exact read
      | sentinel built =>
        have read := ih (strip (append state seg) built.kind built.payload) [] List.not_mem_nil
        rw [empty] at read
        rw [List.foldl_cons, readPiece, ← read, List.nil_append,
          ← scan_sentinel plain built.unseparated]
        simp only [wire, List.flatMap_cons, Piece.wire, List.append_assoc, List.cons_append,
          List.nil_append]
  have read := behind pieces state [] List.not_mem_nil
  rwa [empty] at read

end Scans

section Segments

variable {prose : Prose} {first second text : List Char} {character : Char}

theorem hasVisible_append (first second : List Char) :
    hasVisible (first ++ second) = (hasVisible first || hasVisible second) := List.any_append

theorem startsVisibly_append (nonempty : first ≠ []) (second : List Char) :
    startsVisibly (first ++ second) = startsVisibly first := by
  cases first with
  | nil => exact absurd rfl nonempty
  | cons head tail => rfl

theorem endsVisibly_append (first : List Char) (nonempty : second ≠ []) :
    endsVisibly (first ++ second) = endsVisibly second := by
  unfold endsVisibly
  rw [List.getLast?_append_of_ne_nil _ nonempty]

theorem startsVisibly_eq_false (blank : hasVisible text = false) : startsVisibly text = false := by
  cases text with
  | nil => rfl
  | cons head tail =>
    simp only [hasVisible, List.any_cons, Bool.or_eq_false_iff] at blank
    exact blank.1

theorem endsVisibly_eq_false (blank : hasVisible text = false) : endsVisibly text = false := by
  unfold endsVisibly
  cases last : text.getLast? with
  | none => rfl
  | some character =>
    rw [hasVisible, List.any_eq_false] at blank
    simpa using blank character (List.mem_of_getLast? last)

theorem Prose.append_nil (prose : Prose) : prose.append [] = prose := by
  simp [Prose.append]

/-- Text joins the clean text the same way in one segment and in two. -/
theorem Prose.append_append (prose : Prose) (first second : List Char) :
    (prose.append first).append second = prose.append (first ++ second) := by
  by_cases none : first = []
  · subst none
    rw [Prose.append_nil, List.nil_append]
  by_cases done : second = []
  · subst done
    rw [Prose.append_nil, List.append_nil]
  have starts := startsVisibly_append none second
  have ends := endsVisibly_append prose.text none
  cases pending : prose.weldPending with
  | false => simp [Prose.append, none, done, pending]
  | true =>
    cases visible : hasVisible first with
    | true => simp [Prose.append, none, done, pending, visible, starts, hasVisible_append]
    | false =>
      simp [Prose.append, none, done, pending, visible, starts, ends, hasVisible_append,
        startsVisibly_eq_false visible, endsVisibly_eq_false visible]

theorem Prose.append_singleton (prose : Prose) (character : Char) : prose.append [character] =
      { text := prose.text ++ (if prose.weldPending && endsVisibly prose.text &&
          !isSpace character then paragraph else []) ++ [character]
        weldPending := prose.weldPending && isSpace character } := by
  cases pending : prose.weldPending <;> cases blank : isSpace character <;>
    cases ends : endsVisibly prose.text <;>
      simp [Prose.append, hasVisible, startsVisibly, pending, blank, ends]

theorem ServerState.append_append (state : ServerState) (first second : List Char) :
    (state.append first).append second = state.append (first ++ second) := by
  simp [append, Prose.append_append]

theorem ServerState.append_nil (state : ServerState) : state.append [] = state := by
  simp [append, Prose.append_nil]

theorem StripState.appendVisible_appendVisible (state : StripState) (first second : List Char) :
    (state.appendVisible first).appendVisible second = state.appendVisible (first ++ second) := by
  simp [StripState.appendVisible, Prose.append_append, hasVisible_append, Bool.or_assoc]

theorem StripState.appendVisible_nil (state : StripState) : state.appendVisible [] = state := by
  simp [StripState.appendVisible, Prose.append_nil, hasVisible]

end Segments

section Parsers

variable (loads : List Char → Option Payload)

def serverRead (pieces : List (Piece loads)) : ServerState :=
  pieces.foldl (readPiece ServerState.append (ServerState.strip loads 0)) .initial

def clientRead (pieces : List (Piece loads)) : StripState :=
  pieces.foldl (readPiece StripState.appendVisible (StripState.strip loads)) .initial

theorem parseStreamSentinels_wire (pieces : List (Piece loads)) :
    parseStreamSentinels loads (wire pieces) 0 =
      ((serverRead loads pieces).result.text, (serverRead loads pieces).toolParts,
        (serverRead loads pieces).parts) := by
  have read := @scan_wire loads _ _ (strip loads 0) .initial _
    append_nil append_append partialOpening_nil pieces
  rw [List.append_nil, append_nil] at read
  unfold parseStreamSentinels
  split
  next absent =>
    -- Without a sentinel the whole text is one segment.
    have plain : findNextStreamSentinel (wire pieces) = none :=
      closestSentinel_eq_none fun kind => absent kind (mem_streamSentinels kind)
    rw [scan, plain] at read
    rw [serverRead, ← read]
    by_cases empty : wire pieces = [] <;>
      simp [append, initial, Prose.append, empty]
  next => exact congrArg (fun state : ServerState => (state.result.text, state.toolParts,
      state.parts)) read

theorem stripStreamSentinels_wire (cut : PartialOpening next) (pieces : List (Piece loads)) :
    stripStreamSentinels loads (wire pieces ++ next) =
      (clientRead loads pieces).appendVisible next :=
  scan_wire StripState.appendVisible_nil StripState.appendVisible_appendVisible cut pieces

end Parsers

section Stripping

variable {loads : List Char → Option Payload}

theorem Payload.truthy_of_isDict {payload : Payload} (dict : payload.isDict = true) :
    payload.truthy = true := by
  cases payload <;> first | rfl | exact nomatch dict

theorem Payload.truthy_of_hasTextType {payload : Payload} (typed : payload.hasTextType = true) :
    payload.truthy = true := by
  cases payload <;> first | rfl | exact nomatch typed

theorem strip_tool (built : Sentinel loads) (kind : built.kind = .tool) :
    ∃ evt : Payload, (∀ state : StripState, state.strip loads built.kind built.payload =
        { state with
          tools := state.tools ++ [⟨evt, state.textBefore.text.length, state.seq⟩]
          seq := state.seq + 1 }) ∧
      ∀ state : ServerState, state.strip loads 0 built.kind built.payload = { state with
          toolParts := state.toolParts ++ [⟨evt, state.result.text.length, state.seq⟩]
          seq := state.seq + 1 } := by
  obtain ⟨evt, decoded, dict, phase⟩ := built.tool kind
  refine ⟨evt, fun state => ?_, fun state => ?_⟩
  · simp [StripState.strip, kind, decoded, Payload.truthy_of_isDict dict, phase]
  · simp [strip, kind, decoded, dict]

theorem strip_part (built : Sentinel loads) (kind : built.kind = .part) :
    ∃ part : Payload, (∀ state : StripState, state.strip loads built.kind built.payload =
        { state with
          parts := state.parts ++ [⟨part, state.textBefore.text.length, state.seq⟩]
          seq := state.seq + 1 }) ∧
      ∀ state : ServerState, state.strip loads 0 built.kind built.payload = { state with
          parts := state.parts ++ [⟨part, state.result.text.length, state.seq⟩]
          seq := state.seq + 1 } := by
  obtain ⟨part, decoded, typed⟩ := built.part kind
  refine ⟨part, fun state => ?_, fun state => ?_⟩
  · simp [StripState.strip, kind, decoded, Payload.truthy_of_hasTextType typed, typed]
  · simp [strip, kind, decoded, typed]

end Stripping

section Holding

variable {kind : SentinelKind} {text base front back payload next : List Char}

theorem holdOpenSentinel_open (unseparated : separator ∉ payload) (base : List Char) :
    holdOpenSentinel (base ++ (kind.opening ++ payload)) = (base, kind.opening ++ payload) := by
  have bounded : base.length ≤ (base ++ (kind.opening ++ payload)).length := by simp
  have here : lastIndexOf kind.opening (base ++ (kind.opening ++ payload)) = some base.length := by
    refine lastIndexOf_eq_some bounded ?_ ?_
    · rw [OccursAt, List.drop_left]
      exact List.prefix_append _ _
    · intro later beyond _ occurs
      obtain ⟨inner, rfl⟩ := Nat.exists_eq_add_of_lt beyond
      rw [Nat.add_assoc, occursAt_append] at occurs
      have listed := List.mem_of_mem_drop (i := inner)
        (occurs.subset (List.mem_cons_self : separator ∈ kind.opening))
      rcases List.mem_append.mp listed with inside | inside
      · exact separator_notMem_label kind inside
      · exact unseparated inside
  have located : findLastOpenStreamSentinel (base ++ (kind.opening ++ payload)) =
      some (kind, base.length) := by
    refine closestSentinel_eq_some here ?_
    intro other different found seen
    obtain ⟨within, occurs⟩ := lastIndexOf_le_of_eq_some seen
    have before : found < base.length := by
      by_contra beyond
      obtain ⟨inner, rfl⟩ := Nat.exists_eq_add_of_le (Nat.le_of_not_lt beyond)
      rw [occursAt_append] at occurs
      cases inner with
      | zero => exact different (eq_of_openings occurs (List.prefix_append _ _))
      | succ inner =>
        have listed := List.mem_of_mem_drop (i := inner)
          (occurs.subset (List.mem_cons_self : separator ∈ other.opening))
        rcases List.mem_append.mp listed with inside | inside
        · exact separator_notMem_label kind inside
        · exact unseparated inside
    simp only [decide_eq_true_eq, decide_eq_false_iff_not]
    omega
  have unclosed : indexOf [separator] ((base ++ (kind.opening ++ payload)).drop
      (base.length + kind.opening.length)) = none := by
    rw [← List.drop_drop, List.drop_left, List.drop_left]
    exact indexOf_singleton_eq_none unseparated
  unfold holdOpenSentinel
  rw [located]
  dsimp only
  rw [unclosed, List.take_left, List.drop_left]

theorem holdOpenSentinel_closed (last : separator ∉ back)
    (unlabelled : ∀ kind : SentinelKind, ¬ kind.label <+: back) (front : List Char) :
    holdOpenSentinel (front ++ separator :: back) = (front ++ separator :: back, []) := by
  unfold holdOpenSentinel
  cases selected : findLastOpenStreamSentinel (front ++ separator :: back) with
  | none => rfl
  | some found =>
    obtain ⟨kind, idx⟩ := found
    obtain ⟨_, occurs⟩ := lastIndexOf_le_of_eq_some (find_of_closestSentinel selected)
    dsimp only
    cases closed : indexOf [separator] ((front ++ separator :: back).drop
        (idx + kind.opening.length)) with
    | some close => rfl
    | none =>
      have unseparated := notMem_of_indexOf_eq_none closed
      rw [← List.drop_drop] at unseparated
      obtain ⟨rest, whole⟩ := occurs
      rw [← whole, List.drop_left] at unseparated
      rcases lt_trichotomy idx front.length with before | here | beyond
      · rw [List.drop_append_of_le_length (le_of_lt before)] at whole
        have some : front.drop idx ≠ [] := by
          simpa [List.drop_eq_nil_iff] using before
        rcases List.append_eq_append_iff.mp whole with
          ⟨middle, _, later⟩ | ⟨middle, opened, later⟩
        · exact absurd (later ▸ List.mem_append_right _ List.mem_cons_self) unseparated
        · cases middle with
          | nil =>
            rw [List.nil_append] at later
            rw [← later] at unseparated
            exact absurd List.mem_cons_self unseparated
          | cons letter middle =>
            cases later
            obtain ⟨head, ahead, cut⟩ := List.exists_cons_of_ne_nil some
            rw [cut, List.cons_append] at opened
            have label : kind.label = ahead ++ separator :: middle :=
              (List.cons.inj opened).2
            exact absurd (label ▸ List.mem_append_right _ List.mem_cons_self)
              (separator_notMem_label kind)
      · subst here
        rw [List.drop_left] at whole
        obtain ⟨_, whole⟩ := List.cons.inj whole
        exact absurd (whole ▸ List.prefix_append _ _) (unlabelled kind)
      · obtain ⟨inner, rfl⟩ := Nat.exists_eq_add_of_lt beyond
        rw [Nat.add_assoc, ← List.drop_drop, List.drop_left, List.drop_succ_cons] at whole
        have listed : separator ∈ back.drop inner := by
          rw [← whole]
          exact List.mem_cons_self
        exact absurd (List.mem_of_mem_drop listed) last

theorem holdOpenSentinel_plain (plain : separator ∉ text) : holdOpenSentinel text = (text, []) := by
  have absent : findLastOpenStreamSentinel text = none := by
    refine closestSentinel_eq_none fun kind => lastIndexOf_eq_none fun index _ occurs => ?_
    exact plain (List.mem_of_mem_drop (occurs.subset List.mem_cons_self))
  rw [holdOpenSentinel, absent]

theorem eq_length_of_drop_prefix (plain : separator ∉ base) (cut : PartialOpening next) {size : ℕ}
    (positive : 0 < size) (bounded : size ≤ (base ++ next).length)
    (begins : (base ++ next).drop ((base ++ next).length - size) <+: kind.opening) :
    size = next.length := by
  have length : ((base ++ next).drop ((base ++ next).length - size)).length = size := by
    rw [List.length_drop]
    omega
  cases tail : (base ++ next).drop ((base ++ next).length - size) with
  | nil =>
    rw [tail] at length
    exact absurd length (Nat.ne_of_lt positive)
  | cons head rest =>
    rw [tail] at begins
    obtain ⟨rfl, _⟩ := List.cons_prefix_cons.mp begins
    have occurs : OccursAt [separator] (base ++ next) ((base ++ next).length - size) := by
      rw [OccursAt, tail]
      exact List.cons_prefix_cons.mpr ⟨rfl, List.nil_prefix⟩
    have behind := le_of_occursAt plain occurs
    obtain ⟨inner, position⟩ := Nat.exists_eq_add_of_le behind
    rw [position, occursAt_append] at occurs
    have nonempty : next ≠ [] := by
      rintro rfl
      rw [OccursAt, List.drop_nil] at occurs
      exact absurd occurs.length_le (not_succ_le_zero _)
    obtain ⟨label, rfl, unseparated⟩ := cut.eq_cons nonempty
    cases inner with
    | zero =>
      simp only [List.length_append] at position bounded ⊢
      omega
    | succ inner =>
      have listed : separator ∈ label.drop inner := occurs.subset List.mem_cons_self
      exact absurd (List.mem_of_mem_drop listed) unseparated

theorem drop_length_sub (base next : List Char) :
    (base ++ next).drop ((base ++ next).length - next.length) = next := by
  simp

theorem take_length_sub (base next : List Char) :
    (base ++ next).take ((base ++ next).length - next.length) = base := by
  simp

theorem cutOpening_eq_some (plain : separator ∉ base) (cut : PartialOpening next)
    {result : List Char × List Char} (found : cutOpening (base ++ next) kind = some result) :
    result = (base, next) := by
  obtain ⟨size, here, rfl⟩ := Option.map_eq_some_iff.mp found
  have listed := List.mem_of_find?_eq_some here
  have begins := List.find?_some here
  simp only [List.mem_reverse, List.mem_map, List.mem_range] at listed
  obtain ⟨index, small, rfl⟩ := listed
  have same : index + 1 = next.length := eq_length_of_drop_prefix plain cut (succ_pos index)
    (by omega) (List.isPrefixOf_iff_prefix.mp begins)
  rw [same, take_length_sub, drop_length_sub]

theorem cutOpening_isSome (begins : next <+: kind.opening) (short : next ≠ kind.opening)
    (nonempty : next ≠ []) (base : List Char) : (cutOpening (base ++ next) kind).isSome := by
  have shorter : next.length < kind.opening.length :=
    lt_of_le_of_ne begins.length_le fun equal => short (begins.eq_of_length equal)
  have positive : 0 < next.length := List.length_pos_iff.mpr nonempty
  unfold cutOpening
  rw [Option.isSome_map, List.find?_isSome]
  refine ⟨next.length, ?_, ?_⟩
  · simp only [List.mem_reverse, List.mem_map, List.mem_range, List.length_append]
    exact ⟨next.length - 1, by omega, by omega⟩
  · rw [drop_length_sub]
    exact List.isPrefixOf_iff_prefix.mpr begins

theorem trimPartialStreamSentinel_cut (plain : separator ∉ base) (cut : PartialOpening next) :
    trimPartialStreamSentinel (base ++ next) = (base, next) := by
  unfold trimPartialStreamSentinel
  cases selected : streamSentinels.findSome? (cutOpening (base ++ next)) with
  | some result =>
    obtain ⟨kind, _, found⟩ := List.exists_of_findSome?_eq_some selected
    exact cutOpening_eq_some plain cut found
  | none =>
    by_cases empty : next = []
    · rw [empty, List.append_nil, Option.getD_none]
    · obtain ⟨kind, begins, short⟩ := cut
      have absent := List.findSome?_eq_none_iff.mp selected kind (mem_streamSentinels kind)
      have found := cutOpening_isSome begins short empty base
      rw [absent] at found
      exact nomatch found

end Holding

end Kestrel.Chat
