import Mathlib.Data.List.Basic

/-! # Text predicates -/

namespace Text

open List

/-- The code points that `str.isspace` accepts. -/
def whitespace : List ℕ :=
  [0x09, 0x0A, 0x0B, 0x0C, 0x0D, 0x1C, 0x1D, 0x1E, 0x1F, 0x20, 0x85, 0xA0, 0x1680, 0x2000, 0x2001,
    0x2002, 0x2003, 0x2004, 0x2005, 0x2006, 0x2007, 0x2008, 0x2009, 0x200A, 0x2028, 0x2029,
    0x202F, 0x205F, 0x3000]

def isSpace (character : Char) : Bool := character.toNat ∈ whitespace

/-- Nothing is left of the text after `strip`. -/
def isBlank (value : String) : Bool := value.toList.all isSpace

/-- `value.strip()`. -/
def strip (value : String) : String :=
  String.ofList ((value.toList.dropWhile isSpace).reverse.dropWhile isSpace).reverse

theorem toList_strip (value : String) : (strip value).toList =
      ((value.toList.dropWhile isSpace).reverse.dropWhile isSpace).reverse := by
  unfold strip
  rw [String.toList_ofList]

/-- A text whose ends are not white space is stripped. -/
theorem strip_eq_self {value : String} (first : ∀ letter ∈ value.toList.head?, isSpace letter = false)
    (last : ∀ letter ∈ value.toList.getLast?, isSpace letter = false) : strip value = value := by
  apply String.toList_injective
  rw [toList_strip]
  have front : value.toList.dropWhile isSpace = value.toList := by
    cases text : value.toList with
    | nil => rfl
    | cons letter rest =>
      rw [text] at first
      rw [dropWhile_cons, if_neg (by simp [first letter rfl])]
  rw [front]
  have back : value.toList.reverse.dropWhile isSpace = value.toList.reverse := by
    cases text : value.toList.reverse with
    | nil => rfl
    | cons letter rest =>
      have final : value.toList.getLast? = some letter := by
        rw [getLast?_eq_head?_reverse, text, head?_cons]
      rw [dropWhile_cons, if_neg (by simp [last letter final])]
  rw [back, reverse_reverse]

theorem strip_idem (value : String) : strip (strip value) = strip value := by
  apply strip_eq_self
  · intro letter found
    rw [toList_strip, head?_reverse] at found
    set front := value.toList.dropWhile isSpace with known
    have begins : ∀ first ∈ front.head?, isSpace first = false := by
      intro first member
      have := head?_dropWhile_not isSpace value.toList
      rw [Option.mem_def.mp member] at this
      simpa using this
    have suffix := dropWhile_suffix isSpace (l := front.reverse)
    obtain ⟨dropped, split⟩ := suffix
    have ends : front.head? = some letter := by
      have last := congrArg getLast? split
      rw [getLast?_append, Option.mem_def.mp found, Option.some_or, getLast?_reverse] at last
      exact last.symm
    exact begins letter ends
  · intro letter found
    rw [toList_strip, getLast?_reverse] at found
    have := head?_dropWhile_not isSpace (value.toList.dropWhile isSpace).reverse
    rw [Option.mem_def.mp found] at this
    simpa using this

theorem isBlank_strip (value : String) : isBlank (strip value) = isBlank value := by
  have dropped : ∀ letters : List Char,
      (letters.dropWhile isSpace).all isSpace = letters.all isSpace := by
    intro letters
    induction letters with
    | nil => rfl
    | cons letter letters ih =>
      rw [dropWhile_cons]
      by_cases space : isSpace letter = true
      · rw [if_pos space, ih, all_cons, space, Bool.true_and]
      · rw [if_neg space]
  unfold isBlank
  rw [toList_strip, all_reverse, dropped, all_reverse, dropped]

/-- The ranges of the code points that `str.isdigit` accepts. -/
def digitRanges : List (ℕ × ℕ) :=
  [(0x30, 0x39), (0xB2, 0xB3), (0xB9, 0xB9), (0x660, 0x669), (0x6F0, 0x6F9), (0x7C0, 0x7C9),
    (0x966, 0x96F), (0x9E6, 0x9EF), (0xA66, 0xA6F), (0xAE6, 0xAEF), (0xB66, 0xB6F), (0xBE6, 0xBEF),
    (0xC66, 0xC6F), (0xCE6, 0xCEF), (0xD66, 0xD6F), (0xDE6, 0xDEF), (0xE50, 0xE59), (0xED0, 0xED9),
    (0xF20, 0xF29), (0x1040, 0x1049), (0x1090, 0x1099), (0x1369, 0x1371), (0x17E0, 0x17E9),
    (0x1810, 0x1819), (0x1946, 0x194F), (0x19D0, 0x19DA), (0x1A80, 0x1A89), (0x1A90, 0x1A99),
    (0x1B50, 0x1B59), (0x1BB0, 0x1BB9), (0x1C40, 0x1C49), (0x1C50, 0x1C59), (0x2070, 0x2070),
    (0x2074, 0x2079), (0x2080, 0x2089), (0x2460, 0x2468), (0x2474, 0x247C), (0x2488, 0x2490),
    (0x24EA, 0x24EA), (0x24F5, 0x24FD), (0x24FF, 0x24FF), (0x2776, 0x277E), (0x2780, 0x2788),
    (0x278A, 0x2792), (0xA620, 0xA629), (0xA8D0, 0xA8D9), (0xA900, 0xA909), (0xA9D0, 0xA9D9),
    (0xA9F0, 0xA9F9), (0xAA50, 0xAA59), (0xABF0, 0xABF9), (0xFF10, 0xFF19), (0x104A0, 0x104A9),
    (0x10A40, 0x10A43), (0x10D30, 0x10D39), (0x10E60, 0x10E68), (0x11052, 0x1105A),
    (0x11066, 0x1106F), (0x110F0, 0x110F9), (0x11136, 0x1113F), (0x111D0, 0x111D9),
    (0x112F0, 0x112F9), (0x11450, 0x11459), (0x114D0, 0x114D9), (0x11650, 0x11659),
    (0x116C0, 0x116C9), (0x11730, 0x11739), (0x118E0, 0x118E9), (0x11950, 0x11959),
    (0x11C50, 0x11C59), (0x11D50, 0x11D59), (0x11DA0, 0x11DA9), (0x16A60, 0x16A69),
    (0x16AC0, 0x16AC9), (0x16B50, 0x16B59), (0x1D7CE, 0x1D7FF), (0x1E140, 0x1E149),
    (0x1E2F0, 0x1E2F9), (0x1E950, 0x1E959), (0x1F100, 0x1F10A), (0x1FBF0, 0x1FBF9)]

/-- `value.isdigit()`. -/
def isDigits (value : String) : Bool :=
  value ≠ "" ∧ value.toList.all fun character =>
    digitRanges.any fun (first, last) => first ≤ character.toNat ∧ character.toNat ≤ last

end Text
