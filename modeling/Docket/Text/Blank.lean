/-!
# Blank text

White space is the Unicode property `White_Space`: 25 characters, more than
core's ASCII class. Text is trimmed at both ends by that property, and it is
blank when nothing is left.

Main statement: `isBlank_iff_trim`, blank text is the text that trims to
nothing.
-/

namespace Docket.Text

/-- The characters with the Unicode property `White_Space`. -/
def isSpace (c : Char) : Bool :=
  (9 ≤ c.toNat && c.toNat ≤ 13) || c.toNat == 0x20 || c.toNat == 0x85 || c.toNat == 0xA0
    || c.toNat == 0x1680 || (0x2000 ≤ c.toNat && c.toNat ≤ 0x200A)
    || c.toNat == 0x2028 || c.toNat == 0x2029 || c.toNat == 0x202F
    || c.toNat == 0x205F || c.toNat == 0x3000

/-- The characters without the white space at either end. -/
def trimChars (cs : List Char) : List Char :=
  ((cs.dropWhile isSpace).reverse.dropWhile isSpace).reverse

/-- The text without the white space at either end. -/
def trim (s : String) : String :=
  String.ofList (trimChars s.toList)

/-- Nothing but white space, or nothing at all. -/
def isBlank (s : String) : Bool :=
  s.toList.all isSpace

/-- The trimmed text, if anything is left of it. -/
def filled? (s : String) : Option String :=
  if isBlank s then none else some (trim s)

@[simp] theorem toList_trim (s : String) : (trim s).toList = trimChars s.toList := by
  simp [trim]

/-- Nothing is left of a list after its leading spaces exactly when it is
all spaces. -/
theorem dropWhile_isSpace_eq_nil {cs : List Char} :
    cs.dropWhile isSpace = [] ↔ ∀ c ∈ cs, isSpace c = true := by
  induction cs with
  | nil => simp
  | cons c rest ih => by_cases h : isSpace c <;> simp [h, ih]

/-- What is left after the leading spaces is nothing but spaces only when it
is empty. -/
theorem dropWhile_isSpace_eq_nil_of_all {cs : List Char}
    (h : ∀ c ∈ cs.dropWhile isSpace, isSpace c = true) : cs.dropWhile isSpace = [] := by
  induction cs with
  | nil => rfl
  | cons c rest ih =>
      by_cases hc : isSpace c
      · simp only [List.dropWhile_cons, hc, if_true] at h ⊢
        exact ih h
      · simp [hc] at h

/-- Blank text is the text that trims to nothing. -/
theorem isBlank_iff_trim (s : String) : isBlank s = true ↔ trim s = "" := by
  have hnil : trim s = "" ↔ trimChars s.toList = [] := by
    constructor <;> intro h
    · simpa using congrArg String.toList h
    · simp [trim, h]
  rw [hnil, isBlank, List.all_eq_true, trimChars, List.reverse_eq_nil_iff,
    dropWhile_isSpace_eq_nil, ← dropWhile_isSpace_eq_nil]
  constructor
  · intro h; simp [h]
  · intro h; exact dropWhile_isSpace_eq_nil_of_all (by simpa using h)

end Docket.Text
