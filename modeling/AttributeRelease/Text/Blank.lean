/-!
# Blank text

Texts made only of white space count as blank. White space is the Unicode property
`White_Space`; its 25 characters are `isSpace`.
-/

namespace AttributeRelease.Text

/-- The characters with the Unicode property `White_Space`. -/
def isSpace (c : Char) : Bool :=
  let code := c.toNat
  (0x9 ≤ code && code ≤ 0xD) || code == 0x20 || code == 0x85 || code == 0xA0 || code == 0x1680 ||
    (0x2000 ≤ code && code ≤ 0x200A) || code == 0x2028 || code == 0x2029 || code == 0x202F ||
    code == 0x205F || code == 0x3000

/-- A text is blank when nothing but white space stands in it. -/
def isBlank (text : String) : Bool := text.toList.all isSpace

/-- The list without the spaces before its first and after its last other character. -/
def trimList (chars : List Char) : List Char :=
  ((chars.dropWhile isSpace).reverse.dropWhile isSpace).reverse

/-- The text without leading and trailing white space. -/
def trim (text : String) : String := String.ofList (trimList text.toList)

theorem dropWhile_of_solid {chars : List Char} (solid : ∀ c ∈ chars, isSpace c = false) :
    chars.dropWhile isSpace = chars := by
  cases chars with
  | nil => rfl
  | cons c rest =>
      have first := solid c List.mem_cons_self
      rw [List.dropWhile_cons_of_neg (by simp [first])]

theorem trimList_of_solid {chars : List Char} (solid : ∀ c ∈ chars, isSpace c = false) :
    trimList chars = chars := by
  have reversed : ∀ c ∈ chars.reverse, isSpace c = false := fun c member =>
    solid c (List.mem_reverse.mp member)
  rw [trimList, dropWhile_of_solid solid, dropWhile_of_solid reversed, List.reverse_reverse]

/-- Nothing is left of a trimmed text that is blank. -/
theorem trim_eq_empty_of_isBlank {text : String} (blank : isBlank (trim text) = true) :
    trim text = "" := by
  rw [isBlank, trim, String.toList_ofList, trimList, List.all_reverse] at blank
  have ends := List.head?_dropWhile_not isSpace (text.toList.dropWhile isSpace).reverse
  rw [trim, trimList]
  cases left : (text.toList.dropWhile isSpace).reverse.dropWhile isSpace with
  | nil => rfl
  | cons c rest =>
      rw [left, List.all_cons] at blank
      rw [left, List.head?_cons] at ends
      have white := (Bool.and_eq_true_iff.mp blank).1
      cases white.symm.trans ends

/-- A character that is no blank is never dropped with the blanks before it. -/
theorem mem_dropWhile_of_solid {c : Char} {chars : List Char} (member : c ∈ chars)
    (solid : isSpace c = false) : c ∈ chars.dropWhile isSpace := by
  rw [← List.takeWhile_append_dropWhile (p := isSpace) (l := chars)] at member
  rcases List.mem_append.mp member with leading | left
  · have white := List.all_eq_true.mp List.all_takeWhile c leading
    cases solid.symm.trans white
  · exact left

/-- Trimming drops white space only. -/
theorem mem_trimList_of_solid {c : Char} {chars : List Char} (member : c ∈ chars)
    (solid : isSpace c = false) : c ∈ trimList chars := by
  have started := List.mem_reverse.mpr (mem_dropWhile_of_solid member solid)
  exact List.mem_reverse.mpr (mem_dropWhile_of_solid started solid)

theorem mem_of_mem_trimList {c : Char} {chars : List Char} (member : c ∈ trimList chars) :
    c ∈ chars := by
  have started := (List.dropWhile_sublist isSpace).subset (List.mem_reverse.mp member)
  exact (List.dropWhile_sublist isSpace).subset (List.mem_reverse.mp started)

/-- Trimming leaves nothing of the blank texts, and of no others. -/
theorem trim_eq_empty_iff {text : String} : trim text = "" ↔ isBlank text = true := by
  constructor
  · intro nothing
    apply List.all_eq_true.mpr
    intro c member
    cases solid : isSpace c with
    | true => rfl
    | false =>
        have left := mem_trimList_of_solid member solid
        rw [String.ofList_eq_empty_iff.mp nothing] at left
        cases left
  · intro blank
    apply trim_eq_empty_of_isBlank
    rw [isBlank, trim, String.toList_ofList]
    apply List.all_eq_true.mpr
    intro c left
    exact List.all_eq_true.mp blank c (mem_of_mem_trimList left)

end AttributeRelease.Text
