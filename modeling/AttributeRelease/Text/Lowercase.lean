import AttributeRelease.Unicode.CaseTable
import AttributeRelease.Unicode.Category

/-!
# Lower case

The lower case of a text maps each character by the Unicode tables. Two rules go beyond them: the
dotted capital I becomes two characters, and a capital sigma at the end of a word becomes the final
sigma: a cased letter stands before it and none behind it, characters that case ignores not counted.
-/

namespace AttributeRelease.Text

open Unicode

/-- The lower case of a character by itself. -/
def lowerChar (c : Char) : List Char :=
  if c.toNat < 128 then [c.toLower]
  else if c = 'İ' then ['i', '\u0307']
  else
    match lowerTable.find? fun run => run.contains c.toNat with
    | some run => [Char.ofNat (c.toNat + run.shift).toNat]
    | none => [c]

/-- Characters that do not count when the end of a word is looked for. -/
def isCaseIgnorable (c : Char) : Bool := (propertySet "caseignorable").contains c.toNat

/-- Characters that have case. -/
def isCased (c : Char) : Bool := (propertySet "cased").contains c.toNat

/-- Whether the first character that counts has case. -/
def startsCased (chars : List Char) : Bool :=
  match chars.dropWhile isCaseIgnorable with
  | c :: _ => isCased c
  | [] => false

/-- The lower case of a list of characters behind others, which are given backwards. -/
def lowerAfter : List Char → List Char → List Char
  | _, [] => []
  | before, c :: rest =>
    let lowered :=
      if c = 'Σ' then
        if startsCased before && !startsCased rest then ['ς'] else ['σ']
      else lowerChar c
    lowered ++ lowerAfter (c :: before) rest

/-- The lower case of a text. -/
def lowercase (text : String) : String := String.ofList (lowerAfter [] text.toList)

end AttributeRelease.Text
