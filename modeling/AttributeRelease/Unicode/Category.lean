import AttributeRelease.Unicode.CategoryTable
import AttributeRelease.Unicode.PropertyTable
import AttributeRelease.Unicode.ScriptTable

/-!
# Sets of code points by name

General categories and their groups, binary properties and scripts, looked up by the names that
`looseName` makes alike: case, blanks, hyphens and underscores do not count, nor does `is` in front.
-/

namespace AttributeRelease.Unicode

/-- The code points of a category by its two-letter name. -/
def categorySet (name : String) : CodeSet := (Category.table.lookup name).getD .empty

/-- The code points of several categories. -/
def categoriesSet (names : List String) : CodeSet :=
  names.foldl (fun set name => set.union (categorySet name)) .empty

/-- All categories whose names begin with a letter. -/
def groupSet (letter : Char) : CodeSet :=
  categoriesSet ((Category.table.map Prod.fst).filter fun name => name.toList.head? == some letter)

/-- The surrogates, which are no characters. -/
def surrogates : CodeSet := .range 0xD800 0xDFFF

/-- The code points that are assigned to no character. -/
def unassigned : CodeSet :=
  ((categoriesSet (Category.table.map Prod.fst)).union surrogates).complement

/-- The code points with a binary property. -/
def Property.set (property : Property) : CodeSet :=
  let base := (categoriesSet property.categories).union (.read property.others)
  if property.exceptions.isEmpty then base else base.diff (.read property.exceptions)

/-- The code points of a binary property by one of its names. -/
def property? (name : String) : Option CodeSet :=
  (Property.table.find? fun property => name ∈ property.names).map Property.set

/-- The code points with a property that is known to be in the table. -/
def propertySet (name : String) : CodeSet := (property? name).getD .empty

/-- The names of the general categories, long and short. -/
def categoryNames : List (List String × String) := [
  (["cc", "control", "cntrl"], "Cc"), (["cf", "format"], "Cf"), (["co", "privateuse"], "Co"),
  (["ll", "lowercaseletter"], "Ll"), (["lm", "modifierletter"], "Lm"),
  (["lo", "otherletter"], "Lo"), (["lt", "titlecaseletter"], "Lt"),
  (["lu", "uppercaseletter"], "Lu"),
  (["mc", "spacingmark"], "Mc"), (["me", "enclosingmark"], "Me"), (["mn", "nonspacingmark"], "Mn"),
  (["nd", "decimalnumber", "digit"], "Nd"), (["nl", "letternumber"], "Nl"),
  (["no", "othernumber"], "No"), (["pc", "connectorpunctuation"], "Pc"),
  (["pd", "dashpunctuation"], "Pd"), (["pe", "closepunctuation"], "Pe"),
  (["pf", "finalpunctuation"], "Pf"), (["pi", "initialpunctuation"], "Pi"),
  (["po", "otherpunctuation"], "Po"), (["ps", "openpunctuation"], "Ps"),
  (["sc", "currencysymbol"], "Sc"), (["sk", "modifiersymbol"], "Sk"), (["sm", "mathsymbol"], "Sm"),
  (["so", "othersymbol"], "So"), (["zl", "lineseparator"], "Zl"),
  (["zp", "paragraphseparator"], "Zp"), (["zs", "spaceseparator"], "Zs")]

/-- The names of the groups of categories with a common first letter. -/
def groupNames : List (List String × Char) := [
  (["l", "letter"], 'L'), (["m", "mark", "combiningmark"], 'M'), (["n", "number"], 'N'),
  (["p", "punctuation", "punct"], 'P'), (["s", "symbol"], 'S'), (["z", "separator"], 'Z')]

/-- The code points of a general category or a group of them. -/
def category? (name : String) : Option CodeSet :=
  if name = "any" then some .full
  else if name = "ascii" then some (.range 0 0x7F)
  else if name = "assigned" then some unassigned.complement
  else if name = "cn" ∨ name = "unassigned" then some unassigned
  else if name = "c" ∨ name = "other" then some ((groupSet 'C').union unassigned)
  else if name = "lc" ∨ name = "casedletter" then some (categoriesSet ["Ll", "Lt", "Lu"])
  else
    match groupNames.find? fun entry => name ∈ entry.1 with
    | some (_, letter) => some (groupSet letter)
    | none =>
      (categoryNames.find? fun entry => name ∈ entry.1).map fun entry => categorySet entry.2

/-- The code points of a script. -/
def script? (name : String) : Option CodeSet :=
  (Script.table.find? fun entry => name ∈ entry.1).map fun entry => entry.2.1

/-- The code points used with a script. -/
def scriptExtension? (name : String) : Option CodeSet :=
  (Script.table.find? fun entry => name ∈ entry.1).map fun entry => entry.2.2.getD entry.2.1

/-- A name without what does not count in it. -/
def looseName (name : String) : String :=
  let chars := name.toList
  let (stripped, rest) :=
    match chars with
    | first :: second :: rest =>
      if first.toLower = 'i' ∧ second.toLower = 's' then (true, rest) else (false, chars)
    | _ => (false, chars)
  let loose := (rest.filter fun c => c ≠ ' ' ∧ c ≠ '_' ∧ c ≠ '-' ∧ c.toNat < 128).map Char.toLower
  if stripped ∧ loose = ['c'] then "isc" else String.ofList loose

/-- The code points of a class given by a single name. A few short names belong to a category or
script and not to the property that shares them. -/
def named? (name : String) : Option CodeSet :=
  let name := looseName name
  let fromProperty := if name ∈ ["cf", "sc", "lc"] then none else property? name
  (fromProperty.or (category? name)).or (script? name)

/-- The code points of a class given by the name and the value of a property. -/
def valued? (property value : String) : Option CodeSet :=
  let value := looseName value
  match looseName property with
  | "gc" | "generalcategory" => category? value
  | "sc" | "script" => script? value
  | "scx" | "scriptextensions" => scriptExtension? value
  | _ => none

/-! ## The sets behind common classes -/

/-- Decimal digits. -/
def digits : CodeSet := categorySet "Nd"

/-- White space. -/
def spaces : CodeSet := propertySet "whitespace"

/-- Letters, marks, decimal digits, connecting punctuation and the joiners. -/
def wordCharacters : CodeSet :=
  (((propertySet "alphabetic").union (groupSet 'M')).union
    (categoriesSet ["Nd", "Pc"])).union (propertySet "joincontrol")

/-- Characters with the property `Alphabetic`. -/
def isAlphabetic (c : Char) : Bool := (propertySet "alphabetic").contains c.toNat

/-- Alphabetic characters and numbers. -/
def isAlphanumeric (c : Char) : Bool :=
  isAlphabetic c || (groupSet 'N').contains c.toNat

end AttributeRelease.Unicode
