import AttributeRelease.Json.Basic

/-!
# Reading JSON text

The reader takes one document with white space around it and nothing else: no comments, trailing
commas, leading zeros or control characters inside strings. `Json.parse?` answers `none` for any
other text. Nesting is not limited here; readers of documents set their own limits.
-/

namespace AttributeRelease.Json

/-- The characters that may stand between tokens. -/
def isGap (c : Char) : Bool := c == ' ' || c == '\n' || c == '\t' || c == '\r'

/-- The input without leading gaps. -/
def skipGap (input : List Char) : List Char := input.dropWhile isGap

/-- The value of a hexadecimal digit. -/
def hexValue? (c : Char) : Option Nat :=
  if '0' ≤ c ∧ c ≤ '9' then some (c.toNat - '0'.toNat)
  else if 'a' ≤ c ∧ c ≤ 'f' then some (c.toNat - 'a'.toNat + 10)
  else if 'A' ≤ c ∧ c ≤ 'F' then some (c.toNat - 'A'.toNat + 10)
  else none

/-- The code unit of four hexadecimal digits. -/
def unitOf? (a b c d : Char) : Option Nat := do
  return ((((← hexValue? a) * 16 + (← hexValue? b)) * 16 + (← hexValue? c)) * 16 + (← hexValue? d))

/-- The character that a one-letter escape stands for. -/
def shortEscape? : Char → Option Char
  | '"' => some '"'
  | '\\' => some '\\'
  | '/' => some '/'
  | 'b' => some '\x08'
  | 'f' => some '\x0c'
  | 'n' => some '\n'
  | 'r' => some '\r'
  | 't' => some '\t'
  | _ => none

/-- A piece of a string literal: a character, or a 16-bit unit given by number. -/
inductive Piece where
  | char (c : Char)
  | unit (code : Nat)
  deriving DecidableEq, Repr

/-- Cuts a string literal, whose opening quote is already read, into its pieces. -/
def scanString? : List Char → Option (List Piece × List Char)
  | [] => none
  | '"' :: rest => some ([], rest)
  | '\\' :: 'u' :: a :: b :: c :: d :: rest => do
    let code ← unitOf? a b c d
    let (pieces, rest) ← scanString? rest
    return (.unit code :: pieces, rest)
  | '\\' :: c :: rest => do
    let meant ← shortEscape? c
    let (pieces, rest) ← scanString? rest
    return (.char meant :: pieces, rest)
  | c :: rest =>
    if c < ' ' ∨ c = '\\' then none
    else do
      let (pieces, rest) ← scanString? rest
      return (.char c :: pieces, rest)

/-- Joins the pieces of a string; a surrogate counts only as half of a pair. -/
def joinPieces? : List Piece → Option (List Char)
  | [] => some []
  | .char c :: rest => (joinPieces? rest).map (c :: ·)
  | .unit high :: .unit low :: rest =>
    if 0xD800 ≤ high ∧ high < 0xDC00 then
      if 0xDC00 ≤ low ∧ low < 0xE000 then
        (joinPieces? rest).map
          (Char.ofNat (0x10000 + (high - 0xD800) * 0x400 + (low - 0xDC00)) :: ·)
      else none
    else if 0xDC00 ≤ high ∧ high < 0xE000 then none
    else (joinPieces? (.unit low :: rest)).map (Char.ofNat high :: ·)
  | .unit code :: rest =>
    if 0xD800 ≤ code ∧ code < 0xE000 then none
    else (joinPieces? rest).map (Char.ofNat code :: ·)

/-- The text of a string literal behind its opening quote; the inner `none` stands for a literal
that denotes no text. -/
def stringLiteral? (input : List Char) : Option (Option String × List Char) := do
  let (pieces, rest) ← scanString? input
  return ((joinPieces? pieces).map String.ofList, rest)

/-- The value of a run of decimal digits. -/
def digitsValue (digits : List Char) : Nat :=
  digits.foldl (fun value c => value * 10 + (c.toNat - '0'.toNat)) 0

/-- An exponent behind its `e`: a sign if there is one, and at least one digit. -/
def exponent? (input : List Char) : Option (Int × List Char) :=
  let (negative, input) :=
    match input with
    | '-' :: rest => (true, rest)
    | '+' :: rest => (false, rest)
    | _ => (false, input)
  let digits := input.takeWhile Char.isDigit
  if digits.isEmpty then none
  else
    let value : Int := digitsValue digits
    some (if negative then -value else value, input.dropWhile Char.isDigit)

/-- A number literal behind its sign. -/
def unsigned? (negative : Bool) (input : List Char) : Option (Number × List Char) := do
  let whole := input.takeWhile Char.isDigit
  let rest := input.dropWhile Char.isDigit
  guard (!whole.isEmpty && (whole.length == 1 || whole.head? != some '0'))
  let (fraction, rest) ←
    match rest with
    | '.' :: rest =>
      let fraction := rest.takeWhile Char.isDigit
      if fraction.isEmpty then none else some (fraction, rest.dropWhile Char.isDigit)
    | _ => some ([], rest)
  let shift : Int := -fraction.length
  match rest with
  | 'e' :: rest | 'E' :: rest => do
    let (scale, rest) ← exponent? rest
    return (.decimal negative (digitsValue (whole ++ fraction)) (shift + scale), rest)
  | _ =>
    if fraction.isEmpty then return (.integer negative (digitsValue whole), rest)
    else return (.decimal negative (digitsValue (whole ++ fraction)) shift, rest)

/-- The document of a number; one that is beyond the range of doubles is unreadable. -/
def ofNumber (value : Number) : Json := if value.text?.isSome then .number value else .unreadable

/-- The document of an object whose keys may fail to denote texts. -/
def ofFields (fields : List (Option String × Json)) : Json :=
  match fields.mapM (fun field => field.1.map (·, field.2)) with
  | some fields => .object fields
  | none => .unreadable

mutual

/-- A document at the start of the input, and what follows it. Each of the three readers spends one
unit of fuel on every step; a text needs less than three times its length. -/
def value? : Nat → List Char → Option (Json × List Char)
  | 0, _ => none
  | fuel + 1, input =>
    match skipGap input with
    | 'n' :: 'u' :: 'l' :: 'l' :: rest => some (.null, rest)
    | 't' :: 'r' :: 'u' :: 'e' :: rest => some (.bool true, rest)
    | 'f' :: 'a' :: 'l' :: 's' :: 'e' :: rest => some (.bool false, rest)
    | '"' :: rest => do
      let (text, rest) ← stringLiteral? rest
      return (text.elim .unreadable .string, rest)
    | '-' :: rest => (unsigned? true rest).map fun (n, rest) => (ofNumber n, rest)
    | '[' :: rest =>
      match skipGap rest with
      | ']' :: rest => some (.array [], rest)
      | rest => (items? fuel rest).map fun (items, rest) => (.array items, rest)
    | '\x7b' :: rest =>
      match skipGap rest with
      | '\x7d' :: rest => some (.object [], rest)
      | rest => (fields? fuel rest).map fun (fields, rest) => (ofFields fields, rest)
    | input => (unsigned? false input).map fun (n, rest) => (ofNumber n, rest)

/-- The members of an array up to its closing bracket; there is at least one. -/
def items? : Nat → List Char → Option (List Json × List Char)
  | 0, _ => none
  | fuel + 1, input => do
    let (item, rest) ← value? fuel input
    match skipGap rest with
    | ',' :: rest => (items? fuel rest).map fun (items, rest) => (item :: items, rest)
    | ']' :: rest => some ([item], rest)
    | _ => none

/-- The fields of an object up to its closing brace; there is at least one. -/
def fields? : Nat → List Char → Option (List (Option String × Json) × List Char)
  | 0, _ => none
  | fuel + 1, input => do
    match skipGap input with
    | '"' :: rest =>
      let (key, rest) ← stringLiteral? rest
      match skipGap rest with
      | ':' :: rest =>
        let (item, rest) ← value? fuel rest
        match skipGap rest with
        | ',' :: rest => (fields? fuel rest).map fun (fields, rest) => ((key, item) :: fields, rest)
        | '\x7d' :: rest => some ([(key, item)], rest)
        | _ => none
      | _ => none
    | _ => none

end

/-- The document that a text holds. -/
def parse? (text : String) : Option Json := do
  let input := text.toList
  let (document, rest) ← value? (3 * input.length + 3) input
  guard (skipGap rest).isEmpty
  return document

end AttributeRelease.Json
