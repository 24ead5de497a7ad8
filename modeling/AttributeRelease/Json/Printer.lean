import AttributeRelease.Json.Basic

/-!
# Writing JSON text

Documents are written without gaps. In strings the quote, the backslash and the control characters
below the space are escaped, by a letter where there is one; all other characters stand as they are.
-/

namespace AttributeRelease.Json

/-- A hexadecimal digit in lower case. -/
def hexDigit (n : Nat) : Char := (Nat.toDigits 16 (n % 16)).headD '0'

/-- The form of a character inside a string literal. -/
def escapeChar (c : Char) : List Char :=
  if c = '"' then ['\\', '"']
  else if c = '\\' then ['\\', '\\']
  else if c = '\x08' then ['\\', 'b']
  else if c = '\x0c' then ['\\', 'f']
  else if c = '\n' then ['\\', 'n']
  else if c = '\r' then ['\\', 'r']
  else if c = '\t' then ['\\', 't']
  else if c < ' ' then ['\\', 'u', '0', '0', hexDigit (c.toNat / 16), hexDigit c.toNat]
  else [c]

/-- A string literal. -/
def quote (text : String) : List Char := '"' :: (text.toList.flatMap escapeChar ++ ['"'])

mutual

/-- The characters of a document. -/
def render : Json → List Char
  | .null => "null".toList
  | .bool true => "true".toList
  | .bool false => "false".toList
  | .number value => value.literal
  | .string text => quote text
  | .array [] => ['[', ']']
  | .array (item :: rest) => '[' :: (render item ++ renderItems rest)
  | .object [] => ['\x7b', '\x7d']
  | .object (field :: rest) =>
    '\x7b' :: (quote field.1 ++ ':' :: (render field.2 ++ renderFields rest))
  | .unreadable => "null".toList

/-- The further members of an array and its closing bracket. -/
def renderItems : List Json → List Char
  | [] => [']']
  | item :: rest => ',' :: (render item ++ renderItems rest)

/-- The further fields of an object and its closing brace. -/
def renderFields : List (String × Json) → List Char
  | [] => ['\x7d']
  | field :: rest => ',' :: (quote field.1 ++ ':' :: (render field.2 ++ renderFields rest))

end

/-- The text of a document. -/
def print (document : Json) : String := String.ofList document.render

end AttributeRelease.Json
