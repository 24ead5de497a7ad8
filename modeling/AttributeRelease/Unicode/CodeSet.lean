/-!
# Sets of code points

A set of code points is a list of ranges. Tables of code points are written as texts of hexadecimal
runs: `41-5A` for a range, `100:12E` for every second code point of one, with `>20` or `<20` behind
it where a table shifts code points up or down.
-/

namespace AttributeRelease.Unicode

/-- A run of code points, every `step`-th one from `first` to `last`, and a shift. -/
structure Run where
  first : Nat
  last : Nat
  step : Nat
  shift : Int
  deriving DecidableEq, Repr

/-- The value of a hexadecimal digit in upper case. -/
def digitValue (c : Char) : Nat :=
  if c.isDigit then c.toNat - '0'.toNat else c.toNat - 'A'.toNat + 10

/-- The number written by hexadecimal digits. -/
def hexNumber (digits : List Char) : Nat :=
  digits.foldl (fun value c => value * 16 + digitValue c) 0

/-- Splits at the first character that satisfies the test, dropping it. -/
def splitAtFirst (test : Char → Bool) (chars : List Char) : List Char × Option (Char × List Char) :=
  match chars.dropWhile (fun c => !test c) with
  | [] => (chars, none)
  | mark :: rest => (chars.takeWhile (fun c => !test c), some (mark, rest))

/-- Reads one run. -/
def readRun (word : List Char) : Run :=
  let (span, shift) := splitAtFirst (fun c => c == '>' || c == '<') word
  let shift : Int :=
    match shift with
    | some ('<', digits) => -hexNumber digits
    | some (_, digits) => hexNumber digits
    | none => 0
  let (first, last) := splitAtFirst (fun c => c == '-' || c == ':') span
  match last with
  | some (mark, last) => ⟨hexNumber first, hexNumber last, if mark = ':' then 2 else 1, shift⟩
  | none => ⟨hexNumber first, hexNumber first, 1, shift⟩

/-- Adds a word unless it has no letters. -/
def addWord (word : List Char) (words : List (List Char)) : List (List Char) :=
  if word.isEmpty then words else word :: words

/-- The words of a text, which stand between blanks and line ends. -/
def wordsOf (chars : List Char) : List (List Char) :=
  let (word, words) := chars.foldr
    (fun c (word, words) =>
      if c = ' ' ∨ c = '\n' then ([], addWord word words) else (c :: word, words))
    ([], [])
  addWord word words

/-- Reads a table of runs. -/
def readRuns (text : String) : List Run := (wordsOf text.toList).map readRun

/-- Whether a code point is in a run. -/
def Run.contains (run : Run) (code : Nat) : Bool :=
  run.first ≤ code && code ≤ run.last && (code - run.first) % run.step == 0

/-- The code points of a run. -/
def Run.members (run : Run) : List Nat :=
  (List.range ((run.last - run.first) / run.step + 1)).map fun i => run.first + i * run.step

/-- The largest code point. -/
def lastCode : Nat := 0x10FFFF

/-- A set of code points as ranges, both ends included. -/
structure CodeSet where
  ranges : List (Nat × Nat)
  deriving DecidableEq, Repr, Inhabited

namespace CodeSet

def empty : CodeSet := ⟨[]⟩

/-- All code points. -/
def full : CodeSet := ⟨[(0, lastCode)]⟩

def single (code : Nat) : CodeSet := ⟨[(code, code)]⟩

def range (first last : Nat) : CodeSet := ⟨[(first, last)]⟩

/-- Whether a code point is in the set. -/
def contains (set : CodeSet) (code : Nat) : Bool :=
  set.ranges.any fun range => range.1 ≤ code && code ≤ range.2

def union (first second : CodeSet) : CodeSet := ⟨first.ranges ++ second.ranges⟩

/-- Joins ranges in order of their first code points where they overlap or touch. -/
def join (current : Nat × Nat) : List (Nat × Nat) → List (Nat × Nat)
  | [] => [current]
  | range :: rest =>
    if range.1 ≤ current.2 + 1 then join (current.1, max current.2 range.2) rest
    else current :: join range rest

/-- The same set with its ranges in order and apart. -/
def normal (set : CodeSet) : CodeSet :=
  match set.ranges.mergeSort fun first second => first.1 ≤ second.1 with
  | [] => ⟨[]⟩
  | range :: rest => ⟨join range rest⟩

/-- The gaps between ranges that are in order and apart, from a code point on. -/
def gaps : Nat → List (Nat × Nat) → List (Nat × Nat)
  | start, [] => if start ≤ lastCode then [(start, lastCode)] else []
  | start, range :: rest =>
    if start < range.1 then (start, range.1 - 1) :: gaps (range.2 + 1) rest
    else gaps (max start (range.2 + 1)) rest

/-- The code points that are not in the set. -/
def complement (set : CodeSet) : CodeSet := ⟨gaps 0 set.normal.ranges⟩

def inter (first second : CodeSet) : CodeSet :=
  (first.complement.union second.complement).complement

def diff (first second : CodeSet) : CodeSet := first.inter second.complement

/-- The code points in exactly one of two sets. -/
def symmDiff (first second : CodeSet) : CodeSet :=
  (first.diff second).union (second.diff first)

/-- Reads a set of code points. -/
def read (text : String) : CodeSet :=
  ⟨(readRuns text).flatMap fun run =>
    if run.step = 1 then [(run.first, run.last)] else run.members.map fun code => (code, code)⟩

end CodeSet

end AttributeRelease.Unicode
