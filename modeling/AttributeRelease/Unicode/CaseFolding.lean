import AttributeRelease.Unicode.CaseTable

/-!
# Ignoring case

Letters that one letter stands for when case is ignored form an orbit. A set is closed under case by
adding every orbit it meets.
-/

namespace AttributeRelease.Unicode

/-- The letters whose case variants another letter stands for, with that letter. -/
def foldPairs : List (Nat × Nat) :=
  foldTable.flatMap fun run => run.members.map fun code => (code, (code + run.shift).toNat)

/-- The letter that stands for the case variants of a letter. -/
def foldCode (code : Nat) : Nat :=
  match foldTable.find? fun run => run.contains code with
  | some run => (code + run.shift).toNat
  | none => code

/-- The letters that are alike when case is ignored, the given one among them. -/
def orbit (code : Nat) : List Nat :=
  let folded := foldCode code
  folded :: (foldPairs.filter fun pair => pair.2 == folded).map Prod.fst

namespace CodeSet

/-- The set with all letters that differ from one of its letters in case only. -/
def foldCase (set : CodeSet) : CodeSet :=
  let fixed := foldPairs.filter fun pair => set.contains pair.1 || set.contains pair.2
  let roots := fixed.map Prod.snd
  let variants := foldPairs.filter fun pair => roots.contains pair.2
  set.union ⟨roots.map (fun code => (code, code)) ++ variants.map (fun pair => (pair.1, pair.1))⟩

end CodeSet

end AttributeRelease.Unicode
