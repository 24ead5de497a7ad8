import AttributeRelease.Filter.Requirement

/-!
# Releasing attributes

A policy applies when its requirement permits it. Of the policies that apply, the rules for an
attribute mark its values as permitted or denied. A value is released when it is permitted by some
rule and denied by none; an attribute none of whose values is released is withheld.
-/

namespace AttributeRelease.Filter

/-- A rule that permits or denies the values of one attribute which its test permits. -/
structure Rule where
  id : String
  attributeId : String
  denies : Bool
  judge : Context → Attribute → Value → Verdict

/-- A policy: a requirement and the rules that hold under it. -/
structure Policy where
  id : String
  requirement : Context → Verdict
  rules : List Rule

/-- Whether a policy applies. -/
def Policy.applies (context : Context) (policy : Policy) : Bool :=
  (policy.requirement context).isPermit

/-- What is said about a value so far. -/
structure Mark where
  permitted : Bool := false
  denied : Bool := false
  deriving DecidableEq, Repr

namespace Mark

/-- Adds what a rule says about a value on which its test gives a verdict. -/
def add (mark : Mark) (denies : Bool) (verdict : Verdict) : Mark :=
  match verdict with
  | .permit => if denies then { mark with denied := true } else { mark with permitted := true }
  | _ => mark

/-- Whether a value with this mark is released. -/
def releases (mark : Mark) : Bool := mark.permitted && !mark.denied

end Mark

/-- The marks of the values of attributes, under the keys of those that some rule is for. -/
abbrev MarkTable := KeyMap (List Mark)

/-- The marks that the values of the attribute under a key have so far. -/
def MarkTable.marksOf (table : MarkTable) (key : String) (attr : Attribute) : List Mark :=
  (table.get? key).getD (List.replicate attr.values.length {})

/-- The marks of an attribute's values after one more rule. -/
def markValues (context : Context) (attr : Attribute) (marks : List Mark) (rule : Rule) :
    List Mark :=
  List.zipWith (fun mark value => mark.add rule.denies (rule.judge context attr value))
    marks attr.values

/-- Marks the values of the attribute that a rule is for, if there is one. -/
def markRule (context : Context) (attributes : AttributeMap) (table : MarkTable) (rule : Rule) :
    MarkTable :=
  match attributes.get? rule.attributeId with
  | some attr =>
    table.insert rule.attributeId
      (markValues context attr (table.marksOf rule.attributeId attr) rule)
  | none => table

/-- Marks values by the rules of a policy, in order, if it applies. -/
def markPolicy (context : Context) (attributes : AttributeMap) (table : MarkTable)
    (policy : Policy) : MarkTable :=
  if policy.applies context then policy.rules.foldl (markRule context attributes) table else table

/-- The marks that policies give, one policy after the other. -/
def markAll (context : Context) (policies : List Policy) (attributes : AttributeMap) : MarkTable :=
  policies.foldl (markPolicy context attributes) ∅

/-- The values whose marks release them. -/
def releasedValues (marks : List Mark) (values : List Value) : List Value :=
  ((marks.zip values).filter fun pair => pair.1.releases).map Prod.snd

/-- The attribute under a key with its released values, if there are any. Without a rule for it the
attribute is withheld. -/
def releaseAttribute (table : MarkTable) (key : String) (attr : Attribute) : Option Attribute :=
  match table.get? key with
  | none => none
  | some marks =>
    match releasedValues marks attr.values with
    | [] => none
    | values => some { attr with values }

/-- The attributes with the values that policies release. All marks are there before anything is
withheld. -/
def release (context : Context) (policies : List Policy) (attributes : AttributeMap) :
    AttributeMap :=
  attributes.filterMap (releaseAttribute (markAll context policies attributes))

end AttributeRelease.Filter
