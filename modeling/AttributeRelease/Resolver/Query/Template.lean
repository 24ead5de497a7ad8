import AttributeRelease.Resolver.Query.Escape
import AttributeRelease.Resolver.Resolution

/-!
# Query templates

A template is text with placeholders in braces: a party of the request, or `attr:` and the id of an
attribute among the dependencies. Rendering puts escaped values in their place.
-/

namespace AttributeRelease.Resolver.Query

/-- A part of a template. -/
inductive Segment where
  | literal (text : String)
  | party (party : Request.Party)
  | attr (id : String)
  deriving DecidableEq, Repr

/-- What is wrong with a template. -/
inductive TemplateError where
  | unterminated
  | unknown (name : String)
  deriving DecidableEq, Repr

/-- The wording of an error. -/
def TemplateError.message : TemplateError → String
  | .unterminated => "unterminated placeholder in template"
  | .unknown name => "unknown template placeholder '\x7b" ++ name ++ "\x7d'"

/-- A template, cut into its parts. -/
structure Template where
  segments : List Segment
  deriving DecidableEq, Repr

/-- How the name of an attribute is announced. -/
def attrMark : List Char := "attr:".toList

/-- The placeholder of a name. -/
def placeholder (name : List Char) : Except TemplateError Segment :=
  match String.ofList name with
  | "principal" => .ok (.party .principal)
  | "requester" => .ok (.party .requester)
  | "issuer" => .ok (.party .issuer)
  | text =>
    if attrMark.isPrefixOf name && attrMark.length < name.length then
      .ok (.attr (String.ofList (name.drop attrMark.length)))
    else .error (.unknown text)

/-- A literal, given backwards, in front of further parts; an empty one is left out. -/
def flush (literal : List Char) (rest : List Segment) : List Segment :=
  if literal.isEmpty then rest else .literal (String.ofList literal.reverse) :: rest

mutual

/-- The parts of a text behind characters of a literal, which are given backwards. -/
def scanLiteral (literal : List Char) : List Char → Except TemplateError (List Segment)
  | [] => .ok (flush literal [])
  | c :: rest =>
    if c = '\x7b' then do
      let segments ← scanName [] rest
      return flush literal segments
    else scanLiteral (c :: literal) rest

/-- The parts of a text behind characters of a name, which are given backwards. -/
def scanName (name : List Char) : List Char → Except TemplateError (List Segment)
  | [] => .error .unterminated
  | c :: rest =>
    if c = '\x7d' then do
      let segment ← placeholder name.reverse
      let segments ← scanLiteral [] rest
      return segment :: segments
    else scanName (c :: name) rest

end

namespace Template

/-- Cuts a text into its parts. -/
def parse (text : String) : Except TemplateError Template := do
  return ⟨← scanLiteral [] text.toList⟩

/-- Cuts the template of a plugin into its parts. -/
def forPlugin (pluginId text : String) : Except ConfigError Template :=
  match parse text with
  | .ok template => .ok template
  | .error error => .error (.invalidPlugin pluginId error.message)

/-- The ids of the attributes that the template names, in order. -/
def attributeIds (template : Template) : List String :=
  template.segments.filterMap fun
    | .attr id => some id
    | _ => none

end Template

/-- What rendering reads: the request and the values of dependencies by attribute. -/
structure Sources where
  request : Request
  values : KeyMap (List Value)

/-- The sources that a resolution offers. -/
def Sources.of (resolution : Resolution) (dependencies : Dependencies) : Sources :=
  ⟨resolution.request, resolution.groupedValues dependencies⟩

/-- The value that takes the place of a part, before it is escaped; literals have none. -/
def Sources.value? (sources : Sources) : Segment → Option String
  | .literal _ => none
  | .party who => sources.request.get? who
  | .attr id => (sources.values.get? id).bind fun values => values.findSome? Value.text?

/-- What is said of a placeholder without a value. -/
def Segment.missingMessage : Segment → String
  | .literal _ => ""
  | .party who => "request has no " ++ who.name
  | .attr id => "template attribute '" ++ id ++ "' has no value"

/-- The text of a part. -/
def Segment.render (pluginId : String) (sources : Sources) (escape : String → String)
    (segment : Segment) : Except ResolutionError String :=
  match segment with
  | .literal text => .ok text
  | _ =>
    match sources.value? segment with
    | some value => .ok (escape value)
    | none => .error (.invalidInput pluginId segment.missingMessage)

/-- The texts of parts in order; the first placeholder without a value decides the error. -/
def renderSegments (pluginId : String) (sources : Sources) (escape : String → String) :
    List Segment → Except ResolutionError String
  | [] => .ok ""
  | segment :: rest => do
    let first ← segment.render pluginId sources escape
    return first ++ (← renderSegments pluginId sources escape rest)

/-- The text of a template for a request. -/
def Template.render (template : Template) (pluginId : String) (sources : Sources)
    (escape : String → String) : Except ResolutionError String :=
  renderSegments pluginId sources escape template.segments

end AttributeRelease.Resolver.Query
