import AttributeRelease.Transcoding.Wire

/-!
# Naming

A naming says, for each representation it knows, how attributes in it are named. An entry may serve
other representations too: the effective type of a tag is the tag itself if an entry has it, and
otherwise that of the first entry that serves it.
-/

namespace AttributeRelease.Transcoding

/-- How attributes of a representation are named, and which other representations this serves. -/
structure NamingEntry where
  tag : TypeTag
  compatible : List TypeTag := []
  name? : Wire → Option String

/-- Entries in the order in which they were registered. -/
structure Naming where
  entries : List NamingEntry := []

namespace Naming

/-- A naming with one more entry. -/
def register (naming : Naming) (entry : NamingEntry) : Naming := ⟨naming.entries ++ [entry]⟩

/-- The naming of the known representations. -/
def standard : Naming where
  entries := [
    { tag := TypeTag.saml2, name? := fun
        | .saml2 attr => (Wire.saml2 attr).standardName?
        | _ => none },
    { tag := TypeTag.saml1, name? := fun
        | .saml1 attr => (Wire.saml1 attr).standardName?
        | _ => none },
    { tag := TypeTag.claim, name? := fun
        | .claim item => (Wire.claim item).standardName?
        | _ => none }]

/-- The tags in order. -/
def tags (naming : Naming) : List TypeTag := naming.entries.map NamingEntry.tag

/-- The effective type of a tag. -/
def effectiveType? (naming : Naming) (tag : TypeTag) : Option TypeTag :=
  if tag ∈ naming.tags then some tag
  else (naming.entries.find? fun entry => tag ∈ entry.compatible).map NamingEntry.tag

/-- The effective type and the canonical name of an attribute on the wire. The first entry for the
effective type names it. -/
def canonicalName? (naming : Naming) (wire : Wire) : Option (TypeTag × String) := do
  let effective ← naming.effectiveType? wire.tag
  let entry ← naming.entries.find? fun entry => entry.tag == effective
  let name ← entry.name? wire
  return (effective, name)

end Naming

end AttributeRelease.Transcoding
