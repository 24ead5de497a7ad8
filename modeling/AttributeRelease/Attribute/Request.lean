import AttributeRelease.Json.Reader

/-!
# Requests

A request names the party attributes are released to, the issuer, and the authenticated principal,
as far as they are known.
-/

namespace AttributeRelease

/-- The parties of a request. -/
structure Request where
  requester : Option String := none
  issuer : Option String := none
  principal : Option String := none
  deriving DecidableEq, Repr, Inhabited

namespace Request

/-- A party of a request. -/
inductive Party where
  | requester
  | issuer
  | principal
  deriving DecidableEq, Repr

/-- The name of a party. -/
def Party.name : Party → String
  | .requester => "requester"
  | .issuer => "issuer"
  | .principal => "principal"

/-- The id of a party of the request. -/
def get? (request : Request) : Party → Option String
  | .requester => request.requester
  | .issuer => request.issuer
  | .principal => request.principal

def toJson (request : Request) : Json :=
  .object
    (Json.fieldUnless request.requester.isNone "requester_id"
        (Json.ofOption .string request.requester) ++
      Json.fieldUnless request.issuer.isNone "issuer_id" (Json.ofOption .string request.issuer) ++
      Json.fieldUnless request.principal.isNone "principal_name"
        (Json.ofOption .string request.principal))

def ofJson? (document : Json) : Option Request := do
  let [requester, issuer, principal] ←
    document.record? ["requester_id", "issuer_id", "principal_name"] | none
  return {
    requester := ← Json.nullable Json.text? requester
    issuer := ← Json.nullable Json.text? issuer
    principal := ← Json.nullable Json.text? principal }

end Request

end AttributeRelease
