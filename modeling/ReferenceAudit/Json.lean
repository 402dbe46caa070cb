import ReferenceAudit.Text.Decimal

/-! # JSON documents -/
namespace ReferenceAudit

/-- A JSON value. The members of an object have distinct names and keep their order. -/
inductive Json
  | null
  | bool (b : Bool)
  | integer (n : Int)
  | decimal (d : Decimal)
  | text (s : String)
  | list (items : List Json)
  | object (members : List (String × Json))
  deriving Inhabited

namespace Json

/-- A repeated name keeps the place of its first member and the value of its last. -/
def put (members : List (String × Json)) (name : String) (value : Json) : List (String × Json) :=
  if members.any (·.1 == name) then members.map fun m => if m.1 == name then (name, value) else m
  else members ++ [(name, value)]

def ofMembers (members : List (String × Json)) : Json :=
  .object (members.foldl (fun acc m => put acc m.1 m.2) [])

end Json
end ReferenceAudit
