import ReferenceAudit.Fault
import ReferenceAudit.Text.Shortest

/-! # Values of any type, as they were written -/
namespace ReferenceAudit

/-- A value of a configuration or of a project's item. The keys of a map are distinct and keep their order; they
can be of any type too. -/
inductive Setting
  | null
  | bool (b : Bool)
  | integer (n : Int)
  | decimal (d : Decimal)
  | text (s : String)
  | bytes (bs : List UInt8)
  | list (items : List Setting)
  | pair (first second : Setting)
  | set (members : List Setting)
  | map (entries : List (Setting × Setting))
  deriving Inhabited

namespace Setting

mutual

def ofJson : Json → Setting
  | .null => .null
  | .bool b => .bool b
  | .integer n => .integer n
  | .decimal d => .decimal d
  | .text s => .text s
  | .list items => .list (ofItems items)
  | .object members => .map (ofMembers members)

def ofItems : List Json → List Setting
  | [] => []
  | v :: vs => ofJson v :: ofItems vs

def ofMembers : List (String × Json) → List (Setting × Setting)
  | [] => []
  | (name, v) :: ms => (.text name, ofJson v) :: ofMembers ms

end

/-- Whether a value counts as true: all but nothing, zero and what is empty. -/
def isTruthy : Setting → Bool
  | null => false
  | bool b => b
  | integer n => n != 0
  | decimal d => !d.isZero
  | text s => s != ""
  | bytes bs => !bs.isEmpty
  | list items => !items.isEmpty
  | pair .. => true
  | set members => !members.isEmpty
  | map entries => !entries.isEmpty

def typeWord : Setting → String
  | null => "NoneType"
  | bool _ => "bool"
  | integer _ => "int"
  | decimal _ => "float"
  | text _ => "str"
  | bytes _ => "bytes"
  | list _ => "list"
  | pair .. => "tuple"
  | set _ => "set"
  | map _ => "dict"

def lacks (v : Setting) (operation : String) : Fault :=
  .noOperation ("'" ++ v.typeWord ++ "' object has no attribute '" ++ operation ++ "'")

def notIterable (v : Setting) : Fault := .wrongType ("'" ++ v.typeWord ++ "' object is not iterable")

/-- The members of a value that has any: a text's are its characters, a map's its keys. -/
def members : Setting → Except Fault (List Setting)
  | text s => .ok (s.toList.map fun c => text (String.singleton c))
  | bytes bs => .ok (bs.map fun b => integer b.toNat)
  | list items => .ok items
  | pair a b => .ok [a, b]
  | set members => .ok members
  | map entries => .ok (entries.map Prod.fst)
  | v => .error v.notIterable

def isKey : Setting → Bool
  | list _ | pair .. | set _ | map _ => false
  | _ => true

def notKey (v : Setting) : Fault := .wrongType ("unhashable type: '" ++ v.typeWord ++ "'")

def textFor (operation : String) : Setting → Except Fault String
  | text s => .ok s
  | v => .error (v.lacks operation)

def texts (operation : String) (v : Setting) : Except Fault (List String) := do
  (← v.members).mapM (textFor operation)

def ofTexts (ss : List String) : Setting := .list (ss.map .text)

mutual

/-- How a value is shown in a message: texts stand in quotes. -/
def quoted : Setting → String
  | null => "None"
  | bool b => if b then "True" else "False"
  | integer n => toString n
  | decimal d => d.shown
  | text s => Text.quoted s
  | bytes bs => Text.quotedBytes bs
  | list items => "[" ++ Text.join ", " (quotedItems items) ++ "]"
  | pair a b => "(" ++ a.quoted ++ ", " ++ b.quoted ++ ")"
  | set members => if members.isEmpty then "set()" else "\x7b" ++ Text.join ", " (quotedItems members) ++ "\x7d"
  | map entries => "\x7b" ++ Text.join ", " (quotedEntries entries) ++ "\x7d"

def quotedItems : List Setting → List String
  | [] => []
  | v :: vs => v.quoted :: quotedItems vs

def quotedEntries : List (Setting × Setting) → List String
  | [] => []
  | (k, v) :: es => (k.quoted ++ ": " ++ v.quoted) :: quotedEntries es

end

def shown : Setting → String
  | text s => s
  | v => v.quoted

end Setting
end ReferenceAudit
