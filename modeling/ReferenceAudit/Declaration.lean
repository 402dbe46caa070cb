import ReferenceAudit.Reference.Line
import ReferenceAudit.Setting

/-! # References as the items of a project declare them

What items hold may be of any type, and so may what they declare.
-/
namespace ReferenceAudit

structure Declaration where
  identity : Setting
  kind : Kind
  label : Setting

namespace Declaration

def ofReference (r : Reference) : Declaration := ⟨.text r.identity, r.kind, .text r.label⟩

def isCharacter (c : Char) : Setting → Bool
  | .text s => s == String.singleton c
  | _ => false

def holds (c : Char) : Setting → Except Fault Bool
  | .text s => .ok (s.toList.contains c)
  | v => v.members.map fun members => members.any (isCharacter c)

def holdsBreak (v : Setting) : Except Fault Bool := do
  if ← holds '\r' v then return true else holds '\n' v

/-- The line of a declaration, unless reading it back would give something else. -/
def line? (x : Declaration) : Except Fault String := do
  if ← holdsBreak x.identity then throw (.badRecord (.identityBreak x.label.quoted))
  if ← holdsBreak x.label then throw (.badRecord (.labelBreak x.label.quoted))
  if ← holds Reference.tab x.identity then
    throw (.badRecord (.identityTab x.label.quoted x.identity.quoted))
  return x.identity.shown ++ "\t" ++ x.kind.token ++ "\t" ++ x.label.shown

end Declaration
end ReferenceAudit
