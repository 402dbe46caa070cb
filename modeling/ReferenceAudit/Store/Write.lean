import ReferenceAudit.Disk

/-! # Files written only when their content changes -/
namespace ReferenceAudit.Store

/-- Whether a file with these bytes may stay as it is; bytes are compared as texts if case does not count. -/
def holds (ignoreCase : Bool) (bytes : List UInt8) (text : String) : Bool :=
  if ignoreCase then Text.fold (Text.Utf8.decodeLenient bytes) == Text.fold text
  else bytes == Text.Utf8.encode text

def isUnchanged (d : Disk) (path : Path) (ignoreCase : Bool) (text : String) : Except Fault Bool :=
  if d.isThere path.text then (d.read path).map fun bytes => holds ignoreCase bytes text else .ok false

/-- Writes a text unless the file holds it already, so that its time stays; tells whether it wrote. -/
def writeIfChanged (path : Path) (text : String) (ignoreCase : Bool) : Effect Bool := do
  if ← Effect.look (isUnchanged · path ignoreCase text) then return false
  Effect.save path (Text.Utf8.encode text)
  return true

end ReferenceAudit.Store
