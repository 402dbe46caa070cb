import ReferenceAudit.Disk
import ReferenceAudit.Text.Blank

/-! # The compiler's report of used modules -/
namespace ReferenceAudit.Store

/-- The modules that a report names, one on a line; blank lines and repetitions do not count. -/
def readUsed (text : String) : List String :=
  (((Text.lines text.toList).map (Text.trimBoth Text.isBlank)).filter (!·.isEmpty)).map String.ofList
    |>.eraseDups

def loadUsed (d : Disk) (path : Path) : Except Fault (List String) :=
  if d.isThere path.text then do
    let bytes ← d.read path
    match Text.Utf8.decode bytes with
    | .ok text => return readUsed text
    | .error fault => throw (.reportEncoding path.text fault)
  else .error (.inputMissing "Used module report" (some path.text))

end ReferenceAudit.Store
