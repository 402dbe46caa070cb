import ReferenceAudit.Config
import ReferenceAudit.Disk
import ReferenceAudit.Yaml.Value
import ReferenceAudit.Yaml.Writer

/-! # Configuration files -/
namespace ReferenceAudit.Store

def configFileName : String := "reftrim.yaml"

/-- The value in a configuration file; nothing, or anything else that counts as false, is an empty map. -/
def readSettings (d : Disk) (path : Path) : Except Fault Setting := do
  let bytes ← d.read path
  match Text.Utf8.decodeStream bytes with
  | .error fault => throw (.badEncoding fault)
  | .ok s =>
    let v ← Yaml.read Config.isField (String.ofList (Text.unifyNewlines s.toList))
    match if v.isTruthy then v else .map [] with
    | .map entries => return .map entries
    | _ => throw (.configNotMapping path.text)

def readConfig (d : Disk) (path : Path) : Except Fault Config := do
  Config.ofSetting (← readSettings d path)

/-- The file to read: the one asked for, else the one in the working directory if it is there. -/
def configPath? (d : Disk) (asked : Option Path) : Option Path :=
  match asked with
  | some path => some path
  | none =>
    let path := d.here.child configFileName
    if d.isThere path.text then some path else none

def loadConfig (d : Disk) (asked : Option Path) : Except Fault Config :=
  match configPath? d asked with
  | some path => readConfig d path
  | none => .ok Config.default

def configText (c : Config) : String := match c.toSetting with
  | .map entries => Yaml.Writer.document entries
  | _ => ""

def saveConfig (path : Path) (c : Config) : Effect Unit := Effect.save path (Text.Utf8.encode (configText c))

end ReferenceAudit.Store
