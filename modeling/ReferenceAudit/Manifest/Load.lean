import ReferenceAudit.Disk

/-! # Reading lock manifests -/
namespace ReferenceAudit.Manifest

/-- A text that is no JSON is a fault of the manifest. -/
def textFault : Json.Fault → Fault
  | .malformed m => .manifestText m
  | fault => .ofJson fault

def parse (text : String) : Except Fault Manifest :=
  match Json.parse text with
  | .error fault => .error (textFault fault)
  | .ok document => match ofJson document with
    | .error issues => .error (.manifestShape issues)
    | .ok m => .ok m

/-- A byte order mark in front of the text is no part of it. -/
def read (path : Path) (bytes : List UInt8) : Except Fault Manifest :=
  match Text.Utf8.decode (Text.Utf8.withoutMark bytes) with
  | .error fault => .error (.manifestEncoding path.text fault)
  | .ok text => parse text

def load (d : Disk) (path : Path) : Except Fault Manifest :=
  if d.isThere path.text then do
    let bytes ← d.read path
    read path bytes
  else .error (.inputMissing "Lock manifest" (some path.text))

end ReferenceAudit.Manifest
