import ReferenceAudit.Json.Parser
import ReferenceAudit.Manifest.Shape
import ReferenceAudit.Text.Numeral
import ReferenceAudit.Text.Utf8

/-! # Faults: what can go wrong, and how it is told -/
namespace ReferenceAudit

/-- What is wrong with a line that should be a declared reference. -/
inductive LineFault
  | fieldCount (found : Nat)
  | unknownToken (token : String)
  | notUtf8 (reason : Text.Utf8.Reason)
  deriving DecidableEq, Repr

/-- Why a reference cannot be written as a line. Its label and its identity are told in quotes. -/
inductive RecordFault
  | identityBreak (label : String)
  | labelBreak (label : String)
  | identityTab (label identity : String)
  deriving DecidableEq, Repr

inductive Fault
  /-- An input that is not there; restoring or building first may help. -/
  | inputMissing (what : String) (path : Option String)
  | noSelector (path : String)
  | badLine (path : String) (line : Int) (fault : LineFault)
  | badRecord (fault : RecordFault)
  | manifestEncoding (path : String) (fault : Text.Utf8.Fault)
  | manifestText (fault : Json.Malformed)
  | manifestShape (issues : List Manifest.Issue)
  | targetMissing (key : String) (available : List String)
  | packageMissing (id version : String) (folders : List String)
  | reportEncoding (path : String) (fault : Text.Utf8.Fault)
  | moduleUnreadable (message : String)
  | indexInconsistent (keys : List String)
  | unknownCategory (id : String)
  | unknownToken (token : String)
  | unknownSuppression (label category : String)
  | configNotMapping (path : String)
  | badNumeral (base : Nat) (text : String)
  | longNumeral (digits : Nat)
  | badDecimal (text : String)
  | characterRange
  /-- A number that is far too large for a character's. -/
  | characterOverflow
  | memberMissing (name : String)
  /-- An entry of a map that is written with more or fewer than two parts. -/
  | pairLength (index length : Nat)
  | badJson (fault : Json.Malformed)
  | tooDeep (inList : Bool)
  /-- Something that goes deeper than can be followed, or has no end. -/
  | endless
  | badEncoding (fault : Text.Utf8.Fault)
  | fileMissing (path : String)
  | isDirectory (path : String)
  | notDirectory (path : String)
  | fileExists (path : String)
  | linkLoop (path : String)
  /-- A path whose normal form leads to or through a link that leads back to itself. -/
  | unresolvable (path : String)
  | embeddedNull
  | yaml
  /-- A value of a type that the operation does not take. -/
  | wrongType (message : String)
  /-- A value of a type that does not have the operation. -/
  | noOperation (message : String)
  | argumentMissing
  deriving DecidableEq, Repr

namespace LineFault

def message : LineFault → String
  | fieldCount found => s!"expected 3 tab-separated fields, found {found}"
  | unknownToken token => "Unknown reference kind token " ++ Text.quoted token
  | notUtf8 reason => "not valid UTF-8 (" ++ reason.message ++ ")"

end LineFault

namespace RecordFault

def message : RecordFault → String
  | identityBreak label => "Line break in identity of declared reference " ++ label
  | labelBreak label => "Line break in display label of declared reference " ++ label
  | identityTab label identity =>
    "Tab in identity of declared reference " ++ label ++ ": " ++ identity

end RecordFault

namespace Fault

/-- So much of a text that is no numeral is shown, its quotes included. -/
def shownLength : Nat := 200

def depthText : String := "maximum recursion depth exceeded"

def ofJson : Json.Fault → Fault
  | .malformed m => badJson m
  | .longNumeral digits => longNumeral digits
  | .tooDeep inList => tooDeep inList

def ofNumeral : Text.Numeral.Fault → Fault
  | .malformed base text => badNumeral base text
  | .long digits => longNumeral digits

def message : Fault → String
  | inputMissing what none => what ++ " not found"
  | inputMissing what (some path) => what ++ " not found: " ++ path
  | noSelector path => "No target selector given for lock manifest " ++ path
  | badLine path line fault => path ++ ":" ++ toString line ++ ": " ++ fault.message
  | badRecord fault => fault.message
  | manifestEncoding path fault => "Lock manifest " ++ path ++ " is not valid UTF-8: " ++ fault.message
  | manifestText fault => "Lock manifest is not valid JSON: " ++ fault.message
  | manifestShape _ => "Lock manifest has an unexpected shape"
  | targetMissing key available =>
    "Target " ++ Text.quoted key ++ " not found in lock manifest (available: " ++
      (if available = [] then "none" else Text.join ", " available) ++ ")"
  | packageMissing id version folders =>
    "Package " ++ id ++ " " ++ version ++ " could not be found in any package folder (" ++
      (match Text.join "; " folders with
        | "" => "no package folders"
        | listed => listed) ++ ")"
  | reportEncoding path fault => "Used module report " ++ path ++ " is not valid UTF-8: " ++ fault.message
  | moduleUnreadable message => message
  | indexInconsistent keys =>
    "Reverse dependency index is inconsistent for package(s): " ++ Text.join ", " keys
  | unknownCategory id => "Unknown diagnostic category " ++ Text.quoted id
  | unknownToken token => (LineFault.unknownToken token).message
  | unknownSuppression label category => "Suppression for " ++ label ++ " names unknown category " ++ category
  | configNotMapping path => "Config file " ++ path ++ " must contain a mapping"
  | badNumeral base text =>
    "invalid literal for int() with base " ++ toString base ++ ": " ++
      String.ofList ((Text.quoted text).toList.take shownLength)
  | longNumeral digits =>
    "Exceeds the limit (" ++ toString Text.Numeral.mostDigits ++
      " digits) for integer string conversion: value has " ++
      toString digits ++ " digits; use sys.set_int_max_str_digits() to increase the limit"
  | badDecimal text => "could not convert string to float: " ++ Text.quoted text
  | characterRange => "chr() arg not in range(0x110000)"
  | characterOverflow => "Python int too large to convert to C int"
  | memberMissing name => Text.quoted name
  | pairLength index length =>
    "dictionary update sequence element #" ++ toString index ++ " has length " ++ toString length ++
      "; 2 is required"
  | badJson fault => fault.message
  | tooDeep inList =>
    depthText ++ " while decoding a JSON " ++ (if inList then "array" else "object") ++ " from a unicode string"
  | endless => depthText
  | badEncoding fault => fault.message
  | fileMissing path => "[Errno 2] No such file or directory: " ++ Text.quoted path
  | isDirectory path => "[Errno 21] Is a directory: " ++ Text.quoted path
  | notDirectory path => "[Errno 20] Not a directory: " ++ Text.quoted path
  | fileExists path => "[Errno 17] File exists: " ++ Text.quoted path
  | linkLoop path => "[Errno 40] Too many levels of symbolic links: " ++ Text.quoted path
  | unresolvable path => "Symlink loop from " ++ Text.quoted path
  | embeddedNull => "embedded null byte"
  | yaml => "invalid YAML"
  | wrongType message => message
  | noOperation message => message
  | argumentMissing => "Replacement index out of range for positional args tuple"

/-- The word under which a fault is reported beside its message. -/
def kind : Fault → String
  | inputMissing .. => "InputMissingError"
  | noSelector _ => "InputMalformedError"
  | badLine .. => "DeclaredReferenceParseError"
  | badRecord _ => "DeclaredReferenceFormatError"
  | manifestEncoding .. | manifestText _ | manifestShape _ => "LockManifestError"
  | targetMissing .. => "TargetNotFoundError"
  | packageMissing .. => "PackageNotFoundError"
  | reportEncoding .. => "UsedModuleReportError"
  | moduleUnreadable _ => "ModuleMetadataError"
  | indexInconsistent _ => "InvariantViolationError"
  | unknownCategory _ | unknownToken _ | unknownSuppression .. | configNotMapping _ | badNumeral ..
  | longNumeral _ | badDecimal _ | characterRange | pairLength .. | embeddedNull => "ValueError"
  | characterOverflow => "OverflowError"
  | tooDeep _ | endless => "RecursionError"
  | memberMissing _ => "KeyError"
  | badJson _ => "JSONDecodeError"
  | badEncoding _ => "UnicodeDecodeError"
  | fileMissing _ => "FileNotFoundError"
  | isDirectory _ => "IsADirectoryError"
  | notDirectory _ => "NotADirectoryError"
  | fileExists _ => "FileExistsError"
  | linkLoop _ => "OSError"
  | unresolvable _ => "RuntimeError"
  | yaml => "YAMLError"
  | wrongType _ => "TypeError"
  | noOperation _ => "AttributeError"
  | argumentMissing => "IndexError"

def isMissingInput : Fault → Bool
  | inputMissing .. => true
  | _ => false

/-- Faults of an input that is there but cannot be trusted. -/
def isMalformedInput : Fault → Bool
  | noSelector _ | badLine .. | badRecord _ | manifestEncoding .. | manifestText _ | manifestShape _
  | targetMissing .. | packageMissing .. | reportEncoding .. | moduleUnreadable _ => true
  | _ => false

def isInput (f : Fault) : Bool := f.isMissingInput || f.isMalformedInput

def isReported (f : Fault) : Bool := f.isInput || match f with
  | indexInconsistent _ => true
  | _ => false

/-- Faults of a configuration's values. -/
def isValue : Fault → Bool
  | unknownCategory _ | unknownToken _ | unknownSuppression .. | configNotMapping _ | badNumeral ..
  | longNumeral _ | badDecimal _ | characterRange | pairLength .. | badJson _ | badEncoding _ | embeddedNull => true
  | _ => false

end Fault
end ReferenceAudit
