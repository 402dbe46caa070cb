import ReferenceAudit.Declaration
import ReferenceAudit.Store.Write

/-! # The file of declared references -/
namespace ReferenceAudit.Store

def referencesFileName : String := "_ReferenceTrimmer_DeclaredReferences.tsv"

def lineFeed : UInt8 := 0x0A

def linesText (ls : List String) : String := String.join (ls.map (· ++ "\n"))

/-- The content of the file; a reference that has no line leaves it without any. -/
def referencesText (rs : List Reference) : Except RecordFault String := (rs.mapM Reference.line?).map linesText

def saveReferences (path : Path) (rs : List Reference) : Effect Bool :=
  match referencesText rs with
  | .ok text => writeIfChanged path text false
  | .error fault => throw (.badRecord fault)

def saveDeclarations (path : Path) (xs : List Declaration) : Effect Bool :=
  match xs.mapM Declaration.line? with
  | .ok ls => writeIfChanged path (linesText ls) false
  | .error fault => throw fault

def withoutReturns (cs : List Char) : List Char := Text.trimEnd (· == '\r') cs

/-- The reference on a line, none if it is blank. -/
def readLine (bytes : List UInt8) : Except LineFault (Option Reference) :=
  match Text.Utf8.decode bytes with
  | .error fault => .error (.notUtf8 fault.reason)
  | .ok s => match withoutReturns s.toList with
    | [] => .ok none
    | cs => (Reference.ofLine? (String.ofList cs)).map some

/-- The references on lines that count from `number`, up to the first faulty line. -/
def readLines (number : Nat) : List (List UInt8) → Except (Nat × LineFault) (List Reference)
  | [] => .ok []
  | l :: ls => match readLine l with
    | .error fault => .error (number, fault)
    | .ok none => readLines (number + 1) ls
    | .ok (some r) => (readLines (number + 1) ls).map (r :: ·)

def readReferences (bytes : List UInt8) : Except (Nat × LineFault) (List Reference) :=
  readLines 1 (Text.pieces (· == lineFeed) bytes)

def loadReferences (d : Disk) (path : Path) : Except Fault (List Reference) :=
  if d.isThere path.text then do
    let bytes ← d.read path
    (readReferences bytes).mapError fun (number, fault) => .badLine path.text number fault
  else .error (.inputMissing "Declared references file" (some path.text))

end ReferenceAudit.Store
