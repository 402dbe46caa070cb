import ReferenceAudit.Fault
import ReferenceAudit.Reference
import ReferenceAudit.Text.Lines

/-! # Declared references as lines

A line holds the identity, the kind's token and the label, with tabs between them. The label comes last
and may hold tabs itself.
-/
namespace ReferenceAudit.Reference

def tab : Char := '\t'

def isBreak (c : Char) : Bool := c == '\r' || c == '\n'

def line (r : Reference) : String := r.identity ++ "\t" ++ r.kind.token ++ "\t" ++ r.label

/-- The line of a reference, unless reading it back would give something else. -/
def line? (r : Reference) : Except RecordFault String :=
  if r.identity.toList.any isBreak then .error (.identityBreak (Text.quoted r.label))
  else if r.label.toList.any isBreak then .error (.labelBreak (Text.quoted r.label))
  else if r.identity.toList.contains tab then .error (.identityTab (Text.quoted r.label) (Text.quoted r.identity))
  else .ok r.line

/-- The fields of a line: at most two tabs part them. -/
def fields (cs : List Char) : List (List Char) :=
  match Text.pieces (· == tab) cs with
  | identity :: token :: label :: more => [identity, token, [tab].intercalate (label :: more)]
  | fields => fields

def ofLine? (line : String) : Except LineFault Reference :=
  match fields line.toList with
  | [identity, token, label] => match Kind.ofToken? (String.ofList token) with
    | some kind => .ok ⟨String.ofList identity, kind, String.ofList label⟩
    | none => .error (.unknownToken (String.ofList token))
  | fields => .error (.fieldCount fields.length)

end ReferenceAudit.Reference
