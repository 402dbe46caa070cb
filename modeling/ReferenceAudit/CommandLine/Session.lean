import ReferenceAudit.CommandLine.Grammar
import ReferenceAudit.Narration

/-! # Sessions at a terminal: what a command prints, and how it ends -/
namespace ReferenceAudit.CommandLine

/-- A disk, and what has been printed to the two outputs. -/
structure Session where
  disk : Disk
  verbose : Bool
  output : String
  messages : String

/-- Why a command ends before its end. -/
inductive Stop
  | help (g : Grammar)
  | usage (g : Grammar) (fault : UsageFault)
  | failed (message : String)
  | fault (f : Fault)

abbrev Command := ExceptT Stop (StateM Session)

/-- How long the sequence is that controls a terminal, if the text starts with one: parameters, characters
between them and the last one, and the last one. -/
def controlLength : List Char → Nat
  | '\x1b' :: '[' :: cs =>
    let parameters := cs.takeWhile fun c => '0' ≤ c && c ≤ '?'
    let between := (cs.drop parameters.length).takeWhile fun c => ' ' ≤ c && c ≤ '/'
    let length := parameters.length + between.length
    if cs[length]?.any fun c => '@' ≤ c && c ≤ '~' then length + 3 else 0
  | _ => 0

/-- A text without such sequences, once the first `skipped` characters are left out. -/
def unstyled (skipped : Nat) : List Char → List Char
  | [] => []
  | c :: cs => match skipped with
    | skipped + 1 => unstyled skipped cs
    | 0 => match controlLength (c :: cs) with
      | 0 => c :: unstyled 0 cs
      | length + 1 => unstyled length cs

def line (s : String) : String := String.ofList (unstyled 0 s.toList) ++ "\n"

namespace Command

def print (s : String) : Command Unit := modify fun t => { t with output := t.output ++ line s }

def report (s : String) : Command Unit := modify fun t => { t with messages := t.messages ++ s ++ "\n" }

def narrate {α : Type} (account : Disk → Account α) : Command Unit := do
  let s ← get
  ((account s.disk).notes.filter (Note.isShown s.verbose)).forM fun n => report n.line

def orStop {α : Type} (stop : Fault → Stop) : Except Fault α → Command α
  | .ok a => pure a
  | .error fault => throw (stop fault)

/-- A fault that commands report in its own words, or else one that they do not expect. -/
def reported (fault : Fault) : Stop := if fault.isReported then .failed fault.message else .fault fault

def look {α : Type} (f : Disk → Except Fault α) : Command α := do
  orStop reported (f (← get).disk)

def onDisk {α : Type} (e : Effect α) : Command α := do
  let s ← get
  let (result, disk) := e.run.run s.disk
  set { s with disk }
  orStop reported result

def usage {α : Type} (g : Grammar) (fault : UsageFault) : Command α := throw (.usage g fault)

/-- Arguments that a command can work with. -/
def arguments (g : Grammar) (args : List String) : Command Arguments := do
  match g.read args with
  | .error fault => usage g fault
  | .ok a => match a.instead? with
    | some _ => return a
    | none => match g.check (← get).disk a with
      | .error fault => usage g fault
      | .ok () => return a

end Command
end ReferenceAudit.CommandLine
