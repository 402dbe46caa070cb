import ReferenceAudit.Text.Lines

/-! # Paths as texts and as lists of components -/
namespace ReferenceAudit

inductive Path.Root
  | relative | single | double
  deriving DecidableEq, Repr

/-- A path without empty and `.` components. -/
structure Path where
  root : Path.Root
  parts : List String
  deriving DecidableEq, Repr

namespace Path

/-- The character that no path of the system has in it. -/
def null : Char := '\x00'

def Root.text : Root → String
  | .relative => ""
  | .single => "/"
  | .double => "//"

/-- Exactly two leading slashes are a root of their own. -/
def rootOf : List Char → Root
  | '/' :: '/' :: '/' :: _ => .single
  | '/' :: '/' :: _ => .double
  | '/' :: _ => .single
  | _ => .relative

def isProper (part : String) : Bool := part != "" && part != "."

def ofString (s : String) : Path := ⟨rootOf s.toList, (Text.splitOn '/' s).filter isProper⟩

def text (p : Path) : String :=
  if p.root = .relative ∧ p.parts = [] then "." else p.root.text ++ Text.join "/" p.parts

def isAbsolute (p : Path) : Bool := p.root != .relative

def name (p : Path) : String := p.parts.getLast?.getD ""

def parent (p : Path) : Path := ⟨p.root, p.parts.dropLast⟩

def child (p : Path) (name : String) : Path := ⟨p.root, p.parts ++ [name]⟩

def append (p q : Path) : Path := if q.isAbsolute then q else ⟨p.root, p.parts ++ q.parts⟩

/-- One more component of a normal path; `..` takes the last one back, and stays only where a relative
path has none to take back. -/
def push (root : Root) (done : List String) (part : String) : List String :=
  if part ≠ ".." ∨ done.getLast? = some ".." ∨ (done = [] ∧ root = .relative) then done ++ [part]
  else done.dropLast

def normal (p : Path) : Path := ⟨p.root, p.parts.foldl (push p.root) []⟩

/-- Texts joined as paths: an absolute second one stands alone. -/
def joinText (a b : String) : String :=
  if b.toList.head? = some '/' then b
  else if a = "" ∨ a.toList.getLast? = some '/' then a ++ b
  else a ++ "/" ++ b

def absolute (cwd : Path) (s : String) : String := (cwd.append (ofString s)).normal.text

def normalText (s : String) : String := (ofString s).normal.text

def baseName (s : String) : String := (Text.splitOn '/' s).getLast?.getD ""

end Path
end ReferenceAudit
