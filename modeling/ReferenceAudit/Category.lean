import ReferenceAudit.Reference
import ReferenceAudit.Text.Blank

/-! # Categories of diagnostics -/
namespace ReferenceAudit

inductive Category
  | docGeneration | reference | project | package | unexpected
  deriving DecidableEq, Repr, Inhabited

namespace Category

def all : List Category := [.docGeneration, .reference, .project, .package, .unexpected]

def id : Category → String
  | .docGeneration => "RT0000"
  | .reference => "RT0001"
  | .project => "RT0002"
  | .package => "RT0003"
  | .unexpected => "RT9999"

/-- An id is read without regard to case and to white space around it. -/
def ofId? (text : String) : Option Category :=
  all.find? fun c => c.id == Text.upper (Text.trim text)

def ofKind : Kind → Category
  | .direct => .reference
  | .project => .project
  | .package => .package

def title : Category → String
  | .docGeneration => "Enable documentation generation for accuracy of used references detection"
  | .reference => "Unnecessary reference"
  | .project => "Unnecessary project reference"
  | .package => "Unnecessary package reference"
  | .unexpected => "Unexpected error"

/-- A message's parts: fixed text and the places of its arguments. -/
inductive Part
  | literal (s : String)
  | argument (index : Nat)
  deriving DecidableEq, Repr

def parts : Category → List Part
  | .docGeneration =>
    [.literal ("Enable documentation generation (GenerateDocumentationFile) " ++
      "for accuracy of used references detection")]
  | .reference => [.literal "Reference ", .argument 0, .literal " can be removed"]
  | .project => [.literal "ProjectReference ", .argument 0, .literal " can be removed"]
  | .package => [.literal "PackageReference ", .argument 0, .literal " can be removed", .argument 1]
  | .unexpected => [.literal "ReferenceTrimmer encountered an unexpected error: ", .argument 0]

def Part.placeholder : Part → String
  | .literal s => s
  | .argument index => "\x7b" ++ toString index ++ "\x7d"

def template (c : Category) : String := String.join (c.parts.map Part.placeholder)

def Part.fill? (arguments : List String) : Part → Option String
  | .literal s => some s
  | .argument index => arguments[index]?

/-- The message with its arguments; none if there are too few of them. -/
def message? (c : Category) (arguments : List String) : Option String :=
  (c.parts.mapM (Part.fill? arguments)).map String.join

theorem id_injective {a b : Category} (h : a.id = b.id) : a = b := by
  revert h; cases a <;> cases b <;> decide

theorem ofKind_injective {k l : Kind} (h : ofKind k = ofKind l) : k = l := by
  revert h; cases k <;> cases l <;> decide

end Category
end ReferenceAudit
