import ReferenceAudit.Text.Case

/-! # Declared references -/
namespace ReferenceAudit

/-- How a module asks for what it references: an assembly, another project's module, or a package. -/
inductive Kind
  | direct | project | package
  deriving DecidableEq, Repr, Inhabited

/-- A declared reference. The identity is the path of the module that it resolves to, or empty; the label
is what the author wrote. -/
structure Reference where
  identity : String
  kind : Kind
  label : String
  deriving DecidableEq, Repr, Inhabited

def Reference.isResolved (r : Reference) : Bool := r.identity != ""

/-- The key of a package: ids that differ in case only name one package. -/
def packageKey (id : String) : String := Text.fold id

/-- The key of a module: paths that differ in case only name one module. -/
def moduleKey (identity : String) : String := Text.fold identity

namespace Kind

def token : Kind → String
  | .direct => "Reference"
  | .project => "ProjectReference"
  | .package => "PackageReference"

def ofToken? : String → Option Kind
  | "Reference" => some .direct
  | "ProjectReference" => some .project
  | "PackageReference" => some .package
  | _ => none

@[simp] theorem ofToken?_token (k : Kind) : ofToken? k.token = some k := by cases k <;> rfl

end Kind
end ReferenceAudit
