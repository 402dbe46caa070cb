import ReferenceAudit.Diagnostic
import ReferenceAudit.OrderedMap

/-! # What keeps a diagnostic from being reported -/
namespace ReferenceAudit

/-- Whether a list with `;` between its entries names an id, without regard to case and outer white space. -/
def noWarnNames (list id : String) : Bool :=
  list != "" && (Text.splitOn ';' list).any fun entry => Text.fold (Text.trim entry) == Text.fold id

def isTrue (text : String) : Bool := Text.fold (Text.trim text) == "true"

/-- Categories to leave out by label, and labels that always count as used. Labels are kept folded. -/
structure Suppression where
  categories : OrderedMap (List Category)
  alwaysUsed : List String
  deriving DecidableEq

namespace Suppression

/-- The label that stands for every reference. -/
def everywhere : String := "*"

/-- Of two labels that differ in case only, the later one's categories hold. -/
def ofRules (rules : List (String × List Category)) (alwaysUsed : List String) : Suppression :=
  ⟨OrderedMap.ofList (rules.map fun r => (Text.fold r.1, r.2)), alwaysUsed.map Text.fold⟩

def empty : Suppression := ofRules [] []

def ignores (s : Suppression) : Diagnostic.Ignoring := fun r c =>
  let label := Text.fold r.label
  s.alwaysUsed.contains label || (s.categories.getD everywhere []).contains c ||
    (s.categories.getD label []).contains c

end Suppression
end ReferenceAudit
