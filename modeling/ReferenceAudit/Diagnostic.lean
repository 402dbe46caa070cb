import ReferenceAudit.Category
import ReferenceAudit.Text.Lines

/-! # Verdicts on references and the diagnostics they give -/
namespace ReferenceAudit

/-- What can be said of a declared reference. One that is removable with a caveat has no used module of its
own, but brings in a package that has one. -/
inductive Classification
  | used | removable | removableWithCaveat
  deriving DecidableEq, Repr, Inhabited

def Classification.isRemovable (c : Classification) : Bool := c != .used

def Classification.word : Classification → String
  | .used => "used"
  | .removable => "removable"
  | .removableWithCaveat => "removable_with_caveat"

/-- The verdict on one reference, or on a package through its first reference. -/
structure Verdict where
  reference : Reference
  classification : Classification
  ownUsed : List String
  transitiveUsed : List String
  deriving DecidableEq, Repr, Inhabited

structure Diagnostic where
  category : Category
  message : String
  label : String
  classification : Option Classification
  deriving DecidableEq, Repr

namespace Diagnostic

def severity : String := "warning"

def text (d : Diagnostic) : String := d.category.id ++ ": " ++ d.message

def texts (ds : List Diagnostic) : String := Text.join "\n" (ds.map text)

def caveat : String := " (though packages it depends on are used; reference them directly)"

/-- A category's message; every use below gives all the arguments that it has. -/
def say (c : Category) (arguments : List String) : String := (c.message? arguments).getD ""

def arguments (v : Verdict) : List String :=
  match v.reference.kind with
  | .package => [v.reference.label, if v.classification = .removableWithCaveat then caveat else ""]
  | _ => [v.reference.label]

def ofVerdict? (v : Verdict) : Option Diagnostic :=
  if v.classification.isRemovable then
    let category := Category.ofKind v.reference.kind
    some ⟨category, say category (arguments v), v.reference.label, some v.classification⟩
  else none

def docGeneration : Diagnostic := ⟨.docGeneration, say .docGeneration [], "", none⟩

def unexpected (kind text : String) : Diagnostic :=
  ⟨.unexpected, say .unexpected [kind ++ ": " ++ text], "", none⟩

abbrev Ignoring := Reference → Category → Bool

def ofVerdicts (ignore : Ignoring) (vs : List Verdict) : List Diagnostic :=
  vs.filterMap fun v => (ofVerdict? v).filter fun d => !ignore v.reference d.category

/-- The diagnostics of an analysis. The one on documentation comes first and is never ignored. -/
def emit (ignore : Ignoring) (docEnabled : Bool) (vs : List Verdict) : List Diagnostic :=
  (if docEnabled then [] else [docGeneration]) ++ ofVerdicts ignore vs

def ignoredCount (ignore : Ignoring) (vs : List Verdict) : Nat :=
  vs.countP fun v => (ofVerdict? v).any fun d => ignore v.reference d.category

theorem category_of_ofVerdict? {v : Verdict} {d : Diagnostic} (h : ofVerdict? v = some d) :
    d.category = Category.ofKind v.reference.kind := by
  rw [ofVerdict?] at h
  split at h
  · cases h
    rfl
  · cases h

theorem ofVerdicts_eq_filterMap (ignore : Ignoring) (vs : List Verdict) :
    ofVerdicts ignore vs =
      (vs.filter fun v => !ignore v.reference (Category.ofKind v.reference.kind)).filterMap ofVerdict? := by
  rw [ofVerdicts, List.filterMap_filter]
  congr 1
  funext v
  cases hd : ofVerdict? v with
  | none => simp
  | some d =>
    rw [Option.filter_some, category_of_ofVerdict? hd]

end Diagnostic
end ReferenceAudit
