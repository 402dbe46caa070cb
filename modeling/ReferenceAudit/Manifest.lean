import ReferenceAudit.OrderedMap
import ReferenceAudit.Text.Case

/-! # Lock manifests: what a restore resolved for each target -/
namespace ReferenceAudit

/-- A library as one target sees it; only the names of its assets count. -/
structure TargetLibrary where
  type : String
  framework : Option String
  dependencies : OrderedMap String
  compile : List String
  build : List String
  deriving DecidableEq

structure Library where
  type : String
  path : Option String
  deriving DecidableEq

structure Manifest where
  version : Int
  targets : OrderedMap (OrderedMap TargetLibrary)
  libraries : OrderedMap Library
  folders : List String
  deriving DecidableEq

namespace Manifest

def sameName (a b : String) : Bool := Text.fold a == Text.fold b

def findTarget? (m : Manifest) (key : String) : Option (OrderedMap TargetLibrary) := m.targets.find? sameName key

def libraryName (id version : String) : String := id ++ "/" ++ version

def findLibrary? (m : Manifest) (id version : String) : Option Library :=
  m.libraries.find? sameName (libraryName id version)

/-- The file name of an asset that stands for an empty folder. -/
def placeholder : String := "_._"

def isPlaceholder (asset : String) : Bool := placeholder.toList.isSuffixOf asset.toList

end Manifest

/-- A framework and, for some targets, a runtime. -/
structure Selector where
  framework : String
  runtime : Option String
  deriving DecidableEq, Repr

def Selector.targetKey (s : Selector) : String :=
  match s.runtime with
  | none | some "" => s.framework
  | some runtime => s.framework ++ "/" ++ runtime

end ReferenceAudit
