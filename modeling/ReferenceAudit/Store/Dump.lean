import ReferenceAudit.Reference
import ReferenceAudit.Store.Write
import ReferenceAudit.Text.Order

/-! # Listings of the used and the unused modules -/
namespace ReferenceAudit.Store

def usedFileName : String := "_ReferenceTrimmer_UsedReferences.log"
def unusedFileName : String := "_ReferenceTrimmer_UnusedReferences.log"

def usedListing (used : List String) : List String := Text.sortedSet used

def unusedListing (used offered : List String) : List String :=
  let keys := used.map moduleKey
  Text.sortedSet (offered.filter fun m => !keys.contains (moduleKey m))

def listingText (modules : List String) : String := Text.join "\n" modules

/-- Writes one listing; the paths of what was written. -/
def writeListing (path : Path) (modules : List String) : Effect (List Path) := do
  if ← writeIfChanged path (listingText modules) true then return [path] else return []

/-- Writes both listings into a directory, each unless only case has changed. -/
def dump (directory : Path) (used offered : List String) : Effect (List Path) := do
  let first ← writeListing (directory.child usedFileName) (usedListing used)
  let second ← writeListing (directory.child unusedFileName) (unusedListing used offered)
  return first ++ second

end ReferenceAudit.Store
