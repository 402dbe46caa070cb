import ReferenceAudit.Text.CaseTables

/-! # Case mappings of a text -/
namespace ReferenceAudit.Text
open CaseTables

def inRanges (ranges : List (Nat × Nat)) (c : Char) : Bool :=
  ranges.any fun r => r.1 ≤ c.toNat && c.toNat ≤ r.2

def Run.image? (c : Nat) : Run → Option Nat
  | (first, last, step, target) =>
    if first ≤ c ∧ c ≤ last ∧ (c - first) % step = 0 then some (target + (c - first)) else none

/-- What a table makes of one character: an expansion wins, then a run, else the character stays. -/
def mapped (runs : List Run) (expansions : List Expansion) (c : Char) : List Char :=
  match expansions.lookup c.toNat with
  | some image => image.map Char.ofNat
  | none => match runs.findSome? (Run.image? c.toNat) with
    | some image => [Char.ofNat image]
    | none => [c]

def foldChar : Char → List Char := mapped foldRuns foldExpansions
def lowerChar : Char → List Char := mapped lowerRuns lowerExpansions
def upperChar : Char → List Char := mapped upperRuns upperExpansions

/-- The form under which texts compare without regard to case: the full folding, so `ß` is `ss`. -/
def fold (s : String) : String := String.ofList (s.toList.flatMap foldChar)

def upper (s : String) : String := String.ofList (s.toList.flatMap upperChar)

def sigma : Char := Char.ofNat 0x3A3
def smallSigma : Char := Char.ofNat 0x3C3
def finalSigma : Char := Char.ofNat 0x3C2

def cased? (cs : List Char) : Bool :=
  (cs.dropWhile (inRanges caseIgnorable)).head?.any (inRanges cased)

/-- Lower case after `before` (nearest character first). A sigma that ends a word gets its final form. -/
def lowerFrom (before : List Char) : List Char → List Char
  | [] => []
  | c :: cs =>
    (if c = sigma then [if cased? before && !cased? cs then finalSigma else smallSigma] else lowerChar c)
      ++ lowerFrom (c :: before) cs

def lower (s : String) : String := String.ofList (lowerFrom [] s.toList)

@[simp] theorem toList_fold (s : String) : (fold s).toList = s.toList.flatMap foldChar := by simp [fold]

theorem fold_append (s t : String) : fold (s ++ t) = fold s ++ fold t := by
  apply String.toList_injective; simp [fold]

end ReferenceAudit.Text
