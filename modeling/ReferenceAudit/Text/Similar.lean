/-! # How alike two texts are

Two texts share the longest run of characters that stands in both, and what is left of them on either side of
it shares runs in the same way.
-/
namespace ReferenceAudit.Text

def commonStart : List Char → List Char → Nat
  | a :: as, b :: bs => if a = b then commonStart as bs + 1 else 0
  | _, _ => 0

/-- A run that stands in two texts: where it starts in each, and how long it is. -/
structure CommonRun where
  first : Nat
  second : Nat
  length : Nat
  deriving DecidableEq, Repr

/-- All runs of two texts, by where they start in the first one and then in the second. -/
def commonRuns (as bs : List Char) : List CommonRun :=
  (List.range as.length).flatMap fun i => (List.range bs.length).map fun j =>
    ⟨i, j, commonStart (as.drop i) (bs.drop j)⟩

/-- The longest run; of runs as long, the first one. -/
def longestRun (as bs : List Char) : CommonRun :=
  (commonRuns as bs).foldl (fun best r => if best.length < r.length then r else best) ⟨0, 0, 0⟩

/-- How many characters two texts share. Every run takes at least one from the first
text, whose length is enough `fuel`. -/
def sharedUpTo : Nat → List Char → List Char → Nat
  | 0, _, _ => 0
  | fuel + 1, as, bs =>
    let r := longestRun as bs
    if r.length = 0 then 0
    else sharedUpTo fuel (as.take r.first) (bs.take r.second) + r.length +
      sharedUpTo fuel (as.drop (r.first + r.length)) (bs.drop (r.second + r.length))

def shared (a b : String) : Nat := sharedUpTo a.toList.length a.toList b.toList

/-- A candidate with the part of it and a word together that is shared, as a fraction. -/
structure Candidate where
  text : String
  shared : Nat
  whole : Nat

def Candidate.of (word text : String) : Candidate := ⟨text, 2 * Text.shared text word, text.length + word.length⟩

/-- Three fifths have to be shared. -/
def Candidate.isClose (c : Candidate) : Bool := 3 * c.whole ≤ 5 * c.shared

/-- Whether a candidate shares more than another; of two that share as much, the greater text goes first. -/
def Candidate.isBefore (a b : Candidate) : Bool :=
  b.shared * a.whole < a.shared * b.whole || (b.shared * a.whole == a.shared * b.whole && decide (b.text ≤ a.text))

def closest (word : String) (texts : List String) : List String :=
  (((texts.map (Candidate.of word)).filter Candidate.isClose).mergeSort Candidate.isBefore).take 3 |>.map (·.text)

end ReferenceAudit.Text
