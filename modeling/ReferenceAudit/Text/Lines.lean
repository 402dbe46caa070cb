/-! # Cutting a text into lines and fields -/
namespace ReferenceAudit.Text

/-- The pieces between the elements that `p` picks; always one more than there are of those. -/
def pieces {α : Type} (p : α → Bool) : List α → List (List α)
  | [] => [[]]
  | x :: xs => if p x then [] :: pieces p xs else match pieces p xs with
    | [] => [[x]]
    | q :: qs => (x :: q) :: qs

def splitOn (sep : Char) (s : String) : List String := (pieces (· == sep) s.toList).map String.ofList

def isLineEnd (c : Char) : Bool :=
  let n := c.toNat
  (0xA ≤ n && n ≤ 0xD) || (0x1C ≤ n && n ≤ 0x1E) || n == 0x85 || n == 0x2028 || n == 0x2029

/-- The lines of a text, without their ends; a carriage return and its line feed end one line together. -/
def lines : List Char → List (List Char)
  | [] => []
  | '\r' :: '\n' :: cs => [] :: lines cs
  | c :: cs => if isLineEnd c then [] :: lines cs else match lines cs with
    | [] => [[c]]
    | l :: ls => (c :: l) :: ls

/-- Every line ended by a line feed alone. -/
def unifyNewlines : List Char → List Char
  | [] => []
  | '\r' :: '\n' :: cs => '\n' :: unifyNewlines cs
  | c :: cs => (if c = '\r' then '\n' else c) :: unifyNewlines cs

def join (sep : String) (parts : List String) : String := sep.intercalate parts

theorem pieces_ne_nil {α : Type} (p : α → Bool) (xs : List α) : pieces p xs ≠ [] := by
  cases xs with
  | nil => simp [pieces]
  | cons x xs => simp only [pieces]; split <;> (try split) <;> simp

theorem not_mem_of_mem_pieces {α : Type} {p : α → Bool} {xs q : List α} (hq : q ∈ pieces p xs) :
    ∀ x ∈ q, p x = false := by
  induction xs generalizing q with
  | nil => simp [pieces] at hq; simp [hq]
  | cons x xs ih =>
    simp only [pieces] at hq
    split at hq
    · rcases List.mem_cons.1 hq with rfl | hq
      · simp
      · exact ih hq
    · rename_i hx
      split at hq
      · simp at hq; simp [hq, hx]
      · rename_i r rs he
        rcases List.mem_cons.1 hq with rfl | hq
        · intro y hy
          rcases List.mem_cons.1 hy with rfl | hy
          · simpa using hx
          · exact ih (by simp [he]) y hy
        · exact ih (by simp [he, hq])

end ReferenceAudit.Text
