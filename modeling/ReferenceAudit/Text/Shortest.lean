import ReferenceAudit.Text.Decimal

/-! # The shortest numerals for binary fractions

A number in double precision is written with the fewest digits that read back as it.
-/
namespace ReferenceAudit.Decimal

def Binary.quotient (b : Binary) : Nat × Nat :=
  if 0 ≤ b.exponent then (b.mantissa <<< b.exponent.toNat, 1) else (b.mantissa, 1 <<< (-b.exponent).toNat)

def timesTen (num den : Nat) (power : Int) : Nat × Nat :=
  if 0 ≤ power then (num * Nat.pow 10 power.toNat, den) else (num, den * Nat.pow 10 (-power).toNat)

/-- The power of ten at or below a quotient; `guess` is at most one too high. -/
def powerOf (num den : Nat) (guess : Int) : Int :=
  let (n, d) := timesTen num den (-guess)
  if n < d then guess - 1 else guess

/-- The quotient on the grid of numerals with so many digits: the points around it, the nearer one first. -/
def neighbours (num den : Nat) (power : Int) (digits : Nat) : List Nat :=
  let (n, d) := timesTen num den (digits - 1 - power)
  let low := n / d
  let rest := 2 * (n % d)
  if rest < d ∨ rest = d ∧ low % 2 = 0 then [low, low + 1] else [low + 1, low]

/-- Digits and a power of ten that read back as a magnitude. -/
def shortestFrom (b : Binary) (num den : Nat) (power : Int) : Nat → Nat → Nat × Int
  | 0, digits => (((neighbours num den power digits).head?).getD 0, power - digits + 1)
  | more + 1, digits =>
    let exponent := power - digits + 1
    match (neighbours num den power digits).find? fun n => nearest? n exponent == some b with
    | some n => (n, exponent)
    | none => shortestFrom b num den power more (digits + 1)

/-- The fewest digits that read back as a magnitude, and the power of ten that they
are times. Seventeen digits are always enough. -/
def shortest (b : Binary) : Nat × Int :=
  if b.mantissa = 0 then (0, 0)
  else
    let (num, den) := b.quotient
    let guess := ((Nat.toDigits 10 num).length : Int) - (Nat.toDigits 10 den).length
    shortestFrom b num den (powerOf num den guess) 16 1

/-- Digits without zeros at the end. -/
def trimZeros (ds : List Char) : List Char :=
  match (ds.reverse.dropWhile (· == '0')).reverse with
  | [] => ['0']
  | ds => ds

/-- Digits with a point before the place of `power`; from ten to the sixteenth on,
and below a ten-thousandth, with an exponent. -/
def placed (ds : List Char) (power : Int) : List Char :=
  if -4 ≤ power ∧ power < 0 then '0' :: '.' :: List.replicate (-power - 1).toNat '0' ++ ds
  else if 0 ≤ power ∧ power < 16 then
    let whole := power.toNat + 1
    let ds := ds ++ List.replicate (whole - ds.length) '0'
    ds.take whole ++ '.' :: (if ds.length = whole then ['0'] else ds.drop whole)
  else
    let exponent := Nat.toDigits 10 power.natAbs
    ds.take 1 ++ (if ds.length = 1 then [] else '.' :: ds.drop 1) ++
      'e' :: (if power < 0 then '-' else '+') :: List.replicate (2 - exponent.length) '0' ++ exponent

/-- A numeral as the number in double precision that it stands for. -/
def shown : Decimal → String
  | undefined => "nan"
  | infinite negative => if negative then "-inf" else "inf"
  | finite negative digits exponent =>
    let sign := if negative then "-" else ""
    match nearest? digits exponent with
    | none => sign ++ "inf"
    | some b =>
      let (digits, exponent) := shortest b
      let ds := Nat.toDigits 10 digits
      sign ++ String.ofList (placed (trimZeros ds) (exponent + ds.length - 1))

end ReferenceAudit.Decimal
