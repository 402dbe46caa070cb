/-! # Decimal numerals and the binary fractions nearest to them -/
namespace ReferenceAudit

/-- A numeral with a fraction or an exponent: `digits` times ten to the `exponent`. -/
inductive Decimal
  | finite (negative : Bool) (digits : Nat) (exponent : Int)
  | infinite (negative : Bool)
  | undefined
  deriving DecidableEq, Repr

namespace Decimal

/-- A quotient rounded to the nearest number, a tie to the even one. -/
def roundDiv (num den : Nat) : Nat :=
  let q := num / den
  let r := 2 * (num % den)
  if r < den ∨ r = den ∧ q % 2 = 0 then q else q + 1

/-- A magnitude in double precision: `mantissa` times two to the `exponent`. -/
structure Binary where
  mantissa : Nat
  exponent : Int
  deriving DecidableEq, Repr

/-- The quotient times two to the minus `q`, rounded. -/
def scaled (num den : Nat) (q : Int) : Nat :=
  if q < 0 then roundDiv (num <<< (-q).toNat) den else roundDiv num (den <<< q.toNat)

def fits (num den : Nat) (q : Int) : Bool :=
  if q < 0 then num <<< (-q).toNat < den <<< 53 else num < den <<< (53 + q.toNat)

/-- The double nearest to a quotient, or none if it is too large. -/
def nearestQuotient? (num den : Nat) : Option Binary :=
  let guess := (Nat.log2 num : Int) - Nat.log2 den - 53
  let q := if fits num den guess then guess else guess + 1
  let q := max q (-1074)
  let m := scaled num den q
  let b : Binary := if m = 1 <<< 53 then ⟨1 <<< 52, q + 1⟩ else ⟨m, q⟩
  if b.exponent > 971 then none else some b

/-- The double nearest to a magnitude, or none if it is too large. -/
def nearest? (digits : Nat) (exponent : Int) : Option Binary :=
  let size := (Nat.toDigits 10 digits).length
  if digits = 0 ∨ size + exponent < -400 then some ⟨0, 0⟩
  else if size + exponent > 400 then none
  else if exponent < 0 then nearestQuotient? digits (Nat.pow 10 (-exponent).toNat)
  else nearestQuotient? (digits * Nat.pow 10 exponent.toNat) 1

def isZero : Decimal → Bool
  | finite _ digits exponent => (nearest? digits exponent).any (·.mantissa == 0)
  | _ => false

inductive Whole
  | whole (n : Int)
  | fraction
  | notFinite
  deriving DecidableEq, Repr

/-- The integer that the nearest double is. -/
def whole : Decimal → Whole
  | finite negative digits exponent => match nearest? digits exponent with
    | none => .notFinite
    | some ⟨m, q⟩ =>
      let sign : Int := if negative then -1 else 1
      if 0 ≤ q then .whole (sign * (m <<< q.toNat : Nat))
      else if m % 1 <<< (-q).toNat = 0 then .whole (sign * (m >>> (-q).toNat : Nat))
      else .fraction
  | _ => .notFinite

end Decimal
end ReferenceAudit
