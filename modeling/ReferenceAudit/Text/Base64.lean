/-! # Bytes written in sixty-four characters -/
namespace ReferenceAudit.Text.Base64

def sextet? (c : Char) : Option Nat :=
  if 'A' ≤ c ∧ c ≤ 'Z' then some (c.toNat - 0x41)
  else if 'a' ≤ c ∧ c ≤ 'z' then some (c.toNat - 0x47)
  else if '0' ≤ c ∧ c ≤ '9' then some (c.toNat + 4)
  else if c = '+' then some 62
  else if c = '/' then some 63
  else none

/-- The sextets of a group that is not full yet, the last one first, and how many
padding marks stand behind them. -/
structure Group where
  sextets : List Nat
  marks : Nat

/-- The byte that a sextet completes, with the one before it. -/
def byte? (before : List Nat) (sextet : Nat) : Option UInt8 :=
  match before with
  | [a] => some (UInt8.ofNat (a * 4 + sextet / 16))
  | [b, _] => some (UInt8.ofNat (b % 16 * 16 + sextet / 4))
  | [c, _, _] => some (UInt8.ofNat (c % 4 * 64 + sextet))
  | _ => none

/-- The bytes behind an open group. Other characters are passed over; padding that completes a group ends the
text, and without it a group has to be full. -/
def decodeFrom (g : Group) : List Char → Option (List UInt8)
  | [] => if g.sextets = [] then some [] else none
  | c :: cs =>
    if c = '=' then
      if 2 ≤ g.sextets.length ∧ 4 ≤ g.sextets.length + g.marks + 1 then some []
      else decodeFrom { g with marks := if 2 ≤ g.sextets.length then g.marks + 1 else g.marks } cs
    else match sextet? c with
      | none => decodeFrom g cs
      | some sextet =>
        let sextets := if g.sextets.length = 3 then [] else sextet :: g.sextets
        match byte? g.sextets sextet with
        | some byte => (decodeFrom ⟨sextets, 0⟩ cs).map (byte :: ·)
        | none => decodeFrom ⟨sextets, 0⟩ cs

def decode (cs : List Char) : Option (List UInt8) := decodeFrom ⟨[], 0⟩ cs

end ReferenceAudit.Text.Base64
