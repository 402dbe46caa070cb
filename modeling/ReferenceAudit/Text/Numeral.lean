import ReferenceAudit.Text.Blank

/-! # Integers written in digits to a base -/
namespace ReferenceAudit.Text.Numeral

/-- The zeros of the scripts that have decimal digits; the other nine digits follow each of them. -/
def zeros : List Nat :=
  [0x30, 0x660, 0x6F0, 0x7C0, 0x966, 0x9E6, 0xA66, 0xAE6, 0xB66, 0xBE6, 0xC66, 0xCE6, 0xD66, 0xDE6, 0xE50, 0xED0,
   0xF20, 0x1040, 0x1090, 0x17E0, 0x1810, 0x1946, 0x19D0, 0x1A80, 0x1A90, 0x1B50, 0x1BB0, 0x1C40, 0x1C50, 0xA620,
   0xA8D0, 0xA900, 0xA9D0, 0xA9F0, 0xAA50, 0xABF0, 0xFF10, 0x104A0, 0x10D30, 0x11066, 0x110F0, 0x11136, 0x111D0,
   0x112F0, 0x11450, 0x114D0, 0x11650, 0x116C0, 0x11730, 0x118E0, 0x11950, 0x11C50, 0x11D50, 0x11DA0, 0x16A60,
   0x16AC0, 0x16B50, 0x1D7CE, 0x1D7D8, 0x1D7E2, 0x1D7EC, 0x1D7F6, 0x1E140, 0x1E2F0, 0x1E950, 0x1FBF0]

inductive Fault
  | malformed (base : Nat) (text : String)
  | long (digits : Nat)
  deriving DecidableEq, Repr

def decimalValue? (c : Char) : Option Nat :=
  zeros.findSome? fun z => if z ≤ c.toNat ∧ c.toNat < z + 10 then some (c.toNat - z) else none

/-- A decimal digit of any script as the digit of the first one. -/
def plain (c : Char) : Char := match decimalValue? c with
  | some d => Char.ofNat (0x30 + d)
  | none => c

/-- What a character counts as a digit: letters go on after nine. -/
def digitValue? (c : Char) : Option Nat :=
  if '0' ≤ c ∧ c ≤ '9' then some (c.toNat - 0x30)
  else if 'a' ≤ c ∧ c ≤ 'z' then some (c.toNat - 0x57)
  else if 'A' ≤ c ∧ c ≤ 'Z' then some (c.toNat - 0x37)
  else none

def valueTo? (base : Nat) (c : Char) : Option Nat := (digitValue? c).filter (· < base)

/-- The digits to a base that a text starts with, as values. -/
def digits (base : Nat) : List Char → List Nat
  | [] => []
  | c :: cs => match valueTo? base c with
    | some d => d :: digits base cs
    | none => []

def number (base : Nat) (ds : List Nat) : Nat := ds.foldl (fun n d => n * base + d) 0

/-- A sign, and the text behind it. -/
def signed : List Char → Bool × List Char
  | '-' :: cs => (true, cs)
  | '+' :: cs => (false, cs)
  | cs => (false, cs)

/-- The letter that may follow a zero to tell the base. -/
def mark? : Nat → Option Char
  | 2 => some 'b'
  | 8 => some 'o'
  | 16 => some 'x'
  | _ => none

def unmarked (base : Nat) : List Char → List Char
  | '0' :: c :: cs => if mark? base = some c.toLower then cs else '0' :: c :: cs
  | cs => cs

/-- A number to the base ten has no more digits than these. -/
def mostDigits : Nat := 4300

/-- An integer to a base. White space around it, a sign and a mark of the base are
allowed, and digits of all scripts count. -/
def read (base : Nat) (text : String) : Except Fault Int :=
  let (negative, cs) := signed ((trimBoth isWhite text.toList).map plain)
  let cs := unmarked base cs
  let ds := digits base cs
  if base = 10 ∧ mostDigits < ds.length then .error (.long ds.length)
  else if ds = [] ∨ ds.length < cs.length then .error (.malformed base text)
  else .ok (if negative then -(number base ds : Int) else number base ds)

end ReferenceAudit.Text.Numeral
