import ReferenceAudit.Text.Case
import ReferenceAudit.Text.PrintTables

/-! # Quoted texts in messages -/
namespace ReferenceAudit.Text

def isPrintable (c : Char) : Bool := !inRanges PrintTables.unprintable c

def hexDigit (upperCase : Bool) (n : Nat) : Char :=
  if n < 10 then Char.ofNat (0x30 + n) else Char.ofNat ((if upperCase then 0x41 else 0x61) + (n - 10))

/-- The last `width` hexadecimal digits of a number. -/
def hex (upperCase : Bool) : Nat → Nat → List Char
  | 0, _ => []
  | width + 1, n => hex upperCase width (n / 16) ++ [hexDigit upperCase (n % 16)]

/-- A character as its number, in the shortest of the forms with two, four and eight digits. -/
def numbered (upperCase : Bool) (c : Char) : List Char :=
  let n := c.toNat
  if n ≤ 0xFF then '\\' :: 'x' :: hex upperCase 2 n
  else if n ≤ 0xFFFF then '\\' :: 'u' :: hex upperCase 4 n
  else '\\' :: 'U' :: hex upperCase 8 n

def apostrophe : Char := Char.ofNat 0x27
def quotation : Char := Char.ofNat 0x22

def quotedChar (mark c : Char) : List Char :=
  if c = mark ∨ c = '\\' then ['\\', c]
  else if c = '\n' then ['\\', 'n']
  else if c = '\r' then ['\\', 'r']
  else if c = '\t' then ['\\', 't']
  else if isPrintable c then [c] else numbered false c

/-- A text between apostrophes, or between quotation marks if only apostrophes stand in it. -/
def quoted (s : String) : String :=
  let mark := if s.toList.contains apostrophe && !s.toList.contains quotation then quotation else apostrophe
  String.ofList (mark :: s.toList.flatMap (quotedChar mark) ++ [mark])

/-- Bytes as the characters with their numbers, those beyond the first hundred and twenty-seven as numbers. -/
def quotedByte (mark : Char) (b : UInt8) : List Char :=
  if b < 0x7F then quotedChar mark (Char.ofNat b.toNat) else '\\' :: 'x' :: hex false 2 b.toNat

def quotedBytes (bs : List UInt8) : String :=
  let has (c : Char) := bs.any fun b => b.toNat == c.toNat
  let mark := if has apostrophe && !has quotation then quotation else apostrophe
  String.ofList ('b' :: mark :: bs.flatMap (quotedByte mark) ++ [mark])

end ReferenceAudit.Text
