import ReferenceAudit.Text.Quoted

/-! # UTF-8: texts as bytes, and bytes read strictly or leniently -/
namespace ReferenceAudit.Text.Utf8

def tailByte (n : Nat) : UInt8 := UInt8.ofNat (0x80 + n % 0x40)

def encodeChar (c : Char) : List UInt8 :=
  let n := c.toNat
  if n < 0x80 then [UInt8.ofNat n]
  else if n < 0x800 then [UInt8.ofNat (0xC0 + n / 0x40), tailByte n]
  else if n < 0x10000 then [UInt8.ofNat (0xE0 + n / 0x1000), tailByte (n / 0x40), tailByte n]
  else [UInt8.ofNat (0xF0 + n / 0x40000), tailByte (n / 0x1000), tailByte (n / 0x40), tailByte n]

def encode (s : String) : List UInt8 := s.toList.flatMap encodeChar

inductive Reason
  | startByte | continuation | ending
  deriving DecidableEq, Repr

/-- Bytes that are no character: where they start, and which they are. -/
structure Fault where
  position : Nat
  bytes : List UInt8
  reason : Reason
  deriving DecidableEq, Repr

inductive Piece
  | char (c : Char)
  | bad (fault : Fault)
  deriving DecidableEq, Repr

def isTail (b : UInt8) : Bool := 0x80 ≤ b.toNat && b.toNat ≤ 0xBF

/-- Whether `b` may follow the first byte: no overlong form, no surrogate, nothing above the last code point. -/
def isSecond (first b : UInt8) : Bool :=
  isTail b && (first.toNat != 0xE0 || 0xA0 ≤ b.toNat) && (first.toNat != 0xED || b.toNat ≤ 0x9F)
    && (first.toNat != 0xF0 || 0x90 ≤ b.toNat) && (first.toNat != 0xF4 || b.toNat ≤ 0x8F)

/-- The bytes that a first byte asks for after it. -/
def owed (first : UInt8) : Option Nat :=
  let n := first.toNat
  if n < 0x80 then some 0
  else if 0xC2 ≤ n ∧ n ≤ 0xDF then some 1
  else if 0xE0 ≤ n ∧ n ≤ 0xEF then some 2
  else if 0xF0 ≤ n ∧ n ≤ 0xF4 then some 3
  else none

/-- The longest run of at most `count` bytes after `first` that a character can go on with. -/
def tails (first : UInt8) (count : Nat) : List UInt8 → List UInt8
  | [] => []
  | b :: bs => if 0 < count ∧ isSecond first b then b :: (bs.takeWhile isTail).take (count - 1) else []

def leadBits (first : UInt8) : Nat → Nat
  | 0 => first.toNat
  | 1 => first.toNat % 0x20
  | 2 => first.toNat % 0x10
  | _ => first.toNat % 0x8

def codePoint (lead : Nat) (rest : List UInt8) : Nat :=
  rest.foldl (fun n b => n * 0x40 + b.toNat % 0x40) lead

/-- The first piece of `first :: rest`, and how many bytes of `rest` it takes. -/
def piece (position : Nat) (first : UInt8) (rest : List UInt8) : Piece × Nat :=
  match owed first with
  | none => (.bad ⟨position, [first], .startByte⟩, 0)
  | some count =>
    let run := tails first count rest
    if run.length = count then (.char (Char.ofNat (codePoint (leadBits first count) run)), count)
    else (.bad ⟨position, first :: run, if rest.length = run.length then .ending else .continuation⟩, run.length)

/-- Bytes as characters and faults, in order. -/
def scan (position : Nat) : List UInt8 → List Piece
  | [] => []
  | first :: rest =>
    let p := piece position first rest
    p.1 :: scan (position + 1 + p.2) (rest.drop p.2)
termination_by bytes => bytes.length
decreasing_by simp only [List.length_drop, List.length_cons]; omega

def strict : List Piece → Except Fault (List Char)
  | [] => .ok []
  | .char c :: ps => (strict ps).map (c :: ·)
  | .bad fault :: _ => .error fault

/-- The text that the bytes are, or their first fault. -/
def decode (bytes : List UInt8) : Except Fault String := (strict (scan 0 bytes)).map String.ofList

def Piece.lenient : Piece → Char
  | .char c => c
  | .bad _ => Char.ofNat 0xFFFD

/-- The text of any bytes: each fault becomes one replacement character. -/
def decodeLenient (bytes : List UInt8) : String := String.ofList ((scan 0 bytes).map Piece.lenient)

def byteOrderMark : List UInt8 := [0xEF, 0xBB, 0xBF]

def withoutMark : List UInt8 → List UInt8
  | 0xEF :: 0xBB :: 0xBF :: rest => rest
  | bytes => bytes

/-- As `decode` for bytes that come in as a stream: what is missing at the end is noticed only when
nothing more comes, and its position counts from the start of the character. -/
def decodeStream (bytes : List UInt8) : Except Fault String :=
  (decode bytes).mapError fun f => if f.reason = .ending then { f with position := 0 } else f

def Reason.message : Reason → String
  | .startByte => "invalid start byte"
  | .continuation => "invalid continuation byte"
  | .ending => "unexpected end of data"

def Fault.message (f : Fault) : String :=
  (match f.bytes with
    | [b] => "'utf-8' codec can't decode byte 0x" ++ String.ofList (hex false 2 b.toNat) ++
      s!" in position {f.position}: "
    | bytes => s!"'utf-8' codec can't decode bytes in position {f.position}-{f.position + bytes.length - 1}: ")
    ++ f.reason.message

end ReferenceAudit.Text.Utf8
