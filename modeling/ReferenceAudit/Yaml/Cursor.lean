import ReferenceAudit.Fault

/-! # Places in a YAML text -/
namespace ReferenceAudit.Yaml

/-- What is still to be read, and where it starts. -/
structure Cursor where
  rest : List Char
  index : Nat
  line : Nat
  column : Nat

def endMark : Char := Char.ofNat 0
def nextLine : Char := Char.ofNat 0x85
def lineSeparator : Char := Char.ofNat 0x2028
def paragraphSeparator : Char := Char.ofNat 0x2029
def byteOrderMark : Char := Char.ofNat 0xFEFF

def isBreak (c : Char) : Bool :=
  c == '\n' || c == '\r' || c == nextLine || c == lineSeparator || c == paragraphSeparator

def isEnd (c : Char) : Bool := c == endMark || isBreak c

def isSpaceOrEnd (c : Char) : Bool := c == ' ' || isEnd c

def isGap (c : Char) : Bool := c == '\t' || isSpaceOrEnd c

/-- Characters that a YAML text may hold. -/
def isAllowed (c : Char) : Bool :=
  let n := c.toNat
  n == 0x9 || n == 0xA || n == 0xD || (0x20 ≤ n && n ≤ 0x7E) || n == 0x85 || (0xA0 ≤ n && n ≤ 0xFFFD) || 0x10000 ≤ n

def isWord (c : Char) : Bool :=
  ('0' ≤ c && c ≤ '9') || ('A' ≤ c && c ≤ 'Z') || ('a' ≤ c && c ≤ 'z') || c == '-' || c == '_'

namespace Cursor

def start (cs : List Char) : Cursor := ⟨cs, 0, 0, 0⟩

/-- The character `k` places on; the end mark stands behind the text. -/
def peek (c : Cursor) (k : Nat) : Char := (c.rest[k]?).getD endMark

def next (c : Cursor) : Cursor := match c.rest with
  | [] => c
  | ch :: rest =>
    if isBreak ch && !(ch == '\r' && rest.head? == some '\n') then ⟨rest, c.index + 1, c.line + 1, 0⟩
    else if ch == byteOrderMark then ⟨rest, c.index + 1, c.line, c.column⟩
    else ⟨rest, c.index + 1, c.line, c.column + 1⟩

def skip (c : Cursor) : Nat → Cursor
  | 0 => c
  | n + 1 => c.next.skip n

def span (c : Cursor) (p : Char → Bool) : List Char × Cursor :=
  let run := c.rest.takeWhile p
  (run, c.skip run.length)

def skipWhile (c : Cursor) (p : Char → Bool) : Cursor := (c.span p).2

/-- The line break here, if there is one, as one character. -/
def lineBreak? (c : Cursor) : Option (Char × Cursor) :=
  match c.rest with
  | '\r' :: '\n' :: _ => some ('\n', c.skip 2)
  | ch :: _ =>
    if ch == lineSeparator || ch == paragraphSeparator then some (ch, c.next)
    else if isBreak ch then some ('\n', c.next)
    else none
  | [] => none

def hasMark (c : Cursor) (ch : Char) : Bool :=
  c.peek 0 == ch && c.peek 1 == ch && c.peek 2 == ch && isGap (c.peek 3)

def hasDocumentMark (c : Cursor) : Bool := c.hasMark '-' || c.hasMark '.'

end Cursor
end ReferenceAudit.Yaml
