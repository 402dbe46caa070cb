import ReferenceAudit.Json

/-! # Reading JSON text

Beside the standard's documents the reader takes `NaN`, `Infinity`, `-Infinity` and repeated names. Integers
and nesting have limits.
-/
namespace ReferenceAudit.Json

inductive Reason
  | byteOrderMark | value | name | colon | comma | rest | unterminated | control | escape | codeEscape
  deriving DecidableEq, Repr

/-- Why and where a text is no JSON: the line and column count from one, the position from zero. -/
structure Malformed where
  reason : Reason
  line : Nat
  column : Nat
  position : Nat
  deriving DecidableEq, Repr

def Reason.message : Reason → String
  | .byteOrderMark => "Unexpected UTF-8 BOM (decode using utf-8-sig)"
  | .value => "Expecting value"
  | .name => "Expecting property name enclosed in double quotes"
  | .colon => "Expecting ':' delimiter"
  | .comma => "Expecting ',' delimiter"
  | .rest => "Extra data"
  | .unterminated => "Unterminated string starting at"
  | .control => "Invalid control character at"
  | .escape => "Invalid \\escape"
  | .codeEscape => "Invalid \\uXXXX escape"

def Malformed.message (m : Malformed) : String :=
  s!"{m.reason.message}: line {m.line} column {m.column} (char {m.position})"

def Malformed.at (text : List Char) (reason : Reason) (position : Nat) : Malformed :=
  let before := text.take position
  ⟨reason, before.count '\n' + 1, (before.reverse.takeWhile (· != '\n')).length + 1, position⟩

/-- Why a text cannot be read: it is no JSON, or it goes beyond a limit. -/
inductive Fault
  | malformed (m : Malformed)
  | longNumeral (digits : Nat)
  | tooDeep (inList : Bool)
  deriving DecidableEq, Repr

namespace Parser

/-- What a reader found, the text after it and that text's position. -/
abbrev Found (α : Type) := α × List Char × Nat

/-- Why reading ends: something is wrong at a position, or a limit is reached. -/
inductive Trouble
  | wrong (reason : Reason) (position : Nat)
  | longNumeral (digits : Nat)
  | tooDeep (inList : Bool)
  deriving DecidableEq, Repr

abbrev Reading := Except Trouble

/-- An integer has no more digits than these. -/
def mostDigits : Nat := 4300

/-- Lists and objects stand inside each other no deeper than this. -/
def mostLevels : Nat := 990

def isSpace (c : Char) : Bool := c == ' ' || c == '\t' || c == '\n' || c == '\r'

def isDigit (c : Char) : Bool := '0' ≤ c && c ≤ '9'

def skip (cs : List Char) (pos : Nat) : List Char × Nat :=
  (cs.dropWhile isSpace, pos + (cs.takeWhile isSpace).length)

def after? : List Char → List Char → Option (List Char)
  | [], cs => some cs
  | _ :: _, [] => none
  | w :: ws, c :: cs => if w = c then after? ws cs else none

def hexValue? (c : Char) : Option Nat :=
  if isDigit c then some (c.toNat - 0x30)
  else if 'a' ≤ c && c ≤ 'f' then some (c.toNat - 0x57)
  else if 'A' ≤ c && c ≤ 'F' then some (c.toNat - 0x37)
  else none

/-- The four hexadecimal digits that a text starts with; more has to come after them. -/
def code? : List Char → Option Nat
  | a :: b :: c :: d :: _ :: _ => do
    let a ← hexValue? a; let b ← hexValue? b; let c ← hexValue? c; let d ← hexValue? d
    return ((a * 16 + b) * 16 + c) * 16 + d
  | _ => none

def simpleEscape? : Char → Option Char
  | '"' => some '"' | '\\' => some '\\' | '/' => some '/'
  | 'b' => some '\x08' | 'f' => some '\x0c' | 'n' => some '\n' | 'r' => some '\r' | 't' => some '\t'
  | _ => none

/-- The character that an escape means and how much of the text after the backslash it takes. Two escapes
can be the halves of one character; a half alone becomes the replacement character. -/
def escaped (start pos : Nat) : List Char → Reading (Char × Nat)
  | [] => .error (.wrong .unterminated start)
  | 'u' :: cs => match code? cs with
    | none => .error (.wrong .codeEscape (pos + 1))
    | some high =>
      if 0xD800 ≤ high ∧ high < 0xDC00 then match cs.drop 4 with
        | '\\' :: 'u' :: more => match code? more with
          | none => .error (.wrong .codeEscape (pos + 7))
          | some low =>
            if 0xDC00 ≤ low ∧ low < 0xE000 then
              .ok (Char.ofNat (0x10000 + (high - 0xD800) * 0x400 + (low - 0xDC00)), 11)
            else .ok (Char.ofNat 0xFFFD, 5)
        | _ => .ok (Char.ofNat 0xFFFD, 5)
      else .ok (if high < 0xD800 ∨ 0xE000 ≤ high then Char.ofNat high else Char.ofNat 0xFFFD, 5)
  | c :: _ => match simpleEscape? c with
    | some d => .ok (d, 1)
    | none => .error (.wrong .escape pos)

/-- The string whose opening quote stands at `start`, read from behind it. -/
def string (start pos : Nat) : List Char → Reading (Found (List Char))
  | [] => .error (.wrong .unterminated start)
  | c :: cs =>
    if c = '"' then .ok ([], cs, pos + 1)
    else if c = '\\' then do
      let (d, width) ← escaped start pos cs
      let (ds, rest) ← string start (pos + 1 + width) (cs.drop width)
      return (d :: ds, rest)
    else if c.toNat ≤ 0x1F then .error (.wrong .control pos)
    else do
      let (ds, rest) ← string start (pos + 1) cs
      return (c :: ds, rest)
termination_by cs => cs.length
decreasing_by all_goals simp only [List.length_cons, List.length_drop]; omega

def numeral (cs : List Char) : Nat := cs.foldl (fun n c => n * 10 + (c.toNat - 0x30)) 0

/-- The digits before any fraction: a leading zero stands alone. -/
def whole : List Char → List Char
  | '0' :: _ => ['0']
  | cs => cs.takeWhile isDigit

def fraction : List Char → List Char
  | '.' :: cs => match cs.takeWhile isDigit with
    | [] => []
    | ds => '.' :: ds
  | _ => []

def exponent : List Char → List Char
  | e :: cs =>
    if e = 'e' ∨ e = 'E' then
      let sign := match cs with
        | '+' :: _ => ['+']
        | '-' :: _ => ['-']
        | _ => []
      match (cs.drop sign.length).takeWhile isDigit with
      | [] => []
      | ds => e :: sign ++ ds
    else []
  | [] => []

def exponentValue : List Char → Int
  | _ :: '-' :: ds => -(numeral ds : Int)
  | _ :: '+' :: ds => numeral ds
  | _ :: ds => numeral ds
  | [] => 0

def number (pos : Nat) (cs : List Char) : Reading (Found Json) :=
  let sign := match cs with
    | '-' :: _ => 1
    | _ => 0
  let body := cs.drop sign
  let w := whole body
  if w = [] then .error (.wrong .value pos)
  else
    let f := fraction (body.drop w.length)
    let e := exponent (body.drop (w.length + f.length))
    let width := sign + w.length + f.length + e.length
    let negative := sign == 1
    if f = [] ∧ e = [] then
      if mostDigits < w.length then .error (.longNumeral w.length)
      else .ok (.integer (if negative then -(numeral w : Int) else numeral w), cs.drop width, pos + width)
    else
      let digits := numeral (w ++ f.drop 1)
      .ok (.decimal (.finite negative digits (exponentValue e - (f.length - 1 : Nat))), cs.drop width, pos + width)

def words : List (String × Json) :=
  [("null", .null), ("true", .bool true), ("false", .bool false), ("NaN", .decimal .undefined),
   ("Infinity", .decimal (.infinite false)), ("-Infinity", .decimal (.infinite true))]

def word? (cs : List Char) (pos : Nat) : Option (Found Json) :=
  words.findSome? fun (w, value) => (after? w.toList cs).map fun rest => (value, rest, pos + w.length)

mutual

/-- One value, with room for so many levels. `fuel` bounds the calls: two for each character are enough. -/
def value : Nat → Nat → Nat → List Char → Reading (Found Json)
  | 0, _, pos, _ => .error (.wrong .value pos)
  | fuel + 1, room, pos, cs => match cs with
    | [] => .error (.wrong .value pos)
    | '"' :: rest => do
      let (s, rest) ← string pos (pos + 1) rest
      return (.text (String.ofList s), rest)
    | '[' :: rest =>
      if room = 0 then .error (.tooDeep true)
      else
        let (rest, pos) := skip rest (pos + 1)
        match rest with
        | ']' :: rest => .ok (.list [], rest, pos + 1)
        | _ => do
          let (items, rest) ← items fuel (room - 1) pos rest
          return (.list items, rest)
    | '{' :: rest =>
      if room = 0 then .error (.tooDeep false)
      else
        let (rest, pos) := skip rest (pos + 1)
        match rest with
        | '}' :: rest => .ok (.object [], rest, pos + 1)
        | _ => do
          let (members, rest) ← members fuel (room - 1) pos rest
          return (ofMembers members, rest)
    | _ => match word? cs pos with
      | some found => .ok found
      | none => number pos cs

/-- The rest of a list, from the start of an item on. -/
def items : Nat → Nat → Nat → List Char → Reading (Found (List Json))
  | 0, _, pos, _ => .error (.wrong .value pos)
  | fuel + 1, room, pos, cs => do
    let (item, cs, pos) ← value fuel room pos cs
    let (cs, pos) := skip cs pos
    match cs with
    | ']' :: rest => return ([item], rest, pos + 1)
    | ',' :: rest =>
      let (rest, pos) := skip rest (pos + 1)
      let (more, rest) ← items fuel room pos rest
      return (item :: more, rest)
    | _ => .error (.wrong .comma pos)

/-- The rest of an object, from the start of a member on. -/
def members : Nat → Nat → Nat → List Char → Reading (Found (List (String × Json)))
  | 0, _, pos, _ => .error (.wrong .value pos)
  | fuel + 1, room, pos, cs => match cs with
    | '"' :: rest => do
      let (name, cs, next) ← string pos (pos + 1) rest
      let (cs, pos) := skip cs next
      match cs with
      | ':' :: rest =>
        let (cs, pos) := skip rest (pos + 1)
        let (item, cs, pos) ← value fuel room pos cs
        let (cs, pos) := skip cs pos
        match cs with
        | '}' :: rest => return ([(String.ofList name, item)], rest, pos + 1)
        | ',' :: rest =>
          let (rest, pos) := skip rest (pos + 1)
          let (more, rest) ← members fuel room pos rest
          return ((String.ofList name, item) :: more, rest)
        | _ => .error (.wrong .comma pos)
      | _ => .error (.wrong .colon pos)
    | _ => .error (.wrong .name pos)

end

def document (cs : List Char) : Reading Json := do
  if cs.head? = some (Char.ofNat 0xFEFF) then throw (.wrong .byteOrderMark 0)
  let (cs', pos) := skip cs 0
  let (found, rest, pos) ← value (2 * cs.length + 2) mostLevels pos cs'
  let (rest, pos) := skip rest pos
  if rest = [] then return found else throw (.wrong .rest pos)

end Parser

/-- The document that a text is. -/
def parse (s : String) : Except Fault Json :=
  (Parser.document s.toList).mapError fun
    | .wrong reason position => .malformed (.at s.toList reason position)
    | .longNumeral digits => .longNumeral digits
    | .tooDeep inList => .tooDeep inList

end ReferenceAudit.Json
