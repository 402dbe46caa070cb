import ReferenceAudit.Yaml.Cursor

/-! # Scalars of a YAML text: plain, quoted and in blocks -/
namespace ReferenceAudit.Yaml

abbrev Reading := Except Fault

def refuse {α : Type} : Reading α := .error .yaml

/-- Folded text for a run of line breaks: one line feed alone is a space. -/
def foldedBreaks (first : Char) (more : List Char) : List Char :=
  (if first != '\n' then [first] else if more.isEmpty then [' '] else []) ++ more

namespace Plain

/-- Line breaks and spaces inside a plain scalar; nothing if a mark between documents ends it. -/
def moreBreaks : Nat → Cursor → Option (List Char × Cursor)
  | 0, c => some ([], c)
  | fuel + 1, c =>
    if c.peek 0 == ' ' then moreBreaks fuel c.next
    else match c.lineBreak? with
      | none => some ([], c)
      | some (b, c) =>
        if c.hasDocumentMark then none
        else (moreBreaks fuel c).map fun (bs, c) => (b :: bs, c)

/-- What may stand between two words of a plain scalar, and whether it has a line break. -/
def spaces (c : Cursor) : List Char × Bool × Cursor :=
  let (blanks, c) := c.span (· == ' ')
  match c.lineBreak? with
  | none => (blanks, false, c)
  | some (b, c) =>
    if c.hasDocumentMark then ([], true, c)
    else match moreBreaks (c.rest.length + 1) c with
      | none => ([], true, c.skipWhile fun ch => ch == ' ' || isBreak ch)
      | some (bs, c) => (foldedBreaks b bs, true, c)

def isFlowMark (c : Char) : Bool := c == ',' || c == '?' || c == '[' || c == ']' || c == '\x7b' || c == '\x7d'

/-- Characters of a word, up to a gap or an indicator. -/
def word (inFlow : Bool) : List Char → List Char
  | [] => []
  | ch :: rest =>
    let after := rest.head?.getD endMark
    if isGap ch || (ch == ':' && (isGap after || (inFlow && isFlowMark after && after != '?')))
        || (inFlow && isFlowMark ch) then []
    else ch :: word inFlow rest

/-- A plain scalar, whether it ended behind a line break, and the place after it. -/
def scan (inFlow : Bool) (indent : Int) : Nat → List Char → Bool → Cursor → List Char × Bool × Cursor
  | 0, _, broke, c => ([], broke, c)
  | fuel + 1, before, broke, c =>
    if c.peek 0 == '#' then ([], broke, c)
    else match word inFlow c.rest with
      | [] => ([], broke, c)
      | w =>
        let (between, newLine, c) := spaces (c.skip w.length)
        if between.isEmpty || c.peek 0 == '#' || (!inFlow && (c.column : Int) < indent) then
          (before ++ w, newLine, c)
        else
          let (more, broke, c) := scan inFlow indent fuel between newLine c
          (before ++ w ++ more, broke, c)

end Plain

namespace Quoted

def simpleEscape? : Char → Option Char
  | '0' => some (Char.ofNat 0) | 'a' => some (Char.ofNat 7) | 'b' => some (Char.ofNat 8)
  | 't' => some '\t' | '\t' => some '\t' | 'n' => some '\n' | 'v' => some (Char.ofNat 0xB)
  | 'f' => some (Char.ofNat 0xC) | 'r' => some '\r' | 'e' => some (Char.ofNat 0x1B) | ' ' => some ' '
  | '"' => some '"' | '\\' => some '\\' | '/' => some '/' | 'N' => some nextLine
  | '_' => some (Char.ofNat 0xA0) | 'L' => some lineSeparator | 'P' => some paragraphSeparator
  | _ => none

def codeWidth? : Char → Option Nat
  | 'x' => some 2
  | 'u' => some 4
  | 'U' => some 8
  | _ => none

def codePoint (digits : List Char) : Reading Char :=
  match digits.mapM Json.Parser.hexValue? with
  | none => refuse
  | some ds =>
    let n := ds.foldl (fun n d => n * 16 + d) 0
    if n < 0x110000 then .ok (if Nat.isValidChar n then Char.ofNat n else Char.ofNat 0xFFFD)
    else if n < 0x80000000 then .error .characterRange
    else .error .characterOverflow

/-- Empty lines inside a quoted scalar, and the blanks after them. -/
def breaks : Nat → Cursor → Reading (List Char × Cursor)
  | 0, _ => refuse
  | fuel + 1, c =>
    if c.hasDocumentMark then refuse
    else
      let c := c.skipWhile fun ch => ch == ' ' || ch == '\t'
      match c.lineBreak? with
      | none => .ok ([], c)
      | some (b, c) => do
        let (bs, c) ← breaks fuel c
        return (b :: bs, c)

def spaces (c : Cursor) : Reading (List Char × Cursor) :=
  let (blanks, c) := c.span fun ch => ch == ' ' || ch == '\t'
  match c.lineBreak? with
  | some (b, c) => do
    let (bs, c) ← breaks (c.rest.length + 1) c
    return (foldedBreaks b bs, c)
  | none => if c.rest.isEmpty then refuse else .ok (blanks, c)

/-- What a backslash and the characters after it mean. -/
def escape (c : Cursor) : Reading (List Char × Cursor) :=
  let ch := c.peek 0
  match simpleEscape? ch with
  | some d => if c.rest.isEmpty then refuse else .ok ([d], c.next)
  | none => match codeWidth? ch with
    | some width => do
      let digits := c.next.rest.take width
      if digits.length < width then refuse
      else
        let d ← codePoint digits
        return ([d], c.next.skip width)
    | none => match c.lineBreak? with
      | some (_, c) => breaks (c.rest.length + 1) c
      | none => refuse

/-- The rest of a quoted scalar behind its opening mark. -/
def scan (double : Bool) : Nat → Cursor → Reading (List Char × Cursor)
  | 0, _ => refuse
  | fuel + 1, c =>
    let mark := if double then '"' else Text.apostrophe
    let more (cs : List Char) (c : Cursor) : Reading (List Char × Cursor) := do
      let (ds, c) ← scan double fuel c
      return (cs ++ ds, c)
    let ch := c.peek 0
    if ch == endMark then refuse
    else if isGap ch then do
      let (cs, c) ← spaces c
      more cs c
    else if ch == mark then
      if !double && c.peek 1 == mark then more [mark] (c.skip 2) else .ok ([], c.next)
    else if double && ch == '\\' then do
      let (cs, c) ← escape c.next
      more cs c
    else more [ch] c.next

end Quoted

namespace Block

/-- Whether line breaks at the end are dropped or kept, and by how much the text is indented further. -/
structure Header where
  keep : Option Bool
  increment : Option Nat

def chomping? (c : Cursor) : Option Bool :=
  if c.peek 0 == '+' then some true else if c.peek 0 == '-' then some false else none

def increment? (c : Cursor) : Option Nat :=
  let ch := c.peek 0
  if '0' ≤ ch && ch ≤ '9' then some (ch.toNat - 0x30) else none

def header (c : Cursor) : Reading (Header × Cursor) := do
  let first := chomping? c
  let c := if first.isSome then c.next else c
  let increment := increment? c
  let c := if increment.isSome then c.next else c
  let second := if first.isSome || increment.isNone then none else chomping? c
  let c := if second.isSome then c.next else c
  if increment == some 0 || !isSpaceOrEnd (c.peek 0) then refuse
  return (⟨first.or second, increment⟩, c)

/-- Blanks and a comment up to the end of the line, and the line break. -/
def restOfLine (c : Cursor) : Reading Cursor :=
  let c := c.skipWhile (· == ' ')
  let c := if c.peek 0 == '#' then c.skipWhile (!isEnd ·) else c
  if isEnd (c.peek 0) then .ok ((c.lineBreak?.map (·.2)).getD c) else refuse

/-- Leading line breaks and the widest indentation among them. -/
def leading : Nat → Nat → Cursor → List Char × Nat × Cursor
  | 0, widest, c => ([], widest, c)
  | fuel + 1, widest, c =>
    if c.peek 0 == ' ' then leading fuel (max widest c.next.column) c.next
    else match c.lineBreak? with
      | none => ([], widest, c)
      | some (b, c) =>
        let (bs, widest, c) := leading fuel widest c
        (b :: bs, widest, c)

def skipIndent (indent : Nat) (c : Cursor) : Cursor :=
  c.skip (min (indent - c.column) (c.rest.takeWhile (· == ' ')).length)

/-- Empty lines, and the indentation of the line after them. -/
def breaks (indent : Nat) : Nat → Cursor → List Char × Cursor
  | 0, c => ([], c)
  | fuel + 1, c =>
    let c := skipIndent indent c
    match c.lineBreak? with
    | none => ([], c)
    | some (b, c) =>
      let (bs, c) := breaks indent fuel c
      (b :: bs, c)

structure Body where
  text : List Char
  lastBreak : List Char
  trailing : List Char
  after : Cursor

def lines (folded : Bool) (indent : Nat) : Nat → List Char → List Char → Cursor → Body
  | 0, lastBreak, trailing, c => ⟨[], lastBreak, trailing, c⟩
  | fuel + 1, lastBreak, trailing, c =>
    if c.column == indent && c.peek 0 != endMark then
      let isBlank (c : Cursor) := c.peek 0 == ' ' || c.peek 0 == '\t'
      let startsBlank := isBlank c
      let (run, c) := c.span (!isEnd ·)
      let (lineBreak, c) := match c.lineBreak? with
        | some (b, c) => ([b], c)
        | none => ([], c)
      let (bs, c) := breaks indent (c.rest.length + 1) c
      if c.column == indent && c.peek 0 != endMark then
        let joint := if folded && lineBreak == ['\n'] && !startsBlank && !isBlank c then
          (if bs.isEmpty then [' '] else []) else lineBreak
        let body := lines folded indent fuel lineBreak bs c
        { body with text := trailing ++ run ++ joint ++ body.text }
      else ⟨trailing ++ run, lineBreak, bs, c⟩
    else ⟨[], lastBreak, trailing, c⟩

/-- A block scalar behind its indicator, in a block of an indentation. -/
def scan (folded : Bool) (outer : Int) (c : Cursor) : Reading (List Char × Cursor) := do
  let (header, c) ← header c
  let c ← restOfLine c
  let least := max 1 (outer + 1).toNat
  let fuel := c.rest.length + 1
  let (bs, indent, c) := match header.increment with
    | some n =>
      let indent := least + n - 1
      let (bs, c) := breaks indent fuel c
      (bs, indent, c)
    | none =>
      let (bs, widest, c) := leading fuel 0 c
      (bs, max least widest, c)
  let body := lines folded indent fuel [] bs c
  return (body.text ++ (if header.keep == some false then [] else body.lastBreak) ++
    (if header.keep == some true then body.trailing else []), body.after)

end Block
end ReferenceAudit.Yaml
