import ReferenceAudit.Yaml.Scalar

/-! # Tokens of a YAML text

Blocks are made visible: where indentation grows a start token stands, where it shrinks an end token. A key
without a mark of its own is found when its colon comes, and its token is put in before it. A text is read no
further than it takes to know the next token.
-/
namespace ReferenceAudit.Yaml

inductive Directive
  | version (major : Int)
  | tag (handle expansion : String)
  | other
  deriving DecidableEq, Repr

inductive Token
  | directive (d : Directive)
  | documentStart | documentEnd
  | blockSequence | blockMapping | blockEnd
  | flowSequence | flowSequenceEnd | flowMapping | flowMappingEnd | flowEntry
  | entry | key | value
  | alias (name : String)
  | anchor (name : String)
  | tag (handle : Option String) (rest : String)
  | scalar (text : String) (plain : Bool)
  deriving DecidableEq, Repr

namespace Token

/-- A place where a key may have started, with the number of the token there. -/
structure Candidate where
  token : Nat
  required : Bool
  index : Nat
  line : Nat
  column : Nat

structure Scanner where
  cursor : Cursor
  /-- How many flow collections are open. -/
  flow : Nat
  indent : Int
  outer : List Int
  keyAllowed : Bool
  /-- At most one candidate for each flow level. -/
  candidates : List (Nat × Candidate)
  /-- The tokens that have been read and not yet taken. -/
  tokens : List Token
  /-- How many tokens have been taken. -/
  taken : Nat
  atEnd : Bool

namespace Scanner

def start (cs : List Char) : Scanner := ⟨Cursor.start cs, 0, -1, [], true, [], [], 0, false⟩

def push (s : Scanner) (t : Token) : Scanner := { s with tokens := s.tokens ++ [t] }

def count (s : Scanner) : Nat := s.taken + s.tokens.length

/-- One token, written with so many characters. -/
def take (s : Scanner) (width : Nat) (t : Token) : Scanner :=
  { s.push t with cursor := s.cursor.skip width }

def allowKey (s : Scanner) (allowed : Bool) : Scanner := { s with keyAllowed := allowed }

/-- Ends the blocks that are indented further than `column`; a flow collection has none. -/
def unwind (column : Int) (s : Scanner) : Scanner :=
  if s.flow = 0 then go s.outer s else s
where
  go : List Int → Scanner → Scanner
    | [], s => s
    | i :: outer, s =>
      if column < s.indent then go outer { s.push .blockEnd with indent := i, outer := outer } else s

/-- Puts a token in before the one with a number. -/
def insert (s : Scanner) (number : Nat) (t : Token) : Scanner :=
  let place := number - s.taken
  { s with tokens := s.tokens.take place ++ t :: s.tokens.drop place }

def open_ (s : Scanner) (column : Nat) (number : Nat) (t : Token) : Scanner :=
  if s.indent < column then { s.insert number t with indent := column, outer := s.indent :: s.outer } else s

def openHere (s : Scanner) (t : Token) : Scanner := s.open_ s.cursor.column s.count t

/-- Drops the candidates that are too far back: on another line, or more than 1024 characters away. -/
def dropStale (s : Scanner) : Reading Scanner :=
  let isStale (k : Candidate) := k.line != s.cursor.line || s.cursor.index > k.index + 1024
  if s.candidates.any fun (_, k) => isStale k && k.required then refuse
  else .ok { s with candidates := s.candidates.filter fun (_, k) => !isStale k }

def candidate? (s : Scanner) : Option Candidate := s.candidates.lookup s.flow

/-- Gives up the candidate of this level; one that had to be a key is a fault. -/
def dropCandidate (s : Scanner) : Reading Scanner :=
  match s.candidate? with
  | some k => if k.required then refuse else
    .ok { s with candidates := s.candidates.filter fun (level, _) => level != s.flow }
  | none => .ok s

def addCandidate (s : Scanner) : Reading Scanner :=
  if s.keyAllowed then do
    let s ← s.dropCandidate
    let required := s.flow == 0 && s.indent == (s.cursor.column : Int)
    let k : Candidate := ⟨s.count, required, s.cursor.index, s.cursor.line, s.cursor.column⟩
    return { s with candidates := (s.flow, k) :: s.candidates }
  else .ok s

/-- Goes on to the next token, over blanks, comments and line breaks. -/
def toToken : Nat → Scanner → Scanner
  | 0, s => s
  | fuel + 1, s =>
    let c := if s.cursor.index == 0 && s.cursor.peek 0 == byteOrderMark then s.cursor.next else s.cursor
    let c := c.skipWhile (· == ' ')
    let c := if c.peek 0 == '#' then c.skipWhile (!isEnd ·) else c
    match c.lineBreak? with
    | none => { s with cursor := c }
    | some (_, c) => toToken fuel { s with cursor := c, keyAllowed := s.keyAllowed || s.flow == 0 }

def atMargin (s : Scanner) : Reading Scanner := do
  return (← (s.unwind (-1)).dropCandidate).allowKey false

end Scanner

/-! Directives, anchors and tags -/

def number (c : Cursor) : Reading (Int × Cursor) :=
  match c.span Json.Parser.isDigit with
  | ([], _) => refuse
  | (ds, c) => do return (← (Text.Numeral.read 10 (String.ofList ds)).mapError .ofNumeral, c)

def blanks (c : Cursor) : Cursor := c.skipWhile (· == ' ')

/-- A tag's handle: a mark, and words with another mark behind them. -/
def handle (c : Cursor) : Reading (String × Cursor) :=
  if c.peek 0 != '!' then refuse
  else if c.peek 1 == ' ' then .ok ("!", c.next)
  else match c.next.span isWord with
    | (w, after) =>
      if after.peek 0 == '!' then .ok (String.ofList ('!' :: w ++ ['!']), after.next) else refuse

def isUri (c : Char) : Bool :=
  isWord c || c == Text.apostrophe || ";/?:@&=+$,.!~*()[]".toList.contains c

def uriBytes : Nat → Cursor → Reading (List UInt8 × Cursor)
  | 0, c => .ok ([], c)
  | fuel + 1, c =>
    if c.peek 0 == '%' then
      match Json.Parser.hexValue? (c.peek 1), Json.Parser.hexValue? (c.peek 2) with
      | some a, some b => do
        let (bs, c) ← uriBytes fuel (c.skip 3)
        return (UInt8.ofNat (a * 16 + b) :: bs, c)
      | _, _ => refuse
    else .ok ([], c)

def uriParts : Nat → Cursor → Reading (List Char × Cursor)
  | 0, c => .ok ([], c)
  | fuel + 1, c =>
    if c.peek 0 == '%' then do
      let (bytes, c) ← uriBytes (c.rest.length + 1) c
      match Text.Utf8.decode bytes with
      | .error _ => refuse
      | .ok s =>
        let (more, c) ← uriParts fuel c
        return (s.toList ++ more, c)
    else match c.span isUri with
      | ([], c) => .ok ([], c)
      | (run, c) => do
        let (more, c) ← uriParts fuel c
        return (run ++ more, c)

def uri (c : Cursor) : Reading (String × Cursor) := do
  match ← uriParts (c.rest.length + 1) c with
  | ([], _) => refuse
  | (cs, c) => return (String.ofList cs, c)

def readDirective (c : Cursor) : Reading (Directive × Cursor) := do
  let (name, c) := c.next.span isWord
  if name.isEmpty || !isSpaceOrEnd (c.peek 0) then refuse
  let (d, c) ← match String.ofList name with
    | "YAML" => do
      let (major, c) ← number (blanks c)
      if c.peek 0 != '.' then refuse
      let (_, c) ← number c.next
      if !isSpaceOrEnd (c.peek 0) then refuse
      pure (Directive.version major, c)
    | "TAG" => do
      let (h, c) ← handle (blanks c)
      if c.peek 0 != ' ' then refuse
      let (expansion, c) ← uri (blanks c)
      if !isSpaceOrEnd (c.peek 0) then refuse
      pure (Directive.tag h expansion, c)
    | _ => pure (Directive.other, c.skipWhile (!isEnd ·))
  return (d, ← Block.restOfLine c)

/-- The name behind an anchor's or an alias's mark. -/
def anchorName (c : Cursor) : Reading (String × Cursor) :=
  let (name, c) := c.next.span isWord
  let ch := c.peek 0
  if name.isEmpty || !(isGap ch || "?:,]\x7d%@\x60".toList.contains ch) then refuse
  else .ok (String.ofList name, c)

def tagToken (c : Cursor) : Reading (Token × Cursor) := do
  let (t, c) ← if c.peek 1 == '<' then do
      let (rest, c) ← uri (c.skip 2)
      if c.peek 0 != '>' then refuse
      pure (Token.tag none rest, c.next)
    else if isGap (c.peek 1) then pure (Token.tag none "!", c.next)
    else do
      let run := (c.rest.drop 1).takeWhile fun ch => !isSpaceOrEnd ch
      let (h, c) ← if run.contains '!' then handle c else pure ("!", c.next)
      let (rest, c) ← uri c
      pure (Token.tag (some h) rest, c)
  if isSpaceOrEnd (c.peek 0) then return (t, c) else refuse

namespace Scanner

def openFlow (s : Scanner) (t : Token) : Reading Scanner := do
  let s ← s.addCandidate
  return ({ s with flow := s.flow + 1 }.allowKey true).take 1 t

def closeFlow (s : Scanner) (t : Token) : Reading Scanner := do
  let s ← s.dropCandidate
  if s.flow = 0 then refuse
  return ({ s with flow := s.flow - 1 }.allowKey false).take 1 t

def entry (s : Scanner) : Reading Scanner := do
  if s.flow = 0 && !s.keyAllowed then refuse
  let s := if s.flow = 0 then s.openHere .blockSequence else s
  return (← (s.allowKey true).dropCandidate).take 1 .entry

def key (s : Scanner) : Reading Scanner := do
  if s.flow = 0 && !s.keyAllowed then refuse
  let s := if s.flow = 0 then s.openHere .blockMapping else s
  return (← (s.allowKey (s.flow == 0)).dropCandidate).take 1 .key

def value (s : Scanner) : Reading Scanner :=
  match s.candidate? with
  | some k =>
    let s := { s.insert k.token .key with candidates := s.candidates.filter fun (level, _) => level != s.flow }
    let s := if s.flow = 0 then s.open_ k.column k.token .blockMapping else s
    .ok ((s.allowKey false).take 1 .value)
  | none => do
    if s.flow = 0 && !s.keyAllowed then refuse
    let s := if s.flow = 0 then s.openHere .blockMapping else s
    return (← (s.allowKey (s.flow == 0)).dropCandidate).take 1 .value

/-- A token that may be a key or start one. -/
def node (s : Scanner) (read : Cursor → Reading (Token × Cursor)) : Reading Scanner := do
  let s ← s.addCandidate
  let (t, c) ← read s.cursor
  return { (s.allowKey false).push t with cursor := c }

def quoted (s : Scanner) (double : Bool) : Reading Scanner :=
  s.node fun c => do
    let (cs, c) ← Quoted.scan double (c.rest.length + 1) c.next
    return (.scalar (String.ofList cs) false, c)

def plain (s : Scanner) : Reading Scanner := do
  let s ← s.addCandidate
  let (cs, broke, c) := Plain.scan (s.flow != 0) (s.indent + 1) (s.cursor.rest.length + 1) [] false s.cursor
  return { (s.allowKey broke).push (.scalar (String.ofList cs) true) with cursor := c }

def block (s : Scanner) (folded : Bool) : Reading Scanner := do
  let s ← (s.allowKey true).dropCandidate
  let (cs, c) ← Block.scan folded s.indent s.cursor.next
  return { s.push (.scalar (String.ofList cs) false) with cursor := c }

def isIndicator (c : Char) : Bool := "-?:,[]\x7b\x7d#&*!|>\x27\x22%@\x60".toList.contains c

def startsPlain (s : Scanner) : Bool :=
  let ch := s.cursor.peek 0
  !(isGap ch || isIndicator ch) ||
    (!isGap (s.cursor.peek 1) && (ch == '-' || (s.flow == 0 && (ch == '?' || ch == ':'))))

/-- One more token, from a place where one starts. -/
def step (s : Scanner) : Reading Scanner := do
  let c := s.cursor
  let ch := c.peek 0
  let beforeGap := isGap (c.peek 1)
  let inFlow := s.flow != 0
  if c.column == 0 && ch == '%' then
    let s ← s.atMargin
    let (d, c) ← readDirective s.cursor
    return { s.push (.directive d) with cursor := c }
  else if c.column == 0 && c.hasMark '-' then return (← s.atMargin).take 3 .documentStart
  else if c.column == 0 && c.hasMark '.' then return (← s.atMargin).take 3 .documentEnd
  else if ch == '[' then s.openFlow .flowSequence
  else if ch == '\x7b' then s.openFlow .flowMapping
  else if ch == ']' then s.closeFlow .flowSequenceEnd
  else if ch == '\x7d' then s.closeFlow .flowMappingEnd
  else if ch == ',' then return (← (s.allowKey true).dropCandidate).take 1 .flowEntry
  else if ch == '-' && beforeGap then s.entry
  else if ch == '?' && (inFlow || beforeGap) then s.key
  else if ch == ':' && (inFlow || beforeGap) then s.value
  else if ch == '*' then s.node fun c => do
    let (name, c) ← anchorName c
    return (.alias name, c)
  else if ch == '&' then s.node fun c => do
    let (name, c) ← anchorName c
    return (.anchor name, c)
  else if ch == '!' then s.node tagToken
  else if ch == '|' && !inFlow then s.block false
  else if ch == '>' && !inFlow then s.block true
  else if ch == Text.apostrophe then s.quoted false
  else if ch == '"' then s.quoted true
  else if s.startsPlain then s.plain
  else refuse

/-- More tokens, or the end of the text. -/
def fetch (s : Scanner) : Reading Scanner := do
  let s ← (s.toToken (s.cursor.rest.length + 1)).dropStale
  let s := s.unwind s.cursor.column
  if s.cursor.rest.isEmpty then return { ← s.atMargin with atEnd := true } else s.step

def isUnsure (s : Scanner) : Bool := s.candidates.any fun (_, k) => k.token == s.taken

def readyIn : Nat → Scanner → Reading Scanner
  | 0, _ => refuse
  | fuel + 1, s => do
    if s.atEnd then return s
    else if s.tokens.isEmpty then readyIn fuel (← s.fetch)
    else
      let s ← s.dropStale
      if s.isUnsure then readyIn fuel (← s.fetch) else return s

/-- Reads on until the next token is known. Each time at least one character is taken, or the end is found. -/
def ready (s : Scanner) : Reading Scanner := s.readyIn (s.cursor.rest.length + 2)

def advance (s : Scanner) : Scanner := { s with tokens := s.tokens.drop 1, taken := s.taken + 1 }

def ofText (s : String) : Reading Scanner :=
  let cs := s.toList
  if cs.all isAllowed then .ok (start cs) else refuse

end Scanner
end Token
end ReferenceAudit.Yaml
