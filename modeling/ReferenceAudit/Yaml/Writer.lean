import ReferenceAudit.Setting
import ReferenceAudit.Yaml.Tag
import ReferenceAudit.Yaml.Cursor

/-! # Writing values as YAML blocks

A text is written plain if it reads back as itself, else between apostrophes if no character has to be
escaped, else between quotation marks.
-/
namespace ReferenceAudit.Yaml.Writer

def isWide (c : Char) : Bool := c == '\n' || c == nextLine || c == lineSeparator || c == paragraphSeparator

def isPlainChar (c : Char) : Bool := c == '\n' || (0x20 ≤ c.toNat && c.toNat ≤ 0x7E)

/-- What a text holds that decides how it may be written. -/
structure Features where
  empty : Bool
  multiline : Bool
  edgeBlank : Bool
  breakSpace : Bool
  spaceBreak : Bool
  special : Bool
  indicator : Bool

def hasPair (p : Char → Char → Bool) : List Char → Bool
  | a :: b :: cs => p a b || hasPair p (b :: cs)
  | _ => false

def isEdge (c : Char) : Bool := c == ' ' || isWide c

/-- Whether a text starts like something else than a text. -/
def startsOdd (cs : List Char) : Bool :=
  match cs with
  | [] => false
  | c :: rest =>
    let alone := isGap (rest.head?.getD endMark)
    "#,[]\x7b\x7d&*!|>\x27\x22%@\x60".toList.contains c ||
      ((c == '?' || c == ':' || c == '-') && alone) ||
      [['-', '-', '-'], ['.', '.', '.']].contains (cs.take 3)

/-- Whether a colon ends a word after the first character, or a number sign starts one. -/
def hasIndicator (cs : List Char) : Bool :=
  hasPair (fun a b => (isGap a && b == '#') || (a == ':' && isGap b)) (cs ++ [endMark])

def features (s : String) : Features :=
  let cs := s.toList
  { empty := cs.isEmpty
    multiline := cs.any isWide
    edgeBlank := cs.head?.any isEdge || cs.getLast?.any isEdge
    breakSpace := hasPair (fun a b => isWide a && b == ' ') cs
    spaceBreak := hasPair (fun a b => a == ' ' && isWide b) cs
    special := !cs.all isPlainChar
    indicator := startsOdd cs || hasIndicator cs }

def allowsPlain (f : Features) : Bool :=
  !(f.edgeBlank || f.breakSpace || f.spaceBreak || f.special || f.multiline || f.indicator)

def allowsApostrophes (f : Features) : Bool := !(f.breakSpace || f.spaceBreak || f.special)

def spaces (n : Nat) : List Char := List.replicate n ' '

def newLineAt (indent : Nat) : List Char := '\n' :: spaces indent

/-- A line that is longer goes on in a new one at the next place where that does not change the text. -/
def width : Nat := 80

def runs (cs : List Char) : List (List Char) :=
  cs.splitBy fun a b => (a == ' ') == (b == ' ') && (a == '\n') == (b == '\n')

/-- Runs from a column on. Line feeds are one more than the run has, and the indentation stands behind them. A
single space between two words may become a new line. -/
def laid (indent : Nat) : Nat → Bool → List (List Char) → List Char
  | _, _, [] => []
  | column, isFirst, run :: more =>
    if run == [' '] && width < column && !isFirst && !more.isEmpty then
      newLineAt indent ++ laid indent indent false more
    else if run.head? == some '\n' then run ++ newLineAt indent ++ laid indent indent false more
    else run ++ laid indent (column + run.length) false more

def doubled (cs : List Char) : List Char := cs.flatMap fun c => if c == Text.apostrophe then [c, c] else [c]

def betweenApostrophes (indent column : Nat) (cs : List Char) : List Char :=
  Text.apostrophe :: laid indent (column + 1) true ((runs cs).map doubled) ++ [Text.apostrophe]

def escapeWord? (c : Char) : Option Char :=
  [(0x0, '0'), (0x7, 'a'), (0x8, 'b'), (0x9, 't'), (0xA, 'n'), (0xB, 'v'), (0xC, 'f'), (0xD, 'r'), (0x1B, 'e'),
   (0x22, '"'), (0x5C, '\\'), (0x85, 'N'), (0xA0, '_'), (0x2028, 'L'), (0x2029, 'P')].lookup c.toNat

/-- What a character is written as, if not as itself. -/
def escaped? (c : Char) : Option (List Char) :=
  match escapeWord? c with
  | some w => some ['\\', w]
  | none => if 0x20 ≤ c.toNat && c.toNat ≤ 0x7E then none else some (Text.numbered true c)

/-- A new line inside quotation marks, behind a backslash; a space that comes next gets one too. -/
def splice (indent : Nat) (next : Option Char) : List Char :=
  '\\' :: newLineAt indent ++ (if next == some ' ' then ['\\'] else [])

/-- Characters between quotation marks, from a column on. A new line may stand before a space, and before and
behind what is escaped, but not behind the first character, nor before the last one. -/
def quotedFrom (indent : Nat) : Nat → Bool → Bool → List Char → List Char
  | _, _, _, [] => []
  | column, isFirst, behindEscape, c :: cs =>
    let isInner := !isFirst && !cs.isEmpty
    match escaped? c with
    | some e =>
      if isInner && width + 1 < column + e.length then
        let joint := splice indent cs.head?
        e ++ joint ++ quotedFrom indent (indent + (if cs.head? == some ' ' then 1 else 0)) false true cs
      else e ++ quotedFrom indent (column + e.length) false true cs
    | none =>
      if isInner && (c == ' ' || behindEscape) && width < column then
        splice indent (some c) ++ c :: quotedFrom indent (indent + (if c == ' ' then 2 else 1)) false false cs
      else c :: quotedFrom indent (column + 1) false false cs

def betweenQuotations (indent column : Nat) (cs : List Char) : List Char :=
  '"' :: quotedFrom indent (column + 1) true false cs ++ ['"']

/-- A text as a scalar from a column on, with continuation lines at an indentation. -/
def text (indent column : Nat) (s : String) : List Char :=
  let f := features s
  if Tag.ofPlain s == .str && allowsPlain f then laid indent column true (runs s.toList)
  else if allowsApostrophes f then betweenApostrophes indent column s.toList
  else betweenQuotations indent column s.toList

/-- A text as a key, all on one line. -/
def keyText (s : String) : List Char :=
  let f := features s
  if Tag.ofPlain s == .str && allowsPlain f && !f.empty then s.toList
  else if allowsApostrophes f && !f.multiline then Text.apostrophe :: doubled s.toList ++ [Text.apostrophe]
  else '"' :: s.toList.flatMap (fun c => (escaped? c).getD [c]) ++ ['"']

/-- The shortest numeral; one with an exponent has a point too. -/
def decimal (d : Decimal) : List Char :=
  match d with
  | .undefined => ".nan".toList
  | .infinite negative => (if negative then "-.inf" else ".inf").toList
  | d =>
    let cs := d.shown.toList
    if cs.contains '.' then cs
    else cs.takeWhile (· != 'e') ++ ['.', '0'] ++ cs.dropWhile (· != 'e')

/-- What has no members that stand on lines of their own. Bytes are written as the
characters with their numbers. -/
def scalar (indent column : Nat) : Setting → List Char
  | .null => "null".toList
  | .bool b => (if b then "true" else "false").toList
  | .integer n => (toString n).toList
  | .decimal d => decimal d
  | .text s => text indent column s
  | .bytes bs => betweenQuotations indent column (bs.map fun b => Char.ofNat b.toNat)
  | .list _ | .pair .. | .set _ => ['[', ']']
  | .map _ => ['\x7b', '\x7d']

def key : Setting → List Char
  | .text s => keyText s
  | v => scalar 0 0 v

/-- Whether a key can stand on one line before its colon. -/
def isSimple : Setting → Bool
  | .text s => !(features s).empty && !(features s).multiline && s.length + 5 < 128
  | .list items => items.isEmpty
  | .map entries => entries.isEmpty
  | _ => true

def keyOrder : Setting → String
  | .text s => s
  | _ => ""

/-- Entries in the order of their keys, if all of these are texts. -/
def ordered (entries : List (Setting × Setting)) : List (Setting × Setting) :=
  if entries.all fun e => match e.1 with
      | .text _ => true
      | _ => false
  then entries.mergeSort fun a b => decide (keyOrder a.1 ≤ keyOrder b.1)
  else entries

/-- Where a value is written: behind a key's colon, or behind a mark of an item, a long key or its value. -/
inductive Place
  | afterKey | afterMark
  deriving DecidableEq

/-- Lines at an indentation; behind a mark the first one stands on the mark's line. -/
def lines (place : Place) (indent : Nat) (ls : List (List Char)) : List Char :=
  match place, ls with
  | _, [] => []
  | .afterKey, ls => ls.flatMap fun l => newLineAt indent ++ l
  | .afterMark, l :: ls => ' ' :: l ++ ls.flatMap fun l => newLineAt indent ++ l

/-- The items of a value that is written as a list. -/
def items? : Setting → Option (List Setting)
  | .list items => some items
  | .pair a b => some [a, b]
  | .set members => some members
  | _ => none

/-- What stands behind a colon or a mark for a value, in a collection of an indentation; one that has no lines of
its own starts at a column. `fuel` bounds the depth. -/
def value : Nat → Place → Nat → Nat → Setting → List Char
  | 0, _, _, _, _ => []
  | fuel + 1, place, indent, column, v =>
    match items? v, v with
    | some (item :: items), _ =>
      let inner := if place = .afterKey then indent else indent + 2
      lines place inner ((item :: items).map fun i => '-' :: value fuel .afterMark inner (inner + 2) i)
    | _, .map (entry :: entries) =>
      let inner := indent + 2
      lines place inner ((ordered (entry :: entries)).map fun e =>
        if isSimple e.1 then
          let k := key e.1
          k ++ ':' :: value fuel .afterKey inner (inner + k.length + 2) e.2
        else '?' :: value fuel .afterMark inner (inner + 2) e.1 ++ newLineAt inner ++
          ':' :: value fuel .afterMark inner (inner + 2) e.2)
    | _, v => ' ' :: scalar (indent + 2) column v

mutual

def depth : Setting → Nat
  | .list items => depthOfItems items + 1
  | .pair a b => max (depth a) (depth b) + 1
  | .set members => depthOfItems members + 1
  | .map entries => depthOfEntries entries + 1
  | _ => 1

def depthOfItems : List Setting → Nat
  | [] => 0
  | v :: vs => max (depth v) (depthOfItems vs)

def depthOfEntries : List (Setting × Setting) → Nat
  | [] => 0
  | (k, v) :: es => max (max (depth k) (depth v)) (depthOfEntries es)

end

/-- A document with a mapping on top. -/
def document (entries : List (Setting × Setting)) : String :=
  String.ofList ((entries.map fun e =>
    let k := key e.1
    k ++ ':' :: value (depth e.2 + 1) .afterKey 0 (k.length + 2) e.2 ++ ['\n']).flatten)

end ReferenceAudit.Yaml.Writer
