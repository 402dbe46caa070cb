import ReferenceAudit.Json.Parser
import ReferenceAudit.Text.Lines

/-! # Tags of YAML nodes, and the tags that plain scalars have by their form -/
namespace ReferenceAudit.Yaml

inductive Tag
  | null | bool | int | float | binary | timestamp | str | merge | value | seq | map | set | omap | pairs
  | other (uri : String)
  deriving DecidableEq, Repr

namespace Tag
open Json.Parser (isDigit hexValue?)

def coreUri : String := "tag:yaml.org,2002:"

def coreNames : List (String × Tag) :=
  [("null", .null), ("bool", .bool), ("int", .int), ("float", .float), ("binary", .binary),
   ("timestamp", .timestamp), ("str", .str), ("merge", .merge), ("value", .value), ("seq", .seq), ("map", .map),
   ("set", .set), ("omap", .omap), ("pairs", .pairs)]

def ofUri (uri : String) : Tag :=
  ((coreNames.find? fun e => coreUri ++ e.1 == uri).map Prod.snd).getD (.other uri)

def isDigitOrLow (c : Char) : Bool := isDigit c || c == '_'

def unsigned : List Char → List Char
  | '+' :: cs => cs
  | '-' :: cs => cs
  | cs => cs

/-- One digit, or two of which the first is at most five. -/
def isSixty : List Char → Bool
  | [a] => isDigit a
  | [a, b] => '0' ≤ a && a ≤ '5' && isDigit b
  | _ => false

/-- Groups to the base sixty: the first one is any number, and at least one more follows. -/
def isSexagesimal (cs : List Char) : Bool :=
  match Text.pieces (· == ':') cs with
  | (d :: ds) :: g :: gs => isDigit d && ds.all isDigitOrLow && (g :: gs).all isSixty
  | _ => false

def isInt (cs : List Char) : Bool :=
  match unsigned cs with
  | '0' :: 'b' :: ds => !ds.isEmpty && ds.all fun c => c == '0' || c == '1' || c == '_'
  | '0' :: 'x' :: ds => !ds.isEmpty && ds.all fun c => (hexValue? c).isSome || c == '_'
  | '0' :: ds => ds.all fun c => ('0' ≤ c && c ≤ '7') || c == '_'
  | d :: ds => isDigit d && (ds.all isDigitOrLow || isSexagesimal (d :: ds))
  | [] => false

def isExponent : List Char → Bool
  | [] => true
  | e :: sign :: ds => (e == 'e' || e == 'E') && (sign == '+' || sign == '-') && !ds.isEmpty && ds.all isDigit
  | _ => false

def isFloat (cs : List Char) : Bool :=
  let body := unsigned cs
  let whole := body.takeWhile (· != '.')
  let after := body.drop (whole.length + 1)
  let fraction := after.takeWhile isDigitOrLow
  let rest := after.drop fraction.length
  whole.length < body.length &&
    match whole with
    | [] =>
      [".inf", ".Inf", ".INF"].contains (String.ofList body) ||
      [".nan", ".NaN", ".NAN"].contains (String.ofList cs) ||
      (cs.length == body.length && fraction.head?.any isDigit && isExponent rest)
    | d :: ds =>
      (isDigit d && ds.all isDigitOrLow && isExponent rest) || (isSexagesimal whole && rest.isEmpty)

def digits? (least most : Nat) (cs : List Char) : Option (List Char) :=
  let run := (cs.takeWhile isDigit).take most
  if least ≤ run.length then some (cs.drop run.length) else none

def char? (c : Char) : List Char → Option (List Char)
  | d :: cs => if d = c then some cs else none
  | [] => none

def isTabOrSpace (c : Char) : Bool := c == ' ' || c == '\t'

def isZone (cs : List Char) : Bool :=
  match cs.dropWhile isTabOrSpace with
  | [] => cs.isEmpty
  | ['Z'] => true
  | sign :: ds => (sign == '+' || sign == '-') && match digits? 1 2 ds with
    | some [] => true
    | some rest => ((char? ':' rest).bind (digits? 2 2)) == some []
    | none => false

def isTime (cs : List Char) : Bool :=
  ((do
    let cs ← digits? 1 2 cs
    let cs ← char? ':' cs
    let cs ← digits? 2 2 cs
    let cs ← char? ':' cs
    let cs ← digits? 2 2 cs
    return match cs with
      | '.' :: cs => isZone (cs.dropWhile isDigit)
      | cs => isZone cs) : Option Bool).getD false

/-- What is left behind a date; its month and its day have at least so many digits. -/
def behindDate? (least : Nat) (cs : List Char) : Option (List Char) := do
  let cs ← digits? 4 4 cs
  let cs ← char? '-' cs
  let cs ← digits? least 2 cs
  let cs ← char? '-' cs
  digits? least 2 cs

def isDateAndTime (cs : List Char) : Bool :=
  match behindDate? 1 cs with
  | some (c :: cs) =>
    if c == 'T' || c == 't' then isTime cs else isTabOrSpace c && isTime (cs.dropWhile isTabOrSpace)
  | _ => false

def isTimestamp (cs : List Char) : Bool := behindDate? 2 cs == some [] || isDateAndTime cs

def truths : List String := ["yes", "Yes", "YES", "true", "True", "TRUE", "on", "On", "ON"]
def falsehoods : List String := ["no", "No", "NO", "false", "False", "FALSE", "off", "Off", "OFF"]
def nulls : List String := ["", "~", "null", "Null", "NULL"]

/-- The marks of an alias, an anchor and a tag, which nothing stands for. -/
def marks : List String := ["*", "&", "!"]

/-- The tag of a word, by its form. -/
def ofWord (text : String) : Tag :=
  let cs := text.toList
  if nulls.contains text then .null
  else if truths.contains text || falsehoods.contains text then .bool
  else if isFloat cs then .float
  else if isInt cs then .int
  else if text == "<<" then .merge
  else if isTimestamp cs then .timestamp
  else if text == "=" then .value
  else if marks.contains text then .other (coreUri ++ "yaml")
  else .str

/-- A word without a line feed behind it, which does not count for its form. -/
def unended (text : String) : String := match text.toList.reverse with
  | '\n' :: c :: cs => String.ofList (c :: cs).reverse
  | _ => text

def ofPlain (text : String) : Tag := ofWord (unended text)

def isMoment (text : String) : Bool :=
  let cs := (unended text).toList
  behindDate? 1 cs == some [] || isDateAndTime cs

end Tag
end ReferenceAudit.Yaml
