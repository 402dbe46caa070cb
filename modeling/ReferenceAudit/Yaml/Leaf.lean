import ReferenceAudit.Setting
import ReferenceAudit.Text.Base64
import ReferenceAudit.Yaml.Scalar
import ReferenceAudit.Yaml.Tag

/-! # The values of scalars, by their tags -/
namespace ReferenceAudit.Yaml.Leaf
open Json.Parser (isDigit numeral)

/-- Low lines part digits and do not count. -/
def withoutLowLines (text : String) : List Char := text.toList.filter (· != '_')

/-- A numeral's sign and what is behind it; something has to be there. -/
def signed (cs : List Char) : Reading (Bool × List Char) := match cs with
  | [] => .error .argumentMissing
  | c :: rest => .ok (c == '-', if c == '-' || c == '+' then rest else cs)

def intTo (base : Nat) (cs : List Char) : Reading Int :=
  (Text.Numeral.read base (String.ofList cs)).mapError .ofNumeral

/-- Groups between colons are to the base sixty. -/
def sexagesimal (cs : List Char) : Reading Int :=
  return ((← (Text.pieces (· == ':') cs).mapM (intTo 10))).foldl (fun n g => n * 60 + g) 0

/-- A number without its sign: a zero in front, and the letter behind it, tell the base. -/
def magnitude : List Char → Reading Int
  | [] => .error .argumentMissing
  | ['0'] => .ok 0
  | '0' :: 'b' :: ds => intTo 2 ds
  | '0' :: 'x' :: ds => intTo 16 ds
  | '0' :: ds => intTo 8 ('0' :: ds)
  | cs => if cs.contains ':' then sexagesimal cs else intTo 10 cs

def intOf (text : String) : Reading Int := do
  let (negative, cs) ← signed (withoutLowLines text)
  let n ← magnitude cs
  return if negative then -n else n

def isExponent : List Char → Bool
  | [] => true
  | _ :: '-' :: ds | _ :: '+' :: ds => !ds.isEmpty && ds.all isDigit
  | _ :: ds => !ds.isEmpty && ds.all isDigit

/-- Digits with a point among them, and an exponent. -/
def numeralOf (text : List Char) : Reading Decimal :=
  let (negative, cs) := Text.Numeral.signed ((Text.trimBoth Text.isWhite text).map Text.Numeral.plain)
  let whole := cs.takeWhile isDigit
  let fraction := match cs.drop whole.length with
    | '.' :: ds => ds.takeWhile isDigit
    | _ => []
  let rest := cs.drop whole.length
  let rest := if rest.head? == some '.' then rest.drop (fraction.length + 1) else rest
  if ["inf", "infinity"].contains (String.ofList cs) then .ok (.infinite negative)
  else if String.ofList cs == "nan" then .ok .undefined
  else if !(whole.isEmpty && fraction.isEmpty) && (rest.isEmpty || rest.head? == some 'e') && isExponent rest then
    .ok (.finite negative (numeral (whole ++ fraction)) (Json.Parser.exponentValue rest - fraction.length))
  else .error (.badDecimal (String.ofList text))

/-- Groups to the base sixty with a fraction. -/
def sexagesimalDecimal (cs : List Char) : Reading Decimal := do
  let whole := cs.takeWhile (· != '.')
  let fraction := cs.drop (whole.length + 1)
  if fraction.all isDigit then
    let n ← sexagesimal whole
    return .finite false (n.natAbs * Nat.pow 10 fraction.length + numeral fraction) (-fraction.length)
  else throw (.badDecimal (String.ofList cs))

def negated : Decimal → Decimal
  | .finite negative digits exponent => .finite (!negative) digits exponent
  | .infinite negative => .infinite (!negative)
  | .undefined => .undefined

def decimalOf (text : String) : Reading Decimal := do
  let (negative, cs) ← signed (Text.lower (String.ofList (withoutLowLines text))).toList
  let d ← match String.ofList cs with
    | ".inf" => pure (.infinite false)
    | ".nan" => pure .undefined
    | _ => if cs.contains ':' then sexagesimalDecimal cs else numeralOf cs
  return if negative then negated d else d

def boolOf (text : String) : Reading Bool :=
  let word := Text.lower text
  if Tag.truths.contains word then .ok true
  else if Tag.falsehoods.contains word then .ok false
  else .error (.memberMissing word)

/-- Bytes written in sixty-four characters; no character beyond the first hundred and
twenty-eight may stand among them. -/
def bytesOf (text : String) : Reading (List UInt8) :=
  if text.toList.all fun c => c.toNat < 0x80 then match Text.Base64.decode text.toList with
    | some bs => .ok bs
    | none => refuse
  else refuse

/-- A moment is kept as it is written. -/
def momentOf (text : String) : Reading String :=
  if Tag.isMoment text then .ok text else .error (Setting.null.lacks "groupdict")

/-- What a text stands for under a tag. -/
def read (tag : Tag) (text : String) : Reading Setting :=
  match tag with
  | .null => .ok .null
  | .bool => return .bool (← boolOf text)
  | .int => return .integer (← intOf text)
  | .float => return .decimal (← decimalOf text)
  | .binary => return .bytes (← bytesOf text)
  | .timestamp => return .text (← momentOf text)
  | .str => .ok (.text text)
  | _ => refuse

end ReferenceAudit.Yaml.Leaf
