import ReferenceAudit.Diagnostic
import ReferenceAudit.Text.Quoted

/-! # Diagnostics as JSON text, in printable ASCII -/
namespace ReferenceAudit.Diagnostic

def unit (n : Nat) : List Char := '\\' :: 'u' :: Text.hex false 4 n

/-- A character as one or two escaped UTF-16 units. -/
def escaped (c : Char) : List Char :=
  let n := c.toNat
  if n < 0x10000 then unit n
  else unit (0xD800 + (n - 0x10000) / 0x400) ++ unit (0xDC00 + (n - 0x10000) % 0x400)

def jsonChar (c : Char) : List Char :=
  if c = Text.quotation ∨ c = '\\' then ['\\', c]
  else if c = '\n' then ['\\', 'n']
  else if c = '\r' then ['\\', 'r']
  else if c = '\t' then ['\\', 't']
  else if c = '\x08' then ['\\', 'b']
  else if c = '\x0c' then ['\\', 'f']
  else if 0x20 ≤ c.toNat ∧ c.toNat ≤ 0x7E then [c] else escaped c

def jsonText (s : String) : String :=
  String.ofList (Text.quotation :: s.toList.flatMap jsonChar ++ [Text.quotation])

def members (d : Diagnostic) : List (String × Option String) :=
  [("id", some d.category.id), ("severity", some severity), ("label", some d.label),
   ("classification", d.classification.map Classification.word), ("message", some d.message)]

def member (m : String × Option String) : String :=
  "    " ++ jsonText m.1 ++ ": " ++ (m.2.map jsonText).getD "null"

def object (d : Diagnostic) : String := "  \x7b\n" ++ Text.join ",\n" (d.members.map member) ++ "\n  \x7d"

def json : List Diagnostic → String
  | [] => "[]"
  | ds => "[\n" ++ Text.join ",\n" (ds.map object) ++ "\n]"

end ReferenceAudit.Diagnostic
