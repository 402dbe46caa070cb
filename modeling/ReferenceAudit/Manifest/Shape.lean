import ReferenceAudit.Json
import ReferenceAudit.Manifest
import ReferenceAudit.Text.Blank
import ReferenceAudit.Text.Lines

/-! # The shape of a lock manifest

A document is checked member by member, and every issue is reported, each with its location. Members that
no manifest declares are not looked at.
-/
namespace ReferenceAudit.Manifest

inductive Issue.Rule
  | string | integer | integerText | integerSize | integerFraction | notFinite | map | record
  deriving DecidableEq, Repr

/-- A place in a document and the rule that it breaks. -/
structure Issue where
  location : List String
  rule : Issue.Rule
  deriving DecidableEq, Repr

def Issue.Rule.word : Issue.Rule → String
  | .string => "string_type"
  | .integer => "int_type"
  | .integerText => "int_parsing"
  | .integerSize => "int_parsing_size"
  | .integerFraction => "int_from_float"
  | .notFinite => "finite_number"
  | .map => "dict_type"
  | .record => "model_type"

abbrev Checked (α : Type) := Except (List Issue) α

namespace Checked
variable {α β γ : Type}

def fail (location : List String) (rule : Issue.Rule) : Checked α := .error [⟨location, rule⟩]

/-- Both results, or the issues of both. -/
def both (a : Checked α) (b : Checked β) : Checked (α × β) :=
  match a, b with
  | .ok a, .ok b => .ok (a, b)
  | .ok _, .error is => .error is
  | .error is, .ok _ => .error is
  | .error is, .error js => .error (is ++ js)

def each (check : α → Checked β) : List α → Checked (List β)
  | [] => .ok []
  | a :: as => (both (check a) (each check as)).map fun (b, bs) => b :: bs

end Checked

open Checked

def member? (members : List (String × Json)) (name : String) : Option Json := members.lookup name

def text (location : List String) : Json → Checked String
  | .text s => .ok s
  | _ => fail location .string

def textOrNull (location : List String) : Json → Checked (Option String)
  | .null => .ok none
  | v => (text location v).map some

/-- A mapping of which each member is checked. -/
def mapping {α : Type} (check : List String → Json → Checked α) (location : List String) :
    Json → Checked (OrderedMap α)
  | .object members =>
    (each (fun m => (check (location ++ [m.1]) m.2).map fun a => (m.1, a)) members).map OrderedMap.ofList
  | _ => fail location .map

/-- The detail of an asset: nothing or any mapping. -/
def assetDetail (location : List String) : Json → Checked Unit
  | .null | .object _ => .ok ()
  | _ => fail location .map

def assets (location : List String) (v : Json) : Checked (List String) :=
  (mapping assetDetail location v).map OrderedMap.keys

/-- A member that may be absent. -/
def field {α : Type} (members : List (String × Json)) (location : List String) (name : String) (default : α)
    (check : List String → Json → Checked α) : Checked α :=
  match member? members name with
  | none => .ok default
  | some v => check (location ++ [name]) v

def targetLibrary (location : List String) : Json → Checked TargetLibrary
  | .object members =>
    (both (field members location "type" "package" text)
      (both (field members location "framework" none textOrNull)
        (both (field members location "dependencies" OrderedMap.empty (mapping text))
          (both (field members location "compile" [] assets)
            (field members location "build" [] assets))))).map
      fun (type, framework, dependencies, compile, build) => ⟨type, framework, dependencies, compile, build⟩
  | _ => fail location .record

def library (location : List String) : Json → Checked Library
  | .object members =>
    (both (field members location "type" "package" text) (field members location "path" none textOrNull)).map
      fun (type, path) => ⟨type, path⟩
  | _ => fail location .record

def isDigit (c : Char) : Bool := '0' ≤ c && c ≤ '9'

def startsNumber (c : Char) : Bool := ('1' ≤ c && c ≤ '9') || c == '-'

/-- A number behind a zero, where `last` was read: more zeros and low lines do not count. -/
def behindZero (last : Char) : List Char → Option (List Char)
  | [] => some [last]
  | c :: cs =>
    if c = '0' ∨ c = '_' then behindZero c cs
    else if startsNumber c then some (c :: cs)
    else if c = '.' then some (last :: c :: cs)
    else none

/-- A number without the zeros in front of it; what starts neither with a digit nor with a minus is none. -/
def withoutZeros : List Char → Option (List Char)
  | [] => none
  | c :: cs => if c = '0' then behindZero c cs else if startsNumber c then some (c :: cs) else none

/-- A number without a fraction of zeros. -/
def withoutFraction (cs : List Char) : List Char :=
  let whole := cs.takeWhile (· != '.')
  match cs.drop whole.length with
  | _ :: d :: ds => if (d :: ds).all (· == '0') then whole else cs
  | _ => cs

/-- A number without low lines, where each of them stands between two characters. -/
def withoutLowLines (cs : List Char) : List Char :=
  let groups := Text.pieces (· == '_') cs
  if groups.any List.isEmpty then cs else groups.flatten

/-- A number in words without what does not count: white space around it, a plus, zeros in front of it, a
fraction of zeros, low lines. -/
def bareNumber? (s : String) : Option (List Char) :=
  let cs := Text.trimBoth Text.isWhite s.toList
  let unsigned := match cs with
    | '+' :: '-' :: _ => none
    | '+' :: cs => some cs
    | cs => some cs
  (unsigned.bind withoutZeros).map fun cs => withoutLowLines (withoutFraction cs)

/-- A number has no more characters than these, its sign included. -/
def longestNumber : Nat := 4300

/-- A number in digits, with a minus or without. No zero stands in front of another digit. -/
def digits (cs : List Char) : Except Issue.Rule Int :=
  let (sign, ds) : Nat × List Char := match cs with
    | '-' :: ds => (1, ds)
    | ds => (0, ds)
  let run := match ds with
    | '0' :: _ => ['0']
    | ds => ds.takeWhile isDigit
  if longestNumber < sign + run.length then .error .integerSize
  else if run = [] ∨ run.length < ds.length then .error .integerText
  else
    let n : Nat := run.foldl (fun n c => n * 10 + (c.toNat - 0x30)) 0
    .ok (if sign = 1 then -(n : Int) else n)

def integerText (s : String) : Except Issue.Rule Int :=
  match bareNumber? s with
  | some cs => digits cs
  | none => .error .integerText

def integer (location : List String) : Json → Checked Int
  | .bool b => .ok (if b then 1 else 0)
  | .integer n => .ok n
  | .decimal d => match d.whole with
    | .whole n => if n.natAbs < 1 <<< 63 then .ok n else fail location .integerSize
    | .fraction => fail location .integerFraction
    | .notFinite => fail location .notFinite
  | .text s => match integerText s with
    | .ok n => .ok n
    | .error rule => fail location rule
  | _ => fail location .integer

/-- The folder map goes by two names; the first one wins. -/
def folderNames (members : List (String × Json)) : Checked (List String) :=
  let name := if (member? members "packageFolders").isSome then "packageFolders" else "package_folders"
  (field members [] name OrderedMap.empty (mapping fun _ _ => .ok ())).map OrderedMap.keys

def ofJson : Json → Checked Manifest
  | .object members =>
    (both (field members [] "version" 3 integer)
      (both (field members [] "targets" OrderedMap.empty (mapping (mapping targetLibrary)))
        (both (field members [] "libraries" OrderedMap.empty (mapping library)) (folderNames members)))).map
      fun (version, targets, libraries, folders) => ⟨version, targets, libraries, folders⟩
  | _ => fail [] .record

end ReferenceAudit.Manifest
