import ReferenceAudit.Disk
import ReferenceAudit.Text.Order
import ReferenceAudit.Text.Similar

/-! # Arguments of a command, and what is wrong with them

Options have long and short names. An option's value is the next argument, or what follows `=` in the same
one; short names that stand together may end in a value too. The last value that is given counts.
-/
namespace ReferenceAudit.CommandLine

/-- What a parameter is for: it switches something on, it stands in for the command, or it has a value. -/
inductive Use
  | switch
  | instead
  | text
  | file (existing : Bool)
  deriving DecidableEq, Repr

structure Parameter where
  names : List String
  use : Use
  required : Bool
  help : String
  deriving DecidableEq, Repr

/-- What a command takes: options, and at most one argument that has no option's name before it. -/
structure Grammar where
  program : String
  usage : String
  options : List Parameter
  argument : Option Parameter
  deriving DecidableEq, Repr

/-- What is wrong with arguments. For a name that is not known there are others like it. -/
inductive UsageFault
  | unknownOption (name : String) (like : List String)
  | unknownCommand (name : String) (like : List String)
  | noCommand
  | noValue (name : String)
  | unwantedValue (name : String)
  | missing (names : List String) (isOption : Bool)
  | noSuchFile (names : List String) (path : String)
  | isDirectory (names : List String) (path : String)
  | unexpected (arguments : List String)
  | noFramework
  deriving DecidableEq, Repr

def namesText (names : List String) : String := Text.join " / " (names.map fun name => "'" ++ name ++ "'")

/-- A question for the name that was meant. -/
def suggestion : List String → String
  | [] => ""
  | [name] => " Did you mean " ++ Text.quoted name ++ "?"
  | names => " (Did you mean one of: " ++ Text.join ", " ((Text.sorted names).map Text.quoted) ++ "?)"

namespace UsageFault

def message : UsageFault → String
  | unknownOption name like => "No such option " ++ Text.quoted name ++ "." ++ suggestion like
  | unknownCommand name like => "No such command " ++ Text.quoted name ++ "." ++ suggestion like
  | noCommand => "Missing command."
  | noValue name => "Option " ++ Text.quoted name ++ " requires an argument."
  | unwantedValue name => "Option " ++ Text.quoted name ++ " does not take a value."
  | missing names isOption =>
    "Missing " ++ (if isOption then "option " else "argument ") ++ namesText names ++ "."
  | noSuchFile names path =>
    "Invalid value for " ++ namesText names ++ ": File " ++ Text.quoted path ++ " does not exist."
  | isDirectory names path =>
    "Invalid value for " ++ namesText names ++ ": File " ++ Text.quoted path ++ " is a directory."
  | unexpected [argument] => "Got unexpected extra argument (" ++ argument ++ ")"
  | unexpected arguments => "Got unexpected extra arguments (" ++ Text.join " " arguments ++ ")"
  | noFramework => "--framework is required with --assets"

/-- Whether the usage is shown with the fault: it is not where an option and its value do not go together. -/
def showsUsage : UsageFault → Bool
  | noValue _ | unwantedValue _ => false
  | _ => true

end UsageFault

namespace Parameter

def takesValue (p : Parameter) : Bool := match p.use with
  | .text | .file _ => true
  | .switch | .instead => false

/-- Refuses a value that cannot be used. -/
def check (p : Parameter) (d : Disk) (value : String) : Except UsageFault Unit :=
  if p.use = .file true then match d.find? value with
    | some .directory => .error (.isDirectory p.names value)
    | some (.file ..) => .ok ()
    | none => .error (.noSuchFile p.names value)
  else .ok ()

end Parameter

/-- Arguments as they were given: options with their values, and the others. -/
structure Arguments where
  given : List (Parameter × Option String)
  others : List String

namespace Arguments

def empty : Arguments := ⟨[], []⟩

def withOptions (given : List (Parameter × Option String)) (a : Arguments) : Arguments :=
  { a with given := given ++ a.given }

def withOther (argument : String) (a : Arguments) : Arguments := { a with others := argument :: a.others }

def isGiven (a : Arguments) (name : String) : Bool := a.given.any fun o => o.1.names.contains name

/-- The last value that is given for a name. -/
def value? (a : Arguments) (name : String) : Option String :=
  (a.given.reverse.find? fun o => o.1.names.contains name).bind Prod.snd

/-- The name of the first option that stands in for the command. -/
def instead? (a : Arguments) : Option Parameter :=
  (a.given.find? fun o => o.1.use == .instead).map Prod.fst

end Arguments

namespace Grammar

def isLong (name : List Char) : Bool := ['-', '-'].isPrefixOf name

def looksLikeOption (argument : String) : Bool := match argument.toList with
  | '-' :: _ :: _ => true
  | _ => false

def longNames (g : Grammar) : List String := (g.options.flatMap (·.names)).filter fun name => isLong name.toList

def option? (g : Grammar) (name : String) : Option Parameter := g.options.find? fun p => p.names.contains name

/-- Options that an argument holds, and the one that still needs a value, with the name that it was given by. -/
structure Reading where
  given : List (Parameter × Option String)
  pending : Option (Parameter × String)

def readLong (p : Parameter) (name : String) (value : Option String) : Except UsageFault Reading :=
  match p.takesValue, value with
  | true, some value => .ok ⟨[(p, some value)], none⟩
  | true, none => .ok ⟨[], some (p, name)⟩
  | false, none => .ok ⟨[(p, none)], none⟩
  | false, some _ => .error (.unwantedValue name)

/-- Short names that stand together. -/
def readShort (g : Grammar) : List Char → Except UsageFault Reading
  | [] => .ok ⟨[], none⟩
  | c :: cs =>
    let name := String.ofList ['-', c]
    match g.option? name with
    | none => .error (.unknownOption name [])
    | some p =>
      if p.takesValue then
        if cs = [] then .ok ⟨[], some (p, name)⟩ else .ok ⟨[(p, some (String.ofList cs))], none⟩
      else (readShort g cs).map fun r => { r with given := (p, none) :: r.given }

/-- The name in front of the first `=`, and the value behind it. -/
def nameAndValue (argument : List Char) : String × Option String :=
  let name := argument.takeWhile (· != '=')
  (String.ofList name,
    if name.length < argument.length then some (String.ofList (argument.drop (name.length + 1))) else none)

def readOption (g : Grammar) (argument : String) : Except UsageFault Reading :=
  let cs := argument.toList
  if isLong cs then
    let (name, value) := nameAndValue cs
    match g.option? name with
    | some p => readLong p name value
    | none => .error (.unknownOption name (Text.closest name g.longNames))
  else readShort g cs.tail

/-- The arguments up to the end or up to `--`; a grammar without an argument of its own leaves all from the
first other one on to be read by another grammar. -/
def read (g : Grammar) : List String → Except UsageFault Arguments
  | [] => .ok .empty
  | argument :: rest =>
    if argument = "--" then .ok ⟨[], rest⟩
    else if !looksLikeOption argument then
      if g.argument.isNone then .ok ⟨[], argument :: rest⟩ else (read g rest).map (.withOther argument)
    else match readOption g argument with
      | .error fault => .error fault
      | .ok ⟨given, none⟩ => (read g rest).map (.withOptions given)
      | .ok ⟨given, some (p, name)⟩ => match rest with
        | [] => .error (.noValue name)
        | value :: rest => (read g rest).map (.withOptions (given ++ [(p, some value)]))

/-- Refuses values that cannot be used: options as they were given, then the argument, then what is missing. -/
def check (g : Grammar) (d : Disk) (a : Arguments) : Except UsageFault Unit := do
  a.given.forM fun (p, _) => do
    if let some value := (p.names.head?.bind a.value?) then p.check d value
  match g.argument, a.others with
  | none, _ => return
  | some p, [] => throw (.missing p.names false)
  | some p, value :: more =>
    p.check d value
    g.options.forM fun o =>
      if o.required && (o.names.head?.bind a.value?).isNone then .error (.missing o.names true) else .ok ()
    if more ≠ [] then throw (.unexpected more)

/-- A value's place in the usage. -/
def placeText (p : Parameter) : String := match p.use with
  | .text => " TEXT"
  | .file true => " FILE"
  | .file false => " PATH"
  | .switch | .instead => ""

def helpLine (p : Parameter) : String := "  " ++ Text.join ", " p.names ++ placeText p ++ "  " ++ p.help

def help (g : Grammar) : List String := ["Usage: " ++ g.usage, "", "Options:"] ++ g.options.map helpLine

end Grammar
end ReferenceAudit.CommandLine
