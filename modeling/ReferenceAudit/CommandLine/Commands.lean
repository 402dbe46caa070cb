import ReferenceAudit.CommandLine.Session
import ReferenceAudit.Collection.Read
import ReferenceAudit.Diagnostic.Json

/-! # The commands -/
namespace ReferenceAudit.CommandLine

def helpOption : Parameter := ⟨["--help"], .instead, false, "Show this message and exit."⟩
def frameworkOption (required : Bool) : Parameter :=
  ⟨["--framework", "-f"], .text, required, "Target framework in the lock manifest"⟩
def runtimeOption : Parameter := ⟨["--runtime", "-r"], .text, false, "Runtime identifier"⟩
def manifestOption (existing : Bool) : Parameter :=
  ⟨["--assets"], .file existing, false, "Lock manifest (project.assets.json)"⟩

def fileArgument (name : String) (existing : Bool) : Parameter := ⟨[name], .file existing, true, ""⟩

def grammar (name argument : String) (existing : Bool) (options : List Parameter) : Grammar :=
  ⟨"reftrim " ++ name, "reftrim " ++ name ++ " [OPTIONS] " ++ argument, options ++ [helpOption],
    some (fileArgument argument existing)⟩

def collectGrammar : Grammar := grammar "collect" "ITEMS_FILE" true
  [manifestOption true, frameworkOption false, runtimeOption,
   ⟨["-o", "--output"], .file false, false, "Declared references file to write"⟩]

def analyzeGrammar : Grammar := grammar "analyze" "DECLARED_FILE" false
  [⟨["--used"], .file false, true, "Used module report"⟩, manifestOption false, frameworkOption false,
   runtimeOption, ⟨["--module"], .text, false, "Module name used in output"⟩,
   ⟨["--no-doc"], .switch, false, "Documentation generation is disabled for the module"⟩,
   ⟨["--json"], .switch, false, "Emit diagnostics as JSON"⟩]

def contributionsGrammar : Grammar := grammar "contributions" "ASSETS_PATH" true
  [frameworkOption true, runtimeOption]

def mainGrammar : Grammar where
  program := "reftrim"
  usage := "reftrim [OPTIONS] COMMAND [ARGS]..."
  options :=
    [⟨["--version"], .instead, false, "Show the version and exit."⟩,
     ⟨["--verbose", "-v"], .switch, false, "Log skipped items and other details"⟩,
     ⟨["--config"], .file true, false, "YAML config file"⟩, helpOption]
  argument := none

def versionText : String := "reftrim, version 0.1.0"

namespace Arguments

def path? (a : Arguments) (name : String) : Option Path := (a.value? name).map Path.ofString

def argument (a : Arguments) : Path := Path.ofString (a.others.head?.getD "")

/-- The target that is asked for; an empty framework asks for none. -/
def selector? (a : Arguments) : Option Selector :=
  match a.value? "--framework" with
  | none | some "" => none
  | some framework => some ⟨framework, a.value? "--runtime"⟩

end Arguments

namespace Command

def resolve (config : Config) (manifest : Path) (selector : Selector) : Command Resolved := do
  let ignored := config.policy.ignoredBuildFiles
  narrate fun d => Account.resolution d manifest selector ignored (.absolute d.here)
  look fun d => Analysis.resolveAfresh d manifest selector ignored (.absolute d.here)

/-- What the packages bring in, if a manifest is given. -/
def contributionsOf (config : Config) (a : Arguments) : Command Contributions :=
  match a.path? "--assets", a.selector? with
  | none, _ => pure .empty
  | some _, none => usage collectGrammar .noFramework
  | some manifest, some selector => do
    let r ← resolve config manifest selector
    return r.contributions

def collect (config : Config) (a : Arguments) : Command Unit := do
  let items ← look (Items.load · a.argument)
  let c ← contributionsOf config a
  narrate (Account.collection · items c)
  let xs ← look fun d => items.collect d c
  let output := (a.path? "--output").getD (Path.ofString Store.referencesFileName)
  let written ← onDisk (Store.saveDeclarations output xs)
  narrate fun _ => Account.saved output xs.length written
  print (amount xs.length "declared reference" ++ " -> " ++ output.text ++
    (if written then " (written)" else " (unchanged)"))

/-- A module's name: the one that is given, else that of the directory of its declared references. -/
def moduleName (a : Arguments) : String :=
  match a.value? "--module", a.argument.parent.name with
  | none, "" | some "", "" => a.argument.text
  | none, directory | some "", directory => directory
  | some name, _ => name

def request (a : Arguments) : Request where
  module := moduleName a
  declared := a.argument
  used := none
  usedReport := a.path? "--used"
  manifest := (a.path? "--assets").map (·.text)
  target := a.selector?
  offered := []
  compilerFailed := false
  docEnabled := !a.isGiven "--no-doc"

/-- An input that is missing may be there after a restore or a build. -/
def reportedWithHint (fault : Fault) : Stop :=
  if fault.isMissingInput then .failed (fault.message ++ " (run restore/build first)") else reported fault

def outcome (config : Config) (r : Request) : Command Outcome := do
  let policy := config.policy
  narrate fun d => Account.analysis d policy (.absolute d.here) r
  let s ← get
  let env : Environment Unit := ⟨fun _ => .absolute s.disk.here, (), .successor⟩
  let (result, w) := (Analysis.analyze env policy r).run.run ⟨s.disk, none⟩
  set { s with disk := w.disk }
  orStop reportedWithHint result

def analyze (config : Config) (a : Arguments) : Command Unit := do
  let o ← outcome config (request a)
  if a.isGiven "--json" then print (Diagnostic.json o.diagnostics)
  else match o.diagnostics with
    | [] => print "No removable references found."
    | ds => ds.forM fun d => print (Diagnostic.severity ++ " " ++ d.text ++ " [" ++ o.module ++ "]")

def moduleLine (p : Package) (m : String) : String :=
  "  " ++ m ++ (if p.modules.contains m then "" else " (transitive)")

def packageLines (p : Package) (modules : List String) : List String :=
  (p.id ++ " " ++ p.version) ::
    if modules = [] then ["  (no compile-time modules)"] else modules.map (moduleLine p)

def listing (r : Resolved) : List String :=
  (Text.sorted r.graph.packages.keys).flatMap fun key => match r.graph.packages.get? key with
    | some p => packageLines p (r.contributions.modulesFor key)
    | none => []

/-- A target is looked for only once the manifest has been read. -/
def withoutTarget (config : Config) (manifest : Path) : Command Resolved := do
  narrate (Account.manifest · manifest)
  let _ ← look (Manifest.load · manifest)
  let _ ← orStop reported config.policy.ignoredBuildFiles
  throw (.fault (Setting.null.lacks "target_key"))

def contributions (config : Config) (a : Arguments) : Command Unit := do
  let r ← match a.selector? with
    | some selector => resolve config a.argument selector
    | none => withoutTarget config a.argument
  (listing r).forM print

def commands : List (String × Grammar × (Config → Arguments → Command Unit)) :=
  [("collect", collectGrammar, collect), ("analyze", analyzeGrammar, analyze),
   ("contributions", contributionsGrammar, contributions)]

/-- A configuration's values that cannot be used are reported. -/
def readConfig (a : Arguments) : Command Config := do
  let asked := a.path? "--config"
  narrate (Account.config · asked)
  let stop (fault : Fault) : Stop := if fault.isValue then .failed fault.message else .fault fault
  orStop stop (Store.loadConfig (← get).disk asked)

def printInstead (g : Grammar) (p : Parameter) : Command Unit :=
  if p.names.contains "--version" then print versionText else g.help.forM print

/-- What stands in the place of a command but is none may be an option that was kept from being read. -/
def unknown (name : String) (rest : List String) : Command Unit := do
  match (← arguments mainGrammar (name :: rest)).instead? with
  | some p => printInstead mainGrammar p
  | none => usage mainGrammar (.unknownCommand name (Text.closest name (commands.map Prod.fst)))

def main (args : List String) : Command Unit := do
  if args = [] then throw (.help mainGrammar)
  let a ← arguments mainGrammar args
  match a.instead?, a.others with
  | some p, _ => printInstead mainGrammar p
  | none, [] => usage mainGrammar .noCommand
  | none, name :: rest => match commands.lookup name with
    | none => unknown name rest
    | some (g, command) => do
      modify fun s => { s with verbose := a.isGiven "--verbose" }
      let config ← readConfig a
      let b ← arguments g rest
      match b.instead? with
      | some p => printInstead g p
      | none => command config b

end Command

/-- How a run of the program ended. -/
structure Ending where
  exitCode : Nat
  output : String
  messages : String
  /-- A fault that the program does not expect. -/
  fault : Option Fault
  disk : Disk

def usageText (g : Grammar) (fault : UsageFault) : String :=
  (if fault.showsUsage then line ("Usage: " ++ g.usage ++ "\nTry '" ++ g.program ++ " --help' for help.\n")
    else "") ++
    line ("Error: " ++ fault.message)

def Session.ending (s : Session) : Except Stop Unit → Ending
  | .ok () => ⟨0, s.output, s.messages, none, s.disk⟩
  | .error (.help g) => ⟨2, s.output, s.messages ++ String.join (g.help.map line), none, s.disk⟩
  | .error (.usage g fault) => ⟨2, s.output, s.messages ++ usageText g fault, none, s.disk⟩
  | .error (.failed message) => ⟨1, s.output, s.messages ++ line ("Error: " ++ message), none, s.disk⟩
  | .error (.fault fault) => ⟨1, s.output, s.messages, some fault, s.disk⟩

def run (d : Disk) (args : List String) : Ending :=
  let (result, s) := (Command.main args).run.run ⟨d, false, "", ""⟩
  s.ending result

end ReferenceAudit.CommandLine
