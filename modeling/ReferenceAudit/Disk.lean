import ReferenceAudit.Fault
import ReferenceAudit.Path

/-! # Disks: directories and files with their bytes and times

A time is a number; each file that is written or touched gets the next one. Of links there are only those that lead
back to themselves: any other link is taken for what it leads to.
-/
namespace ReferenceAudit

/-- Where something is: the names from the root down. -/
abbrev Location := List String

inductive Entry
  | directory
  | file (bytes : List UInt8) (time : Nat)
  deriving DecidableEq, Repr

structure Disk where
  entries : List (Location × Entry)
  clock : Nat
  /-- Where relative paths start. -/
  cwd : Location
  /-- Where links are that lead back to themselves. The root is none. -/
  loops : List Location
  deriving DecidableEq, Repr

namespace Disk

def here (d : Disk) : Path := ⟨.single, d.cwd⟩

/-- Whether a place is that of a link that leads back to itself, or behind one. -/
def isLooped (d : Disk) (loc : Location) : Bool := d.loops.any fun l => l != [] && l.isPrefixOf loc

/-- The root is always there, and nothing is at a loop or behind it. -/
def entryAt? (d : Disk) (loc : Location) : Option Entry :=
  if loc = [] then some .directory else if d.isLooped loc then none else d.entries.lookup loc

/-- Why a path leads nowhere: what it leads through is not there, or is a file or a loop; or it is no path for the
system, as it has a NUL in it. -/
inductive DeadEnd
  | missing
  | file
  | loop
  | null
  deriving DecidableEq, Repr

def DeadEnd.fault (path : String) : DeadEnd → Fault
  | .missing => .fileMissing path
  | .file => .notDirectory path
  | .loop => .linkLoop path
  | .null => .embeddedNull

def deadEnd (d : Disk) (loc : Location) : DeadEnd := if d.isLooped loc then .loop else .missing

/-- One component further. Only from a directory does a component lead anywhere, `.` and nothing included. -/
def step (d : Disk) (loc : Location) (component : String) : Except DeadEnd Location :=
  match d.entryAt? loc with
  | some .directory =>
    if component = "" ∨ component = "." then .ok loc
    else if component = ".." then .ok loc.dropLast
    else .ok (loc ++ [component])
  | some (.file ..) => .error .file
  | none => .error (d.deadEnd loc)

/-- Where a path leads, whether or not something is there. -/
def locate (d : Disk) (path : String) : Except DeadEnd Location :=
  if path = "" then .error .missing
  else if Path.null ∈ path.toList then .error .null
  else (Text.splitOn '/' path).foldlM d.step (if path.toList.head? = some '/' then [] else d.cwd)

def find? (d : Disk) (path : String) : Option Entry := (d.locate path).toOption.bind d.entryAt?

def isThere (d : Disk) (path : String) : Bool := (d.find? path).isSome

def isDirectory (d : Disk) (path : String) : Bool := d.find? path = some .directory

def isFile (d : Disk) (path : String) : Bool := match d.find? path with
  | some (.file ..) => true
  | _ => false

/-- The time of a file. That of a directory is no file's. -/
def time? (d : Disk) (path : String) : Option Nat := match d.find? path with
  | some (.file _ time) => some time
  | _ => none

def read (d : Disk) (path : Path) : Except Fault (List UInt8) := do
  let loc ← (d.locate path.text).mapError (·.fault path.text)
  match d.entryAt? loc with
  | some (.file bytes _) => .ok bytes
  | some .directory => .error (.isDirectory path.text)
  | none => .error ((d.deadEnd loc).fault path.text)

/-- Where a path leads by its components, as far as they can be looked at: nothing is looked at behind a loop, and
where the path then comes to must be a place that can be. -/
def resolveFrom (d : Disk) (loc : Location) : List String → Except Fault Location
  | [] => .ok loc
  | part :: parts =>
    let next := Path.push .single loc part
    if Path.null ∈ part.toList then .error .embeddedNull
    else if d.isLooped next then
      let place := parts.foldl (Path.push .single) next
      if place.any fun part => part.toList.contains Path.null then .error .embeddedNull
      else if d.isLooped place then .error (.unresolvable (Path.text ⟨.single, place⟩))
      else .ok place
    else resolveFrom d next parts

/-- The place of a path's normal form, which need not be there. -/
def resolve (d : Disk) (path : Path) : Except Fault Location :=
  d.resolveFrom (if path.isAbsolute then [] else d.here.normal.parts) path.parts

def put (d : Disk) (loc : Location) (e : Entry) : Disk :=
  { d with entries := (loc, e) :: d.entries.filter fun x => x.1 != loc }

/-- The disk with a file written now. -/
def putFile (d : Disk) (loc : Location) (bytes : List UInt8) : Disk :=
  { d.put loc (.file bytes (d.clock + 1)) with clock := d.clock + 1 }

def erase (d : Disk) (loc : Location) : Disk :=
  { d with
    entries := d.entries.filter fun e => !loc.isPrefixOf e.1
    loops := d.loops.filter fun l => !loc.isPrefixOf l }

/-- The disk with a link to itself at a place. It hides what is there until it is removed. -/
def addLoop (d : Disk) (loc : Location) : Disk := { d with loops := loc :: d.loops }

/-- Where a path leads by its text alone. -/
def lexical (d : Disk) (path : String) : Location := (d.here.append (Path.ofString path)).normal.parts

def addDirectory (d : Disk) (loc : Location) : Disk :=
  ((List.range (loc.length + 1)).map loc.take).foldl
    (fun d loc => if (d.entryAt? loc).isSome then d else d.put loc .directory) d

def addFile (d : Disk) (loc : Location) (bytes : List UInt8) : Disk :=
  (d.addDirectory loc.dropLast).putFile loc bytes

def touch (d : Disk) (loc : Location) : Disk := match d.entryAt? loc with
  | some (.file bytes _) => d.putFile loc bytes
  | _ => d

def empty (cwd : Location) : Disk := (⟨[], 0, cwd, []⟩ : Disk).addDirectory cwd

theorem entryAt?_put (d : Disk) (loc l : Location) (e : Entry) :
    (d.put loc e).entryAt? l =
      if l = [] then some .directory
      else if l = loc ∧ d.isLooped loc = false then some e else d.entryAt? l := by
  have hf (es : List (Location × Entry)) (h : l ≠ loc) :
      (es.filter fun x => x.1 != loc).lookup l = es.lookup l := by
    induction es with
    | nil => rfl
    | cons x xs ih =>
      obtain ⟨k, v⟩ := x
      by_cases hk : k = loc
      · subst hk
        have hb : (l == k) = false := by simpa using h
        simpa [List.lookup_cons, hb] using ih
      · simp [hk, List.lookup_cons, ih]
  have hloops : (d.put loc e).isLooped l = d.isLooped l := rfl
  by_cases hl : l = []
  · simp [entryAt?, hl]
  · rw [entryAt?, entryAt?, hloops]
    by_cases h : l = loc
    · subst h
      cases d.isLooped l <;> simp [put, hl]
    · have hb : (l == loc) = false := by simpa using h
      simp only [put, hl, h, false_and, if_false, List.lookup_cons, hb, hf d.entries h]

end Disk

/-- Work on a disk. What it changed before a fault stays changed. -/
abbrev Effect (α : Type) := ExceptT Fault (StateM Disk) α

namespace Effect

def look {α : Type} (f : Disk → Except Fault α) : Effect α := do
  liftExcept (f (← get))
where
  liftExcept : Except Fault α → Effect α
    | .ok a => pure a
    | .error e => throw e

def makeDirectory (path : Path) : Effect Unit := do
  let d ← get
  match d.locate path.text with
  | .error deadEnd => throw (deadEnd.fault path.text)
  | .ok loc => match d.entryAt? loc with
    | some .directory => pure ()
    | some (.file ..) => throw (.fileExists path.text)
    | none => if d.isLooped loc then throw (.fileExists path.text) else set (d.put loc .directory)

/-- Makes a directory, and first those above it if they are missing. The parts come last one first. -/
def makeDirectories (root : Path.Root) : List String → Effect Unit
  | [] => pure ()
  | part :: above =>
    let path : Path := ⟨root, (part :: above).reverse⟩
    tryCatch (makeDirectory path) fun fault => match fault with
      | .fileMissing _ => do
        makeDirectories root above
        makeDirectory path
      | fault => throw fault

def writeFile (path : Path) (bytes : List UInt8) : Effect Unit := do
  let d ← get
  match d.locate path.text with
  | .error deadEnd => throw (deadEnd.fault path.text)
  | .ok loc =>
    if d.entryAt? loc = some .directory then throw (.isDirectory path.text)
    else if d.isLooped loc then throw (.linkLoop path.text)
    else set (d.putFile loc bytes)

def save (path : Path) (bytes : List UInt8) : Effect Unit := do
  makeDirectories path.root path.parent.parts.reverse
  writeFile path bytes

end Effect
end ReferenceAudit
