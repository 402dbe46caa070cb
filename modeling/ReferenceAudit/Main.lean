import ReferenceAudit.CommandLine.Reach

/-! # The program on the machine's disk -/
namespace ReferenceAudit.CommandLine.Machine

/-- What is at a place. -/
def entryAt? (loc : Location) : IO (Option Entry) := do
  let path := (← IO.currentDir) / ("/" ++ Text.join "/" loc)
  if ← path.isDir then return some .directory
  else if ← path.pathExists then return some (.file (← IO.FS.readBinFile path).toList 0)
  else return none

/-- A disk that also holds what some paths lead to. -/
def withPaths (d : Disk) (paths : List String) : IO Disk :=
  ((paths.flatMap (Reach.places d)).eraseDups.filter fun loc => (d.entryAt? loc).isNone).foldlM
    (fun d loc => return ((← entryAt? loc).map (d.put loc)).getD d) d

/-- Makes the changes of a run. -/
def store (before after : Disk) : IO Unit :=
  after.entries.reverse.forM fun (loc, e) => do
    if before.entryAt? loc ≠ some e then
      let path := (← IO.currentDir) / ("/" ++ Text.join "/" loc)
      match e with
      | .directory => IO.FS.createDirAll path
      | .file bytes _ => IO.FS.writeBinFile path ⟨bytes.toArray⟩

end ReferenceAudit.CommandLine.Machine

section
open ReferenceAudit CommandLine

def main (args : List String) : IO UInt32 := do
  let d := Disk.empty (Path.ofString (← IO.currentDir).toString).parts
  let d ← Machine.withPaths d (Reach.ofArguments d args)
  let d ← Machine.withPaths d (Reach.ofDisk d)
  let e := run d args
  Machine.store d e.disk
  IO.print e.output
  IO.eprint e.messages
  if let some fault := e.fault then IO.eprintln (fault.kind ++ ": " ++ fault.message)
  return e.exitCode.toUInt32

end
