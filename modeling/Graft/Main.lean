import Graft.Cli.Run
import Std.Time.DateTime
import Std.Time.Format

/-!
# Graft.Main

The program. The directories that a command line can reach are read as a disk, the command line
runs on it, and what it changed is written back; everything else is decided by `Cli.run`. A service
that can listen is stopped at once, since there is no network here.
-/

namespace Graft.Main

def bytes (s : String) : Bytes := s.toUTF8.toList

def text (s : Bytes) : String := String.ofList (Utf8.chars s)

/-- Puts what stands at a path, and all below it, onto a disk. What cannot be read is left out, and
so is the root of the file system. -/
partial def snapshot (path : String) (d : Disk) : IO Disk := do
  let spot := Path.segments (bytes path)
  if (d.item? spot).isSome then return d
  let entry : IO.FS.DirEntry := ⟨path, ""⟩
  let real ← try toString <$> IO.FS.realPath path catch _ => pure path
  if real != path then
    return ← snapshot real (d.plant spot (.link (bytes real)))
  if ← entry.root.isDir then
    let mut d := d.plant spot .directory
    let children ← try entry.root.readDir catch _ => pure #[]
    for child in children do
      d ← snapshot (toString child.path) d
    return d
  else
    try
      let content ← IO.FS.readBinFile path
      return d.plant spot (.file content.toList)
    catch _ => return d

/-- The directories a command line can reach: the working directory, and those of the absolute
paths in it. -/
def reachable (workingDir : Bytes) (args : List Bytes) : List Bytes :=
  workingDir :: (args.filter Path.isAbsolute).map Path.dir

def environment : IO Environment := do
  let mut env := []
  for item in Settings.items do
    for name in [item.fullName, item.name] do
      if let some value ← IO.getEnv (text name) then env := (name, bytes value) :: env
  if let some value ← IO.getEnv (text Cli.descriptionsVariable) then
    env := (Cli.descriptionsVariable, bytes value) :: env
  return env

def holds (d : Disk) (spot : List Bytes) (content : Bytes) : Bool :=
  match d.item? spot with
  | some (.file old) => old == content
  | _ => false

def writeBack (old new : Disk) : IO Unit := do
  for (spot, entry) in new.entries do
    if let .file content := entry then
      if !holds old spot content then
        let path := Path.spell true spot
        IO.FS.createDirAll (text (Path.dir path))
        IO.FS.writeBinFile (text path) ⟨content.toArray⟩

def buildIds (milliseconds : Nat) (entropy : Bytes) (n : Nat) : Bytes :=
  Ulid.labelled Ulid.buildLabel milliseconds ((n % 256).toUInt8 :: entropy)

def printTo (stream : IO.FS.Stream) (s : Bytes) : IO Unit := do
  stream.write ⟨s.toArray⟩
  stream.flush

def run (args : List String) : IO UInt32 := do
  let workingDir := bytes (toString (← IO.currentDir))
  let args := args.map bytes
  let mut disk : Disk := ⟨[], Path.segments workingDir⟩
  for dir in reachable workingDir args do
    disk ← snapshot (text dir) disk
  let now ← Std.Time.Timestamp.now
  let entropy ← IO.getRandomBytes 9
  let ids := buildIds now.toMillisecondsSinceUnixEpoch.val.toNat entropy.toList
  let outcome := Cli.run (← environment) ids args disk
  writeBack disk outcome.disk
  let clock := (Std.Time.PlainDateTime.ofWallTime (now.toWallTime .zero)).format
    "uuuu-MM-dd'T'HH:mm:ss.SSS'Z'"
  printTo (← IO.getStdout) outcome.output
  printTo (← IO.getStderr) (Log.write .debug outcome.format ⟨bytes clock, "graft"⟩ outcome.log)
  printTo (← IO.getStderr) outcome.errors
  return outcome.exitCode.toUInt32

end Graft.Main

def main (args : List String) : IO UInt32 := Graft.Main.run args
