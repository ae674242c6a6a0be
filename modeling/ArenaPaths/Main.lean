import ArenaPaths.Command.Run

/-!
# The program

Takes the files that a command may touch from the running system, runs the command on
them, prints what it printed and puts back the files that it changed.
-/

namespace ArenaPaths.Program

/-- What stands at a path of the running system, if anything. -/
def probe (path : String) : IO (Option Inode) := do
  try
    let content ← IO.FS.readBinFile path
    return some (.file (.ofBytes content.toList))
  catch
    | .inappropriateType .. => return some .directory
    | _ => return none

/-- A path and the paths of the directories above it, the outermost first. -/
def ancestry (path : String) : List String :=
  let parts := path.splitOn "/"
  ((List.range parts.length).map
    fun last => "/".intercalate (parts.take (last + 1))).filter (!·.isEmpty)

/-- The given files and what stands along a path. A file in the place of a directory
ends the path. -/
def gatherAlong (files : Files) : List String → IO Files
  | [] => return files
  | path :: rest => do
    match ← probe path with
    | none => return files
    | some (.file file) => return files.add path (.file file)
    | some .directory => gatherAlong (files.add path .directory) rest

/-- What stands along paths of the running system. -/
def gather (paths : List String) : IO Files :=
  paths.foldlM (fun files path => gatherAlong files (ancestry path)) {}

/-- Put back the files at paths whose content has changed. -/
def putBack (paths : List String) (before after : Files) : IO Unit :=
  paths.forM fun path =>
    match before.readBytes path, after.readBytes path with
    | .ok old, .ok new =>
      if old = new then return () else IO.FS.writeBinFile path ⟨new.toArray⟩
    | .error _, .ok new => IO.FS.writeBinFile path ⟨new.toArray⟩
    | _, .error _ => return ()

/-- The environment of the running system. -/
def environment : IO Environment := do
  return {
    channelDevice := ← IO.getEnv Environment.channelDeviceName
    pollLimit := ← IO.getEnv Environment.pollLimitName
    bufferName := ← IO.getEnv Environment.bufferNameName }

/-- Print the output of a command in which a search took the given time. -/
def report (output : Command.Output) (elapsed : Duration) : IO UInt32 := do
  (output.lines elapsed).forM IO.println
  IO.eprint output.complaint
  return output.exit.toUInt32

/-- Run a command line. -/
def run (arguments : List String) : IO UInt32 := do
  match Command.read arguments with
  | .error halt => report halt.output (.of 0 0)
  | .ok request =>
    let environment ← environment
    let paths := request.paths environment
    let before ← gather paths
    let start ← IO.monoNanosNow
    let (output, after) ← IO.lazyPure fun _ =>
      Command.perform environment request before
    let stop ← IO.monoNanosNow
    putBack paths before after
    report output (.between start stop)

end ArenaPaths.Program

/-- The program. -/
def main (arguments : List String) : IO UInt32 :=
  ArenaPaths.Program.run arguments
