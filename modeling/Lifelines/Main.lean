import Lifelines.CommandLine.Run
import Lifelines.Shell.Launch

/-!
# The program

Everything is decided by `CommandLine.run` on a file tree. This module reads the
part of the host's files that a run may look at into a tree, and writes back
what the run has changed. Layout tools are run by `Shell.tool`: they are shell
scripts or common utilities.
-/

namespace Lifelines.Main

/-- The path of a location on the host. -/
def hostPath (l : Location) : String :=
  "/" ++ "/".intercalate l

/-- Adds what the host has at a location. -/
def recordLocation (t : FileTree) (l : Location) : IO FileTree := do
  let entries ←
    try
      let contents ← IO.FS.readBinFile (hostPath l)
      pure [(l, Node.file contents true)]
    catch _ =>
      try
        let _ ← IO.FS.realPath (hostPath l) >>= fun p => p.readDir
        pure [(l, Node.directory)]
      catch _ => pure []
  return entries.foldl (fun t entry => t.put entry.1 entry.2) t

/-- Adds what the host has on the way along a path. -/
def recordPath (t : FileTree) (path : String) : IO FileTree := do
  let start := if Path.isAbsolute path then [] else t.here
  let mut tree := t
  let mut l := start
  for c in Path.components path do
    if c = "" ∨ c = "." then continue
    l := if c = ".." then l.dropLast else l ++ [c]
    tree ← recordLocation tree l
  return tree

/-- The variables that a run looks at. -/
def variableNames : List String :=
  ["XDG_CONFIG_HOME", "HOME", libraryVariable, Shell.searchVariable]

/-- The environment of the host. -/
def environment : IO Environment := do
  let bindings ← variableNames.filterMapM fun name => do
    return (← IO.getEnv name).map (name, ·)
  return ⟨bindings⟩

/-- The paths that a run with some options looks at, once the settings files are in
    the tree. -/
def pathsOf (env : Environment) (t : FileTree) (o : CommandLine.Options) : List String :=
  let settings :=
    match (ExceptT.run (CommandLine.effectiveSettings env o)).run t with
    | (.ok s, _) => s
    | (.error _, _) => o.settings
  let program := settings.program.getD Renderer.defaultProgram
  let format := settings.format.getD .svg
  let target := Path.join o.outDir (o.demo.getD "")
  settings.params.toList ++ env.libraryCandidates settings.library ++
    [o.outDir, Path.withExtension target format.extension, program, "/tmp"] ++
    (Shell.searchPath env).map (Path.join · program)

/-- The part of the host's files that a run looks at. -/
def filesFor (env : Environment) (args : List String) : IO FileTree := do
  let here := ((Path.components (← IO.currentDir).toString).filter (· ≠ ""))
  let mut tree ← recordPath ⟨[], here⟩ (hostPath here)
  for path in [env.globalSettingsPath, localSettingsPath] do
    tree ← recordPath tree path
  match CommandLine.parse args with
  | .ok (.run o) =>
    for path in pathsOf env tree o do
      tree ← recordPath tree path
  | _ => pure ()
  return tree

/-- Makes the host's files what a run has made of them. -/
def writeBack (before after : FileTree) : IO Unit := do
  for (l, node) in after.entries.reverse do
    match node with
    | .directory => IO.FS.createDirAll (hostPath l)
    | .file contents _ =>
      if before.contents? l != some contents then IO.FS.writeBinFile (hostPath l) contents
  for (l, _) in before.entries do
    if (before.contents? l).isSome && (after.node? l).isNone then
      IO.FS.removeFile (hostPath l)

end Lifelines.Main

/-- Runs the program with the arguments that it is given. -/
def main (args : List String) : IO UInt32 := do
  let env ← Lifelines.Main.environment
  let files ← Lifelines.Main.filesFor env args
  let (outcome, after) :=
    (Lifelines.CommandLine.run (Lifelines.Shell.tool env) env args).run files
  Lifelines.Main.writeBack files after
  IO.print outcome.stdout
  if let some message := outcome.error then IO.eprintln ("Error: " ++ message)
  if outcome.code = 2 then IO.eprint Lifelines.CommandLine.helpText
  return outcome.code.toUInt32
