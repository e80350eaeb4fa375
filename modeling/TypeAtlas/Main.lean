import TypeAtlas.Command.Run

/-!
# The program

Reads the files that the command line and the configuration name, runs the command on them, and
prints what it says. Everything is decided by `TypeAtlas.Command.run`.
-/

namespace TypeAtlas.Program

open Command (Options Outcome)
open Files (Entry FileSystem Path)

/-- Adds what is at a path, with everything below it. A path that leads nowhere adds nothing. -/
partial def gather (fs : FileSystem) (path : String) : IO FileSystem := do
  match ← (IO.FS.realPath path).toBaseIO with
  | .error _ => return fs
  | .ok real =>
    if ← real.isDir then
      let mut fs := fs.put (Path.parse path) Entry.emptyDirectory
      for child in ← real.readDir do
        fs ← gather fs (path ++ "/" ++ child.fileName)
      return fs
    else if ← real.pathExists then
      return fs.put (Path.parse path) (.file (← IO.FS.readBinFile path))
    else return fs

/-- Adds the directories that a path passes through. -/
def gatherWay (fs : FileSystem) (path : String) : IO FileSystem := do
  let p := Path.parse path
  let mut fs := fs
  for n in List.range p.components.length do
    let way : Path := ⟨p.anchor, p.components.take n⟩
    match ← (IO.FS.realPath way.spelling).toBaseIO with
    | .error _ => pure ()
    | .ok real => if ← real.isDir then fs := fs.put way Entry.emptyDirectory
  return fs

/-- Adds everything that paths lead to. -/
def gatherAll (fs : FileSystem) (paths : List String) : IO FileSystem :=
  paths.foldlM (fun fs path => do gather (← gatherWay fs path) path) fs

/-- The paths of the sources that a configuration names. -/
def sourcePaths (c : Config) : List String :=
  (((c.value .schemaFiles).items?.getD []).filterMap Json.text?).map fun path => (Path.parse path).spelling

/-- The files that the command may look at. -/
def relevantFiles (args : List String) : IO FileSystem := do
  let here := (Path.parse (← IO.currentDir).toString).components
  let fs : FileSystem := ⟨Entry.emptyDirectory.put Entry.emptyDirectory here, here⟩
  match Options.read? args with
  | none => return fs
  | some o =>
    let resolved (path : String) : String := (fs.resolve (Path.parse path)).spelling
    let fs ← gatherAll fs ((o.config.toList ++ o.paths).map resolved)
    match Command.configuration fs o.config o.boxed [] with
    | .ok config => gatherAll fs (sourcePaths config)
    | .error _ => return fs

/-- What the command does and the options that need a word. -/
def helpText : String :=
  "Print the Java type a GraphQL type expression resolves to.\n\n" ++
  "  -t, --type   Type expression to resolve, e.g. '[Show!]!'\n" ++
  "  --interface  Reference the generated interface of object types\n" ++
  "  --wildcard   Use '? extends' elements for lists of interfaces\n" ++
  "  --boxed      Keep boxed types for non-null fields\n"

/-- Prints an outcome and gives the exit code. -/
def report (outcome : Outcome) : IO UInt32 := do
  match outcome with
  | .printed output => IO.print output
  | .failed message => IO.eprint (Command.errorReport message)
  | .crashed crash => IO.eprintln (reprStr crash)
  | .misused => pure ()
  | .help => IO.print helpText
  return outcome.exitCode

end TypeAtlas.Program

def main (args : List String) : IO UInt32 := do
  let fs ← TypeAtlas.Program.relevantFiles args
  TypeAtlas.Program.report (TypeAtlas.Command.run fs args)
