import TypeAtlas.Command.Options
import TypeAtlas.Config.File
import TypeAtlas.GraphQL.Excerpt
import TypeAtlas.Session
import TypeAtlas.Text.ControlSequence

/-!
# The command

The command resolves one type reference against the schema sources on its command line and in its
configuration file. It prints the Java type and whether its values are written as string literals.
What it prints and reports holds no commands to a terminal.
-/

namespace TypeAtlas.Command

open Files (FileSystem Path)
open GraphQL (SyntaxError TypeExpr)
open Java (JavaType PrimitiveMisuse)

/-- Why the command ends in a way that it does not report. -/
inductive Crash where
  | config (error : Config.FileError)
  /-- The text for a path can name no file. -/
  | unwritablePath
  /-- A path to a schema source is too long. -/
  | tooLongPath
  | undecodable
  | option (error : Config.Misuse)
  | misuse (error : PrimitiveMisuse)
  /-- There are no bytes for the Java type. -/
  | unencodable
  /-- The Java type cannot be looked up. -/
  | noKey
  deriving DecidableEq, Repr

/-- How the command ends. -/
inductive Outcome where
  /-- It prints a text. -/
  | printed (output : String)
  /-- It reports an error. -/
  | failed (message : String)
  | crashed (crash : Crash)
  /-- The arguments make no sense. -/
  | misused
  /-- It is asked how it is used. -/
  | help
  deriving DecidableEq, Repr

/-- The path that an argument means, if there is something at it. Every way back up is taken before
looking. -/
def existing (fs : FileSystem) (arg : String) : Except Outcome String :=
  if Path.isWritable arg then
    let p := fs.resolve (Path.parse arg)
    match fs.find? p with
    | some _ => .ok p.spelling
    | none => .error .misused
  else .error (.crashed .unwritablePath)

/-- The configuration that the command line asks for: that of the file if there is one, with the
paths after its own and with `--boxed` taking effect. -/
def configuration (fs : FileSystem) (file : Option String) (boxed : Bool) (paths : List String) :
    Except Crash Config := do
  let base ← match file with
    | some path => (Config.load fs path).mapError .config
    | none => .ok Config.standard
  let files ← (base.get .schemaFiles).mapError .option
  let some items := files.items? | .error (.option .sources)
  let config := base.put .schemaFiles (.array (items ++ paths.map .text))
  return if boxed then config.put .generateBoxedTypes (.bool true) else config

/-- The ending that an error of the session brings about. -/
def ofSessionError : SessionError → Outcome
  | .configuration e => .failed e.message
  | .schema e => .failed e.report
  | .sources (.missing path) => .failed (missingPathMessage path)
  | .sources .tooLong => .crashed .tooLongPath
  | .sources .undecodable => .crashed .undecodable
  | .sources (.misuse e) => .crashed (.option e)
  | .misuse e => .crashed (.option e)

/-- A text as it is written to what is no terminal: without commands to one. -/
def written (s : String) : String := String.ofList (Text.withoutSequences s.toList)

/-- What is printed for a type. -/
def printout (type : JavaType) (stringInput : Bool) : String :=
  written (type.spelling ++ "\nstring input: " ++ (if stringInput then "yes" else "no") ++ "\n")

/-- Resolves a type reference in a given configuration. -/
def resolveIn (fs : FileSystem) (config : Config) (type : String) (interface wildcard : Bool) :
    Outcome :=
  match Session.ofConfig fs config with
  | .error e => ofSessionError e
  | .ok session =>
    match TypeExpr.parse type with
    | .error e => .failed e.report
    | .ok expr =>
      match session.resolve interface wildcard expr with
      | .error e => .crashed (.misuse e)
      | .ok java =>
        -- The type is printed before it is looked up.
        if java.isWritable then
          match session.isStringInput? java with
          | some stringInput => .printed (printout java stringInput)
          | none => .crashed .noKey
        else .crashed .unencodable

/-- Runs the command with options of which the type is known and the paths exist. -/
def runResolved (fs : FileSystem) (o : Options) (type : String) (file : Option String)
    (paths : List String) : Outcome :=
  match configuration fs file o.boxed paths with
  | .error crash => .crashed crash
  | .ok config => resolveIn fs config type o.interface o.wildcard

/-- Runs the command with given options. The paths are looked at before the type is asked for. -/
def runWith (fs : FileSystem) (o : Options) : Except Outcome Outcome := do
  let file ← o.config.mapM (existing fs)
  let paths ← o.paths.mapM (existing fs)
  match o.type with
  | some type => return runResolved fs o type file paths
  | none => .error .misused

/-- Runs the command. -/
def run (fs : FileSystem) (args : List String) : Outcome :=
  match Options.read? args with
  | none => .misused
  | some o =>
    if o.help then .help
    else match runWith fs o with
      | .ok outcome => outcome
      | .error outcome => outcome

/-- The text of an error report. -/
def errorReport (message : String) : String := written ("Error: " ++ message ++ "\n")

namespace Outcome

/-- The exit code. -/
def exitCode : Outcome → UInt32
  | printed _ => 0
  | failed _ => 1
  | crashed _ => 1
  | misused => 2
  | help => 0

/-- What is printed, unless the command crashes, when it may have printed something before, or is asked
how it is used. -/
def output? : Outcome → Option String
  | printed output => some output
  | failed _ => some ""
  | crashed _ => none
  | misused => some ""
  | help => none

/-- The report of an error. -/
def report? : Outcome → Option String
  | failed message => some (errorReport message)
  | _ => none

end Outcome

end TypeAtlas.Command
