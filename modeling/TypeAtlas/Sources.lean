import TypeAtlas.Config.Basic
import TypeAtlas.Files.Text

/-!
# Schema sources

The schema text that a configuration names: every file below each of its paths, in the order of
their paths from there, and after them the texts that it holds itself, all on lines of their own.
The first path that cannot be read stops the loading.
-/

namespace TypeAtlas

open Files (FileSystem Path)

/-- Why sources cannot be loaded. -/
inductive SourceError where
  /-- There is nothing at a path. -/
  | missing (path : String)
  /-- A path, or the path to something below it, is too long. -/
  | tooLong
  /-- A file is not UTF-8. -/
  | undecodable
  /-- The options do not name sources. -/
  | misuse (error : Config.Misuse)
  deriving DecidableEq, Repr

/-- The error of a missing path in words. -/
def missingPathMessage (path : String) : String := "Schema path does not exist: " ++ path

/-- The text of a file with given bytes. -/
def textOf (content : ByteArray) : Except SourceError String :=
  match Files.decode? content with
  | some text => .ok text
  | none => .error .undecodable

/-- The texts of the files at or below a path. All of them have to be within reach before the first is
read. -/
def textsAt (fs : FileSystem) (path : String) : Except SourceError (List String) :=
  let p := Path.parse path
  match fs.locate p with
  | .ok entry =>
    if FileSystem.tooDeep p entry then .error .tooLong
    else entry.sortedFiles.mapM fun f => textOf f.2
  | .error .tooLong =>
    if Path.isWritable path then .error .tooLong else .error (.missing p.spelling)
  | .error _ => .error (.missing p.spelling)

/-- The items of an option that should be a list of texts. -/
def sourceItems (c : Config) (field : Config.Field) : Except SourceError (List Json) := do
  match (← (c.get field).mapError .misuse).items? with
  | some items => return items
  | none => .error (.misuse .sources)

/-- The texts of the files that an item names. A broken text names no place. -/
def fileTexts (fs : FileSystem) : Json → Except SourceError (List String)
  | .text path => textsAt fs path
  | .broken path => .error (.missing (Path.parse path.escaped).spelling)
  | _ => .error (.misuse .sources)

/-- The schema text that an item is. A broken text counts with escapes for its surrogates. -/
def sourceText : Json → Except SourceError String
  | .text value => .ok value
  | .broken value => .ok value.escaped
  | _ => .error (.misuse .sources)

/-- The schema text that a configuration names. -/
def loadSources (fs : FileSystem) (c : Config) : Except SourceError String := do
  let files ← (← sourceItems c .schemaFiles).mapM (fileTexts fs)
  let inline ← (← sourceItems c .schemas).mapM sourceText
  return String.intercalate "\n" (files.flatten ++ inline)

end TypeAtlas
