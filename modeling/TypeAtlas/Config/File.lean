import TypeAtlas.Config.Basic
import TypeAtlas.Files.Text
import TypeAtlas.Json.Reader

/-!
# Configuration files

A configuration file holds a JSON object in UTF-8.
-/

namespace TypeAtlas.Config

open Files (Entry FileSystem Lost Path)

/-- Why a configuration file cannot be used. -/
inductive FileError where
  /-- The text for the path can name no file. -/
  | unwritablePath
  /-- The path leads nowhere. -/
  | lost (why : Lost)
  /-- There is a directory. -/
  | isDirectory
  /-- The bytes are not UTF-8. -/
  | undecodable
  /-- The text cannot be read as JSON. -/
  | unreadable (why : Json.Unreadable)
  /-- The JSON value is not an object. -/
  | notAnObject
  /-- A member of the object gives a name a value that it does not take. -/
  | refused (why : Refusal)
  deriving DecidableEq, Repr

/-- The configuration that a JSON value gives. A broken name is not known, so its member does not
count. -/
def ofJson (value : Json) : Except FileError Config :=
  match value with
  | .object members => (ofMembers (Json.properMembers members)).mapError .refused
  | _ => .error .notAnObject

/-- The configuration that a text holds. -/
def ofText (text : String) : Except FileError Config := do
  ofJson (← (Json.read text).mapError .unreadable)

/-- The configuration in the file at a path. -/
def load (fs : FileSystem) (path : String) : Except FileError Config :=
  if Path.isWritable path then
    match fs.locateLiterally path with
    | .error why => .error (.lost why)
    | .ok (.directory _) => .error .isDirectory
    | .ok (.file content) =>
      match Files.decode? content with
      | some text => ofText text
      | none => .error .undecodable
  else .error .unwritablePath

end TypeAtlas.Config
