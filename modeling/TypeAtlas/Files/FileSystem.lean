import TypeAtlas.Files.Path
import TypeAtlas.OrderedMap

/-!
# File systems

Files and directories as a tree, with a working directory at which relative paths begin. `locate`
walks along a path and `locateLiterally` along a text as it stands. `Entry.all` lists everything below
an entry with its place, `Entry.files` the files among it, and `Entry.sortedFiles` the files in the
order of their places, which are compared component by component.
-/

namespace TypeAtlas.Files

/-- A file with its bytes, or a directory with its children in any order. -/
inductive Entry where
  | file (content : ByteArray)
  | directory (children : List (String × Entry))

namespace Entry

/-- The directory without children. -/
def emptyDirectory : Entry := directory []

/-- Whether the entry is a directory. -/
def isDirectory : Entry → Bool
  | file _ => false
  | directory _ => true

/-- The child of a given name. -/
def child? : Entry → String → Option Entry
  | file _, _ => none
  | directory children, name => children.lookup name

/-- The children of a directory. -/
def children : Entry → List (String × Entry)
  | file _ => []
  | directory children => children

/-- Puts an entry at a place below a directory and makes the directories on the way. A directory
that is already there is kept. -/
def put : (old entry : Entry) → (place : List String) → Entry
  | old, entry, [] => if entry.isDirectory && old.isDirectory then old else entry
  | old, entry, name :: rest =>
    directory (insertEntry name (put ((old.child? name).getD emptyDirectory) entry rest)
      old.children)

mutual

/-- The entry and everything below it, each with its place: the names on the way there. -/
def all : Entry → List (List String × Entry)
  | file content => [([], file content)]
  | directory children => ([], directory children) :: allOfChildren children

/-- Some children of a directory and everything below them, each with its place in the directory. -/
def allOfChildren : List (String × Entry) → List (List String × Entry)
  | [] => []
  | (name, entry) :: rest => (all entry).map (fun e => (name :: e.1, e.2)) ++ allOfChildren rest

end

/-- The bytes of a file. -/
def content? : Entry → Option ByteArray
  | file content => some content
  | directory _ => none

/-- The files at or below an entry with their places. -/
def files (entry : Entry) : List (List String × ByteArray) :=
  entry.all.filterMap fun e => e.2.content?.map (e.1, ·)

/-- The files at or below an entry in the order of their places. -/
def sortedFiles (entry : Entry) : List (List String × ByteArray) :=
  entry.files.mergeSort fun f g => Path.componentsLe f.1 g.1

end Entry

/-- Why a path leads nowhere. -/
inductive Lost where
  /-- There is nothing of that name. -/
  | missing
  /-- The way goes on below a file. -/
  | notADirectory
  /-- The path, or a name on the way, takes too many bytes. -/
  | tooLong
  deriving DecidableEq, Repr

/-- The most bytes that a name may take. -/
def nameLimit : Nat := 255

/-- The most bytes that a path may take. -/
def pathLimit : Nat := 4095

/-- The entry at the end of a way that begins at `here`, inside the directories `above`, innermost
first. The directory above the root is the root. -/
def walk : (above : List Entry) → (here : Entry) → List String → Except Lost Entry
  | _, here, [] => .ok here
  | _, .file _, _ :: _ => .error .notADirectory
  | above, .directory children, name :: rest =>
    if name = "" ∨ name = "." then walk above (.directory children) rest
    else if name = ".." then
      match above with
      | [] => walk [] (.directory children) rest
      | up :: further => walk further up rest
    else if nameLimit < name.utf8ByteSize then .error .tooLong
    else
      match children.lookup name with
      | some entry => walk (.directory children :: above) entry rest
      | none => .error .missing

/-- Files and the directory at which relative paths begin. -/
structure FileSystem where
  root : Entry
  workingDirectory : List String

namespace FileSystem

/-- The way to a path from the root. -/
def fromRoot (fs : FileSystem) (p : Path) : List String :=
  if p.isAbsolute then p.components else fs.workingDirectory ++ p.components

/-- The entry that a path leads to. -/
def locate (fs : FileSystem) (p : Path) : Except Lost Entry :=
  if pathLimit < p.spelling.utf8ByteSize then .error .tooLong
  else walk [] fs.root (fs.fromRoot p)

/-- The entry that a text leads to as it stands: it may not be empty, and where it has an empty
component or a single point there must be a directory. -/
def locateLiterally (fs : FileSystem) (text : String) : Except Lost Entry :=
  if text = "" then .error .missing
  else if pathLimit < text.utf8ByteSize then .error .tooLong
  else
    let start := if (Path.parse text).isAbsolute then [] else fs.workingDirectory
    walk [] fs.root (start ++ Path.literalSteps text)

/-- Whether an entry to which a path leads, or anything below it, is out of reach, because the path
there takes too many bytes. -/
def tooDeep (p : Path) (entry : Entry) : Bool :=
  entry.all.any fun e => pathLimit < (p.below e.1).spelling.utf8ByteSize

/-- The entry that a path leads to, if there is one. -/
def find? (fs : FileSystem) (p : Path) : Option Entry := (fs.locate p).toOption

/-- The path from the root to the same place, with every way back up taken. -/
def resolve (fs : FileSystem) (p : Path) : Path := ⟨"/", Path.collapse (fs.fromRoot p)⟩

/-- Puts an entry at a path, with every way back up taken. -/
def put (fs : FileSystem) (p : Path) (entry : Entry) : FileSystem :=
  { fs with root := fs.root.put entry (fs.resolve p).components }

end FileSystem

end TypeAtlas.Files
