import TypeAtlas.Files.FileSystem
import TypeAtlas.Text.Lines

/-!
# Text files

A text file holds UTF-8. Line ends of any kind are read as line feeds, and a byte order mark is a
character like any other.
-/

namespace TypeAtlas.Files

/-- The text that the bytes of a file stand for, if they are UTF-8. -/
def decode? (content : ByteArray) : Option String :=
  (String.fromUTF8? content).map fun s => String.ofList (Text.withLineFeeds s.toList)

end TypeAtlas.Files
