import TypeAtlas.Text.Printable

/-!
# Quoted texts

A text in quotes, on one line. The quotes are single ones, unless the text holds a single quote and
no double one. Backslashes and the quote in use are escaped, tabs and line ends are written as
`\t`, `\n` and `\r`, and other characters that are not printable by their code point.
-/

namespace TypeAtlas.Text

/-- The apostrophe, which is also the usual quote. -/
def singleQuote : Char := Char.ofNat 0x27

/-- The other quote. -/
def doubleQuote : Char := Char.ofNat 0x22

/-- The quote to put around a text. -/
def quoteFor (cs : List Char) : Char :=
  if singleQuote ∈ cs ∧ doubleQuote ∉ cs then doubleQuote else singleQuote

/-- A number in lower-case hexadecimal digits, with zeros in front up to a given width. -/
def hexPadded (width n : Nat) : List Char :=
  let digits := Nat.toDigits 16 n
  List.replicate (width - digits.length) '0' ++ digits

/-- The escape of a code point. -/
def codePointEscape (n : Nat) : List Char :=
  if n ≤ 0xFF then '\\' :: 'x' :: hexPadded 2 n
  else if n ≤ 0xFFFF then '\\' :: 'u' :: hexPadded 4 n
  else '\\' :: 'U' :: hexPadded 8 n

/-- How a character stands between given quotes. -/
def quotedChar (quote c : Char) : List Char :=
  if c = quote ∨ c = '\\' then ['\\', c]
  else if c = '\t' then ['\\', 't']
  else if c = '\n' then ['\\', 'n']
  else if c = '\r' then ['\\', 'r']
  else if isPrintable c then [c]
  else codePointEscape c.toNat

/-- The text in quotes. -/
def quoted (s : String) : String :=
  let cs := s.toList
  let quote := quoteFor cs
  String.ofList (quote :: cs.flatMap (quotedChar quote) ++ [quote])

end TypeAtlas.Text
