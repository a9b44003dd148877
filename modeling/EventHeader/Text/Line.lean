/- Lines of a text. A text is cut at line feeds only, so it has one line more than
   it has line feeds, and the lines put together again are the text. `indent`
   moves a block of lines to the right inside a surrounding text: the first line
   stays, since it follows spaces already written, and empty lines stay empty. -/
namespace EventHeader.Text

/-- The lines of a text, without their line feeds. -/
def lines (s : String) : List String :=
  (s.toList.splitOn '\n').map String.ofList

def unlines (ls : List String) : String := "\n".intercalate ls

def spaces (n : Nat) : String := String.ofList (List.replicate n ' ')

/-- Puts `n` spaces before a line, unless the line is empty. -/
def indentLine (n : Nat) (line : String) : String :=
  if line.isEmpty then line else spaces n ++ line

/-- Indents every line of a block except the first. -/
def indentLines (n : Nat) : List String → List String
  | [] => []
  | first :: rest => first :: rest.map (indentLine n)

/-- Indents a text by `n` spaces from its second line on, leaving empty lines empty. -/
def indent (n : Nat) (s : String) : String := unlines (indentLines n (lines s))

/-- Reads every line ending, be it `\r\n`, `\r` or `\n`, as a line feed. -/
def universalNewlines : List Char → List Char
  | [] => []
  | '\r' :: '\n' :: cs => '\n' :: universalNewlines cs
  | c :: cs => (if c = '\r' then '\n' else c) :: universalNewlines cs

end EventHeader.Text
