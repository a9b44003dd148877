import EventHeader.Text.Case

/- Identifiers of C++ made from arbitrary texts. The letters, digits and underscores
   of ASCII are kept, everything else separates words, and each word begins with a
   capital; an identifier starts with no digit and is never empty. A declaration is
   named by the texts on the way to it, each made an identifier. -/
namespace EventHeader.Identifier

def isWordChar (c : Char) : Bool := c.isAlphanum || c == '_'

/-- The words of a text without what separates them, each with a capital at its
start; `fresh` says that the next character starts a word. -/
def joinWords : Bool → List Char → List Char
  | _, [] => []
  | fresh, c :: cs =>
    if isWordChar c then
      (if fresh then Text.upperChar c else [c]) ++ joinWords false cs
    else joinWords true cs

/-- Puts an underscore before a digit at the start, and in place of nothing. -/
def protect : List Char → List Char
  | [] => ['_']
  | c :: cs => if c.isDigit then '_' :: c :: cs else c :: cs

def ofText (s : String) : String := String.ofList (protect (joinWords true s.toList))

/-- The name of the declaration at the end of a path. -/
def ofPath (path : List String) : String := String.join (path.map ofText)

end EventHeader.Identifier
