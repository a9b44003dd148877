/- String literals of C++. Backslash, double quote, line feed, carriage return and
   tab are escaped, every other character stands for itself, so that a literal
   stays on one line and ends where it should. -/
namespace EventHeader.Text

def literalChar : Char → List Char
  | '\\' => ['\\', '\\']
  | '"' => ['\\', '"']
  | '\n' => ['\\', 'n']
  | '\r' => ['\\', 'r']
  | '\t' => ['\\', 't']
  | c => [c]

def literal (s : String) : String :=
  String.ofList ('"' :: s.toList.flatMap literalChar ++ ['"'])

end EventHeader.Text
