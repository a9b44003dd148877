import EventHeader.Json.Basic
import EventHeader.Number.Shortest
import EventHeader.Text.Quoted

/- How a JSON value is spelled in messages. A text that stands alone is written as
   it is, inside another value it is quoted; lists stand in square brackets and
   objects in braces, and the three constants are `None`, `True` and `False`. -/
namespace EventHeader.Json

def boolText (b : Bool) : String := if b then "True" else "False"

mutual
/-- A value as it stands inside another one. -/
def quotedText : Json → String
  | .null => "None"
  | .bool b => boolText b
  | .int n => toString n
  | .float x => x.text
  | .string s => Text.quoted s
  | .broken ps => Text.quotedPieces ps
  | .array items => "[" ++ ", ".intercalate (itemTexts items) ++ "]"
  | .object members => "\x7b" ++ ", ".intercalate (memberTexts members) ++ "\x7d"

def itemTexts : List Json → List String
  | [] => []
  | v :: rest => quotedText v :: itemTexts rest

def memberTexts : List (String × Json) → List String
  | [] => []
  | (k, v) :: rest => (Text.quoted k ++ ": " ++ quotedText v) :: memberTexts rest
end

/-- A value as it stands alone. -/
def text : Json → String
  | .string s => s
  | .broken ps => Text.textOfPieces ps
  | v => quotedText v

def typeName : Json → String
  | .null => "NoneType"
  | .bool _ => "bool"
  | .int _ => "int"
  | .float _ => "float"
  | .string _ => "str"
  | .broken _ => "str"
  | .array _ => "list"
  | .object _ => "dict"

end EventHeader.Json
