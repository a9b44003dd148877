import EventHeader.Schema.Basic
import EventHeader.Json.Text
import EventHeader.Text.Case
import EventHeader.Text.Line

/- The outline of a schema: a line for each component, event and property, with
   branches drawn before those below a component. A branch turns off where its last
   item stands, so that the depth and the parent of every line can be seen. Every line
   of a property says in a word what it holds, so a kind that is no text, as a schema
   put together by hand may name it, cannot be outlined. -/
namespace EventHeader.Schema.Outline

/-- A kind is no text, so there is no word for it. -/
structure NoWord where
  sort : String
  deriving DecidableEq, Repr

def NoWord.message (e : NoWord) : String := "there is no word for a kind of type " ++ e.sort

/-- The branch before an item, by whether more items follow it. -/
def branch (more : Bool) : String := if more then "├── " else "└── "

/-- What stands below an item's branch on the lines of its own items. -/
def trunk (more : Bool) : String := if more then "│   " else "    "

/-- The word for the kind that a tag names: what stands before the common end of all
tags, in lower case. -/
def wordOfTag (tag : String) : String :=
  match "TypeAnnotation".toList.isSuffixOf? tag.toList with
  | some stem => Text.lower (String.ofList stem)
  | none => Text.lower tag

theorem wordOfTag_tag (kind : Primitive) : wordOfTag (Kind.primitive kind).tag = kind.word := by
  cases kind <;> decide +kernel

/-- The word for a kind that is none of the eight. -/
def wordOfForeign (kind : Json) : Except NoWord String :=
  match kind with
  | .string tag => .ok (wordOfTag tag)
  | .broken ps => .ok (wordOfTag (Text.textOfPieces ps))
  | _ => .error ⟨kind.typeName⟩

def describe : PropertyType → Except NoWord String
  | .primitive kind => .ok kind.word
  | .stringEnum options => .ok ("enum[" ++ ", ".intercalate options ++ "]")
  | .object _ => .ok "object"
  | .foreign kind => wordOfForeign kind

mutual
def typeLines (margin : String) : PropertyType → Except NoWord (List String)
  | .object properties => propertyLines margin properties
  | _ => .ok []

/-- The lines of properties, each followed by those of its own properties. -/
def propertyLines (margin : String) : List Property → Except NoWord (List String)
  | [] => .ok []
  | ⟨name, _, type⟩ :: rest => do
    let word ← describe type
    let below ← typeLines (margin ++ trunk (!rest.isEmpty)) type
    let more ← propertyLines margin rest
    return (margin ++ branch (!rest.isEmpty) ++ name ++ ": " ++ word) :: below ++ more
end

/-- The lines of events. An event without payload is marked by a pair of brackets. -/
def eventLines : List Event → Except NoWord (List String)
  | [] => .ok []
  | e :: rest => do
    let more := !rest.isEmpty
    let here ← match e.payload with
      | none => pure [branch more ++ e.name ++ "()"]
      | some properties =>
        (propertyLines (trunk more) properties).map ((branch more ++ e.name) :: ·)
    let others ← eventLines rest
    return here ++ others

def componentLines : Entries Component → Except NoWord (List String)
  | [] => .ok []
  | (name, c) :: rest => do
    let here ← eventLines c.events
    let others ← componentLines rest
    return name :: here ++ others

def text (components : Entries Component) : Except NoWord String :=
  (componentLines components).map Text.unlines

end EventHeader.Schema.Outline
