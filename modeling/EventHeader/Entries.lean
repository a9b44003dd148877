/- Entries of a map, in the order in which their keys first came up. A key that is
   put again keeps its place and takes the new value. Everything that a schema maps
   by name (modules, components, the members of a JSON object) keeps its order,
   since the order of the output follows it. -/
namespace EventHeader

/-- Keyed values in the order of the first appearance of their keys. -/
abbrev Keyed (κ α : Type) := List (κ × α)

/-- Named values in the order of the first appearance of their names. -/
abbrev Entries (α : Type) := Keyed String α

namespace Keyed
variable {κ α : Type} [DecidableEq κ]

def find? : Keyed κ α → κ → Option α
  | [], _ => none
  | (k, v) :: rest, key => if k = key then some v else find? rest key

/-- Replaces the value of a key in place, or adds an entry at the end. -/
def put : Keyed κ α → κ → α → Keyed κ α
  | [], key, value => [(key, value)]
  | (k, v) :: rest, key, value =>
    if k = key then (key, value) :: rest else (k, v) :: put rest key value

/-- Puts the entries of a second map one after another into a first. -/
def merge (first second : Keyed κ α) : Keyed κ α :=
  second.foldl (fun es e => put es e.1 e.2) first

/-- The map that a list of keyed values describes, keys repeated or not. -/
def ofList (es : List (κ × α)) : Keyed κ α := merge [] es

def drop : Keyed κ α → κ → Keyed κ α
  | [], _ => []
  | (k, v) :: rest, key => if k = key then drop rest key else (k, v) :: drop rest key

end Keyed
end EventHeader
