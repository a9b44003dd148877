import EventHeader.GenerationError
import EventHeader.Schema.Basic

/- The include directives that a payload needs. They are kept as a set in the order
   of their code points, so that the header does not depend on the order in which
   they were found. -/
namespace EventHeader.Include

/-- Adds a directive to an ordered set of them. -/
def insert (directive : String) : List String → List String
  | [] => [directive]
  | d :: rest =>
    if directive = d then d :: rest
    else if directive < d then directive :: d :: rest
    else d :: insert directive rest

/-- The ordered set of the members of two lists, of which the second is one already. -/
def union (directives set : List String) : List String := directives.foldr insert set

def ofList (directives : List String) : List String := union directives []

mutual
/-- The directives that a property needs. -/
def ofType : PropertyType → Except GenerationError (List String)
  | .primitive p => .ok p.include?.toList
  | .stringEnum _ => .ok []
  | .object properties => ofProperties properties
  | .foreign kind => .error (.invalidType kind)

def ofProperties : List Property → Except GenerationError (List String)
  | [] => .ok []
  | ⟨_, _, type⟩ :: rest => do
    let here ← ofType type
    let more ← ofProperties rest
    return union here more
end

/-- The directives that the payloads of some events need. -/
def ofEvents : List Event → Except GenerationError (List String)
  | [] => .ok []
  | e :: rest => do
    let here ← ofProperties (e.payload.getD [])
    let more ← ofEvents rest
    return union here more

end EventHeader.Include
