import EventHeader.Journal.Action
import EventHeader.Json.Basic
import EventHeader.Schema.Kind

/- Schemas of components. A schema holds modules, a component module holds
   components, a component emits events, and an event may carry a payload: a list
   of properties, nested to any depth. All maps keep the order of the schema. -/
namespace EventHeader

mutual
/-- What a property holds. A schema that has been read holds the eight kinds only;
one put together by hand may name a kind outside of them. -/
inductive PropertyType where
  | primitive (kind : Primitive)
  | stringEnum (options : List String)
  | object (properties : List Property)
  | foreign (kind : Json)

structure Property where
  name : String
  optional : Bool
  type : PropertyType
end

/-- Whether an event goes to its target alone or also to the views around it. -/
inductive Bubbling where
  | direct
  | bubble
  deriving DecidableEq, Repr

structure Event where
  name : String
  optional : Bool
  bubbling : Bubbling
  payload : Option (List Property)

/-- A component, of which only the events matter. -/
structure Component where
  events : List Event

structure Module where
  type : String
  components : Option (Entries Component)

structure Schema where
  modules : Entries Module

/-- Whether a module is of the type that contributes components. -/
def Module.isComponent (m : Module) : Bool := m.type == "Component"

/-- The components of all component modules in schema order. A name that a later
module declares again keeps its place and takes the later definition. A component
module without components is reported. -/
def mergeComponents {σ ε : Type} :
    Entries Component → Entries Module → Action σ ε (Entries Component)
  | found, [] => pure found
  | found, (name, m) :: rest =>
    if m.isComponent then
      match m.components with
      | none => do
        .write .debug "schema" ("Module '" ++ name ++ "' declares no components")
        mergeComponents found rest
      | some components => mergeComponents (found.merge components) rest
    else mergeComponents found rest

/-- The components of a schema, by name. -/
def Schema.components {σ ε : Type} (s : Schema) : Action σ ε (Entries Component) :=
  mergeComponents [] s.modules

end EventHeader
