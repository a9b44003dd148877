import EventHeader.Payload

/- The emitter class of a component: the declarations of the payloads of its events
   and a method for each event, which takes the struct of the payload if the event
   has one. -/
namespace EventHeader

/-- The class that all emitters derive from. -/
def emitterBase : String := "ViewEventEmitter"

structure EmitterClass where
  component : String
  declarations : List Declaration
  methods : List String
  deriving DecidableEq, Repr

def Event.method (e : Event) : String :=
  match e.payload with
  | none => "void " ++ e.name ++ "() const;"
  | some _ => "void " ++ e.name ++ "(" ++ Identifier.ofPath [e.name] ++ " value) const;"

namespace EmitterClass

def name (c : EmitterClass) : String := c.component ++ "EventEmitter"

/-- A part of the class body, set off by an empty line; an empty part is left out. -/
def bodySection (s : String) : List String :=
  if s.isEmpty then [] else ["", "  " ++ Text.indent 2 s]

def render (c : EmitterClass) : String :=
  Text.unlines (
    ["class " ++ c.name ++ " : public " ++ emitterBase ++ " \x7b", " public:",
      "  using " ++ emitterBase ++ "::" ++ emitterBase ++ ";"] ++
    bodySection ("\n\n".intercalate (c.declarations.map Declaration.render)) ++
    bodySection ("\n\n".intercalate c.methods) ++
    ["\x7d;"])

/-- Registers the declarations of the payloads of some events, in order. -/
def registerPayloads (component : String) : List Event → Action Registry GenerationError Unit
  | [] => pure ()
  | e :: rest =>
    match e.payload with
    | none => registerPayloads component rest
    | some properties => do
      let _ ← Payload.registerStruct component [e.name] properties
      registerPayloads component rest

/-- The declarations of the payloads of some events, from an empty registry on. -/
def payloadDeclarations (component : String) (events : List Event) :
    Action Registry GenerationError (List Declaration) := do
  registerPayloads component events
  let r ← .getState
  return r.declarations

def ofComponent {σ : Type} (component : String) (c : Component) (strict : Bool) :
    Action σ GenerationError EmitterClass := do
  let declarations ←
    (payloadDeclarations component c.events).onOwnState (Registry.empty strict)
  let methods := c.events.map Event.method
  .write .debug "emitter"
    (component ++ ": " ++ toString declarations.length ++ " declarations, " ++
      toString methods.length ++ " events")
  return ⟨component, declarations, methods⟩

end EmitterClass
end EventHeader
