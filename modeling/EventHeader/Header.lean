import EventHeader.EmitterClass
import EventHeader.Include

/- The header: the emitter classes of all components of a schema in one file, below
   the include directives that their payloads need. Each component is settled on
   its own, includes first; the first error ends the run before there is a file. -/
namespace EventHeader

/-- What a header is generated for and how. -/
structure GenerationOptions where
  library : String
  package : Option String
  assumeNonnull : Bool
  strict : Bool
  deriving DecidableEq, Repr

namespace Header

def fileName : String := "EventEmitters.h"

/-- The comment at the top of the file and the guard against a second inclusion. -/
def banner : String :=
  Text.unlines [
    "/**",
    " * This code was generated by " ++ programName ++ ".",
    " *",
    " * Do not edit this file as changes may cause incorrect behavior and will be lost",
    " * once the code is regenerated.",
    " *",
    " * @generated by " ++ programName,
    " */",
    "#pragma once"]

/-- The include directive that every header has. -/
def baseInclude : String := "#include <react/renderer/components/view/ViewEventEmitter.h>"

def namespaceOpen : String := "namespace facebook \x7b\nnamespace react \x7b"

def namespaceClose : String := "\x7d // namespace react\n\x7d // namespace facebook"

/-- The text of a header with some classes and an ordered set of directives. -/
def assemble (classes : List EmitterClass) (includes : List String) : String :=
  "\n\n".intercalate (
    [banner, Text.unlines (baseInclude :: includes), namespaceOpen] ++
    classes.map EmitterClass.render ++ [namespaceClose]) ++ "\n"

/-- The classes of components and the directives they need, in order. -/
def classesOf {σ : Type} (strict : Bool) :
    Entries Component → Action σ GenerationError (List EmitterClass × List String)
  | [] => pure ([], [])
  | (name, c) :: rest => do
    -- The directives come first, so a foreign kind is found before any declaration is made.
    let here ← .ofExcept (Include.ofEvents c.events)
    let emitter ← EmitterClass.ofComponent name c strict
    let (emitters, more) ← classesOf strict rest
    return (emitter :: emitters, Include.union here more)

/-- A name that may be absent, in reports. -/
def optionalText : Option String → String
  | none => "None"
  | some s => s

/-- The files generated for a schema, by name. -/
def generate {σ : Type} (o : GenerationOptions) (s : Schema) :
    Action σ GenerationError (Entries String) := do
  .write .debug "emitter"
    ("Generating event emitters for library=" ++ o.library ++ " package=" ++
      optionalText o.package ++ " assume_nonnull=" ++ Json.boolText o.assumeNonnull)
  let components ← s.components
  let (classes, includes) ← classesOf o.strict components
  .write .info "emitter"
    ("Generated " ++ fileName ++ " for " ++ toString classes.length ++ " components of " ++
      o.library)
  return [(fileName, assemble classes includes)]

end Header
end EventHeader
