import EventHeader.Journal.Level

/- Records of what a run does. Each names the part of the program that wrote it;
   all parts report under the program's own name. -/
namespace EventHeader

/-- The name of the program, which generated files and records carry. -/
def programName : String := "event-emitter-codegen"

/-- The full name under which a part of the program reports. -/
def sourceName (part : String) : String :=
  if part.isEmpty then programName else programName ++ "." ++ part

/-- One record: its level, the part of the program it is from, and its text. -/
structure Record where
  level : Level
  part : String
  message : String
  deriving DecidableEq, Repr

def Record.source (r : Record) : String := sourceName r.part

end EventHeader
