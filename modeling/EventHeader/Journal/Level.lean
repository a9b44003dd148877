/- Levels of importance of what a run reports. A level is a number, so that any
   level can be compared with any other; six of them have names. -/
namespace EventHeader

/-- How important a record is; a higher number is more important. -/
structure Level where
  number : Int
  deriving DecidableEq, Repr

namespace Level

def notSet : Level := ⟨0⟩
def debug : Level := ⟨10⟩
def info : Level := ⟨20⟩
def warning : Level := ⟨30⟩
def error : Level := ⟨40⟩
def critical : Level := ⟨50⟩

/-- The named levels with their names. -/
def named : List (Level × String) :=
  [(notSet, "NOTSET"), (debug, "DEBUG"), (info, "INFO"), (warning, "WARNING"), (error, "ERROR"),
    (critical, "CRITICAL")]

/-- The name of a level; one without a name is called by its number. -/
def name (l : Level) : String :=
  match named.find? (fun e => e.1 == l) with
  | some e => e.2
  | none => "Level " ++ toString l.number

/-- The level of a name. Two levels have a second name. -/
def ofName? (s : String) : Option Level :=
  if s = "WARN" then some warning
  else if s = "FATAL" then some critical
  else (named.find? (fun e => e.2 == s)).map Prod.fst

end Level
end EventHeader
