import EventHeader.Journal.Action
import EventHeader.Text.Case

/- The sink that records go to. It lets records through from a threshold on and
   writes them as lines of a stream once it has been set up; only the first setup
   counts. A record of level zero or below passes no threshold. -/
namespace EventHeader

/-- The threshold of the sink, and whether it has a stream to write to. -/
structure Sink where
  threshold : Level
  isOpen : Bool
  deriving DecidableEq, Repr

namespace Sink

def fresh : Sink := ⟨.warning, false⟩

/-- The level a name in any case stands for; an unknown name stands for `INFO`. -/
def levelOfName (s : String) : Level := (Level.ofName? (Text.upper s)).getD .info

/-- Sets the threshold, if one is given, and opens the stream, unless that has been
done before. -/
def setup (s : Sink) (level : Option Level) : Sink :=
  if s.isOpen then s else ⟨level.getD s.threshold, true⟩

def passes (s : Sink) (l : Level) : Bool := 0 < l.number && s.threshold.number ≤ l.number

/-- The text a record written at `time` adds to the stream: nothing if it does not
pass. -/
def textOf (s : Sink) (time : String) (r : Record) : String :=
  if s.isOpen && s.passes r.level then
    time ++ " - " ++ r.source ++ " - " ++ r.level.name ++ " - " ++ r.message ++ "\n"
  else ""

/-- The text several records add to the stream. -/
def textOfAll (s : Sink) (time : String) (rs : List Record) : String :=
  String.join (rs.map (s.textOf time))

/-- The text of a record that no setup has made a stream for: from warnings on the
bare message is shown. -/
def bareTextOf (r : Record) : String :=
  if Level.warning.number ≤ r.level.number then r.message ++ "\n" else ""

end Sink
end EventHeader
