import EventHeader.Text.LowerTable
import EventHeader.Text.UpperTable

/- Upper and lower case of characters and texts, by the full mapping of Unicode 14:
   one character may become several (`ß` becomes `SS`). For upper case no context
   matters; for lower case it does for the capital sigma, which becomes another
   letter at the end of a word. To compare with words of ASCII letters the ASCII
   mapping is enough, since no other character becomes a letter of theirs. -/
namespace EventHeader.Text

/-- Whether a code point is a member of a run of `upperRuns` or `lowerRuns`. -/
def inCaseRun (n : Nat) (run : Nat × Nat × Nat × Nat) : Bool :=
  run.1 ≤ n && n ≤ run.2.1 && (n - run.1) % run.2.2.1 == 0

/-- The upper case of one character, as the characters it becomes. -/
def upperChar (c : Char) : List Char :=
  match upperRuns.find? (inCaseRun c.toNat) with
  | some run => [Char.ofNat (run.2.2.2 + (c.toNat - run.1))]
  | none =>
    match upperSequences.find? (fun e => e.1 == c.toNat) with
    | some e => e.2.map Char.ofNat
    | none => [c]

def upper (s : String) : String := String.ofList (s.toList.flatMap upperChar)

/-- The characters with the first one in upper case and the rest untouched. -/
def upperFirstChars : List Char → List Char
  | [] => []
  | c :: cs => upperChar c ++ cs

def upperFirst (s : String) : String := String.ofList (upperFirstChars s.toList)

/-- The lower case of one character, whatever stands around it. -/
def lowerChar (c : Char) : List Char :=
  if c = 'İ' then ['i', '\u0307']
  else match lowerRuns.find? (inCaseRun c.toNat) with
    | some run => [Char.ofNat (run.2.2.2 + (c.toNat - run.1))]
    | none => [c]

def inRuns (runs : List (Nat × Nat)) (c : Char) : Bool :=
  runs.any (fun run => run.1 ≤ c.toNat && c.toNat ≤ run.2)

/-- Whether the next character that counts is a letter with a case. -/
def startsCased (cs : List Char) : Bool :=
  match cs.dropWhile (inRuns skippedRuns) with
  | [] => false
  | c :: _ => inRuns casedRuns c

/-- The small letter of a capital sigma, with the characters before it, last one first,
and those after it. -/
def smallSigma (before after : List Char) : Char :=
  if startsCased before && !startsCased after then 'ς' else 'σ'

/-- The lower case of some characters, with those before them, last one first. -/
def lowerChars (before : List Char) : List Char → List Char
  | [] => []
  | c :: cs =>
    (if c = 'Σ' then [smallSigma before cs] else lowerChar c) ++ lowerChars (c :: before) cs

def lower (s : String) : String := String.ofList (lowerChars [] s.toList)

/-- The text with its ASCII capitals in lower case. -/
def lowerAscii (s : String) : String := String.ofList (s.toList.map Char.toLower)

end EventHeader.Text
