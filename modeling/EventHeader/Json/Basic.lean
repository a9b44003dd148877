import EventHeader.Entries
import EventHeader.Number.Binary64
import EventHeader.Text.Piece

/- JSON values. Objects keep the order of their members, and a number is whole or
   floating-point according to how it is written, because a schema is read in the
   order of its text and `1` and `1.0` are answered differently. A string in which
   half a surrogate pair stands alone is a value of its own sort, since no text of
   Unicode is equal to it. -/
namespace EventHeader

inductive Json where
  | null
  | bool (b : Bool)
  | int (n : Int)
  | float (x : Number.Binary64)
  | string (s : String)
  /-- A string in which halves of surrogate pairs stand alone. -/
  | broken (pieces : List Text.Piece)
  | array (items : List Json)
  | object (members : List (String × Json))
  deriving Inhabited, Repr

/-- The string of some pieces. -/
def Json.ofPieces (ps : List Text.Piece) : Json :=
  if ps.any Text.Piece.isHalf then .broken ps else .string (Text.textOfPieces ps)

/-- The object of some members. Their names are told apart by pieces; what is left to be
looked up are texts, in which halves are replaced. -/
def Json.ofMembers (members : Keyed (List Text.Piece) Json) : Json :=
  .object (members.map (fun m => (Text.textOfPieces m.1, m.2)))

end EventHeader
