/- Texts with halves of surrogate pairs in them. An escape can write half of a pair
   alone, which stands for no character, so such a text is none of Unicode. While a
   document is read it is kept as pieces, of which each is a character or a half, and
   the names of members are told apart by them. -/
namespace EventHeader.Text

/-- A character, or half of a surrogate pair that stands alone. -/
inductive Piece where
  | char (c : Char)
  | half (unit : Nat)
  deriving DecidableEq, Repr

namespace Piece

def isHalf : Piece → Bool
  | .char _ => false
  | .half _ => true

/-- The character of a piece; half a pair is replaced. -/
def toChar : Piece → Char
  | .char c => c
  | .half _ => '\ufffd'

end Piece

/-- The text of some pieces, in which halves are replaced. -/
def textOfPieces (ps : List Piece) : String := String.ofList (ps.map Piece.toChar)

end EventHeader.Text
