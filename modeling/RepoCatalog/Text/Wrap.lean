import RepoCatalog.Text.Shorten

/-!
# Wrapped text

A text is broken into lines of a width between its pieces; a piece that is too long for any line is
cut.
-/

namespace RepoCatalog.Text

/-- Pieces without blank ones in front; they count only at the start of a text. -/
def dropBlankPiece : List (List Char) → List (List Char)
  | [] => []
  | piece :: rest => if (strip piece).isEmpty then rest else piece :: rest

/-- The line that ends with a piece, last piece first, without a blank piece at its end. -/
def finishLine (taken : List (List Char)) : List Char :=
  (dropBlankPiece taken).reverse.flatten

/-- Lines of a width that pieces fill; fuel bounds their number. -/
def wrapPieces (width : Nat) : Nat → List (List Char) → List (List Char)
  | 0, _ => []
  | _ + 1, [] => []
  | fuel + 1, parts =>
    match takeFitting width [] parts with
    | (taken, []) => [finishLine taken].filter (!·.isEmpty)
    | (taken, piece :: rest) =>
      let (taken, left) :=
        if width < piece.length then
          let cut := cutLength (width - taken.flatten.length) piece
          (piece.take cut :: taken, piece.drop cut :: rest)
        else (taken, piece :: rest)
      finishLine taken :: wrapPieces width fuel (dropBlankPiece left)

/-- A text with single spaces, broken into lines of a width. -/
def wrap (width : Nat) (text : String) : List String :=
  let single := singleSpaced text.toList
  (wrapPieces width (single.length + 1) (pieces single)).map String.ofList

end RepoCatalog.Text
