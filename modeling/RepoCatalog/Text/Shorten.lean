import RepoCatalog.Failure
import RepoCatalog.Text.Blank
import RepoCatalog.Text.CharClass

/-!
# Shortened text

A text is fitted into a width by keeping whole pieces from its front and marking what is left out
with an ellipsis. Pieces are words, the parts of hyphenated words, the dashes between words and the
spaces that separate them.
-/

namespace RepoCatalog.Text

/-- The mark for omitted text. -/
def ellipsis : Char := '…'

/-- Whether a dash may follow a character to separate words. -/
def allowsDash (c : Char) : Bool :=
  isWordChar c || ['!', '\x22', '\x27', '&', '.', ',', '?'].contains c

/-- Whether the reversed text before a hyphen lets a word be divided after it. -/
def dividesAfter : List Char → Bool
  | last :: '-' :: first :: _ => isLetter last && isLetter first
  | last :: first :: _ => isLetter last && isLetter first
  | _ => false

/-- Whether the text after a hyphen can begin a line of its own. -/
def continuesDivided : List Char → Bool
  | first :: '-' :: next :: _ => isLetter first && isLetter next
  | first :: next :: _ => isLetter first && isLetter next
  | _ => false

/-- Whether text starts with a run of at least two hyphens that leads to a word. -/
def startsDash (text : List Char) : Bool :=
  let rest := text.dropWhile (· == '-')
  rest.length + 2 ≤ text.length && (rest.head?.map isWordChar).getD false

/-- Whether a dash between words starts here, given the reversed text before it. -/
def dashHere (before text : List Char) : Bool :=
  (before.head?.map allowsDash).getD false && startsDash text

/-- Whether a word under way ends here. -/
def wordEnds (before text : List Char) : Bool :=
  match text with
  | [] => true
  | c :: _ => c == ' ' || dashHere before text

/-- What the piece under way consists of. -/
inductive Piece
  | spaces
  | dash
  | word
  deriving DecidableEq, Repr

/-- The kind of piece that starts here. -/
def pieceKind (before text : List Char) : Piece :=
  if text.head? == some ' ' then .spaces
  else if dashHere before text then .dash
  else .word

/-- Whether the piece under way ends before the remaining text. -/
def pieceEnds : Piece → List Char → List Char → Bool
  | .spaces, _, text => text.head? != some ' '
  | .dash, _, text => text.head? != some '-'
  | .word, before, text => wordEnds before text ||
      match before with
      | '-' :: earlier => dividesAfter earlier && continuesDivided text
      | _ => false

/-- Pieces of a text, given the reversed text before it, the piece under way and its kind. -/
def piecesFrom (before piece : List Char) (kind : Piece) : List Char → List (List Char)
  | [] => [piece.reverse]
  | c :: rest =>
    let before := c :: before
    let piece := c :: piece
    if rest.isEmpty then [piece.reverse]
    else if pieceEnds kind before rest then
      piece.reverse :: piecesFrom before [] (pieceKind before rest) rest
    else piecesFrom before piece kind rest

/-- The pieces a text may be cut between. -/
def pieces : List Char → List (List Char)
  | [] => []
  | text => piecesFrom [] [] (pieceKind [] text) text

/-- The first pieces that fit into a width, last first, and the pieces that are left. -/
def takeFitting (width : Nat) :
    List (List Char) → List (List Char) → List (List Char) × List (List Char)
  | taken, [] => (taken, [])
  | taken, piece :: rest =>
    if piece.length ≤ width then takeFitting (width - piece.length) (piece :: taken) rest
    else (taken, piece :: rest)

/-- Position of the last hyphen of a text. -/
def lastHyphen? (text : List Char) : Option Nat :=
  (text.reverse.findIdx? (· == '-')).map (text.length - 1 - ·)

/-- How much of a piece that is too long for a line goes on it when `space` columns are left. -/
def cutLength (space : Nat) (piece : List Char) : Nat :=
  match lastHyphen? (piece.take space) with
  | some position =>
    if position > 0 && (piece.take position).any (· != '-') then position + 1 else space
  | none => space

/-- Drops last pieces until the rest does not end in blanks and leaves room for the ellipsis. -/
def makeRoom (width : Nat) : List (List Char) → List (List Char)
  | [] => []
  | piece :: earlier =>
    if !(strip piece).isEmpty && (piece :: earlier).flatten.length + 1 ≤ width then piece :: earlier
    else makeRoom width earlier

/-- The one line of a width, given the pieces of a text. -/
def fitLine (width : Nat) (parts : List (List Char)) : List Char :=
  match takeFitting width [] parts with
  | (taken, []) => taken.reverse.flatten
  | (taken, piece :: _) =>
    let used := taken.flatten.length
    let line :=
      if width < piece.length then piece.take (cutLength (width - used) piece) :: taken else taken
    (makeRoom width line).reverse.flatten ++ [ellipsis]

/-- Text fitted into a width, given its pieces. There has to be a width, with room for the
ellipsis. -/
def fitPieces (width : Int) (parts : List (List Char)) : Except Failure (List Char) :=
  if width ≤ 0 then .error (.value ("invalid width " ++ toString width ++ " (must be > 0)"))
  else if width < [ellipsis].length then .error (.value "placeholder too large for max width")
  else .ok (fitLine width.toNat parts)

/-- Text with single spaces, fitted into a width; without a width nothing is left. -/
def shortenChars (text : List Char) (width : Int) : Except Failure (List Char) :=
  if width ≤ 0 then .ok [] else fitPieces width (pieces (singleSpaced text))

/-- A string with single spaces, fitted into a width. -/
def shorten (text : String) (width : Int) : Except Failure String :=
  (shortenChars text.toList width).map String.ofList

end RepoCatalog.Text
