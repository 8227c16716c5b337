/-!
# Blank characters

The characters that separate words, and the trimming and splitting built on them.
-/

namespace RepoCatalog.Text

/-- Code points of the characters that separate words. -/
def blankCodes : List Nat :=
  [9, 10, 11, 12, 13, 28, 29, 30, 31, 32, 133, 160, 5760, 8192, 8193, 8194, 8195, 8196, 8197, 8198,
  8199, 8200, 8201, 8202, 8232, 8233, 8239, 8287, 12288]

/-- Whether a character separates words. -/
def isBlank (c : Char) : Bool :=
  blankCodes.contains c.toNat

/-- Text without the characters at its end that satisfy a test. -/
def dropEndWhile (drop : Char → Bool) (text : List Char) : List Char :=
  (text.reverse.dropWhile drop).reverse

/-- Text without its outer blanks. -/
def strip (text : List Char) : List Char :=
  dropEndWhile isBlank (text.dropWhile isBlank)

/-- A string without its outer blanks. -/
def trim (text : String) : String :=
  String.ofList (strip text.toList)

/-- Whether text begins inside a word. -/
def startsWord : List Char → Bool
  | [] => false
  | c :: _ => !isBlank c

/-- The maximal runs of characters that are not blank. -/
def words : List Char → List (List Char)
  | [] => []
  | c :: rest =>
    if isBlank c then words rest
    else if startsWord rest then
      match words rest with
      | word :: others => (c :: word) :: others
      | [] => [[c]]
    else [c] :: words rest

/-- The words of a text, one space between neighbours. -/
def singleSpaced (text : List Char) : List Char :=
  [' '].intercalate (words text)

@[simp] theorem words_nil : words [] = [] := rfl

theorem words_blank {c : Char} (blank : isBlank c = true) (rest : List Char) :
    words (c :: rest) = words rest := by
  simp [words, blank]

end RepoCatalog.Text
