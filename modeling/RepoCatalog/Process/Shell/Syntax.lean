import RepoCatalog.Process.Octets

/-!
# Shell scripts

What a script of the shell consists of. A word is a list of pieces, which expand to text; commands
are built from words, redirections and other commands. The bodies of here-documents stand apart from
the commands that read them and are found by their numbers.
-/

namespace RepoCatalog.Shell

mutual

/-- Part of a word. Pieces between double quotes are kept from splitting. -/
inductive Piece
  | plain (text : Octets)
  | quoted (text : Octets)
  | parameter (inQuotes : Bool) (name : Octets) (form : Form)
  | command (inQuotes : Bool) (script : Option Command)
  | arithmetic (inQuotes : Bool) (expression : List Piece)

/-- What is taken of a parameter: its value, its length, its value or another word if it is unset, a
word if it is set, or its value without a part that fits a pattern. -/
inductive Form
  | value
  | length
  | default (whenEmpty : Bool) (word : List Piece)
  | assign (whenEmpty : Bool) (word : List Piece)
  | demand (whenEmpty : Bool) (word : List Piece)
  | instead (whenEmpty : Bool) (word : List Piece)
  | cut (atEnd longest : Bool) (pattern : List Piece)
  | senseless

/-- Where a descriptor leads. -/
inductive Redirection
  | read (descriptor : Nat) (file : List Piece)
  | write (descriptor : Nat) (file : List Piece) (force : Bool)
  | append (descriptor : Nat) (file : List Piece)
  | readWrite (descriptor : Nat) (file : List Piece)
  | duplicate (descriptor : Nat) (source : List Piece)
  | here (descriptor : Nat) (document : Nat)

/-- A command; some kinds of commands remember their line. -/
inductive Command
  | simple (line : Nat) (assignments : List (Octets × List Piece)) (words : List (List Piece))
      (redirections : List Redirection)
  | pipeline (parts : List Command)
  | negate (command : Command)
  | both (first second : Command)
  | either (first second : Command)
  | sequence (first second : Command)
  | background (command : Command)
  | subshell (line : Nat) (body : Command) (redirections : List Redirection)
  | redirected (line : Nat) (body : Command) (redirections : List Redirection)
  | each (line : Nat) (name : Octets) (words : List (List Piece)) (body : Command)
  | loop (untilTrue : Bool) (test body : Command)
  | branch (test yes : Command) (no : Option Command)
  | choose (line : Nat) (subject : List Piece) (cases : List (List (List Piece) × Option Command))
  | define (line : Nat) (name : Octets) (body : Command)

end

/-- A word of a script. -/
abbrev Word := List Piece

instance : Inhabited Command := ⟨.simple 0 [] [] []⟩

/-- Whether a character may begin the name of a variable. -/
def startsName (c : Char) : Bool :=
  ('a' ≤ c && c ≤ 'z') || ('A' ≤ c && c ≤ 'Z') || c == '_'

/-- Whether a character may stand in the name of a variable. -/
def inName (c : Char) : Bool :=
  startsName c || c.isDigit

/-- Whether a text is the name of a variable. -/
def isName (text : Octets) : Bool :=
  (text.head?.map startsName).getD false && text.all inName

/-- Whether a character is the name of a parameter by itself. -/
def isSpecial (c : Char) : Bool :=
  ['*', '@', '#', '?', '-', '$', '!'].contains c || c.isDigit

/-- Words that shape commands where a command may begin. -/
def keywords : List String :=
  ["!", "\x7b", "\x7d", "case", "do", "done", "elif", "else", "esac", "fi", "for", "if", "in",
    "then", "until", "while"]

end RepoCatalog.Shell
