import RepoCatalog.Process.Condition
import RepoCatalog.Process.Printf
import RepoCatalog.Process.Shell.Builtin.Basic

/-!
# Builtin commands for text

Commands that write text, read it, or decide conditions on it.
-/

namespace RepoCatalog.Shell.Builtin

open Act

/-- Escapes that `echo` replaces. -/
def echoEscapes : Escape.Style := ⟨true, false, false, true⟩

/-- Writes arguments. -/
def echo (_ : Runner) (_ : Mode) (arguments : List Octets) : Act Nat := do
  let (silent, arguments) := match arguments with
    | ['-', 'n'] :: rest => (true, rest)
    | arguments => (false, arguments)
  let (text, ends) := Escape.unescape echoEscapes (Octets.join [' '] arguments)
  write (if silent || ends then text else text ++ ['\n'])

/-- Writes formatted arguments. -/
def printf (_ : Runner) (_ : Mode) (arguments : List Octets) : Act Nat := do
  match ← noOptions arguments with
  | [] => fail "usage: printf format [arg ...]"
  | format :: arguments =>
    let printed := Printf.print .builtin format arguments
    printed.complaints.forM report
    let status ← write printed.text
    match printed.malformed with
    | some message => fail message
    | none => return if printed.complaints.isEmpty then status else 1

/-- Decides a condition. -/
def test (_ : Runner) (_ : Mode) (arguments : List Octets) : Act Nat := do
  match Condition.decide ⟨true, ← files⟩ arguments with
  | .ok holds => return if holds then 0 else 1
  | .error message => fail message

/-- Decides a condition in brackets. -/
def bracket (runner : Runner) (mode : Mode) (arguments : List Octets) : Act Nat :=
  if arguments.getLast? = some [']'] then test runner mode arguments.dropLast
  else fail "missing ]"

/-! ## Reading lines -/

/-- A character that was read, and whether it may separate words. -/
abbrev Read := Char × Bool

/-- A line at the beginning of a text, how many characters belong to it, and whether it was ended;
`raw` says that backslashes stand for themselves. -/
def takeLine (raw : Bool) : Octets → List Read × Nat × Bool
  | [] => ([], 0, false)
  | '\n' :: _ => ([], 1, true)
  | '\x00' :: rest =>
    let (line, count, ended) := takeLine raw rest
    (line, count + 1, ended)
  | '\\' :: rest =>
    if raw then
      let (line, count, ended) := takeLine raw rest
      (('\\', true) :: line, count + 1, ended)
    else
      match rest with
      | [] => ([], 1, false)
      | c :: rest =>
        let (line, count, ended) := takeLine raw rest
        (if c == '\n' then line else (c, false) :: line, count + 2, ended)
  | c :: rest =>
    let (line, count, ended) := takeLine raw rest
    ((c, true) :: line, count + 1, ended)

/-- Whether a character that was read separates words. -/
def separates (separators : Octets) (read : Read) : Bool :=
  read.2 && separators.contains read.1

/-- Whether a character that was read is a blank that separates words. -/
def isGap (separators : Octets) (read : Read) : Bool :=
  separates separators read && standardSeparators.contains read.1

/-- First word of a line that begins with no gap, and what follows the end of that word. -/
def takeWord (separators : Octets) (line : List Read) : List Read × List Read :=
  let gap := isGap separators
  let (word, rest) := line.span fun read => !separates separators read
  let rest := rest.dropWhile gap
  match rest with
  | read :: behind =>
    if separates separators read then (word, behind.dropWhile gap) else (word, rest)
  | [] => (word, [])

/-- What the last of several variables gets: one word without its end, or all words that are
left. -/
def lastWords (separators : Octets) (line : List Read) : Octets :=
  let (word, rest) := takeWord separators line
  if rest.isEmpty then word.map (·.1)
  else (line.reverse.dropWhile (isGap separators)).reverse.map (·.1)

/-- Gives the words of a line to variables. -/
def assignWords (separators : Octets) : List Octets → List Read → Act Unit
  | [], _ => pure ()
  | [name], line => setVariable name (lastWords separators line)
  | name :: names, line => do
    let (word, rest) := takeWord separators line
    setVariable name (word.map (·.1))
    assignWords separators names rest

/-- Reads a line into variables. -/
def read (_ : Runner) (_ : Mode) (arguments : List Octets) : Act Nat := do
  let (options, names) ← options [('p', true), ('r', false)] arguments
  if names.isEmpty then fail "arg count"
  let text := (← unread 0).toOption.getD []
  let (line, count, ended) := takeLine (options.any (·.1 = 'r')) text
  skip 0 count
  let separators ← separators
  assignWords separators names (line.dropWhile (isGap separators))
  return if ended then 0 else 1

end RepoCatalog.Shell.Builtin
