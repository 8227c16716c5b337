import RepoCatalog.Process.Shell.Syntax

/-!
# The source of a script

What is still to be read of a script, token by token at most one ahead, and the here-documents that
its lines announce. Bodies of here-documents follow the line that announces them.
-/

namespace RepoCatalog.Shell

/-- A lexical unit of a script. -/
inductive Token
  | word (word : Word)
  | operator (text : String)
  | redirect (descriptor : Option Nat) (kind : String)
  | newline
  | finish

/-- A here-document whose body has not been read. -/
structure Announced where
  /-- Number of the document. -/
  number : Nat
  /-- Line that ends it. -/
  delimiter : Octets
  /-- Whether its body is expanded. -/
  expands : Bool
  /-- Whether tabs at the beginning of its lines are taken away. -/
  stripsTabs : Bool

/-- A word that is being read in place of its name. -/
structure Substituted where
  /-- The name. -/
  name : Octets
  /-- How much of the script is left when the word has been read. -/
  left : Nat
  /-- Whether the word behind it may be a name, too. -/
  goesOn : Bool

/-- What is left of a script. -/
structure Source where
  /-- Text that has not been read. -/
  rest : Octets
  /-- Token that was read ahead. -/
  ahead : Option Token
  /-- Documents whose bodies follow the present line. -/
  announced : List Announced
  /-- Bodies of the documents read so far, by number. -/
  documents : List (Nat × Word)
  /-- Number of the next document. -/
  next : Nat
  /-- Number of the last line. -/
  lastLine : Nat
  /-- Names and the words that are read in place of them. -/
  aliases : List (Octets × Octets)
  /-- Words that are being read in place of names. -/
  substituted : List Substituted

/-- Why a script is not well formed, and on which line that was found. -/
structure Malformed where
  /-- The line. -/
  line : Nat
  /-- The reason. -/
  message : Octets
  deriving DecidableEq, Repr

/-- A reader of a script; it fails where the script is not well formed. -/
abbrev Reader := StateT Source (Except Malformed)

namespace Source

/-- A script that begins. -/
def ofText (text : Octets) : Source :=
  ⟨text, none, [], [], 0, text.count '\n' + 1, [], []⟩

/-- Number of the present line. -/
def line (source : Source) : Nat :=
  source.lastLine - source.rest.count '\n'

/-- Whether nothing but the end was read ahead. -/
def isFinished (source : Source) : Bool :=
  match source.ahead with
  | some .finish => true
  | _ => false

end Source

/-- Lines up to a delimiter, and the text behind it; `unchecked` says that a line continues the one
before it. Fuel bounds the number of lines. -/
def takeDocument (announced : Announced) : Nat → Bool → Octets → Octets × Octets
  | 0, _, text => ([], text)
  | _ + 1, _, [] => ([], [])
  | fuel + 1, unchecked, text =>
    let (line, rest) := text.span (· != '\n')
    let line := if announced.stripsTabs then line.dropWhile (· == '\t') else line
    if !unchecked && line == announced.delimiter then ([], rest.drop 1)
    else
      let backslashes := (line.reverse.takeWhile (· == '\\')).length
      let (more, left) :=
        takeDocument announced fuel (announced.expands && backslashes % 2 == 1) (rest.drop 1)
      (line ++ rest.take 1 ++ more, left)

namespace Reader

/-- Text without escaped line breaks in front; fuel bounds their number. -/
def joined : Nat → Octets → Octets
  | 0, text => text
  | fuel + 1, '\\' :: '\n' :: rest => joined fuel rest
  | _ + 1, text => text

/-- Stops with a reason. -/
def refuse {α : Type} (message : Octets) : Reader α := do
  throw ⟨(← get).line, message⟩

/-- The rest of the script, without escaped line breaks in front. -/
def restJoined : Reader Octets := do
  let source ← get
  let rest := joined source.rest.length source.rest
  set { source with rest := rest }
  return rest

/-- Goes on behind some text. -/
def goOn (rest : Octets) : Reader Unit :=
  modify fun source => { source with rest := rest }

/-- Goes on behind the next character, which does not begin a line even if it is a line break. -/
def skip : Reader Unit :=
  modify fun source =>
    { source with
      rest := source.rest.drop 1
      lastLine := if source.rest.head? = some '\n' then source.lastLine - 1 else source.lastLine }

/-- Puts a token back. -/
def putBack (token : Token) : Reader Unit :=
  modify fun source => { source with ahead := some token }

/-- Reads from another text, and goes on with the present one behind it. -/
def inside {α : Type} (text : Octets) (action : Reader α) : Reader α := do
  let outer ← get
  set { outer with
    rest := text, ahead := none, announced := [], lastLine := outer.line + text.count '\n'
    substituted := [] }
  let result ← action
  modify fun inner =>
    { inner with
      rest := outer.rest, ahead := outer.ahead, announced := outer.announced
      lastLine := outer.lastLine, substituted := outer.substituted }
  return result

/-- Forgets the words that have been read to their end, and tells whether the next word may be a
name because of one of them. -/
def leaveSubstituted : Reader Bool := do
  let source ← get
  let (ended, open') := source.substituted.partition fun word => source.rest.length ≤ word.left
  set { source with substituted := open' }
  return ended.any (·.goesOn)

/-- Goes on with the word that is read in place of a name, if there is one that is not being read
already. -/
def substitute (name : Octets) : Reader Bool := do
  let source ← get
  match source.aliases.lookup name with
  | none => return false
  | some text =>
    if source.substituted.any (·.name = name) then return false
    else
      let goesOn := text.getLast?.any fun c => c == ' ' || c == '\t'
      set { source with
        rest := text ++ source.rest, lastLine := source.lastLine + text.count '\n'
        substituted := ⟨name, source.rest.length, goesOn⟩ :: source.substituted }
      return true

/-- Announces a here-document and gives its number. -/
def announce (delimiter : Octets) (expands stripsTabs : Bool) : Reader Nat := do
  let source ← get
  let announced : Announced := ⟨source.next, delimiter, expands, stripsTabs⟩
  set { source with next := source.next + 1, announced := source.announced ++ [announced] }
  return source.next

end Reader

end RepoCatalog.Shell
