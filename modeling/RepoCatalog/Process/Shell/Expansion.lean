import RepoCatalog.File.Directories
import RepoCatalog.Process.Pattern
import RepoCatalog.Process.Shell.Arithmetic
import RepoCatalog.Process.Shell.Script
import RepoCatalog.Text.Blank
import RepoCatalog.UserHomes

/-!
# Expansion

What becomes of the words of a script: parameters, arithmetic and the output of commands are
inserted; what was inserted outside quotes is split at separators; and patterns are replaced by the
names of files that fit them.
-/

namespace RepoCatalog.Shell

open Act

/-- Part of an expanded word: a character, a mark that there is a field even if it is empty, or a
gap between two arguments. -/
inductive Glyph
  | char (c : Char) (quoted splits : Bool)
  | mark
  | gap
  deriving DecidableEq, Repr

/-- Text that stands for itself. -/
def quotedGlyphs (text : Octets) : List Glyph :=
  .mark :: text.map (.char · true false)

/-- Inserted text. -/
def insertedGlyphs (inQuotes : Bool) (text : Octets) : List Glyph :=
  text.map fun c => .char c inQuotes (!inQuotes)

/-- Arguments as parts of a word. -/
def argumentGlyphs (inQuotes : Bool) (arguments : List Octets) : List Glyph :=
  [Glyph.gap].intercalate (arguments.map fun argument =>
    (if inQuotes then [.mark] else []) ++ insertedGlyphs inQuotes argument)

/-- Text of an expanded word that is not split; gaps become the first separator. -/
def glyphText (separators : Octets) (glyphs : List Glyph) : Octets :=
  glyphs.flatMap fun
    | .char c _ _ => [c]
    | .mark => []
    | .gap => separators.take 1

/-- Cells of an expanded word that is not split. -/
def glyphCells (separators : Octets) (glyphs : List Glyph) : List Cell :=
  glyphs.flatMap fun
    | .char c quoted _ => [⟨c, quoted⟩]
    | .mark => []
    | .gap => (separators.take 1).map (⟨·, false⟩)

/-- Fields found so far. -/
structure Fields where
  /-- Complete fields, last first. -/
  complete : List (List Cell)
  /-- Field under way, reversed. -/
  current : Option (List Cell)
  /-- Whether one more separator still belongs to the end of the last field. -/
  absorbs : Bool

namespace Fields

/-- Fields after the present one ended. -/
def finish (fields : Fields) : Fields :=
  match fields.current with
  | some cells => ⟨cells.reverse :: fields.complete, none, false⟩
  | none => fields

/-- Fields after one more part of a word. -/
def add (separators : Octets) (fields : Fields) : Glyph → Fields
  | .mark => { fields with current := some (fields.current.getD []), absorbs := false }
  | .gap => { fields.finish with absorbs := false }
  | .char c quoted splits =>
    if splits && separators.contains c then
      if standardSeparators.contains c then
        match fields.current with
        | some _ => { fields.finish with absorbs := true }
        | none => fields
      else
        match fields.current with
        | some _ => fields.finish
        | none =>
          if fields.absorbs then { fields with absorbs := false }
          else { fields with complete := [] :: fields.complete }
    else { fields with current := some (⟨c, quoted⟩ :: fields.current.getD []), absorbs := false }

end Fields

/-- Fields of an expanded word. -/
def splitFields (separators : Octets) (glyphs : List Glyph) : List (List Cell) :=
  (glyphs.foldl (Fields.add separators) ⟨[], none, false⟩).finish.complete.reverse

/-! ## Names of files -/

/-- Components of a pattern for paths; slashes stand by themselves. -/
def pathComponents : List Cell → List (List Cell)
  | [] => [[]]
  | cell :: rest =>
    match pathComponents rest with
    | part :: others => if cell.char = '/' then [] :: part :: others else (cell :: part) :: others
    | [] => [[cell]]

/-- Paths that fit the components of a pattern, behind a path that leads to a directory. -/
def matchingPaths (files : FileTree) : Octets → List (List Cell) → List Octets
  | _, [] => []
  | base, component :: rest =>
    let pattern := Pattern.ofCells component
    let text := (Pattern.resolveEscapes component).map (·.char)
    if !pattern.isOpen then
      let path := base ++ text
      if rest.isEmpty then
        match files.resolve .keep (Octets.toString path) with
        | .ok (.present _ _) => [path]
        | _ => []
      else matchingPaths files (path ++ ['/']) rest
    else
      let directory := if base.isEmpty then "." else Octets.toString base
      match files.resolve .follow directory with
      | .ok (.present place .directory) =>
        let names := (["." , ".."] ++ files.namesIn place).map Octets.ofString
        let fitting := names.filter fun name =>
          (name.head? ≠ some '.' || pattern.head? = some (.exactly '.')) && pattern.fits name
        if rest.isEmpty then fitting.map (base ++ ·)
        else fitting.flatMap fun name => matchingPaths files (base ++ name ++ ['/']) rest
      | _ => []

/-- Names that a field stands for: those of files that fit it, or else its text. -/
def fieldNames (files : FileTree) (field : List Cell) : List Octets :=
  let bare := field.any fun cell => !cell.quoted && ['*', '?', '['].contains cell.char
  match if bare then matchingPaths files [] (pathComponents field) else [] with
  | [] => [field.map (·.char)]
  | paths => Octets.sort paths

/-! ## Home directories -/

/-- Home directory of a user; without a name, the one that the shell was told. -/
def homeDirectory? (user : Octets) : Act (Option Octets) := do
  if user.isEmpty then value? "HOME"
  else return (userHomes.lookup (Octets.toString user)).map Octets.ofString

/-- Plain text with the home directory at its beginning spelled out, and what is left of it;
`isLast` says that the word ends with the text. -/
def takeHome (inAssignment isLast : Bool) (text : Octets) : Act (List Glyph × Octets) := do
  match text with
  | '~' :: rest =>
    let ends (c : Char) : Bool := c == '/' || (inAssignment && c == ':')
    let (user, left) := rest.span fun c => !ends c
    if left.isEmpty && !isLast then return ([], text)
    else
      match ← homeDirectory? user with
      | some home => return (quotedGlyphs home, left)
      | none => return ([], text)
  | _ => return ([], text)

/-- Plain text; where homes are spelled out, they may stand at its beginning, and in assignments
behind colons too. Fuel bounds the number of colons. -/
def plainGlyphs (splits inAssignment isLast : Bool) : Nat → Bool → Octets → Act (List Glyph)
  | 0, _, text => return text.map (.char · false splits)
  | fuel + 1, homes, text => do
    let (home, text) ← if homes then takeHome inAssignment isLast text else pure ([], text)
    if inAssignment then
      let (before, rest) := text.span (· != ':')
      let shown := home ++ before.map (.char · false splits)
      match rest with
      | colon :: rest =>
        return shown ++ .char colon false splits
          :: (← plainGlyphs splits inAssignment isLast fuel true rest)
      | [] => return shown
    else return home ++ text.map (.char · false splits)

/-! ## Parameters -/

/-- Output of commands, without the line breaks at its end. -/
def outputOf (runner : Runner) (script : Option Command) : Act Octets := do
  match script with
  | none => return []
  | some script =>
    let stream ← addStream ⟨.buffer [], 0, true, true, true⟩
    let outcome ← inSubshell runner do
      connect 1 (some stream)
      runner.command script ⟨false, true⟩
    change fun process =>
      { process with insertedStatus := outcome.status, status := outcome.status }
    match (← get).system.streams[stream]? with
    | some ⟨.buffer content, _, _, _, _⟩ =>
      return Text.dropEndWhile (· == '\n') (content.filter (· != '\x00'))
    | _ => return []

/-- Value of a parameter, if it is set: all arguments at once, or one text. -/
inductive Value
  | all (separated : Bool) (arguments : List Octets)
  | one (text : Octets)

namespace Value

/-- Whether a value is empty. -/
def isEmpty : Value → Bool
  | .all _ arguments => arguments.all (·.isEmpty) && arguments.length ≤ 1
  | .one text => text.isEmpty

/-- A value as one text. -/
def joined (separators : Octets) : Value → Octets
  | .all _ arguments => Octets.join (separators.take 1) arguments
  | .one text => text

/-- A value as part of a word. -/
def glyphs (separators : Octets) (inQuotes : Bool) : Value → List Glyph
  | .all separated arguments =>
    if separated || !inQuotes then argumentGlyphs inQuotes arguments
    else insertedGlyphs true (Octets.join (separators.take 1) arguments)
  | .one text => insertedGlyphs inQuotes text

end Value

/-- Value of a parameter that is set. -/
def valueOf? (name : Octets) : Act (Option Value) := do
  let arguments := (← process).arguments
  let list (separated : Bool) : Option Value :=
    if arguments.isEmpty then none else some (.all separated arguments)
  match name with
  | ['@'] => return list true
  | ['*'] => return list false
  | name => return (← parameter? name).map .one

/-- Stops if a parameter has to be set and is not. -/
def refuseUnset (name : Octets) : Act Unit := do
  if (← process).options.contains 'u' && name ≠ ['@'] && name ≠ ['*'] then
    fail (name ++ ": parameter not set")

mutual

/-- Expands the pieces of a word one after the other. `nested` says that they stand within a
parameter outside quotes, and `homes` that a home directory may come first. -/
def expandPieces (runner : Runner) (nested inAssignment : Bool) :
    Bool → List Piece → Act (List Glyph)
  | _, [] => return []
  | homes, piece :: rest => do
    let first ← expandPiece runner nested inAssignment homes rest.isEmpty piece
    let homes := match piece with
      | .plain text => inAssignment && text.getLast? = some ':'
      | _ => false
    return first ++ (← expandPieces runner nested inAssignment homes rest)

/-- Expands one piece of a word. -/
def expandPiece (runner : Runner) (nested inAssignment homes isLast : Bool) :
    Piece → Act (List Glyph)
  | .plain text => plainGlyphs nested inAssignment isLast (text.length + 1) homes text
  | .quoted text => return quotedGlyphs text
  | .command inQuotes script => return insertedGlyphs inQuotes (← outputOf runner script)
  | .arithmetic inQuotes expression => do
    let glyphs ← expandPieces runner false false false expression
    let text := glyphText (← separators) glyphs
    match Expression.ofText text with
    | .ok expression => return insertedGlyphs inQuotes (Octets.ofInt (← expression.evaluate text))
    | .error message => fail (Expression.complaint text message)
  | .parameter inQuotes name form => expandForm runner inQuotes name form

/-- Expands what is taken of a parameter. -/
def expandForm (runner : Runner) (inQuotes : Bool) (name : Octets) : Form → Act (List Glyph)
  | .value => do
    match ← valueOf? name with
    | some value => return value.glyphs (← separators) inQuotes
    | none =>
      refuseUnset name
      return []
  | .length => do
    match ← valueOf? name with
    | some value =>
      return insertedGlyphs inQuotes (Octets.ofNat (value.joined (← separators)).length)
    | none =>
      refuseUnset name
      return insertedGlyphs inQuotes ['0']
  | .default whenEmpty word => do
    match (← valueOf? name).filter fun value => !(whenEmpty && value.isEmpty) with
    | some value => return value.glyphs (← separators) inQuotes
    | none => expandPieces runner (!inQuotes) false (!inQuotes) word
  | .assign whenEmpty word => do
    match (← valueOf? name).filter fun value => !(whenEmpty && value.isEmpty) with
    | some value => return value.glyphs (← separators) inQuotes
    | none =>
      let glyphs ← expandPieces runner (!inQuotes) false (!inQuotes) word
      let text := glyphText (← separators) glyphs
      if !isName name then fail (name ++ ": bad variable name")
      setVariable name text
      return insertedGlyphs inQuotes text
  | .demand whenEmpty word => do
    match (← valueOf? name).filter fun value => !(whenEmpty && value.isEmpty) with
    | some value => return value.glyphs (← separators) inQuotes
    | none =>
      let glyphs ← expandPieces runner (!inQuotes) false (!inQuotes) word
      let text := glyphText (← separators) glyphs
      let standard : Octets :=
        if whenEmpty then "parameter not set or null" else "parameter not set"
      fail (name ++ ": " ++ if word.isEmpty then standard else text)
  | .instead whenEmpty word => do
    match (← valueOf? name).filter fun value => !(whenEmpty && value.isEmpty) with
    | some _ => expandPieces runner (!inQuotes) false (!inQuotes) word
    | none => return []
  | .cut atEnd longest pattern => do
    match ← valueOf? name with
    | none =>
      refuseUnset name
      return []
    | some value =>
      let cells := glyphCells (← separators) (← expandPieces runner false false true pattern)
      return insertedGlyphs inQuotes
        ((Pattern.ofCells cells).cut atEnd longest (value.joined (← separators)))
  | .senseless => fail "Bad substitution"

end

/-! ## Words -/

/-- Texts that a word of a command stands for. -/
def expandWord (runner : Runner) (word : Word) : Act (List Octets) := do
  let glyphs ← expandPieces runner false false true word
  let fields := splitFields (← separators) glyphs
  if (← process).options.contains 'f' then return fields.map (·.map (·.char))
  else
    let files ← files
    return fields.flatMap (fieldNames files)

/-- The one text that a word stands for where words are not split. -/
def expandText (runner : Runner) (word : Word) : Act Octets := do
  return glyphText (← separators) (← expandPieces runner false false true word)

/-- The text that an assignment gives a variable. -/
def expandAssigned (runner : Runner) (word : Word) : Act Octets := do
  return glyphText (← separators) (← expandPieces runner false true true word)

/-- The text that a text stands for where it is expanded by itself. -/
def expandTemplate (runner : Runner) (text : Octets) : Act Octets := do
  let source := Source.ofText text
  match (readPieces source.fuel .document []).run source with
  | .ok (word, _) => expandText runner word
  | .error _ => return text

/-- The pattern that a word stands for. -/
def expandPattern (runner : Runner) (word : Word) : Act Pattern := do
  let glyphs ← expandPieces runner false false true word
  return Pattern.ofCells (glyphCells (← separators) glyphs)

end RepoCatalog.Shell
