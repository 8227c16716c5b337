import RepoCatalog.Process.Pattern
import RepoCatalog.Process.Regex
import RepoCatalog.Process.Tool.Batch
import RepoCatalog.Process.Tool.Paths

/-!
# Finding files

An expression of tests and actions is evaluated for every file below some paths, a directory before
its content unless the expression removes files.
-/

namespace RepoCatalog.Tool

open Act

namespace Find

/-- How a number is compared with a wanted one. -/
structure Amount where
  /-- `gt` for more than the number, `lt` for less, `eq` for exactly as much. -/
  order : Ordering
  /-- The number. -/
  number : Nat
  deriving DecidableEq, Repr

/-- Whether a number is as wanted. -/
def Amount.fits (amount : Amount) (n : Nat) : Bool :=
  compare n amount.number = amount.order

/-- A question about a file. -/
inductive Test
  | always
  | never
  | name (folds : Bool) (pattern : Octets)
  | path (folds : Bool) (pattern : Octets)
  | expression (folds : Bool) (regex : Regex)
  | linkTarget (pattern : Octets)
  | kind (letters : Octets)
  | empty
  | size (unit : Nat) (amount : Amount)
  | age (amount : Amount)
  | links (amount : Amount)
  | mode (sign : Char) (bits : Nat)
  | executable

/-- Something that is done with a file. -/
inductive Action
  | print (ending : Char)
  | printf (format : Octets)
  | delete
  | prune
  | quit
  | execute (command : List Octets)
  | collect (command : List Octets)

/-- An expression. -/
inductive Expression
  | test (question : Test)
  | action (deed : Action)
  | negated (inner : Expression)
  | both (first second : Expression)
  | either (first second : Expression)
  | sequence (first second : Expression)

/-- What concerns a search as a whole. -/
structure Settings where
  /-- Greatest depth of what is looked at. -/
  deepest : Option Nat
  /-- Least depth of what is looked at. -/
  shallowest : Nat
  /-- Whether the content of a directory comes before it. -/
  contentFirst : Bool
  /-- Whether links are followed. -/
  follows : Bool

/-- What is being read: the arguments that are left, and what concerns the search as a whole. -/
structure Reading where
  /-- Arguments that are left. -/
  left : List Octets
  /-- What concerns the search as a whole. -/
  settings : Settings

/-- A reader of arguments, which may be refused with a message. -/
abbrev Reader := StateT Reading (Except Octets)

/-- Refuses the arguments. -/
def refuse {α : Type} (message : Octets) : Reader α := throw message

/-- Takes the argument of an option. -/
def value (option : Octets) : Reader Octets := do
  let reading ← get
  match reading.left with
  | [] => refuse ("missing argument to `" ++ option ++ ['\x27'])
  | value :: left =>
    set { reading with left := left }
    return value

/-- Takes the number that an option wants. -/
def amount (option : Octets) : Reader (Amount × Octets) := do
  let text ← value option
  let (order, body) : Ordering × Octets := match text with
    | '+' :: body => (.gt, body)
    | '-' :: body => (.lt, body)
    | body => (.eq, body)
  let digits := body.takeWhile Char.isDigit
  if digits.isEmpty then
    refuse ("invalid argument `" ++ text ++ "' to `" ++ option ++ ['\x27'])
  return (⟨order, Shell.number digits⟩, body.drop digits.length)

/-- Takes the depth that an option wants. -/
def depth (option : Octets) : Reader Nat := do
  let text ← value option
  match natural? text with
  | some depth => return depth
  | none =>
    refuse ("Expected a positive decimal integer argument to " ++ option ++ ", but got "
      ++ quoted text)

/-- Takes a command up to its end; fuel bounds its length. -/
def command (option : Octets) : Nat → List Octets → Reader Expression
  | 0, _ => refuse ("missing argument to `" ++ option ++ ['\x27'])
  | fuel + 1, words => do
    let word ← value option
    if word = [';'] then
      if words.isEmpty then refuse ("missing argument to `" ++ option ++ ['\x27'])
      return .action (.execute words)
    else if word = ['+'] && words.getLast? = some "\x7b\x7d" then
      return .action (.collect words.dropLast)
    else command option fuel (words ++ [word])

/-- Reads the test or action that an argument names. -/
def primary (option : Octets) : Reader Expression := do
  let change (edit : Settings → Settings) : Reader Expression := do
    modify fun reading => { reading with settings := edit reading.settings }
    return .test .always
  let wanted (make : Octets → Test) : Reader Expression := do
    return .test (make (← value option))
  match String.ofList option with
  | "-name" => wanted (.name false)
  | "-iname" => wanted (.name true)
  | "-path" | "-wholename" => wanted (.path false)
  | "-ipath" | "-iwholename" => wanted (.path true)
  | "-lname" => wanted .linkTarget
  | "-regex" | "-iregex" =>
    let text ← value option
    match Regex.ofText? false text with
    | some regex => return .test (.expression (option = "-iregex") regex)
    | none => refuse ("invalid regular expression " ++ quoted text)
  | "-regextype" | "-user" | "-group" | "-uid" | "-gid" | "-fstype" => wanted fun _ => .always
  | "-newer" | "-anewer" | "-cnewer" | "-samefile" => wanted fun _ => .never
  | "-type" | "-xtype" =>
    let text ← value option
    match text.find? fun c => ['b', 'c', 'd', 'p', 'f', 'l', 's', 'D', ','].all (· ≠ c) with
    | some c => refuse ("Unknown argument to " ++ option ++ ": " ++ [c])
    | none => return .test (.kind text)
  | "-empty" => return .test .empty
  | "-size" =>
    let (amount, unit) ← amount option
    let size := match unit with
      | ['c'] => 1
      | ['w'] => 2
      | ['k'] => 1024
      | ['M'] => 1048576
      | ['G'] => 1073741824
      | _ => 512
    return .test (.size size amount)
  | "-links" => return .test (.links (← amount option).1)
  | "-mtime" | "-atime" | "-ctime" | "-mmin" | "-amin" | "-cmin" =>
    return .test (.age (← amount option).1)
  | "-perm" =>
    let text ← value option
    let (sign, body) := match text with
      | '-' :: body => ('-', body)
      | '/' :: body => ('/', body)
      | body => ('=', body)
    match applyMode? 0 false body 0 with
    | some bits => return .test (.mode sign bits)
    | none => refuse ("invalid mode " ++ quoted text)
  | "-executable" => return .test .executable
  | "-readable" | "-writable" | "-true" | "-noleaf" | "-mount" | "-xdev" | "-daystart"
  | "-ignore_readdir_race" | "-warn" | "-nowarn" => return .test .always
  | "-false" => return .test .never
  | "-maxdepth" =>
    let depth ← depth option
    change fun settings => { settings with deepest := some depth }
  | "-mindepth" =>
    let depth ← depth option
    change fun settings => { settings with shallowest := depth }
  | "-depth" | "-d" => change fun settings => { settings with contentFirst := true }
  | "-follow" => change fun settings => { settings with follows := true }
  | "-print" => return .action (.print '\n')
  | "-print0" => return .action (.print '\x00')
  | "-printf" => return .action (.printf (← value option))
  | "-prune" => return .action .prune
  | "-quit" => return .action .quit
  | "-delete" =>
    let _ ← change fun settings => { settings with contentFirst := true }
    return .action .delete
  | "-exec" | "-execdir" | "-ok" | "-okdir" => command option ((← get).left.length + 1) []
  | _ =>
    if option.head? = some '-' then refuse ("unknown predicate `" ++ option ++ ['\x27'])
    else refuse ("paths must precede expression: `" ++ option ++ ['\x27'])

mutual

/-- Reads a list of alternatives, of which all are tried one after the other. -/
def readSequence : Nat → Reader Expression
  | 0 => refuse "expression too deep"
  | fuel + 1 => do
    let first ← readEither fuel
    match (← get).left with
    | [','] :: rest =>
      modify fun reading => { reading with left := rest }
      return .sequence first (← readSequence fuel)
    | _ => return first

/-- Reads alternatives. -/
def readEither : Nat → Reader Expression
  | 0 => refuse "expression too deep"
  | fuel + 1 => do
    let first ← readBoth fuel
    match (← get).left with
    | option :: rest =>
      if option = "-o" || option = "-or" then
        modify fun reading => { reading with left := rest }
        return .either first (← readEither fuel)
      else return first
    | [] => return first

/-- Reads what has to hold together. -/
def readBoth : Nat → Reader Expression
  | 0 => refuse "expression too deep"
  | fuel + 1 => do
    let first ← readOne fuel
    match (← get).left with
    | option :: rest =>
      if option = "-a" || option = "-and" then
        modify fun reading => { reading with left := rest }
        return .both first (← readBoth fuel)
      else if option = "-o" || option = "-or" || option = [','] || option = [')'] then return first
      else return .both first (← readBoth fuel)
    | [] => return first

/-- Reads a single test or action, or an expression in parentheses. -/
def readOne : Nat → Reader Expression
  | 0 => refuse "expression too deep"
  | fuel + 1 => do
    let reading ← get
    match reading.left with
    | [] => refuse "invalid expression; expected to find more"
    | option :: rest =>
      set { reading with left := rest }
      if option = ['!'] || option = "-not" then return .negated (← readOne fuel)
      else if option = ['('] then
        let inner ← readSequence fuel
        let reading ← get
        match reading.left with
        | [')'] :: rest =>
          set { reading with left := rest }
          return inner
        | _ =>
          refuse "invalid expression; I was expecting to find a ')' somewhere but did not see one."
      else if option = [')'] then refuse "invalid expression; you have too many ')'"
      else if ["-o", "-or", "-a", "-and", ","].contains (Octets.toString option) then
        refuse ("invalid expression; you have used a binary operator " ++ quoted option
          ++ " with nothing before it.")
      else primary option

end

/-- Whether an expression shows or does something by itself. -/
def Expression.acts : Expression → Bool
  | .test _ => false
  | .action .prune | .action .quit => false
  | .action _ => true
  | .negated inner => inner.acts
  | .both first second | .either first second | .sequence first second =>
    first.acts || second.acts

/-- A file that was found. -/
structure Found where
  /-- Path that leads to it. -/
  path : Octets
  /-- Path that the search began with. -/
  start : Octets
  /-- Where it is. -/
  place : Location
  /-- What it is. -/
  entry : Entry
  /-- How deep it is below the start. -/
  depth : Nat

/-- Letter of a kind of file. -/
def kindLetter : Entry → Char
  | .directory => 'd'
  | .link _ => 'l'
  | .device _ => 'c'
  | .file _ _ | .tool _ => 'f'

/-- Answer to a question about a file. -/
def Test.holds (files : FileTree) (found : Found) : Test → Bool
  | always => true
  | never => false
  | name folds pattern =>
    let text := lastName found.path []
    if folds then (Pattern.ofText (pattern.map Char.toLower)).fits (text.map Char.toLower)
    else (Pattern.ofText pattern).fits text
  | path folds pattern =>
    if folds then (Pattern.ofText (pattern.map Char.toLower)).fits (found.path.map Char.toLower)
    else (Pattern.ofText pattern).fits found.path
  | expression folds regex =>
    let whole : Regex := .sequence (.anchor .lineStart) (.sequence regex (.anchor .lineEnd))
    (Regex.find? folds whole found.path).isSome
  | linkTarget pattern =>
    match found.entry with
    | .link target => (Pattern.ofText pattern).fits (Octets.ofString target)
    | _ => false
  | kind letters => letters.contains (kindLetter found.entry)
  | empty =>
    match found.entry with
    | .file content _ => content.isEmpty
    | .directory => (files.namesIn found.place).isEmpty
    | _ => false
  | size unit amount => amount.fits ((entrySize found.entry + unit - 1) / unit)
  | age amount => amount.fits 0
  | links amount => amount.fits (Listing.linkCount files ⟨found.path, found.place, found.entry⟩)
  | mode sign bits =>
    let own := modeOf found.entry
    match sign with
    | '-' => own &&& bits = bits
    | '/' => bits = 0 || own &&& bits ≠ 0
    | _ => own = bits
  | executable => modeOf found.entry &&& 0o111 ≠ 0

/-- What a letter in a format stands for. -/
def field (files : FileTree) (found : Found) (c : Char) : Octets :=
  match c with
  | 'p' => found.path
  | 'f' => lastName found.path []
  | 'h' => if found.path.contains '/' then parentPath found.path else ['.']
  | 'H' => found.start
  | 'P' =>
    let rest := found.path.drop found.start.length
    if rest.head? = some '/' then rest.drop 1 else rest
  | 'd' => Octets.ofNat found.depth
  | 'y' | 'Y' => [kindLetter found.entry]
  | 'm' => Nat.toDigits 8 (modeOf found.entry)
  | 'M' => modeText found.entry
  | 'l' =>
    match found.entry with
    | .link target => Octets.ofString target
    | _ => []
  | c =>
    let letter := if c == 'n' then 'h' else if c == 'U' || c == 'G' then 'u' else
      if c == 'g' then 'U' else if c == 'u' then 'U' else c
    statField found.path ⟨found.path, found.place, found.entry⟩ files letter

/-- Text that a format writes about a file. -/
def formatted (files : FileTree) (found : Found) : Nat → Octets → Octets
  | 0, _ => []
  | _ + 1, [] => []
  | fuel + 1, '%' :: c :: rest => field files found c ++ formatted files found fuel rest
  | fuel + 1, '\\' :: c :: rest =>
    if c == 'c' then []
    else if Escape.startsCode 8 (c :: rest) then
      let (c, rest) := Escape.takeCode 8 3 (c :: rest)
      c :: formatted files found fuel rest
    else
      match Escape.letter? c with
      | some shown => shown :: formatted files found fuel rest
      | none => '\\' :: c :: formatted files found fuel rest
  | fuel + 1, c :: rest => c :: formatted files found fuel rest

/-- What is known between two files of a search. -/
structure Walk where
  /-- Whether the directory that was looked at last is left alone. -/
  pruned : Bool
  /-- Whether the search is over. -/
  stopped : Bool
  /-- Commands that are run at the end, with the paths that they are given. -/
  batches : List (List Octets × List Octets)
  /-- Status so far. -/
  status : Nat

/-- A step of a search. -/
abbrev Step := StateT Walk Act

/-- Whether a program that is run in a process of its own succeeds. -/
def succeeds (runner : Shell.Runner) (name : Octets) (words : List Octets) : Act Bool := do
  let outcome ← inChild (fun process => process) do finish (← replaceBy runner name [] words)
  return outcome = .exited 0

/-- Writes text that a search shows. -/
def shows (name text : Octets) : Step Bool := do
  let status ← write name text
  modify fun walk => { walk with status := worse walk.status status }
  return true

/-- Does something with a file; the answer tells whether that was possible. -/
def Action.run (runner : Shell.Runner) (name : Octets) (found : Found) : Action → Step Bool
  | .print ending => shows name (found.path ++ [ending])
  | .printf format => do
    let files ← (files : Act FileTree)
    shows name (formatted files found (format.length + 1) format)
  | .prune => do
    modify fun walk => { walk with pruned := true }
    return true
  | .quit => do
    modify fun walk => { walk with stopped := true }
    return true
  | .delete => do
    let files ← (files : Act FileTree)
    if found.path = ['.'] then return true
    else if found.entry = .directory && !(files.namesIn found.place).isEmpty then
      complain name (aboutFile "cannot delete" found.path .notEmpty)
      modify fun walk => { walk with status := 1 }
      return false
    else
      setFiles (files.remove found.place)
      return true
  | .execute words => do
    succeeds runner name
      (words.map fun word => replaceAll "\x7b\x7d" found.path (word.length + 1) word)
  | .collect words => do
    modify fun walk =>
      let known := (walk.batches.lookup words).getD []
      { walk with batches := assign words (known ++ [found.path]) walk.batches }
    return true

/-- Evaluates an expression for a file; after the end of the search nothing more is done. -/
def Expression.evaluate (runner : Shell.Runner) (name : Octets) (found : Found) :
    Expression → Step Bool
  | .test question => do return question.holds (← (files : Act FileTree)) found
  | .action deed => do
    if (← get).stopped then return false else deed.run runner name found
  | .negated inner => do return !(← inner.evaluate runner name found)
  | .both first second => do
    if ← first.evaluate runner name found then second.evaluate runner name found else return false
  | .either first second => do
    if ← first.evaluate runner name found then return true else second.evaluate runner name found
  | .sequence first second => do
    let _ ← first.evaluate runner name found
    second.evaluate runner name found

/-- Looks at a file and at what is below it; fuel bounds the depth. -/
def visit (runner : Shell.Runner) (name : Octets) (settings : Settings) (expression : Expression)
    (start : Octets) : Nat → Nat → Octets → Location → Step Unit
  | 0, _, _, _ => pure ()
  | fuel + 1, depth, path, place => do
    let files ← (files : Act FileTree)
    let entry? := if settings.follows then
        match files.resolve .follow (FileTree.absoluteText place) with
        | .ok (.present place entry) => some (place, entry)
        | _ => (files.get? place).map (place, ·)
      else (files.get? place).map (place, ·)
    match entry? with
    | none => pure ()
    | some (place, entry) =>
      let look : Step Unit := do
        if settings.shallowest ≤ depth && !(← get).stopped then
          let _ ← expression.evaluate runner name ⟨path, start, place, entry, depth⟩
      modify fun walk => { walk with pruned := false }
      if !settings.contentFirst then look
      let enters := entry = .directory && settings.deepest.all (depth < ·)
      if enters && !(← get).stopped && (settings.contentFirst || !(← get).pruned) then
        let names := Octets.sort ((files.namesIn place).map Octets.ofString)
        names.forM fun inner =>
          visit runner name settings expression start fuel (depth + 1) (below path inner)
            (place ++ [Octets.toString inner])
      if settings.contentFirst then look

end Find

/-- Finds files below paths. -/
def find : Tool := fun runner name arguments => do
  let isOption (text : Octets) : Bool :=
    (text.head? = some '-' && text ≠ ['-']) || text = ['!'] || text = ['('] || text = [')']
      || text = [',']
  let leading := arguments.takeWhile fun text => ["-H", "-L", "-P"].contains (Octets.toString text)
  let arguments := arguments.drop leading.length
  let paths := arguments.takeWhile (!isOption ·)
  let settings : Find.Settings := ⟨none, 0, false, leading.getLast? = some "-L"⟩
  let words := arguments.drop paths.length
  let read : Except Octets (Find.Expression × Find.Reading) :=
    if words.isEmpty then .ok (.test .always, ⟨[], settings⟩)
    else (Find.readSequence (6 * (words.length + 2))).run ⟨words, settings⟩
  match read with
  | .error message =>
    complain name message
    return 1
  | .ok (expression, reading) =>
    if !reading.left.isEmpty then
      complain name "invalid expression; you have too many ')'"
      return 1
    let expression : Find.Expression :=
      if expression.acts then expression else .both expression (.action (.print '\n'))
    let search : Find.Step Unit :=
      (if paths.isEmpty then [['.']] else paths).forM fun path => do
        if !(← get).stopped then
          let files ← (files : Act FileTree)
          let fail (fault : FileFault) : Find.Step Unit := do
            complain name (quoted path ++ ": " ++ Octets.ofString fault.reason)
            modify fun walk => { walk with status := 1 }
          match files.resolve .keep (Octets.toString path) with
          | .ok (.present place _) =>
            Find.visit runner name reading.settings expression path 64 0 path place
          | .ok (.absent _) => fail .noEntry
          | .error fault => fail fault
    let ((), walk) ← search.run ⟨false, false, [], 0⟩
    let results ← walk.batches.mapM fun (command, paths) =>
      Find.succeeds runner name (command ++ paths)
    return if results.all (fun succeeded => succeeded) then walk.status else worse walk.status 1

end RepoCatalog.Tool
