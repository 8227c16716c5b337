import RepoCatalog.Process.Tool.Basic
import RepoCatalog.Process.Tool.Editor.Script

/-!
# The line editor

A script is run once for every line. Commands change the line at hand, which is written when the
script has been run to its end; a second text is held from line to line.
-/

namespace RepoCatalog

open Act

namespace Editor

/-- Something that is written when the script has been run for a line. -/
inductive Queued
  | text (text : Octets)
  | file (path : Octets)

/-- A line, and whether a line break ends it. -/
abbrev Line := Octets × Bool

/-- State of editing. -/
structure Editing where
  /-- Whether lines are written only on demand. -/
  silent : Bool
  /-- Text at hand. -/
  space : Octets
  /-- Whether a line break ends it. -/
  isEnded : Bool
  /-- Text that is held. -/
  held : Octets
  /-- Whether a line break ends it. -/
  heldIsEnded : Bool
  /-- Number of the line. -/
  number : Nat
  /-- Lines that follow. -/
  left : List Line
  /-- What is written behind the line. -/
  queue : List Queued
  /-- Commands whose lines are under way, by position, perhaps with the number of the last line. -/
  underWay : List (Nat × Option Nat)
  /-- Whether something was replaced since the last line was read or the last jump that asks. -/
  replaced : Bool
  /-- Expression used last, and whether case does not matter for it. -/
  used : Option (Regex × Bool)
  /-- Whether a line break is missing behind what was written. -/
  owesBreak : Bool
  /-- Streams of files that are written, and whether a line break is missing behind what was written
  to them. -/
  streams : List (Octets × Nat × Bool)
  /-- Name of the input. -/
  path : Octets

/-- What the line editor does. -/
abbrev Edits := StateT Editing Act

/-- How a script is left. -/
inductive Leave
  | ended
  | deleted
  | again
  | quit (silently : Bool) (status : Nat)
  deriving DecidableEq, Repr

/-! ## Writing -/

/-- Writes text. -/
def emit (text : Octets) (isEnded : Bool) : Edits Unit := do
  let start : Octets := if (← get).owesBreak then ['\n'] else []
  let _ ← tryWrite 1 (start ++ text ++ if isEnded then ['\n'] else [])
  modify fun editing => { editing with owesBreak := !isEnded }

/-- Writes text to a file. -/
def emitTo (path text : Octets) (isEnded : Bool) : Edits Unit := do
  match (← get).streams.lookup path with
  | none => pure ()
  | some (stream, owesBreak) =>
    let start : Octets := if owesBreak then ['\n'] else []
    let _ ← writeStream stream (start ++ text ++ if isEnded then ['\n'] else [])
    modify fun editing => { editing with streams := assign path (stream, !isEnded) editing.streams }

/-- Writes the line break that is missing behind what was written. -/
def emitBreak : Edits Unit := do
  if (← get).owesBreak then
    let _ ← tryWrite 1 ['\n']
    modify fun editing => { editing with owesBreak := false }

/-- Writes the line at hand. -/
def emitSpace : Edits Unit := do
  let editing ← get
  emit editing.space editing.isEnded

/-- Writes what waits for the end of the line. -/
def emitQueue : Edits Unit := do
  for queued in (← get).queue do
    emitBreak
    match queued with
    | .text [] => pure ()
    | .text text => emit text.dropLast true
    | .file path =>
      match ← readFile path with
      | .ok [] | .error _ => pure ()
      | .ok content =>
        let isEnded := content.getLast? = some '\n'
        emit (if isEnded then content.dropLast else content) isEnded
  modify fun editing => { editing with queue := [] }

/-- Reads the next line, if there is one. -/
def readLine (appends : Bool) : Edits Bool := do
  emitQueue
  let editing ← get
  match editing.left with
  | [] => return false
  | (line, isEnded) :: left =>
    set { editing with
      space := if appends then editing.space ++ '\n' :: line else line
      isEnded := isEnded, left := left, number := editing.number + 1, replaced := false }
    return true

/-! ## Lines that commands are for -/

/-- The expression that is meant, which is the one used before if none is written. -/
def expressionFor (expression : Option Regex) (folds : Bool) : Edits (Regex × Bool) := do
  match expression with
  | some expression =>
    modify fun editing => { editing with used := some (expression, folds) }
    return (expression, folds)
  | none =>
    match (← get).used with
    | some used => return used
    | none =>
      Tool.complain "sed" "-e expression #1, char 0: no previous regular expression"
      finish 1

/-- Whether the line at hand is one that an address names. -/
def fitsAddress (address : Address) : Edits Bool := do
  let editing ← get
  match address with
  | .number n => return n = editing.number
  | .every first step =>
    return if step = 0 then editing.number = first
      else first ≤ editing.number && (editing.number - first) % step = 0
  | .finalLine => return editing.left.isEmpty
  | .fits expression folds =>
    let (expression, folds) ← expressionFor expression folds
    return (expression.find? folds editing.space).isSome

/-- Number of the last line for a command whose first line has a given number; none if an address
tells it. -/
def lastNumber (number : Nat) : Bound → Option Nat
  | .address (.number n) => some n
  | .address _ => none
  | .further count => some (number + count)
  | .multiple factor =>
    some (if factor = 0 then number else (number / factor + 1) * factor)

/-- Whether the command at a position is for the line at hand. -/
def applies (position : Nat) (command : Command) : Edits Bool := do
  match command.first, command.last with
  | none, _ => return true
  | some first, none => fitsAddress first
  | some first, some bound =>
    let editing ← get
    let close : Edits Unit := modify fun editing =>
      { editing with underWay := editing.underWay.filter (·.1 ≠ position) }
    match editing.underWay.lookup position with
    | some (some last) =>
      if last ≤ editing.number then close
      return editing.number ≤ last
    | some none =>
      match bound with
      | .address address => if ← fitsAddress address then close
      | _ => pure ()
      return true
    | none =>
      if ← fitsAddress first then
        let last := lastNumber editing.number bound
        if last.all (editing.number < ·) then
          modify fun editing =>
            { editing with underWay := (position, last) :: editing.underWay }
        return true
      else return false

/-! ## Replacing -/

/-- How letters are written. -/
inductive Shape
  | same
  | upper
  | lower
  deriving DecidableEq

/-- A letter in a shape. -/
def Shape.letter : Shape → Char → Char
  | same, c => c
  | upper, c => c.toUpper
  | lower, c => c.toLower

/-- What takes the place of a match, given the shapes of all letters and of the next one. -/
def replacementFor (found : Regex.Match) : Shape → Option Shape → List Part → Octets
  | _, _, [] => []
  | all, next, .shape letter :: parts =>
    match letter with
    | 'U' => replacementFor found .upper next parts
    | 'L' => replacementFor found .lower next parts
    | 'u' => replacementFor found all (some .upper) parts
    | 'l' => replacementFor found all (some .lower) parts
    | _ => replacementFor found .same none parts
  | all, next, part :: parts =>
    let text := match part with
      | .text text => text
      | .group 0 => found.text
      | .group number => (found.groups.lookup number).getD []
      | .shape _ => []
    match text with
    | [] => replacementFor found all next parts
    | c :: rest =>
      (next.getD all).letter c :: rest.map all.letter ++ replacementFor found all none parts

/-- Replaces matches in a text, given how many are left as they are, the character before the text,
and whether a match ends there; none if nothing is replaced. Fuel bounds the number of matches. -/
def replaceIn (expression : Regex) (folds : Bool) (substitution : Substitution) :
    Nat → Nat → Option Char → Bool → Octets → Option Octets
  | 0, _, _, _, _ => none
  | fuel + 1, kept, before, behindMatch, text => do
    let found ← Regex.search folds expression (text.length + 1) [] before text
    let counts := !(behindMatch && found.before.isEmpty && found.text.isEmpty)
    let replaces := counts && kept = 0
    let shown := if replaces then replacementFor found .same none substitution.replacement
      else found.text
    let kept := if counts then kept - 1 else kept
    if replaces && !substitution.everywhere then return found.before ++ shown ++ found.behind
    else
      let last := (found.before ++ found.text).getLast?.or before
      if found.text.isEmpty then
        match found.behind with
        | [] => if replaces then return found.before ++ shown else none
        | c :: rest =>
          let start := found.before ++ shown ++ [c]
          match replaceIn expression folds substitution fuel kept (some c) false rest with
          | some changed => return start ++ changed
          | none => if replaces then return start ++ rest else none
      else
        let start := found.before ++ shown
        match replaceIn expression folds substitution fuel kept last true found.behind with
        | some changed => return start ++ changed
        | none => if replaces then return start ++ found.behind else none

/-- A character so that it is seen. -/
def visible (c : Char) : Octets :=
  match c with
  | '\\' => ['\\', '\\']
  | '\x07' => ['\\', 'a']
  | '\x08' => ['\\', 'b']
  | '\x0c' => ['\\', 'f']
  | '\n' => ['\\', 'n']
  | '\r' => ['\\', 'r']
  | '\t' => ['\\', 't']
  | '\x0b' => ['\\', 'v']
  | c =>
    if ' ' ≤ c && c ≤ '~' then [c]
    else
      let digits := Nat.toDigits 8 c.toNat
      '\\' :: List.replicate (3 - digits.length) '0' ++ digits

/-- A line so that all of it is seen, folded to a width; zero stands for no folding. -/
def listed (width : Nat) (text : Octets) : Octets :=
  let (shown, _) := text.foldl (fun (shown, column) c =>
    let piece := visible c
    if 0 < width && width - 1 < column + piece.length then
      (shown ++ ['\\', '\n'] ++ piece, piece.length)
    else (shown ++ piece, column + piece.length)) (([] : Octets), 0)
  shown ++ ['$']

/-- Part of a text before its first line break. -/
def firstLine (text : Octets) : Octets :=
  text.takeWhile (· != '\n')

/-! ## Running -/

/-- Position behind the end of a block that begins before a position. -/
def blockEnd (program : Array Command) : Nat → Nat → Nat → Nat
  | 0, position, _ => position
  | fuel + 1, position, depth =>
    match (program[position]?).map Command.edit with
    | none => position
    | some .open => blockEnd program fuel (position + 1) (depth + 1)
    | some .close =>
      if depth = 0 then position + 1 else blockEnd program fuel (position + 1) (depth - 1)
    | some _ => blockEnd program fuel (position + 1) depth

/-- Position of a label; the end of the script has none. -/
def labelPosition (program : Array Command) (name : Octets) : Nat :=
  if name.isEmpty then program.size
  else
    (program.findIdx? fun command =>
      match command.edit with
      | .label known => known = name
      | _ => false).getD program.size

/-- How many commands are run for a line at most. -/
def stepLimit : Nat := 1000000

/-- Runs the commands from a position on. -/
def runFrom (program : Array Command) : Nat → Nat → Edits Leave
  | 0, _ => do throw (.killed (← process).number 13)
  | fuel + 1, position => do
    match program[position]? with
    | none => return .ended
    | some command =>
      let goOn : Edits Leave := runFrom program fuel (position + 1)
      let isFor ← applies position command
      let editing ← get
      if isFor == command.negated then
        match command.edit with
        | .open => runFrom program fuel (blockEnd program program.size (position + 1) 0)
        | _ => goOn
      else
        match command.edit with
        | .substitute substitution =>
          let (expression, folds) ← expressionFor substitution.expression substitution.folds
          match replaceIn expression folds substitution (editing.space.length + 2)
              (substitution.first - 1) none false editing.space with
          | none => goOn
          | some changed =>
            modify fun editing => { editing with space := changed, replaced := true }
            if substitution.prints then emitSpace
            match substitution.file with
            | some path => emitTo path changed editing.isEnded
            | none => pure ()
            goOn
        | .replaceEach source target =>
          let changed := editing.space.map fun c =>
            ((source.findIdx? (· = c)).bind fun i => target[i]?).getD c
          set { editing with space := changed }
          goOn
        | .print false =>
          emitSpace
          goOn
        | .print true =>
          emit (firstLine editing.space) (editing.isEnded || editing.space.contains '\n')
          goOn
        | .delete false => return .deleted
        | .delete true =>
          match editing.space.dropWhile (· != '\n') with
          | [] => return .deleted
          | _ :: rest =>
            set { editing with space := rest }
            return .again
        | .next appends =>
          if editing.left.isEmpty then return .ended
          else
            if !appends && !editing.silent then emitSpace
            let _ ← readLine appends
            goOn
        | .quit silently status => return .quit silently status
        | .lineNumber =>
          emit (Octets.ofNat editing.number) true
          goOn
        | .fileName =>
          emit editing.path true
          goOn
        | .append text =>
          set { editing with queue := editing.queue ++ [Queued.text text] }
          goOn
        | .insert text =>
          if !text.isEmpty then emit text.dropLast true
          goOn
        | .change text =>
          let isUnderWay := (editing.underWay.map (·.1)).contains position
          if !isUnderWay && !text.isEmpty then emit text.dropLast true
          return .deleted
        | .readFile path =>
          set { editing with queue := editing.queue ++ [Queued.file path] }
          goOn
        | .writeFile path onlyFirst =>
          emitTo path (if onlyFirst then firstLine editing.space else editing.space)
            (editing.isEnded || (onlyFirst && editing.space.contains '\n'))
          goOn
        | .hold appends =>
          set { editing with
            held := if appends then editing.held ++ '\n' :: editing.space else editing.space
            heldIsEnded := editing.isEnded }
          goOn
        | .recall appends =>
          set { editing with
            space := if appends then editing.space ++ '\n' :: editing.held else editing.held
            isEnded := editing.heldIsEnded }
          goOn
        | .exchange =>
          set { editing with
            space := editing.held, isEnded := editing.heldIsEnded, held := editing.space
            heldIsEnded := editing.isEnded }
          goOn
        | .list width =>
          emit (listed (width.getD 70) editing.space) true
          goOn
        | .clear =>
          set { editing with space := [] }
          goOn
        | .open | .close | .label _ => goOn
        | .jump condition name =>
          let jumps := match condition with
            | none => true
            | some wanted => editing.replaced == wanted
          if condition.isSome then modify fun editing => { editing with replaced := false }
          if jumps then runFrom program fuel (labelPosition program name) else goOn

/-- Runs a script for all lines that are left, and gives the status if it was quit; `reads` says
that the first of them has yet to be read. Fuel bounds the number of runs. -/
def runCycles (program : Array Command) : Nat → Bool → Edits (Option Nat)
  | 0, _ => do throw (.killed (← process).number 13)
  | fuel + 1, reads => do
    let isThere ← if reads then readLine false else pure true
    if !isThere then return none
    else
      let leave ← runFrom program stepLimit 0
      let silent := (← get).silent
      match leave with
      | .ended | .quit false _ => if !silent then emitSpace
      | _ => pure ()
      match leave with
      | .quit silently status =>
        if !silently then
          emitBreak
          emitQueue
        return some status
      | .again =>
        emitQueue
        runCycles program fuel false
      | _ =>
        emitQueue
        runCycles program fuel true

/-- State at the beginning. -/
def start (silent : Bool) (program : Array Command) (streams : List (Octets × Nat × Bool))
    (path : Octets) (lines : List Line) : Editing :=
  let underWay := program.toList.mapIdx fun i command =>
    match command.first with
    | some (.number 0) => [(i, none)]
    | _ => []
  { silent := silent, space := [], isEnded := true, held := [], heldIsEnded := true, number := 0
    left := lines
    queue := [], underWay := underWay.flatten, replaced := false, used := none, owesBreak := false
    streams := streams, path := path }

/-- Lines of a text. -/
def linesOf (text : Octets) : List Line :=
  let lines := Octets.lines text
  lines.mapIdx fun i line => (line, i + 1 < lines.length || text.getLast? = some '\n')

/-- Edits text, and gives the status if the script was quit. -/
def edit (silent : Bool) (program : Array Command) (streams : List (Octets × Nat × Bool))
    (path text : Octets) :
    Act (Option Nat) := do
  let editing := start silent program streams path (linesOf text)
  let (status, _) ← (runCycles program (stepLimit + text.length) true).run editing
  return status

/-- Files that commands write. -/
def writtenFiles (commands : List Command) : List Octets :=
  commands.filterMap fun command =>
    match command.edit with
    | .writeFile path _ => some path
    | .substitute substitution => substitution.file
    | _ => none

/-- A name that commands jump to although no command has it. -/
def missingLabel? (commands : List Command) : Option Octets :=
  commands.findSome? fun command =>
    match command.edit with
    | .jump _ name =>
      let isThere := commands.any fun other =>
        match other.edit with
        | .label known => known = name
        | _ => false
      if name.isEmpty || isThere then none else some name
    | _ => none

end Editor

namespace Tool

open Editor

/-- Name under which a file is kept before it is changed. -/
def backupPath (path suffix : Octets) : Octets :=
  if suffix.contains '*' then
    let parent := path.take (path.length - (baseChars path).length)
    let name := suffix.flatMap fun c => if c == '*' then baseChars path else [c]
    if name.contains '/' then name else parent ++ name
  else path ++ suffix

/-- Edits a file, which gets the result as its content; gives a status. -/
def editFile (name : Octets) (silent : Bool) (program : Array Command)
    (streams : List (Octets × Nat × Bool)) (suffix path : Octets) : Act (Nat × Option Nat) := do
  match ← readFile path with
  | .error fault =>
    if fault = .isDirectory then complain name ("couldn't edit " ++ path ++ ": not a regular file")
    else complain name ("can't read " ++ path ++ ": " ++ Octets.ofString fault.reason)
    return (4, none)
  | .ok text =>
    let output ← addStream ⟨.buffer [], 0, true, true, true⟩
    let before ← stream? 1
    connect 1 (some output)
    let status ← edit silent program streams path text
    connect 1 before
    let session ← get
    let changed := (session.system.rest output).toOption.getD []
    let write (path content : Octets) : Act Nat := do
      match (← files).writeContent (Octets.toString path) (Octets.toBytes content) with
      | .ok files =>
        setFiles files
        return 0
      | .error _ => return 4
    let kept ← if suffix.isEmpty then pure 0 else write (backupPath path suffix) text
    return (worse kept (← write path changed), status)

/-- Edits what it reads, line by line. -/
def sed : Tool := fun _ name arguments => do
  let (flags, operands) ← sort ⟨['n', 'E', 'r', 'i', 's', 'u', 'z'], ['e', 'f', 'i', 'l'],
    [("quiet", 'n'), ("silent", 'n'), ("regexp-extended", 'E'), ("in-place", 'i'),
      ("expression", 'e'), ("file", 'f'), ("separate", 's'), ("unbuffered", 'u'),
      ("null-data", 'z')], true⟩ name 1 arguments
  let given ← flags.filterMapM fun flag => do
    if flag.letter = 'e' then return some flag.argument
    else if flag.letter = 'f' then
      match ← readInput flag.argument with
      | .ok text => return some (if text.getLast? = some '\n' then text.dropLast else text)
      | .error fault =>
        complain name
          ("couldn't open file " ++ flag.argument ++ ": " ++ Octets.ofString fault.reason)
        finish 1
    else return none
  let (scripts, paths) := if !given.isEmpty then (given, operands) else
    match operands with
    | script :: paths => ([script], paths)
    | [] => ([], [])
  if scripts.isEmpty then
    say ("Usage: " ++ name ++ " [OPTION]... \x7bscript-only-if-no-other-script\x7d [input-file]...")
    return 1
  let script := Octets.join ['\n'] scripts
  let silent := has flags 'n' || script.take 3 = ['#', 'n', '\n'] || script = ['#', 'n']
  match commandsOf (has flags 'E' || has flags 'r') script with
  | .error (position, message) =>
    complain name ("-e expression #1, char " ++ Octets.ofNat position ++ ": " ++ message)
    return 1
  | .ok commands =>
    match missingLabel? commands with
    | some label =>
      complain name ("can't find label for jump to `" ++ label ++ ['\x27'])
      return 4
    | none => pure ()
    let mut streams := []
    for path in writtenFiles commands do
      match ← openStream .write false path with
      | .ok stream => streams := streams ++ [(path, stream, false)]
      | .error fault =>
        complain name ("couldn't open file " ++ path ++ ": " ++ Octets.ofString fault.reason)
        return 4
    let program := commands.toArray
    let mut status := 0
    if has flags 'i' then
      let suffix := (argument? flags 'i').getD []
      for path in paths do
        let (found, quit) ← editFile name silent program streams suffix path
        status := worse status found
        match quit with
        | some quit => return quit
        | none => pure ()
      return status
    else
      let mut texts : List (Octets × Octets) := []
      for path in if paths.isEmpty then [['-']] else paths do
        match ← readInput path with
        | .error fault =>
          if fault = .isDirectory then complain name ("couldn't read " ++ path ++ ": "
            ++ Octets.ofString fault.reason)
          else complain name ("can't read " ++ path ++ ": " ++ Octets.ofString fault.reason)
          status := 2
        | .ok text => texts := texts ++ [(path, text)]
      if has flags 's' then
        for (path, text) in texts do
          match ← edit silent program streams path text with
          | some quit => return quit
          | none => pure ()
        return status
      else
        -- A line without end that is not the last one gets one.
        let whole (text : Octets) : Octets :=
          if text.isEmpty || text.getLast? = some '\n' then text else text ++ ['\n']
        let last := (texts.getLast?.map (·.2)).getD []
        let all := texts.dropLast.flatMap (whole ·.2) ++ last
        match ← edit silent program streams ((texts.head?.map (·.1)).getD ['-']) all with
        | some quit => return quit
        | none => return status

end Tool

end RepoCatalog
