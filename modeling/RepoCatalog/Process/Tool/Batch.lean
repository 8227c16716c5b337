import RepoCatalog.Process.Tool.Launch

/-!
# Programs run on words that are read

The words of an input become arguments of a program, which is started as often as that takes.
-/

namespace RepoCatalog.Tool

open Act

/-- A word of an input. -/
structure InputWord where
  /-- Its characters. -/
  text : Octets
  /-- Whether a line ends right behind it. -/
  endsLine : Bool
  deriving DecidableEq, Repr

/-- Words of an input and the quote that is not closed, if there is one. -/
abbrev InputWords := List InputWord × Option Char

/-- Words between blanks, or whole lines; quotes and backslashes take the meaning of characters
away. Fuel bounds the length of the input. -/
def quotedWords (wholeLines : Bool) : Nat → Option Octets → Octets → InputWords
  | 0, _, _ => ([], none)
  | _ + 1, word, [] => ((word.map fun word => ⟨word.reverse, true⟩).toList, none)
  | fuel + 1, word, c :: rest =>
    let add (text rest : Octets) : InputWords :=
      quotedWords wholeLines fuel (some (text.reverse ++ word.getD [])) rest
    let cut (endsLine : Bool) : InputWords :=
      let (words, unclosed) := quotedWords wholeLines fuel none rest
      ((word.map fun word => ⟨word.reverse, endsLine⟩).toList ++ words, unclosed)
    if c == '\n' then cut true
    else if Shell.Expression.isSpace c && (word.isNone || !wholeLines) then cut false
    else if c == '\x27' || c == '"' then
      let (text, behind) := rest.span fun other => other != c && other != '\n'
      match behind with
      | '\n' :: _ | [] => ([], some c)
      | _ :: behind => add text behind
    else
      match c, rest with
      | '\\', c :: rest => add [c] rest
      | c, rest => add [c] rest

/-- Pieces that a mark separates; the last one may be ended by the mark. -/
def markedWords (mark : Char) (text : Octets) : List InputWord :=
  (Octets.pieces mark text).map (⟨·, true⟩)

/-- Groups of at most `size` words. -/
def wordGroups (size : Nat) (words : List InputWord) : List (List Octets) :=
  let groups := words.foldl (fun groups word =>
    match groups with
    | group :: groups =>
      if group.length < size then (group ++ [word.text]) :: groups
      else [word.text] :: group :: groups
    | [] => [[word.text]]) ([] : List (List Octets))
  groups.reverse

/-- Groups of the words of at most `size` lines. -/
def lineGroups (size : Nat) (words : List InputWord) : List (List Octets) :=
  let step (state : List (List Octets) × List Octets × Nat) (word : InputWord) :
      List (List Octets) × List Octets × Nat :=
    let (groups, group, lines) := state
    let group := group ++ [word.text]
    let lines := if word.endsLine then lines + 1 else lines
    if size ≤ lines then (groups ++ [group], [], 0) else (groups, group, lines)
  let (groups, group, _) := words.foldl step ([], [], 0)
  if group.isEmpty then groups else groups ++ [group]

/-- Text with a mark replaced by another text; fuel bounds its length. -/
def replaceAll (mark value : Octets) : Nat → Octets → Octets
  | 0, text => text
  | _ + 1, [] => []
  | fuel + 1, c :: rest =>
    if !mark.isEmpty && mark.isPrefixOf (c :: rest) then
      value ++ replaceAll mark value fuel ((c :: rest).drop mark.length)
    else c :: replaceAll mark value fuel rest

/-- How a word is written where a command is shown. -/
def shownWord (word : Octets) : Octets :=
  let isPlain (c : Char) : Bool := c.isAlphanum || "%+,-./:=@_".toList.contains c
  if !word.isEmpty && word.all isPlain then word else quoted word

/-- Runs a program on words, in a process of its own; the status tells how that ended. -/
def runOn (runner : Shell.Runner) (name : Octets) (call : List Octets) : Act Nat := do
  let outcome ← inChild (fun process => process) do
    let nothing ← addStream ⟨.device .null, 0, true, true, false⟩
    connect 0 (some nothing)
    let program := call.head?.getD []
    let fault ← startFirst runner call .noEntry (programPaths (← process).bindings program)
    complain name (program ++ ": " ++ Octets.ofString fault.reason)
    finish (if fault = .noEntry then 127 else 126)
  let program := call.head?.getD []
  match outcome with
  | .killed signal =>
    complain name (program ++ ": terminated by signal " ++ Octets.ofNat signal)
    return 125
  | .exited 0 => return 0
  | .exited 255 =>
    complain name (program ++ ": exited with status 255; aborting")
    return 124
  | .exited status => return if status = 126 || status = 127 then status else 123

/-- Runs a program on words that are read. -/
def xargs : Tool := fun runner name arguments => do
  let (flags, operands) ← sort
    ⟨['0', 'r', 't', 'x', 'p', 'o'], ['n', 'I', 'L', 'd', 'P', 's', 'a', 'E'],
      [("null", '0'), ("no-run-if-empty", 'r'), ("max-args", 'n'), ("delimiter", 'd'),
        ("max-procs", 'P'), ("verbose", 't'), ("arg-file", 'a'), ("max-lines", 'L'),
        ("replace", 'I')], false⟩ name 1 arguments
  let text ← match argument? flags 'a' with
    | none => pure ((← readAll 0).toOption.getD [])
    | some path =>
      match ← readFile path with
      | .ok text => pure text
      | .error fault => do
        complain name ("Cannot open input file '" ++ path ++ "': " ++ Octets.ofString fault.reason)
        finish 1
  let command : List Octets := if operands.isEmpty then ["echo"] else operands
  let replaced := argument? flags 'I'
  let (words, unclosed) : InputWords :=
    if has flags '0' then (markedWords '\x00' text, none)
    else
      match argument? flags 'd' with
      | some mark =>
        let mark := (Escape.unescape ⟨false, true, false, false⟩ mark).1
        (markedWords (mark.head?.getD '\n') text, none)
      | none => quotedWords replaced.isSome (text.length + 1) none text
  let size (letter : Char) : Option Nat := ((argument? flags letter).bind natural?).map (max 1)
  let calls : List (List Octets) :=
    match replaced, size 'L', size 'n' with
    | some mark, _, _ => words.map fun word =>
        command.map fun text => replaceAll mark word.text (text.length + 1) text
    | none, some lines, _ => (lineGroups lines words).map (command ++ ·)
    | none, none, some most => (wordGroups most words).map (command ++ ·)
    | none, none, none => if words.isEmpty then [] else [command ++ words.map (·.text)]
  let calls := if !calls.isEmpty || has flags 'r' || replaced.isSome || unclosed.isSome then calls
    else [command]
  let mut status := 0
  for call in calls do
    if status < 124 then
      if has flags 't' then say (Octets.join [' '] (call.map shownWord))
      let ended ← runOn runner name call
      status := if ended = 0 then status else ended
  match unclosed with
  | none => return status
  | some quote =>
    let kind : Octets := if quote == '"' then "double" else "single"
    complain name ("unmatched " ++ kind
      ++ " quote; by default quotes are special to xargs unless you use the -0 option")
    return 1

end RepoCatalog.Tool
