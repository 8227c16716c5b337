import RepoCatalog.Process.Shell.Builtin.Basic

/-!
# Builtin commands for the state of the shell

Commands that change the working directory, variables, arguments and options.
-/

namespace RepoCatalog.Shell.Builtin

open Act

/-! ## The working directory -/

/-- Path with a relative path behind it, without components that stand for where they are; each
parent component takes one away. -/
def followPath (base path : Octets) : Octets :=
  let start : List Octets := if path.head? = some '/' then [] else Text.split '/' base
  let names := (start ++ Text.split '/' path).filter fun name => !name.isEmpty && name ≠ ['.']
  let kept := names.foldl
    (fun kept name => if name = ['.', '.'] then kept.drop 1 else name :: kept) []
  '/' :: Octets.join ['/'] kept.reverse

/-- Remembers a new working directory. -/
def setDirectory (directory : Octets) (place : Location) : Act Unit := do
  setFiles { ← files with working := place }
  setExported "OLDPWD" (← process).directory
  change fun process => { process with directory := directory }
  setExported "PWD" directory

/-- Goes to a directory, and tells whether that was possible. -/
def goTo (physical : Bool) (path : Octets) : Act Bool := do
  let logical := followPath (← process).directory path
  let files ← files
  match files.resolve .follow (Octets.toString (if physical then path else logical)) with
  | .ok (.present place .directory) =>
    setDirectory (if physical then FileTree.absoluteText place else logical) place
    return true
  | _ => return false

/-- Whether a path is not searched for. -/
def isAnchored (path : Octets) : Bool :=
  match Text.split '/' path with
  | [] :: _ :: _ | ['.'] :: _ | ['.', '.'] :: _ => true
  | _ => false

/-- Goes to another directory. -/
def cd (_ : Runner) (_ : Mode) (arguments : List Octets) : Act Nat := do
  let (options, arguments) ← options [('L', false), ('P', false)] arguments
  let physical := options.getLast?.any (·.1 = 'P')
  let (target, back) ← match arguments with
    | [] => do pure ((← value? "HOME").getD [], false)
    | ['-'] :: _ => do pure ((← value? "OLDPWD").getD [], true)
    | target :: _ => pure (target, false)
  let path := if target.isEmpty then ['.'] else target
  let candidates ← if isAnchored path then pure [(path, false)] else do
    match ← value? "CDPATH" with
    | none => pure [(path, false)]
    | some search =>
      let found := (Text.split ':' search).map fun directory =>
        if directory.isEmpty then (path, false) else (directory ++ '/' :: path, true)
      pure (found ++ [(path, false)])
  let files ← files
  let isDirectory (candidate : Octets × Bool) : Bool :=
    files.inspect (Octets.toString candidate.1) matches .ok .directory
  let (path, searched) := (candidates.find? isDirectory).getD (path, false)
  if ← goTo physical path then
    if back || searched then write ((← process).directory ++ ['\n']) else return 0
  else fail ("can't cd to " ++ target)

/-- Writes the working directory. -/
def pwd (_ : Runner) (_ : Mode) (arguments : List Octets) : Act Nat := do
  let (options, _) ← options [('L', false), ('P', false)] arguments
  if options.getLast?.any (·.1 = 'P') then
    let place := (← files).working
    write (FileTree.absoluteText place ++ "\n")
  else write ((← process).directory ++ ['\n'])

/-! ## Variables -/

/-- Name and value of an argument that assigns a variable. -/
def splitAssignment (argument : Octets) : Octets × Option Octets :=
  match argument.span (· != '=') with
  | (name, _ :: value) => (name, some value)
  | (name, []) => (name, none)

/-- Stops if a text is no name of a variable. -/
def refuseBadName (name : Octets) : Act Unit := do
  if !isName name then fail (name ++ ": bad variable name")

/-- Variables in the order of their names, as commands that set them. -/
def listing (start : Octets) (wanted : Variable → Bool) : Act Octets := do
  let scope := (← process).scope.filter fun (_, held) => wanted held
  let ordered := scope.mergeSort fun first second => !Octets.isBefore second.1 first.1
  return ordered.flatMap fun (name, held) =>
    let value : Octets := match held.value with
      | some value => '=' :: quote value
      | none => []
    start ++ name ++ value ++ ['\n']

/-- Marks variables, which may get values at the same time. -/
def mark (start : Octets) (has : Variable → Bool) (change : Variable → Variable)
    (arguments : List Octets) : Act Nat := do
  let (options, arguments) ← options [('p', false)] arguments
  if !options.isEmpty || arguments.isEmpty then write (← listing start has)
  else
    arguments.forM fun argument => do
      let (name, value) := splitAssignment argument
      refuseBadName name
      match value with
      | some value => setVariable name value
      | none => pure ()
      putVariable name (change ((← findVariable? name).getD ⟨none, false, false⟩))
    return 0

/-- Tells programs about variables. -/
def exportVariables (_ : Runner) (_ : Mode) (arguments : List Octets) : Act Nat :=
  mark "export " (·.exported) ({ · with exported := true }) arguments

/-- Protects variables from changes. -/
def protectVariables (_ : Runner) (_ : Mode) (arguments : List Octets) : Act Nat :=
  mark "readonly " (·.readOnly) ({ · with readOnly := true }) arguments

/-- Takes variables or functions away. -/
def unset (_ : Runner) (_ : Mode) (arguments : List Octets) : Act Nat := do
  let (options, names) ← options [('v', false), ('f', false)] arguments
  let functions := options.getLast?.any (·.1 = 'f')
  names.forM fun name => do
    if functions then
      change fun process => { process with functions := process.functions.filter (·.1 ≠ name) }
    else
      refuseBadName name
      unsetVariable name
  return 0

/-- Makes variables belong to the function under way. -/
def makeLocal (_ : Runner) (_ : Mode) (arguments : List Octets) : Act Nat := do
  if (← process).calls = 0 then fail "not in a function"
  arguments.forM fun argument => do
    let (name, value) := splitAssignment argument
    if name = ['-'] then pure ()
    else
      refuseBadName name
      rememberVariable name
      match value with
      | some value => setVariable name value
      | none => pure ()
  return 0

/-! ## Arguments and options -/

/-- Options by name. -/
def optionNames : List (String × Char) :=
  [("errexit", 'e'), ("noglob", 'f'), ("ignoreeof", 'I'), ("interactive", 'i'), ("monitor", 'm'),
    ("noexec", 'n'), ("stdin", 's'), ("xtrace", 'x'), ("verbose", 'v'), ("vi", 'V'), ("emacs", 'E'),
    ("noclobber", 'C'), ("allexport", 'a'), ("notify", 'b'), ("nounset", 'u')]

/-- Sets an option or takes it back. -/
def setOption (on : Bool) (letter : Char) : Act Unit := do
  if !optionLetters.contains letter then fail ("Illegal option -" ++ [letter])
  change fun process =>
    let others := process.options.filter (· ≠ letter)
    { process with options := if on then letter :: others else others }

/-- Options with their states. -/
def optionListing (asCommands : Bool) : Act Octets := do
  let set := (← process).options
  if asCommands then
    return optionNames.flatMap fun (name, letter) =>
      Octets.ofString ("set " ++ (if set.contains letter then "-o " else "+o ") ++ name ++ "\n")
  else
    let rows := optionNames.flatMap fun (name, letter) =>
      let padding := String.ofList (List.replicate (16 - name.length) ' ')
      Octets.ofString (name ++ padding ++ (if set.contains letter then "on" else "off") ++ "\n")
    return "Current option settings\n" ++ rows

/-- Sets options by their letters; one of them takes a name from the arguments. -/
def setLetters (on : Bool) : Octets → List Octets → Act (List Octets)
  | [], rest => return rest
  | 'o' :: letters, rest => do
    match rest with
    | [] =>
      let _ ← write (← optionListing (!on))
      setLetters on letters []
    | name :: rest =>
      match optionNames.find? fun (known, _) => known.toList == name with
      | some (_, letter) => setOption on letter
      | none =>
        if name ≠ "nolog" && name ≠ "debug" then fail ("Illegal option -o " ++ name)
      setLetters on letters rest
  | c :: letters, rest => do
    setOption on c
    setLetters on letters rest

/-- Sets options and gives what follows them, and whether it has to become the arguments. -/
def setOptions : Nat → List Octets → Act (List Octets × Bool)
  | 0, arguments => return (arguments, false)
  | fuel + 1, arguments => do
    match arguments with
    | ['-'] :: rest =>
      change fun process =>
        { process with options := process.options.filter fun c => c ≠ 'x' && c ≠ 'v' }
      return (rest, false)
    | ['-', '-'] :: rest => return (rest, true)
    | ('-' :: letters) :: rest => do
      let rest ← setLetters true letters rest
      setOptions fuel rest
    | ('+' :: letters) :: rest => do
      let rest ← setLetters false letters rest
      setOptions fuel rest
    | arguments => return (arguments, false)

/-- Replaces the arguments. -/
def setArguments (arguments : List Octets) : Act Unit :=
  change fun process =>
    { process with arguments := arguments, optionIndex := 1, optionOffset := none }

/-- Sets options and arguments, or lists the variables. -/
def set (_ : Runner) (_ : Mode) (arguments : List Octets) : Act Nat := do
  if arguments.isEmpty then write (← listing [] (·.value.isSome))
  else
    let (rest, replaces) ← setOptions (arguments.length + 1) arguments
    if replaces || !rest.isEmpty then setArguments rest
    return 0

/-- Takes the first arguments away. -/
def shift (_ : Runner) (_ : Mode) (arguments : List Octets) : Act Nat := do
  let count ← match arguments with
    | [] => pure 1
    | text :: _ => numberOf text
  let present := (← process).arguments
  if present.length < count then fail "can't shift that many"
  setArguments (present.drop count)
  return 0

/-- What a search for an option found. -/
structure Found where
  /-- The option, or the sign that there was something wrong. -/
  letter : Char
  /-- Its argument, or the option that is wrong. -/
  argument : Option Octets
  /-- What is left of the argument that holds it. -/
  left : Octets
  /-- How many further arguments were used. -/
  used : Nat

/-- Finds the option at the beginning of letters, with arguments behind them. -/
def findOption (specification : Octets) (letters : Octets) (behind : List Octets) : Act Found := do
  let silent := specification.head? = some ':'
  let c := letters.head?.getD '?'
  let left := letters.drop 1
  let known := specification.dropWhile (· ≠ c)
  match if c == ':' then [] else known with
  | [] =>
    if silent then return ⟨'?', some [c], left, 0⟩
    else
      say ("Illegal option -" ++ [c])
      return ⟨'?', none, left, 0⟩
  | _ :: ':' :: _ =>
    if !left.isEmpty then return ⟨c, some left, [], 0⟩
    else
      match behind with
      | argument :: _ => return ⟨c, some argument, [], 1⟩
      | [] =>
        if silent then return ⟨':', some [c], [], 0⟩
        else
          say ("No arg for -" ++ [c] ++ " option")
          return ⟨'?', none, [], 0⟩
  | _ => return ⟨c, some [], left, 0⟩

/-- Finds the next option among arguments. -/
def getopts (_ : Runner) (_ : Mode) (arguments : List Octets) : Act Nat := do
  match arguments with
  | specification :: name :: given =>
    let process ← process
    let all := if given.isEmpty then process.arguments else given
    let index := if all.length + 1 < process.optionIndex then 1 else process.optionIndex
    let under := (all[index - 2]?).getD []
    let letters := match process.optionOffset with
      | some offset => if 1 < index then under.drop offset else []
      | none => []
    -- The letters under way, and how many arguments were begun with them.
    let (letters, begun) := if !letters.isEmpty then (letters, index - 1) else
      match all[index - 1]? with
      | some ('-' :: c :: rest) => (c :: rest, index)
      | _ => ([], index - 1)
    let finish (done : Bool) (letter : Char) (begun : Nat) (offset : Option Nat) : Act Nat := do
      putVariable "OPTIND" ⟨some (Octets.ofNat (begun + 1)), false, false⟩
      setVariable name [letter]
      change fun process => { process with optionIndex := begun + 1, optionOffset := offset }
      return if done then 1 else 0
    if letters.isEmpty then finish true '?' begun none
    else if letters = ['-'] && process.optionOffset.isNone then finish true '?' begun none
    else
      let found ← findOption specification letters (all.drop begun)
      match found.argument with
      | some argument => setVariable "OPTARG" argument
      | none => unsetVariable "OPTARG"
      let begun := begun + found.used
      let size := ((all[begun - 1]?).getD []).length
      finish false found.letter begun
        (if found.left.isEmpty then none else some (size - found.left.length))
  | _ => fail "Usage: getopts optstring var [arg]"

/-- Bits of a mode that a letter stands for, in each place, given the mode so far. -/
def permission (mode : Nat) (letter : Char) : Nat :=
  match letter with
  | 'r' => 4
  | 'w' => 2
  | 'x' => 1
  | 'u' => mode / 64 % 8
  | 'g' => mode / 8 % 8
  | 'o' => mode % 8
  | 'X' => if mode / 64 % 2 + mode / 8 % 2 + mode % 2 = 0 then 0 else 1
  | _ => 0

/-- Places of a mode that a letter stands for. -/
def permissionPlaces (letter : Char) : Nat :=
  match letter with
  | 'u' => 64
  | 'g' => 8
  | 'o' => 1
  | _ => 73

/-- A mode after the changes that a text describes; none if it does not describe any. Fuel bounds
the number of changes. -/
def changeMode : Nat → Nat → Octets → Option Nat
  | 0, _, _ => none
  | _ + 1, mode, [] => some mode
  | fuel + 1, mode, text =>
    let (who, rest) := text.span ['a', 'u', 'g', 'o'].contains
    let places := (if who.isEmpty then ['a'] else who).foldl (· ||| permissionPlaces ·) 0
    match rest with
    | [] => none
    | operator :: rest =>
      if ['=', '+', '-'].all (· ≠ operator) then none
      else
        let (letters, rest) := rest.span ['r', 'w', 'x', 'u', 'g', 'o', 'X', 's'].contains
        let bits := (letters.foldl (· ||| permission mode ·) 0) * places
        let mode := match operator with
          | '+' => mode ||| bits
          | '-' => mode - (mode &&& bits)
          | _ => bits ||| (mode - (mode &&& (7 * places)))
        match rest with
        | [] => some mode
        | ',' :: rest => changeMode fuel mode rest
        | next :: _ => if ['=', '+', '-'].contains next then changeMode fuel mode rest else none

/-- A mode as letters for each place. -/
def modeText (mode : Nat) : Octets :=
  let letters (bits : Nat) : Octets :=
    (if bits / 4 % 2 = 1 then ['r'] else []) ++ (if bits / 2 % 2 = 1 then ['w'] else [])
      ++ (if bits % 2 = 1 then ['x'] else [])
  "u=" ++ letters (mode / 64) ++ ",g=" ++ letters (mode / 8) ++ ",o=" ++ letters mode

/-- Writes or changes the bits that are taken away from the modes of new files. -/
def umask (_ : Runner) (_ : Mode) (arguments : List Octets) : Act Nat := do
  let (options, arguments) ← options [('S', false)] arguments
  let mask := (← process).mask
  match arguments with
  | [] =>
    let digits := Nat.toDigits 8 mask
    let text := if options.isEmpty then List.replicate (4 - digits.length) '0' ++ digits
      else modeText (511 - mask)
    write (text ++ ['\n'])
  | text :: _ =>
    let mask ←
      if text.head?.any Char.isDigit then
        if text.all fun c => '0' ≤ c && c ≤ '7' then
          pure (text.foldl (fun value c => 8 * value + (c.toNat - 48)) 0 % 512)
        else fail ("Illegal number: " ++ text)
      else
        match changeMode (text.length + 1) (511 - mask) text with
        | some mode => pure (511 - mode)
        | none => fail ("Illegal mode: " ++ text)
    change fun process => { process with mask := mask }
    return 0

end RepoCatalog.Shell.Builtin
