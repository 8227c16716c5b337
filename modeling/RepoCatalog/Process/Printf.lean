import RepoCatalog.Number.Notation
import RepoCatalog.Process.Escape
import RepoCatalog.Process.Shell.Arithmetic

/-!
# Formatted output

What the commands called `printf` write: a format with directives, which is used again as long as
arguments are left over. The command of the shell and the program of that name differ in what they
call malformed.
-/

namespace RepoCatalog.Printf

/-- Which command formats. -/
inductive Dialect
  | builtin
  | program
  deriving DecidableEq, Repr

/-- Why formatting ends early. -/
inductive Halt
  | wanted
  | malformed (message : Octets)

/-- State of formatting. -/
structure State where
  /-- Arguments that are left. -/
  left : List Octets
  /-- What was written, latest first. -/
  shown : List Octets
  /-- Complaints, latest first. -/
  complaints : List Octets

/-- A step of formatting. -/
abbrev Format := ExceptT Halt (StateM State)

/-- Writes text. -/
def put (text : Octets) : Format Unit :=
  modify fun state => { state with shown := text :: state.shown }

/-- Complains about an argument. -/
def complain (message : Octets) : Format Unit :=
  modify fun state => { state with complaints := message :: state.complaints }

/-- Takes the next argument, if there is one. -/
def next? : Format (Option Octets) := do
  match (← get).left with
  | [] => return none
  | argument :: left =>
    modify fun state => { state with left := left }
    return some argument

/-- Complains if a number was not read to its end, or was too large. -/
def checkNumber (dialect : Dialect) (text : Octets) (read : Option (Octets × Bool)) :
    Format Unit := do
  let about (builtin program : String) : Octets := match dialect with
    | .builtin => text ++ ": " ++ Octets.ofString builtin
    | .program => "'" ++ text ++ "': " ++ Octets.ofString program
  match read with
  | none =>
    if !text.isEmpty then complain (about "expected numeric value" "expected a numeric value")
  | some (_ :: _, _) => complain (about "not completely converted" "value not completely converted")
  | some ([], true) =>
    complain (about "Numerical result out of range" "Numerical result out of range")
  | some ([], false) => pure ()

/-- The next argument as a whole number within bounds. -/
def nextNumber (dialect : Dialect) (least most : Int) : Format Int := do
  match ← next? with
  | none => return 0
  | some text =>
    match text with
    | '\x27' :: c :: _ | '"' :: c :: _ => return c.toNat
    | '\x27' :: [] | '"' :: [] => return 0
    | text =>
      match Shell.Expression.takeSigned? text with
      | none =>
        checkNumber dialect text none
        return 0
      | some (value, rest) =>
        -- A bound of zero says that negative numbers wrap around.
        let wrapped := if least = 0 && value < 0 && -most ≤ value then value + most + 1 else value
        let bounded := if least = 0 && wrapped < 0 then most else max least (min most wrapped)
        checkNumber dialect text (some (rest, bounded ≠ wrapped))
        return bounded

/-- A number with a point or an exponent at the beginning of a text, and what follows it. -/
def takeDouble? (text : Octets) : Option (Double × Octets) :=
  let text := text.dropWhile Shell.Expression.isSpace
  let (negative, text) := match text with
    | '-' :: rest => (true, rest)
    | '+' :: rest => (false, rest)
    | rest => (false, rest)
  let lower := text.map Char.toLower
  if "infinity".toList.isPrefixOf lower then some (.infinite negative, text.drop 8)
  else if "inf".toList.isPrefixOf lower then some (.infinite negative, text.drop 3)
  else if "nan".toList.isPrefixOf lower then some (.undefined, text.drop 3)
  else
    let (whole, rest) := text.span Char.isDigit
    let (places, rest) := match rest with
      | '.' :: rest => rest.span Char.isDigit
      | rest => ([], rest)
    if whole.isEmpty && places.isEmpty then none
    else
      let (power, rest) := match rest with
        | e :: rest' =>
          if e == 'e' || e == 'E' then
            let (down, digits) := match rest' with
              | '-' :: digits => (true, digits)
              | '+' :: digits => (false, digits)
              | digits => (false, digits)
            match digits.span Char.isDigit with
            | ([], _) => ((0 : Int), rest)
            | (digits, rest) =>
              let size : Int := Shell.number digits
              (if down then -size else size, rest)
          else (0, rest)
        | [] => (0, [])
      some (.ofDecimal negative (Shell.number (whole ++ places)) (power - places.length), rest)

/-- The next argument as a number. -/
def nextDouble (dialect : Dialect) : Format Double := do
  match ← next? with
  | none => return .finite false 0 0
  | some text =>
    match text with
    | '\x27' :: c :: _ | '"' :: c :: _ => return .ofInt c.toNat
    | text =>
      match takeDouble? text with
      | none =>
        checkNumber dialect text none
        return .finite false 0 0
      | some (value, rest) =>
        checkNumber dialect text (some (rest, false))
        return value

/-- How a directive lays out its text. -/
structure Layout where
  /-- Flags. -/
  flags : List Char
  /-- Least width. -/
  width : Nat
  /-- Precision. -/
  precision : Option Nat

namespace Layout

/-- Text brought to the width. -/
def fill (layout : Layout) (text : Octets) : Octets :=
  let padding := List.replicate (layout.width - text.length) ' '
  if layout.flags.contains '-' then text ++ padding else padding ++ text

/-- A sign and digits brought to the width, with zeros between them if that is wanted. -/
def fillNumber (layout : Layout) (zeros : Bool) (sign digits : Octets) : Octets :=
  if zeros && layout.flags.contains '0' && !layout.flags.contains '-' then
    sign ++ List.replicate (layout.width - sign.length - digits.length) '0' ++ digits
  else layout.fill (sign ++ digits)

/-- Sign in front of a number. -/
def sign (layout : Layout) (negative : Bool) : Octets :=
  if negative then ['-']
  else if layout.flags.contains '+' then ['+']
  else if layout.flags.contains ' ' then [' ']
  else []

/-- Digits brought to the precision. -/
def digits (layout : Layout) (base value : Nat) : Octets :=
  let digits := Nat.toDigits base value
  match layout.precision with
  | none => digits
  | some precision =>
    if precision = 0 && value = 0 then [] else Notation.padZeros precision digits

/-- A whole number in a base. -/
def whole (layout : Layout) (conversion : Char) (value : Int) : Octets :=
  let sharp := layout.flags.contains '#'
  let zeros := layout.precision.isNone
  match conversion with
  | 'o' =>
    let digits := layout.digits 8 value.toNat
    let digits := if sharp && digits.head? ≠ some '0' then '0' :: digits else digits
    layout.fillNumber zeros [] digits
  | 'x' =>
    layout.fillNumber zeros (if sharp && value ≠ 0 then ['0', 'x'] else [])
      (layout.digits 16 value.toNat)
  | 'X' =>
    layout.fillNumber zeros (if sharp && value ≠ 0 then ['0', 'X'] else [])
      ((layout.digits 16 value.toNat).map Char.toUpper)
  | 'u' => layout.fillNumber zeros [] (layout.digits 10 value.toNat)
  | _ => layout.fillNumber zeros (layout.sign (value < 0)) (layout.digits 10 value.natAbs)

/-- Whether a number is below zero, or a zero below zero. -/
def isNegative : Double → Bool
  | .finite negative _ _ => negative
  | .infinite negative => negative
  | .undefined => false

/-- A number with a point. -/
def fractional (layout : Layout) (conversion : Char) (value : Double) : Octets :=
  let style : Notation.Style := match conversion.toLower with
    | 'f' => .plain
    | 'e' => .scientific
    | _ => .general
  let text := Notation.magnitude style (layout.flags.contains '#') (layout.precision.getD 6) value
  let text := if conversion.isUpper then text.map Char.toUpper else text
  let isFinite := match value with
    | .finite _ _ _ => true
    | _ => false
  layout.fillNumber isFinite (layout.sign (isNegative value)) text

end Layout

/-- Width or precision at the beginning of a format, which may come from an argument. -/
def takeSize (dialect : Dialect) (format : Octets) : Format (Option Int × Octets) := do
  match format with
  | '*' :: rest => return (some (← nextNumber dialect (-2147483648) 2147483647), rest)
  | format =>
    match format.span Char.isDigit with
    | ([], rest) => return (none, rest)
    | (digits, rest) => return (some (Shell.number digits), rest)

/-- Escapes of a format. -/
def formatEscapes (dialect : Dialect) : Escape.Style :=
  match dialect with
  | .builtin => ⟨false, false, false, false⟩
  | .program => ⟨false, true, true, true⟩

/-- Escapes of arguments. -/
def argumentEscapes (dialect : Dialect) : Escape.Style :=
  match dialect with
  | .builtin => ⟨true, false, false, true⟩
  | .program => ⟨true, true, true, true⟩

/-- Runs one directive, whose text began with `start`, and gives what follows it. -/
def runDirective (dialect : Dialect) (start : Octets) : Format Octets := do
  let flags := start.takeWhile ['#', '-', '+', ' ', '0'].contains
  let (width, rest) ← takeSize dialect (start.drop flags.length)
  let (precision, rest) ← match rest with
    | '.' :: rest => do
      let (precision, rest) ← takeSize dialect rest
      pure (some (precision.getD 0), rest)
    | rest => pure (none, rest)
  let rest := match dialect with
    | .builtin => rest
    | .program => rest.dropWhile ['h', 'l', 'j', 'z', 't', 'L', 'q'].contains
  let flags := if (width.getD 0) < 0 then '-' :: flags else flags
  let layout : Layout :=
    ⟨flags, (width.getD 0).natAbs,
      precision.bind fun size => if size < 0 then none else some size.toNat⟩
  let cut (text : Octets) : Octets := match layout.precision with
    | some precision => text.take precision
    | none => text
  match rest with
  | [] =>
    throw (.malformed (match dialect with
      | .builtin => "missing format character"
      | .program => "%" ++ start ++ ": invalid conversion specification"))
  | conversion :: rest' =>
    match conversion with
    | 's' => put (layout.fill (cut ((← next?).getD [])))
    | 'c' =>
      match (← next?).getD [] with
      | c :: _ => put (layout.fill [c])
      | [] => put (layout.fill ['\x00'])
    | 'b' =>
      let (text, ends) := Escape.unescape (argumentEscapes dialect) ((← next?).getD [])
      put (layout.fill (cut text))
      if ends then throw .wanted
    | 'd' | 'i' =>
      let number ← nextNumber dialect (-9223372036854775808) 9223372036854775807
      put (layout.whole conversion number)
    | 'o' | 'u' | 'x' | 'X' =>
      put (layout.whole conversion (← nextNumber dialect 0 18446744073709551615))
    | 'e' | 'E' | 'f' | 'F' | 'g' | 'G' =>
      put (layout.fractional conversion (← nextDouble dialect))
    | _ =>
      let text := start.take (start.length - rest'.length)
      throw (.malformed (match dialect with
        | .builtin => "%" ++ text ++ ": invalid directive"
        | .program => "%" ++ text ++ ": invalid conversion specification"))
    return rest'

/-- Uses the format once; fuel bounds its length. -/
def runOnce (dialect : Dialect) : Nat → Octets → Format Unit
  | 0, _ => pure ()
  | _ + 1, [] => pure ()
  | fuel + 1, '\\' :: rest => do
    match Escape.take (formatEscapes dialect) rest with
    | none => throw .wanted
    | some (shown, rest) =>
      put shown
      runOnce dialect fuel rest
  | fuel + 1, '%' :: '%' :: rest => do
    put ['%']
    runOnce dialect fuel rest
  | fuel + 1, '%' :: rest => do
    let rest ← runDirective dialect rest
    runOnce dialect fuel rest
  | fuel + 1, c :: rest => do
    put [c]
    runOnce dialect fuel rest

/-- Uses the format as long as it takes arguments; fuel bounds how often. -/
def runAll (dialect : Dialect) (format : Octets) : Nat → Format Unit
  | 0 => pure ()
  | fuel + 1 => do
    let before := (← get).left.length
    runOnce dialect (format.length + 1) format
    let left := (← get).left
    if !left.isEmpty && left.length < before then runAll dialect format fuel

/-- What comes of formatting. -/
structure Printed where
  /-- What is written. -/
  text : Octets
  /-- Complaints about arguments. -/
  complaints : List Octets
  /-- Message about a malformed format. -/
  malformed : Option Octets

/-- Formats arguments. -/
def print (dialect : Dialect) (format : Octets) (arguments : List Octets) : Printed :=
  let (result, state) := (runAll dialect format (arguments.length + 1)).run ⟨arguments, [], []⟩
  let malformed := match result with
    | .error (.malformed message) => some message
    | _ => none
  ⟨state.shown.reverse.flatten, state.complaints.reverse, malformed⟩

end RepoCatalog.Printf
