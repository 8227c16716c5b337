import RepoCatalog.Process.Shell.Source

/-!
# Reading scripts

A script is read command by command, as far as one line with all that belongs to it. Quotes,
parameters and nested scripts inside words are read with the words.
-/

namespace RepoCatalog.Shell

/-- Words for a quoted text without end. -/
def unterminated : Octets := "Unterminated quoted string"

/-- Where pieces of a word stand, which decides what is special and what ends them. -/
inductive Surroundings
  | bare
  | delimiter
  | braces (inQuotes : Bool)
  | quotes
  | document
  | arithmetic (depth : Nat)
  deriving DecidableEq

namespace Surroundings

/-- Whether pieces are kept from splitting. -/
def isQuoted : Surroundings → Bool
  | bare | delimiter => false
  | braces inQuotes => inQuotes
  | quotes | document | arithmetic _ => true

/-- What is missing if the script ends among pieces. -/
def lack? : Surroundings → Option Octets
  | bare | delimiter | document => none
  | braces false => some "Missing '\x7d'"
  | arithmetic _ => some "Missing '))'"
  | braces true | quotes => some unterminated

/-- Whether a backslash takes the meaning of a character. -/
def escapes (surroundings : Surroundings) (c : Char) : Bool :=
  match surroundings with
  | bare | delimiter | braces false => true
  | braces true => ['$', '`', '\\', '"', '\x7d'].contains c
  | quotes => ['$', '`', '\\', '"'].contains c
  | document | arithmetic _ => ['$', '`', '\\'].contains c

end Surroundings

/-- Whether a character ends a word that is not quoted. -/
def endsWord (c : Char) : Bool :=
  [' ', '\t', '\n', ';', '&', '|', '<', '>', '(', ')'].contains c

/-- Pieces, last first, with one more character that is not quoted. -/
def addPlain (c : Char) : List Piece → List Piece
  | .plain text :: rest => .plain (text ++ [c]) :: rest
  | pieces => .plain [c] :: pieces

/-- Pieces, last first, with more quoted text. -/
def addQuoted (added : Octets) : List Piece → List Piece
  | .quoted text :: rest => .quoted (text ++ added) :: rest
  | pieces => .quoted added :: pieces

/-- Pieces, last first, with one more character as it stands in its surroundings. -/
def addChar (surroundings : Surroundings) (c : Char) (pieces : List Piece) : List Piece :=
  if surroundings.isQuoted then addQuoted [c] pieces else addPlain c pieces

/-- Pieces between double quotes; all parameters in a row by themselves may come to nothing. -/
def quotedPieces (inner : List Piece) : List Piece :=
  match inner with
  | [.parameter _ ['@'] .value] => inner
  | _ => .quoted [] :: inner

/-- Text up to the mark that ends a nested script, without the backslashes that protect it, and what
follows; none without a mark. -/
def takeBackquoted (inQuotes : Bool) : Octets → Option (Octets × Octets)
  | [] => none
  | '`' :: rest => some ([], rest)
  | '\\' :: '\n' :: rest => takeBackquoted inQuotes rest
  | '\\' :: c :: rest =>
    let bare := c == '\\' || c == '`' || c == '$' || (inQuotes && c == '"')
    (takeBackquoted inQuotes rest).map fun (text, rest) =>
      ((if bare then [c] else ['\\', c]) ++ text, rest)
  | c :: rest => (takeBackquoted inQuotes rest).map fun (text, rest) => (c :: text, rest)

/-- Text of a word that consists of plain text. -/
def plainText? : Token → Option Octets
  | .word [.plain text] => some text
  | _ => none

/-- The keyword that a token is, where keywords count. -/
def keyword? (token : Token) : Option String :=
  (plainText? token).bind fun text =>
    keywords.find? fun keyword => keyword.toList == text

/-- Words for a token in messages. -/
def describeToken (token : Token) : Octets :=
  let named (text : String) : Octets := "\"" ++ Octets.ofString text ++ "\""
  match token with
  | .word _ => ((keyword? token).map named).getD "word"
  | .operator text => named text
  | .redirect _ _ => "redirection"
  | .newline => "newline"
  | .finish => "end of file"

/-- Stops because of a token; `wanted` may tell what should stand in its place. -/
def unexpected {α : Type} (token : Token) (wanted : Option String) : Reader α :=
  let place : Octets := match wanted with
    | none => []
    | some "word" => " (expecting word)"
    | some wanted => " (expecting \"" ++ Octets.ofString wanted ++ "\")"
  Reader.refuse (describeToken token ++ " unexpected" ++ place)

/-- Whether a token ends a list of commands. -/
def endsList (token : Token) : Bool :=
  match token with
  | .finish => true
  | .operator text => text == ")" || text == ";;"
  | _ =>
    match keyword? token with
    | some word =>
      ["do", "done", "elif", "else", "esac", "fi", "then", "\x7d"].contains word
    | none => false

/-- Name and value of a word that assigns a variable. -/
def assignment? : Word → Option (Octets × Word)
  | .plain text :: rest =>
    match text.span (· != '=') with
    | (name, _ :: value) =>
      if isName name then
        some (name, if value.isEmpty then rest else .plain value :: rest)
      else none
    | (_, []) => none
  | _ => none

/-- Text of a word without its quotes; parameters do not occur in it. -/
def literalText (word : Word) : Octets :=
  word.flatMap fun
    | .plain text | .quoted text => text
    | _ => []

/-- Whether no part of a word is quoted. -/
def isUnquoted (word : Word) : Bool :=
  word.all fun
    | .quoted _ => false
    | _ => true

/-- Builtin commands that no function may be named after. -/
def specialBuiltins : List String :=
  [".", ":", "break", "continue", "eval", "exec", "exit", "export", "local", "readonly", "return",
    "set", "shift", "times", "trap", "unset"]

/-- One command after others. -/
def sequenceOf (first : Option Command) (second : Command) : Option Command :=
  match first with
  | some first => some (.sequence first second)
  | none => some second

/-- How far a list of commands goes: to the end of the line, or over lines to a token that ends it,
in which case it may have to contain a command. -/
inductive Extent
  | line
  | lines
  | someLines
  deriving DecidableEq

/-- The operator of a redirection after its first character. -/
def readRedirector (descriptor : Option Nat) (first : Char) : Reader Token := do
  let rest ← Reader.restJoined
  let kinds := if first == '>' then [">>", ">|", ">&"] else ["<<-", "<<", "<&", "<>"]
  match kinds.find? fun kind => (kind.toList.drop 1).isPrefixOf rest with
  | some kind =>
    Reader.goOn (rest.drop (kind.length - 1))
    return .redirect descriptor kind
  | none => return .redirect descriptor (String.ofList [first])

/-- Skips blanks and a comment. -/
def skipBlanks : Nat → Reader Unit
  | 0 => pure ()
  | fuel + 1 => do
    match ← Reader.restJoined with
    | ' ' :: rest | '\t' :: rest =>
      Reader.goOn rest
      skipBlanks fuel
    | '#' :: rest => Reader.goOn (rest.dropWhile (· != '\n'))
    | _ => pure ()

/-- Descriptor that a word in front of a redirection is. -/
def descriptor? : List Piece → Option Nat
  | [.plain [c]] => if c.isDigit then some (c.toNat - 48) else none
  | _ => none

/-- An operator that consists of a character, or of two of them. -/
def readOperator (c : Char) (rest : Octets) : Reader Token := do
  Reader.goOn rest
  let single := String.ofList [c]
  match ← Reader.restJoined with
  | d :: rest =>
    if c == d && (c == '&' || c == '|' || c == ';') then
      Reader.goOn rest
      return .operator (String.ofList [c, d])
    else return .operator single
  | [] => return .operator single

mutual

/-- Reads pieces up to what ends them in their surroundings, given the pieces before, last first. -/
def readPieces : Nat → Surroundings → List Piece → Reader Word
  | 0, _, _ => Reader.refuse []
  | fuel + 1, surroundings, read => do
    match (← get).rest with
    | [] =>
      match surroundings.lack? with
      | none => return read.reverse
      | some reason => Reader.refuse reason
    | '\\' :: '\n' :: rest => do
      Reader.goOn rest
      readPieces fuel surroundings read
    | '\\' :: rest => do
      match rest with
      | [] =>
        Reader.goOn []
        readPieces fuel surroundings (addQuoted ['\\'] read)
      | c :: rest =>
        Reader.goOn rest
        readPieces fuel surroundings
          (addQuoted (if surroundings.escapes c then [c] else ['\\', c]) read)
    | c :: rest =>
      match surroundings, c with
      | .braces _, '\x7d' => do
        Reader.goOn rest
        return read.reverse
      | .quotes, '"' => do
        Reader.goOn rest
        return read.reverse
      | .bare, '\x27' | .delimiter, '\x27' | .braces false, '\x27' => do
        match rest.span (· != '\x27') with
        | (text, _ :: rest) =>
          Reader.goOn rest
          readPieces fuel surroundings (addQuoted text read)
        | (_, []) =>
          Reader.goOn []
          Reader.refuse unterminated
      | .document, '"' => do
        Reader.goOn rest
        readPieces fuel surroundings (addQuoted ['"'] read)
      | .arithmetic _, '"' => do
        Reader.goOn rest
        readPieces fuel surroundings read
      | _, '"' => do
        Reader.goOn rest
        let inner ← readPieces fuel .quotes []
        let inner := if surroundings.isQuoted then inner else quotedPieces inner
        readPieces fuel surroundings (inner.reverse ++ read)
      | .arithmetic depth, '(' => do
        Reader.goOn rest
        readPieces fuel (.arithmetic (depth + 1)) (addQuoted ['('] read)
      | .arithmetic (depth + 1), ')' => do
        Reader.goOn rest
        readPieces fuel (.arithmetic depth) (addQuoted [')'] read)
      | .arithmetic 0, ')' => do
        Reader.goOn rest
        match ← Reader.restJoined with
        | ')' :: rest =>
          Reader.goOn rest
          return read.reverse
        | _ => readPieces fuel surroundings (addQuoted [')'] read)
      | .delimiter, '$' | .delimiter, '`' => do
        Reader.goOn rest
        readPieces fuel surroundings (addPlain c read)
      | _, '`' => do
        match takeBackquoted surroundings.isQuoted rest with
        | none =>
          Reader.goOn []
          Reader.refuse "EOF in backquote substitution"
        | some (text, rest) =>
          Reader.goOn rest
          let script ← Reader.inside text (readList fuel .lines none)
          readPieces fuel surroundings (.command surroundings.isQuoted script :: read)
      | _, '$' => do
        Reader.goOn rest
        match ← readDollar fuel surroundings.isQuoted with
        | some piece => readPieces fuel surroundings (piece :: read)
        | none => readPieces fuel surroundings (addChar surroundings '$' read)
      | .bare, _ | .delimiter, _ =>
        if endsWord c then return read.reverse
        else
          Reader.goOn rest
          readPieces fuel surroundings (addPlain c read)
      | _, _ => do
        Reader.goOn rest
        readPieces fuel surroundings (addChar surroundings c read)

/-- Reads what follows a dollar sign; none if the sign stands for itself. -/
def readDollar : Nat → Bool → Reader (Option Piece)
  | 0, _ => Reader.refuse []
  | fuel + 1, inQuotes => do
    match ← Reader.restJoined with
    | '(' :: rest =>
      Reader.goOn rest
      match ← Reader.restJoined with
      | '(' :: rest =>
        Reader.goOn rest
        return some (.arithmetic inQuotes (← readPieces fuel (.arithmetic 0) []))
      | _ => return some (.command inQuotes (← readNested fuel))
    | '\x7b' :: rest =>
      Reader.goOn rest
      return some (← readBraced fuel inQuotes)
    | c :: rest =>
      if startsName c then
        Reader.goOn ((c :: rest).dropWhile inName)
        return some (.parameter inQuotes ((c :: rest).takeWhile inName) .value)
      else if isSpecial c then
        Reader.goOn rest
        return some (.parameter inQuotes [c] .value)
      else return none
    | [] => return none

/-- Reads a nested script up to the parenthesis that closes it. -/
def readNested : Nat → Reader (Option Command)
  | 0 => Reader.refuse []
  | fuel + 1 => do
    let outer ← get
    set { outer with ahead := none, announced := [] }
    let script ← readList fuel .lines none
    match ← readToken fuel with
    | .operator ")" =>
      Reader.inside [] (readDocuments fuel (← get).announced)
      modify fun inner => { inner with ahead := outer.ahead, announced := outer.announced }
      return script
    | token => unexpected token (some ")")

/-- Reads a parameter after an opening brace. -/
def readBraced : Nat → Bool → Reader Piece
  | 0, _ => Reader.refuse []
  | fuel + 1, inQuotes => do
    let nameAt (text : Octets) : Octets × Octets :=
      match text with
      | c :: rest =>
        if startsName c then text.span inName
        else if c.isDigit then text.span Char.isDigit
        else if isSpecial c then ([c], rest)
        else ([], text)
      | [] => ([], [])
    match ← Reader.restJoined with
    | '#' :: rest =>
      -- A sign in front of a parameter asks for its length, unless it is a parameter itself.
      match nameAt rest with
      | (c :: name, '\x7d' :: behind) =>
        Reader.goOn behind
        return .parameter inQuotes (c :: name) .length
      | (c :: _, behind) =>
        if startsName c || c.isDigit then
          Reader.goOn behind
          let _ ← readPieces fuel (.braces inQuotes) []
          return .parameter inQuotes [] .senseless
        else
          Reader.goOn rest
          return .parameter inQuotes ['#'] (← readForm fuel inQuotes)
      | ([], _) =>
        Reader.goOn rest
        return .parameter inQuotes ['#'] (← readForm fuel inQuotes)
    | text =>
      let (name, rest) := nameAt text
      Reader.goOn rest
      if name.isEmpty then
        if rest.head? ≠ some '\x7d' then Reader.skip
        let _ ← readPieces fuel (.braces inQuotes) []
        return .parameter inQuotes [] .senseless
      else return .parameter inQuotes name (← readForm fuel inQuotes)

/-- Reads what is taken of a parameter, up to the closing brace. -/
def readForm : Nat → Bool → Reader Form
  | 0, _ => Reader.refuse []
  | fuel + 1, inQuotes => do
    let word (rest : Octets) (surroundings : Surroundings) : Reader Word := do
      Reader.goOn rest
      readPieces fuel surroundings []
    let chosen (whenEmpty : Bool) (rest : Octets) : Reader Form := do
      match rest with
      | '-' :: rest => return .default whenEmpty (← word rest (.braces inQuotes))
      | '=' :: rest => return .assign whenEmpty (← word rest (.braces inQuotes))
      | '?' :: rest => return .demand whenEmpty (← word rest (.braces inQuotes))
      | '+' :: rest => return .instead whenEmpty (← word rest (.braces inQuotes))
      | rest =>
        Reader.goOn rest
        Reader.skip
        let _ ← readPieces fuel (.braces inQuotes) []
        return .senseless
    match ← Reader.restJoined with
    | '\x7d' :: rest =>
      Reader.goOn rest
      return .value
    | ':' :: rest =>
      Reader.goOn rest
      chosen true (← Reader.restJoined)
    | '#' :: '#' :: rest => return .cut false true (← word rest (.braces false))
    | '#' :: rest => return .cut false false (← word rest (.braces false))
    | '%' :: '%' :: rest => return .cut true true (← word rest (.braces false))
    | '%' :: rest => return .cut true false (← word rest (.braces false))
    | rest => chosen false rest

/-- Reads the bodies of here-documents. -/
def readDocuments : Nat → List Announced → Reader Unit
  | 0, _ => Reader.refuse []
  | _ + 1, [] => modify fun source => { source with announced := [] }
  | fuel + 1, announced :: others => do
    let (text, rest) := takeDocument announced ((← get).rest.length + 1) false (← get).rest
    Reader.goOn rest
    let body ←
      if announced.expands then Reader.inside text (readPieces fuel .document [])
      else pure [.quoted text]
    modify fun source => { source with documents := source.documents ++ [(announced.number, body)] }
    readDocuments fuel others

/-- Reads a token from the script; `names` says whether it may be a name that another word is read
in place of. -/
def readFresh : Nat → Bool → Reader Token
  | 0, _ => Reader.refuse []
  | fuel + 1, names => do
    skipBlanks ((← get).rest.length + 1)
    let goesOn ← Reader.leaveSubstituted
    match (← get).rest with
    | [] => return .finish
    | '\n' :: rest =>
      Reader.goOn rest
      return .newline
    | c :: rest =>
      if c == '<' || c == '>' then
        Reader.goOn rest
        readRedirector none c
      else if endsWord c then readOperator c rest
      else
        let word ← readPieces fuel .bare []
        match (← get).rest, descriptor? word with
        | c :: rest, some descriptor =>
          if c == '<' || c == '>' then
            Reader.goOn rest
            readRedirector (some descriptor) c
          else return .word word
        | _, _ =>
          match plainText? (.word word) with
          | none => return .word word
          | some text =>
            let isKeyword := names && keywords.contains (String.ofList text)
            let substituted ←
              if (names || goesOn) && !isKeyword then Reader.substitute text else pure false
            if substituted then readFresh fuel true else return .word word

/-- Reads the next token. -/
def readToken : Nat → Reader Token
  | 0 => Reader.refuse []
  | fuel + 1 => do
    match (← get).ahead with
    | some token =>
      modify fun source => { source with ahead := none }
      return token
    | none => readFresh fuel false

/-- Reads the next token, where a command may begin. -/
def readStart : Nat → Reader Token
  | 0 => Reader.refuse []
  | fuel + 1 => do
    match (← get).ahead with
    | some token =>
      modify fun source => { source with ahead := none }
      return token
    | none => readFresh fuel true

/-- Reads the next token that is no line break; bodies of here-documents follow line breaks. -/
def readTokenAcross : Nat → Reader Token
  | 0 => Reader.refuse []
  | fuel + 1 => do
    match ← readToken fuel with
    | .newline =>
      readDocuments fuel (← get).announced
      readTokenAcross fuel
    | token => return token

/-- Reads the next token that is no line break, where a command may begin. -/
def readStartAcross : Nat → Reader Token
  | 0 => Reader.refuse []
  | fuel + 1 => do
    match ← readStart fuel with
    | .newline =>
      readDocuments fuel (← get).announced
      readStartAcross fuel
    | token => return token

/-- Reads commands one after the other, after the given ones. -/
def readList : Nat → Extent → Option Command → Reader (Option Command)
  | 0, _, _ => Reader.refuse []
  | fuel + 1, extent, read => do
    let token ← if extent = .line then readStart fuel else readStartAcross fuel
    match token with
    | .newline =>
      readDocuments fuel (← get).announced
      return read
    | .finish =>
      readDocuments fuel (← get).announced
      Reader.putBack .finish
      return read
    | token =>
      Reader.putBack token
      if endsList token && (extent = .lines || (extent = .someLines && read.isSome)) then
        return read
      else
        let command ← readAndOr fuel
        let next ← readToken fuel
        let command := match next with
          | .operator "&" => .background command
          | _ => command
        let read := sequenceOf read command
        match next with
        | .operator ";" | .operator "&" => readList fuel extent read
        | .newline | .finish =>
          Reader.putBack next
          readList fuel extent read
        | _ =>
          if extent = .line then unexpected next none
          Reader.putBack next
          return read

/-- Reads pipelines joined by conditions. -/
def readAndOr : Nat → Reader Command
  | 0 => Reader.refuse []
  | fuel + 1 => do
    let first ← readPipeline fuel
    readAndOrRest fuel first

/-- Reads the conditions after a command. -/
def readAndOrRest : Nat → Command → Reader Command
  | 0, _ => Reader.refuse []
  | fuel + 1, first => do
    match ← readToken fuel with
    | .operator "&&" =>
      Reader.putBack (← readStartAcross fuel)
      let second ← readPipeline fuel
      readAndOrRest fuel (.both first second)
    | .operator "||" =>
      Reader.putBack (← readStartAcross fuel)
      let second ← readPipeline fuel
      readAndOrRest fuel (.either first second)
    | token =>
      Reader.putBack token
      return first

/-- Reads commands joined by pipes, perhaps with their status negated. -/
def readPipeline : Nat → Reader Command
  | 0 => Reader.refuse []
  | fuel + 1 => do
    let token ← readStart fuel
    let negated := keyword? token = some "!"
    if !negated then Reader.putBack token
    let first ← readCommand fuel
    let parts ← readPipes fuel [first]
    let command := match parts with
      | [only] => only
      | parts => .pipeline parts
    return if negated then .negate command else command

/-- Reads commands behind pipes, given those before, last first. -/
def readPipes : Nat → List Command → Reader (List Command)
  | 0, _ => Reader.refuse []
  | fuel + 1, read => do
    match ← readToken fuel with
    | .operator "|" =>
      Reader.putBack (← readStartAcross fuel)
      let command ← readCommand fuel
      readPipes fuel (command :: read)
    | token =>
      Reader.putBack token
      return read.reverse

/-- Reads a list of commands that is empty only if the script ends with it. -/
def readBody : Nat → Reader Command
  | 0 => Reader.refuse []
  | fuel + 1 => do
    return (← readList fuel .someLines none).getD (.simple 0 [] [] [])

/-- Reads an expected keyword. -/
def readKeyword : Nat → String → Reader Unit
  | 0, _ => Reader.refuse []
  | fuel + 1, word => do
    let token ← readToken fuel
    if keyword? token = some word then pure () else unexpected token (some word)

/-- Reads one command. -/
def readCommand : Nat → Reader Command
  | 0 => Reader.refuse []
  | fuel + 1 => do
    let token ← readStart fuel
    let line := (← get).line
    match token, keyword? token with
    | _, some "if" => readRedirected fuel line (← readBranch fuel)
    | _, some "while" => readRedirected fuel line (← readLoop fuel false)
    | _, some "until" => readRedirected fuel line (← readLoop fuel true)
    | _, some "for" => do
      match (plainText? (← readToken fuel)).filter isName with
      | none => Reader.refuse "Bad for loop variable"
      | some name =>
        let token ← readTokenAcross fuel
        let words ←
          if keyword? token = some "in" then readWords fuel []
          else
            match token with
            | .operator ";" => pure ()
            | token => Reader.putBack token
            pure [[.parameter true ['@'] .value]]
        Reader.putBack (← readTokenAcross fuel)
        readKeyword fuel "do"
        let body ← readBody fuel
        readKeyword fuel "done"
        readRedirected fuel line (.each line name words body)
    | _, some "case" => do
      match ← readToken fuel with
      | .word subject =>
        Reader.putBack (← readTokenAcross fuel)
        readKeyword fuel "in"
        readRedirected fuel line (.choose line subject (← readCases fuel []))
      | token => unexpected token (some "word")
    | _, some "\x7b" => do
      let body ← readBody fuel
      readKeyword fuel "\x7d"
      readRedirected fuel line body
    | .operator "(", _ => do
      let body ← readBody fuel
      match ← readToken fuel with
      | .operator ")" => return .subshell line body (← readRedirections fuel [])
      | token => unexpected token (some ")")
    | .word _, none | .redirect _ _, _ =>
      Reader.putBack token
      readSimple fuel line true [] [] []
    | token, _ => unexpected token none

/-- Reads a loop after its first word. -/
def readLoop : Nat → Bool → Reader Command
  | 0, _ => Reader.refuse []
  | fuel + 1, untilTrue => do
    let test ← readBody fuel
    readKeyword fuel "do"
    let body ← readBody fuel
    readKeyword fuel "done"
    return .loop untilTrue test body

/-- Reads a branch after its first word. -/
def readBranch : Nat → Reader Command
  | 0 => Reader.refuse []
  | fuel + 1 => do
    let test ← readBody fuel
    readKeyword fuel "then"
    let yes ← readBody fuel
    let token ← readToken fuel
    match keyword? token with
    | some "elif" => return .branch test yes (some (← readBranch fuel))
    | some "else" =>
      let no ← readBody fuel
      readKeyword fuel "fi"
      return .branch test yes (some no)
    | some "fi" => return .branch test yes none
    | _ => unexpected token (some "fi")

/-- Reads words up to the end of a line or a semicolon, given those before, last first. -/
def readWords : Nat → List Word → Reader (List Word)
  | 0, _ => Reader.refuse []
  | fuel + 1, read => do
    match ← readToken fuel with
    | .word word => readWords fuel (word :: read)
    | .newline | .operator ";" => return read.reverse
    | token => unexpected token none

/-- Reads the patterns of a case up to their parenthesis, given those before, last first. -/
def readPatterns : Nat → Token → List Word → Reader (List Word)
  | 0, _, _ => Reader.refuse []
  | fuel + 1, token, read => do
    let word := match token with
      | .word word => word
      | _ => []
    match ← readToken fuel with
    | .operator "|" => readPatterns fuel (← readToken fuel) (word :: read)
    | .operator ")" => return (word :: read).reverse
    | token => unexpected token (some ")")

/-- Reads cases, given those before, last first. -/
def readCases :
    Nat → List (List Word × Option Command) → Reader (List (List Word × Option Command))
  | 0, _ => Reader.refuse []
  | fuel + 1, read => do
    let token ← readTokenAcross fuel
    if keyword? token = some "esac" then return read.reverse
    else
      let token ← match token with
        | .operator "(" => readToken fuel
        | token => pure token
      let patterns ← readPatterns fuel token []
      let body ← readList fuel .lines none
      let read := (patterns, body) :: read
      let token ← readTokenAcross fuel
      match token, keyword? token with
      | .operator ";;", _ => readCases fuel read
      | _, some "esac" => return read.reverse
      | token, _ => unexpected token (some ";;")

/-- Reads the redirections after a command. -/
def readRedirected : Nat → Nat → Command → Reader Command
  | 0, _, _ => Reader.refuse []
  | fuel + 1, line, command => do
    match ← readRedirections fuel [] with
    | [] => return command
    | redirections => return .redirected line command redirections

/-- Reads redirections, given those before, last first. -/
def readRedirections : Nat → List Redirection → Reader (List Redirection)
  | 0, _ => Reader.refuse []
  | fuel + 1, read => do
    match ← readToken fuel with
    | .redirect descriptor kind =>
      let redirection ← readRedirection fuel descriptor kind
      readRedirections fuel (redirection :: read)
    | token =>
      Reader.putBack token
      return read.reverse

/-- Reads where a redirection leads. -/
def readRedirection : Nat → Option Nat → String → Reader Redirection
  | 0, _, _ => Reader.refuse []
  | fuel + 1, descriptor, kind => do
    if kind = "<<" || kind = "<<-" then
      skipBlanks ((← get).rest.length + 1)
      match ← readPieces fuel .delimiter [] with
      | [] => unexpected (← readToken fuel) none
      | word =>
        let number ← Reader.announce (literalText word) (isUnquoted word) (kind = "<<-")
        return .here (descriptor.getD 0) number
    else
      match ← readToken fuel with
      | .word file =>
        match kind with
        | "<" => return .read (descriptor.getD 0) file
        | "<>" => return .readWrite (descriptor.getD 0) file
        | "<&" => return .duplicate (descriptor.getD 0) file
        | ">>" => return .append (descriptor.getD 1) file
        | ">&" => return .duplicate (descriptor.getD 1) file
        | kind => return .write (descriptor.getD 1) file (kind = ">|")
      | token => unexpected token none

/-- Reads a simple command or the definition of a function, given the assignments, words and
redirections before, last first; `assigns` says whether words can still be assignments. -/
def readSimple : Nat → Nat → Bool → List (Octets × Word) → List Word → List Redirection →
    Reader Command
  | 0, _, _, _, _, _ => Reader.refuse []
  | fuel + 1, line, assigns, assignments, words, redirections => do
    let finish : Command := .simple line assignments.reverse words.reverse redirections.reverse
    match ← if words.isEmpty then readStart fuel else readToken fuel with
    | .word word =>
      match if assigns then assignment? word else none with
      | some assignment =>
        readSimple fuel line true (assignment :: assignments) words redirections
      | none => readSimple fuel line false assignments (word :: words) redirections
    | .redirect descriptor kind =>
      let redirection ← readRedirection fuel descriptor kind
      readSimple fuel line assigns assignments words (redirection :: redirections)
    | .operator "(" =>
      match assignments, words, redirections with
      | [], [word], [] =>
        match ← readToken fuel with
        | .operator ")" =>
          let name := literalText word
          if isUnquoted word && isName name && !specialBuiltins.contains (String.ofList name) then
            Reader.putBack (← readStartAcross fuel)
            return .define line name (← readCommand fuel)
          else Reader.refuse "Bad function name"
        | token => unexpected token (some ")")
      | _, _, _ =>
        Reader.putBack (.operator "(")
        return finish
    | token =>
      Reader.putBack token
      return finish

end

/-- Fuel that suffices to read a script. -/
def Source.fuel (source : Source) : Nat :=
  16 * (source.rest.length + 8)

/-- Reads the commands of the next line. -/
def Source.nextCommand (source : Source) : Except Malformed (Option Command × Source) :=
  (readList source.fuel .line none).run source

end RepoCatalog.Shell
