import RepoCatalog.Failure
import RepoCatalog.HostLiteral
import RepoCatalog.Text.Blank

/-!
# Addresses

Normal forms of the addresses of a GitLab instance and of a proxy.
-/

namespace RepoCatalog

/-- Whether one text occurs inside another. -/
def occurs (part : List Char) : List Char → Bool
  | [] => part.isEmpty
  | c :: rest => part.isPrefixOf (c :: rest) || occurs part rest

theorem occurs_iff (part text : List Char) : occurs part text = true ↔ part <:+: text := by
  induction text with
  | nil => simp [occurs]
  | cons c rest induction =>
      simp [occurs, induction, List.infix_cons_iff]

/-- What separates the scheme of an address from the rest. -/
def schemeMark : List Char := [':', '/', '/']

/-- Path of the programming interface below the root of an instance. -/
def interfacePath : List Char := ['/', 'a', 'p', 'i', '/', 'v', '4']

/-- Text without an ending, if it has it. -/
def withoutEnding (ending text : List Char) : List Char :=
  if ending.isSuffixOf text then text.take (text.length - ending.length) else text

/-- Address with a scheme. -/
def withScheme (scheme address : List Char) : List Char :=
  if occurs schemeMark address then address else scheme ++ schemeMark ++ address

/-- Root address of an instance, from any spelling of it. -/
def instanceRootChars (address : List Char) : List Char :=
  withoutEnding interfacePath
    (withScheme ['h', 't', 't', 'p', 's'] (Text.dropEndWhile (· == '/') (Text.strip address)))

/-- Root address of an instance, from any spelling of it. -/
def instanceRoot (address : String) : String :=
  String.ofList (instanceRootChars address.toList)

/-- Scheme and host of an address. -/
structure AddressParts where
  /-- What stands before the first colon, if it is a scheme. -/
  scheme : List Char
  /-- What stands between two slashes and the path, query or fragment. -/
  host : List Char
  deriving DecidableEq, Repr

/-- Whether a character is an ASCII letter. -/
def isAsciiLetter (c : Char) : Bool :=
  ('a' ≤ c && c ≤ 'z') || ('A' ≤ c && c ≤ 'Z')

/-- Whether a character may stand in a scheme. -/
def isSchemeChar (c : Char) : Bool :=
  isAsciiLetter c || ('0' ≤ c && c ≤ '9') || c == '+' || c == '-' || c == '.'

/-- Whether a text is a scheme. -/
def isScheme (text : List Char) : Bool :=
  (text.head?.map isAsciiLetter).getD false && text.all isSchemeChar

/-- Scheme of an address and what follows its colon; no scheme leaves the address whole. -/
def splitScheme (address : List Char) : List Char × List Char :=
  match address.span (· != ':') with
  | (scheme, _ :: rest) => if isScheme scheme then (scheme, rest) else ([], address)
  | (_, []) => ([], address)

/-- Host at the start of an address without scheme. -/
def hostOf : List Char → List Char
  | '/' :: '/' :: rest => rest.takeWhile fun c => c != '/' && c != '?' && c != '#'
  | _ => []

/-- Code points that stand for text containing one of `/`, `?`, `#`, `@` and `:`. -/
def deceptiveCodes : List Nat :=
  [8263, 8264, 8265, 8448, 8449, 8453, 8454, 10868, 65043, 65046, 65109, 65110, 65119, 65131, 65283,
  65295, 65306, 65311, 65312]

/-- Whether a host contains a character that stands for a separator. -/
def isDeceptive (host : List Char) : Bool :=
  host.any fun c => deceptiveCodes.contains c.toNat

/-- What follows the last user name of a host. -/
def withoutUser (host : List Char) : List Char :=
  (host.reverse.takeWhile (· != '@')).reverse

/-- The name that a host with brackets stands for: what is between them, with nothing in front of
them and nothing but a number after a colon behind them. -/
def bracketedName (host : List Char) : Except Failure (List Char) :=
  match (withoutUser host).span (· != '[') with
  | ([], _ :: inside) =>
    let (name, rest) := inside.span (· != ']')
    match rest with
    | [] | [_] | _ :: ':' :: _ => .ok name
    | _ => .error .unbalancedBrackets
  | (_, _ :: _) => .error .unbalancedBrackets
  | (name, []) => .ok (name.takeWhile (· != ':'))

/-- Refuses a name in brackets that is no numeric address of the kind that needs them. -/
def checkBracketed (name : List Char) : Except Failure Unit :=
  if name.head? = some 'v' then
    if HostLiteral.isFuture name then .ok () else .error .badFutureHost
  else
    match HostLiteral.kind? name with
    | some .groups => .ok ()
    | some .octets => .error .bracketedOctets
    | none => .error (.notAHostLiteral (String.ofList name))

/-- Refuses a host whose brackets do not hold a numeric address. -/
def checkBrackets (host : List Char) : Except Failure Unit :=
  match host.contains '[', host.contains ']' with
  | true, true => (bracketedName host).bind checkBracketed
  | false, false => .ok ()
  | _, _ => .error .unbalancedBrackets

/-- Address as far as it counts: without control characters and spaces in front, and without line
breaks and tabs. -/
def tidyAddress (address : List Char) : List Char :=
  (address.dropWhile (· ≤ ' ')).filter fun c => c != '\t' && c != '\r' && c != '\n'

/-- Scheme and host of an address. -/
def parseAddress (address : List Char) : Except Failure AddressParts := do
  let (scheme, rest) := splitScheme (tidyAddress address)
  let host := hostOf rest
  checkBrackets host
  if isDeceptive host then throw (.deceptiveHost (String.ofList host))
  return ⟨scheme, host⟩

/-- Normal form of a proxy address; blank text stands for no proxy. -/
def normalizeProxy (proxy : String) : Except Failure String :=
  let stripped := Text.strip proxy.toList
  if stripped.isEmpty then .ok ""
  else
    let address := withScheme ['h', 't', 't', 'p'] stripped
    match parseAddress address with
    | .error failure => .error failure
    | .ok parts =>
      if parts.scheme.isEmpty || parts.host.isEmpty then .error (.invalidProxy proxy)
      else .ok (String.ofList address)

end RepoCatalog
