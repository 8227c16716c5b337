import RepoCatalog.Process.Regex
import RepoCatalog.Process.Tool.Basic

/-!
# Expressions as arguments

A program that evaluates the expression that its arguments write. Values are texts; those that write
whole numbers can be calculated with.
-/

namespace RepoCatalog.Tool

open Act

/-- Why an expression has no value. -/
inductive ExprFault
  | unfinished
  | expecting
  | malformed (message : Octets)
  | notANumber
  | byZero

/-- Number that a value is. -/
def exprNumber (text : Octets) : Except ExprFault Int :=
  match text with
  | '-' :: digits => match natural? digits with
    | some n => .ok (-(n : Int))
    | none => .error .notANumber
  | digits => match natural? digits with
    | some n => .ok n
    | none => .error .notANumber

/-- Whether a value counts as nothing. -/
def isNull (text : Octets) : Bool :=
  text.isEmpty || (match text with
    | '-' :: rest => !rest.isEmpty && rest.all (· = '0')
    | rest => rest.all (· = '0'))

/-- What an expression matches at the beginning of a text: its first group, or else how long it
is. -/
def exprMatch (text pattern : Octets) : Except ExprFault Octets :=
  match Regex.ofText? false pattern with
  | none => .error (.malformed (Regex.complaint false pattern))
  | some expression =>
    let grouped := occursGroup pattern
    match Regex.matchAt? false expression ⟨none, 0, text, []⟩ with
    | some found =>
      .ok (if grouped then (found.groups.lookup 1).getD [] else Octets.ofNat found.taken)
    | none => .ok (if grouped then [] else ['0'])
where
  occursGroup : Octets → Bool
    | '\\' :: '(' :: _ => true
    | '\\' :: _ :: rest => occursGroup rest
    | _ :: rest => occursGroup rest
    | [] => false

/-- Operators by rank, those that bind most tightly last. -/
def exprOperators : List (List String) :=
  [["|"], ["&"], ["<", "<=", "=", "==", "!=", ">=", ">"], ["+", "-"], ["*", "/", "%"], [":"]]

/-- Value of an operator between two values. -/
def exprApply (operator : String) (left right : Octets) : Except ExprFault Octets := do
  let truth (holds : Bool) : Octets := if holds then ['1'] else ['0']
  let compare (numbers : Int → Int → Bool) (texts : Octets → Octets → Bool) :
      Except ExprFault Octets :=
    match exprNumber left, exprNumber right with
    | .ok left, .ok right => .ok (truth (numbers left right))
    | _, _ => .ok (truth (texts left right))
  let calculate (f : Int → Int → Int) : Except ExprFault Octets := do
    let left ← exprNumber left
    return Octets.ofInt (f left (← exprNumber right))
  let divide (f : Int → Int → Int) : Except ExprFault Octets := do
    let left ← exprNumber left
    let right ← exprNumber right
    if right = 0 then throw .byZero
    return Octets.ofInt (f left right)
  match operator with
  | "|" => return if !isNull left then left else if isNull right then ['0'] else right
  | "&" => return if isNull left || isNull right then ['0'] else left
  | "<" => compare (· < ·) Octets.isBefore
  | "<=" => compare (· ≤ ·) fun a b => !Octets.isBefore b a
  | "=" | "==" => compare (· == ·) (· == ·)
  | "!=" => compare (· != ·) (· != ·)
  | ">=" => compare (· ≥ ·) fun a b => !Octets.isBefore a b
  | ">" => compare (· > ·) fun a b => Octets.isBefore b a
  | "+" => calculate (· + ·)
  | "-" => calculate (· - ·)
  | "*" => calculate (· * ·)
  | "/" => divide Int.tdiv
  | "%" => divide Int.tmod
  | _ => exprMatch left right

mutual

/-- Evaluates operators of a rank. -/
def exprRank : Nat → List (List String) → List Octets → Except ExprFault (Octets × List Octets)
  | 0, _, _ => .error (.malformed "syntax error")
  | fuel + 1, [], words => exprPrimary fuel words
  | fuel + 1, rank :: ranks, words => do
    let (left, rest) ← exprRank fuel ranks words
    exprMore fuel (rank :: ranks) left rest

/-- Evaluates more operators of a rank behind a value. -/
def exprMore :
    Nat → List (List String) → Octets → List Octets → Except ExprFault (Octets × List Octets)
  | 0, _, _, _ => .error (.malformed "syntax error")
  | fuel + 1, ranks, left, words => do
    match words with
    | word :: rest =>
      if (ranks.head?.getD []).any fun operator => operator.toList == word then
        let (right, rest) ← exprRank fuel (ranks.drop 1) rest
        exprMore fuel ranks (← exprApply (String.ofList word) left right) rest
      else return (left, words)
    | [] => return (left, [])

/-- Evaluates a word, a function or an expression in parentheses. -/
def exprPrimary : Nat → List Octets → Except ExprFault (Octets × List Octets)
  | 0, _ => .error (.malformed "syntax error")
  | fuel + 1, words => do
    match words with
    | [] => throw .unfinished
    | ['('] :: rest =>
      let (value, rest) ← exprRank fuel exprOperators rest
      match rest with
      | [')'] :: rest => return (value, rest)
      | [] => throw .expecting
      | word :: _ => throw (.malformed ("syntax error: expecting ')' instead of '" ++ word ++ "'"))
    | [')'] :: _ => throw (.malformed "syntax error: unexpected ')'")
    | ['+'] :: word :: rest => return (word, rest)
    | word :: rest =>
      match String.ofList word, rest with
      | "length", _ :: _ =>
        let (text, rest) ← exprPrimary fuel rest
        return (Octets.ofNat text.length, rest)
      | "match", _ :: _ =>
        let (text, rest) ← exprPrimary fuel rest
        let (pattern, rest) ← exprPrimary fuel rest
        return (← exprMatch text pattern, rest)
      | "index", _ :: _ =>
        let (text, rest) ← exprPrimary fuel rest
        let (set, rest) ← exprPrimary fuel rest
        return (Octets.ofNat ((text.findIdx? set.contains).map (· + 1) |>.getD 0), rest)
      | "substr", _ :: _ =>
        let (text, rest) ← exprPrimary fuel rest
        let (first, rest) ← exprPrimary fuel rest
        let (size, rest) ← exprPrimary fuel rest
        match exprNumber first, exprNumber size with
        | .ok first, .ok size =>
          return (if first ≤ 0 || size ≤ 0 then [] else
            (text.drop (first.toNat - 1)).take size.toNat, rest)
        | _, _ => return ([], rest)
      | _, _ => return (word, rest)

end

/-- Evaluates an expression. -/
def expr : Tool := fun _ name arguments => do
  let words := if arguments.head? = some ['-', '-'] then arguments.drop 1 else arguments
  if words.isEmpty then return ← missing name 2
  match exprRank (16 * (words.length + 2)) exprOperators words with
  | .ok (value, []) =>
    let status ← write name (value ++ ['\n'])
    return if status ≠ 0 then 3 else if isNull value then 1 else 0
  | .ok (_, word :: _) =>
    complain name ("syntax error: unexpected argument '" ++ word ++ ['\x27'])
    return 2
  | .error .unfinished =>
    complain name ("syntax error: missing argument after '" ++ (words.getLast?.getD []) ++ "'")
    return 2
  | .error .expecting =>
    complain name ("syntax error: expecting ')' after '" ++ (words.getLast?.getD []) ++ "'")
    return 2
  | .error (.malformed message) =>
    complain name message
    return 2
  | .error .notANumber =>
    complain name "non-integer argument"
    return 2
  | .error .byZero =>
    complain name "division by zero"
    return 2

end RepoCatalog.Tool
