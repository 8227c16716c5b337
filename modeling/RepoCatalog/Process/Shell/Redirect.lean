import RepoCatalog.Process.Shell.Expansion

/-!
# Redirections

Descriptors are led elsewhere for a command, and back again after it.
-/

namespace RepoCatalog.Shell

open Act

/-- A redirection whose words are expanded. -/
inductive Redirected
  | opened (descriptor : Nat) (opening : Opening) (exclusive : Bool) (path : Octets)
  | copied (descriptor : Nat) (source : Option Nat)
  | held (descriptor : Nat) (text : Octets)

/-- Descriptor that is led elsewhere. -/
def Redirected.descriptor : Redirected → Nat
  | opened descriptor _ _ _ => descriptor
  | copied descriptor _ => descriptor
  | held descriptor _ => descriptor

/-- Words for a file that cannot be opened. -/
def openingMessage (opening : Opening) (path : Octets) (fault : FileFault) : Octets :=
  let missing := fault = .noEntry || fault = .notDirectory
  if opening.creates then
    "cannot create " ++ path ++ ": "
      ++ Octets.ofString (if missing then "Directory nonexistent" else fault.reason)
  else
    "cannot open " ++ path ++ ": "
      ++ Octets.ofString (if missing then "No such file" else fault.reason)

/-- Expands the words of a redirection. -/
def expandRedirection (runner : Runner) : Redirection → Act Redirected
  | .read descriptor file => return .opened descriptor .read false (← expandText runner file)
  | .readWrite descriptor file =>
    return .opened descriptor .readWrite false (← expandText runner file)
  | .append descriptor file => return .opened descriptor .append false (← expandText runner file)
  | .write descriptor file force => do
    let exclusive := !force && (← process).options.contains 'C'
    return .opened descriptor .write exclusive (← expandText runner file)
  | .duplicate descriptor source => do
    match ← expandText runner source with
    | ['-'] => return .copied descriptor none
    | [c] =>
      if c.isDigit then return .copied descriptor (some (c.toNat - 48))
      else fail "Syntax error: Bad fd number"
    | _ => fail "Syntax error: Bad fd number"
  | .here descriptor document => do
    let body := ((← process).documents.lookup document).getD []
    return .held descriptor (← expandText runner body)

/-- Leads a descriptor elsewhere. -/
def Redirected.apply : Redirected → Act Unit
  | opened descriptor opening exclusive path => do
    match ← openStream opening exclusive path with
    | .ok stream => connect descriptor (some stream)
    | .error fault => fail (openingMessage opening path fault)
  | copied descriptor none => connect descriptor none
  | copied descriptor (some source) => do
    match ← stream? source with
    | some stream => connect descriptor (some stream)
    | none => fail (Octets.ofNat source ++ ": " ++ Octets.ofString FileFault.badDescriptor.reason)
  | held descriptor text => do
    connect descriptor (some (← addStream ⟨.buffer text, 0, true, false, false⟩))

/-- Leads descriptors back to where they led before. -/
def leadBack (redirected : List Redirected) (before : List (Nat × Nat)) : Act Unit :=
  redirected.forM fun one => connect one.descriptor (before.lookup one.descriptor)

/-- Leads descriptors elsewhere and tells whether that was possible; the shell goes on in any
case. -/
def applyAll (redirected : List Redirected) : Act Bool :=
  tryCatch (do
    redirected.forM Redirected.apply
    return true) fun interrupt =>
    match interrupt with
    | .failed => return false
    | interrupt => throw interrupt

/-- Runs an action with descriptors led elsewhere; if that is not possible, another one. -/
def withRedirections (runner : Runner) (redirections : List Redirection) (action : Act Unit)
    (otherwise : Act Unit) : Act Unit := do
  if redirections.isEmpty then action
  else
    let redirected ← redirections.mapM (expandRedirection runner)
    let before := (← process).descriptors
    try
      if ← applyAll redirected then action else otherwise
    finally
      leadBack redirected before

end RepoCatalog.Shell
