import RepoCatalog.Address
import RepoCatalog.Progress
import RepoCatalog.Repository
import RepoCatalog.World

/-!
# Discovery

Connecting to a GitLab instance and listing its projects, group by group and page by page. A failure
on any page ends the whole discovery.
-/

namespace RepoCatalog

open Effect

/-- What a connection needs to know. -/
structure Connection where
  /-- Address of the instance. -/
  address : Given String
  /-- Access token; the empty text for none. -/
  token : String
  /-- Seconds before a request is given up; none waits forever. -/
  timeout : Option (Given Int)
  /-- Proxy, if one is given. -/
  proxy : Option String
  /-- Whether certificates are verified. -/
  verifies : Bool
  deriving DecidableEq, Repr

namespace Connection

/-- Normal form of the proxy, if one is given. -/
def proxy? (connection : Connection) : Except Failure (Option String) :=
  match connection.proxy with
  | none => .ok none
  | some proxy => if proxy = "" then .ok none else (normalizeProxy proxy).map some

/-- Root address of the instance; nothing has no root. -/
def root (connection : Connection) : Except Failure String :=
  match connection.address with
  | .value address => .ok (instanceRoot address)
  | .nothing => .error .missingAttribute

/-- How the client of a connection to an address is set up. -/
def settings (connection : Connection) (address : String) (proxy : Option String) :
    ClientSettings :=
  ⟨address, if connection.token = "" then none else some connection.token, connection.timeout,
    connection.verifies, proxy.map Proxies.same⟩

/-- Sets up a client. -/
def construct (settings : ClientSettings) : Effect Unit := do
  note (.connected settings)
  match (← get).server.refusal with
  | some failure => throw failure
  | none => pure ()

/-- Authenticates the client. -/
def authenticate (address : String) : Effect Unit := do
  note .authenticated
  match (← get).server.rejection with
  | some failure => throw failure
  | none => log .debug ("Authenticated to GitLab: " ++ address)

/-- Sets up a client, authenticated if there is a token. -/
def connect (connection : Connection) : Effect Unit := do
  let address ← ofExcept connection.root
  log .debug ("Connecting to GitLab: " ++ address)
  let proxy ← ofExcept connection.proxy?
  if !connection.verifies then
    log .warning ("TLS certificate verification is disabled for " ++ address)
  reword Failure.isRemote .clientUnavailable do
    construct (connection.settings address proxy)
    if connection.token ≠ "" then authenticate address

end Connection

namespace Page

/-- Number of the next page, if there is one. -/
def next? (page : Page) : Option Int :=
  page.next.filter (· ≠ 0)

end Page

namespace Discovery

/-- Asks for one page. -/
def listPage (request : PageRequest) : Effect Page := do
  note (.listed request)
  let server := (← get).server
  modify fun world => { world with server := server.afterAnswer }
  ofExcept server.answer

/-- Lists pages from one on, adding to the repositories found; fuel bounds the number of pages. -/
def sweepFrom (request : Int → PageRequest) :
    Nat → Int → List Repository → Effect (List Repository)
  | 0, _, found => pure found
  | fuel + 1, number, found => do
    let page ← listPage (request number)
    let repositories ← ofExcept (Repository.ofRecords page.records)
    let found := found ++ repositories
    match page.next? with
    | none => pure found
    | some next => sweepFrom request fuel next found

/-- Lists all pages, from the first one on. -/
def sweep (label : String) (request : Int → PageRequest) : Effect (List Repository) := do
  let world ← get
  let _ ← ofExcept (Progress.layout world.environment Progress.defaultColumns)
  let found ← sweepFrom request (world.server.answers.length + 1) 1 []
  log .debug ("Listed " ++ toString found.length ++ " projects from " ++ label ++ ".")
  return found

/-- Request for a page of a group. -/
def groupRequest (perPage : Given Int) (group : ProjectGroup) (page : Int) : PageRequest :=
  ⟨some group, page, perPage, none⟩

/-- Request for a page of all accessible projects. -/
def globalRequest (perPage : Given Int) (archived : Option Bool) (page : Int) : PageRequest :=
  ⟨none, page, perPage, archived⟩

/-- Lists the projects of groups, one group after the other. -/
def sweepGroups (perPage : Given Int) : List ProjectGroup → Effect (List Repository)
  | [] => pure []
  | group :: rest => do
    let found ← sweep ("group: " ++ group.shown) (groupRequest perPage group)
    return found ++ (← sweepGroups perPage rest)

/-- Lists the projects of groups, or all accessible ones if no group is given. -/
def sweepAll (groups : List ProjectGroup) (perPage : Given Int) (archived : Option Bool) :
    Effect (List Repository) :=
  if groups.isEmpty then sweep "accessible projects" (globalRequest perPage archived)
  else sweepGroups perPage groups

/-- Discovers the repositories of groups, or all accessible ones if no group is given. -/
def discover (groups : List ProjectGroup) (perPage : Given Int) (archived : Option Bool) :
    Effect (List Repository) := do
  let found ← reword Failure.isRemote .listingFailed (sweepAll groups perPage archived)
  log .info ("Discovered " ++ toString found.length ++ " projects in "
    ++ (← get).clock.elapsed ++ " seconds.")
  return found

end Discovery

end RepoCatalog
