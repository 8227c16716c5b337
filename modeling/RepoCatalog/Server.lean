import RepoCatalog.Failure
import RepoCatalog.Given
import RepoCatalog.Json.Value

/-!
# The GitLab server

What a client asks of a GitLab instance, and what the instance answers.
-/

namespace RepoCatalog

/-- The proxies of a session, one for each scheme of what is asked for. -/
structure Proxies where
  /-- Proxy for plain traffic. -/
  http : String
  /-- Proxy for encrypted traffic. -/
  https : String
  deriving DecidableEq, Repr

/-- One proxy for all traffic. -/
def Proxies.same (proxy : String) : Proxies := ⟨proxy, proxy⟩

/-- How a client is set up. -/
structure ClientSettings where
  /-- Root address of the instance. -/
  address : String
  /-- Access token; none for an anonymous client. -/
  token : Option String
  /-- Seconds before a request is given up; none waits forever. -/
  timeout : Option (Given Int)
  /-- Whether certificates are verified. -/
  verifies : Bool
  /-- Proxies of the session that the client is given; none without a session of its own. -/
  proxies : Option Proxies
  deriving DecidableEq, Repr

/-- A group of projects, by path or by number. -/
inductive ProjectGroup
  | path (name : Given String)
  | number (id : Int)
  deriving DecidableEq, Repr

/-- How messages name a group. -/
def ProjectGroup.shown : ProjectGroup → String
  | path name => name.shown id
  | number id => toString id

/-- A request for one page of projects. -/
structure PageRequest where
  /-- Group whose projects are listed; none lists all accessible projects. -/
  group : Option ProjectGroup
  /-- Number of the page. -/
  page : Int
  /-- Projects per page. -/
  perPage : Given Int
  /-- Restriction to archived projects or to the others. -/
  archived : Option Bool
  deriving DecidableEq, Repr

/-- One page of projects. -/
structure Page where
  /-- Project records. -/
  records : List Json
  /-- Number of the next page; none or zero on the last page. -/
  next : Option Int
  deriving Repr

/-- Page after the last answer: no records and no next page. -/
def Page.empty : Page := ⟨[], none⟩

/-- How an instance answers, in the order in which it is asked. -/
structure Server where
  /-- Why no client can be set up, if none can. -/
  refusal : Option Failure
  /-- Why authentication fails, if it does. -/
  rejection : Option Failure
  /-- Answers to page requests; when they are used up, every page is empty. -/
  answers : List (Except Failure Page)

namespace Server

/-- Answer to the next page request. -/
def answer (server : Server) : Except Failure Page :=
  server.answers.head?.getD (.ok Page.empty)

/-- The server after the next page request. -/
def afterAnswer (server : Server) : Server :=
  { server with answers := server.answers.tail }

end Server

end RepoCatalog
