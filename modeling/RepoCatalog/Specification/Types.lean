import RepoCatalog.Given
import RepoCatalog.Json.Display
import RepoCatalog.Json.Writer

/-!
# Index specifications

What the indexer is told: a name and, for each repository, where it is cloned, what it is called,
which revisions are indexed, how it is shown and how it is cloned. Members whose value is zero, such
as empty texts, are left out of the written form.
-/

namespace RepoCatalog

/-- How a repository is shown and where it is cloned from. -/
structure Metadata where
  /-- Address of its page. -/
  github : Json
  /-- Address it is cloned from. -/
  remote : Json
  /-- Template of links to its files. -/
  urlPattern : String
  deriving Repr

/-- How a repository is cloned. -/
structure CloneOptions where
  /-- Number of commits to fetch; zero fetches all. -/
  depth : Int
  /-- Name of the user. -/
  username : String
  /-- Environment variable that holds the password. -/
  passwordVariable : String
  deriving DecidableEq, Repr

/-- One repository of a specification. -/
structure RepositoryEntry where
  /-- Where its clone lives. -/
  path : String
  /-- Its name. -/
  name : String
  /-- Revisions to index. -/
  revisions : List (Given String)
  /-- How it is shown, if that is said. -/
  metadata : Option Metadata
  /-- How it is cloned, if that is said. -/
  cloneOptions : Option CloneOptions
  deriving Repr

/-- An index specification. -/
structure Specification where
  /-- Name of the index. -/
  name : String
  /-- Its repositories, in order. -/
  repositories : List RepositoryEntry
  deriving Repr

/-- Members whose value is not zero. -/
def dropEmpty (members : List (String × Json)) : List (String × Json) :=
  members.filter (·.2.isTruthy)

namespace Metadata

/-- Written form of metadata. -/
def toJson (metadata : Metadata) : Json :=
  .object (dropEmpty [("github", metadata.github), ("remote", metadata.remote),
    ("url_pattern", .string metadata.urlPattern)])

end Metadata

namespace CloneOptions

/-- Written form of clone options. -/
def toJson (options : CloneOptions) : Json :=
  .object (dropEmpty [("depth", .integer options.depth), ("username", .string options.username),
    ("password_env", .string options.passwordVariable)])

end CloneOptions

namespace RepositoryEntry

/-- Written form of a revision; nothing is written as an empty array. -/
def revisionJson : Given String → Json
  | .value revision => .string revision
  | .nothing => .array []

/-- Written form of an entry. -/
def toJson (entry : RepositoryEntry) : Json :=
  .object (dropEmpty [("path", .string entry.path), ("name", .string entry.name),
    ("revisions", .array (entry.revisions.map revisionJson)),
    ("metadata", (entry.metadata.map Metadata.toJson).getD .null),
    ("clone_options", (entry.cloneOptions.map CloneOptions.toJson).getD .null)])

end RepositoryEntry

namespace Specification

/-- Written form of a specification. -/
def toJson (specification : Specification) : Json :=
  .object (dropEmpty [("name", .string specification.name),
    ("repositories", .array (specification.repositories.map RepositoryEntry.toJson))])

end Specification

/-- Text of a specification. -/
def Specification.render (specification : Specification) : Except Failure String :=
  if specification.toJson.hasLongNumber then .error .numberTooLong
  else .ok specification.toJson.pretty

end RepoCatalog
