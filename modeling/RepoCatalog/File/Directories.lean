import RepoCatalog.File.Tree

/-!
# Directories on the way to a file

Making a directory with all its ancestors, and the location a path stands for once its symbolic
links are expanded.
-/

namespace RepoCatalog.FileTree

/-- Whether a path leads to a directory; a path that leads nowhere does not. -/
def isDirectory (tree : FileTree) (path : String) : Except FileFault Bool :=
  match tree.inspect path with
  | .ok entry => .ok (entry = .directory)
  | .error fault => if fault.meansMissing then .ok false else .error fault

/-- Whether a path leads to something; one that cannot be followed does not. -/
def exists? (tree : FileTree) (path : String) : Except FileFault Bool :=
  match tree.inspect path with
  | .ok _ => .ok true
  | .error fault => if fault.meansMissing then .ok false else .error fault

/-- Outcome of an attempt to make a directory that may be there already. -/
def tolerate (tree : FileTree) (path : FilePath) (fault : FileFault) :
    Except SystemError FileTree :=
  match tree.isDirectory path.text with
  | .ok true => .ok tree
  | .ok false => .error (fault.about path.text)
  | .error fault => .error (fault.about path.text)

/-- Makes one directory that may be there already. -/
def ensureOne (tree : FileTree) (path : FilePath) : Except SystemError FileTree :=
  match tree.makeDirectory path.text with
  | .ok made => .ok made
  | .error .noEntry => .error (FileFault.noEntry.about path.text)
  | .error fault => tree.tolerate path fault

/-- Makes a directory and its missing ancestors, names innermost first; the tree keeps those made
before a failure. -/
def ensureNames (root : PathRoot) : List String → FileTree → FileTree × Option SystemError
  | [], tree =>
    match tree.ensureOne ⟨root, []⟩ with
    | .ok made => (made, none)
    | .error problem => (tree, some problem)
  | name :: outer, tree =>
    let path : FilePath := ⟨root, (name :: outer).reverse⟩
    match tree.makeDirectory path.text with
    | .ok made => (made, none)
    | .error .noEntry =>
      match ensureNames root outer tree with
      | (tree, some problem) => (tree, some problem)
      | (tree, none) =>
        match tree.ensureOne path with
        | .ok made => (made, none)
        | .error problem => (tree, some problem)
    | .error fault =>
      match tree.tolerate path fault with
      | .ok made => (made, none)
      | .error problem => (tree, some problem)

/-- Makes a directory and its missing ancestors. -/
def ensureDirectory (tree : FileTree) (path : FilePath) : FileTree × Option SystemError :=
  ensureNames path.root path.names.reverse tree

/-- Names below a place where expansion got stuck; a rest that starts with a slash stands alone. -/
def joinRest (stuck : Location) : List String → Location
  | "" :: name :: rest => name :: rest
  | rest => stuck ++ rest

/-- Expands links along names; `follow` gives the expansion of a link's target, or the place where
its expansion comes back to a link under way. -/
def settleWith (tree : FileTree)
    (follow : Location → Location → List String → Except Location Location) :
    Location → List String → Except Location Location
  | place, [] => .ok place
  | place, name :: rest =>
    if name = "" || name = "." then settleWith tree follow place rest
    else if name = ".." then settleWith tree follow place.dropLast rest
    else
      let next := place ++ [name]
      match tree.get? next with
      | some (.link target) =>
        match follow next (if isAbsolute target then [] else place) (components target) with
        | .ok place => settleWith tree follow place rest
        | .error stuck => .error (joinRest stuck rest)
      | _ => settleWith tree follow next rest

/-- Expands links along names, given the links under way and a bound on their nesting. -/
def settleFrom (tree : FileTree) :
    Nat → List Location → Location → List String → Except Location Location
  | 0, _ => settleWith tree fun link _ _ => .error link
  | depth + 1, underWay =>
    settleWith tree fun link place names =>
      if underWay.contains link then .error link
      else settleFrom tree depth (link :: underWay) place names

/-- Names without `.` and empty ones, with `..` cancelling the name before it. -/
def collapse (names : List String) : Location :=
  names.foldl (fun place name =>
    if name = "" || name = "." then place
    else if name = ".." then place.dropLast
    else place ++ [name]) []

/-- The location a path stands for; a loop of links is left in place, with what follows it. -/
def settle (tree : FileTree) (path : String) : Location :=
  match settleFrom tree tree.entries.length []
    (if isAbsolute path then [] else tree.working) (components path) with
  | .ok place => place
  | .error stuck => collapse stuck

/-- Absolute path of a location. -/
def absoluteText (place : Location) : String :=
  "/" ++ String.intercalate "/" place

end RepoCatalog.FileTree
