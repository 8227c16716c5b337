import RepoCatalog.File.Directories
import RepoCatalog.Failure

/-!
# Locating a companion program

Strategies propose a path for a companion of the running program; the first one that leads to
something other than a directory is taken.
-/

namespace RepoCatalog

/-- A way to propose a path for a program, given its name and how the running program was called. -/
abbrev Strategy := String → String → Option String

namespace Strategy

/-- Text with every occurrence of a part replaced, from the left; fuel bounds the steps. -/
def replaceChars (part replacement : List Char) : Nat → List Char → List Char
  | 0, text => text
  | _ + 1, [] => []
  | fuel + 1, c :: rest =>
    if part.isPrefixOf (c :: rest) then
      replacement ++ replaceChars part replacement fuel ((c :: rest).drop part.length)
    else c :: replaceChars part replacement fuel rest

/-- String with every occurrence of a non-empty part replaced. -/
def replaceAll (part replacement text : String) : String :=
  String.ofList (replaceChars part.toList replacement.toList text.length text.toList)

/-- A sibling of the running program. -/
def adjacent : Strategy := fun name invocation =>
  if invocation = "" then none else some (joinPath (directoryName invocation) name)

/-- The call of the running program with its own name replaced everywhere. -/
def substitute : Strategy := fun name invocation =>
  let base := baseName invocation
  if base = "" then none else some (replaceAll base name invocation)

/-- Strategies asked by default. -/
def defaults : List Strategy := [adjacent, substitute]

end Strategy

/-- Result of a search. -/
structure Search where
  /-- The strategies that were asked, in order. -/
  asked : List Strategy
  /-- The path or name found, or why the search broke off. -/
  outcome : Except Failure String

namespace Search

/-- Whether a path leads to something other than a directory. -/
def isUsable (files : FileTree) (candidate : String) : Except Failure Bool :=
  let path := (FilePath.ofString candidate).text
  if hasNull path then .ok false
  else
    match files.inspect path with
    | .ok entry => .ok (entry ≠ .directory)
    | .error fault =>
      if fault.meansMissing then .ok false else .error (.system (fault.about path))

/-- Asks strategies in order, after others were asked; without success the bare name is left. -/
def run (usable : String → Except Failure Bool) (name invocation : String) :
    List Strategy → List Strategy → Search
  | asked, [] => ⟨asked, .ok name⟩
  | asked, strategy :: rest =>
    let asked := asked ++ [strategy]
    match strategy name invocation with
    | none => run usable name invocation asked rest
    | some candidate =>
      if candidate = "" then run usable name invocation asked rest
      else
        match usable candidate with
        | .error failure => ⟨asked, .error failure⟩
        | .ok true => ⟨asked, .ok candidate⟩
        | .ok false => run usable name invocation asked rest

end Search

/-- Search for a program by strategies. -/
def locate (files : FileTree) (strategies : List Strategy) (name invocation : String) : Search :=
  Search.run (Search.isUsable files) name invocation [] strategies

end RepoCatalog
