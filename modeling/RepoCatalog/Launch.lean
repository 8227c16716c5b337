import RepoCatalog.Association
import RepoCatalog.Failure
import RepoCatalog.File.Tree
import RepoCatalog.Given

/-!
# Launching programs

A launch names a program with its arguments and environment; a launcher answers it with an exit
status or with the reason why nothing was started.
-/

namespace RepoCatalog

/-- Environment variables, each name once. -/
abbrev Environment := List (String × String)

namespace Environment

/-- Environment without a variable. -/
def unset (name : String) (environment : Environment) : Environment :=
  environment.filter (·.1 ≠ name)

end Environment

/-- A program to run. -/
structure Launch where
  /-- The program and its arguments. -/
  arguments : List (Given String)
  /-- Its whole environment; none inherits the present one. -/
  environment : Option Environment
  /-- Whether its output is thrown away. -/
  quiet : Bool
  deriving DecidableEq, Repr

/-- Arguments as a bracketed list of quoted texts. -/
def Launch.shownArguments (arguments : List (Given String)) : String :=
  "[" ++ String.intercalate ", " (arguments.map (Given.shown Text.quoted)) ++ "]"

/-- What comes of a launch. -/
structure Reply where
  /-- What the program wrote. -/
  output : String
  /-- Files as the program left them. -/
  files : FileTree
  /-- Its exit status, or why it was not started. -/
  outcome : Except Failure Int

/-- Something that runs programs: earlier launches, files and environment determine the reply. -/
structure Launcher where
  /-- Reply to a launch. -/
  reply : List Launch → FileTree → Environment → Launch → Reply

namespace Launcher

/-- A launcher whose replies depend on the arguments only. -/
def ofArguments (outcome : List (Given String) → Except Failure Int) : Launcher :=
  ⟨fun _ files _ launch => ⟨"", files, outcome launch.arguments⟩⟩

/-- A launcher that gives the outcome of the first rule whose word occurs among the arguments. -/
def ofRules (rules : List (String × Except Failure Int)) (otherwise : Except Failure Int) :
    Launcher :=
  ofArguments fun arguments =>
    match rules.find? fun rule => arguments.contains (.value rule.1) with
    | some rule => rule.2
    | none => otherwise

end Launcher

end RepoCatalog
