import RepoCatalog.Launch
import RepoCatalog.Number.Numeral

/-!
# The terminal

How wide the terminal is, as far as the environment says.
-/

namespace RepoCatalog.Terminal

/-- Columns of the terminal, as the environment says. -/
def columns (environment : Environment) (fallback : Int) : Int :=
  match (environment.lookup "COLUMNS").bind fun text => readInteger? text.toList with
  | some columns => if 0 < columns then columns else fallback
  | none => fallback

end RepoCatalog.Terminal
