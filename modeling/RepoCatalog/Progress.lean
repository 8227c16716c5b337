import RepoCatalog.Number.Double
import RepoCatalog.Terminal
import RepoCatalog.Text.Shorten

/-!
# Progress

Layout and state of the counter shown while projects are listed.
-/

namespace RepoCatalog.Progress

/-- Widths of a bar. -/
structure Layout where
  /-- Columns of the terminal. -/
  columns : Int
  /-- Columns for the description. -/
  description : Int
  deriving DecidableEq, Repr

/-- Columns when the terminal does not say. -/
def defaultColumns : Int := 120

/-- Share of the columns that a description may take. -/
def descriptionShare : Double :=
  .ofDecimal false 35 (-2)

/-- Widths for a number of columns; fails for numbers beyond double precision. -/
def layoutFor (columns : Int) : Except Failure Layout :=
  match (Double.ofInt columns).productFloor descriptionShare with
  | none => .error .overflow
  | some share => .ok ⟨columns, max 18 (min 48 share)⟩

/-- Widths for the present terminal. -/
def layout (environment : Environment) (fallback : Int) : Except Failure Layout :=
  layoutFor (Terminal.columns environment fallback)

/-- Text with the frame for a step in front. -/
def animate (base : String) (frames : List String) (step : Int) : String :=
  if frames.isEmpty then base
  else (frames[(step % frames.length).toNat]?).getD "" ++ " " ++ base

/-- The format of a bar, whose description is padded to a width. -/
structure BarFormat where
  /-- Width of the description. -/
  width : Int
  deriving DecidableEq, Repr

/-- Text of a format. -/
def BarFormat.text (format : BarFormat) : String :=
  "\x7bdesc:<" ++ toString format.width
    ++ "\x7d [\x7belapsed\x7d] \x7bn_fmt\x7d \x7bunit\x7d"

/-- What is asked of a library of bars. -/
structure BarLibrary (Bar : Type) where
  /-- A bar without a known total, for a unit, in a number of columns, with a format. -/
  start : String → Int → BarFormat → Except Failure Bar
  /-- The bar after more were counted. -/
  advance : Bar → Int → Bar
  /-- The bar shown with a description. -/
  describe : Bar → String → Except Failure Bar

variable {Bar : Type}

/-- A bar of a layout. -/
def startBar (library : BarLibrary Bar) (unit : String) (layout : Layout) : Except Failure Bar :=
  library.start unit layout.columns ⟨layout.description⟩

/-- Puts a text on a bar, fitted into a layout. -/
def describeBar (library : BarLibrary Bar) (bar : Bar) (text : String) (layout : Layout) :
    Except Failure Bar := do
  library.describe bar (← Text.shorten text layout.description)

/-- A bar of which only the numbers and texts are kept. -/
structure Counter where
  /-- What it counts. -/
  unit : String
  /-- Its columns. -/
  columns : Int
  /-- Its format. -/
  format : BarFormat
  /-- Count so far. -/
  count : Int
  /-- Its description. -/
  description : String
  deriving DecidableEq, Repr

namespace Counter

/-- Largest width that can be written into the format of a bar. -/
def widthLimit : Int := 9223372036854775807

/-- Counters as bars. The width of a format must not be negative, nor beyond what can be written;
the rate is worked out anew for a description, which fails for counts beyond double precision. -/
def library : BarLibrary Counter where
  start unit columns format :=
    if format.width < 0 then .error (.value "Sign not allowed in string format specifier")
    else if widthLimit < format.width then
      .error (.value "Too many decimal digits in format string")
    else .ok ⟨unit, columns, format, 0, ""⟩
  advance counter more := { counter with count := counter.count + more }
  describe counter text :=
    match Double.ofInt counter.count with
    | .infinite _ => .error .overflow
    | _ => .ok { counter with description := text }

end Counter

end RepoCatalog.Progress
