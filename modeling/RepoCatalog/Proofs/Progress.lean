import RepoCatalog.Proofs.Number.Range
import RepoCatalog.Proofs.Text.Shorten
import RepoCatalog.Progress

/-!
# Descriptions of a bar

Whatever a bar is told to show, and whenever, its description fits into its layout.
-/

namespace RepoCatalog.Progress

open Text

variable {Bar : Type} {library : BarLibrary Bar} {description : Bar → String} {layout : Layout}

/-- A description gets from eighteen to forty-eight columns. -/
theorem description_of_layout {environment : Environment} {fallback : Int}
    (laid : Progress.layout environment fallback = .ok layout) :
    18 ≤ layout.description ∧ layout.description ≤ 48 := by
  unfold Progress.layout layoutFor at laid
  split at laid
  · cases laid
  · cases laid
    dsimp only
    omega

/-! ## Bars -/

/-- A library of bars whose descriptions are what was put on them last; a new bar has none, and its
format pads it to a width that is no negative number. -/
structure BarLibrary.Keeps (library : BarLibrary Bar) (description : Bar → String) : Prop where
  /-- A new bar has no description. -/
  start : ∀ unit columns format bar, library.start unit columns format = .ok bar →
    0 ≤ format.width ∧ description bar = ""
  /-- Counting leaves the description as it is. -/
  advance : ∀ bar more, description (library.advance bar more) = description bar
  /-- A description that is put on a bar is what the bar shows. -/
  describe : ∀ bar text described, library.describe bar text = .ok described →
    description described = text

/-- The bars of a layout, as they come about. -/
inductive Shown (library : BarLibrary Bar) (layout : Layout) : Bar → Prop
  /-- A new bar. -/
  | start {unit : String} {bar : Bar} (started : startBar library unit layout = .ok bar) :
      Shown library layout bar
  /-- More were counted. -/
  | advance {bar : Bar} (before : Shown library layout bar) (more : Int) :
      Shown library layout (library.advance bar more)
  /-- A text was put on the bar. -/
  | describe {bar described : Bar} {text : String} (before : Shown library layout bar)
      (shown : describeBar library bar text layout = .ok described) :
      Shown library layout described

/-- What is put on a bar is the shortened text. -/
theorem describeBar_eq {text short : String}
    (shortened : shorten text layout.description = .ok short) (bar : Bar) :
    describeBar library bar text layout = library.describe bar short := by
  rw [describeBar, shortened]
  rfl

/-- At every moment the description of a bar fits into its layout. -/
theorem Shown.fits (keeps : library.Keeps description) {bar : Bar}
    (shown : Shown library layout bar) :
    0 ≤ layout.description ∧ ((description bar).length : Int) ≤ layout.description := by
  induction shown with
  | start started =>
      obtain ⟨nonnegative, empty⟩ := keeps.start _ _ _ _ started
      rw [empty]
      exact ⟨nonnegative, nonnegative⟩
  | advance before more induction =>
      rw [keeps.advance]
      exact induction
  | @describe bar described text before shown induction =>
      obtain ⟨short, shortened⟩ := exists_shorten text layout.description
      rw [describeBar_eq shortened] at shown
      rw [keeps.describe _ _ _ shown]
      exact ⟨induction.1, length_le_of_shorten induction.1 shortened⟩

/-- A counter is described as long as its count is rounded to a finite number. -/
theorem Counter.describe_of_lt {counter : Counter} (small : counter.count.natAbs < Double.overflowStart)
    (text : String) :
    Counter.library.describe counter text = .ok { counter with description := text } := by
  obtain ⟨significand, exponent, finite, -, -⟩ := Double.ofInt_of_lt small
  rw [Counter.library]
  dsimp only
  rw [finite]

theorem Counter.keeps_library : Counter.library.Keeps Counter.description where
  start unit columns format counter started := by
    rw [Counter.library] at started
    dsimp only at started
    split at started
    · cases started
    · rename_i nonnegative
      split at started
      · cases started
      · cases started
        exact ⟨Int.not_lt.mp nonnegative, rfl⟩
  advance counter more := rfl
  describe counter text described shown := by
    rw [Counter.library] at shown
    dsimp only at shown
    split at shown
    · cases shown
    · cases shown
      rfl

/-- A text is shortened to nothing if there is no width; otherwise it is left as it is when it fits,
its blanks aside, and of a longer one the front is left with all first words that fit, the ellipsis
behind it. To shorten it again changes nothing. In no case does it fail. So every description that
is put on a bar fits its layout, which has room for one in every terminal, and so it does at every
moment. -/
theorem shorten_fits (text : String) (width : Int) :
    (width ≤ 0 → shorten text width = .ok "") ∧
    (∃ short, shorten text width = .ok short ∧
      (0 < width → IsFitted (collapse (strip text.toList)) width.toNat short.toList) ∧
      shorten short width = .ok short) ∧
    (∀ (Bar : Type) (library : BarLibrary Bar) (bar : Bar) (layout : Layout), ∃ short,
      shorten text layout.description = .ok short ∧
      (0 ≤ layout.description → (short.length : Int) ≤ layout.description) ∧
      describeBar library bar text layout = library.describe bar short) ∧
    (∀ (Bar : Type) (library : BarLibrary Bar) (description : Bar → String),
      library.Keeps description → ∀ layout bar, Shown library layout bar →
        ((description bar).length : Int) ≤ layout.description) ∧
    (∀ (counter : Counter) (layout : Layout), counter.count.natAbs < Double.overflowStart →
      ∃ described, describeBar Counter.library counter text layout = .ok described) ∧
    ∀ (environment : Environment) (fallback : Int) (layout : Layout),
      Progress.layout environment fallback = .ok layout → 0 < layout.description := by
  refine ⟨fun nonpositive => shorten_of_nonpos nonpositive text, ?_,
    fun Bar library bar layout => ?_,
    fun Bar library description keeps layout bar shown => (shown.fits keeps).2,
    fun counter layout small => ?_, fun environment fallback layout laid => ?_⟩
  · obtain ⟨short, shortened⟩ := exists_shorten text width
    exact ⟨short, shortened, fun positive => isFitted_of_shorten positive shortened,
      shorten_of_shorten shortened⟩
  · obtain ⟨short, shortened⟩ := exists_shorten text layout.description
    exact ⟨short, shortened, fun nonnegative => length_le_of_shorten nonnegative shortened,
      describeBar_eq shortened bar⟩
  · obtain ⟨short, shortened⟩ := exists_shorten text layout.description
    exact ⟨_, (describeBar_eq shortened counter).trans (Counter.describe_of_lt small short)⟩
  · have bounds := description_of_layout laid
    omega

/-- A hyphenated word that does not fit is cut behind a hyphen, and all words before it stay. -/
theorem shorten_fits_hyphenated :
    let text := " a\t b re-do-it"
    let layout : Layout := ⟨56, 19⟩
    let bar := Counter.library.advance ⟨"projects", 56, ⟨19⟩, 0, ""⟩ 3
    shorten text 0 = .ok "" ∧ shorten text 9 = .ok "a b re-…" ∧
      IsFitted (collapse (strip text.toList)) 9 "a b re-…".toList ∧
      leadingWords 2 (collapse (strip text.toList)) = "a b".toList ∧
      shorten "a b re-…" 9 = .ok "a b re-…" ∧
      (∃ described, describeBar Counter.library bar text layout = .ok described) ∧
      Shown Counter.library layout bar ∧ (bar.description.length : Int) ≤ 19 ∧
      Progress.layout [("COLUMNS", "56")] defaultColumns = .ok layout ∧
      0 < layout.description := by
  intro text layout bar
  have laid : Progress.layout [("COLUMNS", "56")] defaultColumns = .ok layout := by decide +kernel
  have counted : bar.count.natAbs < Double.overflowStart := by decide +kernel
  have shown : Shown Counter.library layout bar :=
    (@Shown.start Counter Counter.library layout "projects" _ rfl).advance 3
  obtain ⟨nothing, -⟩ := shorten_fits text 0
  obtain ⟨-, ⟨short, shortened, fitted, again⟩, -, moments, counters, terminals⟩ :=
    shorten_fits text 9
  have cut : shorten text 9 = .ok "a b re-…" := by decide +kernel
  obtain rfl : "a b re-…" = short := Except.ok.inj (cut.symm.trans shortened)
  exact ⟨nothing le_rfl, shortened, fitted (by decide), by decide +kernel, again,
    counters bar layout counted, shown,
    moments Counter Counter.library _ Counter.keeps_library layout bar shown, laid,
    terminals _ _ layout laid⟩

end RepoCatalog.Progress
