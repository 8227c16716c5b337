import Mathlib.Data.List.Infix
import RepoCatalog.Proofs.Text.Spacing
import RepoCatalog.Text.Shorten

/-!
# Shortened texts

A text that fits into a width is left as it is, its blanks aside. Of a longer one the front is left
and the ellipsis behind it. The front is made of whole pieces and, at its end, perhaps of a part of
a piece that is too long for any line; since no piece reaches over the end of a word, all words that
fit stay.
-/

namespace RepoCatalog.Text

/-! ## Pieces -/

/-- Whether a part consists of spaces, or holds none, as its kind demands. -/
def Piece.Fills (kind : Piece) (part : List Char) : Prop :=
  ∀ c ∈ part, c = ' ' ↔ kind = .spaces

/-- Some text of one kind. -/
structure IsPiece (part : List Char) : Prop where
  /-- It is not empty. -/
  nonempty : part ≠ []
  /-- It is of one kind. -/
  uniform : ∃ kind : Piece, kind.Fills part

theorem flatten_piecesFrom (before piece : List Char) (kind : Piece) (text : List Char) :
    (piecesFrom before piece kind text).flatten = piece.reverse ++ text := by
  induction text generalizing before piece kind with
  | nil => simp [piecesFrom]
  | cons c rest induction =>
      unfold piecesFrom
      dsimp only
      split
      · rename_i last
        simp [List.isEmpty_iff.mp last]
      · split
        · simp [induction]
        · simp [induction]

/-- The pieces of a text make it up. -/
theorem flatten_pieces (text : List Char) : (pieces text).flatten = text := by
  cases text with
  | nil => rfl
  | cons c rest => exact flatten_piecesFrom [] [] _ (c :: rest)

theorem fills_pieceKind (before text : List Char) :
    ∀ c ∈ text.head?, c = ' ' ↔ pieceKind before text = .spaces := by
  intro c member
  unfold pieceKind
  rw [Option.mem_def.mp member]
  by_cases space : c = ' '
  · simp [space]
  · by_cases dash : dashHere before text = true
    · simp [space, dash]
    · simp [space, dash]

/-- A piece goes on only with characters of its kind. -/
theorem fills_of_not_pieceEnds {kind : Piece} {before text : List Char}
    (goesOn : pieceEnds kind before text = false) :
    ∀ c ∈ text.head?, c = ' ' ↔ kind = .spaces := by
  intro c member
  obtain ⟨rest, rfl⟩ := List.head?_eq_some_iff.mp member
  cases kind with
  | spaces => simpa [pieceEnds] using goesOn
  | dash =>
      have hyphen : c = '-' := by simpa [pieceEnds] using goesOn
      simp [hyphen]
  | word =>
      have inside : wordEnds before (c :: rest) = false := by
        simp only [pieceEnds, Bool.or_eq_false_iff] at goesOn
        exact goesOn.1
      have visible : c ≠ ' ' := by
        simp only [wordEnds, Bool.or_eq_false_iff] at inside
        simpa using inside.1
      simp [visible]

theorem isPiece_of_mem_piecesFrom {before piece text part : List Char} {kind : Piece}
    (some : text ≠ []) (begun : kind.Fills piece)
    (next : ∀ c ∈ text.head?, c = ' ' ↔ kind = .spaces)
    (member : part ∈ piecesFrom before piece kind text) : IsPiece part := by
  induction text generalizing before piece kind with
  | nil => exact absurd rfl some
  | cons c rest induction =>
      -- The piece under way with the next character, which is of its kind.
      have longer : kind.Fills (c :: piece) := List.forall_mem_cons.mpr ⟨next c rfl, begun⟩
      have complete : IsPiece (c :: piece).reverse :=
        ⟨by simp, kind, fun other inside => longer other (List.mem_reverse.mp inside)⟩
      unfold piecesFrom at member
      dsimp only at member
      split at member
      · rw [List.mem_singleton.mp member]
        exact complete
      · rename_i more
        have left : rest ≠ [] := by simpa using more
        split at member
        · rcases List.mem_cons.mp member with rfl | later
          · exact complete
          · exact induction left (by simp [Piece.Fills]) (fills_pieceKind _ rest) later
        · rename_i goesOn
          exact induction left longer (fills_of_not_pieceEnds (by simpa using goesOn)) member

theorem isPiece_of_mem_pieces {text part : List Char} (member : part ∈ pieces text) :
    IsPiece part := by
  cases text with
  | nil => cases member
  | cons c rest =>
      exact isPiece_of_mem_piecesFrom (List.cons_ne_nil c rest) (by simp [Piece.Fills])
        (fills_pieceKind [] _) member

/-- The front of a text that ends with a word is made of whole pieces. -/
theorem exists_pieces_of_front {parts : List (List Char)} {front back : List Char}
    (uniform : ∀ part ∈ parts, IsPiece part) (whole : parts.flatten = front ++ back)
    (last : ∀ c ∈ front.getLast?, c ≠ ' ') (next : ∀ c ∈ back.head?, c = ' ') :
    ∃ first rest, parts = first ++ rest ∧ first.flatten = front := by
  induction parts generalizing front with
  | nil =>
      have none : front = [] := by
        simp only [List.flatten_nil, List.nil_eq, List.append_eq_nil_iff] at whole
        exact whole.1
      exact ⟨[], [], rfl, none.symm⟩
  | cons part others induction =>
      obtain ⟨⟨nonempty, kind, fills⟩, later⟩ := List.forall_mem_cons.mp uniform
      rw [List.flatten_cons] at whole
      rcases List.append_eq_append_iff.mp whole with ⟨tail, rfl, split⟩ | ⟨tail, rfl, split⟩
      · have ends : ∀ c ∈ tail.getLast?, c ≠ ' ' := fun c member =>
          last c (List.mem_getLast?_append_of_mem_getLast? member)
        obtain ⟨first, rest, rfl, joined⟩ := induction later split ends
        exact ⟨part :: first, rest, rfl, by rw [List.flatten_cons, joined]⟩
      · cases tail with
        | nil =>
            exact ⟨[front], others, by simp, by simp⟩
        | cons c tail =>
            -- The piece would reach from a word over the space behind it.
            have space : c = ' ' := next c (by simp [split])
            rcases List.eq_nil_or_concat front with rfl | ⟨earlier, other, rfl⟩
            · exact ⟨[], _, rfl, rfl⟩
            · have spaces : kind = .spaces := (fills c (by simp)).mp space
              have blank : other = ' ' := (fills other (by simp)).mpr spaces
              exact absurd blank (last other (by simp))

/-! ## Filling a line -/

/-- How pieces are divided into those that fill a line, last first, and those that are left. -/
structure Filled (width : Nat) (parts taken left : List (List Char)) : Prop where
  /-- Nothing is lost. -/
  parted : parts = taken.reverse ++ left
  /-- The line is not too long. -/
  fits : taken.flatten.length ≤ width
  /-- The next piece would make it too long. -/
  full : ∀ piece ∈ left.head?, width < taken.flatten.length + piece.length

theorem filled_takeFitting (width : Nat) (taken parts : List (List Char)) :
    Filled (width + taken.flatten.length) (taken.reverse ++ parts)
      (takeFitting width taken parts).1 (takeFitting width taken parts).2 := by
  induction parts generalizing width taken with
  | nil => exact ⟨rfl, Nat.le_add_left _ _, by simp [takeFitting]⟩
  | cons piece rest induction =>
      unfold takeFitting
      split
      · rename_i room
        have further := induction (width - piece.length) (piece :: taken)
        have same : width - piece.length + (piece :: taken).flatten.length =
            width + taken.flatten.length := by
          simp only [List.flatten_cons, List.length_append]
          omega
        rw [same, List.reverse_cons, List.append_assoc] at further
        exact further
      · rename_i tight
        refine ⟨rfl, Nat.le_add_left _ _, ?_⟩
        intro other member
        obtain rfl : piece = other := by simpa using member
        dsimp only
        omega

theorem filled_of_eq {width : Nat} {parts taken left : List (List Char)}
    (filled : takeFitting width [] parts = (taken, left)) : Filled width parts taken left := by
  have division := filled_takeFitting width [] parts
  rw [filled] at division
  exact division

/-! ## Making room for the ellipsis -/

/-- Whether a line, last piece first, ends with a word and has room for the ellipsis. -/
def HasRoom (width : Nat) (line : List (List Char)) : Prop :=
  ∀ piece ∈ line.head?, strip piece ≠ [] ∧ line.flatten.length + 1 ≤ width

theorem hasRoom_cons {width : Nat} {piece : List Char} {earlier : List (List Char)} :
    HasRoom width (piece :: earlier) ↔
      (!(strip piece).isEmpty && (piece :: earlier).flatten.length + 1 ≤ width) = true := by
  rw [Bool.and_eq_true, Bool.not_eq_true', List.isEmpty_eq_false_iff, decide_eq_true_eq]
  constructor
  · intro room
    exact room piece rfl
  · intro room other member
    obtain rfl : piece = other := Option.some.inj member
    exact room

/-- Making room drops last pieces, and no more of them than it has to. -/
theorem makeRoom_longest (width : Nat) (line : List (List Char)) :
    makeRoom width line <:+ line ∧ HasRoom width (makeRoom width line) ∧
      ∀ kept, kept <:+ line → HasRoom width kept → kept <:+ makeRoom width line := by
  induction line with
  | nil => exact ⟨List.suffix_rfl, by simp [HasRoom, makeRoom], fun kept part _ => part⟩
  | cons piece earlier induction =>
      unfold makeRoom
      split
      · rename_i room
        exact ⟨List.suffix_rfl, hasRoom_cons.mpr room, fun kept part _ => part⟩
      · rename_i tight
        obtain ⟨part, room, longest⟩ := induction
        refine ⟨part.trans (List.suffix_cons piece earlier), room, ?_⟩
        intro kept among fits
        rcases List.suffix_cons_iff.mp among with rfl | among
        · exact absurd (hasRoom_cons.mp fits) tight
        · exact longest kept among fits

/-! ## What is left of a text -/

/-- The front of a text that is kept before the ellipsis. -/
structure IsKeptFront (text : List Char) (width : Nat) (front : List Char) : Prop where
  /-- It is a front of the text. -/
  part : front <+: text
  /-- It does not end with a blank. -/
  last : ∀ c ∈ front.getLast?, isBlank c = false
  /-- It begins with all first words that fit in front of the ellipsis. -/
  words : ∀ count, (leadingWords count text).length < width → leadingWords count text <+: front

/-- A text that was fitted into a width. -/
structure IsFitted (text : List Char) (width : Nat) (short : List Char) : Prop where
  /-- It fits. -/
  length_le : short.length ≤ width
  /-- A text that fits is left as it is. -/
  whole : text.length ≤ width → short = text
  /-- Of a longer one the front is left, the ellipsis behind it. -/
  cut : width < text.length → ∃ front, IsKeptFront text width front ∧ short = front ++ [ellipsis]

variable {width : Nat} {parts taken rest : List (List Char)} {piece : List Char}

/-- The line that room is made in holds the pieces that fit, and perhaps the front of the next. -/
theorem exists_line (uniform : ∀ part ∈ parts, IsPiece part)
    (filled : takeFitting width [] parts = (taken, piece :: rest)) :
    ∃ line, fitLine width parts = (makeRoom width line).reverse.flatten ++ [ellipsis] ∧
      taken <:+ line ∧ line.reverse.flatten <+: parts.flatten ∧
      ∀ part ∈ line, ∃ kind : Piece, kind.Fills part := by
  have parted : parts = taken.reverse ++ piece :: rest := (filled_of_eq filled).parted
  have before : ∀ part ∈ taken, ∃ kind : Piece, kind.Fills part := fun part member =>
    (uniform part (by simp [parted, member])).uniform
  by_cases long : width < piece.length
  · obtain ⟨kind, fills⟩ := (uniform piece (by simp [parted])).uniform
    generalize size : cutLength (width - taken.flatten.length) piece = cut
    refine ⟨piece.take cut :: taken, ?_, List.suffix_cons _ _, ?_, ?_⟩
    · simp only [fitLine, filled, if_pos long, size]
    · rw [parted, List.reverse_cons, List.flatten_append, List.flatten_append, List.flatten_cons,
        List.flatten_cons]
      refine (List.prefix_append_right_inj _).mpr ?_
      simpa using (List.take_prefix cut piece).trans (List.prefix_append piece _)
    · refine List.forall_mem_cons.mpr ⟨⟨kind, fun c member => ?_⟩, before⟩
      exact fills c (List.mem_of_mem_take member)
  · refine ⟨taken, ?_, List.suffix_rfl, ?_, before⟩
    · simp only [fitLine, filled, if_neg long]
    · rw [parted, List.flatten_append]
      exact List.prefix_append _ _

/-- Pieces of a width less than that of the line are among those that fill it. -/
theorem isPrefix_of_filled {first others left : List (List Char)} {width : Nat}
    (filled : Filled width (first ++ others) taken left) (short : first.flatten.length < width) :
    first <+: taken.reverse := by
  have both : taken.reverse <+: first ++ others := ⟨left, filled.parted.symm⟩
  rcases List.prefix_or_prefix_of_prefix (List.prefix_append first others) both with part | part
  · exact part
  · obtain ⟨tail, rfl⟩ := part
    cases tail with
    | nil => simp
    | cons next more =>
        have rest : next :: (more ++ others) = left := by
          have same := filled.parted
          rw [List.append_assoc] at same
          exact List.append_cancel_left same
        have full := filled.full next (by simp [← rest])
        simp only [List.flatten_append, List.flatten_cons, List.length_append,
          List.length_flatten, List.map_reverse, List.sum_reverse] at short full
        omega

theorem length_flatten_reverse (parts : List (List Char)) :
    parts.reverse.flatten.length = parts.flatten.length := by
  simp [List.length_flatten, List.sum_reverse]

theorem exists_visible (some : strip piece ≠ []) : ∃ c ∈ piece, isBlank c = false := by
  obtain ⟨c, others, chars⟩ := List.exists_cons_of_ne_nil some
  refine ⟨c, (isInfix_strip piece).subset (by simp [chars]), ?_⟩
  exact (isTrimmed_strip piece).head c (by simp [chars])

variable {text : List Char} {line : List (List Char)}

/-- A line with room for the ellipsis ends with a character that is not blank. -/
theorem visible_of_hasRoom (spaced : IsSingleSpaced text) (room : HasRoom width line)
    (part : line.reverse.flatten <+: text)
    (uniform : ∀ piece ∈ line, ∃ kind : Piece, kind.Fills piece) :
    ∀ c ∈ line.reverse.flatten.getLast?, isBlank c = false := by
  intro c member
  cases line with
  | nil => cases member
  | cons piece earlier =>
      obtain ⟨visible, inside, seen⟩ := exists_visible (room piece rfl).1
      obtain ⟨kind, fills⟩ := uniform piece List.mem_cons_self
      have ends : c ∈ piece.getLast? := by
        obtain ⟨front, last, rfl⟩ :=
          (List.eq_nil_or_concat piece).resolve_left (List.ne_nil_of_mem inside)
        simpa using member
      have apart : visible ≠ ' ' := by
        rintro rfl
        exact absurd seen (by decide)
      -- A blank at the end is a space, and then the whole piece would consist of spaces.
      by_contra blank
      have space : c = ' ' :=
        spaced.plain c (part.subset (List.mem_of_getLast? member)) (by simpa using blank)
      have spaces : kind = .spaces := (fills c (List.mem_of_getLast? ends)).mp space
      exact apart ((fills visible inside).mpr spaces)

/-- First words are made of whole pieces. -/
theorem exists_pieces_of_leadingWords (spaced : IsSingleSpaced text) (count : Nat) :
    ∃ first others, pieces text = first ++ others ∧ first.flatten = leadingWords count text := by
  rcases eq_or_ne (leadingWords count text) [] with none | some
  · exact ⟨[], pieces text, rfl, none.symm⟩
  · obtain ⟨behind, whole, next⟩ := singleSpaced_of_leadingWords some
    rw [spaced.singleSpaced_eq_self] at whole
    have apart : ∀ c ∈ (leadingWords count text).getLast?, c ≠ ' ' := by
      rintro c member rfl
      exact absurd ((isSingleSpaced_leadingWords count text).last ' ' member) (by decide)
    exact exists_pieces_of_front (fun part member => isPiece_of_mem_pieces member)
      ((flatten_pieces text).trans whole) apart next

/-- Pieces that end with a word leave room for the ellipsis if they do not fill the width. -/
theorem hasRoom_reverse {first : List (List Char)} (nonempty : ∀ part ∈ first, part ≠ [])
    (ends : ∀ c ∈ first.flatten.getLast?, isBlank c = false)
    (short : first.flatten.length < width) : HasRoom width first.reverse := by
  intro piece member
  obtain ⟨earlier, reversed⟩ := List.head?_eq_some_iff.mp member
  obtain rfl : first = earlier.reverse ++ [piece] := by
    simpa using congrArg List.reverse reversed
  obtain ⟨start, last, rfl⟩ :=
    (List.eq_nil_or_concat piece).resolve_left (nonempty piece (by simp))
  constructor
  · exact strip_ne_nil (c := last) (by simp) (ends last (by simp))
  · rw [length_flatten_reverse]
    exact short

/-- All first words that fit in front of the ellipsis stay in a line when room is made. -/
theorem isPrefix_makeRoom (spaced : IsSingleSpaced text)
    {left : List (List Char)} (filled : Filled width (pieces text) taken left)
    (begun : taken <:+ line) {count : Nat} (short : (leadingWords count text).length < width) :
    leadingWords count text <+: (makeRoom width line).reverse.flatten := by
  obtain ⟨first, others, parted, joined⟩ := exists_pieces_of_leadingWords spaced count
  have ends := (isSingleSpaced_leadingWords count text).last
  rw [← joined] at short ends ⊢
  have nonempty : ∀ part ∈ first, part ≠ [] := by
    intro part member
    have among : part ∈ pieces text := by simp [parted, member]
    exact (isPiece_of_mem_pieces among).nonempty
  have among : first.reverse <:+ taken := by
    have front := isPrefix_of_filled (parted ▸ filled) short
    simpa using List.reverse_suffix.mpr front
  have kept : first.reverse <:+ makeRoom width line :=
    (makeRoom_longest width line).2.2 first.reverse (among.trans begun)
      (hasRoom_reverse nonempty ends short)
  simpa using List.IsPrefix.flatten (List.reverse_prefix.mpr kept)

/-- What is left of a line when room is made is kept of the text. -/
theorem isKeptFront_makeRoom (spaced : IsSingleSpaced text) {left : List (List Char)}
    (filled : Filled width (pieces text) taken left) (begun : taken <:+ line)
    (part : line.reverse.flatten <+: text)
    (uniform : ∀ piece ∈ line, ∃ kind : Piece, kind.Fills piece) :
    IsKeptFront text width (makeRoom width line).reverse.flatten := by
  obtain ⟨among, room, -⟩ := makeRoom_longest width line
  have front : (makeRoom width line).reverse.flatten <+: text :=
    (List.IsPrefix.flatten (List.reverse_prefix.mpr among)).trans part
  refine ⟨front, ?_, fun count short => isPrefix_makeRoom spaced filled begun short⟩
  exact visible_of_hasRoom spaced room front fun piece member =>
    uniform piece (among.subset member)

theorem length_makeRoom_lt (positive : 0 < width) (line : List (List Char)) :
    (makeRoom width line).reverse.flatten.length < width := by
  have room := (makeRoom_longest width line).2.1
  rw [length_flatten_reverse]
  cases kept : makeRoom width line with
  | nil => exact positive
  | cons last earlier =>
      rw [kept] at room
      exact (room last rfl).2

/-- Fitting the pieces of a single-spaced text leaves it as it is, or a front of it. -/
theorem isFitted_fitLine (spaced : IsSingleSpaced text) (positive : 0 < width) :
    IsFitted text width (fitLine width (pieces text)) := by
  rcases filled : takeFitting width [] (pieces text) with ⟨taken, left⟩
  have division := filled_of_eq filled
  have whole : text.length = taken.flatten.length + left.flatten.length := by
    rw [← length_flatten_reverse taken, ← List.length_append, ← List.flatten_append,
      ← division.parted, flatten_pieces]
  cases left with
  | nil =>
      have same : fitLine width (pieces text) = text := by
        simp only [fitLine, filled]
        rw [← flatten_pieces text, division.parted, List.append_nil]
      have short : text.length ≤ width := by
        have fits := division.fits
        rw [List.flatten_nil, List.length_nil] at whole
        omega
      exact ⟨by rwa [same], fun _ => same, fun long => absurd long (Nat.not_lt.mpr short)⟩
  | cons piece rest =>
      obtain ⟨line, made, begun, part, uniform⟩ :=
        exists_line (fun part member => isPiece_of_mem_pieces member) filled
      rw [flatten_pieces] at part
      have long : width < text.length := by
        have full := division.full piece rfl
        rw [List.flatten_cons, List.length_append] at whole
        omega
      refine ⟨?_, fun short => absurd short (Nat.not_le.mpr long),
        fun _ => ⟨_, isKeptFront_makeRoom spaced division begun part uniform, made⟩⟩
      rw [made, List.length_append]
      exact length_makeRoom_lt positive line

/-! ## Shortening -/

theorem isSingleSpaced_of_isFitted {short : List Char} (spaced : IsSingleSpaced text)
    (fitted : IsFitted text width short) : IsSingleSpaced short := by
  rcases Nat.lt_or_ge width text.length with long | fits
  · obtain ⟨front, left, rfl⟩ := fitted.cut long
    exact (spaced.of_prefix left.part left.last).concat (by decide)
  · rwa [fitted.whole fits]

/-- Where there is a width, there is room for the ellipsis. -/
theorem fitPieces_of_pos {width : Int} (positive : 0 < width) (parts : List (List Char)) :
    fitPieces width parts = .ok (fitLine width.toNat parts) := by
  have room : ¬ width < [ellipsis].length := by
    rw [List.length_singleton]
    omega
  rw [fitPieces, if_neg (Int.not_le.mpr positive), if_neg room]

theorem shorten_of_nonpos {width : Int} (nonpositive : width ≤ 0) (text : String) :
    shorten text width = .ok "" := by
  rw [shorten, shortenChars, if_pos nonpositive]
  rfl

theorem shorten_of_pos {width : Int} (positive : 0 < width) (text : String) :
    shorten text width =
      .ok (String.ofList (fitLine width.toNat (pieces (singleSpaced text.toList)))) := by
  rw [shorten, shortenChars, if_neg (Int.not_le.mpr positive), fitPieces_of_pos positive]
  rfl

/-- Whatever the width, a text can be shortened. -/
theorem exists_shorten (text : String) (width : Int) : ∃ short, shorten text width = .ok short := by
  by_cases positive : 0 < width
  · exact ⟨_, shorten_of_pos positive text⟩
  · exact ⟨"", shorten_of_nonpos (Int.not_lt.mp positive) text⟩

theorem isFitted_of_shorten {width : Int} {text short : String} (positive : 0 < width)
    (shortened : shorten text width = .ok short) :
    IsFitted (collapse (strip text.toList)) width.toNat short.toList := by
  have room : 0 < width.toNat := by omega
  rw [shorten_of_pos positive] at shortened
  rw [← Except.ok.inj shortened, String.toList_ofList, ← singleSpaced_eq]
  exact isFitted_fitLine (isSingleSpaced_singleSpaced text.toList) room

/-- To shorten a shortened text to the same width changes nothing. -/
theorem shorten_of_shorten {width : Int} {text short : String}
    (shortened : shorten text width = .ok short) : shorten short width = .ok short := by
  by_cases positive : 0 < width
  · obtain ⟨shorter, again⟩ := exists_shorten short width
    have once := isFitted_of_shorten positive shortened
    have twice := isFitted_of_shorten positive again
    rw [← singleSpaced_eq] at once twice
    have spaced := isSingleSpaced_of_isFitted (isSingleSpaced_singleSpaced text.toList) once
    rw [spaced.singleSpaced_eq_self] at twice
    rw [again, String.toList_inj.mp (twice.whole once.length_le)]
  · have nonpositive := Int.not_lt.mp positive
    rw [shorten_of_nonpos nonpositive] at shortened ⊢
    exact shortened

theorem length_le_of_shorten {width : Int} {text short : String} (nonnegative : 0 ≤ width)
    (shortened : shorten text width = .ok short) : (short.length : Int) ≤ width := by
  by_cases positive : 0 < width
  · have fits := (isFitted_of_shorten positive shortened).length_le
    rw [String.length_toList] at fits
    omega
  · rw [shorten_of_nonpos (Int.not_lt.mp positive)] at shortened
    rw [← Except.ok.inj shortened]
    exact nonnegative

end RepoCatalog.Text
