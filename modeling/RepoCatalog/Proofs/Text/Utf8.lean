import Mathlib.Data.List.Forall2
import RepoCatalog.Text.Split
import RepoCatalog.Text.Utf8

/-!
# Well-formed UTF-8

Which bytes encode a text, said by the ranges of their bytes. Decoding accepts exactly these and is
the inverse of encoding; cutting the bytes at a mark below 128 is cutting the text there.
-/

namespace RepoCatalog.Text

/-! ## Characters as bytes -/

/-- Ranges of the bytes of a character, in order. No character has a longer form than it needs, none
is a surrogate and none lies beyond the last code point. -/
def characterForms : List (List (Nat × Nat)) :=
  [[(0x00, 0x7F)],
    [(0xC2, 0xDF), (0x80, 0xBF)],
    [(0xE0, 0xE0), (0xA0, 0xBF), (0x80, 0xBF)],
    [(0xE1, 0xEC), (0x80, 0xBF), (0x80, 0xBF)],
    [(0xED, 0xED), (0x80, 0x9F), (0x80, 0xBF)],
    [(0xEE, 0xEF), (0x80, 0xBF), (0x80, 0xBF)],
    [(0xF0, 0xF0), (0x90, 0xBF), (0x80, 0xBF), (0x80, 0xBF)],
    [(0xF1, 0xF3), (0x80, 0xBF), (0x80, 0xBF), (0x80, 0xBF)],
    [(0xF4, 0xF4), (0x80, 0x8F), (0x80, 0xBF), (0x80, 0xBF)]]

/-- Bytes that encode one character. -/
def IsCharacter (bytes : List UInt8) : Prop :=
  ∃ form ∈ characterForms,
    List.Forall₂ (fun byte range => range.1 ≤ byte.toNat ∧ byte.toNat ≤ range.2) bytes form

/-- Bytes that encode characters, one after the other. -/
def IsWellFormed (bytes : List UInt8) : Prop :=
  ∃ characters : List (List UInt8), (∀ character ∈ characters, IsCharacter character) ∧
    characters.flatten = bytes

/-- A byte that may stand in any place of a character but the first two. -/
def IsTail (byte : UInt8) : Prop :=
  0x80 ≤ byte.toNat ∧ byte.toNat ≤ 0xBF

theorem not_isCharacter_nil : ¬ IsCharacter [] := by
  simp [IsCharacter, characterForms]

theorem isCharacter_singleton {lead : UInt8} : IsCharacter [lead] ↔ lead.toNat < 0x80 := by
  simp [IsCharacter, characterForms]
  omega

theorem isCharacter_pair {lead second : UInt8} :
    IsCharacter [lead, second] ↔ 0xC2 ≤ lead.toNat ∧ lead.toNat < 0xE0 ∧ IsTail second := by
  simp [IsCharacter, characterForms, IsTail]
  omega

theorem isCharacter_triple {lead second third : UInt8} :
    IsCharacter [lead, second, third] ↔
      0xE0 ≤ lead.toNat ∧ lead.toNat < 0xF0 ∧ (lead.toNat = 0xE0 → 0xA0 ≤ second.toNat) ∧
        (lead.toNat = 0xED → second.toNat ≤ 0x9F) ∧ IsTail second ∧ IsTail third := by
  simp [IsCharacter, characterForms, IsTail]
  omega

theorem isCharacter_quadruple {lead second third fourth : UInt8} :
    IsCharacter [lead, second, third, fourth] ↔
      0xF0 ≤ lead.toNat ∧ lead.toNat < 0xF5 ∧ (lead.toNat = 0xF0 → 0x90 ≤ second.toNat) ∧
        (lead.toNat = 0xF4 → second.toNat ≤ 0x8F) ∧ IsTail second ∧ IsTail third ∧
          IsTail fourth := by
  simp [IsCharacter, characterForms, IsTail]
  omega

theorem not_isCharacter_of_long {lead second third fourth fifth : UInt8} {rest : List UInt8} :
    ¬ IsCharacter (lead :: second :: third :: fourth :: fifth :: rest) := by
  simp [IsCharacter, characterForms]

theorem isCharacter_encodeChar (c : Char) : IsCharacter (String.utf8EncodeChar c) := by
  have valid : c.val.toNat.isValidChar := c.valid
  unfold Nat.isValidChar at valid
  unfold String.utf8EncodeChar
  generalize c.val.toNat = code at valid
  dsimp only
  split_ifs
  · rw [isCharacter_singleton, UInt8.toNat_ofNat']
    omega
  · simp only [isCharacter_pair, IsTail, UInt8.toNat_ofNat']
    omega
  · simp only [isCharacter_triple, IsTail, UInt8.toNat_ofNat']
    omega
  · simp only [isCharacter_quadruple, IsTail, UInt8.toNat_ofNat']
    omega

/-! ## Decoding one character -/

/-- Bytes that complete a character. -/
def Pending.Completes (pending : Pending) : List UInt8 → Prop
  | [] => False
  | second :: others =>
    pending.low.toNat ≤ second.toNat ∧ second.toNat ≤ pending.high.toNat ∧
      others.length = pending.missing ∧ ∀ byte ∈ others, IsTail byte

theorem beq_iff_toNat {first second : UInt8} :
    (first == second) = true ↔ first.toNat = second.toNat := by
  rw [beq_iff_eq, UInt8.toNat_inj]

/-- The characters of several bytes are those that a first byte starts and the others complete. -/
theorem isCharacter_cons_cons (position : Nat) (lead second : UInt8) (others : List UInt8) :
    IsCharacter (lead :: second :: others) ↔
      ∃ pending, Pending.start? position lead = some pending ∧
        pending.Completes (second :: others) := by
  unfold Pending.start?
  simp only [UInt8.lt_iff_toNat_lt, beq_iff_toNat, UInt8.reduceToNat]
  rcases others with _ | ⟨third, _ | ⟨fourth, _ | ⟨fifth, rest⟩⟩⟩
  · rw [isCharacter_pair]
    split_ifs <;> simp [IsTail, Pending.Completes] <;> omega
  · rw [isCharacter_triple]
    split_ifs <;> simp [IsTail, Pending.Completes] <;> omega
  · rw [isCharacter_quadruple]
    split_ifs <;> simp [IsTail, Pending.Completes] <;> omega
  · simp only [not_isCharacter_of_long, false_iff]
    split_ifs <;> simp [Pending.Completes]

/-- Number of a character of which some bits are known, with the bits of further bytes. -/
def codeAfter (bits : Nat) (bytes : List UInt8) : Nat :=
  bytes.foldl (fun bits byte => bits * 64 + (byte.toNat - 0x80)) bits

theorem codeAfter_nil (bits : Nat) : codeAfter bits [] = bits := rfl

theorem codeAfter_cons (bits : Nat) (byte : UInt8) (bytes : List UInt8) :
    codeAfter bits (byte :: bytes) = codeAfter (bits * 64 + (byte.toNat - 0x80)) bytes :=
  List.foldl_cons ..

theorem codeAfter_extend (pending : Pending) (byte : UInt8) (bytes : List UInt8) :
    codeAfter pending.bits (byte :: bytes) = codeAfter (pending.extend byte) bytes :=
  List.foldl_cons ..

/-- Decoding takes the bytes that complete a character. -/
theorem decodeFrom_of_completes {pending : Pending} {bytes : List UInt8}
    (completes : pending.Completes bytes) (position : Nat) (read : List Char)
    (rest : List UInt8) :
    decodeFrom (some pending) position read (bytes ++ rest) =
      decodeFrom none (position + bytes.length)
        (Char.ofNat (codeAfter pending.bits bytes) :: read) rest := by
  induction bytes generalizing pending position with
  | nil => exact completes.elim
  | cons second others induction =>
      obtain ⟨low, high, length, tails⟩ := completes
      have within : (pending.low ≤ second && second ≤ pending.high) = true := by
        simp [UInt8.le_iff_toNat_le, low, high]
      rw [List.cons_append, decodeFrom, if_pos within, codeAfter_extend]
      cases others with
      | nil =>
          have last : pending.missing = 0 := length.symm
          rw [last]
          rfl
      | cons third others =>
          have more : pending.missing = others.length + 1 := length.symm
          have tail : IsTail third := tails third List.mem_cons_self
          have later : Pending.Completes ⟨pending.position, pending.lead, pending.count + 1,
              others.length, 0x80, 0xBF, pending.extend second⟩ (third :: others) :=
            ⟨tail.1, tail.2, rfl, fun byte member => tails byte (List.mem_cons_of_mem third member)⟩
          rw [more]
          dsimp only
          rw [induction later, List.length_cons (a := second), Nat.add_right_comm, Nat.add_assoc]

/-- What is decoded after the beginning of a character starts with bytes that complete it. -/
theorem completes_of_decoded {pending : Pending} {position : Nat} {read text : List Char}
    {bytes : List UInt8} (decoded : decodeFrom (some pending) position read bytes = .ok text) :
    ∃ completing rest, bytes = completing ++ rest ∧ pending.Completes completing := by
  induction bytes generalizing pending position with
  | nil => simp [decodeFrom] at decoded
  | cons second bytes induction =>
      rw [decodeFrom] at decoded
      split at decoded
      · rename_i within
        simp only [Bool.and_eq_true, decide_eq_true_eq, UInt8.le_iff_toNat_le] at within
        cases missing : pending.missing with
        | zero => exact ⟨[second], bytes, rfl, within.1, within.2, by simp [missing], by simp⟩
        | succ count =>
            simp only [missing] at decoded
            obtain ⟨completing, rest, rfl, completes⟩ := induction decoded
            cases completing with
            | nil => exact completes.elim
            | cons third others =>
                obtain ⟨low, high, length, tails⟩ := completes
                refine ⟨second :: third :: others, rest, rfl, within.1, within.2, ?_, ?_⟩
                · simpa [missing] using length
                · exact List.forall_mem_cons.mpr ⟨⟨low, high⟩, tails⟩
      · cases decoded

/-- The bits that the first of several bytes gives to a character. -/
def leadBits (lead : UInt8) : Nat :=
  lead.toNat - if lead.toNat < 0xE0 then 0xC0 else if lead.toNat < 0xF0 then 0xE0 else 0xF0

theorem bits_of_start? {position : Nat} {lead : UInt8} {pending : Pending}
    (started : Pending.start? position lead = some pending) :
    0x80 ≤ lead.toNat ∧ pending.bits = leadBits lead := by
  unfold Pending.start? at started
  unfold leadBits
  simp only [UInt8.lt_iff_toNat_lt, UInt8.reduceToNat] at started
  split_ifs at started <;> cases started <;> dsimp only <;> split_ifs <;> omega

theorem val_ofNat {code : Nat} (valid : code.isValidChar) :
    (Char.ofNat code).val.toNat = code := by
  have whole : Char.ofNat code = Char.ofNatAux code valid := dif_pos valid
  rw [whole]
  rfl

/-- The bytes of a character are the encoding of the number that they spell. -/
theorem encodeChar_codeAfter {lead second : UInt8} {others : List UInt8}
    (character : IsCharacter (lead :: second :: others)) :
    String.utf8EncodeChar (Char.ofNat (codeAfter (leadBits lead) (second :: others))) =
      lead :: second :: others := by
  unfold String.utf8EncodeChar
  rcases others with _ | ⟨third, _ | ⟨fourth, _ | ⟨fifth, rest⟩⟩⟩
  · simp only [isCharacter_pair, IsTail] at character
    have bits : leadBits lead = lead.toNat - 0xC0 := by
      rw [leadBits, if_pos (by omega)]
    rw [codeAfter_cons, codeAfter_nil, bits, val_ofNat (by unfold Nat.isValidChar; omega),
      if_neg (by omega), if_pos (by omega)]
    simp only [List.cons.injEq, and_true, ← UInt8.toNat_inj, UInt8.toNat_ofNat']
    omega
  · simp only [isCharacter_triple, IsTail] at character
    have bits : leadBits lead = lead.toNat - 0xE0 := by
      rw [leadBits, if_neg (by omega), if_pos (by omega)]
    rw [codeAfter_cons, codeAfter_cons, codeAfter_nil, bits,
      val_ofNat (by unfold Nat.isValidChar; omega), if_neg (by omega), if_neg (by omega),
      if_pos (by omega)]
    simp only [List.cons.injEq, and_true, ← UInt8.toNat_inj, UInt8.toNat_ofNat']
    omega
  · simp only [isCharacter_quadruple, IsTail] at character
    have bits : leadBits lead = lead.toNat - 0xF0 := by
      rw [leadBits, if_neg (by omega), if_neg (by omega)]
    rw [codeAfter_cons, codeAfter_cons, codeAfter_cons, codeAfter_nil, bits,
      val_ofNat (by unfold Nat.isValidChar; omega), if_neg (by omega), if_neg (by omega),
      if_neg (by omega)]
    simp only [List.cons.injEq, and_true, ← UInt8.toNat_inj, UInt8.toNat_ofNat']
    omega
  · exact absurd character not_isCharacter_of_long

/-- Bytes of a character are the encoding of one, for which decoding takes them. -/
theorem exists_char_of_isCharacter {bytes : List UInt8} (character : IsCharacter bytes) :
    ∃ c, String.utf8EncodeChar c = bytes ∧ ∀ position read rest,
      decodeFrom none position read (bytes ++ rest) =
        decodeFrom none (position + bytes.length) (c :: read) rest := by
  rcases bytes with _ | ⟨lead, _ | ⟨second, others⟩⟩
  · exact absurd character not_isCharacter_nil
  · rw [isCharacter_singleton] at character
    refine ⟨Char.ofNat lead.toNat, ?_, fun position read rest => ?_⟩
    · unfold String.utf8EncodeChar
      rw [val_ofNat (.inl (by omega)), if_pos (by omega), UInt8.ofNat_toNat]
    · have low : lead < 0x80 := UInt8.lt_iff_toNat_lt.mpr character
      rw [List.singleton_append, decodeFrom, if_pos low, List.length_singleton]
  · refine ⟨_, encodeChar_codeAfter character, fun position read rest => ?_⟩
    obtain ⟨pending, started, completes⟩ :=
      (isCharacter_cons_cons position lead second others).mp character
    obtain ⟨high, bits⟩ := bits_of_start? started
    have above : ¬ lead < 0x80 := fun below =>
      Nat.not_lt.mpr high (UInt8.lt_iff_toNat_lt.mp below)
    rw [List.cons_append, decodeFrom, if_neg above, started]
    dsimp only
    rw [decodeFrom_of_completes completes, bits, List.length_cons (a := lead), Nat.add_right_comm,
      Nat.add_assoc]

/-- What can be decoded starts with the bytes of a character, unless there are none. -/
theorem exists_character_of_decoded {position : Nat} {read text : List Char} {lead : UInt8}
    {bytes : List UInt8} (decoded : decodeFrom none position read (lead :: bytes) = .ok text) :
    ∃ others rest, bytes = others ++ rest ∧ IsCharacter (lead :: others) := by
  rw [decodeFrom] at decoded
  split at decoded
  · rename_i low
    exact ⟨[], bytes, rfl, isCharacter_singleton.mpr (UInt8.lt_iff_toNat_lt.mp low)⟩
  · split at decoded
    · rename_i pending started
      obtain ⟨completing, rest, rfl, completes⟩ := completes_of_decoded decoded
      cases completing with
      | nil => exact completes.elim
      | cons second others =>
          exact ⟨second :: others, rest, rfl,
            (isCharacter_cons_cons position lead second others).mpr ⟨pending, started, completes⟩⟩
    · cases decoded

/-! ## Decoding and encoding -/

theorem encodeUtf8_cons (c : Char) (text : List Char) :
    encodeUtf8 (c :: text) = String.utf8EncodeChar c ++ encodeUtf8 text :=
  List.flatMap_cons

theorem encodeUtf8_append (first second : List Char) :
    encodeUtf8 (first ++ second) = encodeUtf8 first ++ encodeUtf8 second :=
  List.flatMap_append

/-- Different characters have different encodings. -/
theorem utf8EncodeChar_injective : Function.Injective String.utf8EncodeChar := by
  intro first second same
  have decoded :=
    ByteArray.utf8DecodeChar?_utf8EncodeChar_append (b := ByteArray.empty) (c := first)
  rw [same, ByteArray.utf8DecodeChar?_utf8EncodeChar_append] at decoded
  exact (Option.some.inj decoded).symm

theorem decodeFrom_encodeChar (c : Char) (position : Nat) (read : List Char)
    (rest : List UInt8) :
    decodeFrom none position read (String.utf8EncodeChar c ++ rest) =
      decodeFrom none (position + (String.utf8EncodeChar c).length) (c :: read) rest := by
  obtain ⟨other, encoded, takes⟩ := exists_char_of_isCharacter (isCharacter_encodeChar c)
  rw [takes, utf8EncodeChar_injective encoded]

theorem decodeFrom_encodeUtf8 (text : List Char) (position : Nat) (read : List Char) :
    decodeFrom none position read (encodeUtf8 text) = .ok (read.reverse ++ text) := by
  induction text generalizing position read with
  | nil => simp [encodeUtf8, decodeFrom]
  | cons c text induction =>
      rw [encodeUtf8_cons, decodeFrom_encodeChar, induction, List.reverse_cons, List.append_assoc,
        List.singleton_append]

/-- What can be decoded is an encoding. -/
theorem exists_text_of_decoded {position : Nat} {read text : List Char} {bytes : List UInt8}
    (decoded : decodeFrom none position read bytes = .ok text) :
    ∃ later, encodeUtf8 later = bytes := by
  -- The bytes of a character are taken at once, so the induction is on their number.
  induction size : bytes.length using Nat.strongRecOn generalizing position read bytes with
  | _ count induction =>
      cases bytes with
      | nil => exact ⟨[], rfl⟩
      | cons lead bytes =>
          obtain ⟨others, rest, rfl, character⟩ := exists_character_of_decoded decoded
          obtain ⟨c, encoded, takes⟩ := exists_char_of_isCharacter character
          rw [← List.cons_append, takes] at decoded
          have fewer : rest.length < count := by
            rw [List.length_cons, List.length_append] at size
            omega
          obtain ⟨later, same⟩ := induction rest.length fewer decoded rfl
          exact ⟨c :: later, by rw [encodeUtf8_cons, encoded, same, List.cons_append]⟩

/-- Decoding is the inverse of encoding. -/
theorem decodeUtf8_eq_ok_iff {bytes : List UInt8} {text : List Char} :
    decodeUtf8 bytes = .ok text ↔ encodeUtf8 text = bytes := by
  constructor
  · intro decoded
    obtain ⟨other, rfl⟩ := exists_text_of_decoded decoded
    rw [decodeUtf8, decodeFrom_encodeUtf8, List.reverse_nil, List.nil_append] at decoded
    rw [Except.ok.inj decoded]
  · rintro rfl
    rw [decodeUtf8, decodeFrom_encodeUtf8, List.reverse_nil, List.nil_append]

theorem encodeUtf8_injective : Function.Injective encodeUtf8 := by
  intro first second same
  have decoded := decodeUtf8_eq_ok_iff.mpr same
  rw [decodeUtf8_eq_ok_iff.mpr rfl] at decoded
  exact (Except.ok.inj decoded).symm

theorem exists_text_of_characters {characters : List (List UInt8)}
    (all : ∀ character ∈ characters, IsCharacter character) :
    ∃ text, encodeUtf8 text = characters.flatten := by
  induction characters with
  | nil => exact ⟨[], rfl⟩
  | cons character characters induction =>
      obtain ⟨c, encoded, -⟩ := exists_char_of_isCharacter (all character List.mem_cons_self)
      obtain ⟨text, same⟩ := induction fun other member =>
        all other (List.mem_cons_of_mem character member)
      exact ⟨c :: text, by rw [encodeUtf8_cons, encoded, same, List.flatten_cons]⟩

/-- Bytes are well formed exactly if they encode a text. -/
theorem isWellFormed_iff {bytes : List UInt8} :
    IsWellFormed bytes ↔ ∃ text, encodeUtf8 text = bytes := by
  constructor
  · rintro ⟨characters, all, rfl⟩
    exact exists_text_of_characters all
  · rintro ⟨text, rfl⟩
    refine ⟨text.map String.utf8EncodeChar, ?_, List.flatMap_def.symm⟩
    intro character member
    obtain ⟨c, -, rfl⟩ := List.mem_map.mp member
    exact isCharacter_encodeChar c

/-- Decoding accepts exactly the bytes that are well formed. -/
theorem exists_decoded_iff {bytes : List UInt8} :
    (∃ text, decodeUtf8 bytes = .ok text) ↔ IsWellFormed bytes := by
  simp only [decodeUtf8_eq_ok_iff, isWellFormed_iff]

/-! ## Cutting -/

theorem split_eq_splitOn (mark : Char) (text : List Char) :
    split mark text = text.splitOn mark := by
  have joined := List.splitOn_intercalate mark (fun _ => not_mem_of_mem_split)
    (split_ne_nil mark text)
  rw [← joined, intercalate_split]

theorem split_append (mark : Char) (front last : List Char) :
    split mark (front ++ mark :: last) = split mark front ++ split mark last := by
  simp only [split_eq_splitOn, List.splitOn]
  exact List.splitOnP_append_cons front last (by simp)

theorem split_of_not_mem {mark : Char} {text : List Char} (plain : mark ∉ text) :
    split mark text = [text] := by
  have joined := List.splitOn_intercalate mark (by simpa using plain) (List.cons_ne_nil text [])
  rw [split_eq_splitOn]
  simpa using joined

theorem split_intercalate {mark : Char} {parts : List (List Char)}
    (plain : ∀ part ∈ parts, mark ∉ part) (some : parts ≠ []) :
    split mark ([mark].intercalate parts) = parts := by
  rw [split_eq_splitOn, List.splitOn_intercalate mark plain some]

/-- Characters that are not encoded as one byte have no byte below 128. -/
theorem le_of_mem_character {lead second : UInt8} {others : List UInt8}
    (character : IsCharacter (lead :: second :: others)) :
    ∀ byte ∈ lead :: second :: others, 0x80 ≤ byte.toNat := by
  rcases others with _ | ⟨third, _ | ⟨fourth, _ | ⟨fifth, rest⟩⟩⟩
  · simp only [isCharacter_pair, IsTail] at character
    simp only [List.forall_mem_cons, List.not_mem_nil, false_imp_iff, implies_true, and_true]
    omega
  · simp only [isCharacter_triple, IsTail] at character
    simp only [List.forall_mem_cons, List.not_mem_nil, false_imp_iff, implies_true, and_true]
    omega
  · simp only [isCharacter_quadruple, IsTail] at character
    simp only [List.forall_mem_cons, List.not_mem_nil, false_imp_iff, implies_true, and_true]
    omega
  · exact absurd character not_isCharacter_of_long

variable {mark : Char} {byte : UInt8}

/-- A byte that encodes a character occurs in the encoding of no other one. -/
theorem mem_encodeChar_iff (encodes : String.utf8EncodeChar mark = [byte]) (c : Char) :
    byte ∈ String.utf8EncodeChar c ↔ c = mark := by
  constructor
  · intro member
    have low : byte.toNat < 0x80 := isCharacter_singleton.mp (encodes ▸ isCharacter_encodeChar mark)
    have character := isCharacter_encodeChar c
    rcases encoded : String.utf8EncodeChar c with _ | ⟨lead, _ | ⟨second, others⟩⟩
    · simp [encoded] at member
    · rw [encoded, List.mem_singleton] at member
      exact utf8EncodeChar_injective (by rw [encoded, encodes, member])
    · rw [encoded] at character member
      exact absurd low (Nat.not_lt.mpr (le_of_mem_character character byte member))
  · rintro rfl
    simp [encodes]

theorem mem_encodeUtf8_iff (encodes : String.utf8EncodeChar mark = [byte]) (text : List Char) :
    byte ∈ encodeUtf8 text ↔ mark ∈ text := by
  simp [encodeUtf8, mem_encodeChar_iff encodes]

theorem encodeUtf8_intercalate (encodes : String.utf8EncodeChar mark = [byte])
    (parts : List (List Char)) :
    encodeUtf8 ([mark].intercalate parts) = [byte].intercalate (parts.map encodeUtf8) := by
  induction parts with
  | nil => rfl
  | cons part parts induction =>
      cases parts with
      | nil => simp
      | cons next parts =>
          rw [List.intercalate_cons_cons, encodeUtf8_append, encodeUtf8_append, induction,
            encodeUtf8_cons, encodes]
          simp [encodeUtf8]

/-- Cutting an encoded text at a byte is cutting the text at the character that the byte encodes. -/
theorem splitOn_encodeUtf8 (encodes : String.utf8EncodeChar mark = [byte]) (text : List Char) :
    (encodeUtf8 text).splitOn byte = (split mark text).map encodeUtf8 := by
  have apart : ∀ part ∈ (split mark text).map encodeUtf8, byte ∉ part := by
    intro part member
    obtain ⟨chars, among, rfl⟩ := List.mem_map.mp member
    rw [mem_encodeUtf8_iff encodes]
    exact not_mem_of_mem_split among
  rw [← List.splitOn_intercalate byte apart (by simp [split_ne_nil]),
    ← encodeUtf8_intercalate encodes, intercalate_split]

end RepoCatalog.Text
