import RepoCatalog.Proofs.Json.Reading
import RepoCatalog.Proofs.Specification.Schema

/-!
# Reading specifications back

A specification can be told from its text, up to records all of whose members are zero: they are
written like records that are not given.
-/

namespace RepoCatalog

/-! ## Decoding -/

/-- What a member stands for: zero if it is missing. -/
def memberOr {Value : Type} (decode? : Json → Option Value) (zero : Value) (name : String)
    (members : List (String × Json)) : Option Value :=
  match members.lookup name with
  | some json => decode? json
  | none => some zero

namespace Json

/-- The number an integer value holds. -/
def number? : Json → Option Int
  | integer value => some value
  | _ => none

/-- What the items of an array stand for. -/
def items? {Value : Type} (decode? : Json → Option Value) : Json → Option (List Value)
  | array items => items.mapM decode?
  | _ => none

end Json

namespace Metadata

/-- Metadata that say nothing. -/
def zero : Metadata :=
  ⟨.string "", .string "", ""⟩

/-- Metadata that a value stands for. -/
def decode? : Json → Option Metadata
  | .object members => do
    let github ← memberOr Json.text? "" "github" members
    let remote ← memberOr Json.text? "" "remote" members
    let urlPattern ← memberOr Json.text? "" "url_pattern" members
    return ⟨.string github, .string remote, urlPattern⟩
  | _ => none

end Metadata

namespace CloneOptions

/-- Clone options that say nothing. -/
def zero : CloneOptions :=
  ⟨0, "", ""⟩

/-- Clone options that a value stands for. -/
def decode? : Json → Option CloneOptions
  | .object members => do
    let depth ← memberOr Json.number? 0 "depth" members
    let username ← memberOr Json.text? "" "username" members
    let passwordVariable ← memberOr Json.text? "" "password_env" members
    return ⟨depth, username, passwordVariable⟩
  | _ => none

end CloneOptions

namespace RepositoryEntry

/-- An entry whose records are given, being zero if they are not. -/
def filled (entry : RepositoryEntry) : RepositoryEntry :=
  { entry with
    metadata := some (entry.metadata.getD .zero)
    cloneOptions := some (entry.cloneOptions.getD .zero) }

/-- The entry that a value stands for. -/
def decode? : Json → Option RepositoryEntry
  | .object members => do
    let path ← memberOr Json.text? "" "path" members
    let name ← memberOr Json.text? "" "name" members
    let revisions ← memberOr (Json.items? Json.text?) [] "revisions" members
    let metadata ← memberOr (fun json => (Metadata.decode? json).map some) none "metadata" members
    let cloneOptions ←
      memberOr (fun json => (CloneOptions.decode? json).map some) none "clone_options" members
    return ⟨path, name, revisions.map .value, metadata, cloneOptions⟩
  | _ => none

end RepositoryEntry

namespace Specification

/-- A specification with the records of its entries given. -/
def filled (specification : Specification) : Specification :=
  { specification with repositories := specification.repositories.map RepositoryEntry.filled }

/-- The specification that a value stands for. -/
def decode? : Json → Option Specification
  | .object members => do
    let name ← memberOr Json.text? "" "name" members
    let repositories ← memberOr (Json.items? RepositoryEntry.decode?) [] "repositories" members
    return ⟨name, repositories⟩
  | _ => none

end Specification

/-! ## Members that were dropped -/

theorem lookup_dropEmpty_of_absent {name : String} {members : List (String × Json)}
    (absent : name ∉ members.map Prod.fst) : (dropEmpty members).lookup name = none := by
  rw [List.lookup_eq_none_iff]
  intro member among
  rw [bne_iff_ne]
  rintro rfl
  exact absent (List.mem_map_of_mem (List.mem_filter.mp among).1)

/-- A member is found among those that are left unless its value is zero. -/
theorem lookup_dropEmpty {members : List (String × Json)}
    (distinct : (members.map Prod.fst).Nodup) (name : String) :
    (dropEmpty members).lookup name = (members.lookup name).filter Json.isTruthy := by
  induction members with
  | nil => rfl
  | cons member members induction =>
      obtain ⟨other, json⟩ := member
      rw [List.map_cons, List.nodup_cons] at distinct
      have rest := induction distinct.2
      by_cases same : name = other
      · subst same
        have dropped := lookup_dropEmpty_of_absent distinct.1
        rw [List.lookup_cons_self]
        by_cases truthy : json.isTruthy = true
        · rw [dropEmpty, List.filter_cons, if_pos truthy, List.lookup_cons_self,
            Option.filter_some_pos truthy]
        · rw [dropEmpty, List.filter_cons, if_neg truthy, ← dropEmpty, dropped,
            Option.filter_some_neg (Bool.eq_false_iff.mpr truthy)]
      · have apart : (name == other) = false := beq_eq_false_iff_ne.mpr same
        rw [List.lookup_cons, apart, ← rest]
        by_cases truthy : json.isTruthy = true
        · rw [dropEmpty, List.filter_cons, if_pos truthy, List.lookup_cons, apart, ← dropEmpty]
        · rw [dropEmpty, List.filter_cons, if_neg truthy, ← dropEmpty]

section Members

variable {members : List (String × Json)} (distinct : (members.map Prod.fst).Nodup)
  (name : String)

include distinct

/-- A member is read back when a dropped value stands for zero. -/
theorem memberOr_dropEmpty {Value : Type} {decode? : Json → Option Value} {zero value : Value}
    {json : Json} (found : members.lookup name = some json)
    (decodes : json.isTruthy = true → decode? json = some value)
    (drops : json.isTruthy = false → value = zero) :
    memberOr decode? zero name (dropEmpty members) = some value := by
  rw [memberOr, lookup_dropEmpty distinct, found]
  cases truthy : json.isTruthy with
  | true =>
      rw [Option.filter_some_pos truthy]
      exact decodes truthy
  | false =>
      rw [Option.filter_some_neg truthy, drops truthy]

theorem memberOr_text {text : String} (found : members.lookup name = some (.string text)) :
    memberOr Json.text? "" name (dropEmpty members) = some text :=
  memberOr_dropEmpty distinct name found (fun _ => rfl) (by simp [Json.isTruthy])

theorem memberOr_number {number : Int} (found : members.lookup name = some (.integer number)) :
    memberOr Json.number? 0 name (dropEmpty members) = some number :=
  memberOr_dropEmpty distinct name found (fun _ => rfl) (by simp [Json.isTruthy])

theorem memberOr_items {Value : Type} {decode? : Json → Option Value} {items : List Json}
    {values : List Value} (found : members.lookup name = some (.array items))
    (decodes : items.mapM decode? = some values) :
    memberOr (Json.items? decode?) [] name (dropEmpty members) = some values := by
  refine memberOr_dropEmpty distinct name found (fun _ => decodes) fun falsy => ?_
  obtain rfl : items = [] := by simpa [Json.isTruthy] using falsy
  exact (Option.some.inj decodes).symm

/-- A record that was dropped was not given, or zero. -/
theorem memberOr_optional {Record : Type} {decode? : Json → Option Record} {zero : Record}
    {toJson : Record → Json} {optional : Option Record}
    (found : members.lookup name = some ((optional.map toJson).getD .null))
    (decodes : ∀ given ∈ optional, decode? (toJson given) = some given)
    (drops : ∀ given ∈ optional, (toJson given).isTruthy = false → given = zero) :
    ∃ decoded, memberOr (fun json => (decode? json).map some) none name (dropEmpty members) =
      some decoded ∧ decoded.getD zero = optional.getD zero := by
  rw [memberOr, lookup_dropEmpty distinct, found]
  cases optional with
  | none => exact ⟨none, rfl, rfl⟩
  | some given =>
      cases truthy : (toJson given).isTruthy with
      | true =>
          refine ⟨some given, ?_, rfl⟩
          rw [Option.map_some, Option.getD_some, Option.filter_some_pos truthy]
          exact congrArg (Option.map some) (decodes given rfl)
      | false =>
          refine ⟨none, ?_, (drops given rfl truthy).symm⟩
          rw [Option.map_some, Option.getD_some, Option.filter_some_neg truthy]

end Members

/-! ## Records -/

theorem Json.object_eq_of_falsy {members : List (String × Json)}
    (falsy : (object members).isTruthy = false) : object members = object [] := by
  obtain rfl : members = [] := by simpa [isTruthy] using falsy
  rfl

theorem Metadata.decode?_toJson {metadata : Metadata}
    (texts : (∃ text, metadata.github = .string text) ∧ ∃ text, metadata.remote = .string text) :
    decode? metadata.toJson = some metadata := by
  obtain ⟨_, _, pattern⟩ := metadata
  obtain ⟨⟨page, rfl⟩, ⟨address, rfl⟩⟩ := texts
  have distinct : ([("github", Json.string page), ("remote", .string address),
      ("url_pattern", .string pattern)].map Prod.fst).Nodup := by
    simp
  have github := memberOr_text distinct "github" rfl
  have remote := memberOr_text distinct "remote" rfl
  have urlPattern := memberOr_text distinct "url_pattern" rfl
  simp only [toJson, decode?, github, remote, urlPattern]
  rfl

theorem CloneOptions.decode?_toJson (options : CloneOptions) :
    decode? options.toJson = some options := by
  have distinct : ([("depth", Json.integer options.depth), ("username", .string options.username),
      ("password_env", .string options.passwordVariable)].map Prod.fst).Nodup := by
    simp
  have depth := memberOr_number distinct "depth" rfl
  have username := memberOr_text distinct "username" rfl
  have password := memberOr_text distinct "password_env" rfl
  simp only [toJson, decode?, depth, username, password]
  rfl

theorem Metadata.eq_zero_of_falsy {metadata : Metadata}
    (texts : (∃ text, metadata.github = .string text) ∧ ∃ text, metadata.remote = .string text)
    (falsy : metadata.toJson.isTruthy = false) : metadata = zero := by
  have decoded := decode?_toJson texts
  rw [toJson, Json.object_eq_of_falsy falsy] at decoded
  exact (Option.some.inj decoded).symm

theorem CloneOptions.eq_zero_of_falsy {options : CloneOptions}
    (falsy : options.toJson.isTruthy = false) : options = zero := by
  have decoded := decode?_toJson options
  rw [toJson, Json.object_eq_of_falsy falsy] at decoded
  exact (Option.some.inj decoded).symm

theorem RepositoryEntry.mapM_revisionJson (texts : List String) :
    ((texts.map Given.value).map revisionJson).mapM Json.text? = some texts := by
  induction texts with
  | nil => rfl
  | cons text texts induction =>
      rw [List.map_cons, List.map_cons, List.mapM_cons, induction]
      rfl

/-- An entry is decoded from its written form up to records of zeros. -/
theorem RepositoryEntry.decode?_toJson {entry : RepositoryEntry} (plain : entry.IsPlain) :
    ∃ decoded, decode? entry.toJson = some decoded ∧ decoded.filled = entry.filled := by
  obtain ⟨texts, revisions⟩ := plain.revisions
  have items : (entry.revisions.map revisionJson).mapM Json.text? = some texts := by
    rw [revisions, mapM_revisionJson]
  have distinct : ([("path", Json.string entry.path), ("name", .string entry.name),
      ("revisions", .array (entry.revisions.map revisionJson)),
      ("metadata", (entry.metadata.map Metadata.toJson).getD .null),
      ("clone_options", (entry.cloneOptions.map CloneOptions.toJson).getD .null)].map
        Prod.fst).Nodup := by
    simp
  have path := memberOr_text distinct "path" rfl
  have name := memberOr_text distinct "name" rfl
  have listed := memberOr_items distinct "revisions" rfl items
  obtain ⟨metadata, foundMetadata, sameMetadata⟩ := memberOr_optional distinct "metadata" rfl
    (fun given member => Metadata.decode?_toJson (plain.metadata given member))
    fun given member => Metadata.eq_zero_of_falsy (plain.metadata given member)
  obtain ⟨cloneOptions, foundOptions, sameOptions⟩ := memberOr_optional distinct "clone_options" rfl
    (fun given _ => CloneOptions.decode?_toJson given)
    fun given _ => CloneOptions.eq_zero_of_falsy
  refine ⟨⟨entry.path, entry.name, texts.map .value, metadata, cloneOptions⟩, ?_, ?_⟩
  · simp only [toJson, decode?, path, name, listed, foundMetadata, foundOptions]
    rfl
  · rw [filled, filled, sameMetadata, sameOptions, revisions]

theorem decodes_entries {entries : List RepositoryEntry}
    (plain : ∀ entry ∈ entries, entry.IsPlain) :
    ∃ decoded, (entries.map RepositoryEntry.toJson).mapM RepositoryEntry.decode? = some decoded ∧
      decoded.map RepositoryEntry.filled = entries.map RepositoryEntry.filled := by
  induction entries with
  | nil => exact ⟨[], rfl, rfl⟩
  | cons entry entries induction =>
      obtain ⟨here, others⟩ := List.forall_mem_cons.mp plain
      obtain ⟨first, found, same⟩ := RepositoryEntry.decode?_toJson here
      obtain ⟨rest, foundRest, sameRest⟩ := induction others
      refine ⟨first :: rest, ?_, ?_⟩
      · rw [List.map_cons, List.mapM_cons, found, foundRest]
        rfl
      · rw [List.map_cons, List.map_cons, same, sameRest]

namespace Specification

/-- A specification is decoded from its written form up to records of zeros. -/
theorem decode?_toJson {specification : Specification} (plain : specification.IsPlain) :
    ∃ decoded, decode? specification.toJson = some decoded ∧
      decoded.filled = specification.filled := by
  obtain ⟨repositories, found, same⟩ := decodes_entries plain
  have distinct : ([("name", Json.string specification.name), ("repositories",
      .array (specification.repositories.map RepositoryEntry.toJson))].map Prod.fst).Nodup := by
    simp
  have name := memberOr_text distinct "name" rfl
  have listed := memberOr_items distinct "repositories" rfl found
  refine ⟨⟨specification.name, repositories⟩, ?_, ?_⟩
  · simp only [toJson, decode?, name, listed]
    rfl
  · rw [filled, filled, same]

/-- What the text of a plain specification is, and which value it is read as. -/
theorem render_eq_ok {specification : Specification} (plain : specification.IsPlain) :
    specification.render = .ok specification.toJson.pretty ∧
      Json.read? specification.toJson.pretty.toList = some specification.toJson := by
  have fits := toJson_fits plain
  refine ⟨?_, Json.read?_of_document (Json.document_pretty fits.isExact)⟩
  rw [render, fits.hasLongNumber_eq_false]
  rfl

/-- Records of zeros are written like records that are not given. -/
theorem toJson_filled (specification : Specification) :
    specification.filled.toJson = specification.toJson := by
  have entries : ∀ entry : RepositoryEntry, entry.filled.toJson = entry.toJson := by
    rintro ⟨path, name, revisions, metadata, options⟩
    cases metadata <;> cases options <;> rfl
  simp only [toJson, filled, List.map_map, Function.comp_def, entries]

/-- Reading the text of a specification loses nothing but the difference between records that are
not given and records of zeros. -/
theorem render_lossless {first second : Specification} (plain : first.IsPlain)
    (otherPlain : second.IsPlain) :
    (∃ text value decoded, first.render = .ok text ∧
      (∀ meaning, Json.Grammar.Document text.toList meaning ↔ meaning = value) ∧
      Json.read? text.toList = some value ∧ Fits .specification value ∧
      decode? value = some decoded ∧ decoded.filled = first.filled) ∧
    (first.render = second.render ↔ first.filled = second.filled) := by
  have fits := toJson_fits plain
  obtain ⟨rendered, read⟩ := render_eq_ok plain
  obtain ⟨otherRendered, otherRead⟩ := render_eq_ok otherPlain
  obtain ⟨decoded, found, same⟩ := decode?_toJson plain
  obtain ⟨otherDecoded, otherFound, otherSame⟩ := decode?_toJson otherPlain
  have only : ∀ meaning, Json.Grammar.Document first.toJson.pretty.toList meaning ↔
      meaning = first.toJson := by
    refine fun meaning => ⟨fun written => ?_, ?_⟩
    · exact Option.some.inj ((Json.read?_of_document written).symm.trans read)
    · rintro rfl
      exact Json.document_pretty fits.isExact
  refine ⟨⟨_, _, decoded, rendered, only, read, fits, found, same⟩, fun alike => ?_,
    fun alike => ?_⟩
  · rw [rendered, otherRendered] at alike
    rw [Except.ok.inj alike, otherRead] at read
    rw [← Option.some.inj read, otherFound] at found
    rw [← same, ← otherSame, Option.some.inj found]
  · rw [rendered, otherRendered, ← toJson_filled first, alike, toJson_filled]

/-- A specification with an entry of zeros, an empty revision and a name that needs escapes, with or
without a record of zeros. -/
def escaped (zeros : Bool) : Specification :=
  ⟨"\x22\\\n\x01", [⟨"", "", [], none, none⟩,
    ⟨"clones", "a/b", [.value "", .value "HEAD"], if zeros then some .zero else none,
      some ⟨-1, "", ""⟩⟩]⟩

theorem isPlain_escaped (zeros : Bool) : (escaped zeros).IsPlain := by
  have short : ∀ limit : Nat, limit ≠ 0 → 1 < Nat.pow 10 limit :=
    fun limit nonzero => Nat.one_lt_pow nonzero (by decide)
  intro entry among
  simp only [escaped, List.mem_cons, List.not_mem_nil, or_false] at among
  rcases among with rfl | rfl
  · exact ⟨⟨[], rfl⟩, by simp, by simp⟩
  · refine ⟨⟨["", "HEAD"], rfl⟩, ?_, ?_⟩
    · cases zeros with
      | false => simp
      | true =>
          rintro _ ⟨⟩
          exact ⟨⟨"", rfl⟩, "", rfl⟩
    · rintro _ ⟨⟩
      exact short Failure.digitLimit (by decide)

theorem render_lossless_escaped :
    (escaped true).IsPlain ∧ (escaped false).IsPlain ∧
      ∃ text value decoded, (escaped true).render = .ok text ∧ (escaped false).render = .ok text ∧
        Json.read? text.toList = some value ∧ Fits .specification value ∧
        decode? value = some decoded ∧ decoded.filled = (escaped false).filled := by
  obtain ⟨⟨text, value, decoded, rendered, -, read, fits, found, same⟩, alike⟩ :=
    render_lossless (isPlain_escaped true) (isPlain_escaped false)
  refine ⟨isPlain_escaped true, isPlain_escaped false, text, value, decoded, rendered, ?_, read,
    fits, found, same⟩
  rw [← alike.mpr rfl]
  exact rendered

end Specification

end RepoCatalog
