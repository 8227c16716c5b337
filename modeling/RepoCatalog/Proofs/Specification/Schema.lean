import RepoCatalog.Proofs.Json.Writing
import RepoCatalog.Specification.Types

/-!
# The schema of specifications

Which members the records of a specification have, and in which order. In the written form members
may be missing, but none of those that are there is zero.
-/

namespace RepoCatalog

/-! ## Schemas -/

/-- What a value has to be. -/
inductive Schema
  | text
  | number
  | list (each : Schema)
  | record (fields : List (String × Schema))

namespace Schema

/-- Members of metadata. -/
def metadata : Schema :=
  record [("github", text), ("remote", text), ("url_pattern", text)]

/-- Members of clone options. -/
def cloneOptions : Schema :=
  record [("depth", number), ("username", text), ("password_env", text)]

/-- Members of an entry. -/
def entry : Schema :=
  record [("path", text), ("name", text), ("revisions", list text), ("metadata", metadata),
    ("clone_options", cloneOptions)]

/-- Members of a specification. -/
def specification : Schema :=
  record [("name", text), ("repositories", list entry)]

end Schema

/-- Whether a value is not one that is left out. -/
structure Json.IsNonzero (value : Json) : Prop where
  /-- It is not the empty text. -/
  text : value ≠ string ""
  /-- It is not zero. -/
  number : value ≠ integer 0
  /-- It is not null. -/
  null : value ≠ null
  /-- It is not the empty array. -/
  array : value ≠ array []
  /-- It is not the empty object. -/
  object : value ≠ object []

mutual

/-- Whether a value follows a schema, its numbers being short enough to be written. -/
inductive Fits : Schema → Json → Prop
  | text (value : String) : Fits .text (.string value)
  | number {value : Int} (short : value.natAbs < Nat.pow 10 Failure.digitLimit) :
      Fits .number (.integer value)
  | list {each : Schema} {items : List Json} (all : ∀ item ∈ items, Fits each item) :
      Fits (.list each) (.array items)
  | record {fields : List (String × Schema)} {members : List (String × Json)}
      (distinct : (fields.map Prod.fst).Nodup) (written : FitsFields fields members) :
      Fits (.record fields) (.object members)

/-- Whether members follow the fields of a record in order, none of them zero. -/
inductive FitsFields : List (String × Schema) → List (String × Json) → Prop
  | none : FitsFields [] []
  | absent {field : String × Schema} {fields : List (String × Schema)}
      {members : List (String × Json)} (rest : FitsFields fields members) :
      FitsFields (field :: fields) members
  | present {name : String} {schema : Schema} {fields : List (String × Schema)} {value : Json}
      {members : List (String × Json)} (nonzero : value.IsNonzero) (fits : Fits schema value)
      (rest : FitsFields fields members) :
      FitsFields ((name, schema) :: fields) ((name, value) :: members)

end

/-! ## Plain specifications -/

/-- Whether an entry has texts where texts belong, and a depth short enough to be written. -/
structure RepositoryEntry.IsPlain (entry : RepositoryEntry) : Prop where
  /-- Every revision is a text. -/
  revisions : ∃ texts : List String, entry.revisions = texts.map .value
  /-- The addresses are texts. -/
  metadata : ∀ metadata ∈ entry.metadata,
    (∃ text, metadata.github = .string text) ∧ ∃ text, metadata.remote = .string text
  /-- The depth has as many digits as can be written, or fewer. -/
  depth : ∀ options ∈ entry.cloneOptions, options.depth.natAbs < Nat.pow 10 Failure.digitLimit

/-- Whether the entries of a specification are plain. -/
def Specification.IsPlain (specification : Specification) : Prop :=
  ∀ entry ∈ specification.repositories, entry.IsPlain

/-! ## Values that follow a schema -/

theorem FitsFields.sublist {fields : List (String × Schema)} {members : List (String × Json)}
    (written : FitsFields fields members) :
    (members.map Prod.fst).Sublist (fields.map Prod.fst) := by
  induction fields generalizing members with
  | nil =>
      cases written
      exact List.Sublist.refl _
  | cons field fields induction =>
      cases written with
      | absent rest => exact (induction rest).cons field.1
      | present _ _ rest => exact (induction rest).cons_cons _

mutual

theorem Fits.isExact {schema : Schema} {value : Json} : Fits schema value → value.IsExact
  | .text value => .string value
  | .number _ => .integer _
  | .list all => .array fun item member => (all item member).isExact
  | .record distinct written => .object written.isExact (distinct.sublist written.sublist)

theorem FitsFields.isExact {fields : List (String × Schema)} {members : List (String × Json)} :
    FitsFields fields members → ∀ member ∈ members, member.2.IsExact
  | .none => fun _ member => absurd member List.not_mem_nil
  | .absent rest => rest.isExact
  | .present _ fits rest => List.forall_mem_cons.mpr ⟨fits.isExact, rest.isExact⟩

end

theorem Json.anyLongNumber_eq_false {items : List Json}
    (all : ∀ item ∈ items, item.hasLongNumber = false) : anyLongNumber items = false := by
  induction items with
  | nil => rfl
  | cons item items induction =>
      obtain ⟨first, others⟩ := List.forall_mem_cons.mp all
      rw [anyLongNumber, first, induction others, Bool.or_self]

mutual

theorem Fits.hasLongNumber_eq_false {schema : Schema} {value : Json} :
    Fits schema value → value.hasLongNumber = false
  | .text _ => rfl
  | .number short => by
      unfold Json.hasLongNumber
      exact decide_eq_false (Nat.not_le_of_gt short)
  | .list all => Json.anyLongNumber_eq_false fun item member =>
      (all item member).hasLongNumber_eq_false
  | .record _ written => written.anyLongMember_eq_false

theorem FitsFields.anyLongMember_eq_false {fields : List (String × Schema)}
    {members : List (String × Json)} :
    FitsFields fields members → Json.anyLongMember members = false
  | .none => rfl
  | .absent rest => rest.anyLongMember_eq_false
  | .present _ fits rest => by
      rw [Json.anyLongMember, fits.hasLongNumber_eq_false, rest.anyLongMember_eq_false,
        Bool.or_self]

end

/-! ## Written forms -/

theorem Json.IsNonzero.of_isTruthy {value : Json} (truthy : value.isTruthy = true) :
    value.IsNonzero := by
  constructor <;> rintro rfl <;> cases truthy

/-- What is left of members fits when the values that are not dropped do. -/
theorem fitsFields_dropEmpty {name : String} {schema : Schema} {fields : List (String × Schema)}
    {value : Json} {members : List (String × Json)}
    (fits : value.isTruthy = true → Fits schema value)
    (rest : FitsFields fields (dropEmpty members)) :
    FitsFields ((name, schema) :: fields) (dropEmpty ((name, value) :: members)) := by
  by_cases truthy : value.isTruthy = true
  · rw [dropEmpty, List.filter_cons, if_pos truthy]
    exact .present (.of_isTruthy truthy) (fits truthy) rest
  · rw [dropEmpty, List.filter_cons, if_neg truthy]
    exact .absent rest

theorem CloneOptions.toJson_fits {options : CloneOptions}
    (short : options.depth.natAbs < Nat.pow 10 Failure.digitLimit) :
    Fits .cloneOptions options.toJson :=
  .record (by decide) (fitsFields_dropEmpty (fun _ => .number short)
    (fitsFields_dropEmpty (fun _ => .text _) (fitsFields_dropEmpty (fun _ => .text _) .none)))

theorem Metadata.toJson_fits {metadata : Metadata}
    (texts : (∃ text, metadata.github = .string text) ∧ ∃ text, metadata.remote = .string text) :
    Fits .metadata metadata.toJson := by
  obtain ⟨⟨page, github⟩, ⟨address, remote⟩⟩ := texts
  rw [toJson, github, remote]
  exact .record (by decide) (fitsFields_dropEmpty (fun _ => .text _)
    (fitsFields_dropEmpty (fun _ => .text _) (fitsFields_dropEmpty (fun _ => .text _) .none)))

/-- A record that is not given is null, which is dropped. -/
theorem fits_optional {Record : Type} {schema : Schema} {toJson : Record → Json}
    {optional : Option Record} (fits : ∀ given ∈ optional, Fits schema (toJson given))
    (truthy : ((optional.map toJson).getD .null).isTruthy = true) :
    Fits schema ((optional.map toJson).getD .null) := by
  cases optional with
  | none => cases truthy
  | some given => exact fits given rfl

theorem RepositoryEntry.toJson_fits {entry : RepositoryEntry} (plain : entry.IsPlain) :
    Fits .entry entry.toJson := by
  have revisions : Fits (.list .text) (.array (entry.revisions.map revisionJson)) := by
    obtain ⟨texts, revisions⟩ := plain.revisions
    rw [revisions, List.map_map]
    refine .list fun item member => ?_
    obtain ⟨text, -, rfl⟩ := List.mem_map.mp member
    exact .text text
  exact .record (by decide) (fitsFields_dropEmpty (fun _ => .text _)
    (fitsFields_dropEmpty (fun _ => .text _) (fitsFields_dropEmpty (fun _ => revisions)
      (fitsFields_dropEmpty
        (fits_optional fun given member => Metadata.toJson_fits (plain.metadata given member))
        (fitsFields_dropEmpty
          (fits_optional fun given member => CloneOptions.toJson_fits (plain.depth given member))
          .none)))))

/-- The written form of a plain specification follows the schema. -/
theorem Specification.toJson_fits {specification : Specification}
    (plain : specification.IsPlain) : Fits .specification specification.toJson := by
  have repositories : Fits (.list .entry)
      (.array (specification.repositories.map RepositoryEntry.toJson)) := by
    refine .list fun item member => ?_
    obtain ⟨entry, among, rfl⟩ := List.mem_map.mp member
    exact RepositoryEntry.toJson_fits (plain entry among)
  exact .record (by decide) (fitsFields_dropEmpty (fun _ => .text _)
    (fitsFields_dropEmpty (fun _ => repositories) .none))

end RepoCatalog
