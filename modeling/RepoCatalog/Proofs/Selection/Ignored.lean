import RepoCatalog.Proofs.Pipeline.Invariance
import RepoCatalog.Proofs.Text.Utf8

/-!
# Ignored paths

An ignore list is taken byte by byte: it is rejected exactly if its bytes are no UTF-8, and
otherwise leaves out the repositories whose paths are, in bytes, what stands between its line feeds.
-/

namespace RepoCatalog

open Effect

namespace IgnoreList

/-- Byte that separates the lines of an ignore list. -/
def lineFeed : UInt8 := 0x0A

theorem encodeChar_newline : String.utf8EncodeChar '\n' = [lineFeed] := rfl

/-- Whether a path is, in bytes, a line of the content of an ignore list. -/
def names (content : List UInt8) (path : String) : Bool :=
  (content.splitOn lineFeed).contains (Text.encodeUtf8 path.toList)

/-- Whether a repository is kept by rules with an ignore list of the given content. -/
def keeps (excludesForks : Bool) (content : List UInt8) (repository : Repository) : Bool :=
  !(excludesForks && repository.isFork) && !names content repository.pathKey

variable {files : FileTree} {path : String} {content : List UInt8}

theorem load_of_readable (readable : readFile files (FilePath.ofString path) = .ok content) :
    load files path =
      match Text.decodeUtf8 content with
      | .error malformed =>
        .error (.ignoreListUnreadable (FilePath.ofString path) (.notUtf8 malformed))
      | .ok text => .ok ((Text.split '\n' text).map String.ofList) := by
  simp only [load, readable, parse]
  cases Text.decodeUtf8 content <;> rfl

/-- The content of a list is rejected exactly if it is no UTF-8. -/
theorem rejected_iff (readable : readFile files (FilePath.ofString path) = .ok content) :
    (∃ malformed, load files path =
      .error (.ignoreListUnreadable (FilePath.ofString path) (.notUtf8 malformed))) ↔
        ¬ Text.IsWellFormed content := by
  rw [load_of_readable readable, ← Text.exists_decoded_iff]
  cases Text.decodeUtf8 content with
  | error malformed => simp
  | ok text => simp

/-- The lines of a list are the paths whose bytes stand between its line feeds. -/
theorem contains_lines (text : List Char) (path : String) :
    ((Text.split '\n' text).map String.ofList).contains path =
      names (Text.encodeUtf8 text) path := by
  have encoded := Text.splitOn_encodeUtf8 encodeChar_newline text
  rw [names, encoded, Bool.eq_iff_iff, List.contains_iff_mem, List.contains_iff_mem,
    List.mem_map_of_injective Text.encodeUtf8_injective, List.mem_map]
  constructor
  · rintro ⟨line, among, rfl⟩
    rwa [String.toList_ofList]
  · intro among
    exact ⟨path.toList, among, String.ofList_toList⟩

/-- Lines that hold no line feed are read as they were joined. -/
theorem load_of_lines {lines : List String}
    (readable : readFile files (FilePath.ofString path) = .ok content) (nonempty : lines ≠ [])
    (unbroken : ∀ line ∈ lines, '\n' ∉ line.toList)
    (joined : content = Text.encodeUtf8 ("\n".intercalate lines).toList) :
    load files path = .ok lines := by
  have decoded : Text.decodeUtf8 content = .ok ("\n".intercalate lines).toList :=
    Text.decodeUtf8_eq_ok_iff.mpr joined.symm
  have apart : ∀ line ∈ lines.map String.toList, '\n' ∉ line := by
    intro line member
    obtain ⟨text, among, rfl⟩ := List.mem_map.mp member
    exact unbroken text among
  have cut : Text.split '\n' ("\n".intercalate lines).toList = lines.map String.toList := by
    rw [Text.split_eq_splitOn, String.toList_intercalate]
    exact List.splitOn_intercalate '\n' apart (by simpa using nonempty)
  rw [load_of_readable readable, decoded]
  simp only [cut, List.map_map]
  simp [Function.comp_def]

/-- What a policy with an ignore list says about a repository. -/
theorem verdict_eq_keep_iff {policy : Policy} {text : List Char} {repository : Repository}
    (listed : policy.ignored = some ((Text.split '\n' text).map String.ofList))
    (plain : repository.path.isText = true) :
    policy.verdict repository = .keep ↔
      keeps policy.excludesForks (Text.encodeUtf8 text) repository = true := by
  obtain ⟨path, spelled⟩ : ∃ path, repository.path = .string path := by
    cases given : repository.path <;> simp_all [Json.isText, Json.text?]
  have ignores : policy.ignores repository = names (Text.encodeUtf8 text) path := by
    rw [← contains_lines]
    simp [Policy.ignores, listed, spelled]
  have key : repository.pathKey = path := by
    simp [Repository.pathKey, spelled, Json.text?]
  rw [Policy.verdict, ignores, keeps, key, spelled]
  cases policy.excludesForks <;> cases repository.isFork <;>
    cases names (Text.encodeUtf8 text) path <;> simp [Json.isContainer]

/-- An ignore list is rejected exactly if its bytes are no UTF-8. Otherwise it leaves out the
repositories whose paths are, in bytes, what stands between its line feeds, and none else; lines
without line feeds are read as they were written. -/
theorem matches_bytes (files : FileTree) (path : String) (content : List UInt8)
    (readable : readFile files (FilePath.ofString path) = .ok content) :
    ((∃ malformed, load files path =
      .error (.ignoreListUnreadable (FilePath.ofString path) (.notUtf8 malformed))) ↔
        ¬ Text.IsWellFormed content) ∧
    (Text.IsWellFormed content → ∃ paths, load files path = .ok paths ∧
      (∀ configuration : Configuration, configuration.ignoreList = some (.value path) →
        path ≠ "" → configuration.policy files =
          .ok ⟨!configuration.forks, !configuration.archived, some paths⟩) ∧
      ∀ (policy : Policy) (repositories : List Repository) (world : World),
        policy.ignored = some paths →
        (∀ repository ∈ repositories, repository.path.isText = true) →
          ((Selection.select policy repositories).run world).1 =
            .ok (repositories.filter (keeps policy.excludesForks content))) ∧
    ∀ lines : List String, lines ≠ [] → (∀ line ∈ lines, '\n' ∉ line.toList) →
      content = Text.encodeUtf8 ("\n".intercalate lines).toList →
        load files path = .ok lines := by
  refine ⟨rejected_iff readable, fun wellFormed => ?_, fun lines => load_of_lines readable⟩
  obtain ⟨text, decoded⟩ := Text.exists_decoded_iff.mpr wellFormed
  obtain rfl := Text.decodeUtf8_eq_ok_iff.mp decoded
  have loaded : load files path = .ok ((Text.split '\n' text).map String.ofList) := by
    rw [load_of_readable readable, decoded]
  refine ⟨_, loaded, fun configuration chosen named => ?_, fun policy repositories world listed
    texts => ?_⟩
  · simp only [Configuration.policy, chosen, Option.bind_some, Given.toOption_value,
      Option.getD_some, named, if_false, loaded, Except.map]
  · rw [Selection.run_select_of_texts policy texts]
    refine congrArg Except.ok (List.filter_congr fun repository member => ?_)
    rw [Bool.eq_iff_iff, decide_eq_true_eq]
    exact verdict_eq_keep_iff listed (texts repository member)

/-- A byte order mark, a carriage return and a number sign belong to the lines they stand in. -/
theorem matches_bytes_of_marked_lines :
    let lines := ["\uFEFFg/a", "g/b\r", "#g/c", "g/\u00FC"]
    let content := Text.encodeUtf8 ("\n".intercalate lines).toList
    let files := Rehearsal.filesWith [("ignored", content)]
    let repository (path : String) : Repository :=
      ⟨.string path, .string "", .string "", .string "", none, false⟩
    readFile files (FilePath.ofString "ignored") = .ok content ∧
      load files "ignored" = .ok lines ∧
      ((Selection.select ⟨true, true, some lines⟩
        (["g/a", "g/b", "g/\u00FC", "g/c"].map repository)).run
          (Rehearsal.world [] [] [])).1 = .ok (["g/a", "g/b", "g/c"].map repository) := by
  intro lines content files repository
  have readable : readFile files (FilePath.ofString "ignored") = .ok content := rfl
  obtain ⟨-, accepted, spelled⟩ := matches_bytes files "ignored" content readable
  have loaded : load files "ignored" = .ok lines :=
    spelled lines (by decide) (by decide) rfl
  have wellFormed : Text.IsWellFormed content := Text.isWellFormed_iff.mpr ⟨_, rfl⟩
  obtain ⟨paths, same, -, selects⟩ := accepted wellFormed
  obtain rfl : lines = paths := Except.ok.inj (loaded.symm.trans same)
  have cut : (Text.split '\n' ("\n".intercalate lines).toList).map String.ofList = lines := by
    decide
  have kept (path : String) : keeps true content (repository path) = !lines.contains path := by
    rw [← cut, contains_lines]
    rfl
  refine ⟨readable, loaded, ?_⟩
  rw [selects ⟨true, true, some lines⟩ _ _ rfl (by decide), List.filter_map,
    show keeps true content ∘ repository = fun path => !lines.contains path from funext kept]
  rfl

end IgnoreList

end RepoCatalog
