import RepoCatalog.Program
import RepoCatalog.Proofs.CommandLine.Words
import RepoCatalog.Proofs.Effect

/-!
# What words settle

Reading words is a fold: each part of the configuration is settled by the last word about it, read
as its kind, or keeps its usual value. A value that cannot be read ends the program, whatever comes
after it.
-/

namespace RepoCatalog.CommandLine

/-! ## The last word -/

/-- Number that a text writes, which may not be zero. -/
def positiveNumber (text : String) : Int :=
  ((readPositive text).toOption.getD 0 : Nat)

/-- Number that a text writes, which may be zero. -/
def plainNumber (text : String) : Int :=
  ((readNonNegative text).toOption.getD 0 : Nat)

/-- Whether a text is a value for an option. -/
def Setting.accepts (text : String) : Setting → Bool
  | timeout | perPage | workers => (readPositive text).isOk
  | depth => (readNonNegative text).isOk
  | logLevel => ["DEBUG", "INFO", "WARNING", "ERROR"].contains (Text.upper text)
  | _ => true

namespace Word

/-- The value that a word gives to an option. -/
@[simp] def value? (option : Setting) : Word → Option String
  | setting other _ value _ _ => if other = option then some value else none
  | _ => none

/-- Whether a word switches an option on. -/
@[simp] def switches (option : Switch) : Word → Bool
  | switch other _ _ => other = option
  | _ => false

/-- Where a word turns an option. -/
@[simp] def turn? (option : Toggle) : Word → Option Bool
  | toggle other value => if other = option then some value else none
  | _ => none

/-- Whether the value of a word can be read. -/
def isAccepted : Word → Bool
  | setting option _ value _ _ => option.accepts value
  | _ => true

end Word

/-- Values given to an option, in order. -/
def valuesOf (option : Setting) (words : List Word) : List String :=
  words.filterMap (Word.value? option)

/-- What the last value given to an option reads as, or what holds otherwise. -/
def settled {α : Type} (option : Setting) (read : String → α) (otherwise : α)
    (words : List Word) : α :=
  ((valuesOf option words).getLast?.map read).getD otherwise

/-- Where an option is turned last, or where it is otherwise. -/
def turned (option : Toggle) (otherwise : Bool) (words : List Word) : Bool :=
  (words.filterMap (Word.turn? option)).getLast?.getD otherwise

/-- What holds where no word says otherwise. -/
def usual (environment : Environment) : Configuration :=
  { address := "https://gitlab.example.com"
    token := (environment.lookup "GITLAB_TOKEN").getD ""
    proxy := none
    timeout := none
    insecure := false
    perPage := .value 100
    groups := []
    directory := "repos"
    ignoreList := none
    indexPath := ""
    specificationPath := ""
    codesearch := ""
    fetchReindex := none
    name := "livegrep index"
    revision := "HEAD"
    urlPattern := "https://gitlab.com/\x7bname\x7d/-/blob/\x7bversion\x7d/\x7bpath\x7d#L\x7blno\x7d"
    workers := .value 8
    revparse := true
    forks := true
    archived := false
    http := false
    httpUser := "git"
    depth := .value 0
    skipMissing := false
    noIndex := false
    logLevel := "INFO"
    logFile := none }

/-- A configuration with all that words say: the last word about each part of it. -/
def overlay (configuration : Configuration) (words : List Word) : Configuration :=
  { address := settled .address .value configuration.address words
    token := settled .token .value configuration.token words
    proxy := settled .proxy (fun text => some (.value text)) configuration.proxy words
    timeout := settled .timeout (fun text => some (.value (positiveNumber text)))
      configuration.timeout words
    insecure := configuration.insecure || words.any (Word.switches .insecure)
    perPage := settled .perPage (fun text => .value (positiveNumber text)) configuration.perPage
      words
    groups := configuration.groups ++ (valuesOf .group words).map .value
    directory := settled .directory .value configuration.directory words
    ignoreList := settled .ignoreList (fun text => some (.value text)) configuration.ignoreList
      words
    indexPath := settled .indexPath id configuration.indexPath words
    specificationPath := settled .specificationPath id configuration.specificationPath words
    codesearch := settled .codesearch .value configuration.codesearch words
    fetchReindex := settled .fetchReindex (fun text => some (.value text))
      configuration.fetchReindex words
    name := settled .name .value configuration.name words
    revision := settled .revision .value configuration.revision words
    urlPattern := settled .urlPattern .value configuration.urlPattern words
    workers := settled .workers (fun text => .value (positiveNumber text)) configuration.workers
      words
    revparse := turned .revparse configuration.revparse words
    forks := turned .forks configuration.forks words
    archived := turned .archived configuration.archived words
    http := configuration.http || words.any (Word.switches .http)
    httpUser := settled .httpUser .value configuration.httpUser words
    depth := settled .depth (fun text => .value (plainNumber text)) configuration.depth words
    skipMissing := configuration.skipMissing || words.any (Word.switches .skipMissing)
    noIndex := configuration.noIndex || words.any (Word.switches .noIndex)
    logLevel := settled .logLevel (fun text => .value (Text.upper text)) configuration.logLevel
      words
    logFile := settled .logFile (fun text => some (.value text)) configuration.logFile words }

/-- A path, or a file in a directory in place of an empty one. -/
def pathIn (directory name path : String) : String :=
  if path = "" then joinPath directory name else path

/-- The configuration that words settle in an environment. -/
def configurationOf (environment : Environment) (words : List Word) : Configuration :=
  let directory := settled .directory id "repos" words
  { overlay (usual environment) words with
    indexPath := pathIn directory "livegrep.idx" (settled .indexPath id "" words)
    specificationPath := pathIn directory "livegrep.json" (settled .specificationPath id "" words) }

/-! ## One word after another -/

section

variable {α β : Type}

/-- The last thing found is found in the first word only if it is found in no later one. -/
theorem getD_getLast?_cons (find : α → Option β) (otherwise : β) (first : α) (rest : List α) :
    ((first :: rest).filterMap find).getLast?.getD otherwise =
      (rest.filterMap find).getLast?.getD ((find first).getD otherwise) := by
  cases found : find first with
  | none => rw [List.filterMap_cons_none found, Option.getD_none]
  | some value =>
      rw [List.filterMap_cons_some found, List.getLast?_cons, Option.getD_some, Option.getD_some]

@[simp] theorem settled_nil (option : Setting) (read : String → α) (otherwise : α) :
    settled option read otherwise [] = otherwise := rfl

/-- A value settles an option as long as no later word does. -/
@[simp] theorem settled_cons (option : Setting) (read : String → α) (otherwise : α) (word : Word)
    (words : List Word) :
    settled option read otherwise (word :: words) =
      settled option read (((word.value? option).map read).getD otherwise) words := by
  simp only [settled, valuesOf, ← List.getLast?_map, List.map_filterMap]
  exact getD_getLast?_cons _ _ _ _

theorem settled_map (change : α → β) (option : Setting) (read : String → α) (otherwise : α)
    (words : List Word) :
    change (settled option read otherwise words) =
      settled option (fun text => change (read text)) (change otherwise) words := by
  unfold settled
  cases (valuesOf option words).getLast? <;> rfl

end

@[simp] theorem valuesOf_cons (option : Setting) (word : Word) (words : List Word) :
    valuesOf option (word :: words) = (word.value? option).toList ++ valuesOf option words := by
  cases given : word.value? option with
  | none => exact List.filterMap_cons_none given
  | some value => exact List.filterMap_cons_some given

@[simp] theorem turned_nil (option : Toggle) (otherwise : Bool) :
    turned option otherwise [] = otherwise :=
  rfl

@[simp] theorem turned_cons (option : Toggle) (otherwise : Bool) (word : Word) (words : List Word) :
    turned option otherwise (word :: words) =
      turned option ((word.turn? option).getD otherwise) words :=
  getD_getLast?_cons _ _ _ _

/-- What one word does to a configuration, or what is wrong with it. -/
def Word.apply (configuration : Configuration) : Word → Except String Configuration
  | setting option _ value _ _ => option.apply configuration value
  | switch option _ _ => .ok (option.apply configuration)
  | toggle option value => .ok (option.apply configuration value)

theorem overlay_nil (configuration : Configuration) : overlay configuration [] = configuration := by
  simp [overlay, valuesOf]

/-! ## Reading values -/

/-- Reading a number only changes the words for what is wrong with it. -/
theorem readNumber_eq_ok {reader : String → Except Failure Nat} {kind text : String}
    {number : Nat} :
    readNumber reader kind text = .ok number ↔ reader text = .ok number := by
  unfold readNumber
  cases reader text with
  | ok value => simp
  | error failure => cases failure <;> simp

theorem isOk_readNumber (reader : String → Except Failure Nat) (kind text : String) :
    (readNumber reader kind text).isOk = (reader text).isOk := by
  unfold readNumber
  cases reader text with
  | ok value => rfl
  | error failure => cases failure <;> rfl

theorem positiveNumber_of_read {text : String} {number : Nat}
    (read : readPositiveNumber text = .ok number) : positiveNumber text = number := by
  rw [positiveNumber, readNumber_eq_ok.mp read]
  rfl

theorem plainNumber_of_read {text : String} {number : Nat}
    (read : readNonNegativeNumber text = .ok number) : plainNumber text = number := by
  rw [plainNumber, readNumber_eq_ok.mp read]
  rfl

/-- A value that a reader gave, changed twice. -/
theorem exists_of_map {ε α β γ : Type} {outcome : Except ε α} {first : α → β} {second : β → γ}
    {result : γ} (mapped : (do return first (← outcome)).map second = .ok result) :
    ∃ value, outcome = .ok value ∧ result = second (first value) := by
  cases outcome with
  | error failure => cases mapped
  | ok value => exact ⟨value, rfl, (Except.ok.inj mapped).symm⟩

theorem readLevel_eq (text : String) :
    readLevel text =
      if levelNames.contains (Text.upper text) then .ok (Text.upper text)
      else .error ("invalid choice: " ++ Text.quoted (Text.upper text) ++ " (choose from "
        ++ String.intercalate ", " (levelNames.map Text.quoted) ++ ")") := rfl

theorem level_of_read {text level : String} (read : readLevel text = .ok level) :
    Text.upper text = level := by
  rw [readLevel_eq] at read
  split at read <;> cases read
  rfl

theorem isOk_readLevel (text : String) :
    (readLevel text).isOk = levelNames.contains (Text.upper text) := by
  rw [readLevel_eq]
  cases levelNames.contains (Text.upper text) <;> rfl

theorem overlay_setting {configuration next : Configuration} {option : Setting}
    {spelling value : String} {spelled : spelling ∈ option.longSpellings} {proper : value ≠ "--"}
    (applied : option.apply configuration value = .ok next) (words : List Word) :
    overlay configuration (.setting option spelling value spelled proper :: words) =
      overlay next words := by
  cases option with
  | timeout =>
      obtain ⟨number, read, rfl⟩ := exists_of_map applied
      simp [overlay, positiveNumber_of_read read]
  | perPage =>
      obtain ⟨number, read, rfl⟩ := exists_of_map applied
      simp [overlay, positiveNumber_of_read read]
  | workers =>
      obtain ⟨number, read, rfl⟩ := exists_of_map applied
      simp [overlay, positiveNumber_of_read read]
  | depth =>
      obtain ⟨number, read, rfl⟩ := exists_of_map applied
      simp [overlay, plainNumber_of_read read]
  | logLevel =>
      obtain ⟨level, read, rfl⟩ := exists_of_map applied
      simp [overlay, level_of_read read]
  | _ =>
      cases applied
      simp [overlay]

/-- What a word settles holds from there on. -/
theorem overlay_cons {configuration next : Configuration} {word : Word}
    (applied : word.apply configuration = .ok next) (words : List Word) :
    overlay configuration (word :: words) = overlay next words := by
  cases word with
  | setting option spelling value spelled proper => exact overlay_setting applied words
  | switch option spelling spelled =>
      cases option <;> cases applied <;>
        simp [overlay, Switch.apply]
  | toggle option value =>
      cases option <;> cases applied <;>
        simp [overlay, Toggle.apply]

theorem isOk_map {ε α β γ : Type} (outcome : Except ε α) (first : α → β) (second : β → γ) :
    ((do return first (← outcome)).map second).isOk = outcome.isOk := by
  cases outcome <;> rfl

/-- A value settles its option exactly if it can be read. -/
theorem Setting.isOk_apply (configuration : Configuration) (value : String) (option : Setting) :
    (option.apply configuration value).isOk = option.accepts value := by
  cases option with
  | timeout => exact (isOk_map _ _ _).trans (isOk_readNumber readPositive _ value)
  | perPage => exact (isOk_map _ _ _).trans (isOk_readNumber readPositive _ value)
  | workers => exact (isOk_map _ _ _).trans (isOk_readNumber readPositive _ value)
  | depth => exact (isOk_map _ _ _).trans (isOk_readNumber readNonNegative _ value)
  | logLevel => exact (isOk_map _ _ _).trans (isOk_readLevel value)
  | _ => rfl

namespace Word

theorem isOk_apply (configuration : Configuration) (word : Word) :
    (word.apply configuration).isOk = word.isAccepted := by
  cases word with
  | setting option _ value => exact option.isOk_apply configuration value
  | switch => rfl
  | toggle => rfl

theorem exists_applied {word : Word} (accepted : word.isAccepted = true)
    (configuration : Configuration) : ∃ next, word.apply configuration = .ok next := by
  have ok := (word.isOk_apply configuration).trans accepted
  cases applied : word.apply configuration with
  | ok next => exact ⟨next, rfl⟩
  | error complaint =>
      rw [applied] at ok
      cases ok

theorem exists_complaint {word : Word} (refused : word.isAccepted = false)
    (configuration : Configuration) : ∃ complaint, word.apply configuration = .error complaint := by
  have failed := (word.isOk_apply configuration).trans refused
  cases applied : word.apply configuration with
  | ok next =>
      rw [applied] at failed
      cases failed
  | error complaint => exact ⟨complaint, rfl⟩

end Word

/-! ## Reading words -/

/-- One turn of reading: a word that can be applied is, and the rest is read from there. -/
theorem interpret_of_applied {configuration next : Configuration} {word : Word}
    (applied : word.apply configuration = .ok next) (tokens : List Token) :
    interpret configuration [] (word.token :: tokens) = interpret next [] tokens := by
  cases word with
  | setting option spelling value spelled proper =>
      have settles : option.apply configuration value = .ok next := applied
      simp only [Word.token, interpret, proper, if_false, settle, settles]
  | switch option spelling spelled =>
      cases applied
      rfl
  | toggle option value =>
      cases applied
      cases option <;> cases value <;> rfl

theorem interpret_of_refused {configuration : Configuration} {word : Word} {complaint : String}
    (refused : word.apply configuration = .error complaint) (tokens : List Token) :
    ∃ message, interpret configuration [] (word.token :: tokens) = .misused message := by
  cases word with
  | setting option spelling value spelled proper =>
      have fails : option.apply configuration value = .error complaint := refused
      refine ⟨(Choice.setting option).complaint complaint, ?_⟩
      simp only [Word.token, interpret, proper, if_false, settle, fails]
  | switch option spelling spelled => cases refused
  | toggle option value => cases refused

/-- Words that can all be read are folded into the configuration. -/
theorem interpret_words {words : List Word} (accepted : words.all Word.isAccepted = true)
    (configuration : Configuration) :
    interpret configuration [] (words.map Word.token) =
      configured (overlay configuration words) := by
  induction words generalizing configuration with
  | nil => rw [overlay_nil, List.map_nil, interpret]
  | cons word words induction =>
      obtain ⟨here, later⟩ := Bool.and_eq_true_iff.mp (List.all_cons.symm.trans accepted)
      obtain ⟨next, applied⟩ := Word.exists_applied here configuration
      rw [List.map_cons, interpret_of_applied applied, induction later, overlay_cons applied]

/-- A word that cannot be read is found however many can be read before it. -/
theorem interpret_refused {words : List Word} (refused : words.all Word.isAccepted = false)
    (configuration : Configuration) :
    ∃ message, interpret configuration [] (words.map Word.token) = .misused message := by
  induction words generalizing configuration with
  | nil => cases refused
  | cons word words induction =>
      cases here : word.isAccepted with
      | false =>
          obtain ⟨complaint, fails⟩ := Word.exists_complaint here configuration
          exact interpret_of_refused fails _
      | true =>
          obtain ⟨next, applied⟩ := Word.exists_applied here configuration
          rw [List.map_cons, interpret_of_applied applied]
          exact induction (by simpa [here] using refused) next

theorem pathOr_value (path directory name : String) :
    Configuration.pathOr path (.value directory) name = .ok (pathIn directory name path) := by
  unfold Configuration.pathOr pathIn
  by_cases empty : path = "" <;> simp [empty]

/-- What words settle is complete: the paths of the two files follow from it. -/
theorem configured_overlay (environment : Environment) (words : List Word) :
    configured (overlay (usual environment) words) =
      .configured (configurationOf environment words) := by
  have directory : (overlay (usual environment) words).directory =
      .value (settled .directory id "repos" words) :=
    (settled_map Given.value .directory id "repos" words).symm
  have path (path name : String) :
      Configuration.pathOr path (overlay (usual environment) words).directory name =
        .ok (pathIn (settled .directory id "repos" words) name path) := by
    rw [directory, pathOr_value]
  rw [configured, Configuration.settle, path, path]
  rfl

/-- Words are read as a fold. If all their values can be read, every part of the configuration is
what the last word about it says, or what is usual; if one of them cannot, the program ends with
status two, whatever comes after it. -/
theorem parse_words (environment : Environment) (words : List Word) :
    (words.all Word.isAccepted = true →
      parse environment (words.map Word.text) = .configured (configurationOf environment words)) ∧
    (words.all Word.isAccepted = false →
      ∃ complaint, parse environment (words.map Word.text) = .misused complaint ∧
        ∀ invocation world, world.environment = environment →
          ((Program.execute invocation (words.map Word.text)).run world).1 =
            .ok (.exited 2 complaint)) := by
  have parsed : parse environment (words.map Word.text) =
      interpret (usual environment) [] (words.map Word.token) := by
    rw [parse, classify_words]
    rfl
  constructor
  · intro accepted
    rw [parsed, interpret_words accepted, configured_overlay]
  · intro refused
    obtain ⟨complaint, misused⟩ := interpret_refused refused (usual environment)
    refine ⟨complaint, parsed.trans misused, ?_⟩
    rintro invocation world rfl
    simp only [Program.execute, Effect.run_bind, Effect.run_modify, Effect.run_get, parsed, misused]
    rfl

/-- Words about one option under both of its names, with values that look like options, and words of
which one cannot be read. -/
theorem parse_words_repeated :
    let words : List Word :=
      [.setting .address "--url" "--http" (by decide +kernel) (by decide),
        .toggle .forks false, .setting .group "--group" "" (by decide +kernel) (by decide),
        .switch .http "--http" (by decide +kernel), .toggle .forks true,
        .setting .depth "--depth" " 7 " (by decide +kernel) (by decide),
        .setting .address "--api-base-url" "a=b c" (by decide +kernel) (by decide),
        .setting .group "--group" "-g" (by decide +kernel) (by decide)]
    let refused : List Word :=
      [.setting .timeout "--timeout" "0" (by decide +kernel) (by decide),
        .setting .timeout "--timeout" "1" (by decide +kernel) (by decide)]
    words.all Word.isAccepted = true ∧ refused.all Word.isAccepted = false ∧
      parse [] (words.map Word.text) = .configured (configurationOf [] words) ∧
      (configurationOf [] words).address = .value "a=b c" ∧
      (configurationOf [] words).groups = [.value "", .value "-g"] ∧
      ∃ complaint, parse [] (refused.map Word.text) = .misused complaint ∧
        ∀ invocation world, world.environment = [] →
          ((Program.execute invocation (refused.map Word.text)).run world).1 =
            .ok (.exited 2 complaint) := by
  intro words refused
  have all : words.all Word.isAccepted = true := by decide +kernel
  have notAll : refused.all Word.isAccepted = false := by decide +kernel
  exact ⟨all, notAll, (parse_words [] words).1 all, by decide +kernel, by decide +kernel,
    (parse_words [] refused).2 notAll⟩

end RepoCatalog.CommandLine
