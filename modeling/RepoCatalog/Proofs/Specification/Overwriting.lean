import RepoCatalog.Proofs.Pipeline.Stages
import RepoCatalog.Rehearsal

/-!
# Stored specifications

Storing a specification overwrites the file that its path leads to and nothing else, whatever was
there; a specification that is not stored leaves every file as it was.
-/

namespace RepoCatalog.Specification

open Effect

variable {specification : Specification} {path : String} {world after : World}

/-! ## The parts of storing -/

theorem encoding_prepareDirectory {directory : FilePath} {outcome : Except Failure Unit}
    (ran : (prepareDirectory directory).run world = (outcome, after)) :
    after.encoding = world.encoding := by
  rw [run_prepareDirectory] at ran
  split at ran
  · cases ran
    rfl
  · cases ran
    rfl

/-- A directory that was prepared is there, and on the way to it may be new ones. -/
theorem prepared_of_run {directory : FilePath}
    (ran : (prepareDirectory directory).run world = (.ok (), after)) :
    hasNull directory.text = false ∧ world.files.Paves after.files directory ∧
      after.files.inspect directory.text = .ok .directory := by
  rw [run_prepareDirectory] at ran
  split at ran
  · cases ran
  · rename_i named
    cases problem : (world.files.ensureDirectory directory).2 with
    | some error =>
        rw [problem] at ran
        cases ran
    | none =>
        rw [problem] at ran
        cases ran
        exact ⟨Bool.not_eq_true _ ▸ named, FileTree.paves_ensureDirectory world.files directory,
          FileTree.inspect_ensureDirectory problem⟩

/-- Preparing a directory makes nothing but directories on the way to it, even if it fails. -/
theorem paves_prepareDirectory (directory : FilePath) (world : World) :
    world.files.Paves ((prepareDirectory directory).run world).2.files directory := by
  rw [run_prepareDirectory]
  split
  · exact .refl world.files directory
  · exact FileTree.paves_ensureDirectory world.files directory

/-- Preparing a directory that is there leaves the files as they are. -/
theorem run_prepareDirectory_of_inspect {directory : FilePath}
    (named : hasNull directory.text = false)
    (there : world.files.inspect directory.text = .ok .directory) :
    ∃ later, (prepareDirectory directory).run world = (.ok (), later) ∧
      later.files = world.files := by
  have kept := FileTree.ensureDirectory_of_inspect there
  refine ⟨afterPreparing directory world, ?_, ?_⟩
  · simp only [run_prepareDirectory, named, Bool.false_eq_true, if_false, kept]
  · rw [afterPreparing, kept]
    rfl

/-- A text that can be written is written. -/
theorem run_writeText_of_writeContent {file : FilePath} {text : String} {written : FileTree}
    (named : hasNull file.text = false) (sound : world.encoding.stray? text.toList = none)
    (wrote : world.files.writeContent file.text (Text.encodeUtf8 text.toList) = .ok written) :
    ∃ later, (writeText file text).run world = (.ok (), later) ∧ later.files = written := by
  unfold FileTree.writeContent at wrote
  split at wrote
  · cases wrote
  · rename_i opened place opens
    split at wrote
    · rename_i filled fills
      cases wrote
      refine ⟨afterFilling file place text (Text.encodeUtf8 text.toList)
        (afterClearing file opened world), ?_, ?_⟩
      · have encoded : (afterClearing file opened world).encoding.encode text =
            .ok (Text.encodeUtf8 text.toList) := Encoding.encode_eq_ok_iff.mpr ⟨sound, rfl⟩
        have complete : ((afterClearing file opened world).files.fill place
            (Text.encodeUtf8 text.toList)).2 = none := congrArg Prod.snd fills
        simp only [writeText, run_bind, run_clearFile, named, Bool.false_eq_true, if_false, opens,
          run_fillFile, encoded, complete]
      · rw [files_afterFilling]
        exact congrArg Prod.fst fills
    · cases wrote

/-- A file that could not be opened, or a special one, leaves the files as they are when it is not
written; so does every file on a medium that does not break off, unless the text has no encoding. -/
theorem files_of_unwritten {file : FilePath} {text : String} {failure : Failure}
    (whole : ∀ place content, world.files.medium.breaksOff place content = none)
    (encoded : ∀ stray, failure ≠ .notEncodable stray)
    (ran : (writeText file text).run world = (.error failure, after)) :
    after.files = world.files := by
  rw [writeText, run_bind] at ran
  rcases clears : (clearFile file).run world with ⟨problem | place, cleared⟩
  · rw [clears] at ran
    cases ran
    rw [eq_of_uncleared clears]
  · obtain ⟨-, opened, opens, rfl⟩ := cleared_of_run clears
    rw [clears] at ran
    dsimp only at ran
    rw [run_fillFile] at ran
    split at ran
    · rename_i problem unencodable
      cases ran
      obtain ⟨c, -, -, position, count, rfl⟩ := Encoding.exists_lone_of_encode unencodable
      exact absurd rfl (encoded _)
    · rename_i content _
      have files : after.files = (opened.fill place content).1 :=
        (congrArg (·.2.files) ran.symm).trans (files_afterFilling file place text content _)
      cases FileTree.empties_of_openFile opens with
      | special isSpecial resolved =>
          exact files.trans
            (FileTree.fill_of_isSpecial isSpecial (FileTree.get?_of_isSpecial isSpecial resolved) _)
      | @file executable writes =>
          have complete : ((world.files.put place (.file [] executable)).fill place content).2 =
              none := by
            rw [writes.fill_eq, whole]
          simp only [afterClearing, World.note, complete] at ran
          cases ran

/-! ## Storing -/

/-- What was stored is a file written behind directories, unless its path leads to a special
file. -/
theorem exists_writesTo_of_store {stored : FilePath}
    (ran : (specification.store path).run world = (.ok stored, after))
    (plain : ¬ world.files.LeadsToSpecial after.files (FilePath.ofString path).text) :
    stored = FilePath.ofString path ∧ ∃ text middle place executable,
      specification.render = .ok text ∧
      (hasNull stored.parent.text = false ∧ hasNull stored.text = false) ∧
      world.files.Paves middle stored.parent ∧
      middle.inspect stored.parent.text = .ok .directory ∧
      middle.WritesTo stored.text place executable ∧
      world.encoding.stray? text.toList = none ∧
      middle.medium.breaksOff place (Text.encodeUtf8 text.toList) = none ∧
      after.files = middle.put place (.file (Text.encodeUtf8 text.toList) executable) := by
  obtain ⟨rfl, text, prepared, renders, prepares, writes⟩ := returned_store_parts ran
  obtain ⟨namedParent, paves, there⟩ := prepared_of_run prepares
  obtain ⟨named, sound, wrote⟩ := written_of_run writes
  obtain ⟨place, executable, writesTo, whole, files⟩ :=
    FileTree.exists_writesTo_of_paves paves wrote plain
  exact ⟨rfl, text, prepared.files, place, executable, renders, ⟨namedParent, named⟩, paves, there,
    writesTo, encoding_prepareDirectory prepares ▸ sound, whole, files⟩

/-- Storing fails with no file written, where writing does not break off. -/
theorem paves_of_unstored {failure : Failure}
    (whole : ∀ place content, world.files.medium.breaksOff place content = none)
    (encoded : ∀ stray, failure ≠ .notEncodable stray)
    (ran : (specification.store path).run world = (.error failure, after)) :
    world.files.Paves after.files (FilePath.ofString path).parent := by
  have paves := paves_prepareDirectory (FilePath.ofString path).parent world
  simp only [store, run_bind, run_ofExcept, run_pure] at ran
  rcases prepares : (prepareDirectory (FilePath.ofString path).parent).run world with
    ⟨problem | _, prepared⟩
  · rw [prepares] at ran paves
    cases ran
    exact paves
  · rw [prepares] at ran paves
    dsimp only at ran
    cases renders : specification.render with
    | error problem =>
        rw [renders] at ran
        cases ran
        exact paves
    | ok text =>
        rw [renders] at ran
        dsimp only at ran
        rcases writes : (writeText (FilePath.ofString path) text).run prepared with
          ⟨problem | _, written⟩
        · rw [writes] at ran
          cases ran
          rw [files_of_unwritten (paves.more.medium ▸ whole) encoded writes]
          exact paves
        · rw [writes] at ran
          cases ran

/-- Storing a specification overwrites exactly its file. If a path is given back, it reads as the
text of the specification whatever was there before, everything elsewhere is as it was, the only
other new entries are directories on the way to the file, and storing again changes nothing.
Otherwise, if the writing of a file that was opened does not fail, nothing is new but directories on
the way. Devices and programs of the machine, which are no files of bytes, are left out. -/
theorem store_overwrites (specification : Specification) (path : String) (world : World)
    (plain : ¬ world.files.LeadsToSpecial ((specification.store path).run world).2.files
      (FilePath.ofString path).text) :
    (∀ stored after, (specification.store path).run world = (.ok stored, after) →
      ∃ text place executable, specification.render = .ok text ∧
        stored = FilePath.ofString path ∧
        world.files.Overwrites after.files stored (Text.encodeUtf8 text.toList) place executable ∧
        ∀ again : World, again.files = after.files → again.encoding = world.encoding → ∃ later,
          (specification.store path).run again = (.ok stored, later) ∧
            later.files = again.files) ∧
    ((∀ place content, world.files.medium.breaksOff place content = none) →
      ∀ failure after, (specification.store path).run world = (.error failure, after) →
        (∀ stray, failure ≠ .notEncodable stray) →
        world.files.Paves after.files (FilePath.ofString path).parent) := by
  refine ⟨fun stored after ran => ?_,
    fun whole failure after ran encoded => paves_of_unstored whole encoded ran⟩
  rw [ran] at plain
  obtain ⟨rfl, text, middle, place, executable, renders, named, paves, there, writesTo, sound, whole,
    files⟩ := exists_writesTo_of_store ran plain
  refine ⟨text, place, executable, renders, rfl, files ▸ writesTo.overwrites paves _,
    fun again same encoding => ?_⟩
  -- the directory is still there and the file already holds the text
  have thereAgain : again.files.inspect (FilePath.ofString path).parent.text = .ok .directory := by
    rw [same, files]
    exact writesTo.inspect_directory _ there
  obtain ⟨prepared, prepares, kept⟩ := run_prepareDirectory_of_inspect named.1 thereAgain
  have wrote : prepared.files.writeContent (FilePath.ofString path).text
      (Text.encodeUtf8 text.toList) = .ok again.files := by
    rw [kept, same, files]
    exact writesTo.again whole
  have soundAgain : prepared.encoding.stray? text.toList = none := by
    rwa [encoding_prepareDirectory prepares, encoding]
  obtain ⟨later, writes, files⟩ := run_writeText_of_writeContent named.2 soundAgain wrote
  refine ⟨later, ?_, files⟩
  simp only [store, run_bind, prepares, renders, run_ofExcept, writes, run_pure]

/-- A specification stored over a longer file behind a link, by a path through a directory that is
missing, and one that is not stored as there is a file in the way. -/
theorem store_overwrites_linked :
    let files : FileTree := {
      entries := [(["work"], .directory), (["work", "link"], .link "real/old.json"),
        (["work", "real"], .directory),
        (["work", "real", "old.json"], .file (List.replicate 100 42) true)]
      working := ["work"] }
    let world := { Rehearsal.world [] [] [] with files := files }
    let specification : Specification := ⟨"catalog", []⟩
    let path := "missing/.././link"
    let blocked := "missing/../link/spec.json"
    (¬ files.LeadsToSpecial ((specification.store path).run world).2.files
        (FilePath.ofString path).text ∧
      ∃ text after place executable,
        (specification.store path).run world = (.ok (FilePath.ofString path), after) ∧
        specification.render = .ok text ∧
        files.Overwrites after.files (FilePath.ofString path) (Text.encodeUtf8 text.toList) place
          executable) ∧
    ¬ files.LeadsToSpecial ((specification.store blocked).run world).2.files
        (FilePath.ofString blocked).text ∧
      (∀ place content, files.medium.breaksOff place content = none) ∧
      ∃ failure after, (specification.store blocked).run world = (.error failure, after) ∧
        (∀ stray, failure ≠ .notEncodable stray) ∧
        files.Paves after.files (FilePath.ofString blocked).parent := by
  intro files world specification path blocked
  have plain : ∀ after path, ¬ files.LeadsToSpecial after path :=
    fun _ _ => FileTree.not_leadsToSpecial (by decide)
  have stores := store_overwrites specification path world (plain _ _)
  have fails := store_overwrites specification blocked world (plain _ _)
  have returns : ((specification.store path).run world).1.toOption.isSome = true := by
    decide +kernel
  have stops : ((specification.store blocked).run world).1 = .error
      (.directoryNotCreated (FilePath.ofString blocked).parent
        (FileFault.entryExists.about (FilePath.ofString blocked).parent.text)) := by
    decide +kernel
  refine ⟨⟨plain _ _, ?_⟩, plain _ _, fun _ _ => rfl, ?_⟩
  · rcases ran : (specification.store path).run world with ⟨failure | stored, after⟩
    · rw [ran] at returns
      cases returns
    · obtain ⟨text, place, executable, renders, rfl, overwrites, -⟩ := stores.1 stored after ran
      exact ⟨text, after, place, executable, rfl, renders, overwrites⟩
  · rcases ran : (specification.store blocked).run world with ⟨outcome, after⟩
    obtain rfl : outcome = _ := (congrArg Prod.fst ran).symm.trans stops
    exact ⟨_, after, rfl, nofun, fails.2 (fun _ _ => rfl) _ after ran nofun⟩

end RepoCatalog.Specification
