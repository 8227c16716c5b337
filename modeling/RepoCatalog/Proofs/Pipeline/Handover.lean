import RepoCatalog.Proofs.File.Spelling
import RepoCatalog.Proofs.Kindred
import RepoCatalog.Proofs.Pipeline.Atomicity
import RepoCatalog.Proofs.Specification.Overwriting

/-!
# What the delegate is handed

The delegate is told the path of the specification as it was given, while the specification is
written where the normal form of that path leads. Both are the same file, unless the path is spelled
like that of a directory or is too long.
-/

namespace RepoCatalog

open Effect

/-! ## The arguments of the delegate -/

/-- The path of the specification comes last, as it was given. -/
theorem DelegateOptions.getLast?_arguments {options : DelegateOptions}
    {arguments : List (Given String)} (made : options.arguments = .ok arguments) :
    arguments.getLast? = some (.value options.specificationPath) := by
  unfold DelegateOptions.arguments at made
  split at made
  · cases made
  · cases made
    exact List.getLast?_concat

/-- Running the delegate launches it once, when nothing but a record came before. -/
theorem Delegate.exists_run (program : String) (arguments : List (Given String)) (token : String)
    (world : World) : ∃ ready request, world.Kindred ready ∧
      request.arguments = .value program :: arguments ∧ request.quiet = false ∧
      ((Delegate.run program arguments token).run world).2 = World.afterLaunch request ready := by
  let message := "Running: " ++ program ++ " " ++ Launch.shownArguments arguments
  refine ⟨world.record .info message, ⟨.value program :: arguments,
    environmentFor token (world.record .info message).environment, false⟩,
    World.kindred_record .info message world, rfl, rfl, ?_⟩
  rw [Delegate.run, run_bind, run_log]
  dsimp only
  rw [run_bind, run_get]
  dsimp only
  rw [world_bind fun status world => ?_, run_reword, run_launch]
  split <;> rfl

namespace Pipeline

variable {configuration : Configuration} {world specified written ready : World}

/-- Delegating leaves the world as it is, or launches the delegate with the path as it was given. -/
theorem delegates_or_stays (configuration : Configuration) (invocation : String) (world : World) :
    ((delegate configuration invocation).run world).2 = world ∨
      ∃ ready request, world.Kindred ready ∧
        request.arguments.getLast? = some (.value configuration.specificationPath) ∧
        request.quiet = false ∧
        ((delegate configuration invocation).run world).2 = World.afterLaunch request ready := by
  rw [delegate, run_bind, run_get]
  dsimp only
  rw [run_bind, run_ofExcept]
  cases configuration.delegateProgram world.files invocation with
  | error failure => exact .inl rfl
  | ok program =>
      dsimp only
      rw [run_bind, run_ofExcept]
      cases made : configuration.delegateOptions.arguments with
      | error failure => exact .inl rfl
      | ok arguments =>
          obtain ⟨ready, request, kindred, whole, loud, launched⟩ :=
            Delegate.exists_run program arguments (configuration.token.getD "") world
          refine .inr ⟨ready, request, kindred, ?_, loud, launched⟩
          have last := DelegateOptions.getLast?_arguments made
          rw [whole, List.getLast?_cons, last]
          rfl

/-! ## The run -/

/-- A specification is handed over: the delegate is launched once it was written, with the path as
it was given, and can read it there if that path may be the path of a file. -/
structure HandsOver (configuration : Configuration) (world : World) (text : String)
    (specified written ready : World) (request : Launch) : Prop where
  /-- The text of the specification of the run was written. -/
  stores : ∃ specification, (specify configuration).run world = (.ok specification, specified) ∧
    specification.render = .ok text ∧
    (specification.store configuration.specificationPath).run specified =
      (.ok (FilePath.ofString configuration.specificationPath), written)
  /-- Nothing but records came between that and the launch. -/
  kindred : written.Kindred ready
  /-- No delegate was launched before. -/
  first : ready.delegations = world.delegations
  /-- It is the delegate that is launched. -/
  loud : request.quiet = false
  /-- Its last argument is the path as it was given. -/
  path : request.arguments.getLast? = some (.value configuration.specificationPath)
  /-- What it reads there is what was written; special files are left out, and a file that records
  are appended to. -/
  reads : FilePath.NamesFile configuration.specificationPath →
    ¬ specified.files.LeadsToSpecial written.files
      (FilePath.ofString configuration.specificationPath).text →
    (∀ place entry, written.files.resolve .follow
      (FilePath.ofString configuration.specificationPath).text = .ok (.present place entry) →
        ¬ written.IsLog place) →
    ready.files.contentOf configuration.specificationPath = .ok (Text.encodeUtf8 text.toList)
  /-- Otherwise it cannot read it. -/
  fails : ¬ FilePath.NamesFile configuration.specificationPath →
    ∃ fault, ready.files.contentOf configuration.specificationPath = .error fault

/-- What was stored is read by the path as it was given. -/
theorem contentOf_of_store {specification : Specification} {path text : String}
    (stores : (specification.store path).run specified = (.ok (FilePath.ofString path), written))
    (renders : specification.render = .ok text) (kindred : written.Kindred ready)
    (namesFile : FilePath.NamesFile path)
    (plain : ¬ specified.files.LeadsToSpecial written.files (FilePath.ofString path).text)
    (unlogged : ∀ place entry, written.files.resolve .follow (FilePath.ofString path).text =
      .ok (.present place entry) → ¬ written.IsLog place) :
    ready.files.contentOf path = .ok (Text.encodeUtf8 text.toList) := by
  obtain ⟨-, same, middle, place, executable, again, -, paves, -, writesTo, -, -, files⟩ :=
    Specification.exists_writesTo_of_store stores plain
  obtain rfl : text = same := Except.ok.inj (renders.symm.trans again)
  have leads : written.files.resolve .follow (FilePath.ofString path).text =
      .ok (.present place (.file (Text.encodeUtf8 text.toList) executable)) := by
    rw [files]
    exact writesTo.resolve _
  have there := FileTree.resolve_of_namesFile namesFile leads
  have kept : written.files.contentOf path = ready.files.contentOf path := by
    refine kindred.files.contentOf fun other entry resolved => ?_
    rw [there] at resolved
    cases resolved
    exact unlogged place _ leads
  rw [← kept, FileTree.contentOf, FileTree.inspect, there]

/-- What a run does with its specification launches no delegate, or hands the specification over. -/
theorem finishing_hands_over {specification : Specification} (invocation : String)
    (specifies : (specify configuration).run world = (.ok specification, specified))
    (before : specified.delegations = world.delegations) :
    let after := ((finishing configuration invocation specification).run specified).2
    after.delegations = world.delegations ∨ ∃ text written ready request,
      HandsOver configuration world text specified written ready request ∧
        after = World.afterLaunch request ready := by
  have stores := Specification.climbs_store specification configuration.specificationPath specified
  rw [finishing, run_bind]
  rcases stored : (specification.store configuration.specificationPath).run specified with
    ⟨failure | path, written⟩ <;> rw [stored] at stores
  · exact .inl ((stores.delegations (by decide)).trans before)
  have before := (stores.delegations (by decide)).trans before
  obtain ⟨rfl, text, -, renders, -, -⟩ := Specification.returned_store_parts stored
  dsimp only
  rw [handing, run_bind, run_log]
  dsimp only
  rw [world_bind fun _ _ => rfl]
  have recorded := World.kindred_record .info ("Wrote index specification with "
    ++ toString specification.repositories.length ++ " repositories: "
    ++ (FilePath.ofString configuration.specificationPath).text) written
  rcases delegates_or_stays configuration invocation (written.record .info _) with
    stays | ⟨ready, request, kindred, path, loud, launched⟩
  · rw [stays]
    exact .inl (recorded.delegations.symm.trans before)
  · have kindred := recorded.trans kindred
    exact .inr ⟨text, written, ready, request,
      { stores := ⟨specification, specifies, renders, stored⟩
        kindred := kindred
        first := kindred.delegations.symm.trans before
        loud := loud
        path := path
        reads := contentOf_of_store stored renders kindred
        fails := FileTree.contentOf_of_not_namesFile }, launched⟩

/-- A path in the directory of the clones always ends in a name. -/
theorem namesFile_joinPath_iff (directory : String) :
    FilePath.NamesFile (joinPath directory Configuration.specificationFileName) ↔
      FileTree.nameSize (joinPath directory Configuration.specificationFileName) ≤
        FileTree.pathLimit := by
  have name : baseName (joinPath directory Configuration.specificationFileName) =
      Configuration.specificationFileName :=
    baseName_joinPath (by decide) directory
  exact ⟨FilePath.NamesFile.short,
    fun short => ⟨by rw [name]; decide, by rw [name]; decide, short⟩⟩

/-- A run that reaches the delegate hands it the file that was written exactly if the path ends in a
name and is not too long. A path in the directory of the clones always ends in a name. -/
theorem run_hands_over (configuration : Configuration) (invocation : String) (world : World) :
    (((run configuration invocation).run world).2.delegations = world.delegations ∨
      ∃ text specified written ready request,
        HandsOver configuration world text specified written ready request ∧
        ((run configuration invocation).run world).2 = World.afterLaunch request ready) ∧
    ∀ directory, FilePath.NamesFile (joinPath directory Configuration.specificationFileName) ↔
      FileTree.nameSize (joinPath directory Configuration.specificationFileName) ≤
        FileTree.pathLimit := by
  refine ⟨?_, namesFile_joinPath_iff⟩
  have specifies :=
    climbs_specify configuration.connection.climbs_connect (List.Subset.refl _) world
  rw [run, run_bind]
  rcases specified : (specify configuration).run world with ⟨failure | specification, middle⟩ <;>
    rw [specified] at specifies
  · exact .inl (specifies.delegations (by decide))
  · rcases finishing_hands_over invocation specified (specifies.delegations (by decide)) with
      none | ⟨text, written, ready, request, handsOver, launched⟩
    · exact .inl none
    · exact .inr ⟨text, middle, written, ready, request, handsOver, launched⟩

/-- Two spellings of one path: through the one the delegate reads what was written, by the other it
would have to be a directory. -/
theorem run_hands_over_spelled :
    let configured (path : String) : Configuration := { Configuration.initial "" with
      specificationPath := path, fetchReindex := some "fetch" }
    let world := Rehearsal.world [("COLUMNS", "80")] [] [⟨[], none⟩]
    let hands (path : String) (read : Except FileFault (List UInt8) → String → Prop) : Prop :=
      ∃ text specified written ready request,
        HandsOver (configured path) world text specified written ready request ∧
        read (ready.files.contentOf path) text
    hands "work//./spec.json" (fun read text => read = .ok (Text.encodeUtf8 text.toList)) ∧
      hands "work/spec.json/" (fun read _ => ∃ fault, read = .error fault) := by
  intro configured world hands
  have handed (path : String)
      (delegated : ((run (configured path) "").run world).2.delegations.length = 1) :
      ∃ text specified written ready request,
        HandsOver (configured path) world text specified written ready request := by
    rcases (run_hands_over (configured path) "" world).1 with
      none | ⟨text, specified, written, ready, request, handsOver, -⟩
    · rw [none] at delegated
      cases delegated
    · exact ⟨text, specified, written, ready, request, handsOver⟩
  constructor
  · obtain ⟨text, specified, written, ready, request, handsOver⟩ :=
      handed "work//./spec.json" (by decide +kernel)
    refine ⟨text, specified, written, ready, request, handsOver, handsOver.reads
      ⟨by decide, by decide, by decide⟩ (FileTree.not_leadsToSpecial ?_) ?_⟩
    · obtain ⟨specification, ran, -, -⟩ := handsOver.stores
      have plain : ∀ held ∈ ((specify (configured "work//./spec.json")).run world).2.files.entries,
          ¬ held.2.IsSpecial := by
        decide +kernel
      rwa [ran] at plain
    · rintro place entry - ⟨name, level, journal, -⟩
      obtain ⟨specification, ran, -, stores⟩ := handsOver.stores
      have specifies := (climbs_specify (configured "work//./spec.json").connection.climbs_connect
        (List.Subset.refl _)).of_run ran
      obtain ⟨_, early, -, -⟩ := specifies
      obtain ⟨_, late, -, -⟩ := (Specification.climbs_store specification _).of_run stores
      rw [late.recorder, early.recorder] at journal
      cases journal
  · obtain ⟨text, specified, written, ready, request, handsOver⟩ :=
      handed "work/spec.json/" (by decide +kernel)
    exact ⟨text, specified, written, ready, request, handsOver,
      handsOver.fails fun namesFile => namesFile.named (by decide)⟩

end Pipeline

end RepoCatalog
