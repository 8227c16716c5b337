import RepoCatalog.Process.Machine
import RepoCatalog.Proofs.Locate.Candidates

/-!
# Launching what was found

What a search finds for a program that was called by a path is a path, and the file that was checked
is started. For a program that was called by its bare name a search finds bare names, which are
looked for elsewhere when they are launched.
-/

namespace RepoCatalog

namespace Machine

variable {files : FileTree} {path : String}

/-- A program with a slash in its name is started there or nowhere. -/
theorem startFirst_programPaths (slash : '/' ∈ path.toList) (environment : Environment)
    (called : Octets) (arguments : List Octets) :
    startFirst files called arguments none .noEntry (programPaths environment path) =
      start files interpreterLimit path called arguments := by
  have alone : programPaths environment path = [path] := if_pos (by simpa using slash)
  rw [alone, startFirst]
  cases start files interpreterLimit path called arguments with
  | ok running => rfl
  | error fault => cases missing : isMissing fault <;> simp [startFirst, missing]

/-- A path text that names no file is not started. -/
theorem start_of_not_namesFile (unnamed : ¬ FilePath.NamesFile path) (depth : Nat)
    (called : Octets) (arguments : List Octets) :
    ∃ fault, start files depth path called arguments = .error fault := by
  rw [start]
  cases resolved : files.resolve .follow path with
  | error fault => exact ⟨fault, rfl⟩
  | ok target =>
      obtain ⟨place, rfl⟩ := FileTree.directory_of_not_namesFile unnamed resolved
      exact ⟨.accessDenied, rfl⟩

end Machine

/-! ## What the strategies find -/

namespace Strategy

variable {strategy : Strategy} {name invocation candidate : String}

/-- For a program that was called by a path, both strategies propose a path to the name. -/
theorem exists_path_of_proposes (among : strategy ∈ defaults) (plain : '/' ∉ name.toList)
    (slash : '/' ∈ invocation.toList)
    (proposes : Search.Proposes strategy name invocation candidate) :
    ∃ front, candidate = String.ofList (front ++ '/' :: name.toList) := by
  obtain ⟨kept, slashes, last, cut⟩ := exists_isCut slash
  have relative : name.toList.head? ≠ some '/' := fun head => plain (List.mem_of_head? head)
  have proposed := proposes.1
  rcases List.mem_pair.mp among with rfl | rfl
  · rw [adjacent_of_isCut cut relative] at proposed
    exact ⟨_, (Option.some.inj proposed).symm⟩
  · by_cases named : last = []
    · subst named
      rw [not_substitute_of_isCut cut] at proposed
      cases proposed
    · rw [substitute_of_isCut cut named] at proposed
      exact ⟨_, (Option.some.inj proposed).symm⟩

/-- For a program that was called by its bare name, both strategies propose the bare name. -/
theorem eq_of_proposes_bare (among : strategy ∈ defaults) (bare : '/' ∉ invocation.toList)
    (proposes : Search.Proposes strategy name invocation candidate) : candidate = name := by
  have proposed := proposes.1
  have called : invocation ≠ "" := by
    rintro rfl
    rcases List.mem_pair.mp among with rfl | rfl <;> cases proposed
  rcases List.mem_pair.mp among with rfl | rfl
  · rw [adjacent_of_bare bare called] at proposed
    exact (Option.some.inj proposed).symm
  · rw [substitute_of_bare bare called] at proposed
    exact (Option.some.inj proposed).symm

end Strategy

/-- What is launched under the name of a candidate is the file that was checked, in whatever
environment. -/
structure StartsChecked (files : FileTree) (name candidate : String) : Prop where
  /-- It is looked for nowhere else. -/
  alone : ∀ environment called arguments,
    Machine.startFirst files called arguments none .noEntry
        (Machine.programPaths environment candidate) =
      Machine.start files Machine.interpreterLimit candidate called arguments
  /-- A candidate that names a file leads to the entry that was found by its normal form. -/
  same : FilePath.NamesFile candidate → ∃ place entry, entry ≠ .directory ∧
    files.resolve .follow (FilePath.ofString candidate).text = .ok (.present place entry) ∧
    files.resolve .follow candidate = .ok (.present place entry)
  /-- One that names no file is not started. -/
  refused : ¬ FilePath.NamesFile candidate → ∀ depth called arguments, ∃ fault,
    Machine.start files depth candidate called arguments = .error fault
  /-- It names a file if the program has a name and the path is not too long. -/
  names : FilePath.NamesFile candidate ↔
    name ≠ "" ∧ name ≠ "." ∧ FileTree.nameSize candidate ≤ FileTree.pathLimit

theorem startsChecked {files : FileTree} {name candidate : String} {front : List Char}
    (plain : '/' ∉ name.toList) (whole : candidate = String.ofList (front ++ '/' :: name.toList))
    (seen : Search.isUsable files candidate = .ok true) : StartsChecked files name candidate where
  alone environment called arguments :=
    Machine.startFirst_programPaths (by simp [whole]) environment called arguments
  same namesFile := by
    obtain ⟨-, place, entry, resolved, differs⟩ := Search.isUsable_eq_true_iff.mp seen
    exact ⟨place, entry, differs, resolved, FileTree.resolve_of_namesFile namesFile resolved⟩
  refused unnamed depth called arguments :=
    Machine.start_of_not_namesFile unnamed depth called arguments
  names := by
    have last : baseName candidate = name := by
      rw [baseName, whole, String.toList_ofList, baseChars_append plain, String.ofList_toList]
    constructor
    · rintro ⟨named, moves, short⟩
      exact ⟨last ▸ named, last ▸ moves, short⟩
    · rintro ⟨named, moves, short⟩
      exact ⟨last.symm ▸ named, last.symm ▸ moves, short⟩

/-- If the program was called by a path, what is found next to it is a path, and launching that
starts the file that was checked, if it starts anything; only without success the bare name is left.
If the program was called by its bare name, the bare name is all that can be found. -/
theorem locate_launches (files : FileTree) {name : String} (plain : '/' ∉ name.toList)
    (invocation : String) :
    (∀ front strategy candidate,
      Search.GetsTo (Search.isUsable files) name invocation Strategy.defaults front strategy
        candidate →
      Search.isUsable files candidate = .ok true →
        (locate files Strategy.defaults name invocation).outcome = .ok candidate ∧
        ('/' ∈ invocation.toList →
          '/' ∈ candidate.toList ∧ StartsChecked files name candidate) ∧
        ('/' ∉ invocation.toList → candidate = name)) ∧
    ((∀ strategy ∈ Strategy.defaults,
        Search.PassesOver (Search.isUsable files) name invocation strategy) →
      (locate files Strategy.defaults name invocation).outcome = .ok name) ∧
    ('/' ∈ invocation.toList →
      (locate files Strategy.defaults name invocation).outcome = .ok name →
      ∀ strategy ∈ Strategy.defaults,
        Search.PassesOver (Search.isUsable files) name invocation strategy) := by
  refine ⟨fun front strategy candidate gets seen => ⟨?_, fun slash => ?_, fun bare => ?_⟩,
    fun passed => ?_, fun slash found => ?_⟩
  · rw [locate, gets.run_of_usable seen]
  · obtain ⟨path, same⟩ := Strategy.exists_path_of_proposes gets.mem plain slash gets.proposed
    exact ⟨by simp [same], startsChecked plain same seen⟩
  · exact Strategy.eq_of_proposes_bare gets.mem bare gets.proposed
  · rw [locate, Search.run_of_passed passed]
  · have ends := Search.ends_run (Search.isUsable files) name invocation Strategy.defaults
    rw [← locate] at ends
    generalize locate files Strategy.defaults name invocation = search at ends found
    cases ends with
    | exhausted passed => exact passed
    | broken => cases found
    | @found front strategy candidate gets seen =>
        obtain ⟨path, same⟩ :=
          Strategy.exists_path_of_proposes gets.mem plain slash gets.proposed
        have slashed : '/' ∈ candidate.toList := by simp [same]
        cases found
        exact absurd slashed plain

/-- A program that is called by a path finds the companion next to it and launches that one. Called
by its bare name it finds the one in the working directory and launches another. -/
theorem locate_launches_elsewhere :
    let files : FileTree := {
      entries := [(["work"], .directory), (["work", "lib"], .directory),
        (["work", "lib", "tool"], .tool "true"), (["work", "tool"], .tool "true"),
        (["bin"], .directory), (["bin", "tool"], .tool "false")]
      working := ["work"] }
    let launched (program : String) : Except FileFault Machine.Running :=
      Machine.startFirst files [] [] none .noEntry
        (Machine.programPaths [("PATH", "/bin")] program)
    (locate files Strategy.defaults "tool" "lib/prog").outcome = .ok "lib/tool" ∧
      StartsChecked files "tool" "lib/tool" ∧ launched "lib/tool" = .ok ⟨"true", [], []⟩ ∧
    (locate files Strategy.defaults "tool" "prog").outcome = .ok "tool" ∧
      files.resolve .follow "tool" = .ok (.present ["work", "tool"] (.tool "true")) ∧
      launched "tool" = .ok ⟨"false", [], []⟩ := by
  intro files launched
  have slashed := (@locate_launches files "tool" (by decide) "lib/prog").1 [] Strategy.adjacent
    "lib/tool" ⟨⟨[Strategy.substitute], rfl⟩, ⟨rfl, by decide⟩, by simp⟩ rfl
  have bare := (@locate_launches files "tool" (by decide) "prog").1 [] Strategy.adjacent
    "tool" ⟨⟨[Strategy.substitute], rfl⟩, ⟨rfl, by decide⟩, by simp⟩ rfl
  exact ⟨slashed.1, (slashed.2.1 (by decide)).2, rfl, bare.1, rfl, rfl⟩

end RepoCatalog
