import RepoCatalog.Process.Tool.Text

/-!
# Comparing files

Programs that tell whether two files differ, and how: the differences are what is left of the lines
besides a longest sequence that both files share.
-/

namespace RepoCatalog.Tool

open Act

/-- Complains about inputs that cannot be read. -/
def reportUnread (name : Octets) (inputs : List (Octets × Except FileFault Octets)) : Act Unit :=
  inputs.forM fun (path, input) =>
    match input with
    | .error fault => complain name (path ++ ": " ++ Octets.ofString fault.reason)
    | .ok _ => pure ()

/-- Compares two files byte by byte. -/
def cmp : Tool := fun _ name arguments => do
  let (flags, paths) ← sort ⟨['s', 'l', 'b'], ['n', 'i'],
    [("quiet", 's'), ("silent", 's'), ("verbose", 'l'), ("bytes", 'n'), ("print-bytes", 'b')], true⟩
    name 2 arguments
  match paths with
  | [] =>
    complain name ("missing operand after " ++ quoted name)
    say (name ++ ": Try '" ++ name ++ " --help' for more information.")
    return 2
  | first :: rest =>
    let second := rest.head?.getD ['-']
    match ← readInput first, ← readInput second with
    | .ok a, .ok b =>
      let limit := (argument? flags 'n').bind bytes?
      let cut (text : Octets) : Octets := match limit with
        | some most => text.take most
        | none => text
      let a := cut a
      let b := cut b
      if a = b then return 0
      else if has flags 's' then return 1
      else
        let pairs := (a.zip b).mapIdx fun i pair => (i + 1, pair)
        let differing := pairs.filter fun (_, x, y) => x ≠ y
        let short := if a.length < b.length then (first, a) else (second, b)
        let tellEnd : Act Unit := do
          let lines := short.2.count '\n'
          let place : Octets := if short.2.isEmpty then " which is empty" else
            let line : Octets := if has flags 'l' then [] else
              if short.2.getLast? = some '\n' then ", line " ++ Octets.ofNat lines
              else ", in line " ++ Octets.ofNat (lines + 1)
            " after byte " ++ Octets.ofNat short.2.length ++ line
          complain name ("EOF on " ++ short.1 ++ place)
        if has flags 'l' then
          let width := (Octets.ofNat (max a.length b.length)).length
          let octal (c : Char) : Octets := Octets.padLeft 3 (Nat.toDigits 8 c.toNat)
          let _ ← write name (Octets.unlines (differing.map fun (i, x, y) =>
            Octets.padLeft width (Octets.ofNat i) ++ ' ' :: octal x ++ ' ' :: octal y))
          if a.length ≠ b.length then tellEnd
        else
          match differing with
          | (position, _, _) :: _ =>
            let line := (a.take (position - 1)).count '\n' + 1
            let _ ← write name (first ++ " " ++ second ++ " differ: char " ++ Octets.ofNat position
              ++ ", line " ++ Octets.ofNat line ++ ['\n'])
          | [] => tellEnd
        return 1
    | a, b =>
      reportUnread name [(first, a), (second, b)]
      return 2

namespace Difference

/-- What becomes of a line. -/
inductive Step
  | kept (old new : Octets)
  | removed (line : Octets)
  | added (line : Octets)
  deriving DecidableEq, Repr

/-- Lengths of longest shared sequences of the rests of two lists of lines, for one line more of the
first list. -/
def extend (same : Octets → Octets → Bool) (line : Octets) : List Octets → List Nat → List Nat
  | [], _ => [0]
  | other :: others, behind =>
    let row := extend same line others (behind.drop 1)
    let size :=
      if same line other then (behind.drop 1).head?.getD 0 + 1
      else max (behind.head?.getD 0) (row.head?.getD 0)
    size :: row

/-- Lengths of longest shared sequences of all rests of two lists of lines. -/
def table (same : Octets → Octets → Bool) (others : List Octets) : List Octets → List (List Nat)
  | [] => [List.replicate (others.length + 1) 0]
  | line :: lines =>
    let below := table same others lines
    extend same line others (below.head?.getD []) :: below

/-- Steps that lead from one list of lines to another along a table; lines are removed before others
are added. Fuel bounds their number. -/
def follow (same : Octets → Octets → Bool) :
    Nat → List (List Nat) → List Octets → List Octets → List Step
  | 0, _, _, _ => []
  | _ + 1, _, [], others => others.map .added
  | _ + 1, _, lines, [] => lines.map .removed
  | fuel + 1, sizes, line :: lines, other :: others =>
    let down := (sizes.drop 1).head?.getD []
    let right := ((sizes.head?.getD []).drop 1).head?.getD 0
    if same line other then
      .kept line other :: follow same fuel ((sizes.drop 1).map (List.drop 1)) lines others
    else if right ≤ down.head?.getD 0 then
      .removed line :: follow same fuel (sizes.drop 1) lines (other :: others)
    else .added other :: follow same fuel (sizes.map (List.drop 1)) (line :: lines) others

/-- Steps that lead from one list of lines to another. -/
def steps (same : Octets → Octets → Bool) (lines others : List Octets) : List Step :=
  follow same (lines.length + others.length + 1) (table same others lines) lines others

/-- A step with the numbers of the lines before it. -/
structure Placed where
  /-- Lines of the first file before it. -/
  old : Nat
  /-- Lines of the second file before it. -/
  new : Nat
  /-- The step. -/
  step : Step

/-- Steps with the numbers of the lines before them. -/
def place : Nat → Nat → List Step → List Placed
  | _, _, [] => []
  | old, new, step :: rest =>
    let (old', new') := match step with
      | .kept _ _ => (old + 1, new + 1)
      | .removed _ => (old + 1, new)
      | .added _ => (old, new + 1)
    ⟨old, new, step⟩ :: place old' new' rest

/-- Whether a step keeps a line. -/
def Placed.keeps (placed : Placed) : Bool :=
  placed.step matches .kept _ _

/-- Groups of changes with at most `gap` kept lines between the changes of a group, and as many
around them; fuel bounds the number of steps. -/
def hunks (gap : Nat) : Nat → List Placed → List (List Placed)
  | 0, _ => []
  | fuel + 1, placed =>
    let leading := placed.takeWhile Placed.keeps
    let rest := placed.drop leading.length
    if rest.isEmpty then []
    else
      let rec body : Nat → List Placed → List Placed × List Placed
        | 0, rest => ([], rest)
        | fuel + 1, rest =>
          let changes := rest.takeWhile (!·.keeps)
          let behind := rest.drop changes.length
          let kept := behind.takeWhile Placed.keeps
          let after := behind.drop kept.length
          if after.isEmpty || 2 * gap < kept.length then
            (changes ++ kept.take gap, behind.drop (min gap kept.length))
          else
            let (more, left) := body fuel after
            (changes ++ kept ++ more, left)
      let (own, left) := body (rest.length + 1) rest
      (leading.drop (leading.length - gap) ++ own) :: hunks gap fuel left

/-- A line with its mark, and a remark if it does not end. -/
def shownLine (mark : Octets) (line : Octets) : Octets :=
  if line.getLast? = some '\n' then mark ++ line
  else mark ++ line ++ "\n\\ No newline at end of file\n"

/-- Lines that are removed. -/
def removedLines (hunk : List Placed) : List Octets :=
  hunk.filterMap fun placed => match placed.step with
    | .removed line => some line
    | _ => none

/-- Lines that are added. -/
def addedLines (hunk : List Placed) : List Octets :=
  hunk.filterMap fun placed => match placed.step with
    | .added line => some line
    | _ => none

/-- A group of changes in short. -/
def plainHunk (hunk : List Placed) : Octets :=
  let removed := removedLines hunk
  let added := addedLines hunk
  let (old, new) := match hunk with
    | first :: _ => (first.old, first.new)
    | [] => (0, 0)
  let range (before count : Nat) : Octets :=
    if count = 0 then Octets.ofNat before
    else if count = 1 then Octets.ofNat (before + 1)
    else Octets.ofNat (before + 1) ++ ',' :: Octets.ofNat (before + count)
  let letter := if removed.isEmpty then 'a' else if added.isEmpty then 'd' else 'c'
  let divider : Octets := if letter = 'c' then "---\n" else []
  range old removed.length ++ letter :: range new added.length ++ ['\n']
    ++ removed.flatMap (shownLine "< ") ++ divider ++ added.flatMap (shownLine "> ")

/-- A group of changes with the lines around it. -/
def unifiedHunk (hunk : List Placed) : Octets :=
  let (old, new) := match hunk with
    | first :: _ => (first.old, first.new)
    | [] => (0, 0)
  let kept := hunk.countP Placed.keeps
  let range (before count : Nat) : Octets :=
    if count = 1 then Octets.ofNat (before + 1)
    else Octets.ofNat (if count = 0 then before else before + 1) ++ ',' :: Octets.ofNat count
  let lines := hunk.flatMap fun placed => match placed.step with
    | .kept line _ => shownLine " " line
    | .removed line => shownLine "-" line
    | .added line => shownLine "+" line
  "@@ -" ++ range old (kept + (removedLines hunk).length) ++ " +"
    ++ range new (kept + (addedLines hunk).length) ++ " @@\n" ++ lines

end Difference

/-- Tells how two files differ. -/
def diff : Tool := fun _ name arguments => do
  let (flags, paths) ← sort ⟨['q', 's', 'i', 'w', 'b', 'B', 'u', 'r', 'N', 'a', 't', 'e'],
    ['U', 'L'],
    [("brief", 'q'), ("report-identical-files", 's'), ("ignore-case", 'i'),
      ("ignore-all-space", 'w'), ("ignore-space-change", 'b'), ("unified", 'u'), ("text", 'a'),
      ("label", 'L'), ("recursive", 'r'), ("new-file", 'N')], true⟩ name 2 arguments
  match paths with
  | [first, second] =>
    let files ← files
    let isDirectory (path : Octets) : Bool :=
      files.inspect (Octets.toString path) matches .ok .directory
    -- A file is compared with the one of its name in a directory.
    let (first, second) :=
      if isDirectory first && !isDirectory second then (joinChars first (baseChars second), second)
      else if isDirectory second && !isDirectory first then
        (first, joinChars second (baseChars first))
      else (first, second)
    match ← readInput first, ← readInput second with
    | .ok a, .ok b =>
      let blank (c : Char) : Bool := Shell.Expression.isSpace c
      let key (line : Octets) : Octets :=
        let line := if has flags 'i' then line.map Char.toLower else line
        if has flags 'w' then line.filter (!blank ·)
        else if has flags 'b' then
          (squeeze (Text.dropEndWhile blank line)).map fun c => if blank c then ' ' else c
        else line
      let same (x y : Octets) : Bool := x = y || key x = key y
      let placed := Difference.place 0 0
        (Difference.steps same (markedLines a) (markedLines b))
      if placed.all Difference.Placed.keeps then
        if has flags 's' then
          write name ("Files " ++ first ++ " and " ++ second ++ " are identical\n")
        else return 0
      else
        let isUnified := has flags 'u' || has flags 'U'
        let gap := if has flags 'U' then ((argument? flags 'U').bind natural?).getD 3 else 3
        let labels := (flags.filter (·.letter = 'L')).map (·.argument)
        let heading (mark : Octets) (i : Nat) (path : Octets) : Octets :=
          let label := labels[i]?.getD (path ++ "\t1970-01-01 00:00:00.000000000 +0000")
          mark ++ ' ' :: label ++ ['\n']
        let isBinary := a.contains '\x00' || b.contains '\x00'
        let text : Octets :=
          if has flags 'q' then "Files " ++ first ++ " and " ++ second ++ " differ\n"
          else if isBinary && !has flags 'a' then
            "Binary files " ++ first ++ " and " ++ second ++ " differ\n"
          else if isUnified then
            heading "---" 0 first ++ heading "+++" 1 second
              ++ (Difference.hunks gap (placed.length + 1) placed).flatMap Difference.unifiedHunk
          else
            (Difference.hunks 0 (placed.length + 1) placed).flatMap Difference.plainHunk
        let _ ← write name text
        return 1
    | a, b =>
      reportUnread name [(first, a), (second, b)]
      return 2
  | [] => misuse name 2 ("missing operand after " ++ quoted name)
  | [only] => misuse name 2 ("missing operand after " ++ quoted only)
  | _ :: _ :: third :: _ => misuse name 2 ("extra operand " ++ quoted third)
where
  /-- Text in which blanks stand alone. -/
  squeeze (text : Octets) : Octets :=
    (text.foldl (fun (kept : Octets) c =>
      if Shell.Expression.isSpace c && kept.head?.any Shell.Expression.isSpace then kept
      else c :: kept) []).reverse

end RepoCatalog.Tool
