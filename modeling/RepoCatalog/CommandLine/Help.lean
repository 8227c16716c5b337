import RepoCatalog.CommandLine.Options
import RepoCatalog.Terminal
import RepoCatalog.Text.Wrap

/-!
# Help

The text that explains the command line: how it is called, what it is for, and what each option
does, fitted into the width of the terminal.
-/

namespace RepoCatalog.CommandLine

/-- Name of the program. -/
def programName : String := "livegrep-gitlab-reindex"

/-- What the program is for. -/
def purpose : String :=
  "Discover GitLab repositories, write a livegrep index specification and run "
    ++ "livegrep-fetch-reindex on it."

/-- What messages call the value of an option. -/
def Setting.valueName : Setting → String
  | address => "URL"
  | token => "TOKEN"
  | proxy => "PROXY"
  | timeout => "TIMEOUT"
  | perPage => "PER_PAGE"
  | group => "GROUPS"
  | ignoreList => "IGNORELIST"
  | directory => "REPO_DIR"
  | indexPath => "INDEX_PATH"
  | specificationPath => "SPEC_PATH"
  | name => "NAME"
  | revision => "REVISION"
  | urlPattern => "URL_PATTERN"
  | httpUser => "HTTP_USER"
  | depth => "DEPTH"
  | codesearch => "CODESEARCH"
  | fetchReindex => "FETCH_REINDEX"
  | workers => "NUM_WORKERS"
  | logLevel => "\x7b" ++ String.intercalate "," levelNames ++ "\x7d"
  | logFile => "LOG_FILE"

/-- What an option that takes a value is for. -/
def Setting.explanation : Setting → String
  | address => "GitLab instance or API base URL; a trailing /api/v4 is accepted "
    ++ "(default: https://gitlab.example.com)."
  | token => "GitLab access token (default: $GITLAB_TOKEN)."
  | proxy => "HTTP(S) proxy URL for GitLab API traffic (e.g., http://127.0.0.1:8080)."
  | timeout => "GitLab API timeout in seconds (default: none, wait for the server)."
  | perPage => "Projects per page for GitLab API requests (default: 100)."
  | group => "GitLab group to index (may be passed multiple times). Without it, every "
    ++ "accessible project is indexed."
  | ignoreList => "File with repositories (namespace/path, one per line) to leave out."
  | directory => "Directory to store repos (default: repos)."
  | indexPath => "Path to write the index (default: $\x7bdir\x7d/livegrep.idx)."
  | specificationPath => "Path of the generated index specification (default: "
    ++ "$\x7bdir\x7d/livegrep.json)."
  | name => "The name to be stored in the index file."
  | revision => "git revision to index (default: HEAD)."
  | urlPattern => "Template used by the file viewer to link back to the source on GitLab."
  | httpUser => "Username to use when cloning over HTTPS (default: git)."
  | depth => "Shallow clone depth; 0 clones full history (default: 0)."
  | codesearch => "Path to the `codesearch` binary."
  | fetchReindex => "Path to the `livegrep-fetch-reindex` binary (default: next to this program, "
    ++ "then $PATH)."
  | workers => "Number of workers fetch-reindex uses to update repositories (default: 8)."
  | logLevel => "Log level (default: INFO)."
  | logFile => "Also write log records to this file."

/-- What an option that switches something on is for. -/
def Switch.explanation : Switch → String
  | insecure => "Skip TLS certificate verification for GitLab API traffic."
  | http => "Clone repositories over HTTPS instead of SSH."
  | skipMissing => "Skip repositories where the revision is missing from the local clone."
  | noIndex => "Skip indexing after writing config and fetching."

/-- What an option that turns something on or off is for. -/
def Toggle.explanation : Toggle → String
  | forks => "Index repositories that are forks (default: yes)."
  | archived => "Index repositories that are archived on GitLab (default: no)."
  | revparse => "`git rev-parse` the revision in generated links (default: yes)."

namespace Choice

/-- What an option is for. -/
def explanation : Choice → String
  | help => "show this help message and exit"
  | setting option => option.explanation
  | switch option => option.explanation
  | toggle option => option.explanation

/-- How an option is written in the usage. -/
def usage (choice : Choice) : String :=
  match choice with
  | help => "[-h]"
  | setting option => "[" ++ option.spellings.headD "" ++ " " ++ option.valueName ++ "]"
  | switch option => "[" ++ option.spellings.headD "" ++ "]"
  | toggle option => "[" ++ String.intercalate " | " option.spellings ++ "]"

/-- All spellings of an option, with the name of its value. -/
def heading (choice : Choice) : String :=
  String.intercalate ", " <|
    match choice with
    | setting option => option.spellings.map fun spelling => spelling ++ " " ++ option.valueName
    | other => other.spellings

end Choice

/-- Titles of the groups of options, and the options in them. -/
def sections : List (String × List Choice) :=
  [("options", [.help]),
    ("GitLab connectivity", [.setting .address, .setting .token, .setting .proxy,
      .setting .timeout, .switch .insecure, .setting .perPage]),
    ("Discovery", [.setting .group, .toggle .forks, .toggle .archived, .setting .ignoreList]),
    ("Index specification", [.setting .directory, .setting .indexPath,
      .setting .specificationPath, .setting .name, .setting .revision, .setting .urlPattern,
      .switch .http, .setting .httpUser, .setting .depth]),
    ("livegrep-fetch-reindex", [.setting .codesearch, .setting .fetchReindex, .setting .workers,
      .toggle .revparse, .switch .skipMissing, .switch .noIndex]),
    ("Logging", [.setting .logLevel, .setting .logFile])]

/-- Text of a number of spaces. -/
def spaces (count : Nat) : String :=
  String.ofList (List.replicate count ' ')

/-- Lines of words up to a width. Each line but the first starts after an indentation; the first
starts after `used` columns. -/
def fillLines (width : Int) (indentation : Nat) : Int → List String → List String → List String
  | _, line, [] => if line.isEmpty then [] else [String.intercalate " " line]
  | used, line, word :: rest =>
    if width < used + 1 + word.length && !line.isEmpty then
      String.intercalate " " line
        :: fillLines width indentation (indentation + word.length) [word] rest
    else fillLines width indentation (used + 1 + word.length) (line ++ [word]) rest

/-- What the usage starts with. -/
def usageMark : String := "usage: "

/-- Lines on how the program is called. -/
def usageLines (width : Int) : List String :=
  let words := choices.map Choice.usage
  let whole := usageMark ++ String.intercalate " " (programName :: words)
  let start := usageMark.length + programName.length
  if whole.length ≤ width then [whole]
  else if 4 * (start : Int) ≤ 3 * width then
    let indentation := start + 1
    match fillLines width indentation (usageMark.length - 1) [] (programName :: words) with
    | first :: rest => (usageMark ++ first) :: rest.map (spaces indentation ++ ·)
    | [] => []
  else
    let indentation := usageMark.length
    (usageMark ++ programName)
      :: (fillLines width indentation (indentation - 1) [] words).map (spaces indentation ++ ·)

/-- Least number of columns for running text. -/
def leastTextWidth : Int := 11

/-- Width of running text that starts after a number of columns. -/
def textWidth (width : Int) (start : Nat) : Nat :=
  (max leastTextWidth (width - start)).toNat

/-- Column at which explanations start. -/
def explanationColumn (width : Int) : Nat :=
  (min 24 (max 4 (width - 20))).toNat

/-- Lines on an option: its explanation starts beside a short heading, else below it. -/
def choiceLines (width : Int) (choice : Choice) : List String :=
  let column := explanationColumn width
  let lines := (Text.wrap (textWidth width column) choice.explanation).map (spaces column ++ ·)
  let heading := "  " ++ choice.heading
  if choice.heading.length + 4 ≤ column then
    match lines with
    | first :: rest =>
      (heading ++ String.ofList (first.toList.drop heading.length)) :: rest
    | [] => [heading]
  else heading :: lines

/-- Lines on the options of a group. -/
def sectionLines (width : Int) (title : String) (options : List Choice) : List String :=
  ["", title ++ ":"] ++ options.flatMap (choiceLines width)

/-- Columns left free at the end of a line. -/
def margin : Int := 2

/-- Lines of the help text for a terminal of some columns. -/
def helpLines (columns : Int) : List String :=
  let width := columns - margin
  usageLines width ++ [""] ++ Text.wrap (textWidth width 0) purpose
    ++ sections.flatMap fun (title, options) => sectionLines width title options

/-- Columns of a terminal that does not say how many it has. -/
def usualColumns : Int := 80

/-- The help text in an environment. -/
def helpText (environment : Environment) : String :=
  String.join ((helpLines (Terminal.columns environment usualColumns)).map (· ++ "\n"))

end RepoCatalog.CommandLine
