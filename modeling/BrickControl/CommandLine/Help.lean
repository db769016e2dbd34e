import BrickControl.CommandLine.Option

/-!
# Help texts

A help text says what its topic is about, how it is used, and lists verbs and options in two columns.

* `Topic.lines` is the help text of a topic, line by line.
-/

namespace BrickControl.CommandLine

/-- Lines of two columns; the second one starts two blanks behind the longest entry of the first. -/
def columns (rows : List (String × String)) : List String :=
  let width := (rows.map fun row => row.1.length).foldl max 0
  rows.map fun row =>
    row.1 ++ String.ofList (List.replicate (width - row.1.length + 2) ' ') ++ row.2

/-- The two columns of an option. -/
def Opt.row : Opt → String × String
  | .help => ("  -h, --" ++ helpWord, "Print help")
  | .flag f =>
    match f.short with
    | some letter => ("  -" ++ letter.toString ++ ", " ++ f.usage, f.help)
    | none => ("      " ++ f.usage, f.help)
  | .value option =>
    let shown := match option.default with
      | some text => " [default: " ++ text ++ "]"
      | none => ""
    ("      " ++ option.usage, option.help ++ shown)

/-- The list of the verbs. -/
def verbRows : List (String × String) :=
  Verb.all.map (fun verb => ("  " ++ verb.word, verb.about)) ++
    [("  " ++ helpWord, Topic.about .help)]

/-- The usage line. -/
def Topic.usage : Topic → String
  | .program => "Usage: " ++ programName ++ " [OPTIONS] <COMMAND>"
  | .verb v =>
    " ".intercalate (["Usage:", programName, v.word, "[OPTIONS]"] ++ v.needs.map ValueOption.usage)
  | .help => "Usage: " ++ programName ++ " " ++ helpWord ++ " [COMMAND]..."

/-- The lists below the usage line. -/
def Topic.lists : Topic → List String
  | .program =>
    "Commands:" :: columns verbRows ++ "" :: "Options:" :: columns (rootOptions.map Opt.row)
  | .verb v => "Options:" :: columns (v.options.map Opt.row)
  | .help => "Arguments:" :: columns [("  [COMMAND]...", "Print help for the subcommand(s)")]

/-- The help text of a topic. -/
def Topic.lines (topic : Topic) : List String :=
  topic.about :: "" :: topic.usage :: "" :: topic.lists

end BrickControl.CommandLine
