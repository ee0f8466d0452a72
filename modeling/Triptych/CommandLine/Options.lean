/-!
# The arguments of the command line

Each argument says one thing, and what it says does not depend on the others.  The
first argument that asks for help or the version, or that is unknown, decides the
request, whatever stands before it and after it.  Of the arguments that name a
source the LAST one counts.
-/

namespace Triptych.CommandLine

/-- What one argument says. -/
inductive Argument where
  | help
  | version
  | preview
  | lines
  | noColor
  | dark
  | verbose
  | standardInput
  | unknown (text : String)
  | file (path : String)
  deriving DecidableEq, Repr

/-- The names of the options. -/
def optionNames : List (String × Argument) := [
  ("--help", .help), ("-h", .help), ("--version", .version), ("-V", .version),
  ("--preview", .preview), ("--lines", .lines), ("--no-color", .noColor), ("--dark", .dark),
  ("--verbose", .verbose), ("-v", .verbose), ("-", .standardInput)]

/-- What an argument says: an option, or a file if it does not start with a hyphen. -/
def Argument.ofText (text : String) : Argument :=
  match optionNames.lookup text with
  | some argument => argument
  | none => if text.toList.head? = some '-' then .unknown text else .file text

/-- What is to be shown, and how. -/
structure Options where
  /-- The file to read; none stands for the standard input. -/
  file : Option String := none
  preview : Bool := false
  lines : Bool := false
  noColor : Bool := false
  dark : Bool := false
  /-- Asks for more of the log on the course of the work.  The log is left out here. -/
  verbose : Bool := false
  deriving DecidableEq, Repr

/-- The options after one more argument. -/
def Options.add (options : Options) : Argument → Options
  | .preview => { options with preview := true }
  | .lines => { options with lines := true }
  | .noColor => { options with noColor := true }
  | .dark => { options with dark := true }
  | .verbose => { options with verbose := true }
  | .standardInput => { options with file := none }
  | .file path => { options with file := some path }
  | .help | .version | .unknown _ => options

/-- What is asked for. -/
inductive Request where
  | help
  | version
  | unknownOption (text : String)
  | render (options : Options)
  deriving DecidableEq, Repr

namespace Request

/-- What arguments ask for, after others that gave some options. -/
def ofArguments (options : Options) : List Argument → Request
  | [] => .render options
  | .help :: _ => .help
  | .version :: _ => .version
  | .unknown text :: _ => .unknownOption text
  | argument :: rest => ofArguments (options.add argument) rest

/-- What the arguments of a command line ask for. -/
def ofTexts (texts : List String) : Request := ofArguments {} (texts.map Argument.ofText)

end Request

end Triptych.CommandLine
