import Triptych.CommandLine.Options
import Triptych.Listing
import Triptych.Preview
import Triptych.Terminal.Drawing

/-!
# The answer to a command line

A host gives access to the settings and to the source, in whatever monad it reads
them.  `run` asks it for no more than the request needs: NOTHING is read to show the
help, and of the sources only the one that counts.

The code of the answer is 0 if there is something to show, 1 if the request cannot
be served, and 2 if the source is no block.
-/

namespace Triptych.CommandLine

/-- Why a source cannot be read. -/
inductive ReadError where
  | notFound
  | permissionDenied
  | notDirectory
  | isDirectory
  | nameTooLong
  | notUnicode
  | other (text : String)
  deriving DecidableEq, Repr

/-- What is said about a source that cannot be read. -/
def ReadError.message : ReadError → String
  | .notFound => "No such file or directory (os error 2)"
  | .permissionDenied => "Permission denied (os error 13)"
  | .notDirectory => "Not a directory (os error 20)"
  | .isDirectory => "Is a directory (os error 21)"
  | .nameTooLong => "File name too long (os error 36)"
  | .notUnicode => "stream did not contain valid UTF-8"
  | .other text => text

/-- Access to what a command line may ask for. -/
structure Host (m : Type → Type) where
  /-- The settings that the user keeps, if there are any. -/
  settings : m (Option ByteArray)
  standardInput : m (Except ReadError ByteArray)
  file : String → m (Except ReadError ByteArray)

/-- What a command line gives back. -/
structure Answer where
  code : UInt8
  output : List Char
  /-- What is said of errors.  It is NOT all that is written beside the output, as the log is
  left out: its warnings go to the same place, and with `--verbose` there is more of it. -/
  messages : List Char
  deriving DecidableEq

/-- The text of bytes in UTF-8. -/
def decode? (bytes : ByteArray) : Option (List Char) := (String.fromUTF8? bytes).map String.toList

/-- The settings that bytes hold.  What cannot be read counts as no settings. -/
def settingsOf (bytes : Option ByteArray) : Settings :=
  ((bytes.bind decode?).bind Settings.ofDocument?).getD {}

/-- The settings after the options of the command line, which come first. -/
def Options.override (options : Options) (settings : Settings) : Settings :=
  { settings with
    color := settings.color && !options.noColor
    darkMode := settings.darkMode || options.dark }

/-- What the program calls itself, with its version. -/
def versionLine : String := "swarnam 0.1.0"

/-- The lines that explain the command line. -/
def usage : List String := [
  versionLine ++ " - HTML/CSS/JS snippet renderer",
  "",
  "Usage: swarnam [OPTIONS] [FILE]",
  "",
  "Reads the block from FILE, or from stdin when FILE is absent or -.",
  "Segments are separated by lines containing only ---*---",
  "",
  "Options:",
  "  -h, --help     Show this help message",
  "  -V, --version  Show version information",
  "      --preview  Print the preview document instead of source panes",
  "      --lines    Print the segment and token classes of every line",
  "      --no-color Disable terminal colours",
  "      --dark     Use light preview text for dark backgrounds",
  "  -v, --verbose  Log debug output to stderr",
  "",
  "Settings are read from ~/.swarnam.toml"]

namespace Answer

/-- Lines to show. -/
def ofLines (lines : List String) : Answer :=
  ⟨0, lines.flatMap fun line => line.toList ++ ['\n'], []⟩

/-- The request cannot be served. -/
def failure (message : String) : Answer :=
  ⟨1, [], ("Error: " ++ message ++ "\n").toList⟩

end Answer

/-- The message that a source is no block. -/
def warning (message : String) : List Char := ("\u26a0\ufe0f  " ++ message ++ "\n").toList

/-- Show a source, or say why it is no block. -/
def showBlock (options : Options) (settings : Settings) (source : List Char) : Answer :=
  let preview (markup style script : List Char) : StateM (List Char) (List Char) :=
    pure (Preview.document settings.darkMode markup style script)
  let report (message : String) : StateM (List Char) Unit :=
    modify fun messages => messages ++ warning message
  match (render source .standard preview report).run [] with
  | (none, messages) => ⟨2, [], messages⟩
  | (some rendered, messages) =>
      let output :=
        if options.preview then rendered.preview else Terminal.writePanes settings rendered.panes
      ⟨0, output, messages⟩

/-- Show what the options ask for. -/
def showSource (options : Options) (settings : Settings) (source : List Char) : Answer :=
  if options.lines then ⟨0, Listing.write .standard source, []⟩
  else showBlock options (options.override settings) source

/-- Show what the options ask for, of a source that may be unreadable. -/
def showBytes (options : Options) (settings : Settings) (source : Except ReadError ByteArray) :
    Answer :=
  match source with
  | .error e => unreadable e
  | .ok bytes =>
      match decode? bytes with
      | none => unreadable .notUnicode
      | some text => showSource options settings text
where
  /-- There is no source. -/
  unreadable (e : ReadError) : Answer := .failure ("I/O error: " ++ e.message)

/-- Answer a command line. -/
def run {m : Type → Type} [Monad m] (host : Host m) (arguments : List String) : m Answer := do
  match Request.ofTexts arguments with
  | .help => return .ofLines usage
  | .version => return .ofLines [versionLine]
  | .unknownOption text => return .failure ("Unknown option: " ++ text)
  | .render options =>
      let settings := settingsOf (← host.settings)
      let source ← match options.file with
        | some path => host.file path
        | none => host.standardInput
      return showBytes options settings source

end Triptych.CommandLine
