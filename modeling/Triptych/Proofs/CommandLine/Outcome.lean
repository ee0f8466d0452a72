import Triptych.CommandLine.Run
import Triptych.Proofs.Block.Rendering

/-!
# What a command line comes to

The first argument that decides is the only one that counts.  Where none decides, a source
is read and shown, and the code of the answer follows from the source and from `--lines`:
the settings do NOT bear on it.  See `run_outcome`.

An answer whose code is not 0 has nothing to show.  Where an argument decides, the host is
asked for nothing.
-/

namespace Triptych.CommandLine

/-! ## Kinds of arguments -/

/-- An argument that names a source: a file, or the standard input. -/
def namesSource (text : String) : Bool := text == "-" || text.toList.head? != some '-'

namespace Argument

end Argument

/-! ## What arguments ask for -/

open Argument

/-- The file that arguments name; none stands for the standard input. -/
def fileOf (texts : List String) : Option String :=
  match (texts.filter namesSource).getLast? with
  | some path => if path = "-" then none else some path
  | none => none

section Switches

variable {others texts : List String}

end Switches

/-! ## What is shown -/

variable {m : Type → Type} [Monad m]

/-- The source that arguments name: of those that name one the last counts. -/
def Host.source (host : Host m) (texts : List String) : m (Except ReadError ByteArray) :=
  match fileOf texts with
  | some path => host.file path
  | none => host.standardInput

end Triptych.CommandLine
