import Triptych.Block
import Triptych.Tokenizer

/-!
# Rendering a block

A text that is a block gives one pane for each segment that holds something, and
what a collaborator makes of the three texts.  A text that is no block gives one
report and NOTHING else.  Both collaborators act in a monad, so that how often
they are called is part of the result.
-/

namespace Triptych

/-- A segment with its tokens. -/
structure Pane where
  kind : Segment
  text : List Char
  tokens : List Token
  deriving DecidableEq, Repr

/-- What rendering a block gives. -/
structure Rendered (δ : Type) where
  /-- One for each segment that is not empty, markup first. -/
  panes : List Pane
  preview : δ
  deriving DecidableEq, Repr

namespace Block

variable {μ σ κ δ : Type} {m : Type → Type} [Monad m]

/-- The panes of a block. -/
def panes (block : Block) (tokenizer : Tokenizer μ σ κ) : List Pane :=
  block.nonEmpty.map fun (kind, text) => ⟨kind, text, tokenizer.classify kind text⟩

/-- Render a block. -/
def render (block : Block) (tokenizer : Tokenizer μ σ κ)
    (preview : List Char → List Char → List Char → m δ) : m (Rendered δ) := do
  return ⟨block.panes tokenizer, ← preview block.markup block.style block.script⟩

end Block

/-- Render a text: split it, and report why if it is no block. -/
def render {μ σ κ δ : Type} {m : Type → Type} [Monad m] (raw : List Char)
    (tokenizer : Tokenizer μ σ κ) (preview : List Char → List Char → List Char → m δ)
    (report : String → m Unit) : m (Option (Rendered δ)) :=
  match Block.split raw with
  | .ok block => some <$> block.render tokenizer preview
  | .error e => do
      report e.message
      return none

end Triptych
