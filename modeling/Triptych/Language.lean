import Triptych.Lexer
import Triptych.Rule

/-!
# Languages

A language is a list of constructs and a list of patterns.  One token is read at a
place as follows.  Inside an open construct, it is the rest of that construct.
Otherwise the first construct that opens at the place wins, then the first pattern
that is found there, and patterns are kept in the order of their priorities.  What
no rule begins at is plain text, up to the first place where some rule is found.

Constructs come BEFORE patterns, whatever the priorities are.
-/

namespace Triptych

/-- A language. -/
structure Language where
  name : String
  constructs : List Construct
  patterns : List Pattern

/-- A token that has been read: where it ends, its class, and the state after it. -/
structure Scan where
  stop : Place
  kind : Option TokenClass
  state : LineState

namespace Language

/-- The language without rules. -/
def named (name : String) : Language := ⟨name, [], []⟩

/-- One construct more, after the others. -/
def addConstruct (language : Language) (rule : Construct) : Language :=
  { language with constructs := language.constructs ++ [rule] }

/-- One pattern more, after those of the same and of a greater priority. -/
def addPattern (language : Language) (rule : Pattern) : Language :=
  { language with
    patterns := (language.patterns ++ [rule]).mergeSort fun a b => b.priority ≤ a.priority }

/-- The language with some rules, added in their order.  Rules that are not well formed
are left out. -/
def build (name : String) (constructs : List (Option Construct))
    (patterns : List (Option Pattern)) : Language :=
  (patterns.filterMap id).foldl addPattern
    ((constructs.filterMap id).foldl addConstruct (named name))

/-- The construct that a line state says is open.  Nothing is open for an id that no
construct has. -/
def openConstruct? (language : Language) (state : LineState) : Option Construct :=
  if state.isInside then language.constructs.find? fun rule => rule.id == state.openId
  else none

/-- Read on inside a construct, from `body` on, in the state `state` if it stays open
and in the normal state if it closes. -/
def scanInside (rule : Construct) (body : Place) (state : LineState) : Scan :=
  match rule.findClosing? body with
  | some stop => ⟨stop, some rule.kind, .normal⟩
  | none => ⟨body.finish, some rule.kind, state⟩

/-- The first construct that opens at a place, and where its inside begins. -/
def opensAt? (language : Language) (p : Place) : Option (Construct × Place) :=
  language.constructs.findSome? fun rule => (rule.opensAt? p).map (rule, ·)

/-- The first pattern that takes something at a place, and where it ends. -/
def takesAt? (language : Language) (p : Place) : Option (Pattern × Place) :=
  language.patterns.findSome? fun rule => (rule.takesAt? p).map (rule, ·)

/-- The nearer of two places in a text. -/
def nearer (p q : Place) : Place := if q.left ≤ p.left then p else q

/-- The first place from `p` on where some rule is found; the end if there is none. -/
def nextStart (language : Language) (p : Place) : Place :=
  let openings := language.constructs.filterMap fun rule => rule.findOpening? p
  let matched := language.patterns.filterMap fun rule => rule.find? p
  (openings ++ matched).foldl (fun best (start, _) => nearer best start) p.finish

/-- Read a token at a place outside all constructs. -/
def scanNormal (language : Language) (p : Place) : Scan :=
  match language.opensAt? p with
  | some (rule, body) => scanInside rule body (.inside rule.id)
  | none =>
      match language.takesAt? p with
      | some (rule, stop) => ⟨stop, some rule.kind, .normal⟩
      | none => ⟨language.nextStart p, none, .normal⟩

/-- Read a token at a place. -/
def scan (language : Language) (p : Place) (state : LineState) : Scan :=
  match language.openConstruct? state with
  | some rule => scanInside rule p state
  | none => language.scanNormal p

/-- The lexer that reads by the rules of a language. -/
def lexer (language : Language) : Lexer LineState where
  start := .normal
  read cursor state :=
    let result := language.scan (.ofOffset cursor.line cursor.pos) state
    ⟨result.kind, cursor.advanceTo result.stop.offset, result.state⟩

end Language

end Triptych
