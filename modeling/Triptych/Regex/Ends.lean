import Triptych.Regex.Basic

/-!
# The ends of matches

`ends r p` lists the places where a match of `r` that starts at `p` can end, the
preferred one first.  Matching looks these places through in their order and stops
at the first that will do, so the preferred match ends at the head of the list.

A place can stand in the list MORE than once.
-/

namespace Triptych.Regex

/-- The ends of any number of further rounds of `body` from a place on. -/
def furtherEnds (greedy : Bool) (body : Place → List Place) (p : Place) : List Place :=
  let further := (body p).flatMap fun q =>
    if q.left < p.left then furtherEnds greedy body q else []
  if greedy then further ++ [p] else p :: further
termination_by p.left

/-- The ends of the matches that start at a place, the preferred one first. -/
def ends : Regex → Place → List Place
  | .empty, p => [p]
  | .char set, p =>
      match p.next? with
      | some (c, q) => if set.contains c then [q] else []
      | none => []
  | .anchor condition, p => if condition.holds p then [p] else []
  | .seq r s, p => (r.ends p).flatMap fun q => s.ends q
  | .alt r s, p => r.ends p ++ s.ends p
  | .plus greedy r, p =>
      (r.ends p).flatMap fun q =>
        if q.left < p.left then furtherEnds greedy (fun q => r.ends q) q else [q]

theorem findSome?_flatMap {α β γ : Type} (f : α → List β) (g : β → Option γ) (l : List α) :
    (l.flatMap f).findSome? g = l.findSome? fun a => (f a).findSome? g := by
  induction l with
  | nil => rfl
  | cons a l ih =>
      rw [List.flatMap_cons, List.findSome?_append, ih, List.findSome?_cons]
      cases (f a).findSome? g <;> rfl

theorem firstFurther?_eq {α : Type} {greedy : Bool}
    {body : Place → (Place → Option α) → Option α} {ends : Place → List Place}
    (hbody : ∀ p next, body p next = (ends p).findSome? next) (p : Place)
    (next : Place → Option α) :
    firstFurther? greedy body p next = (furtherEnds greedy ends p).findSome? next := by
  induction hn : p.left using Nat.strongRecOn generalizing p with
  | _ n ih =>
      have hround : ∀ q : Place,
          (if q.left < p.left then firstFurther? greedy body q next else none) =
            (if q.left < p.left then furtherEnds greedy ends q else []).findSome? next := by
        intro q
        split
        · next hq => exact ih q.left (hn ▸ hq) q rfl
        · simp
      rw [firstFurther?, furtherEnds]
      simp only [hbody, hround]
      cases greedy with
      | true =>
          simp only [if_true, List.findSome?_append, findSome?_flatMap, List.findSome?_cons,
            List.findSome?_nil]
          generalize (ends p).findSome? _ = found
          cases found <;> cases next p <;> rfl
      | false =>
          simp only [Bool.false_eq_true, if_false, List.findSome?_cons, findSome?_flatMap]
          cases next p <;> rfl

/-- Matching looks the ends through in the order of preference. -/
theorem first?_eq {α : Type} (r : Regex) (p : Place) (next : Place → Option α) :
    r.first? p next = (r.ends p).findSome? next := by
  induction r generalizing p next with
  | empty => simp [first?, ends]
  | char set =>
      simp only [first?, ends]
      cases p.next? with
      | none => rfl
      | some step => cases h : set.contains step.1 <;> simp [h]
  | anchor condition =>
      simp only [first?, ends]
      split <;> simp
  | seq r s ihr ihs => simp only [first?, ends, ihr, ihs, findSome?_flatMap]
  | alt r s ihr ihs =>
      simp only [first?, ends, ihr, ihs, List.findSome?_append]
      cases (r.ends p).findSome? next <;> rfl
  | plus greedy r ih =>
      simp only [first?, ends, ih, findSome?_flatMap]
      congr 1
      funext q
      split
      · exact firstFurther?_eq (fun _ _ => rfl) q next
      · simp

/-- The preferred match ends at the head of the list of ends. -/
theorem matchAt?_eq_head? (r : Regex) (p : Place) : r.matchAt? p = (r.ends p).head? := by
  rw [matchAt?, first?_eq]
  cases r.ends p <;> simp

end Triptych.Regex
