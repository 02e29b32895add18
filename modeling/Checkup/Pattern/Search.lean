import Checkup.Pattern.Place
import Checkup.Pattern.Program
import Std.Data.HashSet.Lemmas

/-!
# Searching

A depth-first search over pairs of a step and a position. A pair that has been visited without
success is never entered again, so the search ends after at most one visit of each.
-/

namespace Checkup.Pattern

/-- A place in the program and in the subject, with the slots that were saved on the way there,
the latest first. -/
structure Thread where
  step : Nat
  position : Nat
  slots : List (Nat × Nat)
  deriving DecidableEq, Repr

namespace Thread

def goTo (thread : Thread) (step : Nat) : Thread := { thread with step }

def advance (thread : Thread) (step length : Nat) : Thread :=
  { thread with step, position := thread.position + length }

/-- Where a thread can go by one step, the preferred way first. -/
def successors (subject : Subject) (thread : Thread) : Step → List Thread
  | .byte set next =>
    match subject[thread.position]? with
    | some byte => if set.contains byte.toNat then [thread.advance next 1] else []
    | none => []
  | .scalar set next =>
    match subject.charAt? thread.position with
    | some (char, length) =>
      if set.contains char.toNat then [thread.advance next length] else []
    | none => []
  | .look assertion next => if assertion.holds subject thread.position then [thread.goTo next] else []
  | .save slot next => [{ thread with step := next, slots := (slot, thread.position) :: thread.slots }]
  | .jump next => [thread.goTo next]
  | .split first second => [thread.goTo first, thread.goTo second]
  | .accept => []

/-- One number for a step and a position. -/
def key (subject : Subject) (thread : Thread) : Nat :=
  thread.step * (subject.size + 1) + thread.position

end Thread

abbrev Visited := Std.HashSet Nat

theorem countP_lt_of_imp {list : List Nat} {wide narrow : Nat → Bool} {value : Nat}
    (weaker : ∀ other, narrow other → wide other) (member : value ∈ list)
    (left : wide value) (gone : ¬ narrow value) :
    list.countP narrow < list.countP wide := by
  induction list with
  | nil => cases member
  | cons head tail ih =>
    have bound : tail.countP narrow ≤ tail.countP wide :=
      List.countP_mono_left fun other _ => weaker other
    rcases List.mem_cons.1 member with same | later
    · subst same
      rw [List.countP_cons_of_pos left, List.countP_cons_of_neg gone]
      omega
    · have shrunk := ih later
      by_cases kept : narrow head = true
      · rw [List.countP_cons_of_pos kept, List.countP_cons_of_pos (weaker head kept)]
        omega
      · rw [List.countP_cons_of_neg kept, List.countP_cons]
        omega

/-- How many pairs of a step and a position have not been visited. -/
def unvisited (bound : Nat) (visited : Visited) : Nat :=
  (List.range bound).countP fun key => !visited.contains key

theorem unvisited_insert {bound key : Nat} {visited : Visited}
    (small : key < bound) (fresh : visited.contains key = false) :
    unvisited bound (visited.insert key) < unvisited bound visited := by
  refine countP_lt_of_imp (fun other => ?_) (List.mem_range.2 small) ?_ ?_
  · simp only [Std.HashSet.contains_insert]
    cases visited.contains other <;> simp
  · simp [fresh]
  · simp

def Program.cells (program : Program) (subject : Subject) : Nat :=
  program.size * (subject.size + 1)

/-- Follows the first of the waiting threads that leads to acceptance, and reports what it has
visited. -/
def explore (program : Program) (subject : Subject) (visited : Visited) :
    List Thread → Option Thread × Visited
  | [] => (none, visited)
  | thread :: waiting =>
    let key := thread.key subject
    if fresh : key < program.cells subject ∧ visited.contains key = false then
      have := unvisited_insert fresh.1 fresh.2
      match program[thread.step]? with
      | none => explore program subject (visited.insert key) waiting
      | some .accept => (some thread, visited)
      | some step =>
        explore program subject (visited.insert key) (thread.successors subject step ++ waiting)
    else explore program subject visited waiting
termination_by waiting => (unvisited (program.cells subject) visited, waiting.length)

/-- A match, told by its slots: two for each group, the latest first. -/
structure Match where
  slots : List (Nat × Nat)
  deriving DecidableEq, Repr

namespace Match

def slot? (found : Match) (slot : Nat) : Option Nat :=
  (found.slots.find? (·.1 == slot)).map (·.2)

/-- Where a group of the match begins and ends, if it took part. -/
def group? (found : Match) (index : Nat) : Option (Nat × Nat) := do
  return (← found.slot? (2 * index), ← found.slot? (2 * index + 1))

def start (found : Match) : Nat := (found.slot? 0).getD 0

def stop (found : Match) : Nat := (found.slot? 1).getD 0

end Match

/-- Tries each start from `start` on. What failed from one start fails from a later one too. -/
def searchFrom (program : Program) (subject : Subject) (visited : Visited) (start : Nat) :
    Option Match :=
  match explore program subject visited [⟨0, start, []⟩] with
  | (some thread, _) => some ⟨thread.slots⟩
  | (none, visited) =>
    if start < subject.size then searchFrom program subject visited (start + 1) else none
termination_by subject.size - start

/-- The leftmost match at or after `start`, the preferred one of those that begin there. -/
def search (program : Program) (subject : Subject) (start : Nat) : Option Match :=
  searchFrom program subject ∅ start

/-- All matches from left to right. The search goes on where a match ends, or one place further
if it was empty. -/
def searchAll (program : Program) (subject : Subject) (start : Nat) : List Match :=
  match search program subject start with
  | none => []
  | some found =>
    let next := max found.stop (found.start + 1)
    if start < next ∧ next ≤ subject.size then found :: searchAll program subject next
    else [found]
termination_by subject.size - start

end Checkup.Pattern
