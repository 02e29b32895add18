import Checkup.Pattern.Node

/-!
# Pattern programs

A node is laid out as a run of steps that is entered at its first step and left through a step
outside of it.
-/

namespace Checkup.Pattern

inductive Step where
  | byte (set : Ranges) (next : Nat)
  | scalar (set : Ranges) (next : Nat)
  | look (assertion : Look) (next : Nat)
  | save (slot : Nat) (next : Nat)
  | jump (next : Nat)
  | split (first second : Nat)
  | accept
  deriving DecidableEq, Repr

/-- A choice between two places, the preferred one first. -/
def Step.choice (greedy : Bool) (onward away : Nat) : Step :=
  if greedy then .split onward away else .split away onward

namespace Node

/-- How many steps the node takes. -/
def size : Node → Nat
  | .empty | .byte _ | .scalar _ | .look _ => 1
  | .group _ inner => inner.size + 2
  | .concat first second => first.size + second.size
  | .either first second => first.size + second.size + 1
  | .plus inner _ => inner.size + 1

/-- The steps of the node when its first one stands at `start` and it is left through `next`. -/
def steps : Node → (start next : Nat) → List Step
  | .empty, _, next => [.jump next]
  | .byte set, _, next => [.byte set next]
  | .scalar set, _, next => [.scalar set next]
  | .look assertion, _, next => [.look assertion next]
  | .group index inner, start, next =>
    let last := start + 1 + inner.size
    .save (2 * index) (start + 1) :: inner.steps (start + 1) last ++ [.save (2 * index + 1) next]
  | .concat first second, start, next =>
    let middle := start + first.size
    first.steps start middle ++ second.steps middle next
  | .either first second, start, next =>
    let other := start + 1 + first.size
    .split (start + 1) other :: first.steps (start + 1) next ++ second.steps other next
  | .plus inner greedy, start, next =>
    let last := start + inner.size
    inner.steps start last ++ [Step.choice greedy start next]

theorem length_steps (node : Node) (start next : Nat) :
    (node.steps start next).length = node.size := by
  induction node generalizing start next with
  | empty | byte | scalar | look => rfl
  | group _ _ ih => simp [steps, size, ih]
  | concat _ _ left right => simp [steps, size, left, right]
  | either _ _ left right => simp [steps, size, left, right]
  | plus _ _ ih => simp [steps, size, ih]

end Node

abbrev Program := Array Step

/-- The whole match is group zero. -/
def Program.ofNode (node : Node) : Program :=
  let whole := Node.group 0 node
  (whole.steps 0 whole.size ++ [Step.accept]).toArray

end Checkup.Pattern
