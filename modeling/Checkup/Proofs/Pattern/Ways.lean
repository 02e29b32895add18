import Checkup.Pattern.Search
import Mathlib.Data.List.Basic

/-!
# Ways through a pattern

A node read as the list of all ways through it, the preferred one first, without a program and
without a record of what was visited. It is exact for a node that advances: every turn of a
repetition in it consumes a byte.
-/

namespace Checkup.Pattern

/-- Where a way has come to, with the slots saved on it, the latest first. -/
structure Way where
  position : Nat
  slots : List (Nat × Nat)
  deriving DecidableEq, Repr

namespace Way

def move (way : Way) (length : Nat) : Way := { way with position := way.position + length }

def save (way : Way) (slot : Nat) : Way :=
  { way with slots := (slot, way.position) :: way.slots }

@[simp] theorem move_position (way : Way) (length : Nat) :
    (way.move length).position = way.position + length := rfl

@[simp] theorem move_slots (way : Way) (length : Nat) : (way.move length).slots = way.slots := rfl

@[simp] theorem save_position (way : Way) (slot : Nat) :
    (way.save slot).position = way.position := rfl

@[simp] theorem save_slots (way : Way) (slot : Nat) :
    (way.save slot).slots = (slot, way.position) :: way.slots := rfl

@[simp] theorem move_move (way : Way) (first second : Nat) :
    (way.move first).move second = way.move (first + second) := by
  simp [move, Nat.add_assoc]

theorem move_zero (way : Way) : way.move 0 = way := rfl

end Way

namespace Node

/-- Up to `limit` turns of a body, at least one of them. -/
def turns (body : Way → List Way) (greedy : Bool) : (limit : Nat) → Way → List Way
  | 0, _ => []
  | limit + 1, way =>
      (body way).flatMap fun after =>
        if greedy then turns body greedy limit after ++ [after]
        else after :: turns body greedy limit after

/-- All ways through a node. A repetition has no more turns than there are bytes to come. -/
def ways (subject : Subject) : Node → Way → List Way
  | .empty, way => [way]
  | .byte set, way =>
      match subject[way.position]? with
      | some value => if set.contains value.toNat then [way.move 1] else []
      | none => []
  | .scalar set, way =>
      match subject.charAt? way.position with
      | some (char, length) => if set.contains char.toNat then [way.move length] else []
      | none => []
  | .look assertion, way => if assertion.holds subject way.position then [way] else []
  | .group index inner, way =>
      (inner.ways subject (way.save (2 * index))).map (·.save (2 * index + 1))
  | .concat first second, way => (first.ways subject way).flatMap (second.ways subject)
  | .either first second, way => first.ways subject way ++ second.ways subject way
  | .plus inner greedy, way =>
      turns (inner.ways subject) greedy (subject.size - way.position) way

/-- Every way through the node goes over a byte at least. -/
def Consumes : Node → Prop
  | .empty | .look _ => False
  | .byte _ | .scalar _ => True
  | .group _ inner => inner.Consumes
  | .concat first second => first.Consumes ∨ second.Consumes
  | .either first second => first.Consumes ∧ second.Consumes
  | .plus inner _ => inner.Consumes

/-- Every turn of every repetition in the node goes over a byte at least. -/
def Advances : Node → Prop
  | .empty | .look _ | .byte _ | .scalar _ => True
  | .group _ inner => inner.Advances
  | .concat first second | .either first second => first.Advances ∧ second.Advances
  | .plus inner _ => inner.Consumes ∧ inner.Advances

theorem concat_all_advances {nodes : List Node} (advances : ∀ node ∈ nodes, node.Advances) :
    (concatAll nodes).Advances := by
  induction nodes with
  | nil => trivial
  | cons node rest ih =>
      have first := advances node List.mem_cons_self
      have others := ih fun other member => advances other (List.mem_cons_of_mem _ member)
      cases rest with
      | nil => exact first
      | cons => exact ⟨first, others⟩

theorem concat_all_consumes {nodes : List Node} {node : Node} (member : node ∈ nodes)
    (consumes : node.Consumes) : (concatAll nodes).Consumes := by
  induction nodes with
  | nil => cases member
  | cons first rest ih =>
      cases rest with
      | nil => exact List.mem_singleton.1 member ▸ consumes
      | cons =>
          rcases List.mem_cons.1 member with same | behind
          · exact .inl (same ▸ consumes)
          · exact .inr (ih behind)

end Node

theorem char_at_bounds {subject : Subject} {position : Nat} {char : Char} {length : Nat}
    (found : subject.charAt? position = some (char, length)) :
    0 < length ∧ position + length ≤ subject.size := by
  unfold Subject.charAt? at found
  dsimp only at found
  split at found
  · rename_i read rest scalar
    have shorter := Text.Utf8.head_scalar_length scalar
    have window : (subject.extract position (position + 4)).toList.length ≤
        subject.size - position := by
      rw [Array.length_toList, Array.size_extract]
      omega
    cases found
    omega
  · cases found

namespace Node

variable {subject : Subject}

theorem turns_bounds {body : Way → List Way} {greedy : Bool}
    (sound : ∀ way after, way.position ≤ subject.size → after ∈ body way →
      way.position ≤ after.position ∧ after.position ≤ subject.size)
    (limit : Nat) (way after : Way) (inside : way.position ≤ subject.size)
    (member : after ∈ turns body greedy limit way) :
    ∃ first ∈ body way, first.position ≤ after.position ∧ after.position ≤ subject.size := by
  induction limit generalizing way with
  | zero => cases member
  | succ limit ih =>
      obtain ⟨first, turned, member⟩ := List.mem_flatMap.1 member
      have bounds := sound way first inside turned
      refine ⟨first, turned, ?_⟩
      have cases : after ∈ turns body greedy limit first ∨ after = first := by
        cases greedy <;> simp at member <;> tauto
      rcases cases with later | same
      · obtain ⟨second, again, low, high⟩ := ih first bounds.2 later
        exact ⟨Nat.le_trans (sound first second bounds.2 again).1 low, high⟩
      · exact ⟨Nat.le_of_eq (congrArg Way.position same.symm), same ▸ bounds.2⟩

/-- A way never goes back or beyond the subject. -/
theorem ways_bounds (node : Node) (way after : Way) (inside : way.position ≤ subject.size)
    (member : after ∈ node.ways subject way) :
    way.position ≤ after.position ∧ after.position ≤ subject.size := by
  induction node generalizing way after with
  | empty =>
      rw [List.mem_singleton.1 member]
      exact ⟨Nat.le_refl _, inside⟩
  | byte set =>
      simp only [ways] at member
      split at member
      · rename_i value found
        obtain ⟨short, _⟩ := Array.getElem?_eq_some_iff.1 found
        split at member
        · rw [List.mem_singleton.1 member]
          exact ⟨Nat.le_add_right _ _, short⟩
        · cases member
      · cases member
  | scalar set =>
      simp only [ways] at member
      split at member
      · rename_i char length found
        have bounds := char_at_bounds found
        split at member
        · rw [List.mem_singleton.1 member]
          exact ⟨Nat.le_add_right _ _, bounds.2⟩
        · cases member
      · cases member
  | look assertion =>
      simp only [ways] at member
      split at member
      · rw [List.mem_singleton.1 member]
        exact ⟨Nat.le_refl _, inside⟩
      · cases member
  | group index inner ih =>
      obtain ⟨left, through, same⟩ := List.mem_map.1 member
      rw [← same]
      exact ih (way.save (2 * index)) left inside through
  | concat first second left right =>
      obtain ⟨middle, through, onward⟩ := List.mem_flatMap.1 member
      have before := left way middle inside through
      have behind := right middle after before.2 onward
      exact ⟨Nat.le_trans before.1 behind.1, behind.2⟩
  | either first second left right =>
      rcases List.mem_append.1 member with one | other
      · exact left way after inside one
      · exact right way after inside other
  | plus inner greedy ih =>
      obtain ⟨first, turned, low, high⟩ := turns_bounds ih _ way after inside member
      exact ⟨Nat.le_trans (ih way first inside turned).1 low, high⟩

theorem ways_consume (node : Node) (consumes : node.Consumes) (way after : Way)
    (inside : way.position ≤ subject.size) (member : after ∈ node.ways subject way) :
    way.position < after.position := by
  induction node generalizing way after with
  | empty => cases consumes
  | look => cases consumes
  | byte set =>
      simp only [ways] at member
      split at member
      · split at member
        · rw [List.mem_singleton.1 member]
          exact Nat.lt_succ_self _
        · cases member
      · cases member
  | scalar set =>
      simp only [ways] at member
      split at member
      · rename_i char length found
        have bounds := char_at_bounds found
        split at member
        · rw [List.mem_singleton.1 member]
          exact Nat.lt_add_of_pos_right bounds.1
        · cases member
      · cases member
  | group index inner ih =>
      obtain ⟨left, through, same⟩ := List.mem_map.1 member
      rw [← same]
      exact ih consumes (way.save (2 * index)) left inside through
  | concat first second left right =>
      obtain ⟨middle, through, onward⟩ := List.mem_flatMap.1 member
      have before := ways_bounds first way middle inside through
      have behind := ways_bounds second middle after before.2 onward
      rcases consumes with early | late
      · exact Nat.lt_of_lt_of_le (left early way middle inside through) behind.1
      · exact Nat.lt_of_le_of_lt before.1 (right late middle after before.2 onward)
  | either first second left right =>
      rcases List.mem_append.1 member with one | other
      · exact left consumes.1 way after inside one
      · exact right consumes.2 way after inside other
  | plus inner greedy ih =>
      obtain ⟨first, turned, low, _⟩ := turns_bounds (ways_bounds inner) _ way after inside member
      exact Nat.lt_of_lt_of_le (ih consumes way first inside turned) low

/-- The body moves on and stays inside of the subject. -/
def Onward (subject : Subject) (body : Way → List Way) : Prop :=
  ∀ way after, way.position ≤ subject.size → after ∈ body way →
    way.position < after.position ∧ after.position ≤ subject.size

theorem onward_ways {node : Node} (consumes : node.Consumes) :
    Onward subject (node.ways subject) := by
  intro way after inside member
  exact ⟨ways_consume node consumes way after inside member,
    (ways_bounds node way after inside member).2⟩

theorem onward_none_at_end {body : Way → List Way} (onward : Onward subject body) {way : Way}
    (inside : way.position ≤ subject.size) (last : subject.size - way.position = 0) :
    body way = [] := by
  apply List.eq_nil_iff_forall_not_mem.2
  intro after member
  have bounds := onward way after inside member
  omega

/-- More turns than there are bytes to come add nothing. -/
theorem turns_enough {body : Way → List Way} {greedy : Bool} (onward : Onward subject body)
    (limit other : Nat) (way : Way) (inside : way.position ≤ subject.size)
    (enough : subject.size - way.position ≤ limit)
    (plenty : subject.size - way.position ≤ other) :
    turns body greedy limit way = turns body greedy other way := by
  induction limit generalizing other way with
  | zero =>
      cases other with
      | zero => rfl
      | succ other =>
          rw [turns, turns, onward_none_at_end onward inside (Nat.le_zero.1 enough)]
          rfl
  | succ limit ih =>
      cases other with
      | zero =>
          rw [turns, turns, onward_none_at_end onward inside (Nat.le_zero.1 plenty)]
          rfl
      | succ other =>
          rw [turns, turns]
          apply List.flatMap_congr
          intro after member
          have bounds := onward way after inside member
          rw [ih other after bounds.2 (by omega) (by omega)]

/-- A repetition is one turn and then, if it is greedy, rather more turns than none. -/
theorem ways_plus {inner : Node} {greedy : Bool} (consumes : inner.Consumes) (way : Way)
    (inside : way.position ≤ subject.size) :
    (plus inner greedy).ways subject way =
      (inner.ways subject way).flatMap fun after =>
        if greedy then (plus inner greedy).ways subject after ++ [after]
        else after :: (plus inner greedy).ways subject after := by
  have onward : Onward subject (inner.ways subject) := onward_ways consumes
  have one_more : (plus inner greedy).ways subject way =
      turns (inner.ways subject) greedy (subject.size - way.position + 1) way :=
    turns_enough onward _ _ way inside (Nat.le_refl _) (Nat.le_succ _)
  rw [one_more, turns]
  apply List.flatMap_congr
  intro after member
  have bounds := onward way after inside member
  have rest : turns (inner.ways subject) greedy (subject.size - way.position) after =
      (plus inner greedy).ways subject after :=
    turns_enough onward _ _ after bounds.2 (by omega) (Nat.le_refl _)
  rw [rest]

end Node

end Checkup.Pattern
