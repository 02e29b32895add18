import Checkup.Proofs.Pattern.Explore

/-!
# Programs follow the ways of their nodes

The steps that a node is laid out as try its ways in their order: what the ways come to behind the
node, a thread at the first step of the node comes to as well.
-/

namespace Checkup.Pattern

variable {program : Program} {subject : Subject}

/-! ## Lists of threads -/

theorem finds_append {count : Nat} {threads others : List Thread} {found : Thread}
    (finds : Finds program subject count (threads ++ others) found) :
    Finds program subject count threads found ∨
      (∀ thread ∈ threads, Dead program subject thread) ∧
        Finds program subject count others found := by
  induction threads with
  | nil => exact .inr ⟨List.forall_mem_nil _, finds⟩
  | cons thread rest ih =>
      cases finds with
      | skip dead later =>
          rcases ih later with early | ⟨restDead, late⟩
          · exact .inl (.skip dead early)
          · exact .inr ⟨List.forall_mem_cons.2 ⟨dead, restDead⟩, late⟩
      | here accepts => exact .inl (.here accepts)
      | turn present refuses onward => exact .inl (.turn present refuses onward)

theorem finds_behind_dead {count : Nat} {threads others : List Thread} {found : Thread}
    (dead : ∀ thread ∈ threads, Dead program subject thread)
    (finds : Finds program subject count others found) :
    Finds program subject count (threads ++ others) found := by
  induction threads with
  | nil => exact finds
  | cons thread rest ih =>
      have split := List.forall_mem_cons.1 dead
      exact .skip split.1 (ih split.2)

/-- What waits at the back may be exchanged for what comes to the same. -/
theorem yields_exchange {threads others replacement : List Thread} {outcome : Option Thread}
    (yields : Yields program subject (threads ++ others) outcome)
    (exchange : ∀ result, Yields program subject others result →
      Yields program subject replacement result) :
    Yields program subject (threads ++ replacement) outcome := by
  cases outcome with
  | none =>
      intro thread member
      rcases List.mem_append.1 member with early | late
      · exact yields thread (List.mem_append_left _ early)
      · exact exchange none (fun other among => yields other (List.mem_append_right _ among))
          thread late
  | some found =>
      obtain ⟨count, finds⟩ := yields
      rcases finds_append finds with early | ⟨dead, late⟩
      · exact ⟨count, early.append_right replacement⟩
      · obtain ⟨count', replaced⟩ := exchange (some found) ⟨count, late⟩
        exact ⟨count', finds_behind_dead dead replaced⟩

/-- A thread comes to what its successors come to. -/
theorem yields_turn {thread : Thread} {step : Step} {waiting : List Thread}
    {outcome : Option Thread} (present : program[thread.step]? = some step)
    (refuses : step ≠ .accept)
    (yields : Yields program subject (thread.successors subject step ++ waiting) outcome) :
    Yields program subject (thread :: waiting) outcome := by
  cases outcome with
  | none =>
      refine List.forall_mem_cons.2 ⟨.turn present refuses ?_, ?_⟩
      · exact fun next member => yields next (List.mem_append_left _ member)
      · exact fun other member => yields other (List.mem_append_right _ member)
  | some found =>
      obtain ⟨count, finds⟩ := yields
      rcases finds_append finds with onward | ⟨dead, later⟩
      · exact ⟨count + 1, .turn present refuses onward⟩
      · exact ⟨count, .skip (.turn present refuses dead) later⟩

/-! ## Steps in a program -/

/-- The steps stand in the program, the first of them at `start`. -/
def Laid (program : Program) (start : Nat) (steps : List Step) : Prop :=
  ∀ index step, steps[index]? = some step → program[start + index]? = some step

theorem Laid.head {start : Nat} {step : Step} {rest : List Step}
    (laid : Laid program start (step :: rest)) : program[start]? = some step :=
  laid 0 step rfl

theorem Laid.tail {start : Nat} {step : Step} {rest : List Step}
    (laid : Laid program start (step :: rest)) : Laid program (start + 1) rest := by
  intro index found present
  have later := laid (index + 1) found present
  rwa [Nat.add_assoc, Nat.add_comm 1]

theorem Laid.left {start : Nat} {front back : List Step}
    (laid : Laid program start (front ++ back)) : Laid program start front := by
  intro index found present
  apply laid index found
  obtain ⟨short, _⟩ := List.getElem?_eq_some_iff.1 present
  rw [List.getElem?_append_left short, present]

theorem Laid.right {start : Nat} {front back : List Step}
    (laid : Laid program start (front ++ back)) : Laid program (start + front.length) back := by
  intro index found present
  have later := laid (front.length + index) found
    (by rw [List.getElem?_append_right (Nat.le_add_right _ _), Nat.add_sub_cancel_left, present])
  rwa [Nat.add_assoc]

/-! ## Nodes in a program -/

/-- The thread that stands at a step with what the way brought along. -/
def Way.thread (way : Way) (step : Nat) : Thread := ⟨step, way.position, way.slots⟩

/-- The thread of a way at `start` comes to what the ways onward come to at `next`. -/
def Leads (program : Program) (subject : Subject) (onward : Way → List Way) (start next : Nat)
    (way : Way) : Prop :=
  ∀ (waiting : List Thread) (outcome : Option Thread),
    Yields program subject ((onward way).map (·.thread next) ++ waiting) outcome →
    Yields program subject (way.thread start :: waiting) outcome

theorem leads_each {onward : Way → List Way} {start next : Nat} {entries : List Way}
    (leads : ∀ way ∈ entries, Leads program subject onward start next way)
    (waiting : List Thread) (outcome : Option Thread)
    (yields : Yields program subject
      ((entries.flatMap onward).map (·.thread next) ++ waiting) outcome) :
    Yields program subject (entries.map (·.thread start) ++ waiting) outcome := by
  induction entries generalizing outcome with
  | nil => exact yields
  | cons way rest ih =>
      have split := List.forall_mem_cons.1 leads
      rw [List.flatMap_cons, List.map_append, List.append_assoc] at yields
      exact split.1 _ outcome (yields_exchange yields fun result => ih split.2 result)

/-- A step that goes on to one place only. -/
theorem leads_step {onward : Way → List Way} {start next : Nat} {way : Way} {step : Step}
    (present : program[start]? = some step) (refuses : step ≠ .accept)
    (successors : (way.thread start).successors subject step =
      (onward way).map (·.thread next)) :
    Leads program subject onward start next way := by
  intro waiting outcome yields
  rw [← successors] at yields
  exact yields_turn present refuses yields

/-- Behind a turn of a repetition the way goes round again or leaves, as greed has it. -/
theorem leads_choice {again : Way → List Way} {greedy : Bool} {start last next : Nat} {after : Way}
    (present : program[last]? = some (Step.choice greedy start next))
    (leads : Leads program subject again start next after) :
    Leads program subject
      (fun after => if greedy then again after ++ [after] else after :: again after)
      last next after := by
  intro waiting outcome yields
  cases greedy with
  | true =>
      simp only [if_true, List.map_append, List.append_assoc] at yields
      exact yields_turn present (by simp [Step.choice]) (leads _ outcome yields)
  | false =>
      have later : Yields program subject
          ([after.thread next] ++ ((again after).map (·.thread next) ++ waiting)) outcome := yields
      have exchanged := yields_exchange later fun result => leads waiting result
      exact yields_turn present (by simp [Step.choice]) exchanged

theorem leads_plus {inner : Node} {greedy : Bool} (consumes : inner.Consumes) {start next : Nat}
    (enters : ∀ way, way.position ≤ subject.size →
      Leads program subject (inner.ways subject) start (start + inner.size) way)
    (loops : program[start + inner.size]? = some (Step.choice greedy start next))
    (way : Way) (inside : way.position ≤ subject.size) :
    Leads program subject ((Node.plus inner greedy).ways subject) start next way := by
  -- Each turn leaves fewer bytes to come.
  induction remaining : subject.size - way.position using Nat.strongRecOn
    generalizing way with
  | _ remaining ih =>
      intro waiting outcome yields
      rw [Node.ways_plus consumes way inside] at yields
      refine enters way inside waiting outcome (leads_each ?_ waiting outcome yields)
      intro after member
      have bounds := Node.onward_ways consumes way after inside member
      exact leads_choice loops (ih _ (by omega) after bounds.2 rfl)

theorem leads_of_laid (node : Node) (advances : node.Advances) (start next : Nat)
    (laid : Laid program start (node.steps start next)) (way : Way)
    (inside : way.position ≤ subject.size) :
    Leads program subject (node.ways subject) start next way := by
  induction node generalizing start next way with
  | empty => exact leads_step laid.head (by simp) rfl
  | byte set =>
      apply leads_step laid.head (by simp)
      rcases found : subject[way.position]? with _ | value
      · simp [Thread.successors, Node.ways, Way.thread, found]
      · by_cases member : set.contains value.toNat = true <;>
          simp [Thread.successors, Node.ways, Way.thread, Thread.advance, found, member]
  | scalar set =>
      apply leads_step laid.head (by simp)
      rcases found : subject.charAt? way.position with _ | ⟨char, length⟩
      · simp [Thread.successors, Node.ways, Way.thread, found]
      · by_cases member : set.contains char.toNat = true <;>
          simp [Thread.successors, Node.ways, Way.thread, Thread.advance, found, member]
  | look assertion =>
      apply leads_step laid.head (by simp)
      by_cases holds : assertion.holds subject way.position = true <;>
        simp [Thread.successors, Node.ways, Way.thread, Thread.goTo, holds]
  | group index inner ih =>
      have close := laid.tail.right.head
      rw [Node.length_steps] at close
      intro waiting outcome yields
      have entered := ih advances (start + 1) (start + 1 + inner.size) laid.tail.left
        (way.save (2 * index)) inside waiting outcome
      refine yields_turn laid.head (by simp) (entered ?_)
      have closed : ∀ after ∈ inner.ways subject (way.save (2 * index)),
          Leads program subject (fun after => [after.save (2 * index + 1)])
            (start + 1 + inner.size) next after := by
        intro after _
        exact leads_step close (by simp) rfl
      apply leads_each closed waiting outcome
      rw [← List.map_eq_flatMap]
      exact yields
  | concat first second left right =>
      have behind := laid.right
      rw [Node.length_steps] at behind
      intro waiting outcome yields
      apply left advances.1 start (start + first.size) laid.left way inside waiting outcome
      refine leads_each (fun middle member => ?_) waiting outcome yields
      exact right advances.2 _ next behind middle
        (Node.ways_bounds first way middle inside member).2
  | either first second left right =>
      have behind := laid.tail.right
      rw [Node.length_steps] at behind
      intro waiting outcome yields
      rw [Node.ways, List.map_append, List.append_assoc] at yields
      have exchanged := yields_exchange yields fun result =>
        right advances.2 _ next behind way inside waiting result
      exact yields_turn laid.head (by simp)
        (left advances.1 _ next laid.tail.left way inside _ outcome exchanged)
  | plus inner greedy ih =>
      have loops := laid.right.head
      rw [Node.length_steps] at loops
      exact leads_plus advances.1
        (ih advances.2 start (start + inner.size) laid.left) loops way inside

end Checkup.Pattern
