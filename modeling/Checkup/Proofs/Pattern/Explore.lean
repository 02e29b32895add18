import Checkup.Proofs.Pattern.Ways

/-!
# Exploring with a memory

The search never enters a pair of a step and a position twice. That loses nothing: a pair that was
entered before either leads nowhere or lies on the way that is being followed, and on a way that
ends in acceptance no pair comes back.
-/

namespace Checkup.Pattern

variable {program : Program} {subject : Subject}

/-! ## Where threads lead -/

/-- What the search remembers of a thread. -/
def Thread.pair (thread : Thread) : Nat × Nat := (thread.step, thread.position)

theorem pair_eq_iff {thread other : Thread} :
    thread.pair = other.pair ↔ thread.step = other.step ∧ thread.position = other.position := by
  simp [Thread.pair]

/-- Nothing that the thread can reach accepts. -/
inductive Dead (program : Program) (subject : Subject) : Thread → Prop
  | stuck {thread : Thread} (missing : program[thread.step]? = none) : Dead program subject thread
  | turn {thread : Thread} {step : Step} (present : program[thread.step]? = some step)
      (refuses : step ≠ .accept)
      (deadEnds : ∀ next ∈ thread.successors subject step, Dead program subject next) :
      Dead program subject thread

/-- The first of the threads that is not dead leads to the found one in so many steps. -/
inductive Finds (program : Program) (subject : Subject) :
    (count : Nat) → List Thread → (found : Thread) → Prop
  | skip {count : Nat} {thread found : Thread} {waiting : List Thread}
      (dead : Dead program subject thread) (later : Finds program subject count waiting found) :
      Finds program subject count (thread :: waiting) found
  | here {thread : Thread} {waiting : List Thread}
      (accepts : program[thread.step]? = some .accept) :
      Finds program subject 0 (thread :: waiting) thread
  | turn {count : Nat} {thread found : Thread} {waiting : List Thread} {step : Step}
      (present : program[thread.step]? = some step) (refuses : step ≠ .accept)
      (onward : Finds program subject count (thread.successors subject step) found) :
      Finds program subject (count + 1) (thread :: waiting) found

theorem successors_pairs {thread other : Thread} (same : thread.pair = other.pair) (step : Step) :
    (thread.successors subject step).map Thread.pair =
      (other.successors subject step).map Thread.pair := by
  have positions : thread.position = other.position := (pair_eq_iff.1 same).2
  cases step with
  | accept => rfl
  | jump | save | split => simp [Thread.successors, Thread.goTo, Thread.pair, positions]
  | byte | scalar | look =>
      simp only [Thread.successors, positions]
      repeat' split
      all_goals simp [Thread.goTo, Thread.advance, Thread.pair, positions]

namespace Dead

theorem successors_dead {thread : Thread} (dead : Dead program subject thread) {step : Step}
    (present : program[thread.step]? = some step) :
    ∀ next ∈ thread.successors subject step, Dead program subject next := by
  cases dead with
  | stuck missing => simp [present] at missing
  | turn present' _ deadEnds =>
      cases Option.some.inj (present.symm.trans present')
      exact deadEnds

theorem not_accepting {thread : Thread} (dead : Dead program subject thread) :
    program[thread.step]? ≠ some .accept := by
  intro accepts
  cases dead with
  | stuck missing => simp [accepts] at missing
  | turn present refuses _ => exact refuses (Option.some.inj (present.symm.trans accepts))

/-- Slots do not matter to whether a thread is dead. -/
theorem of_pair {thread other : Thread} (dead : Dead program subject thread)
    (same : thread.pair = other.pair) : Dead program subject other := by
  induction dead generalizing other with
  | stuck missing =>
      rw [(pair_eq_iff.1 same).1] at missing
      exact .stuck missing
  | turn present refuses _ ih =>
      rw [(pair_eq_iff.1 same).1] at present
      refine .turn present refuses ?_
      intro next member
      have paired := List.mem_map_of_mem (f := Thread.pair) member
      rw [← successors_pairs same] at paired
      obtain ⟨twin, among, equal⟩ := List.mem_map.1 paired
      exact ih twin among equal

end Dead

namespace Finds

theorem not_all_dead {count : Nat} {threads : List Thread} {found : Thread}
    (finds : Finds program subject count threads found) :
    ¬ ∀ thread ∈ threads, Dead program subject thread := by
  intro dead
  induction finds with
  | skip _ _ ih => exact ih fun thread member => dead thread (List.mem_cons_of_mem _ member)
  | here accepts => exact (dead _ List.mem_cons_self).not_accepting accepts
  | turn present _ _ ih => exact ih ((dead _ List.mem_cons_self).successors_dead present)

/-- How long the way to acceptance is depends on pairs alone. -/
theorem count_of_pairs {count other : Nat} {threads twins : List Thread} {found found' : Thread}
    (finds : Finds program subject count threads found)
    (finds' : Finds program subject other twins found')
    (same : threads.map Thread.pair = twins.map Thread.pair) : count = other := by
  induction finds generalizing other twins found' with
  | skip dead _ ih =>
      cases finds' with
      | skip _ later =>
          exact ih later (List.cons.inj same).2
      | here accepts =>
          exact absurd accepts (dead.of_pair (List.cons.inj same).1).not_accepting
      | turn present refuses onward =>
          have deadEnds := (dead.of_pair (List.cons.inj same).1).successors_dead present
          exact absurd deadEnds onward.not_all_dead
  | here accepts =>
      cases finds' with
      | skip dead _ =>
          exact absurd accepts (dead.of_pair (List.cons.inj same).1.symm).not_accepting
      | here _ => rfl
      | turn present refuses _ =>
          rw [← (pair_eq_iff.1 (List.cons.inj same).1).1, accepts] at present
          exact absurd (Option.some.inj present).symm refuses
  | turn present refuses onward ih =>
      cases finds' with
      | skip dead _ =>
          have deadEnds :=
            (dead.of_pair (List.cons.inj same).1.symm).successors_dead present
          exact absurd deadEnds onward.not_all_dead
      | here accepts =>
          rw [← (pair_eq_iff.1 (List.cons.inj same).1).1, present] at accepts
          exact absurd (Option.some.inj accepts) refuses
      | turn present' _ onward' =>
          rw [← (pair_eq_iff.1 (List.cons.inj same).1).1, present] at present'
          cases present'
          rw [ih onward' (successors_pairs (List.cons.inj same).1 _)]

theorem append_right {count : Nat} {threads : List Thread} {found : Thread}
    (finds : Finds program subject count threads found) (more : List Thread) :
    Finds program subject count (threads ++ more) found := by
  induction finds with
  | skip dead _ ih => exact .skip dead ih
  | here accepts => exact .here accepts
  | turn present refuses onward _ => exact .turn present refuses onward

end Finds

/-! ## What the search remembers -/

/-- A pair without acceptance ahead of it, told by its number. -/
def DeadKey (program : Program) (subject : Subject) (key : Nat) : Prop :=
  ∃ thread : Thread, thread.position ≤ subject.size ∧ thread.key subject = key ∧
    Dead program subject thread

/-- A pair with acceptance ahead of it, but more than `count` steps ahead. -/
def FarKey (program : Program) (subject : Subject) (count key : Nat) : Prop :=
  ∃ (thread found : Thread) (further : Nat), thread.position ≤ subject.size ∧
    thread.key subject = key ∧ count < further ∧ Finds program subject further [thread] found

theorem key_injective {thread other : Thread} (inside : thread.position ≤ subject.size)
    (inside' : other.position ≤ subject.size) (same : thread.key subject = other.key subject) :
    thread.pair = other.pair := by
  have width : 0 < subject.size + 1 := Nat.succ_pos _
  have small : thread.position < subject.size + 1 := Nat.lt_succ_of_le inside
  have small' : other.position < subject.size + 1 := Nat.lt_succ_of_le inside'
  simp only [Thread.key] at same
  have steps : thread.step = other.step := by
    have quotients := congrArg (· / (subject.size + 1)) same
    simpa [Nat.add_comm, Nat.add_mul_div_right, width, Nat.div_eq_of_lt small,
      Nat.div_eq_of_lt small'] using quotients
  refine pair_eq_iff.2 ⟨steps, ?_⟩
  rw [steps] at same
  omega

theorem key_lt_cells_iff {thread : Thread} (inside : thread.position ≤ subject.size) :
    thread.key subject < program.cells subject ↔ thread.step < program.size := by
  have small : thread.position < subject.size + 1 := Nat.lt_succ_of_le inside
  simp only [Thread.key, Program.cells]
  constructor
  · intro below
    by_contra outside
    have wide : program.size * (subject.size + 1) ≤ thread.step * (subject.size + 1) :=
      Nat.mul_le_mul_right _ (Nat.le_of_not_lt outside)
    omega
  · intro below
    have wide : (thread.step + 1) * (subject.size + 1) ≤ program.size * (subject.size + 1) :=
      Nat.mul_le_mul_right _ below
    rw [Nat.add_mul] at wide
    omega

theorem successors_inside {thread : Thread} (inside : thread.position ≤ subject.size)
    (step : Step) :
    ∀ next ∈ thread.successors subject step, next.position ≤ subject.size := by
  intro next member
  cases step with
  | accept => cases member
  | jump | save =>
      rw [List.mem_singleton.1 member]
      exact inside
  | split first second =>
      rcases List.mem_cons.1 member with left | right
      · rw [left]
        exact inside
      · rw [List.mem_singleton.1 right]
        exact inside
  | byte set target =>
      simp only [Thread.successors] at member
      split at member
      · rename_i value found
        obtain ⟨short, _⟩ := Array.getElem?_eq_some_iff.1 found
        split at member
        · rw [List.mem_singleton.1 member]
          exact short
        · cases member
      · cases member
  | scalar set target =>
      simp only [Thread.successors] at member
      split at member
      · rename_i char length found
        split at member
        · rw [List.mem_singleton.1 member]
          exact (char_at_bounds found).2
        · cases member
      · cases member
  | look assertion target =>
      simp only [Thread.successors] at member
      split at member
      · rw [List.mem_singleton.1 member]
        exact inside
      · cases member

section Explore

variable {visited : Visited} {thread : Thread} {waiting : List Thread}

theorem explore_stale
    (stale : ¬ (thread.key subject < program.cells subject ∧
      visited.contains (thread.key subject) = false)) :
    explore program subject visited (thread :: waiting) =
      explore program subject visited waiting := by
  rw [explore, dif_neg stale]

theorem explore_accept
    (fresh : thread.key subject < program.cells subject ∧
      visited.contains (thread.key subject) = false)
    (accepts : program[thread.step]? = some .accept) :
    explore program subject visited (thread :: waiting) = (some thread, visited) := by
  rw [explore, dif_pos fresh, accepts]

theorem explore_turn
    (fresh : thread.key subject < program.cells subject ∧
      visited.contains (thread.key subject) = false)
    {step : Step} (present : program[thread.step]? = some step) (refuses : step ≠ .accept) :
    explore program subject visited (thread :: waiting) =
      explore program subject (visited.insert (thread.key subject))
        (thread.successors subject step ++ waiting) := by
  rw [explore, dif_pos fresh, present]
  cases step <;> first | rfl | exact absurd rfl refuses

end Explore

/-- A thread is passed over when the search leaves it for what waits behind it, and remembers no
more than dead pairs for it. -/
def PassedOver (program : Program) (subject : Subject) (threads : List Thread) : Prop :=
  ∀ (visited : Visited) (waiting : List Thread), ∃ after : Visited,
    explore program subject visited (threads ++ waiting) = explore program subject after waiting ∧
      ∀ key, after.contains key → visited.contains key ∨ DeadKey program subject key

theorem passed_over_each {threads : List Thread}
    (each : ∀ thread ∈ threads, PassedOver program subject [thread]) :
    PassedOver program subject threads := by
  induction threads with
  | nil => exact fun visited waiting => ⟨visited, rfl, fun key known => .inl known⟩
  | cons thread rest ih =>
      intro visited waiting
      obtain ⟨middle, first, known⟩ := each thread List.mem_cons_self visited (rest ++ waiting)
      obtain ⟨after, others, known'⟩ :=
        ih (fun other member => each other (List.mem_cons_of_mem _ member)) middle waiting
      refine ⟨after, first.trans others, fun key member => ?_⟩
      rcases known' key member with early | dead
      · exact known key early
      · exact .inr dead

theorem dead_passed_over {thread : Thread} (dead : Dead program subject thread)
    (inside : thread.position ≤ subject.size) : PassedOver program subject [thread] := by
  induction dead with
  | @stuck thread missing =>
      intro visited waiting
      refine ⟨visited, explore_stale ?_, fun key known => .inl known⟩
      rw [key_lt_cells_iff inside]
      intro fresh
      rw [Array.getElem?_eq_none_iff] at missing
      omega
  | @turn thread step present refuses deadEnds ih =>
      intro visited waiting
      by_cases fresh : thread.key subject < program.cells subject ∧
          visited.contains (thread.key subject) = false
      · have successors : PassedOver program subject (thread.successors subject step) :=
          passed_over_each fun next member =>
            ih next member (successors_inside inside step next member)
        obtain ⟨after, explored, known⟩ :=
          successors (visited.insert (thread.key subject)) waiting
        refine ⟨after, (explore_turn fresh present refuses).trans explored, ?_⟩
        intro key member
        rcases known key member with early | dead
        · rw [Std.HashSet.contains_insert, Bool.or_eq_true, beq_iff_eq] at early
          rcases early with own | older
          · exact .inr ⟨thread, inside, own, .turn present refuses deadEnds⟩
          · exact .inl older
        · exact .inr dead
      · exact ⟨visited, explore_stale fresh, fun key known => .inl known⟩

/-- The pair of a thread on the way to acceptance is not among those remembered. -/
theorem finds_fresh {count : Nat} {thread found : Thread} {visited : Visited}
    (finds : Finds program subject count [thread] found)
    (inside : thread.position ≤ subject.size)
    (known : ∀ key, visited.contains key →
      DeadKey program subject key ∨ FarKey program subject count key) :
    visited.contains (thread.key subject) = false := by
  by_contra remembered
  rw [Bool.not_eq_false] at remembered
  rcases known _ remembered with
    ⟨other, within, same, dead⟩ | ⟨other, _, further, within, same, far, finds'⟩
  · have deadThread := dead.of_pair (key_injective within inside same)
    apply finds.not_all_dead
    intro own member
    rw [List.mem_singleton.1 member]
    exact deadThread
  · have pairs : [other].map Thread.pair = [thread].map Thread.pair := by
      simp [key_injective within inside same]
    have equal := finds'.count_of_pairs finds pairs
    omega

theorem explore_finds {count : Nat} {threads : List Thread} {found : Thread}
    (finds : Finds program subject count threads found)
    (inside : ∀ thread ∈ threads, thread.position ≤ subject.size) (visited : Visited)
    (known : ∀ key, visited.contains key →
      DeadKey program subject key ∨ FarKey program subject count key)
    (waiting : List Thread) :
    (explore program subject visited (threads ++ waiting)).1 = some found := by
  induction finds generalizing visited waiting with
  | @skip count thread found rest dead later ih =>
      obtain ⟨after, explored, remembered⟩ :=
        dead_passed_over dead (inside thread List.mem_cons_self) visited (rest ++ waiting)
      have passed : explore program subject visited (thread :: rest ++ waiting) =
          explore program subject after (rest ++ waiting) := explored
      rw [passed]
      refine ih (fun other member => inside other (List.mem_cons_of_mem _ member)) after ?_ waiting
      intro key member
      rcases remembered key member with early | deadKey
      · exact known key early
      · exact .inl deadKey
  | @here thread rest accepts =>
      have within := inside thread List.mem_cons_self
      obtain ⟨small, _⟩ := Array.getElem?_eq_some_iff.1 accepts
      have fresh := finds_fresh (.here accepts) within known
      rw [List.cons_append, explore_accept ⟨(key_lt_cells_iff within).2 small, fresh⟩ accepts]
  | @turn count thread found rest step present refuses onward ih =>
      have within := inside thread List.mem_cons_self
      obtain ⟨small, _⟩ := Array.getElem?_eq_some_iff.1 present
      have own : Finds program subject (count + 1) [thread] found := .turn present refuses onward
      have fresh := finds_fresh own within known
      rw [List.cons_append,
        explore_turn ⟨(key_lt_cells_iff within).2 small, fresh⟩ present refuses]
      refine ih (successors_inside within step) (visited.insert (thread.key subject)) ?_ _
      intro key member
      rw [Std.HashSet.contains_insert, Bool.or_eq_true, beq_iff_eq] at member
      rcases member with here | older
      · exact .inr ⟨thread, found, count + 1, within, here, Nat.lt_succ_self _, own⟩
      · rcases known key older with deadKey | ⟨other, target, further, side, same, far, finds'⟩
        · exact .inl deadKey
        · exact .inr ⟨other, target, further, side, same, Nat.lt_of_succ_lt far, finds'⟩

/-! ## The outcome of a search -/

/-- What the threads come to, tried one after the other without a memory. -/
def Yields (program : Program) (subject : Subject) (threads : List Thread) : Option Thread → Prop
  | none => ∀ thread ∈ threads, Dead program subject thread
  | some found => ∃ count, Finds program subject count threads found

/-- With a memory of dead pairs the search comes to the same, and when it finds nothing it has
again met dead pairs only. -/
theorem explore_yields {threads : List Thread} {outcome : Option Thread}
    (yields : Yields program subject threads outcome)
    (inside : ∀ thread ∈ threads, thread.position ≤ subject.size) (visited : Visited)
    (known : ∀ key, visited.contains key → DeadKey program subject key) :
    (explore program subject visited threads).1 = outcome ∧
      (outcome = none → ∀ key, (explore program subject visited threads).2.contains key →
        DeadKey program subject key) := by
  cases outcome with
  | none =>
      have passed : PassedOver program subject threads :=
        passed_over_each fun thread member =>
          dead_passed_over (yields thread member) (inside thread member)
      obtain ⟨after, explored, remembered⟩ := passed visited []
      rw [List.append_nil, explore] at explored
      rw [explored]
      refine ⟨rfl, fun _ key member => ?_⟩
      rcases remembered key member with early | dead
      · exact known key early
      · exact dead
  | some found =>
      obtain ⟨count, finds⟩ := yields
      have explored :=
        explore_finds finds inside visited (fun key member => .inl (known key member)) []
      rw [List.append_nil] at explored
      exact ⟨explored, fun absent => by cases absent⟩

end Checkup.Pattern
