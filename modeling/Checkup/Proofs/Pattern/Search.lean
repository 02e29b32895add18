import Checkup.Proofs.Pattern.Layout

/-!
# What a search finds

The match at a place is the preferred way through the whole node. A search finds the match at the
first place that has one, though it takes what it has visited along from place to place.
-/

namespace Checkup.Pattern

variable {subject : Subject} {node : Node}

/-- The match that begins at a place, if there is one: the first way through the node. -/
def Node.match? (node : Node) (subject : Subject) (start : Nat) : Option Match :=
  ((node.ways subject ⟨start, [(0, start)]⟩).head?).map fun after =>
    ⟨(1, after.position) :: after.slots⟩

theorem laid_of_node (node : Node) :
    Laid (Program.ofNode node) 0 ((Node.group 0 node).steps 0 (Node.group 0 node).size) := by
  intro index step present
  obtain ⟨short, _⟩ := List.getElem?_eq_some_iff.1 present
  rw [Nat.zero_add, Program.ofNode, List.getElem?_toArray, List.getElem?_append_left short, present]

theorem accept_of_node (node : Node) :
    (Program.ofNode node)[(Node.group 0 node).size]? = some .accept := by
  rw [Program.ofNode, List.getElem?_toArray,
    List.getElem?_append_right (Nat.le_of_eq (Node.length_steps _ _ _)), Node.length_steps,
    Nat.sub_self]
  rfl

/-- What is told of a remembered set: no match goes through a pair in it. -/
def OnlyDead (node : Node) (subject : Subject) (visited : Visited) : Prop :=
  ∀ key, visited.contains key → DeadKey (Program.ofNode node) subject key

theorem explore_of_node (advances : node.Advances) {start : Nat} (inside : start ≤ subject.size)
    {visited : Visited} (known : OnlyDead node subject visited) :
    let explored := explore (Program.ofNode node) subject visited [⟨0, start, []⟩]
    explored.1.map (fun thread => (⟨thread.slots⟩ : Match)) = node.match? subject start ∧
      (node.match? subject start = none → OnlyDead node subject explored.2) := by
  have whole : node.match? subject start = ((((Node.group 0 node).ways subject
      ⟨start, []⟩).head?).map (·.thread (Node.group 0 node).size)).map
        (fun thread => ⟨thread.slots⟩) := by
    rw [Node.match?, Node.ways, List.head?_map, Option.map_map, Option.map_map]
    rfl
  have leads := leads_of_laid (Node.group 0 node) advances 0 _ (laid_of_node node)
    ⟨start, []⟩ inside []
  have yields : Yields (Program.ofNode node) subject [⟨0, start, []⟩]
      (((Node.group 0 node).ways subject ⟨start, []⟩).head?.map
        (·.thread (Node.group 0 node).size)) := by
    apply leads
    cases (Node.group 0 node).ways subject ⟨start, []⟩ with
    | nil => exact List.forall_mem_nil _
    | cons after others => exact ⟨0, .here (accept_of_node node)⟩
  have explored := explore_yields yields (by simpa using inside) visited known
  refine ⟨by rw [explored.1, whole], fun missing => explored.2 ?_⟩
  rwa [whole, Option.map_eq_none_iff] at missing

/-- One place of a search: the match there, or what the search finds further on. -/
theorem search_from_place (advances : node.Advances) {start : Nat} (inside : start ≤ subject.size)
    {visited : Visited} (known : OnlyDead node subject visited) :
    ∃ after, (node.match? subject start = none → OnlyDead node subject after) ∧
      searchFrom (Program.ofNode node) subject visited start =
        (node.match? subject start).or
          (if start < subject.size then
            searchFrom (Program.ofNode node) subject after (start + 1) else none) := by
  obtain ⟨found, remembered⟩ := explore_of_node advances inside known
  rcases explored : explore (Program.ofNode node) subject visited [⟨0, start, []⟩] with
    ⟨outcome, after⟩
  rw [explored] at found remembered
  refine ⟨after, remembered, ?_⟩
  rw [searchFrom, explored, ← found]
  cases outcome <;> rfl

/-- Whatever dead pairs are remembered, the search looks at one place after the other. -/
theorem search_from_places (advances : node.Advances) {start : Nat} (inside : start ≤ subject.size)
    {visited : Visited} (known : OnlyDead node subject visited) :
    searchFrom (Program.ofNode node) subject visited start =
      (List.range' start (subject.size - start + 1)).findSome? (node.match? subject) := by
  induction remaining : subject.size - start generalizing start visited with
  | zero =>
      obtain ⟨after, _, stepped⟩ := search_from_place advances inside known
      have atEnd : ¬ start < subject.size := by omega
      rw [stepped, if_neg atEnd, Option.or_none, List.range'_one, List.findSome?_singleton]
  | succ remaining ih =>
      obtain ⟨after, remembered, stepped⟩ := search_from_place advances inside known
      have more : start < subject.size := by omega
      rw [stepped, if_pos more, List.range'_succ, List.findSome?_cons]
      cases found : node.match? subject start with
      | some found => rfl
      | none => exact ih more (remembered found) (by omega)

theorem only_dead_empty : OnlyDead node subject ∅ := by
  intro key member
  simp at member

theorem search_places (advances : node.Advances) {start : Nat} (inside : start ≤ subject.size) :
    search (Program.ofNode node) subject start =
      (List.range' start (subject.size - start + 1)).findSome? (node.match? subject) :=
  search_from_places advances inside only_dead_empty

/-- A match at the place where the search begins is found. -/
theorem search_here (advances : node.Advances) {start : Nat} (inside : start ≤ subject.size)
    {found : Match} (here : node.match? subject start = some found) :
    search (Program.ofNode node) subject start = some found := by
  rw [search_places advances inside, List.range'_succ, List.findSome?_cons, here]

/-- A search passes over places without a match. -/
theorem search_skip (advances : node.Advances) {start next : Nat} (order : start ≤ next)
    (inside : next ≤ subject.size)
    (missing : ∀ place, start ≤ place → place < next → node.match? subject place = none) :
    search (Program.ofNode node) subject start = search (Program.ofNode node) subject next := by
  have places : List.range' start (subject.size - start + 1) =
      List.range' start (next - start) ++ List.range' next (subject.size - next + 1) := by
    rw [show subject.size - start + 1 = (next - start) + (subject.size - next + 1) by omega,
      ← List.range'_append_1, show start + (next - start) = next by omega]
  rw [search_places advances (Nat.le_trans order inside), search_places advances inside, places,
    List.findSome?_append]
  have nothing : (List.range' start (next - start)).findSome? (node.match? subject) = none := by
    rw [List.findSome?_eq_none_iff]
    intro place member
    obtain ⟨low, high⟩ := List.mem_range'_1.1 member
    exact missing place low (by omega)
  rw [nothing, Option.none_or]

theorem search_none (advances : node.Advances) {start : Nat} (inside : start ≤ subject.size)
    (missing : ∀ place, start ≤ place → place ≤ subject.size →
      node.match? subject place = none) :
    search (Program.ofNode node) subject start = none := by
  rw [search_places advances inside, List.findSome?_eq_none_iff]
  intro place member
  obtain ⟨low, high⟩ := List.mem_range'_1.1 member
  exact missing place low (by omega)

end Checkup.Pattern
