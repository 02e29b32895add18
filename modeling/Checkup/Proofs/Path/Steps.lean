import Checkup.Path
import Checkup.Proofs.Text.Separated
import Mathlib.Algebra.GroupWithZero.Nat

/-!
# The steps of a path

Only some segments of a path lead somewhere; an empty one and `.` stay. The lexical parent of a
path takes back its last step, whatever idle segments stand around it, and a joined name is a step
behind all others.
-/

namespace Checkup.Path

/-- An empty segment and `.` stay where they are. -/
def Moves (segment : Bytes) : Prop := segment ≠ [] ∧ segment ≠ [dot]

instance (segment : Bytes) : Decidable (Moves segment) :=
  inferInstanceAs (Decidable (segment ≠ [] ∧ segment ≠ [dot]))

def stepsOf (text : Bytes) : List Bytes := (text.splitOn slash).filter fun piece => Moves piece

/-- The segments that move, from the beginning of a path to its end. -/
def steps (path : Path) : List Bytes := stepsOf path.text

/-! ## Slashes -/

theorem split_at_slash (before after : Bytes) :
    (before ++ slash :: after).splitOn slash = before.splitOn slash ++ after.splitOn slash :=
  List.splitOn_append_cons_self before after

theorem split_slashless {piece : Bytes} (slashless : slash ∉ piece) :
    piece.splitOn slash = [piece] :=
  List.splitOn_eq_singleton slashless

theorem steps_of_nil : stepsOf [] = [] := rfl

theorem steps_of_split (before after : Bytes) :
    stepsOf (before ++ slash :: after) = stepsOf before ++ stepsOf after := by
  rw [stepsOf, split_at_slash, List.filter_append]
  rfl

theorem steps_of_slash (text : Bytes) : stepsOf (text ++ [slash]) = stepsOf text := by
  rw [steps_of_split, steps_of_nil, List.append_nil]

theorem steps_of_idle (text : Bytes) : stepsOf (text ++ [slash, dot]) = stepsOf text := by
  have still : stepsOf [dot] = [] := by decide
  rw [steps_of_split, still, List.append_nil]

theorem steps_of_piece {piece : Bytes} (slashless : slash ∉ piece) (moves : Moves piece) :
    stepsOf piece = [piece] := by
  rw [stepsOf, split_slashless slashless, List.filter_cons_of_pos (by simpa using moves),
    List.filter_nil]

/-! ## Idle ends -/

/-- What is dropped at the end of a text leads nowhere. -/
theorem steps_drop_idle (reversed : Bytes) :
    stepsOf (dropIdle reversed).reverse = stepsOf reversed.reverse := by
  fun_induction dropIdle reversed with
  | case1 => rfl
  | case2 rest ih => rw [ih, List.reverse_cons, steps_of_slash]
  | case3 => decide
  | case4 further _ ih =>
      have spelled : (dot :: slash :: further).reverse = further.reverse ++ [slash, dot] := by simp
      rw [ih, spelled, steps_of_idle]
  | case5 => rfl
  | case6 => rfl

/-- What is left ends in a segment that moves. -/
theorem drop_idle_ends (reversed : Bytes) (left : dropIdle reversed ≠ []) :
    Moves ((dropIdle reversed).takeWhile (· != slash)).reverse := by
  fun_induction dropIdle reversed with
  | case1 => exact absurd rfl left
  | case2 rest ih => exact ih left
  | case3 => exact absurd rfl left
  | case4 further _ ih => exact ih left
  | case5 next further other =>
      have inside : (next != slash) = true := by simpa using other
      rw [List.takeWhile_cons_of_pos (p := (· != slash)) (by decide),
        List.takeWhile_cons_of_pos (p := (· != slash)) inside]
      constructor
      · simp
      · intro same
        have lengths := congrArg List.length same
        simp at lengths
  | case6 byte rest unslash undot =>
      have inside : (byte != slash) = true := by simpa using unslash
      rw [List.takeWhile_cons_of_pos (p := (· != slash)) inside]
      constructor
      · simp
      · intro same
        have last := congrArg List.getLast? same
        simp at last
        exact undot last

/-- The last step of a text and what stands before it. -/
theorem steps_take_back (reversed : Bytes) (left : dropIdle reversed ≠ []) :
    stepsOf reversed.reverse =
      stepsOf (dropIdle ((dropIdle reversed).dropWhile (· != slash))).reverse ++
        [((dropIdle reversed).takeWhile (· != slash)).reverse] := by
  have moves := drop_idle_ends reversed left
  have whole : (dropIdle reversed).takeWhile (· != slash) ++
      (dropIdle reversed).dropWhile (· != slash) = dropIdle reversed :=
    List.takeWhile_append_dropWhile
  have slashless : slash ∉ ((dropIdle reversed).takeWhile (· != slash)).reverse := by
    intro member
    have inside := List.mem_takeWhile_imp (List.mem_reverse.1 member)
    simp at inside
  rw [steps_drop_idle, ← steps_drop_idle reversed]
  generalize (dropIdle reversed).takeWhile (· != slash) = piece at *
  cases behind : (dropIdle reversed).dropWhile (· != slash) with
  | nil =>
      rw [behind, List.append_nil] at whole
      rw [← whole, steps_of_piece slashless moves]
      rfl
  | cons byte rest =>
      have ends : byte = slash := by
        have stopped := List.head?_dropWhile_not (· != slash) (dropIdle reversed)
        rw [behind] at stopped
        simpa using stopped
      subst ends
      rw [behind] at whole
      rw [← whole, List.reverse_append, List.reverse_cons, List.append_assoc,
        List.singleton_append, steps_of_split, steps_of_slash, steps_of_piece slashless moves]

/-! ## The lead -/

theorem absolute_text {path : Path} (absolute : path.isAbsolute = true) :
    ∃ rest, path.text = slash :: rest := by
  unfold isAbsolute at absolute
  cases text : path.text with
  | nil => simp [text] at absolute
  | cons byte rest =>
      have first : byte = slash := by simpa [text] using absolute
      exact ⟨rest, by rw [first]⟩

theorem starts_here_text {path : Path} (here : path.startsHere = true) :
    path.text = [dot] ∨ ∃ rest, path.text = dot :: slash :: rest := by
  have head : (path.text.splitOn slash).head? = some [dot] := by
    simpa [startsHere, segments] using here
  by_cases divided : slash ∈ path.text
  · obtain ⟨piece, rest, text, slashless⟩ := List.eq_append_cons_of_mem divided
    rw [text, split_at_slash, split_slashless slashless] at head
    have first : piece = [dot] := by simpa using head
    subst first
    exact .inr ⟨rest, text⟩
  · rw [split_slashless divided] at head
    exact .inl (by simpa using head)

theorem lead_cases (path : Path) :
    path.leadLength = 0 ∨
      path.leadLength = 1 ∧
        (path.text = [dot] ∨
          ∃ rest, path.text = slash :: rest ∨ path.text = dot :: slash :: rest) := by
  unfold leadLength
  by_cases absolute : path.isAbsolute = true
  · obtain ⟨rest, text⟩ := absolute_text absolute
    exact .inr ⟨by simp [absolute], .inr ⟨rest, .inl text⟩⟩
  by_cases here : path.startsHere = true
  · refine .inr ⟨by simp [here], ?_⟩
    rcases starts_here_text here with text | ⟨rest, text⟩
    · exact .inl text
    · exact .inr ⟨rest, .inr text⟩
  · exact .inl (by simp [absolute, here])

/-- The lead of a path leads nowhere, whichever beginning of the rest stands behind it. -/
theorem steps_of_lead (path : Path) {front : Bytes}
    (beginning : front <+: path.text.drop path.leadLength) :
    stepsOf (path.text.take path.leadLength ++ front) = stepsOf front := by
  have still : stepsOf [dot] = [] := by decide
  rcases lead_cases path with lead | ⟨lead, text | ⟨rest, text | text⟩⟩
  · simp [lead]
  · have nothing : front = [] := by simpa [lead, text] using beginning
    rw [lead, text, nothing]
    exact still
  · rw [lead, text]
    exact steps_of_split [] front
  · rw [lead, text] at beginning ⊢
    cases front with
    | nil => exact still
    | cons byte front =>
        have first : byte = slash := (List.cons_prefix_cons.1 beginning).1
        have behind := steps_of_split [dot] front
        rw [still] at behind
        rw [first]
        exact behind.trans (steps_of_split [] front).symm

theorem steps_of_body (path : Path) :
    stepsOf (path.text.drop path.leadLength) = path.steps := by
  have led := steps_of_lead path (List.prefix_refl _)
  rw [List.take_append_drop] at led
  exact led.symm

/-! ## The parent -/

theorem drop_idle_suffix (reversed : Bytes) : dropIdle reversed <:+ reversed := by
  fun_induction dropIdle reversed with
  | case1 => exact List.suffix_refl _
  | case2 rest ih => exact ih.trans (List.suffix_cons _ _)
  | case3 => exact List.nil_suffix
  | case4 further _ ih => exact ih.trans ((List.suffix_cons _ _).trans (List.suffix_cons _ _))
  | case5 => exact List.suffix_refl _
  | case6 => exact List.suffix_refl _

theorem absolute_of_prefix {path front : Path} (beginning : front.text <+: path.text)
    (absolute : front.isAbsolute = true) : path.isAbsolute = true := by
  obtain ⟨rest, text⟩ := absolute_text absolute
  obtain ⟨more, whole⟩ := beginning
  rw [text, List.cons_append] at whole
  simp [isAbsolute, ← whole]

theorem parent_cases {path parent : Path} (found : path.parent? = some parent) :
    path.startsHere = true ∧ path.steps = [] ∧ parent = ⟨[]⟩ ∨
      ∃ front last, front <+: path.text.drop path.leadLength ∧
        parent = ⟨path.text.take path.leadLength ++ front⟩ ∧
          path.steps = stepsOf front ++ [last] := by
  have taken := steps_take_back (path.text.drop path.leadLength).reverse
  have dropped := drop_idle_suffix (path.text.drop path.leadLength).reverse
  have idle := steps_drop_idle (path.text.drop path.leadLength).reverse
  rw [List.reverse_reverse, steps_of_body] at idle taken
  unfold parent? at found
  dsimp only at found
  split at found
  · rename_i nothing
    rw [nothing] at idle
    split at found
    · exact .inl ⟨‹_›, idle.symm, (Option.some.inj found).symm⟩
    · cases found
  · rename_i left
    have behind := (drop_idle_suffix _).trans
      ((List.dropWhile_suffix (l := dropIdle _) (· != slash)).trans dropped)
    refine .inr ⟨_, _, ?_, (Option.some.inj found).symm, taken left⟩
    rw [← List.reverse_suffix, List.reverse_reverse]
    exact behind

/-- The parent takes back the last step and begins where the path begins. -/
theorem parent_takes_back {path parent : Path} (found : path.parent? = some parent) :
    parent.steps = path.steps.dropLast ∧ parent.isAbsolute = path.isAbsolute := by
  rcases parent_cases found with ⟨here, still, rfl⟩ | ⟨front, last, beginning, rfl, split⟩
  · constructor
    · rw [still]
      rfl
    · rw [isAbsolute, isAbsolute]
      rcases starts_here_text here with text | ⟨rest, text⟩
      · rw [text]
        rfl
      · rw [text]
        rfl
  · constructor
    · rw [split, List.dropLast_concat]
      exact steps_of_lead path beginning
    · rw [Bool.eq_iff_iff]
      constructor
      · apply absolute_of_prefix
        obtain ⟨rest, whole⟩ := beginning
        refine ⟨rest, ?_⟩
        rw [List.append_assoc, whole, List.take_append_drop]
      · intro absolute
        obtain ⟨rest, text⟩ := absolute_text absolute
        have lead : path.leadLength = 1 := by simp [leadLength, absolute]
        rw [lead, text]
        rfl

/-- Only a path that takes no step has no parent. -/
theorem steps_of_no_parent {path : Path} (missing : path.parent? = none) : path.steps = [] := by
  unfold parent? at missing
  dsimp only at missing
  split at missing
  · rename_i idle
    have dropped := steps_drop_idle (path.text.drop path.leadLength).reverse
    rw [idle, List.reverse_reverse, steps_of_body] at dropped
    exact dropped.symm
  · cases missing

/-- How long a text is, told by its pieces. -/
theorem split_length (text : Bytes) :
    ((text.splitOn slash).map (·.length + 1)).sum = text.length + 1 := by
  induction text using Text.split_induction slash with
  | whole text slashless =>
      rw [split_slashless slashless]
      exact Nat.add_zero _
  | split front rest slashless ih =>
      rw [split_at_slash, split_slashless slashless, List.singleton_append, List.map_cons,
        List.sum_cons, ih, List.length_append, List.length_cons]
      omega

/-! ## Joined names -/

variable {name : Bytes} (slashless : slash ∉ name) (moves : Moves name)

include slashless moves in
theorem name_relative : (⟨name⟩ : Path).isAbsolute = false := by
  cases text : name with
  | nil => exact absurd text moves.1
  | cons byte rest =>
      have other : byte ≠ slash := by
        intro same
        rw [text, same] at slashless
        exact slashless List.mem_cons_self
      simpa [isAbsolute] using other

include slashless moves in
/-- A joined name is the last segment, and the segments before it take the steps of the
directory. -/
theorem join_name_segments (directory : Path) :
    ∃ front, (directory.join ⟨name⟩).segments = front ++ [name] ∧
      (front.filter fun piece => Moves piece) = directory.steps := by
  have relative := name_relative slashless moves
  unfold join
  rw [relative, Bool.false_or]
  split
  · rename_i nothing
    refine ⟨[], split_slashless slashless, ?_⟩
    rw [steps, List.isEmpty_iff.1 nothing]
    rfl
  split
  · rename_i ends
    obtain ⟨text, spelled⟩ := List.getLast?_eq_some_iff.1 (eq_of_beq ends)
    refine ⟨text.splitOn slash, ?_, ?_⟩
    · rw [segments, spelled, List.append_assoc, List.singleton_append, split_at_slash,
        split_slashless slashless]
    · rw [steps, spelled, steps_of_slash]
      rfl
  · refine ⟨directory.segments, ?_, rfl⟩
    rw [segments, split_at_slash, split_slashless slashless]
    rfl

include slashless moves in
theorem join_name_absolute (directory : Path) :
    (directory.join ⟨name⟩).isAbsolute = directory.isAbsolute := by
  have relative := name_relative slashless moves
  unfold join
  rw [relative, Bool.false_or]
  cases text : directory.text with
  | nil => simpa [isAbsolute, text] using relative
  | cons byte rest =>
      rw [if_neg (by simp)]
      split <;> simp [isAbsolute, text]

theorem join_length (directory child : Path) :
    (directory.join child).text.length ≤ directory.text.length + child.text.length + 1 := by
  unfold join
  split
  · omega
  split
  · simp only [List.length_append]
    omega
  · simp only [List.length_append, List.length_cons]
    omega

end Checkup.Path
