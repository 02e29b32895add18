import Checkup.Proofs.Pattern.Scan

/-!
# Pieces of a line

The pieces of a pattern as readers that hand on the rest of the text: a run of bytes and what
comes before the last mark. Each reader takes back what was written in its form, and what it
takes is in that form.
-/

namespace Checkup.Pattern

/-- Bytes of a set, at least one of them. -/
structure Run (set : Ranges) (bytes : Bytes) : Prop where
  nonempty : bytes ≠ []
  members : ∀ byte ∈ bytes, set.contains byte.toNat = true

theorem run_of_all {set : Ranges} {bytes : Bytes} (nonempty : bytes ≠ [])
    (members : (bytes.all fun byte => set.contains byte.toNat) = true) : Run set bytes :=
  ⟨nonempty, List.all_eq_true.1 members⟩

theorem Run.not_mem {set : Ranges} {bytes : Bytes} (isRun : Run set bytes) {byte : UInt8}
    (other : set.contains byte.toNat = false) : byte ∉ bytes := by
  intro member
  rw [isRun.members byte member] at other
  cases other

/-- The longest run of a set at the start of a text, with the rest. -/
def run? (set : Ranges) (text : Bytes) : Option (Bytes × Bytes) :=
  let run := front set text
  if run.isEmpty then none else some (run, text.drop run.length)

/-- What comes before the last mark in a text. -/
def beforeLast? (mark text : Bytes) : Option Bytes :=
  latest? (fun place => if mark <+: text.drop place then some (text.take place) else none)
    (text.length + 1)

section Pieces

variable {set : Ranges} {text rest run mark piece : Bytes}

@[simp] theorem drop_prefix_append (text rest : Bytes) :
    (text ++ rest).dropPrefix? text = some rest :=
  (drop_prefix_iff _ _ rest).2 rfl

theorem scan_many_run (group : Option Nat) (set : Ranges) (next : Scan) :
    Scan.many group set next = fun text =>
      (run? set text).bind fun split => (next split.2).map (keep group split.1) := by
  funext text
  unfold Scan.many run?
  dsimp only
  split <;> rfl

theorem scan_anything_mark (group : Option Nat) (mark : Bytes) :
    Scan.anything group (.exact mark .done) = fun text =>
      (beforeLast? mark text).map fun piece => keep group piece [] := by
  funext text
  unfold Scan.anything beforeLast?
  rw [latest_map]
  congr 1
  funext place
  by_cases marked : mark <+: text.drop place
  · obtain ⟨rest, split⟩ := marked
    rw [if_pos ⟨rest, split⟩, Scan.exact, (drop_prefix_iff _ _ rest).2 split.symm]
    rfl
  · rw [if_neg marked, Scan.exact, (drop_prefix_none_iff _ _).2 marked]
    rfl

theorem run_sound (found : run? set text = some (run, rest)) :
    Run set run ∧ text = run ++ rest := by
  unfold run? at found
  dsimp only at found
  split at found
  · cases found
  · rename_i some
    cases found
    refine ⟨⟨fun empty => some (List.isEmpty_iff.2 empty), ?_⟩, ?_⟩
    · exact List.all_eq_true.1 List.all_takeWhile
    · exact (List.prefix_iff_eq_append.1 (List.takeWhile_prefix _)).symm

theorem run_read (isRun : Run set run)
    (ended : ∀ byte, rest.head? = some byte → set.contains byte.toNat = false) :
    run? set (run ++ rest) = some (run, rest) := by
  have stop : front set rest = [] := by
    cases rest with
    | nil => rfl
    | cons byte rest => exact List.takeWhile_cons_of_neg (by simp [ended byte rfl])
  have whole : front set (run ++ rest) = run := by
    unfold front at stop ⊢
    rw [List.takeWhile_append_of_pos isRun.members, stop, List.append_nil]
  unfold run?
  dsimp only
  rw [whole, if_neg (by simp [isRun.nonempty]), List.drop_left]

theorem run_ended (found : run? set text = some (run, rest)) :
    ∀ byte, rest.head? = some byte → set.contains byte.toNat = false := by
  let inside (byte : UInt8) : Bool := set.contains byte.toNat
  have split : front set text ++ text.dropWhile inside = text := List.takeWhile_append_dropWhile
  have behind : text.drop (front set text).length = text.dropWhile inside := by
    conv_lhs => arg 2; rw [← split]
    exact List.drop_left
  intro byte first
  unfold run? at found
  dsimp only at found
  split at found
  · cases found
  · cases found
    have stopped := List.head?_dropWhile_not inside text
    rw [← behind, first] at stopped
    simpa [inside] using stopped

/-- A run is read exactly where it stands and is not continued. -/
theorem run_iff :
    run? set text = some (run, rest) ↔ Run set run ∧ text = run ++ rest ∧
      ∀ byte, rest.head? = some byte → set.contains byte.toNat = false := by
  constructor
  · intro found
    exact ⟨(run_sound found).1, (run_sound found).2, run_ended found⟩
  · rintro ⟨isRun, rfl, ended⟩
    exact run_read isRun ended

theorem run_split {first : UInt8} (member : set.contains first.toNat = true) (rest : Bytes) :
    ∃ run message, first :: rest = run ++ message ∧ Run set run ∧
      ∀ byte, message.head? = some byte → set.contains byte.toNat = false := by
  let inside (byte : UInt8) : Bool := set.contains byte.toNat
  refine ⟨(first :: rest).takeWhile inside, (first :: rest).dropWhile inside,
    List.takeWhile_append_dropWhile.symm, ⟨?_, List.all_eq_true.1 List.all_takeWhile⟩, ?_⟩
  · have kept : inside first = true := member
    rw [List.takeWhile_cons_of_pos kept]
    exact List.cons_ne_nil _ _
  · intro byte behind
    have stopped := List.head?_dropWhile_not inside (first :: rest)
    rw [behind] at stopped
    simpa [inside] using stopped

/-- A run is read up to a text that cannot begin with a byte of it. -/
theorem run_before {letter : UInt8} (isRun : Run set run)
    (other : set.contains letter.toNat = false) (text rest : Bytes) :
    run? set (run ++ (letter :: text ++ rest)) = some (run, letter :: text ++ rest) := by
  apply run_read isRun
  intro byte first
  cases first
  exact other

theorem before_last_sound (found : beforeLast? mark text = some piece) :
    ∃ rest, text = piece ++ (mark ++ rest) := by
  obtain ⟨place, -, here, -⟩ := latest_some found
  split at here
  · rename_i marked
    obtain ⟨rest, split⟩ := marked
    cases here
    exact ⟨rest, by rw [split, List.take_append_drop]⟩
  · cases here

/-- A mark that does not come again behind its own first byte is the last one. -/
theorem before_last_read {first : UInt8} {mark : Bytes}
    (once : ¬ (first :: mark) <:+: mark ++ rest) (piece : Bytes) :
    beforeLast? (first :: mark) (piece ++ (first :: mark ++ rest)) = some piece := by
  have small : piece.length < (piece ++ (first :: mark ++ rest)).length + 1 := by
    rw [List.length_append]
    omega
  refine latest_of small ?_ fun later above below => ?_
  · rw [List.drop_left, List.take_left]
    exact if_pos (List.prefix_append _ _)
  · obtain ⟨beyond, place⟩ : ∃ beyond, later = piece.length + (beyond + 1) := by
      exact ⟨later - piece.length - 1, by omega⟩
    refine if_neg fun marked => once ?_
    rw [place, ← List.drop_drop, List.drop_left] at marked
    exact marked.isInfix.trans (List.drop_suffix beyond _).isInfix

/-- A mark is not found at bytes other than its first. -/
theorem infix_pass {first : UInt8} {mark front : Bytes} (free : first ∉ front) (text : Bytes) :
    (first :: mark) <:+: front ++ text ↔ (first :: mark) <:+: text := by
  induction front with
  | nil => rfl
  | cons byte front ih =>
      have other : first ≠ byte := fun same => free (same ▸ List.mem_cons_self)
      have earlier := ih fun member => free (List.mem_cons_of_mem _ member)
      rw [List.cons_append, List.infix_cons_iff, List.cons_prefix_cons, earlier]
      simp [other]

end Pieces

end Checkup.Pattern
