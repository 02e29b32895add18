import Checkup.Text.Entity

/-!
# Escaped texts

A writer of markup replaces the characters that markup uses by references, and may do so with an
apostrophe. Every ampersand that it writes begins one of its references, so resolving them in one
pass gives back the text, even where the text itself looks like a reference.
-/

namespace Checkup.Text.Entity

/-- The ways a writer of markup may write a character. -/
def forms : Char → List (List Char)
  | '&' => [['&', 'a', 'm', 'p', ';']]
  | '<' => [['&', 'l', 't', ';']]
  | '>' => [['&', 'g', 't', ';']]
  | '"' => [['&', 'q', 'u', 'o', 't', ';']]
  | '\'' => [['\''], ['&', '#', '0', '3', '9', ';']]
  | char => [[char]]

/-- A text and what a writer of markup makes of it. -/
inductive Written : List Char → List Char → Prop
  | nil : Written [] []
  | cons {char : Char} {form text written : List Char} (member : form ∈ forms char)
      (rest : Written text written) : Written (char :: text) (form ++ written)

theorem alphanumeric_bounds {char : Char} (alphanumeric : char.isAlphanum = true) :
    (0x41 ≤ char.toNat ∧ char.toNat ≤ 0x5A) ∨ (0x61 ≤ char.toNat ∧ char.toNat ≤ 0x7A) ∨
      (0x30 ≤ char.toNat ∧ char.toNat ≤ 0x39) := by
  rcases Bool.or_eq_true_iff.1 alphanumeric with letter | isDigit
  · rcases Bool.or_eq_true_iff.1 letter with upper | lower
    · have inside : 'A'.val ≤ char.val ∧ char.val ≤ 'Z'.val := of_decide_eq_true upper
      exact .inl ⟨UInt32.le_iff_toNat_le.1 inside.1, UInt32.le_iff_toNat_le.1 inside.2⟩
    · obtain ⟨above, below⟩ := Bool.and_eq_true_iff.1 lower
      exact .inr (.inl ⟨UInt32.le_iff_toNat_le.1 (of_decide_eq_true above),
        UInt32.le_iff_toNat_le.1 (of_decide_eq_true below)⟩)
  · exact .inr (.inr (Char.isDigit_iff_toNat.1 isDigit))

/-- A text is copied up to its first ampersand. -/
theorem unescape_split (text : List Char) :
    unescapeChars text = text.takeWhile (· != '&') ++
      match text.dropWhile (· != '&') with
      | [] => []
      | _ :: tail =>
        match reference? tail with
        | some (value, rest) => value ++ unescapeChars rest
        | none => '&' :: unescapeChars tail := by
  rw [unescapeChars]
  split
  · rename_i ended
    rw [ended, List.append_nil]
  · rename_i ampersand tail found
    simp only [found]
    split
    · rename_i value rest resolved
      simp only [resolved, List.append_assoc]
    · rename_i resolved
      simp only [resolved]

theorem unescape_nil : unescapeChars [] = [] := unescape_split []

theorem unescape_plain {char : Char} (plain : char ≠ '&') (rest : List Char) :
    unescapeChars (char :: rest) = char :: unescapeChars rest := by
  have kept : (char != '&') = true := bne_iff_ne.2 plain
  rw [unescape_split, unescape_split rest, List.takeWhile_cons, List.dropWhile_cons, if_pos kept,
    if_pos kept]
  rfl

theorem unescape_reference {tail value rest : List Char}
    (found : reference? tail = some (value, rest)) :
    unescapeChars ('&' :: tail) = value ++ unescapeChars rest := by
  have stopped : ¬ ('&' != '&') = true := by decide
  rw [unescape_split, List.takeWhile_cons, List.dropWhile_cons, if_neg stopped, if_neg stopped]
  simp only [found, List.nil_append]

/-- A failed reference costs its ampersand. -/
theorem unescape_failed {tail : List Char} (missing : reference? tail = none) :
    unescapeChars ('&' :: tail) = '&' :: unescapeChars tail := by
  have stopped : ¬ ('&' != '&') = true := by decide
  rw [unescape_split, List.takeWhile_cons, List.dropWhile_cons, if_neg stopped, if_neg stopped]
  simp only [missing, List.nil_append]

/-- A character is written as itself, or as a reference that is resolved to it. -/
theorem form_cases {char : Char} {form : List Char} (member : form ∈ forms char) :
    (form = [char] ∧ char ≠ '&' ∧ char ≠ '"') ∨
      ∃ body, form = '&' :: body ∧ '"' ∉ body ∧ '\n' ∉ body ∧
        ∀ rest, reference? (body ++ rest) = some ([char], rest) := by
  unfold forms at member
  split at member
  all_goals simp only [List.mem_cons, List.not_mem_nil, or_false] at member
  · exact .inr ⟨_, member, by decide, by decide, fun rest => rfl⟩
  · exact .inr ⟨_, member, by decide, by decide, fun rest => rfl⟩
  · exact .inr ⟨_, member, by decide, by decide, fun rest => rfl⟩
  · exact .inr ⟨_, member, by decide, by decide, fun rest => rfl⟩
  · rcases member with raw | numbered
    · exact .inl ⟨raw, by decide, by decide⟩
    · exact .inr ⟨_, numbered, by decide, by decide, fun rest => rfl⟩
  · rename_i ampersand _ _ quote _
    exact .inl ⟨member, ampersand, quote⟩

/-- Every form of a character is resolved to it, and what follows is read on its own. -/
theorem unescape_form {char : Char} {form : List Char} (member : form ∈ forms char)
    (rest : List Char) : unescapeChars (form ++ rest) = char :: unescapeChars rest := by
  rcases form_cases member with ⟨rfl, plain, -⟩ | ⟨body, rfl, -, -, resolved⟩
  · exact unescape_plain plain rest
  · exact unescape_reference (resolved rest)

/-- What a writer of markup makes of a text is resolved to that text. -/
theorem unescape_written {text written : List Char} (writes : Written text written) :
    unescapeChars written = text := by
  induction writes with
  | nil => exact unescape_nil
  | cons member rest ih => rw [unescape_form member, ih]

theorem quote_not_written {text written : List Char} (writes : Written text written) :
    '"' ∉ written := by
  induction writes with
  | nil => exact List.not_mem_nil
  | cons member rest ih =>
      rw [List.mem_append]
      rintro (here | later)
      · rcases form_cases member with ⟨rfl, -, unquoted⟩ | ⟨body, rfl, unquoted, -, -⟩
        · exact unquoted (List.mem_singleton.1 here).symm
        · exact unquoted (List.mem_of_ne_of_mem (by decide) here)
      · exact ih later

/-- No line feed is written unless it is one of the text. -/
theorem line_feed_of_written {text written : List Char} (writes : Written text written)
    (feed : '\n' ∈ written) : '\n' ∈ text := by
  induction writes with
  | nil => exact feed
  | cons member rest ih =>
      rcases List.mem_append.1 feed with here | later
      · rcases form_cases member with ⟨rfl, -, -⟩ | ⟨body, rfl, -, plain, -⟩
        · exact List.mem_singleton.1 here ▸ List.mem_cons_self
        · exact absurd (List.mem_of_ne_of_mem (by decide) here) plain
      · exact List.mem_cons_of_mem _ (ih later)

end Checkup.Text.Entity
