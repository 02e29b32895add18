import Checkup.Report
import Checkup.Terminal.Page
import Mathlib.Data.String.Basic

/-!
# Marks by owner

Each owner has one mark at most, and the marks stand in the order of their owners' names. When
the marks of the entries of a report are renewed, the entries that have findings get their marks,
and nothing else is left of the owners that the entries belong to.
-/

namespace Checkup

open Terminal (Marks)

/-- The marks of an owner: its name, its anchors and its marker. -/
abbrev Mark := String × List Nat × Marker

/-- The mark of an entry that has findings: the anchors of the findings in their order. -/
def Entry.mark? (entry : Entry) : Option Mark :=
  if entry.findings.isEmpty then none
  else some (entry.analyzer.name, entry.findings.map (·.anchor), entry.analyzer.marker)

namespace Terminal.Marks

def Ascending (marks : Marks) : Prop := marks.Pairwise fun one other : Mark => one.1 < other.1

variable {marks : Marks}

/-! ## One mark -/

theorem ascending_erase (ascending : marks.Ascending) (owner : String) :
    (marks.erase owner).Ascending :=
  ascending.filter _

theorem erased_absent (marks : Marks) (owner : String) :
    ∀ mark ∈ marks.erase owner, mark.1 ≠ owner := by
  intro mark member
  simpa using (List.mem_filter.1 member).2

section Insert

variable {owner : String} (absent : ∀ mark ∈ marks, mark.1 ≠ owner) (anchors : List Nat)
  (marker : Marker)

include absent

theorem insert_perm :
    (marks.insert owner anchors marker).Perm ((owner, anchors, marker) :: marks) := by
  induction marks with
  | nil => exact List.Perm.refl _
  | cons first rest ih =>
      have other : first.1 ≠ owner := absent first List.mem_cons_self
      rw [Marks.insert]
      split
      · exact List.Perm.refl _
      rw [if_neg (Ne.symm other)]
      have behind := ih fun mark member => absent mark (List.mem_cons_of_mem _ member)
      exact (behind.cons _).trans (List.Perm.swap _ _ _)

theorem ascending_insert (ascending : marks.Ascending) :
    (marks.insert owner anchors marker).Ascending := by
  induction marks with
  | nil => exact List.pairwise_singleton _ _
  | cons first rest ih =>
      obtain ⟨above, later⟩ := List.pairwise_cons.1 ascending
      have other : first.1 ≠ owner := absent first List.mem_cons_self
      have absentLater : ∀ mark ∈ rest, mark.1 ≠ owner :=
        fun mark member => absent mark (List.mem_cons_of_mem _ member)
      rw [Marks.insert]
      split
      · rename_i before
        refine List.pairwise_cons.2 ⟨?_, ascending⟩
        intro mark member
        rcases List.mem_cons.1 member with same | behind
        · rw [same]
          exact before
        · exact lt_trans before (above mark behind)
      · rename_i notBefore
        rw [if_neg (Ne.symm other)]
        refine List.pairwise_cons.2 ⟨?_, ih absentLater later⟩
        intro mark member
        rcases List.mem_cons.1 ((insert_perm absentLater anchors marker).mem_iff.1 member) with
          same | behind
        · rw [same]
          exact lt_of_le_of_ne (not_lt.1 notBefore) other
        · exact above mark behind

end Insert

/-! ## The marks of entries -/

/-- What one entry of a run does to the marks. -/
def renew (shown : Bool) (marks : Marks) (entry : Entry) : Marks :=
  let cleared := marks.erase entry.analyzer.name
  if !entry.findings.isEmpty && shown then
    cleared.insert entry.analyzer.name (entry.findings.map (·.anchor)) entry.analyzer.marker
  else cleared

/-- The marks that a run leaves of its entries. -/
def ofEntries (shown : Bool) (entries : List Entry) : List Mark :=
  if shown then entries.filterMap Entry.mark? else []

theorem owner_of_entry {shown : Bool} {entries : List Entry} {mark : Mark}
    (member : mark ∈ ofEntries shown entries) :
    ∃ entry ∈ entries, mark.1 = entry.analyzer.name := by
  unfold ofEntries at member
  split at member
  · obtain ⟨entry, present, marked⟩ := List.mem_filterMap.1 member
    unfold Entry.mark? at marked
    split at marked
    · cases marked
    · cases marked
      exact ⟨entry, present, rfl⟩
  · cases member

theorem ascending_renew (ascending : marks.Ascending) (shown : Bool) (entry : Entry) :
    (marks.renew shown entry).Ascending := by
  have cleared := ascending_erase ascending entry.analyzer.name
  unfold renew
  dsimp only
  split
  · exact ascending_insert (erased_absent _ _) _ _ cleared
  · exact cleared

theorem renew_perm (marks : Marks) (shown : Bool) (entry : Entry) :
    (marks.renew shown entry).Perm
      (ofEntries shown [entry] ++ marks.erase entry.analyzer.name) := by
  unfold renew ofEntries
  dsimp only
  cases shown with
  | false => simp
  | true =>
      cases found : entry.findings.isEmpty with
      | true => simp [Entry.mark?, found]
      | false =>
          simpa [Entry.mark?, found] using
            insert_perm (erased_absent marks entry.analyzer.name) _ _

/-- The marks of other owners than those of the entries. -/
def others (entries : List Entry) (marks : Marks) : Marks :=
  marks.filter fun mark => mark.1 ∉ entries.map (·.analyzer.name)

theorem ascending_renew_all (ascending : marks.Ascending) (shown : Bool) (entries : List Entry) :
    (entries.foldl (renew shown) marks).Ascending := by
  induction entries generalizing marks with
  | nil => exact ascending
  | cons entry rest ih =>
      rw [List.foldl_cons]
      exact ih (ascending_renew ascending shown entry)

theorem renew_all_perm (marks : Marks) (shown : Bool) (entries : List Entry)
    (distinct : (entries.map (·.analyzer.name)).Nodup) :
    (entries.foldl (renew shown) marks).Perm (ofEntries shown entries ++ others entries marks) := by
  induction entries generalizing marks with
  | nil => simp [ofEntries, others]
  | cons entry rest ih =>
      obtain ⟨own, restDistinct⟩ := List.nodup_cons.1 distinct
      have split : ofEntries shown (entry :: rest) =
          ofEntries shown [entry] ++ ofEntries shown rest := by
        unfold ofEntries
        split
        · exact List.filterMap_append (l := [entry])
        · rfl
      have kept : others rest (ofEntries shown [entry]) = ofEntries shown [entry] := by
        apply List.filter_eq_self.2
        intro mark member
        obtain ⟨_, only, owned⟩ := owner_of_entry member
        rw [owned, List.mem_singleton.1 only]
        simpa using own
      have left : others rest (marks.erase entry.analyzer.name) = others (entry :: rest) marks := by
        unfold others Marks.erase
        rw [List.filter_filter]
        apply List.filter_congr
        intro mark _
        rw [List.map_cons, Bool.eq_iff_iff]
        simp [and_comm]
      have renewed : (others rest (marks.renew shown entry)).Perm
          (ofEntries shown [entry] ++ others (entry :: rest) marks) := by
        rw [← kept, ← left]
        exact ((renew_perm marks shown entry).filter _).trans (by rw [List.filter_append]; rfl)
      rw [List.foldl_cons, split, List.append_assoc]
      refine (ih (marks.renew shown entry) restDistinct).trans ?_
      refine (renewed.append_left _).trans ?_
      exact List.perm_append_comm_assoc ..

/-- Only analyzers own marks, each of them one mark at most. -/
structure Tidy (marks : Marks) : Prop where
  ascending : marks.Ascending
  owned : ∀ mark ∈ marks, ∃ analyzer : Analyzer, mark.1 = analyzer.name

theorem tidy_nil : Tidy [] := ⟨List.Pairwise.nil, nofun⟩

theorem mem_all (analyzer : Analyzer) : analyzer ∈ Analyzer.all := by
  cases analyzer <;> decide

/-- After the renewal of every analyzer's marks, the marks are those of the entries. -/
theorem renewed_of_entries {entries : List Entry}
    (complete : entries.map (·.analyzer) = Analyzer.all) (tidy : marks.Tidy) (shown : Bool) :
    (entries.foldl (renew shown) marks).Perm (ofEntries shown entries) := by
  have names : entries.map (·.analyzer.name) = Analyzer.all.map Analyzer.name := by
    rw [← complete, List.map_map]
    rfl
  have distinct : (entries.map (·.analyzer.name)).Nodup := by
    rw [names]
    decide
  have nothing : others entries marks = [] := by
    apply List.filter_eq_nil_iff.2
    intro mark member
    obtain ⟨analyzer, owned⟩ := tidy.owned mark member
    rw [owned, names]
    simpa using ⟨analyzer, mem_all analyzer, rfl⟩
  have renewed := renew_all_perm marks shown entries distinct
  rw [nothing, List.append_nil] at renewed
  exact renewed

theorem tidy_renew_all {entries : List Entry}
    (complete : entries.map (·.analyzer) = Analyzer.all) (tidy : marks.Tidy) (shown : Bool) :
    (entries.foldl (renew shown) marks).Tidy := by
  refine ⟨ascending_renew_all tidy.ascending shown entries, ?_⟩
  intro mark member
  obtain ⟨entry, _, owned⟩ :=
    owner_of_entry ((renewed_of_entries complete tidy shown).mem_iff.1 member)
  exact ⟨entry.analyzer, owned⟩

/-- Nothing is left once every analyzer has lost its marks. -/
theorem erase_all (tidy : marks.Tidy) :
    Analyzer.all.foldl (fun marks analyzer => marks.erase analyzer.name) marks = [] := by
  have cleared := @renewed_of_entries marks (Analyzer.all.map (⟨·, []⟩)) rfl tidy false
  simpa [List.foldl_map, renew, ofEntries] using cleared

end Terminal.Marks

end Checkup
