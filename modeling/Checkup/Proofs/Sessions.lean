import Checkup.Checker
import Mathlib.Data.List.Dedup
import Mathlib.Data.List.Perm.Basic

/-!
# Sessions as a map

Opening a session leaves every stored report as it is; storing a report replaces the one for its
identity and no other.
-/

namespace Checkup.Sessions

variable (sessions : Sessions) (id other : String)

theorem report_empty : report? ∅ id = none := by
  simp [report?]

theorem report_enter : (sessions.enter id).report? other = sessions.report? other := by
  unfold report? enter
  rw [Std.TreeMap.getElem?_insertIfNew]
  split
  · rename_i opened
    have same : id = other := by simpa using opened.1
    subst same
    rw [Std.TreeMap.getElem?_eq_none opened.2]
    rfl
  · rfl

theorem report_store (report : Report) :
    (sessions.store id report).report? other =
      if id = other then some report else sessions.report? other := by
  unfold report? store
  rw [Std.TreeMap.getElem?_insert]
  by_cases same : id = other
  · simp [same]
  · have apart : compare id other ≠ .eq := by simpa using same
    simp [same, apart]

theorem mem_enter : other ∈ sessions.enter id ↔ id = other ∨ other ∈ sessions := by
  simp [enter, Std.TreeMap.mem_insertIfNew]

theorem mem_store (report : Report) :
    other ∈ sessions.store id report ↔ id = other ∨ other ∈ sessions := by
  simp [store, Std.TreeMap.mem_insert]

/-- As many sessions as different identities that have one. -/
theorem size_of_members (ids : List String) (members : ∀ id, id ∈ sessions ↔ id ∈ ids) :
    sessions.size = ids.dedup.length := by
  rw [← Std.TreeMap.length_keys]
  apply List.Perm.length_eq
  rw [List.perm_ext_iff_of_nodup Std.TreeMap.nodup_keys ids.nodup_dedup]
  intro id
  rw [Std.TreeMap.mem_keys, members, List.mem_dedup]

end Checkup.Sessions
