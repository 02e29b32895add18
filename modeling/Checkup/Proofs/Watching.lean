import Checkup.Proofs.Violations

/-!
# What a run changes

Whatever is watched of a host while findings are collected, only three calls can change it: a tool
is run, marks are cleared, marks are added. A run makes them analyzer by analyzer.
-/

namespace Checkup

variable {State View : Type}

/-- Something to watch of the states of a host, and what each call makes of it. -/
structure Watch (host : Host State) (View : Type) where
  view : State → View
  asked : List String → View → View
  cleared : String → View → View
  marked : String → List Nat → Marker → View → View
  run : ∀ vector state, view (host.run vector state).2 = asked vector (view state)
  log : ∀ level text state, view (host.log level text state) = view state
  clearMarks : ∀ owner state, view (host.clearMarks owner state) = cleared owner (view state)
  addMarks : ∀ owner anchors marker state,
    view (host.addMarks owner anchors marker state) = marked owner anchors marker (view state)

namespace Watch

variable {host : Host State} (watch : Watch host View) (settings : Settings) (target : Target)

/-- After an analyzer has asked its tool, if it asks. -/
def questioned (analyzer : Analyzer) (seen : View) : View :=
  match analyzer.question? settings target with
  | none => seen
  | some vector => watch.asked vector seen

/-- After an analyzer has asked and the marks of its entry are renewed. -/
def renewed (seen : View) (entry : Entry) : View :=
  let cleared :=
    watch.cleared entry.analyzer.name (watch.questioned settings target entry.analyzer seen)
  if !entry.findings.isEmpty && settings.display.gutterMarks then
    watch.marked entry.analyzer.name (entry.findings.map (·.anchor)) entry.analyzer.marker cleared
  else cleared

theorem log_all (lines : List (LogLevel × String)) (state : State) :
    watch.view (host.logAll lines state) = watch.view state := by
  induction lines generalizing state with
  | nil => rfl
  | cons line rest ih => exact (ih _).trans (watch.log ..)

theorem violations (analyzer : Analyzer) (state : State) :
    watch.view ((analyzer.violations host settings target).run state).2 =
      watch.questioned settings target analyzer (watch.view state) := by
  rw [Analyzer.violations_run, questioned]
  cases analyzer.question? settings target with
  | none => rfl
  | some vector => exact (watch.log_all ..).trans (watch.run ..)

theorem collect_one (analyzer : Analyzer) (state : State) :
    let ran := (analyzer.collect host settings target).run state
    watch.view ran.2 = watch.renewed settings target (watch.view state) ran.1 := by
  have read := watch.violations settings target analyzer state
  rw [Analyzer.collect_run]
  dsimp only
  rw [Analyzer.renewMarks, renewed]
  dsimp only
  split
  · rw [watch.addMarks, watch.clearMarks, watch.log, read]
  · rw [watch.clearMarks, watch.log, read]

theorem collect_each (analyzers : List Analyzer) (state : State) :
    let ran := (Analyzer.collectEach analyzers host settings target).run state
    watch.view ran.2 = ran.1.foldl (watch.renewed settings target) (watch.view state) := by
  induction analyzers generalizing state with
  | nil => rfl
  | cons analyzer rest ih =>
      rw [Analyzer.collect_each_cons_run]
      dsimp only at ih ⊢
      rw [ih, List.foldl_cons, watch.collect_one]

/-- A run goes through the entries of its report. -/
theorem collect (event : Event) (state : State) :
    let ran := (collect host settings target event).run state
    watch.view ran.2 =
      ran.1.entries.foldl (watch.renewed settings target) (watch.view state) := by
  rw [collect_run]
  dsimp only
  rw [Report.entries_of_entries]
  exact watch.collect_each ..

/-- A watch that sees nothing of a run sees the same after it. -/
theorem collect_unseen (asked : ∀ vector seen, watch.asked vector seen = seen)
    (cleared : ∀ owner seen, watch.cleared owner seen = seen)
    (marked : ∀ owner anchors marker seen, watch.marked owner anchors marker seen = seen)
    (event : Event) (state : State) :
    watch.view ((Checkup.collect host settings target event).run state).2 = watch.view state := by
  have unseen : watch.renewed settings target = fun seen _ => seen := by
    funext seen entry
    have unasked : watch.questioned settings target entry.analyzer seen = seen := by
      unfold questioned
      split
      · rfl
      · exact asked ..
    rw [renewed, unasked, cleared]
    split
    · exact marked ..
    · rfl
  have collected := watch.collect settings target event state
  dsimp only at collected
  rw [collected, unseen, List.foldl_fixed]

theorem clear_all (state : State) :
    watch.view ((clearAllMarks host).run state).2 =
      Analyzer.all.foldl (fun seen analyzer => watch.cleared analyzer.name seen)
        (watch.view state) := by
  rw [clear_all_marks_run]
  generalize Analyzer.all = analyzers
  induction analyzers generalizing state with
  | nil => rfl
  | cons analyzer rest ih =>
      rw [List.foldl_cons, List.foldl_cons, ← watch.clearMarks]
      exact ih _

end Watch

end Checkup
