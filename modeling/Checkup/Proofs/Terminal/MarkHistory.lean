import Checkup.Checker
import Checkup.Proofs.Terminal.Marks
import Checkup.Proofs.Watching
import Checkup.Terminal.Screen

/-!
# Marks never go stale

A terminal's surface is marked by runs and cleared by command, in any order and for any targets,
with tools that print what they like. Whatever has happened before, the marks are those of the last
run, or there are none.
-/

namespace Checkup

open Terminal (Page Screen Marks)

variable {World : Type}

/-! ## Steps on a page -/

/-- What runs tools and keeps a log, apart from any surface. -/
structure Toolbox (World : Type) where
  run : List String → World → Bytes × World
  log : LogLevel → String → World → World

/-- A terminal's surface, and beside it the world in which the tools run. -/
def Toolbox.onPage (toolbox : Toolbox World) (page : Page) : Host (Screen × World) where
  lineToAnchor := page.surface.lineToAnchor
  caretRow state := page.surface.caretRow state.1
  isScratch state := page.surface.isScratch state.1
  clearMarks owner state := (page.surface.clearMarks owner state.1, state.2)
  addMarks owner anchors marker state :=
    (page.surface.addMarks owner anchors marker state.1, state.2)
  presentList items state :=
    let shown := page.surface.presentList items state.1
    (shown.1, shown.2, state.2)
  focus anchor state := (page.surface.focus anchor state.1, state.2)
  setStatus text state := (page.surface.setStatus text state.1, state.2)
  clearStatus state := (page.surface.clearStatus state.1, state.2)
  run vector state :=
    let printed := toolbox.run vector state.2
    (printed.1, state.1, printed.2)
  log level text state := (state.1, toolbox.log level text state.2)

namespace Toolbox

variable (toolbox : Toolbox World) (page : Page)

/-- The marks on a page change only when the surface is told so. -/
def watchMarks : Watch (toolbox.onPage page) Marks where
  view state := state.1.marks
  asked _ marks := marks
  cleared owner marks := marks.erase owner
  marked owner anchors marker marks := marks.insert owner anchors marker
  run _ _ := rfl
  log _ _ _ := rfl
  clearMarks _ _ := rfl
  addMarks _ _ _ _ := rfl

theorem watch_renewed (settings : Settings) (target : Target) :
    (toolbox.watchMarks page).renewed settings target =
      Marks.renew settings.display.gutterMarks := by
  funext marks entry
  have unasked : (toolbox.watchMarks page).questioned settings target entry.analyzer marks =
      marks := by
    unfold Watch.questioned
    split
    · rfl
    · rfl
  rw [Watch.renewed, unasked]
  rfl

end Toolbox

/-- A step in the life of a terminal's surface: a run, the command that clears the marks, or
anything else that leaves the marks as they are. -/
inductive SurfaceStep (World : Type) where
  | collect (toolbox : Toolbox World) (settings : Settings) (target : Target) (event : Event)
  | clearMarks (toolbox : Toolbox World) (settings : Settings) (sessions : Sessions)
      (target : Target)
  | elsewhere (change : Screen × World → Screen × World)
      (keeps : ∀ state, (change state).1.marks = state.1.marks)

namespace Terminal.Page

variable (page : Page)

def collect (toolbox : Toolbox World) (settings : Settings) (target : Target) (event : Event)
    (state : Screen × World) : Report × Screen × World :=
  (Checkup.collect (toolbox.onPage page) settings target event).run state

/-- The command of a checker with these sessions. -/
def clearMarks (toolbox : Toolbox World) (settings : Settings) (sessions : Sessions)
    (target : Target) (state : Screen × World) : Desk (Screen × World) :=
  let checker : Checker (Screen × World) := ⟨settings, toolbox.onPage page⟩
  ((checker.clearMarks target).run ⟨sessions, state⟩).2

def perform (state : Screen × World) : SurfaceStep World → Screen × World
  | .collect toolbox settings target event => (page.collect toolbox settings target event state).2
  | .clearMarks toolbox settings sessions target =>
    (page.clearMarks toolbox settings sessions target state).host
  | .elsewhere change _ => change state

theorem collect_marks (toolbox : Toolbox World) (settings : Settings) (target : Target)
    (event : Event) (state : Screen × World) :
    let ran := page.collect toolbox settings target event state
    ran.1.entries.map (·.analyzer) = Analyzer.all ∧
      ran.2.1.marks =
        ran.1.entries.foldl (Marks.renew settings.display.gutterMarks) state.1.marks := by
  intro ran
  have renewed := (toolbox.watchMarks page).collect settings target event state
  rw [toolbox.watch_renewed] at renewed
  exact ⟨collect_analyzers .., renewed⟩

theorem clear_all_marks (toolbox : Toolbox World) {state : Screen × World}
    (tidy : state.1.marks.Tidy) :
    ((clearAllMarks (toolbox.onPage page)).run state).2.1.marks = [] := by
  have cleared := (toolbox.watchMarks page).clear_all state
  exact cleared.trans (Marks.erase_all tidy)

theorem clear_marks_run (toolbox : Toolbox World) (settings : Settings) (sessions : Sessions)
    (target : Target) (state : Screen × World) :
    page.clearMarks toolbox settings sessions target state =
      if settings.checks target then
        ⟨sessions, ((clearAllMarks (toolbox.onPage page)).run state).2⟩
      else ⟨sessions, state⟩ := by
  unfold clearMarks Checker.clearMarks
  dsimp only
  split
  · rfl
  · rfl

/-- The invariant of every step: only analyzers own marks, one mark each, in the order of names. -/
theorem tidy_perform {state : Screen × World} (tidy : state.1.marks.Tidy)
    (step : SurfaceStep World) : (page.perform state step).1.marks.Tidy := by
  cases step with
  | collect toolbox settings target event =>
      obtain ⟨complete, renewed⟩ := page.collect_marks toolbox settings target event state
      rw [perform, renewed]
      exact Marks.tidy_renew_all complete tidy _
  | clearMarks toolbox settings sessions target =>
      rw [perform, clear_marks_run]
      split
      · dsimp only
        rw [page.clear_all_marks toolbox tidy]
        exact Marks.tidy_nil
      · exact tidy
  | elsewhere change keeps =>
      rw [perform, keeps]
      exact tidy

theorem tidy_history {state : Screen × World} (tidy : state.1.marks.Tidy)
    (history : List (SurfaceStep World)) : (history.foldl page.perform state).1.marks.Tidy := by
  induction history generalizing state with
  | nil => exact tidy
  | cons step rest ih =>
      rw [List.foldl_cons]
      exact ih (page.tidy_perform tidy step)

end Terminal.Page

/-- After any history of a terminal's surface, beginning without marks, the last step alone tells
the marks. A run that shows marks leaves one for each entry of its report that has findings, with
the anchors in the order of the findings, and the owners stand in the order of their names; a run
that shows none leaves none, nor does the command that clears them, unless its target is not
checked: then nothing changes. -/
theorem marks_of_last_step (label : String) (content : Bytes) (interactive color : Bool)
    (world : World) (history : List (SurfaceStep World)) :
    let page := Page.ofBytes label content interactive color
    let before := history.foldl page.perform ({}, world)
    (∀ (toolbox : Toolbox World) (settings : Settings) (target : Target) (event : Event),
      let (report, after) := page.collect toolbox settings target event before
      if settings.display.gutterMarks then
        after.1.marks.Ascending ∧ after.1.marks.Perm (report.entries.filterMap Entry.mark?)
      else after.1.marks = []) ∧
    ∀ (toolbox : Toolbox World) (settings : Settings) (sessions : Sessions) (target : Target),
      let after := page.clearMarks toolbox settings sessions target before
      if settings.checks target then after.host.1.marks = [] else after = ⟨sessions, before⟩ := by
  intro page before
  have tidy : before.1.marks.Tidy := page.tidy_history Marks.tidy_nil history
  constructor
  · intro toolbox settings target event
    obtain ⟨complete, renewed⟩ := page.collect_marks toolbox settings target event before
    have exactly := Marks.renewed_of_entries complete tidy settings.display.gutterMarks
    dsimp only
    rw [renewed]
    split
    · rename_i shown
      rw [shown, Marks.ofEntries, if_pos rfl] at exactly
      exact ⟨Marks.ascending_renew_all tidy.ascending _ _, by rw [shown]; exact exactly⟩
    · rename_i hidden
      rw [Marks.ofEntries, if_neg hidden] at exactly
      exact exactly.eq_nil
  · intro toolbox settings sessions target
    dsimp only
    rw [page.clear_marks_run]
    split
    · exact page.clear_all_marks toolbox tidy
    · rfl

end Checkup
