import Checkup.Proofs.CheckerHistory
import Checkup.Proofs.Isolation
import Checkup.Proofs.Text.Lossy

/-!
# Sessions of two files

Sessions are kept by the identity of a target, and a file is identified by its path as text. What is
asked about one file leaves the session of another alone as long as their identities differ. Paths
that differ only in what is no text have the same identity, though, and such files share a session.
-/

namespace Checkup

open Terminal (Screen)
open Text.Utf8 (restored restored_eq_iff)

variable {State : Type}

/-! ## Identities -/

theorem Path.display_eq_iff (first second : Path) :
    first.display = second.display ↔ restored first.text = restored second.text := by
  constructor
  · intro same
    exact congrArg (fun text => Text.Utf8.encode text) (String.ofList_injective same)
  · intro same
    have decoded := congrArg Text.Utf8.decode? same
    rw [restored, restored, Text.Utf8.decode_encode, Text.Utf8.decode_encode] at decoded
    exact congrArg String.ofList (Option.some.inj decoded)

/-- Paths that are text are told apart by their identities. -/
theorem Path.display_of_text {first second : Path}
    (isText : (Text.Utf8.decode? first.text).isSome)
    (isTextToo : (Text.Utf8.decode? second.text).isSome) (apart : first ≠ second) :
    first.display ≠ second.display := by
  rw [ne_eq, Path.display_eq_iff, restored_eq_iff.2 isText, restored_eq_iff.2 isTextToo]
  intro same
  cases first
  cases second
  exact apart (congrArg Path.mk same)

/-- The target that a request is about. A session can also be opened for an identity alone. -/
def Request.target? : Request → Option Target
  | .sniff target | .save target | .canShowPrevious target | .showPrevious target
  | .clearMarks target | .caretMoved target => some target
  | .enter _ => none

theorem occasion_target {settings : Settings} {request : Request} {target : Target} {event : Event}
    (runs : settings.occasion? request = some (target, event)) :
    request.target? = some target := by
  cases request with
  | sniff asked =>
      obtain ⟨-, same⟩ := Option.ite_none_right_eq_some.1 runs
      cases same
      rfl
  | save asked =>
      obtain ⟨-, same⟩ := Option.ite_none_right_eq_some.1 runs
      cases same
      rfl
  | _ => cases runs

theorem opened_of_occasion {settings : Settings} {request : Request} {target : Target}
    {event : Event} (runs : settings.occasion? request = some (target, event)) :
    settings.opened? request = some target.id := by
  unfold Settings.opened?
  rw [runs]

/-- A request about a target opens a session for it only, and only if it is checked. -/
theorem opened_by_target {settings : Settings} {request : Request} {target : Target} {id : String}
    (asked : request.target? = some target) (opened : settings.opened? request = some id) :
    settings.checks target = true ∧ target.id = id := by
  cases occasion : settings.occasion? request with
  | some run =>
      obtain ⟨other, event⟩ := run
      have same := (occasion_target occasion).symm.trans asked
      cases same
      rw [opened_of_occasion occasion] at opened
      exact ⟨occasion_checked occasion, Option.some.inj opened⟩
  | none =>
      unfold Settings.opened? at opened
      rw [occasion] at opened
      cases request with
      | enter other => cases asked
      | _ => cases opened

/-! ## What a history leaves alone -/

/-- The session of an identity is as it was. -/
structure Kept (id : String) (before after : Sessions) : Prop where
  opened : id ∈ after ↔ id ∈ before
  report : after.report? id = before.report? id

/-- All that can be asked about a target at two desks is the same. -/
structure Untouched (settings : Settings) (target : Target) (before after : Desk State) : Prop
    extends Kept target.id before.sessions after.sessions where
  canShow : ∀ host : Host State,
    Checker.canShowPrevious ⟨settings, host⟩ target after.sessions =
      Checker.canShowPrevious ⟨settings, host⟩ target before.sessions
  shown : ∀ host : Host State,
    ((Checker.showPrevious ⟨settings, host⟩ target).run after).1 =
      ((Checker.showPrevious ⟨settings, host⟩ target).run before).1

theorem show_previous_answer (checker : Checker State) (target : Target) (desk : Desk State) :
    ((checker.showPrevious target).run desk).1 =
      (checker.settings.previous? target desk.sessions).isSome := by
  rw [Checker.show_previous_run]
  cases checker.settings.previous? target desk.sessions <;> rfl

variable (settings : Settings)

theorem Kept.untouched {target : Target} {before after : Desk State}
    (kept : Kept target.id before.sessions after.sessions) :
    Untouched settings target before after := by
  have previous : settings.previous? target after.sessions =
      settings.previous? target before.sessions := by
    rw [Settings.previous?, Settings.previous?, kept.report]
  refine ⟨kept, fun host => ?_, fun host => ?_⟩
  · rw [Checker.can_show_previous_iff, Checker.can_show_previous_iff, previous]
  · rw [show_previous_answer, show_previous_answer, previous]

variable {settings} {id : String}

theorem filed_own {exchange : Exchange State} {target : Target} {event : Event}
    (runs : settings.occasion? exchange.visit.request = some (target, event)) :
    exchange.filed? settings target.id = exchange.answer.report? := by
  unfold Exchange.filed?
  rw [runs]
  exact if_pos rfl

theorem filed_none_of_unopened {exchange : Exchange State}
    (apart : settings.opened? exchange.visit.request ≠ some id) :
    exchange.filed? settings id = none := by
  unfold Exchange.filed?
  cases occasion : settings.occasion? exchange.visit.request with
  | none => rfl
  | some run =>
      refine if_neg fun same => apart ?_
      rw [opened_of_occasion occasion, same]

/-- A request that opens another session, or none, keeps this one. -/
theorem serve_kept {visit : Visit State} (apart : settings.opened? visit.request ≠ some id)
    (desk : Desk State) :
    Kept id desk.sessions (visit.serve settings desk).after.sessions where
  opened := by
    rw [serve_opened]
    exact or_iff_right apart
  report := by
    rw [serve_report, filed_none_of_unopened apart, Option.none_or]

theorem history_kept {visits : List (Visit State)}
    (apart : ∀ visit ∈ visits, settings.opened? visit.request ≠ some id) (desk : Desk State) :
    Kept id desk.sessions (serveAll settings visits desk).2.sessions := by
  induction visits generalizing desk with
  | nil => exact ⟨Iff.rfl, rfl⟩
  | cons visit rest ih =>
      have first := serve_kept (apart visit List.mem_cons_self) desk
      have later := ih (fun other member => apart other (List.mem_cons_of_mem _ member))
        (visit.serve settings desk).after
      exact ⟨later.opened.trans first.opened, later.report.trans first.report⟩

/-! ## Sniffing on a bench -/

namespace Bench

variable (bench : Bench State)

theorem report_not_empty {analyzer : Analyzer} {settings : Settings} {target : Target}
    (something : analyzer.reads settings bench.tools target ≠ []) (event : Event) :
    (bench.report settings target event).isEmpty = false := by
  obtain ⟨violation, read⟩ := List.exists_mem_of_ne_nil _ something
  have placed : Analyzer.place bench.host violation ∈
      (bench.report settings target event).findings := by
    rw [Report.findings, report_entries]
    refine List.mem_flatMap.2 ⟨bench.entry settings target analyzer, ?_, List.mem_map_of_mem read⟩
    exact List.mem_map_of_mem (by cases analyzer <;> decide)
  rw [Report.isEmpty, (bench.report_paired settings target event).messages]
  rw [List.isEmpty_eq_false_iff_exists_mem]
  exact ⟨_, List.mem_map_of_mem placed⟩

/-- After a run the sessions hold the report that the bench leads to. -/
theorem serve_run {settings : Settings} {request : Request} {target : Target} {event : Event}
    (runs : settings.occasion? request = some (target, event)) (desk : Desk State) :
    (Visit.serve ⟨bench.host, request⟩ settings desk).after.sessions.report? target.id =
      some (bench.report settings target event) := by
  have answered : (Visit.serve ⟨bench.host, request⟩ settings desk).answer =
      .report (some (bench.report settings target event)) := by
    unfold Visit.serve
    dsimp only
    rw [Checker.answer_of_run ⟨settings, bench.host⟩ runs, Checker.run_run]
    dsimp only
    rw [collect_on_bench]
  rw [serve_report, filed_own runs, answered]
  rfl

end Bench

/-! ## Two files -/

/-- Requests on one file leave another alone, in every history and from every desk, if and only if
the two have different identities or the first is not checked at all. Files whose paths are text
have different identities. -/
theorem sessions_apart_iff (settings : Settings) (first second : Path)
    (fallback otherFallback : String) :
    ((∀ (State : Type) (visits : List (Visit State)) (desk : Desk State),
        (∀ visit ∈ visits, visit.request.target? = some (.ofPath first fallback)) →
          Untouched settings (.ofPath second otherFallback) desk
            (serveAll settings visits desk).2) ↔
      first.display ≠ second.display ∨ settings.checks (.ofPath first fallback) = false) ∧
    ((Text.Utf8.decode? first.text).isSome → (Text.Utf8.decode? second.text).isSome →
      first ≠ second → first.display ≠ second.display) := by
  refine ⟨⟨fun untouched => ?_, fun apart State visits desk asked => ?_⟩, Path.display_of_text⟩
  · by_contra shared
    obtain ⟨collide, accepted⟩ := not_or.1 shared
    have checked : settings.checks (.ofPath first fallback) = true :=
      Bool.eq_true_of_not_eq_false accepted
    have same : first.display = second.display := not_not.1 collide
    -- One sniff of the first file on an empty desk opens the session of both.
    let visit : Visit Screen :=
      ⟨(Bench.beside threeLines.surface (sniffedBeside [])).host, .sniff (.ofPath first fallback)⟩
    have opened := (untouched Screen [visit] ⟨∅, {}⟩ (List.forall_mem_singleton.2 rfl)).opened
    have runs : settings.occasion? visit.request = some (.ofPath first fallback, .explicit) :=
      if_pos checked
    have entered : settings.opened? visit.request = some second.display :=
      (opened_of_occasion runs).trans (congrArg some same)
    have member := opened.1 ((serve_opened settings visit ⟨∅, {}⟩ _).2 (.inl entered))
    simp at member
  · refine (history_kept (fun visit member opened => ?_) desk).untouched settings
    obtain ⟨checked, same⟩ := opened_by_target (asked visit member) opened
    rcases apart with other | unchecked
    · exact other same
    · rw [unchecked] at checked
      cases checked

/-- A file whose name begins with a byte of its own. -/
def strangeName (byte : UInt8) : Path := ⟨byte :: Bytes.ofString ".php"⟩

/-- Two names differ in a byte that is no text. After one of the files was sniffed, its report can
be shown for the other, which never was. -/
theorem strange_names_share_session :
    let host := (Bench.beside threeLines.surface (sniffedBeside [])).host
    let checker : Checker Screen := ⟨Settings.default, host⟩
    let target := Target.ofPath (strangeName 0xFE) "utf-8"
    let before : Desk Screen := ⟨∅, {}⟩
    let after := (serveAll Settings.default
      [⟨host, .sniff (.ofPath (strangeName 0xFF) "utf-8")⟩] before).2
    strangeName 0xFF ≠ strangeName 0xFE ∧
      checker.canShowPrevious target before.sessions = false ∧
      checker.canShowPrevious target after.sessions = true ∧
      ((checker.showPrevious target).run before).1 = false ∧
      ((checker.showPrevious target).run after).1 = true ∧
      ¬ Untouched Settings.default target before after := by
  intro host checker target before after
  let bench := Bench.beside threeLines.surface (sniffedBeside [])
  let sniffed := Target.ofPath (strangeName 0xFF) "utf-8"
  have runs : Settings.default.occasion? (.sniff sniffed) = some (sniffed, .explicit) :=
    if_pos (by decide +kernel)
  have read : Analyzer.sniffer.reads Settings.default bench.tools sniffed = [⟨3, "m"⟩] :=
    sniffed_beside_read
  have stored : after.sessions.report? target.id =
      some (bench.report Settings.default sniffed .explicit) := by
    have same : target.id = sniffed.id := by decide +kernel
    rw [same]
    exact bench.serve_run runs before
  have something := bench.report_not_empty (read ▸ List.cons_ne_nil _ _) .explicit
  have shown : (Settings.default.previous? target after.sessions).isSome = true := by
    have checked : Settings.default.checks target = true := by decide +kernel
    rw [Settings.previous?, if_pos checked, stored]
    simp [something]
  have unshown : (Settings.default.previous? target before.sessions).isSome = false := by
    rw [Settings.previous?, Sessions.report_empty]
    split <;> rfl
  have canShow : checker.canShowPrevious target after.sessions = true :=
    (Checker.can_show_previous_iff ..).trans shown
  have couldNot : checker.canShowPrevious target before.sessions = false :=
    (Checker.can_show_previous_iff ..).trans unshown
  refine ⟨by decide, couldNot, canShow, (show_previous_answer ..).trans unshown,
    (show_previous_answer ..).trans shown, fun untouched => ?_⟩
  have same := untouched.canShow host
  rw [canShow, couldNot] at same
  cases same

end Checkup
