import Stepper.Desktop.Workbench
import Stepper.Proofs.Desktop.Screen

/-! Loads and resets in the window. One that fails is reported in the log and in the state, unless it fails by a fault;
a fault gets out of the command. -/

namespace Stepper.Desktop

variable {T : Toolkit}

/-- The answer to a command that failed: the message is the last line of the log, also in its panel as long as that is
attached, and the state is that of an error. -/
structure Reports (reply : Reply T) (message : Text) : Prop where
  state : reply.window.screen.state = .error
  last : reply.log.getLast? = some ⟨.error, message⟩
  panel : reply.window.isAttached = true → reply.panelLines.getLast? = some message

/-- A command that loads: only a file that is no text gets out of it, and all else that fails is reported. -/
structure Contains {α : Type} (reply : Reply T) (legible : Prop) (result : Except LoadError α) (intro : Text) : Prop where
  faults : (∃ f, reply.result = .error f) ↔ ¬ legible
  reports : legible → ∀ e, result = .error e → Reports reply (intro ++ e.message)

/-- A line of the log that is an error is shown. -/
theorem Reports.of_last {reply : Reply T} {log : List LogEntry} {message : Text}
    (hstate : reply.window.screen.state = .error) (hlog : reply.log = log ++ [⟨.error, message⟩]) :
    Reports reply message where
  state := hstate
  last := by rw [hlog, List.getLast?_append]; rfl
  panel hattached := by
    have hshown : LogEntry.isShown reply.window.verbose ⟨.error, message⟩ = true := by
      cases reply.window.verbose <;> rfl
    simp [Reply.panelLines, Reply.shownLog, hattached, hlog, hshown]

theorem Screen.state_update (v : Screen T) (s : Session) : (v.update s).1.state = v.state := by
  unfold update
  dsimp only
  split <;> rfl

namespace Workbench

variable {w : Workbench T} {d : Device} {r : LoadRequest} {e : LoadError}

/-! ### Drawing -/

theorem result_update (w : Workbench T) :
    (w.session.Presentable ∧ w.update.2 = .ok ()) ∨
      (¬ w.session.Presentable ∧ w.update.2 = .error (.digits .writing)) :=
  w.screen.result_update w.session

theorem update_of_presentable (h : w.session.Presentable) : w.update.2 = .ok () := by
  rcases w.result_update with ⟨-, hresult⟩ | ⟨hnot, -⟩
  · exact hresult
  · exact absurd h hnot

/-- A window whose session is presentable is drawn without a fault, in any state. -/
theorem result_drawn (h : w.session.Presentable) (d : Device) (log : List LogEntry) (answer : Option Bool) :
    (Reply.drawn w.update d log answer).result = .ok answer ∧
      ∀ state, (Reply.drawn (w.updateAs state) d log answer).result = .ok answer := by
  have hupdate : ∀ {w : Workbench T}, w.session.Presentable → (Reply.drawn w.update d log answer).result = .ok answer := by
    intro w h
    rw [Reply.drawn, update_of_presentable h]
    rfl
  exact ⟨hupdate h, fun state => hupdate (w := w.withScreen _) h⟩

theorem reports_drawn (w : Workbench T) (d : Device) (log : List LogEntry) (message : Text) (answer : Option Bool) :
    Reports (.drawn (w.updateAs .error) d (log ++ [⟨.error, message⟩]) answer) message :=
  .of_last (Screen.state_update _ _) rfl

/-! ### Loads -/

/-- The window is drawn after every load, so that only the load itself may end in a fault. -/
theorem load_fault_iff : (∃ f, (w.load d r).result = .error f) ↔ ∃ f, (w.session.load d r).result = .error (.fault f) := by
  have hs : (w.session.load d r).state.Presentable := Session.presentable_of_loading (c := .load d r) rfl
  have hdrawn := result_drawn (w := w.withSession (w.session.load d r).state) hs d
  unfold load
  dsimp only
  rcases (w.session.load d r).result with e | _
  · cases e with
    | fault f => simp [Reply.failing]
    | unreadable path cause => simp [hdrawn]
    | refused cause => simp [hdrawn]
  · dsimp only
    rw [(result_drawn hs _ _ _).2]
    simp

theorem reports_load (h : (w.session.load d r).result = .error e) (hforeseen : ∀ f, e ≠ .fault f) :
    Reports (w.load d r) ("Load failed: " ++ e.message) := by
  unfold load
  dsimp only
  rw [h]
  cases e with
  | fault f => exact absurd rfl (hforeseen f)
  | unreadable path cause => exact reports_drawn _ _ _ _ _
  | refused cause => exact reports_drawn _ _ _ _ _

/-! ### Resets -/

theorem reset_fault_iff (h : w.session.request ≠ none) :
    (∃ f, (w.reset d).result = .error f) ↔ ∃ f, (w.session.reset d).result = .error (.fault f) := by
  obtain ⟨r, hr⟩ := Option.ne_none_iff_exists'.1 h
  have hs : (w.session.reset d).state.Presentable :=
    Session.presentable_of_loading (c := .reset d) (r := r) (by rw [Session.loading?, hr]; rfl)
  have hdrawn := result_drawn (w := w.withSession (w.session.reset d).state) hs d
  unfold reset
  dsimp only
  rcases (w.session.reset d).result with e | done
  · cases e with
    | fault f => simp [Reply.failing]
    | unreadable path cause => simp [hdrawn]
    | refused cause => simp [hdrawn]
  · cases done <;> simp [hdrawn]

theorem reports_reset (h : (w.session.reset d).result = .error e) (hforeseen : ∀ f, e ≠ .fault f) :
    Reports (w.reset d) ("Reset failed: " ++ e.message) := by
  unfold reset
  dsimp only
  rw [h]
  cases e with
  | fault f => exact absurd rfl (hforeseen f)
  | unreadable path cause => exact reports_drawn _ _ _ _ _
  | refused cause => exact reports_drawn _ _ _ _ _

/-- Without a program there is nothing to reset and nothing to show. -/
theorem result_reset_of_none (h : w.session.request = none) (hready : w.session.initialized = false) :
    (w.reset d).result = .ok none := by
  have hreset : w.session.reset d = .ok w.session [] false := by
    rw [Session.reset, h]
  unfold reset
  rw [hreset]
  exact (result_drawn (w := w.withSession w.session) (Session.presentable_of_unready hready) d _ _).1

/-- The machine has a stack of no negative size, and memory has room for it. -/
def HasRoom (w : Workbench T) (d : Device) : Prop :=
  0 ≤ w.session.machine.stackSize ∧ Cpu.Fits d.room w.session.machine.stackSize

section

variable (hroom : w.HasRoom d) (hnull : (Path.ofText r.path).hasNull = false) (hsp : 0 ≤ r.spStart)

include hroom hnull hsp

theorem contains_load :
    Contains (w.load d r) (d.Legible (Path.ofText r.path)) (w.session.load d r).result "Load failed: " := by
  have hfault := w.session.machine.load_fault_iff d r.pcStart hnull hsp hroom.1 hroom.2
  rw [← w.session.result_load d r] at hfault
  refine ⟨load_fault_iff.trans hfault, fun hlegible e he => reports_load he ?_⟩
  rintro f rfl
  exact hfault.1 ⟨f, he⟩ hlegible

theorem contains_reset (hrequest : w.session.request = some r) :
    Contains (w.reset d) (d.Legible (Path.ofText r.path)) (w.session.reset d).result "Reset failed: " := by
  have hfault := w.session.machine.load_fault_iff d r.pcStart hnull hsp hroom.1 hroom.2
  simp only [← Session.reset_error_iff hrequest] at hfault
  refine ⟨(reset_fault_iff (by simp [hrequest])).trans hfault, fun hlegible e he => reports_reset he ?_⟩
  rintro f rfl
  exact hfault.1 ⟨f, he⟩ hlegible

end

end Workbench

end Stepper.Desktop
