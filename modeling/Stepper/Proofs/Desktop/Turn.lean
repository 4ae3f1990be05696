import Stepper.Desktop.Opening
import Stepper.Proofs.CommandLine.Run
import Stepper.Proofs.Desktop.Workbench

/-! What an event does to the window. It draws all of the window or only the input fields, or it changes nothing on the
screen; the configuration changes only with a load that succeeds. -/

namespace Stepper.Desktop

variable {T : Toolkit}

/-- An event with the files as they are when it comes, and with what the user does in a dialog. -/
structure Happening where
  device : Device
  user : DialogInput
  event : Event

/-- Only what is not in the tables may be different. -/
structure Screen.SameTables (v v' : Screen T) : Prop where
  registers : v.registers = v'.registers
  stack : v.stack = v'.stack

namespace Workbench

variable {w : Workbench T} {d : Device} {r : LoadRequest}

def reply (w : Workbench T) (h : Happening) : Reply T :=
  w.handle h.device h.user h.event

/-- The window after events one after the other, whether or not they were foreseen. -/
def afterwards (w : Workbench T) (hs : List Happening) : Workbench T :=
  hs.foldl (fun w h => (w.reply h).window) w

/-- What the user asks for in the dialog. -/
def asked (w : Workbench T) (user : DialogInput) : Option LoadRequest :=
  match (Dialog.ofConfig T w.config).answer user with
  | .ok request => request
  | .error _ => none

/-- The load that an event stands for. -/
def loading? (w : Workbench T) (h : Happening) : Option LoadRequest :=
  match h.event with
  | .load r => some r
  | .click .load => w.asked h.user
  | .key .letterL _ => if w.hasFocus then none else w.asked h.user
  | _ => none

def succeeds (w : Workbench T) (d : Device) (r : LoadRequest) : Bool :=
  (w.session.load d r).result.toOption.isSome

/-- The load that succeeds with an event. -/
def loaded? (w : Workbench T) (h : Happening) : Option LoadRequest :=
  (w.loading? h).filter (w.succeeds h.device)

/-- What an event comes to, and the load that succeeded with it. -/
inductive Turn (w : Workbench T) (d : Device) (reply : Reply T) : Option LoadRequest → Prop where
  | rests (window : reply.window = w) : Turn w d reply none
  | closes (window : reply.window = { w with isAttached := false, isClosed := true }) : Turn w d reply none
  | draws (commands : List Command) (v : Screen T) (tables : v.SameTables w.screen)
      (window : reply.window = (((w.withSession (w.session.runs commands)).withScreen v).update).1)
      (fault : ¬ (w.session.runs commands).Presentable → ∃ f, reply.result = .error f) : Turn w d reply none
  | drawsInputs (commands : List Command) (fields : Fields)
      (only : w.session.runs commands = { w.session with fields := fields })
      (window : reply.window = (w.withSession (w.session.runs commands)).updateInputs) : Turn w d reply none
  | escapes (commands : List Command) (window : reply.window = w.withSession (w.session.runs commands))
      (fault : ∃ f, reply.result = .error f) : Turn w d reply none
  | loads {r : LoadRequest} (ok : (w.session.load d r).result = .ok ())
      (window : reply.window =
        ({ w with
          session := (w.session.load d r).state
          config := w.config.withLoad r
          screen := { w.screen with title := titleFor (Path.ofText r.path) } }.updateAs .ready).1) : Turn w d reply (some r)

/-- Only the window counts, and whether a fault got out. -/
theorem Turn.congr {reply reply' : Reply T} {loaded : Option LoadRequest} (h : Turn w d reply loaded)
    (hwindow : reply'.window = reply.window) (hfault : (∃ f, reply.result = .error f) → ∃ f, reply'.result = .error f) :
    Turn w d reply' loaded := by
  cases h with
  | rests window => exact .rests (hwindow.trans window)
  | closes window => exact .closes (hwindow.trans window)
  | draws commands v tables window fault =>
    exact .draws commands v tables (hwindow.trans window) fun hs => hfault (fault hs)
  | drawsInputs commands fields only window => exact .drawsInputs commands fields only (hwindow.trans window)
  | escapes commands window fault => exact .escapes commands (hwindow.trans window) (hfault fault)
  | loads ok window => exact .loads ok (hwindow.trans window)

/-! ### Commands -/

theorem turn_drawn (commands : List Command) (v : Screen T) (tables : v.SameTables w.screen) (d' : Device)
    (log : List LogEntry) (answer : Option Bool) :
    Turn w d (.drawn (((w.withSession (w.session.runs commands)).withScreen v).update) d' log answer) none := by
  refine .draws commands v tables rfl fun hs => ?_
  rcases result_update ((w.withSession (w.session.runs commands)).withScreen v) with ⟨hpresentable, -⟩ | ⟨-, hfault⟩
  · exact absurd hpresentable hs
  · exact ⟨_, by rw [Reply.drawn, hfault]; rfl⟩

theorem turn_drawnAs (commands : List Command) (state : RunState) (d' : Device) (log : List LogEntry)
    (answer : Option Bool) :
    Turn w d (.drawn ((w.withSession (w.session.runs commands)).updateAs state) d' log answer) none :=
  turn_drawn (w := w) commands ((w.screen.setState (w.session.runs commands) state)) ⟨rfl, rfl⟩ d' log answer

theorem succeeds_eq_true_iff : w.succeeds d r = true ↔ (w.session.load d r).result = .ok () := by
  rw [succeeds]
  cases (w.session.load d r).result <;> simp [Except.toOption]

theorem turn_load (w : Workbench T) (d : Device) (r : LoadRequest) :
    Turn w d (w.load d r) ((some r).filter (w.succeeds d)) := by
  have hsucceeds := succeeds_eq_true_iff (w := w) (d := d) (r := r)
  rw [Option.filter_some]
  unfold load
  dsimp only
  cases hresult : (w.session.load d r).result with
  | ok _ =>
    rw [if_pos (hsucceeds.2 hresult)]
    exact .loads hresult rfl
  | error cause =>
    rw [if_neg (by simp [hsucceeds, hresult])]
    cases cause with
    | fault f => exact .escapes [.load d r] rfl ⟨f, rfl⟩
    | unreadable path cause => exact turn_drawnAs [.load d r] _ _ _ _
    | refused cause => exact turn_drawnAs [.load d r] _ _ _ _

theorem turn_askAndLoad (w : Workbench T) (d : Device) (user : DialogInput) :
    Turn w d (w.askAndLoad d user) ((w.asked user).filter (w.succeeds d)) := by
  unfold askAndLoad asked
  dsimp only
  rcases (Dialog.ofConfig T w.config).answer user with warning | _ | r
  · exact .rests rfl
  · exact .rests rfl
  · refine (w.turn_load d r).congr rfl ?_
    rintro ⟨f, hf⟩
    exact ⟨f, congrArg (Except.map fun _ => none) hf⟩

theorem turn_step (w : Workbench T) (d : Device) : Turn w d (w.step d) none := by
  unfold step
  dsimp only
  cases w.session.step.result with
  | error e =>
    dsimp only
    split
    · next f _ => exact .escapes [.step] rfl ⟨f, rfl⟩
    · exact turn_drawnAs [.step] _ _ _ _
  | ok r =>
    dsimp only
    split
    · exact turn_drawnAs [.step] _ _ _ _
    · split
      · exact turn_drawnAs [.step] _ _ _ _
      · exact turn_drawn [.step] w.screen ⟨rfl, rfl⟩ _ _ _

theorem turn_reset (w : Workbench T) (d : Device) : Turn w d (w.reset d) none := by
  unfold reset
  dsimp only
  rcases (w.session.reset d).result with e | done
  · cases e with
    | fault f => exact .escapes [.reset d] rfl ⟨f, rfl⟩
    | unreadable path cause => exact turn_drawnAs [.reset d] _ _ _ _
    | refused cause => exact turn_drawnAs [.reset d] _ _ _ _
  · cases done with
    | true => exact turn_drawnAs [.reset d] _ _ _ _
    | false => exact turn_drawn [.reset d] w.screen ⟨rfl, rfl⟩ _ _ _

theorem turn_redraw {α : Type} (w : Workbench T) (d : Device) (c : Command) {o : Outcome Session Fault α}
    (h : o.state = w.session.after c) : Turn w d (w.redraw d o) none := by
  unfold redraw
  dsimp only
  rw [h]
  cases o.result with
  | ok _ => exact turn_drawn [c] w.screen ⟨rfl, rfl⟩ _ _ _
  | error f => exact .escapes [c] rfl ⟨f, rfl⟩

theorem turn_commit (w : Workbench T) (d : Device) : Turn w d (w.commit d) none :=
  w.turn_redraw d .commit rfl

theorem turn_writePage (w : Workbench T) (d : Device) : Turn w d (w.writePage d) none := by
  refine .rests ?_
  unfold writePage
  dsimp only
  rcases (Snapshot.write w.session d none {}).result with e | _
  · cases e <;> rfl
  · rfl

theorem turn_close (w : Workbench T) (d : Device) : Turn w d (w.close d) none := by
  refine .closes ?_
  unfold close
  rcases w.config.save d w.configPath with ⟨d', (e | f) | _⟩ <;> rfl

theorem turn_focus (w : Workbench T) (d : Device) (id : FieldId) : Turn w d (.silent (w.focus id) d) none :=
  .drawsInputs [.activate (some id)] _ rfl rfl

theorem turn_mouse (w : Workbench T) (d : Device) : Turn w d (w.mouse d) none := by
  unfold mouse
  split
  · exact .drawsInputs [.releaseFocus] _ rfl rfl
  · exact .rests rfl

theorem turn_typeKey (w : Workbench T) (d : Device) (key : Key) (t : Text) : Turn w d (w.typeKey d key t) none := by
  unfold typeKey
  split
  · next k => exact w.turn_redraw d (.press k) rfl
  · split
    · exact turn_drawn [.typeText t] w.screen ⟨rfl, rfl⟩ _ _ _
    · exact turn_drawn [] w.screen ⟨rfl, rfl⟩ _ _ _

theorem turn_tab (w : Workbench T) (d : Device) : Turn w d (w.tab d) none := by
  unfold tab
  split
  · next hfocus =>
    obtain ⟨id, hid⟩ := Option.isSome_iff_exists.1 hfocus
    refine .drawsInputs [.press .tab] w.session.fields.cycle ?_ rfl
    change (w.session.press .tab).state = _
    rw [Session.press, hid, Fields.press, hid]
    rfl
  · exact .rests rfl

theorem turn_press (w : Workbench T) (d : Device) (user : DialogInput) (key : Key) (t : Text) :
    Turn w d (w.press d user key t) (w.loaded? ⟨d, user, .key key t⟩) := by
  by_cases hfocus : w.hasFocus = true
  · have hpress : w.press d user key t = w.typeKey d key t := if_pos hfocus
    have hnone : w.loaded? ⟨d, user, .key key t⟩ = none := by
      cases key <;> simp [loaded?, loading?, hfocus]
    rw [hpress, hnone]
    exact w.turn_typeKey d key t
  · unfold press
    rw [if_neg hfocus]
    cases key with
    | space => exact w.turn_step d
    | letterR => exact w.turn_reset d
    | letterL =>
      unfold loaded? loading?
      dsimp only
      rw [if_neg hfocus]
      exact w.turn_askAndLoad d user
    | escape => exact w.turn_close d
    | edit key => exact .rests rfl
    | other => exact .rests rfl

theorem turn_reply (w : Workbench T) (h : Happening) : Turn w h.device (w.reply h) (w.loaded? h) := by
  obtain ⟨d, user, event⟩ := h
  cases event with
  | key key t => exact w.turn_press d user key t
  | tab => exact w.turn_tab d
  | click button =>
    cases button with
    | setValue => exact w.turn_commit d
    | step => exact w.turn_step d
    | reset => exact w.turn_reset d
    | load => exact w.turn_askAndLoad d user
    | snapshot => exact w.turn_writePage d
  | field id button =>
    cases button with
    | left => exact w.turn_focus d id
    | right => exact .rests rfl
  | mouse => exact w.turn_mouse d
  | close => exact w.turn_close d
  | load r => exact w.turn_load d r

/-! ### The session of the window -/

theorem session_step (w : Workbench T) (d : Device) : (w.step d).window.session = w.session.step.state := by
  unfold step
  dsimp only
  cases w.session.step.result with
  | error e =>
    dsimp only
    split <;> rfl
  | ok r =>
    dsimp only
    split
    · rfl
    · split <;> rfl

theorem session_reset (w : Workbench T) (d : Device) : (w.reset d).window.session = (w.session.reset d).state := by
  unfold reset
  dsimp only
  rcases (w.session.reset d).result with e | done
  · cases e <;> rfl
  · cases done <;> rfl

theorem session_load (w : Workbench T) (d : Device) (r : LoadRequest) :
    (w.load d r).window.session = (w.session.load d r).state := by
  unfold load
  dsimp only
  rcases (w.session.load d r).result with e | _
  · cases e <;> rfl
  · rfl

/-- What every event keeps is kept by all of them. -/
theorem afterwards_induction {P : Workbench T → Prop} (step : ∀ w h, P w → P (w.reply h).window) (hw : P w)
    (hs : List Happening) : P (w.afterwards hs) := by
  induction hs generalizing w with
  | nil => exact hw
  | cons h hs ih => exact ih (step w h hw)

/-! ### Opening -/

/-- The load that succeeds with the opening. -/
def openingLoad? (T : Toolkit) (l : CommandLine.Launch) (d : Device) : Option LoadRequest :=
  match (launched T l).2 with
  | .error _ => none
  | .ok () => l.request.filter ((launched T l).1.succeeds d)

theorem turn_opening (T : Toolkit) (l : CommandLine.Launch) (d : Device) :
    Turn (launched T l).1 d (opening T l d) (openingLoad? T l d) := by
  unfold opening openingLoad?
  generalize launched T l = built
  obtain ⟨w, f | _⟩ := built
  · exact .rests rfl
  · cases l.request with
    | none => exact .rests rfl
    | some r =>
      refine (w.turn_load d r).congr rfl ?_
      rintro ⟨f, hf⟩
      exact ⟨f, congrArg (Except.map fun _ => none) hf⟩

theorem built_of_unready {l : CommandLine.Launch} (h : l.session.initialized = false) : (launched T l).2 = .ok () :=
  update_of_presentable (w := create T l.session l.config l.configPath l.verbose) (Session.presentable_of_unready h)

theorem built_of_opening {l : CommandLine.Launch} (h : ∀ f, (opening T l d).result ≠ .error f) :
    (launched T l).2 = .ok () := by
  revert h
  unfold opening
  generalize launched T l = built
  obtain ⟨w, f | _⟩ := built
  · exact fun h => absurd rfl (h f)
  · exact fun _ => rfl

/-- A window that some command line opened, after any events. -/
def Reached (w : Workbench T) : Prop :=
  ∃ arguments d l hs, (CommandLine.run arguments d).ending = .window l ∧ w = (opening T l d).window.afterwards hs

/-- What holds of a new window and is kept by every turn holds of every window that is reached. -/
theorem reached_induction {P : Workbench T → Prop}
    (new : ∀ c path request verbose, P (launched T ⟨CommandLine.freshSession c, c, path, request, verbose⟩).1)
    (turn : ∀ w d reply loaded, P w → Turn w d reply loaded → P reply.window) (hw : w.Reached) : P w := by
  obtain ⟨arguments, d, l, hs, hrun, rfl⟩ := hw
  obtain ⟨s, -, c, -, rfl⟩ := CommandLine.launch_of_run hrun
  refine afterwards_induction (fun w h hw => turn w h.device _ _ hw (w.turn_reply h)) ?_ hs
  exact turn _ d _ _ (new c _ _ _) (turn_opening T _ d)

/-- The session of a window only goes through commands. -/
theorem Turn.session {P : Session → Prop} (keep : ∀ s c, P s → P (s.after c)) {reply : Reply T}
    {loaded : Option LoadRequest} (hw : P w.session) (hturn : Turn w d reply loaded) : P reply.window.session := by
  have hruns : ∀ commands, P (w.session.runs commands) := by
    intro commands
    induction commands using List.reverseRecOn with
    | nil => exact hw
    | append_singleton commands c ih =>
      rw [Session.runs_append]
      exact keep _ c ih
  cases hturn with
  | rests window => exact window ▸ hw
  | closes window => exact window ▸ hw
  | draws commands v tables window fault => exact window ▸ hruns commands
  | drawsInputs commands fields only window => exact window ▸ hruns commands
  | escapes commands window fault => exact window ▸ hruns commands
  | @loads r ok window => exact window ▸ keep _ (.load d r) hw

/-- What holds of the sessions that command lines start with and is kept by every command holds of every window. -/
theorem Reached.session {P : Session → Prop}
    (new : ∀ c, P { CommandLine.freshSession c with fields := (CommandLine.freshSession c).fields.showAll })
    (keep : ∀ s c, P s → P (s.after c)) (hw : w.Reached) : P w.session :=
  reached_induction (P := fun w => P w.session) (fun c _ _ _ => new c) (fun _ _ _ _ h hturn => hturn.session keep h) hw

/-- A window without a program has nothing to show. -/
theorem Reached.unready (hw : w.Reached) (h : w.session.request = none) : w.session.initialized = false := by
  have hsound : w.session.Sound Cpu.defaultStackSize :=
    hw.session (fun c => ⟨rfl, fun hready => nomatch hready⟩) fun _ c hs => hs.after c
  rw [← Bool.not_eq_true]
  intro hready
  obtain ⟨r, hr, -⟩ := hsound.since hready
  simp [h] at hr

end Workbench

/-- A window without a program. -/
def idleLaunch : CommandLine.Launch :=
  ⟨CommandLine.freshSession Config.standard, Config.standard, Config.defaultPath, none, false⟩

theorem run_idle : (CommandLine.run [] threeLinesDevice).ending = .window idleLaunch := by
  have hread : CommandLine.Settings.read [] = .ok CommandLine.Progress.initial.settings := by
    simp [CommandLine.Settings.read, CommandLine.readArguments, CommandLine.Progress.readAll,
      CommandLine.Progress.initial, Except.mapError, bind, Except.bind, pure, Except.pure]
  rw [CommandLine.run, hread]
  rfl

theorem reached_idle (T : Toolkit) (hs : List Happening) :
    ((Workbench.opening T idleLaunch threeLinesDevice).window.afterwards hs).Reached :=
  ⟨[], threeLinesDevice, idleLaunch, hs, run_idle, rfl⟩

end Stepper.Desktop
