import Stepper.Proofs.Input.Focus
import Stepper.Proofs.Session.Command

/-! The input fields of a session. A commit and a load that succeed empty them and take the focus away; steps, resets,
and commits and loads that fail leave them alone. -/

namespace Stepper.Session

variable {s : Session} {d : Device} {r : LoadRequest}

theorem fields_step (s : Session) : s.step.state.fields = s.fields := by
  obtain ⟨e, he⟩ := s.step_state
  rw [he]
  rfl

theorem fields_reset (s : Session) (d : Device) : (s.reset d).state.fields = s.fields := by
  unfold reset start
  cases s.request with
  | none => rfl
  | some r =>
    dsimp only
    cases (s.machine.load d r.path r.pcStart r.spStart).result <;> rfl

theorem fields_load_of_error {cause : LoadError} (h : (s.load d r).result = .error cause) :
    (s.load d r).state.fields = s.fields := by
  rw [result_load] at h
  unfold load start
  dsimp only
  rw [h]
  rfl

theorem fields_load_of_ok (h : (s.load d r).result = .ok ()) :
    (s.load d r).state.fields = s.fields.clearAll.release := by
  rw [result_load] at h
  unfold load start
  dsimp only
  rw [h]
  rfl

/-- What a commit that fails or succeeds does to the fields. -/
theorem fields_commit (s : Session) :
    s.commit.state.fields = if s.commit.result.toOption.isSome then s.fields.clearAll.release else s.fields := by
  have hcommit := s.commitsAs
  generalize s.commit = done at hcommit
  cases hcommit <;> rfl

theorem fields_commit_of_error {fault : Fault} (h : s.commit.result = .error fault) :
    s.commit.state.fields = s.fields := by
  rw [fields_commit, h]
  rfl

theorem fields_commit_of_ok {result : CommitResult} (h : s.commit.result = .ok result) :
    s.commit.state.fields = s.fields.clearAll.release := by
  rw [fields_commit, h]
  rfl

theorem exists_actions_commit (s : Session) : ∃ actions, s.commit.state.fields = s.fields.runs actions := by
  cases h : s.commit.result with
  | error fault => exact ⟨[], fields_commit_of_error h⟩
  | ok result => exact ⟨[.clearAll, .release], fields_commit_of_ok h⟩

/-- Emptied fields are without text and without the focus, and are shown as before. -/
theorem get_emptied {fs : Fields} (hfs : fs.Sound) (id : FieldId) :
    fs.clearAll.release.get id = ⟨(fs.get id).editor.clear, false, (fs.get id).visible⟩ := by
  rw [Fields.release, Fields.get_activate hfs.clearAll, Fields.clearAll, Fields.get_updateAll]
  rfl

/-- Whatever a command is, it does to the fields what some actions on them do. -/
theorem exists_actions (s : Session) (c : Command) : ∃ actions, (s.after c).fields = s.fields.runs actions := by
  cases c with
  | load d r =>
    cases hresult : (s.load d r).result with
    | error cause => exact ⟨[], fields_load_of_error hresult⟩
    | ok _ => exact ⟨[.clearAll, .release], fields_load_of_ok hresult⟩
  | reset d => exact ⟨[], s.fields_reset d⟩
  | step => exact ⟨[], s.fields_step⟩
  | activate target => exact ⟨[.activate target], rfl⟩
  | releaseFocus => exact ⟨[.release], rfl⟩
  | typeText t => exact ⟨[.typeText t], rfl⟩
  | press key =>
    rw [after, press]
    split
    · exact ⟨[], rfl⟩
    · split
      · exact s.exists_actions_commit
      · exact ⟨[.press key], rfl⟩
  | commit => exact s.exists_actions_commit

theorem exists_actions_runs (s : Session) (commands : List Command) :
    ∃ actions, (s.runs commands).fields = s.fields.runs actions := by
  induction commands generalizing s with
  | nil => exact ⟨[], rfl⟩
  | cons c commands ih =>
    obtain ⟨first, hfirst⟩ := s.exists_actions c
    obtain ⟨rest, hrest⟩ := ih (s.after c)
    refine ⟨first ++ rest, ?_⟩
    rw [Fields.runs, List.foldl_append]
    change ((s.after c).runs commands).fields = (s.fields.runs first).runs rest
    rw [hrest, hfirst]

theorem sound_after (hs : s.fields.Sound) (c : Command) : (s.after c).fields.Sound := by
  obtain ⟨actions, hactions⟩ := s.exists_actions c
  exact hactions ▸ hs.runs actions

theorem sound_runs (hs : s.fields.Sound) (commands : List Command) : (s.runs commands).fields.Sound := by
  obtain ⟨actions, hactions⟩ := s.exists_actions_runs commands
  exact hactions ▸ hs.runs actions

theorem capacity_runs (hs : s.fields.Sound) (commands : List Command) (id : FieldId) :
    ((s.runs commands).fields.get id).editor.capacity = (s.fields.get id).editor.capacity := by
  obtain ⟨actions, hactions⟩ := s.exists_actions_runs commands
  rw [hactions, Fields.capacity_runs hs]

/-- The fields of every session are sound, and hold what its layout says. -/
theorem fields_reached (stackSize : Int) (layout : Layout) (commands : List Command) :
    (reached stackSize layout commands).fields.Sound ∧
      ∀ id, ((reached stackSize layout commands).fields.get id).editor.capacity = layout.inputCapacity := by
  have hnew : (create (Emulator.create stackSize) layout).fields.Sound := Fields.sound_ofCapacity layout.inputCapacity
  refine ⟨sound_runs hnew commands, fun id => ?_⟩
  rw [reached, capacity_runs hnew]
  exact Fields.capacity_ofCapacity layout.inputCapacity id

end Stepper.Session
