import Mathlib.Data.List.Basic
import Stepper.Session.Basic

/-! Runs of a session: commands one after the other, in any order. A session that has a program loaded knows
what was loaded, whatever commands it was given. -/

namespace Stepper

inductive Command where
  | load (d : Device) (r : LoadRequest)
  | reset (d : Device)
  | step
  | activate (target : Option FieldId)
  | releaseFocus
  | typeText (t : Text)
  | press (key : EditKey)
  | commit

namespace Session

/-- The session that a command leaves, also when it fails. -/
def after (s : Session) : Command → Session
  | .load d r => (s.load d r).state
  | .reset d => (s.reset d).state
  | .step => s.step.state
  | .activate target => s.activate target
  | .releaseFocus => s.releaseFocus
  | .typeText t => (s.typeText t).2
  | .press key => (s.press key).state
  | .commit => s.commit.state

def runs (s : Session) (commands : List Command) : Session :=
  commands.foldl after s

/-- The session that commands make of a new one. -/
def reached (stackSize : Int) (layout : Layout) (commands : List Command) : Session :=
  (create (Emulator.create stackSize) layout).runs commands

theorem runs_append (s : Session) (a b : List Command) : s.runs (a ++ b) = (s.runs a).runs b :=
  List.foldl_append

/-- What holds of a new session and is kept by every command holds of every session that is reached. -/
theorem reached_induction {P : Session → Prop} {Q : Command → Prop} {stackSize : Int} {layout : Layout}
    (new : P (create (Emulator.create stackSize) layout)) (keep : ∀ s c, Q c → P s → P (s.after c))
    {commands : List Command} (h : ∀ c ∈ commands, Q c) : P (reached stackSize layout commands) := by
  unfold reached runs
  generalize create (Emulator.create stackSize) layout = s at new
  induction commands generalizing s with
  | nil => exact new
  | cons c commands ih => exact ih (fun d hd => h d (by simp [hd])) _ (keep s c (h c (by simp)) new)

/-! ### What a command leaves alone -/

theorem press_state (s : Session) (key : EditKey) :
    (s.press key).state = s ∨ (s.press key).state = s.commit.state ∨
      ∃ fields, (s.press key).state = { s with fields := fields } := by
  unfold press
  split
  · exact .inl rfl
  · split
    · exact .inr (.inl rfl)
    · exact .inr (.inr ⟨_, rfl⟩)

/-- The two parts of a commit. -/
def registerEdit (s : Session) : Outcome Emulator Fault (Option Reg) :=
  commitRegister s.machine (s.fields.text .register) (s.fields.text .value)

def memoryEdit (s : Session) : Outcome Emulator Fault (Option Nat) :=
  commitMemory s.registerEdit.state (s.fields.text .memory) (s.fields.text .value)

/-- How a commit can end: there is no program, a part of it ends it, or both are done. -/
inductive CommitsAs (s : Session) : Outcome Session Fault CommitResult → Prop
  | idle (ready : s.initialized = false) : CommitsAs s (.ok s.clearFields [] ⟨none, none⟩)
  | register {fault : Fault} (ready : s.initialized = true) (ends : s.registerEdit.result = .error fault) :
    CommitsAs s (.error (s.withMachine s.registerEdit.state) s.registerEdit.log fault)
  | memory {r : Option Reg} {fault : Fault} (ready : s.initialized = true) (edited : s.registerEdit.result = .ok r)
    (ends : s.memoryEdit.result = .error fault) :
    CommitsAs s (.error (s.withMachine s.memoryEdit.state) (s.registerEdit.log ++ s.memoryEdit.log) fault)
  | done {r : Option Reg} {i : Option Nat} (ready : s.initialized = true) (edited : s.registerEdit.result = .ok r)
    (written : s.memoryEdit.result = .ok i) :
    CommitsAs s (.ok (s.withMachine s.memoryEdit.state).clearFields (s.registerEdit.log ++ s.memoryEdit.log) ⟨r, i⟩)

theorem commitsAs (s : Session) : s.CommitsAs s.commit := by
  cases hready : s.initialized with
  | false =>
    rw [commit, if_neg (by simp [hready])]
    exact .idle hready
  | true =>
    rw [commit, if_pos hready]
    cases hr : s.registerEdit.result with
    | error fault =>
      unfold registerEdit at hr
      simp only [hr]
      exact .register hready hr
    | ok r =>
      unfold registerEdit at hr
      simp only [hr]
      cases hm : s.memoryEdit.result with
      | error fault =>
        unfold memoryEdit registerEdit at hm
        simp only [hm]
        exact .memory hready hr hm
      | ok i =>
        unfold memoryEdit registerEdit at hm
        simp only [hm]
        exact .done hready hr hm

/-- A commit changes nothing but the machine and the fields. -/
theorem commit_state (s : Session) : ∃ e fields, s.commit.state = { s with machine := e, fields := fields } := by
  have hcommit := s.commitsAs
  generalize s.commit = done at hcommit
  cases hcommit <;> exact ⟨_, _, rfl⟩

/-- What both parts of a commit keep is kept by the commit. -/
theorem commit_machine {P : Emulator → Prop} (hregister : ∀ e register value, P e → P (commitRegister e register value).state)
    (hmemory : ∀ e memory value, P e → P (commitMemory e memory value).state) {s : Session} (h : P s.machine) :
    P s.commit.state.machine := by
  have hfirst : P s.registerEdit.state := hregister _ _ _ h
  have hcommit := s.commitsAs
  generalize s.commit = done at hcommit
  cases hcommit with
  | idle => exact h
  | register => exact hfirst
  | memory => exact hmemory _ _ _ hfirst
  | done => exact hmemory _ _ _ hfirst

/-- The register part changes at most one register, to the word that is read. -/
theorem commitRegister_state (e : Emulator) (register value : Text) :
    (commitRegister e register value).state = e ∨ ∃ r v, Numeral.readWord value = .ok v ∧
      (commitRegister e register value).state = { e with cpu := (e.cpu.put r v).markUsed r } := by
  unfold commitRegister
  split
  · exact .inl rfl
  · split
    · exact .inl rfl
    · split
      · split
        · exact .inl rfl
        · next hv => exact .inr ⟨_, _, hv, rfl⟩
      · exact .inl rfl

theorem commit_request (s : Session) :
    s.commit.state.request = s.request ∧ s.commit.state.initialized = s.initialized := by
  obtain ⟨e, fields, hs⟩ := s.commit_state
  rw [hs]
  exact ⟨rfl, rfl⟩

/-- A step changes nothing but the machine. -/
theorem step_state (s : Session) : ∃ e, s.step.state = s.withMachine e := by
  have hsame : s = s.withMachine s.machine := rfl
  unfold step
  split
  · dsimp only
    split
    · exact ⟨_, hsame⟩
    · split
      · exact ⟨_, hsame⟩
      · next text _ =>
        generalize Emulator.performLine _ text = ran
        rcases ran with ⟨e, cause | _⟩
        · exact ⟨e, rfl⟩
        · exact ⟨e, rfl⟩
  · exact ⟨_, hsame⟩

theorem load_state (s : Session) (d : Device) (r : LoadRequest) :
    (s.load d r).state.machine = (s.machine.load d r.path r.pcStart r.spStart).state ∧
      ((s.load d r).state.request = s.request ∧ (s.load d r).state.initialized = false ∨
        (s.load d r).state.request = some r) := by
  unfold load start
  cases h : (s.machine.load d r.path r.pcStart r.spStart).result with
  | error cause => simp [h, Outcome.error, Except.toOption]
  | ok _ => simp [h, Outcome.ok, clearFields]

theorem reset_state (s : Session) (d : Device) :
    (s.reset d).state = s ∨ ∃ r, s.request = some r ∧ (s.reset d).state.request = some r ∧
      (s.reset d).state.machine = (s.machine.load d r.path r.pcStart r.spStart).state := by
  unfold reset
  cases hr : s.request with
  | none => exact .inl rfl
  | some r =>
    refine .inr ⟨r, rfl, ?_⟩
    unfold start
    cases h : (s.machine.load d r.path r.pcStart r.spStart).result with
    | error cause => simp [h, hr, Outcome.error]
    | ok _ => simp [h, hr, Outcome.ok]

theorem result_load (s : Session) (d : Device) (r : LoadRequest) :
    (s.load d r).result = (s.machine.load d r.path r.pcStart r.spStart).result := by
  unfold load start
  dsimp only
  cases (s.machine.load d r.path r.pcStart r.spStart).result <;> rfl

theorem reset_error_iff {s : Session} {d : Device} {r : LoadRequest} (hrequest : s.request = some r) (e : LoadError) :
    (s.reset d).result = .error e ↔ (s.machine.load d r.path r.pcStart r.spStart).result = .error e := by
  unfold reset start
  rw [hrequest]
  dsimp only
  cases (s.machine.load d r.path r.pcStart r.spStart).result <;> simp [Outcome.error, Outcome.ok]

/-- A session with a program remembers the load. -/
theorem request_of_initialized (stackSize : Int) (layout : Layout) (commands : List Command) :
    (reached stackSize layout commands).initialized = true → (reached stackSize layout commands).request.isSome = true := by
  refine reached_induction (P := fun s => s.initialized = true → s.request.isSome = true) (Q := fun _ => True) ?_ ?_
    (fun _ _ => trivial)
  · simp [create]
  · intro s c _ h
    cases c with
    | load d r =>
      obtain ⟨-, ⟨hr, hi⟩ | hr⟩ := s.load_state d r
      · simp [after, hi]
      · simp [after, hr]
    | reset d =>
      rcases s.reset_state d with hs | ⟨r, -, hr, -⟩
      · simpa [after, hs] using h
      · simp [after, hr]
    | step =>
      obtain ⟨e, he⟩ := s.step_state
      simpa [after, he, withMachine] using h
    | activate target => exact h
    | releaseFocus => exact h
    | typeText t => exact h
    | press key =>
      rcases s.press_state key with hs | hs | ⟨fields, hs⟩
      · simpa [after, hs] using h
      · simpa [after, hs, s.commit_request] using h
      · simpa [after, hs] using h
    | commit => simpa [after, s.commit_request] using h

end Session

end Stepper
