import Mathlib.Tactic.Basic
import Stepper.Machine.Emulator

/-! Computations on the processor. A computation that finishes has finished each of its steps. One that is
refused leaves the processor as it was if everything it does before its last write only reads. -/

namespace Stepper.Operation

open Asm

variable {α β : Type}

/-- How a computation ends on a processor. -/
def outcome (x : Execution α) (c : Cpu) : Except ExecutionError α × Cpu :=
  x.run.run c

theorem outcome_bind (x : Execution α) (f : α → Execution β) (c : Cpu) :
    outcome (x >>= f) c =
      match outcome x c with
      | (.ok a, c') => outcome (f a) c'
      | (.error e, c') => (.error e, c') := by
  unfold outcome
  simp only [bind, ExceptT.bind, ExceptT.mk, ExceptT.run, StateT.run, StateT.bind]
  rcases x c with ⟨_ | _, _⟩ <;> rfl

theorem outcome_get (c : Cpu) : outcome get c = (.ok c, c) := rfl

theorem outcome_modify (f : Cpu → Cpu) (c : Cpu) : outcome (modify f) c = (.ok (), f c) := rfl

theorem outcome_pure (a : α) (c : Cpu) : outcome (pure a) c = (.ok a, c) := rfl

theorem outcome_lift (x : Except ExecutionError α) (c : Cpu) : outcome (liftM x) c = (x, c) := rfl

theorem perform_eq (op : Operation) (c : Cpu) (l : Listing) (i : Instruction) :
    op.perform c l i = (outcome (op.run l i i.operands) c).swap := rfl

/-! ### Computations that finish -/

/-- A computation ends well, with a result and a processor. -/
def Finishes (x : Execution α) (c : Cpu) (a : α) (c' : Cpu) : Prop :=
  outcome x c = (.ok a, c')

theorem finishes_bind {x : Execution α} {f : α → Execution β} {c c'' : Cpu} {b : β} :
    Finishes (x >>= f) c b c'' ↔ ∃ a c', Finishes x c a c' ∧ Finishes (f a) c' b c'' := by
  unfold Finishes
  rw [outcome_bind]
  rcases hx : outcome x c with ⟨e | a, c'⟩
  · simp
  · constructor
    · exact fun h => ⟨a, c', rfl, h⟩
    · rintro ⟨a', c'', heq, h⟩
      simp only [Prod.mk.injEq, Except.ok.injEq] at heq
      obtain ⟨rfl, rfl⟩ := heq
      exact h

theorem finishes_modify {f : Cpu → Cpu} {c c' : Cpu} {u : Unit} : Finishes (modify f) c u c' ↔ c' = f c := by
  simp [Finishes, outcome_modify, eq_comm]

theorem finishes_pure {a b : α} {c c' : Cpu} : Finishes (pure a) c b c' ↔ b = a ∧ c' = c := by
  simp [Finishes, outcome_pure, eq_comm]

theorem finishes_lift {x : Except ExecutionError α} {c c' : Cpu} {a : α} :
    Finishes (liftM x) c a c' ↔ x = .ok a ∧ c' = c := by
  simp [Finishes, outcome_lift, eq_comm]

theorem finishes_refuse {i : Instruction} {cause : ExecutionCause} {c c' : Cpu} {a : α} :
    ¬ Finishes (liftM (refuse i cause : Except ExecutionError α)) c a c' := by
  simp [finishes_lift, refuse]

/-- What is read of the processor first is read of the one that the computation starts with. -/
theorem finishes_get_bind {f : Cpu → Execution α} {c c' : Cpu} {a : α} :
    Finishes (get >>= f) c a c' ↔ Finishes (f c) c a c' := by
  rw [Finishes, outcome_bind, outcome_get]
  rfl

theorem finishes_lift_bind {x : Except ExecutionError α} {f : α → Execution β} {c c' : Cpu} {b : β} :
    Finishes (liftM x >>= f) c b c' ↔ ∃ a, x = .ok a ∧ Finishes (f a) c b c' := by
  rw [Finishes, outcome_bind, outcome_lift]
  cases x with
  | error e => simp
  | ok a => simp [Finishes]

/-- A computation that begins with a value finishes alike with another one that has it too. -/
theorem Finishes.lift_mono {x y : Except ExecutionError α} {f g : α → Execution β} {c c' : Cpu} {b : β}
    (h : Finishes (liftM x >>= f) c b c') (hvalue : ∀ a, x = .ok a → y = .ok a)
    (hrest : ∀ a, Finishes (f a) c b c' → Finishes (g a) c b c') : Finishes (liftM y >>= g) c b c' := by
  rw [finishes_lift_bind] at h ⊢
  obtain ⟨a, ha, h⟩ := h
  exact ⟨a, hvalue a ha, hrest a h⟩

/-- The same where the value is one of the processor. -/
theorem Finishes.ask_mono {x y : Cpu → Except ExecutionError α} {f g : α → Execution β} {c c' : Cpu} {b : β}
    (h : Finishes (get >>= fun c => liftM (x c) >>= f) c b c') (hvalue : ∀ a, x c = .ok a → y c = .ok a)
    (hrest : ∀ a, Finishes (f a) c b c' → Finishes (g a) c b c') :
    Finishes (get >>= fun c => liftM (y c) >>= g) c b c' := by
  rw [finishes_get_bind] at h ⊢
  exact h.lift_mono hvalue hrest

theorem execute_eq_ok_iff {op : Operation} {c c' : Cpu} {l : Listing} {i : Instruction} :
    op.execute c l i = .ok c' ↔ Finishes (op.run l i i.operands) c () c' := by
  unfold execute Finishes
  rw [perform_eq]
  rcases outcome (op.run l i i.operands) c with ⟨e | _, c''⟩ <;> simp

/-! ### Computations that are refused -/

/-- A computation that is refused has written nothing. -/
def Atomic (x : Execution α) : Prop :=
  ∀ c e c', outcome x c = (.error e, c') → c' = c

/-- A computation that is never refused. -/
def Total (x : Execution α) : Prop :=
  ∀ c, ∃ a c', outcome x c = (.ok a, c')

theorem Total.atomic {x : Execution α} (h : Total x) : Atomic x := by
  intro c e c' hx
  obtain ⟨a, c'', ha⟩ := h c
  rw [ha] at hx
  simp at hx

theorem total_modify (f : Cpu → Cpu) : Total (modify f) := fun c => ⟨(), f c, rfl⟩

theorem total_pure (a : α) : Total (pure a) := fun c => ⟨a, c, rfl⟩

theorem Total.bind {x : Execution α} {f : α → Execution β} (hx : Total x) (hf : ∀ a, Total (f a)) : Total (x >>= f) := by
  intro c
  obtain ⟨a, c', ha⟩ := hx c
  obtain ⟨b, c'', hb⟩ := hf a c'
  exact ⟨b, c'', by rw [outcome_bind, ha]; exact hb⟩

theorem atomic_lift (x : Except ExecutionError α) : Atomic (liftM x) := by
  intro c e c' h
  rw [outcome_lift] at h
  exact (Prod.mk.inj h).2.symm

theorem atomic_get_bind {f : Cpu → Execution α} (hf : ∀ c, Atomic (f c)) : Atomic (get >>= f) := by
  intro c e c' h
  rw [outcome_bind, outcome_get] at h
  exact hf c c e c' h

theorem atomic_lift_bind {x : Except ExecutionError α} {f : α → Execution β} (hf : ∀ a, Atomic (f a)) :
    Atomic (liftM x >>= f) := by
  intro c e c' h
  rw [outcome_bind, outcome_lift] at h
  cases x with
  | error e' => exact (Prod.mk.inj h).2.symm
  | ok a => exact hf a c e c' h

theorem atomic_writeTo (i : Instruction) (o : Operand) (v : Int) : Atomic (writeTo i o v) := by
  unfold writeTo
  split
  · exact (total_modify _).atomic
  · exact (total_pure _).atomic
  · exact atomic_lift _

/-- Every operation checks its operands before it writes: a refused one leaves the processor as it was. -/
theorem atomic_run (op : Operation) (l : Listing) (i : Instruction) (os : List Operand) : Atomic (op.run l i os) := by
  unfold Operation.run
  split
  · exact (total_pure _).atomic
  · exact atomic_get_bind fun c => atomic_lift_bind fun v => atomic_writeTo i _ v
  · exact atomic_get_bind fun c => atomic_lift_bind fun a => atomic_get_bind fun c' => atomic_lift_bind fun b =>
      atomic_writeTo i _ _
  · exact atomic_get_bind fun c => atomic_lift_bind fun address => atomic_get_bind fun c' => atomic_writeTo i _ _
  · exact atomic_get_bind fun c => atomic_lift_bind fun address => atomic_get_bind fun c' => atomic_lift_bind fun v =>
      (total_modify _).atomic
  · exact atomic_lift_bind fun address => (total_modify _).atomic
  · exact atomic_lift_bind fun address => ((total_modify _).bind fun _ => total_modify _).atomic
  · exact (total_modify _).atomic
  · exact atomic_get_bind fun c => atomic_lift_bind fun v => (total_modify _).atomic
  · exact atomic_lift _
  · refine atomic_get_bind fun c => atomic_lift_bind fun v => ?_
    split
    · exact atomic_lift_bind fun address => (total_modify _).atomic
    · exact (total_pure _).atomic
  · exact atomic_lift _

end Stepper.Operation

/-! ### Lines -/

namespace Stepper.Emulator

open Asm Operation

/-- How a line can run: it is no instruction, it has an integer of too many digits, there is no such instruction, or
its operation ends on the processor. -/
inductive RunsLine (e : Emulator) (text : Text) : Emulator × Except RunError Unit → Prop
  | refused {cause : ParseError} (read : Instruction.read text 0 = .error (.refused cause)) :
    RunsLine e text (e, .error (.refused cause))
  | unread {cause : Numeral.DigitError} (read : Instruction.read text 0 = .error (.digits cause)) :
    RunsLine e text (e, .error (.fault (.digits cause)))
  | unknown {i : Instruction} (read : Instruction.read text 0 = .ok i) (none : named? i.mnemonic = none) :
    RunsLine e text (e, .error (.failed ⟨.unknownInstruction i.mnemonic, i.text⟩))
  | failed {i : Instruction} {op : Operation} {cause : ExecutionError} {c : Cpu} (read : Instruction.read text 0 = .ok i)
    (some : named? i.mnemonic = some op) (ends : outcome (op.run e.listing i i.operands) e.cpu = (.error cause, c)) :
    RunsLine e text ({ e with cpu := c }, .error (.failed cause))
  | done {i : Instruction} {op : Operation} {c : Cpu} (read : Instruction.read text 0 = .ok i)
    (some : named? i.mnemonic = some op) (ends : Finishes (op.run e.listing i i.operands) e.cpu () c) :
    RunsLine e text ({ e with cpu := c }, .ok ())

theorem runsLine (e : Emulator) (text : Text) : RunsLine e text (e.performLine text) := by
  unfold performLine
  cases hread : Instruction.read text 0 with
  | error cause =>
    cases cause with
    | refused cause => exact .refused hread
    | digits cause => exact .unread hread
  | ok i =>
    dsimp only
    unfold perform
    cases hop : named? i.mnemonic with
    | none => exact .unknown hread hop
    | some op =>
      dsimp only
      rw [perform_eq]
      rcases hends : outcome (op.run e.listing i i.operands) e.cpu with ⟨cause | _, c⟩
      · exact .failed hread hop hends
      · exact .done hread hop hends

theorem run_eq_ok_iff {e e' : Emulator} {text : Text} : e.run text = .ok e' ↔ e.performLine text = (e', .ok ()) := by
  unfold run
  rcases e.performLine text with ⟨e'', cause | _⟩ <;> simp

/-- A line that is refused leaves the machine as it was. -/
theorem performLine_error {e e' : Emulator} {text : Text} {cause : RunError}
    (h : e.performLine text = (e', .error cause)) : e' = e := by
  have hline := runsLine e text
  rw [h] at hline
  cases hline with
  | refused => rfl
  | unread => rfl
  | unknown => rfl
  | failed _ _ ends => rw [atomic_run _ _ _ _ _ _ _ ends]

/-- The one fault that a line can end in is an integer of too many digits. -/
theorem unread_of_run {e : Emulator} {text : Text} {fault : Fault} (h : e.run text = .error (.fault fault)) :
    ∃ cause, Instruction.read text 0 = .error (.digits cause) ∧ fault = .digits cause := by
  have hline := runsLine e text
  unfold run at h
  rcases hends : e.performLine text with ⟨e', cause | _⟩
  · rw [hends] at h hline
    obtain rfl := Except.error.inj h
    cases hline with
    | unread read => exact ⟨_, read, rfl⟩
  · simp [hends] at h

/-- A line that runs is read as an instruction whose operation finishes. -/
theorem finishes_of_run {e e' : Emulator} {text : Text} (h : e.run text = .ok e') :
    ∃ i op c, Instruction.read text 0 = .ok i ∧ named? i.mnemonic = some op ∧
      Finishes (op.run e.listing i i.operands) e.cpu () c ∧ e' = { e with cpu := c } := by
  have hline := runsLine e text
  rw [run_eq_ok_iff.1 h] at hline
  cases hline with
  | done read some ends => exact ⟨_, _, _, read, some, ends, rfl⟩

theorem perform_of_finishes {e : Emulator} {i : Instruction} {op : Operation} {c : Cpu} (hop : named? i.mnemonic = some op)
    (h : Finishes (op.run e.listing i i.operands) e.cpu () c) : e.perform i = ({ e with cpu := c }, .ok ()) := by
  have hperform : op.perform e.cpu e.listing i = (c, .ok ()) := by
    rw [perform_eq, h]
    rfl
  simp only [perform, hop, hperform]

theorem run_of_finishes {e : Emulator} {text : Text} {i : Instruction} {op : Operation} {c : Cpu}
    (hread : Instruction.read text 0 = .ok i) (hop : named? i.mnemonic = some op)
    (h : Finishes (op.run e.listing i i.operands) e.cpu () c) : e.run text = .ok { e with cpu := c } := by
  rw [run_eq_ok_iff]
  simp only [performLine, hread, perform_of_finishes hop h]
  rfl

end Stepper.Emulator
