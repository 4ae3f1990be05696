import Stepper.Proofs.Session.Commit

/-! What a commit changes. The register and the word that the fields name take the value, each of them without regard
to the other; all else of the machine is as it was, and the fields are emptied whether anything was written or not.
Only a number of too many digits ends a commit before that. -/

namespace Stepper

theorem Reg.ofInt?_eq_some_iff {v : Int} {r : Reg} : Reg.ofInt? v = some r ↔ (r.val : Int) = v := by
  cases v with
  | ofNat n =>
    simp only [Reg.ofInt?, Reg.ofNat?, Option.dite_none_right_eq_some, Option.some.injEq, Fin.ext_iff, Int.ofNat_eq_natCast,
      Int.ofNat_inj]
    exact ⟨fun ⟨_, h⟩ => h.symm, fun h => ⟨h ▸ r.isLt, h.symm⟩⟩
  | negSucc n =>
    have hneg : (r.val : Int) ≠ .negSucc n := by omega
    simp [Reg.ofInt?, hneg]

/-- A word that may be written is the one that an address lies in. -/
theorem StackRegion.indexOf_eq_ok_iff_div {s : StackRegion} {x : Int} {i : Nat} :
    s.indexOf x = .ok i ↔
      s.bottom ≤ x ∧ x < s.top ∧ (i : Int) = (x - s.bottom) / Word.bytes ∧ i < s.wordCount := by
  have htop := s.wordCount_mul_le.2
  rw [indexOf_eq_ok_iff]
  unfold Word.bytes at htop ⊢
  constructor <;> intro h <;> omega

theorem CommitResult.ext {a b : CommitResult} (hregister : a.register = b.register) (hindex : a.stackIndex = b.stackIndex) :
    a = b := by
  cases a
  cases b
  simp_all only

theorem StackRegion.setWord_of_lt {s : StackRegion} {i : Nat} (hi : i < s.wordCount) (v : Int) :
    s.setWord i v = .ok (s.putWord i v) := by
  rw [setWord, checkIndex, if_pos ⟨Int.natCast_nonneg i, Int.ofNat_lt.2 hi⟩, Int.toNat_natCast]
  rfl

namespace Session

/-- The register field names a register, and there is a value for it. -/
structure EditsRegister (register value : Text) (r : Reg) : Prop where
  named : register ≠ []
  valued : value ≠ []
  number : Numeral.readDecimal register = .ok (r.val : Int)

/-- The memory field names a whole word of the stack, and there is a value for it. -/
structure EditsWord (c : Cpu) (memory value : Text) (i : Nat) : Prop where
  named : memory ≠ []
  valued : value ≠ []
  address : ∃ a, Numeral.readWord memory = .ok a ∧ c.stackBottom ≤ a ∧ a < c.stackTop ∧
    (i : Int) = (a - c.stackBottom) / Word.bytes
  whole : i < c.region.wordCount

/-- The number of the register has too many digits, or the value for a register that there is. -/
inductive RegisterUnread (register value : Text) : Prop
  | number {cause : Numeral.DigitError} (named : register ≠ []) (long : Numeral.readDecimal register = .error cause) :
    RegisterUnread register value
  | word {r : Reg} {cause : Numeral.DigitError} (edits : EditsRegister register value r)
    (long : Numeral.readWord value = .error cause) : RegisterUnread register value

/-- The address or the value has too many digits, and both are there. -/
inductive WordUnread (memory value : Text) : Prop
  | address {cause : Numeral.DigitError} (named : memory ≠ []) (valued : value ≠ [])
    (long : Numeral.readWord memory = .error cause) : WordUnread memory value
  | word {cause : Numeral.DigitError} (named : memory ≠ []) (valued : value ≠ [])
    (long : Numeral.readWord value = .error cause) : WordUnread memory value

/-- The named register, if there is one, has the value and is marked, and it is what is reported. -/
structure RegisterEdited (register value : Text) (c c' : Cpu) (result : Option Reg) : Prop where
  reported : ∀ r, result = some r ↔ EditsRegister register value r
  edited : ∀ r, EditsRegister register value r → Numeral.readWord value = .ok (c'.get r) ∧ c'.isUsed r = true
  kept : ∀ r, ¬EditsRegister register value r → c'.get r = c.get r ∧ c'.isUsed r = c.isUsed r

/-- The named word, if there is one, has the value, and it is what is reported. Its index passes the check of the
stack, and no byte beside it changes. -/
structure WordEdited (memory value : Text) (c c' : Cpu) (result : Option Nat) : Prop where
  reported : ∀ i, result = some i ↔ EditsWord c memory value i
  edited : ∀ i, EditsWord c memory value i → ∃ v, Numeral.readWord value = .ok v ∧
    c.region.setWord i v = .ok c'.region ∧ (c'.region.wordAtIndex i : Int) = v
  kept : ∀ j, (∀ i, EditsWord c memory value i → j < i * Word.bytes ∨ i * Word.bytes + Word.bytes ≤ j) →
    c'.stack[j]? = c.stack[j]?
  length : c'.stack.length = c.stack.length

variable {e : Emulator} {c c' : Cpu} {register memory value : Text} {r : Reg} {i : Nat} {v : Int}

theorem EditsRegister.unique {r' : Reg} (h : EditsRegister register value r) (h' : EditsRegister register value r') :
    r = r' :=
  Fin.ext (Int.ofNat_inj.1 (Except.ok.inj (h.number.symm.trans h'.number)))

theorem EditsWord.unique {i' : Nat} (h : EditsWord c memory value i) (h' : EditsWord c memory value i') : i = i' := by
  obtain ⟨a, ha, -, -, hi⟩ := h.address
  obtain ⟨a', ha', -, -, hi'⟩ := h'.address
  obtain rfl := Except.ok.inj (ha.symm.trans ha')
  exact Int.ofNat_inj.1 (hi.trans hi'.symm)

theorem EditsWord.indexOf (h : EditsWord c memory value i) :
    ∃ a, Numeral.readWord memory = .ok a ∧ c.region.indexOf a = .ok i := by
  obtain ⟨a, ha, hbottom, htop, hi⟩ := h.address
  exact ⟨a, ha, StackRegion.indexOf_eq_ok_iff_div.2 ⟨hbottom, htop, hi, h.whole⟩⟩

/-! ### The register -/

/-- How the register part of a commit ends. -/
inductive EditsAs (e : Emulator) (register value : Text) : Outcome Emulator Fault (Option Reg) → Prop
  | none {log : List LogEntry} (unnamed : ∀ r, ¬EditsRegister register value r)
    (read : register ≠ [] → ∃ n, Numeral.readDecimal register = .ok n) : EditsAs e register value (.ok e log none)
  | edit {r : Reg} {v : Int} {log : List LogEntry} (edits : EditsRegister register value r)
    (word : Numeral.readWord value = .ok v) :
    EditsAs e register value (.ok { e with cpu := (e.cpu.put r v).markUsed r } log (some r))
  | unread {cause : Numeral.DigitError} (long : RegisterUnread register value) :
    EditsAs e register value (.error e [] (.digits cause))

theorem editsAs (e : Emulator) (register value : Text) : EditsAs e register value (commitRegister e register value) := by
  unfold commitRegister
  split
  · next hempty =>
    have hregister : register = [] := by simpa using hempty
    exact .none (fun r h => h.named hregister) fun h => absurd hregister h
  · next hnamed =>
    have hnamed' : register ≠ [] := by simpa using hnamed
    cases hn : Numeral.readDecimal register with
    | error cause => exact .unread (.number hnamed' hn)
    | ok n =>
      dsimp only
      split
      · next r hr hvalue =>
        have hedits : EditsRegister register value r :=
          ⟨hnamed', by simpa using hvalue, by rw [hn, Reg.ofInt?_eq_some_iff.1 hr]⟩
        cases hv : Numeral.readWord value with
        | error cause => exact .unread (.word hedits hv)
        | ok v => exact .edit hedits hv
      · next hno =>
        refine .none (fun r h => ?_) fun _ => ⟨n, hn⟩
        exact hno r (Reg.ofInt?_eq_some_iff.2 (Except.ok.inj (h.number.symm.trans hn))) (by simpa using h.valued)

theorem registerEdited_put (h : EditsRegister register value r) (hv : Numeral.readWord value = .ok v) :
    RegisterEdited register value c ((c.put r v).markUsed r) (some r) where
  reported r' := ⟨fun heq => Option.some.inj heq ▸ h, fun h' => congrArg some (h.unique h')⟩
  edited r' h' := by
    have hget : ((c.put r v).markUsed r).get r' = v := (c.get_put r r' v).trans (if_pos (h.unique h'))
    rw [Cpu.isUsed_markUsed, if_pos (h.unique h'), hget]
    exact ⟨hv, rfl⟩
  kept r' h' := by
    have hne : r ≠ r' := fun heq => h' (heq ▸ h)
    rw [Cpu.isUsed_markUsed, if_neg hne]
    exact ⟨(c.get_put r r' _).trans (if_neg hne), rfl⟩

theorem registerEdited_self (h : ∀ r, ¬EditsRegister register value r) : RegisterEdited register value c c none where
  reported r := by simpa using h r
  edited r hr := absurd hr (h r)
  kept _ _ := ⟨rfl, rfl⟩

/-- The register part touches no more than registers and their marks, and without a fault it has done what it is for. -/
theorem commitRegister_edited (e : Emulator) (register value : Text) :
    ∃ registers used,
      (commitRegister e register value).state = { e with cpu := { e.cpu with registers := registers, used := used } } ∧
      ∀ result, (commitRegister e register value).result = .ok result →
        RegisterEdited register value e.cpu (commitRegister e register value).state.cpu result := by
  have hends := editsAs e register value
  generalize commitRegister e register value = o at hends
  cases hends with
  | none hnone => exact ⟨e.cpu.registers, e.cpu.used, rfl, fun _ h => Except.ok.inj h ▸ registerEdited_self hnone⟩
  | edit hedits hv => exact ⟨_, _, rfl, fun _ h => Except.ok.inj h ▸ registerEdited_put hedits hv⟩
  | unread => exact ⟨e.cpu.registers, e.cpu.used, rfl, fun _ h => by simp [Outcome.error] at h⟩

/-- It has a fault where a number that it looks at has too many digits. -/
theorem commitRegister_error_iff {e : Emulator} {register value : Text} :
    (∃ fault, (commitRegister e register value).result = .error fault) ↔ RegisterUnread register value := by
  have hends := editsAs e register value
  generalize commitRegister e register value = o at hends
  cases hends with
  | none hnone hread =>
    refine iff_of_false (by simp [Outcome.ok]) ?_
    rintro (⟨named, long⟩ | ⟨edits, -⟩)
    · obtain ⟨n, hn⟩ := hread named
      simp [hn] at long
    · exact hnone _ edits
  | edit hedits hv =>
    refine iff_of_false (by simp [Outcome.ok]) ?_
    rintro (⟨-, long⟩ | ⟨-, long⟩)
    · simp [hedits.number] at long
    · simp [hv] at long
  | unread long => exact iff_of_true ⟨_, rfl⟩ long

/-! ### The word -/

/-- How the memory part of a commit ends. -/
inductive WritesAs (e : Emulator) (memory value : Text) : Outcome Emulator Fault (Option Nat) → Prop
  | none {log : List LogEntry} (unnamed : ∀ i, ¬EditsWord e.cpu memory value i)
    (read : memory ≠ [] → value ≠ [] → (∃ a, Numeral.readWord memory = .ok a) ∧ ∃ v, Numeral.readWord value = .ok v) :
    WritesAs e memory value (.ok e log none)
  | edit {i : Nat} {v : Int} {log : List LogEntry} (edits : EditsWord e.cpu memory value i)
    (word : Numeral.readWord value = .ok v) :
    WritesAs e memory value (.ok { e with cpu := { e.cpu with stack := (e.cpu.region.putWord i v).data } } log (some i))
  | unread {cause : Numeral.DigitError} (long : WordUnread memory value) :
    WritesAs e memory value (.error e [] (.digits cause))

theorem writesAs (e : Emulator) (memory value : Text) : WritesAs e memory value (commitMemory e memory value) := by
  unfold commitMemory
  split
  · next hempty =>
    have hempty' : memory = [] ∨ value = [] := by simpa using hempty
    refine .none (fun i h => ?_) fun hmemory hvalue => absurd hempty' (by simp [hmemory, hvalue])
    exact hempty'.elim h.named h.valued
  · next hfilled =>
    obtain ⟨hmemory, hvalue⟩ : memory ≠ [] ∧ value ≠ [] := by simpa using hfilled
    cases ha : Numeral.readWord memory with
    | error cause => exact .unread (.address hmemory hvalue ha)
    | ok a =>
      cases hv : Numeral.readWord value with
      | error cause => exact .unread (.word hmemory hvalue hv)
      | ok v =>
        dsimp only
        cases hindex : e.cpu.region.indexOf a with
        | error cause =>
          rw [StackRegion.writeWordAt_of_error hindex]
          refine .none (fun i h => ?_) fun _ _ => ⟨⟨a, ha⟩, v, hv⟩
          obtain ⟨a', ha', hi⟩ := h.indexOf
          obtain rfl := Except.ok.inj (ha.symm.trans ha')
          simp [hindex] at hi
        | ok i =>
          rw [StackRegion.writeWordAt_of_ok hindex]
          obtain ⟨hbottom, htop, hi, hwhole⟩ := StackRegion.indexOf_eq_ok_iff_div.1 hindex
          exact .edit ⟨hmemory, hvalue, ⟨a, ha, hbottom, htop, hi⟩, hwhole⟩ hv

theorem wordEdited_putWord (h : EditsWord c memory value i) (hv : Numeral.readWord value = .ok v) :
    WordEdited memory value c { c with stack := (c.region.putWord i v).data } (some i) where
  reported i' := ⟨fun heq => Option.some.inj heq ▸ h, fun h' => congrArg some (h.unique h')⟩
  edited i' h' := by
    obtain rfl := h.unique h'
    have hword : Word.Fits v := Numeral.fits_of_readWord hv
    refine ⟨v, hv, StackRegion.setWord_of_lt h.whole _, ?_⟩
    rw [region_putWord, StackRegion.wordAtIndex_putWord _ h.whole, if_pos rfl, Word.wrap_of_range hword.1 hword.2,
      Int.toNat_of_nonneg hword.1]
  kept j hj := StackRegion.getElem?_putWord _ h.whole (hj i h)
  length := StackRegion.length_putWord _ h.whole

theorem wordEdited_self (h : ∀ i, ¬EditsWord c memory value i) : WordEdited memory value c c none where
  reported i := by simpa using h i
  edited i hi := absurd hi (h i)
  kept _ _ := rfl
  length := rfl

/-- The memory part touches no more than the stack. Without a fault it has done what it is for, and else nothing. -/
theorem commitMemory_edited (e : Emulator) (memory value : Text) :
    ∃ stack, (commitMemory e memory value).state = { e with cpu := { e.cpu with stack := stack } } ∧
      (∀ result, (commitMemory e memory value).result = .ok result →
        WordEdited memory value e.cpu (commitMemory e memory value).state.cpu result) ∧
      ∀ fault, (commitMemory e memory value).result = .error fault → (commitMemory e memory value).state = e := by
  have hends := writesAs e memory value
  generalize commitMemory e memory value = o at hends
  cases hends with
  | none hnone => exact ⟨e.cpu.stack, rfl, fun _ h => Except.ok.inj h ▸ wordEdited_self hnone, fun _ _ => rfl⟩
  | edit hedits hv =>
    exact ⟨_, rfl, fun _ h => Except.ok.inj h ▸ wordEdited_putWord hedits hv, fun _ h => by simp [Outcome.ok] at h⟩
  | unread => exact ⟨e.cpu.stack, rfl, fun _ h => by simp [Outcome.error] at h, fun _ _ => rfl⟩

theorem commitMemory_error_iff {e : Emulator} {memory value : Text} :
    (∃ fault, (commitMemory e memory value).result = .error fault) ↔ WordUnread memory value := by
  have hends := writesAs e memory value
  generalize commitMemory e memory value = o at hends
  cases hends with
  | none _ hread =>
    refine iff_of_false (by simp [Outcome.ok]) ?_
    rintro (⟨named, valued, long⟩ | ⟨named, valued, long⟩)
    · obtain ⟨⟨a, ha⟩, -⟩ := hread named valued
      simp [ha] at long
    · obtain ⟨-, v, hv⟩ := hread named valued
      simp [hv] at long
  | edit hedits hv =>
    obtain ⟨a, ha, -⟩ := hedits.address
    refine iff_of_false (by simp [Outcome.ok]) ?_
    rintro (⟨-, -, long⟩ | ⟨-, -, long⟩)
    · simp [ha] at long
    · simp [hv] at long
  | unread long => exact iff_of_true ⟨_, rfl⟩ long

/-! ### Both parts -/

/-- The memory part reads nothing of what the register part may change. -/
theorem commitMemory_registers (e : Emulator) (memory value : Text) (registers : Vector Int registerCount)
    (used : Vector Bool registerCount) :
    let o := commitMemory { e with cpu := { e.cpu with registers := registers, used := used } } memory value
    o.state =
        { (commitMemory e memory value).state with
          cpu := { (commitMemory e memory value).state.cpu with registers := registers, used := used } } ∧
      o.result = (commitMemory e memory value).result := by
  have hregion : Cpu.region { e.cpu with registers := registers, used := used } = e.cpu.region := rfl
  unfold commitMemory
  rw [hregion]
  split
  · exact ⟨rfl, rfl⟩
  · cases Numeral.readWord memory with
    | error cause => exact ⟨rfl, rfl⟩
    | ok a =>
      cases Numeral.readWord value with
      | error cause => exact ⟨rfl, rfl⟩
      | ok v =>
        dsimp only
        cases e.cpu.region.writeWordAt a v <;> exact ⟨rfl, rfl⟩

/-- The register part reads nothing of what the memory part may change. -/
theorem commitRegister_stack (e : Emulator) (register value : Text) (stack : List UInt8) :
    (commitRegister { e with cpu := { e.cpu with stack := stack } } register value).state =
      { (commitRegister e register value).state with
        cpu := { (commitRegister e register value).state.cpu with stack := stack } } := by
  unfold commitRegister
  split
  · rfl
  · cases Numeral.readDecimal register with
    | error cause => rfl
    | ok n =>
      dsimp only
      split
      · cases Numeral.readWord value <;> rfl
      · rfl

variable {s : Session}

/-- A commit is ended by a number of too many digits, and by nothing else. -/
theorem commit_error_iff : (∃ fault, s.commit.result = .error fault) ↔ s.initialized = true ∧
    (RegisterUnread (s.fields.text .register) (s.fields.text .value) ∨
      WordUnread (s.fields.text .memory) (s.fields.text .value)) := by
  have hcommit := s.commitsAs
  generalize s.commit = o at hcommit
  rw [← commitRegister_error_iff (e := s.machine), ← commitMemory_error_iff (e := s.registerEdit.state)]
  change _ ↔ _ ∧ ((∃ fault, s.registerEdit.result = .error fault) ∨ ∃ fault, s.memoryEdit.result = .error fault)
  cases hcommit with
  | idle ready => simp [ready, Outcome.ok]
  | register ready ends => exact iff_of_true ⟨_, rfl⟩ ⟨ready, .inl ⟨_, ends⟩⟩
  | memory ready _ ends => exact iff_of_true ⟨_, rfl⟩ ⟨ready, .inr ⟨_, ends⟩⟩
  | done _ edited written => simp [edited, written, Outcome.ok]

/-- A commit that is ended has emptied no field and written no word. -/
theorem commit_of_error {fault : Fault} (h : s.commit.result = .error fault) :
    s.commit.state = s.withMachine s.registerEdit.state := by
  obtain ⟨_, -, -, hmemory⟩ := commitMemory_edited s.registerEdit.state (s.fields.text .memory) (s.fields.text .value)
  have hcommit := s.commitsAs
  generalize s.commit = o at hcommit h
  cases hcommit with
  | idle => simp [Outcome.ok] at h
  | register => rfl
  | memory _ _ ends =>
    have hstate : s.memoryEdit.state = s.registerEdit.state := hmemory _ ends
    rw [Outcome.error, hstate]
  | done => simp [Outcome.ok] at h

/-- Of the machine a commit touches no more than registers, their marks and the stack. -/
theorem commit_touches (s : Session) : ∃ registers used stack fields, s.commit.state =
    { s with
      machine := { s.machine with cpu := { s.machine.cpu with registers := registers, used := used, stack := stack } }
      fields := fields } := by
  obtain ⟨registers, used, hfirst, -⟩ := commitRegister_edited s.machine (s.fields.text .register) (s.fields.text .value)
  obtain ⟨stack, hsecond, -⟩ := commitMemory_edited s.registerEdit.state (s.fields.text .memory) (s.fields.text .value)
  change s.registerEdit.state = _ at hfirst
  change s.memoryEdit.state = _ at hsecond
  rw [hfirst] at hsecond
  have hcommit := s.commitsAs
  generalize s.commit = o at hcommit
  cases hcommit with
  | idle => exact ⟨s.machine.cpu.registers, s.machine.cpu.used, s.machine.cpu.stack, _, rfl⟩
  | register => exact ⟨registers, used, s.machine.cpu.stack, s.fields, congrArg s.withMachine hfirst⟩
  | memory => exact ⟨registers, used, stack, s.fields, congrArg s.withMachine hsecond⟩
  | done =>
    exact ⟨registers, used, stack, s.fields.clearAll.release, congrArg (fun e => (s.withMachine e).clearFields) hsecond⟩

/-- Each part reports what it reports alone, and in either order they leave the same machine. -/
theorem commit_parts {result : CommitResult} (hready : s.initialized = true) (h : s.commit.result = .ok result)
    {register memory value : Text} (hregister : s.fields.text .register = register)
    (hmemory : s.fields.text .memory = memory) (hvalue : s.fields.text .value = value) :
    s.commit.state.machine = (commitMemory (commitRegister s.machine register value).state memory value).state ∧
      s.commit.state.machine = (commitRegister (commitMemory s.machine memory value).state register value).state ∧
      (commitRegister s.machine register value).result = .ok result.register ∧
      (commitMemory s.machine memory value).result = .ok result.stackIndex := by
  obtain ⟨registers, used, hfirst, -⟩ := commitRegister_edited s.machine register value
  obtain ⟨stack, hsecond, -⟩ := commitMemory_edited s.machine memory value
  have hedited : s.registerEdit = commitRegister s.machine register value := by rw [registerEdit, hregister, hvalue]
  have hwritten : s.memoryEdit = commitMemory (commitRegister s.machine register value).state memory value := by
    rw [memoryEdit, hedited, hmemory, hvalue]
  obtain ⟨hstate, hresult⟩ := commitMemory_registers s.machine memory value registers used
  rw [← hfirst, ← hwritten] at hstate hresult
  have hcommit := s.commitsAs
  generalize s.commit = o at hcommit h
  cases hcommit with
  | idle ready => simp [hready] at ready
  | register => simp [Outcome.error] at h
  | memory => simp [Outcome.error] at h
  | done _ edited written =>
    obtain rfl := Except.ok.inj h
    refine ⟨congrArg Outcome.state hwritten, ?_, hedited ▸ edited, hresult.symm.trans written⟩
    change s.memoryEdit.state = _
    rw [hstate, hsecond, commitRegister_stack, hfirst]

end Session

open Session

/-- A commit changes what it says and no more. In a session with a program the register that the fields name takes the
value and is marked, and so does the whole word of the stack that they name; either part is done, and reported, as
it would be alone. All other registers, marks and bytes, the bounds and the listing are as they were. Without a program the
machine is not touched. The fields are empty at the end, and have no focus. Only a number of too many digits that it
looks at ends a commit before that; at most the register is then written. -/
theorem commit_changes_what_it_says (s : Session) :
    let c := s.machine.cpu
    let register := s.fields.text .register
    let memory := s.fields.text .memory
    let value := s.fields.text .value
    let c' := s.commit.state.machine.cpu
    (∃ registers used stack fields, s.commit.state =
      { s with
        machine := { s.machine with cpu := { c with registers := registers, used := used, stack := stack } }
        fields := fields }) ∧
    ((∃ fault, s.commit.result = .error fault) ↔
      s.initialized = true ∧ (RegisterUnread register value ∨ WordUnread memory value)) ∧
    (∀ fault, s.commit.result = .error fault →
      s.commit.state = s.withMachine (commitRegister s.machine register value).state) ∧
    (s.initialized = false → c' = c ∧ s.commit.result = .ok ⟨none, none⟩) ∧
    ∀ result, s.commit.result = .ok result →
      (s.initialized = true →
        RegisterEdited register value c c' result.register ∧ WordEdited memory value c c' result.stackIndex ∧
        s.commit.state.machine = (commitRegister (commitMemory s.machine memory value).state register value).state ∧
        (commitRegister s.machine register value).result = .ok result.register ∧
        (commitMemory s.machine memory value).result = .ok result.stackIndex) ∧
      (s.commit.state.fields.active = none ∧
        ∀ id, (s.commit.state.fields.get id).editor.text = [] ∧ (s.commit.state.fields.get id).editor.cursor = 0) ∧
      (s.fields.Sound → s.commit.state.fields.Blank) := by
  intro c register memory value c'
  obtain ⟨registers, used, hfirst, hregister⟩ := commitRegister_edited s.machine register value
  obtain ⟨stack, hsecond, hword, -⟩ := commitMemory_edited s.machine memory value
  have hidle : s.initialized = false → s.commit = .ok s.clearFields [] ⟨none, none⟩ := fun h => by simp [commit, h]
  refine ⟨s.commit_touches, commit_error_iff, fun fault h => commit_of_error h, ?_, fun result h => ⟨?_, ?_, ?_⟩⟩
  · intro hready
    simp only [c', c, hidle hready]
    exact ⟨rfl, rfl⟩
  · intro hready
    obtain ⟨hdone, hmachine, hfirstResult, hsecondResult⟩ := commit_parts hready h rfl rfl rfl
    have hc' : c' = { c with registers := registers, used := used, stack := stack } := by
      rw [hfirst, (commitMemory_registers ..).1, hsecond] at hdone
      exact congrArg Emulator.cpu hdone
    have hedited := hregister _ hfirstResult
    have hwritten := hword _ hsecondResult
    rw [hfirst] at hedited
    rw [hsecond] at hwritten
    rw [hc']
    exact ⟨⟨hedited.reported, hedited.edited, hedited.kept⟩,
      ⟨hwritten.reported, hwritten.edited, hwritten.kept, hwritten.length⟩, hmachine, hfirstResult, hsecondResult⟩
  · rw [fields_commit_of_ok h]
    refine ⟨Fields.active_activate _ none, fun id => ?_⟩
    rw [Fields.release, Fields.editor_activate, Fields.clearAll, Fields.get_updateAll]
    exact ⟨rfl, rfl⟩
  · intro hs
    rw [fields_commit_of_ok h]
    exact blank_emptied hs

/-- The stack pointer and an address of a stack of two and a half words are typed in, with all ones for the value. -/
def oddEdit (memory : Text) : Session :=
  { machine := ⟨oddStack, Asm.Listing.empty, 20⟩
    layout := Layout.standard
    fields := (((Fields.ofCapacity 20).setText .register "31").setText .memory memory).setText .value "-1"
    request := none
    initialized := true }

theorem sound_oddEdit (memory : Text) : (oddEdit memory).fields.Sound :=
  (((Fields.sound_ofCapacity 20).setText .register "31").setText .memory memory).setText .value "-1"

/-- The word that the address lies in is written, but not the half word at the end. -/
theorem odd_edits_are_committed :
    let s := oddEdit "0x100b"
    let s' := oddEdit "0x1011"
    s.commit.result = .ok ⟨some .sp, some 1⟩ ∧ s.commit.state.machine.cpu.get .sp = 0xffffffffffffffff ∧
      s.commit.state.machine.cpu.get .pc = 0 ∧ s.commit.state.machine.cpu.region.wordAtIndex 1 = 0xffffffffffffffff ∧
      s'.commit.result = .ok ⟨some .sp, none⟩ ∧ s.commit.state.fields.Blank ∧
      { s with initialized := false }.commit.result = .ok ⟨none, none⟩ := by
  intro s s'
  have hsp : EditsRegister "31" "-1" .sp := ⟨by decide, by decide, by decide⟩
  have hvalue : Numeral.readWord "-1" = .ok 0xffffffffffffffff := by decide
  have hword : EditsWord oddStack "0x100b" "-1" 1 :=
    ⟨by decide, by decide, ⟨0x100b, by decide, by decide, by decide, by decide⟩, by decide⟩
  have hhalf : ∀ i, ¬EditsWord oddStack "0x1011" "-1" i := by
    intro i h
    obtain ⟨a, ha, -, -, hindex⟩ := h.address
    obtain rfl := Except.ok.inj ((show Numeral.readWord "0x1011" = .ok 0x1011 by decide).symm.trans ha)
    have hindex : (i : Int) = 2 := hindex.trans (by decide)
    have hwhole : i < 2 := h.whole
    omega
  have hread : ∀ memory a, Numeral.readWord memory = .ok a → ¬(RegisterUnread "31" "-1" ∨ WordUnread memory "-1") := by
    rintro memory a ha ((⟨-, h⟩ | ⟨-, h⟩) | (⟨-, -, h⟩ | ⟨-, -, h⟩))
    · exact nomatch hsp.number.symm.trans h
    · exact nomatch hvalue.symm.trans h
    · exact nomatch ha.symm.trans h
    · exact nomatch hvalue.symm.trans h
  have hpc : ¬EditsRegister "31" "-1" .pc := fun h => absurd (hsp.unique h) (by decide)
  have hends : ∀ (t : Session), ¬(RegisterUnread (t.fields.text .register) (t.fields.text .value) ∨
      WordUnread (t.fields.text .memory) (t.fields.text .value)) → ∃ result, t.commit.result = .ok result := by
    intro t ht
    cases hresult : t.commit.result with
    | ok result => exact ⟨result, rfl⟩
    | error fault =>
      obtain ⟨-, hfails, -⟩ := commit_changes_what_it_says t
      exact absurd (hfails.1 ⟨fault, hresult⟩).2 ht
  obtain ⟨result, hresult⟩ := hends s (hread "0x100b" 0x100b (by decide))
  obtain ⟨result', hresult'⟩ := hends s' (hread "0x1011" 0x1011 (by decide))
  obtain ⟨-, -, -, -, hdone⟩ := commit_changes_what_it_says s
  obtain ⟨-, -, -, -, hdone'⟩ := commit_changes_what_it_says s'
  obtain ⟨-, -, -, hunready, -⟩ := commit_changes_what_it_says { s with initialized := false }
  obtain ⟨hready, -, hblank⟩ := hdone result hresult
  obtain ⟨hregister, hmemory, -, -⟩ := hready rfl
  obtain ⟨hregister', hmemory', -, -⟩ := (hdone' result' hresult').1 rfl
  have hparts : result = ⟨some .sp, some 1⟩ :=
    CommitResult.ext ((hregister.reported .sp).2 hsp) ((hmemory.reported 1).2 hword)
  have hnone : result'.stackIndex = none :=
    Option.eq_none_iff_forall_ne_some.2 fun i hi => hhalf i ((hmemory'.reported i).1 hi)
  have hparts' : result' = ⟨some .sp, none⟩ := CommitResult.ext ((hregister'.reported .sp).2 hsp) hnone
  obtain ⟨v, hv, -, hcell⟩ := hmemory.edited 1 hword
  obtain rfl := Except.ok.inj (hvalue.symm.trans hv)
  exact ⟨hparts ▸ hresult, Except.ok.inj ((hregister.edited .sp hsp).1.symm.trans hvalue), (hregister.kept .pc hpc).1,
    Int.ofNat_inj.1 hcell, hparts' ▸ hresult', hblank (sound_oddEdit _), (hunready rfl).2⟩

end Stepper
