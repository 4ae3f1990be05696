import Stepper.Proofs.Numeral.Lenient
import Stepper.Proofs.Session.Slices

/-! Edits by hand. What the fields say is written into the register or into the word that they name, and nothing else of
the machine changes. So a value can be typed in the form in which it is shown. -/

namespace Stepper

/-- The fields are empty, and none has the focus. -/
structure Fields.Blank (fs : Fields) : Prop where
  active : fs.active = none
  get : ∀ id, (fs.get id).editor.text = [] ∧ (fs.get id).editor.cursor = 0 ∧ (fs.get id).active = false

namespace Session

variable {s : Session} {e : Emulator} {r : Reg} {register memory value : Text}

/-! ### The two parts of a commit -/

theorem commitRegister_nil (e : Emulator) (value : Text) : commitRegister e [] value = .ok e [] none := rfl

theorem commitRegister_eq {n v : Int} (hn : Numeral.readDecimal register = .ok n) (hr : Reg.ofInt? n = some r)
    (hv : Numeral.readWord value = .ok v) (hregister : register ≠ []) (hvalue : value ≠ []) :
    (commitRegister e register value).state = { e with cpu := (e.cpu.put r v).markUsed r } ∧
      (commitRegister e register value).result = .ok (some r) := by
  have hempty : register.isEmpty = false := by simpa using hregister
  have hempty' : value.isEmpty = false := by simpa using hvalue
  simp only [commitRegister, hempty, hn, hr, hempty', hv, Bool.false_eq_true, if_false, Outcome.ok, and_self]

theorem commitMemory_nil (e : Emulator) (value : Text) : commitMemory e [] value = .ok e [] none := rfl

theorem commitMemory_eq {a v : Int} {i : Nat} (ha : Numeral.readWord memory = .ok a) (hv : Numeral.readWord value = .ok v)
    (hi : e.cpu.region.indexOf a = .ok i) (hmemory : memory ≠ []) (hvalue : value ≠ []) :
    (commitMemory e memory value).state =
        { e with cpu := { e.cpu with stack := (e.cpu.region.putWord i v).data } } ∧
      (commitMemory e memory value).result = .ok (some i) := by
  have hempty : (memory.isEmpty || value.isEmpty) = false := by simp [hmemory, hvalue]
  simp only [commitMemory, hempty, ha, hv, StackRegion.writeWordAt_of_ok hi, Bool.false_eq_true, if_false, Outcome.ok,
    and_self]

/-- Both parts of a commit are done, and the fields are emptied. -/
theorem commit_eq {index : Option Nat} {register : Option Reg} (h : s.initialized = true)
    (hr : s.registerEdit.result = .ok register) (hm : s.memoryEdit.result = .ok index) :
    s.commit.state = { s with machine := s.memoryEdit.state, fields := s.fields.clearAll.release } ∧
      s.commit.result = .ok ⟨register, index⟩ := by
  have hcommit := s.commitsAs
  generalize s.commit = done at hcommit
  cases hcommit with
  | idle ready => simp [h] at ready
  | register _ ends => simp [hr] at ends
  | memory _ _ ends => simp [hm] at ends
  | done _ edited written =>
    obtain rfl := Except.ok.inj (hr.symm.trans edited)
    obtain rfl := Except.ok.inj (hm.symm.trans written)
    exact ⟨rfl, rfl⟩

theorem blank_emptied {fs : Fields} (hfs : fs.Sound) : fs.clearAll.release.Blank where
  active := Fields.active_activate _ none
  get id := by
    rw [get_emptied hfs]
    exact ⟨rfl, rfl, rfl⟩

/-! ### Typing and committing -/

/-- The commands that move the focus to a field and type into it, piece by piece. -/
def typing (id : FieldId) (pieces : List Text) : List Command :=
  .activate (some id) :: pieces.map .typeText

theorem runs_typing (s : Session) (id : FieldId) (pieces : List Text) :
    s.runs (typing id pieces) = { s with fields := s.fields.runs (Fields.typing id pieces) } := by
  have htyped : ∀ s : Session, s.runs (pieces.map .typeText) = { s with fields := s.fields.runs (pieces.map .typeText) } := by
    induction pieces with
    | nil => exact fun _ => rfl
    | cons piece pieces ih => exact fun s => ih (s.typeText piece).2
  exact htyped (s.activate (some id))

/-- One field and the value field are filled in, and the return key commits what they say. -/
theorem runs_entry (hready : s.initialized = true) (hs : s.fields.Sound) (hempty : ∀ id, s.fields.text id = [])
    {id : FieldId} (hid : id ≠ .value) (ps qs : List Text)
    (hps : ps.flatten.length < (s.fields.get id).editor.capacity)
    (hqs : qs.flatten.length < (s.fields.get .value).editor.capacity) :
    let edited := commitRegister s.machine (if .register = id then ps.flatten else []) qs.flatten
    let written := commitMemory edited.state (if .memory = id then ps.flatten else []) qs.flatten
    ∀ register index, edited.result = .ok register → written.result = .ok index →
    ∃ fields : Fields, fields.Blank ∧ s.runs (typing id ps ++ typing .value qs ++ [.press .enter]) =
      { s with machine := written.state, fields := fields } := by
  intro edited written register index hedited hwritten
  let first := s.fields.runs (Fields.typing id ps)
  let second := first.runs (Fields.typing .value qs)
  have hfirst : first.Sound := hs.runs _
  obtain ⟨-, htext⟩ := Fields.typing_eq hs (hempty id) hps
  have hvalue : first.text .value = [] := by rw [htext, if_neg (Ne.symm hid), hempty]
  have hcapacity : (first.get .value).editor.capacity = (s.fields.get .value).editor.capacity :=
    Fields.capacity_runs hs _ _
  obtain ⟨hactive, htext'⟩ := Fields.typing_eq hfirst hvalue (hcapacity ▸ hqs)
  have hsecond : ∀ other, second.text other =
      if other = .value then qs.flatten else if other = id then ps.flatten else [] := by
    intro other
    rw [htext', htext, hempty]
  have hentered : s.runs (typing id ps ++ typing .value qs ++ [.press .enter]) =
      (commit { s with fields := second }).state := by
    rw [runs_append, runs_append, runs_typing, runs_typing]
    change (press _ .enter).state = _
    rw [press]
    simp only [first, second, hactive, if_true]
  have hregister : registerEdit { s with fields := second } = edited := by
    simp only [registerEdit, hsecond, if_true, if_false, reduceCtorEq, edited]
  have hmemory : memoryEdit { s with fields := second } = written := by
    simp only [memoryEdit, hregister, hsecond, if_true, if_false, reduceCtorEq, written]
  refine ⟨second.clearAll.release, blank_emptied (hfirst.runs _), ?_⟩
  rw [hentered, (commit_eq (s := { s with fields := second }) hready (hregister ▸ hedited) (hmemory ▸ hwritten)).1, hmemory]

/-! ### The view of the stack -/

/-- The address of a row is short enough for a field, and is read back as that of its word. -/
theorem indexOf_shown_address {stackSize : Int} (hs : s.Sound stackSize) (hready : s.initialized = true) {row : StackRow}
    (hrow : row ∈ s.stackRows) (hrange : row.address < Word.limit) :
    row.index < s.machine.cpu.region.wordCount ∧ (Numeral.shown row.address).length ≤ 18 ∧
      ∃ a, Numeral.readWord (Numeral.shown row.address) = .ok a ∧
        s.machine.cpu.region.indexOf a = .ok row.index := by
  obtain ⟨i, hi, rfl⟩ := List.mem_map.1 hrow
  have hcount : i < s.machine.cpu.region.wordCount := s.within_stackWindow.lt_of_mem hi
  obtain ⟨_, -, hsince⟩ := hs.since hready
  have hbottom : 0 ≤ s.machine.cpu.stackBottom := hsince.bottom ▸ Int.le_max_left 0 _
  obtain ⟨a, ha⟩ : ∃ a : Nat, s.machine.cpu.region.addressOf i = a :=
    Int.eq_ofNat_of_zero_le (Int.add_nonneg hbottom (Int.natCast_nonneg (i * Word.bytes)))
  dsimp only at hrange ⊢
  rw [ha] at hrange ⊢
  have hlimit : a < Word.limit := Int.ofNat_lt.1 hrange
  refine ⟨hcount, Numeral.length_shown_le hlimit, a, Numeral.readWord_shown hlimit, ?_⟩
  rw [← ha, StackRegion.indexOf_eq_ok_iff, Cpu.addressOf_region]
  exact ⟨hcount, le_rfl, Int.lt_add_of_pos_right _ (by decide)⟩

theorem region_putWord (c : Cpu) (i : Nat) (v : Int) :
    Cpu.region { c with stack := (c.region.putWord i v).data } = c.region.putWord i v := rfl

/-- Where a word is put, its row shows it, and the other rows are as they were. -/
theorem stackRows_putWord {i : Nat} (hi : i < s.machine.cpu.region.wordCount) {v : Nat} (hv : v < Word.limit)
    (fields : Fields) :
    stackRows
        { s with
          machine := { s.machine with cpu := { s.machine.cpu with stack := (s.machine.cpu.region.putWord i v).data } }
          fields := fields } =
      s.stackRows.map fun row => if row.index = i then { row with value := v } else row := by
  have hwrap : (Word.wrap v).toNat = v := by
    rw [Word.wrap_of_range (Int.natCast_nonneg v) (by exact_mod_cast hv), Int.toNat_natCast]
  simp only [stackRows, stackWindow, List.map_map, region_putWord, StackRegion.wordCount_putWord (v : Int) hi]
  refine List.map_congr_left fun j _ => ?_
  rw [StackRegion.wordAtIndex_putWord (v : Int) hi, hwrap]
  simp only [Function.comp_apply]
  split <;> rfl

end Session

open Session

/-- Values can be typed as they are shown. In a session with a program, with room for nineteen characters in its fields
and nothing in them, the number of a register and a word in hexadecimal, typed in pieces of any size and followed by
the return key, put the word into the register, which is marked; and the address of a row of the stack and a word
make it the word of that row. Everything else of the machine stays, and the fields are empty again. -/
theorem shown_values_can_be_typed_back {stackSize : Int} {layout : Layout} {commands : List Command}
    (hready : (reached stackSize layout commands).initialized = true) (hcapacity : 19 ≤ layout.inputCapacity)
    (hempty : ∀ id, (reached stackSize layout commands).fields.text id = []) :
    let s := reached stackSize layout commands
    let c := s.machine.cpu
    (∀ (r : Reg) (v : Nat) (ps qs : List Text), v < Word.limit → ps.flatten = Numeral.natDecimal r.val →
      qs.flatten = Numeral.shown v →
      ∃ fields : Fields, fields.Blank ∧ s.runs (typing .register ps ++ typing .value qs ++ [.press .enter]) =
        { s with
          machine := { s.machine with cpu := { c with registers := c.registers.set r v, used := c.used.set r true } }
          fields := fields }) ∧
    ∀ row ∈ s.stackRows, row.address < Word.limit → ∀ (v : Nat) (ps qs : List Text), v < Word.limit →
      ps.flatten = Numeral.shown row.address → qs.flatten = Numeral.shown v →
      let s' := s.runs (typing .memory ps ++ typing .value qs ++ [.press .enter])
      ∃ (fields : Fields) (stack : List UInt8), fields.Blank ∧
        s' = { s with machine := { s.machine with cpu := { c with stack := stack } }, fields := fields } ∧
        stack.length = c.stack.length ∧
        (∀ j, j < row.index * Word.bytes ∨ row.index * Word.bytes + Word.bytes ≤ j → stack[j]? = c.stack[j]?) ∧
        s'.stackRows = s.stackRows.map fun x => if x.index = row.index then { x with value := v } else x := by
  intro s c
  obtain ⟨hfs, hroom⟩ := fields_reached stackSize layout commands
  refine ⟨fun r v ps qs hv hps hqs => ?_, fun row hrow hrange v ps qs hv hps hqs => ?_⟩
  · have hword := Numeral.length_shown_le hv
    have hnumber : (Numeral.natDecimal r.val).length ≤ 2 :=
      Numeral.length_natDecimal_le (Nat.lt_of_lt_of_le r.isLt (by decide))
    have hread := Numeral.readDecimal_natDecimal (Nat.le_trans hnumber (by decide))
    have hr : Reg.ofInt? (r.val : Int) = some r := dif_pos r.isLt
    obtain ⟨hstate, hresult⟩ := commitRegister_eq (e := s.machine) hread hr (Numeral.readWord_shown hv)
      (Numeral.natDecimal_ne_nil _) (Numeral.shown_ne_nil _)
    have hruns := runs_entry hready hfs hempty (by decide : FieldId.register ≠ .value) ps qs
      (by rw [hps, hroom]; omega) (by rw [hqs, hroom]; omega)
    simp only [if_true, if_false, reduceCtorEq, hps, hqs, commitMemory_nil, Outcome.ok] at hruns
    obtain ⟨fields, hblank, hruns⟩ := hruns _ _ hresult rfl
    rw [hstate] at hruns
    exact ⟨fields, hblank, hruns⟩
  · have hword := Numeral.length_shown_le hv
    obtain ⟨hcount, haddress, a, hread, hindex⟩ :=
      indexOf_shown_address (sound_reached stackSize layout commands) hready hrow hrange
    obtain ⟨hstate, hresult⟩ := commitMemory_eq hread (Numeral.readWord_shown hv) hindex (Numeral.shown_ne_nil _)
      (Numeral.shown_ne_nil _)
    have hruns := runs_entry hready hfs hempty (by decide : FieldId.memory ≠ .value) ps qs
      (by rw [hps, hroom]; omega) (by rw [hqs, hroom]; omega)
    simp only [if_true, if_false, reduceCtorEq, hps, hqs, commitRegister_nil, Outcome.ok] at hruns
    obtain ⟨fields, hblank, hruns⟩ := hruns _ _ rfl hresult
    rw [hstate] at hruns
    intro s'
    have hs' : s' = _ := hruns
    rw [hs']
    exact ⟨fields, _, hblank, rfl, StackRegion.length_putWord _ hcount,
      fun j hj => StackRegion.getElem?_putWord _ hcount hj, stackRows_putWord hcount hv fields⟩

/-- The program counter is put behind the listing, and the topmost word of the stack is filled. -/
theorem counter_can_be_typed_back :
    let s := reached 0x100 Layout.standard [.load lastSlotDevice lastSlotRequest]
    s.initialized = true ∧ 19 ≤ Layout.standard.inputCapacity ∧ (∀ id, s.fields.text id = []) ∧
      (s.runs (typing .register ["3", "2"] ++ typing .value ["0x40", "00"] ++ [.press .enter])).pc = 0x4000 ∧
      ⟨31, 0x7ff8, 0xff⟩ ∈ (s.runs (typing .memory ["0x7ff8"] ++ typing .value ["0xff"] ++ [.press .enter])).stackRows := by
  intro s
  have hready : s.initialized = true := atLine_lastSlot.1.ready
  have hcapacity : 19 ≤ Layout.standard.inputCapacity := by decide
  have hempty : ∀ id, s.fields.text id = [] := by
    intro id
    have hfields : s.fields = (Fields.ofCapacity _).clearAll.release := fields_load_of_ok (load_ok_of_ready hready)
    rw [hfields, Fields.text, get_emptied (Fields.sound_ofCapacity _)]
    rfl
  have hbottom : s.machine.cpu.stackBottom = 0x7f00 := lastSlot_since.bottom
  have hcount : s.machine.cpu.region.wordCount = 32 := by
    rw [wordCount_of_filled lastSlot_since.filled, lastSlot_since.top, lastSlot_since.bottom]
    decide
  have haddress : s.machine.cpu.region.addressOf (31 : Nat) = 0x7ff8 := by
    rw [Cpu.addressOf_region, hbottom]
    decide
  have hlayout : s.layout = Layout.standard := runs_layout _ _
  have hrow : ⟨31, 0x7ff8, s.machine.cpu.region.wordAtIndex 31⟩ ∈ s.stackRows :=
    haddress ▸ mem_stackRows hready (by rw [hcount]; decide) (by rw [hcount, hlayout]; decide)
  obtain ⟨hregisters, hwords⟩ := shown_values_can_be_typed_back hready hcapacity hempty
  obtain ⟨_, -, hcounter⟩ := hregisters .pc 0x4000 ["3", "2"] ["0x40", "00"] (by decide) (by decide) (by decide)
  obtain ⟨_, _, -, -, -, -, hrows⟩ := hwords _ hrow (by decide) 0xff ["0x7ff8"] ["0xff"] (by decide) (by decide) (by decide)
  refine ⟨hready, hcapacity, hempty, ?_, ?_⟩
  · rw [hcounter]
    exact Vector.getElem_set_self _
  · rw [hrows]
    exact List.mem_map.2 ⟨_, hrow, rfl⟩

end Stepper
