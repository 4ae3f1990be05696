import Stepper.Proofs.Files.Device
import Stepper.Proofs.Machine.Continuation
import Stepper.Proofs.Machine.Loading

/-! Loading as a function of what is loaded. A machine takes over the program that a file holds, or stays as it is
if the file holds none, and clears its processor; nothing of what it was before goes into that. -/

namespace Stepper

open Asm

theorem eq_ok_of_toOption {ε α : Type} {x : Except ε α} {a : α} (h : x.toOption = some a) : x = .ok a := by
  cases x with
  | error e => simp [Except.toOption] at h
  | ok b => exact congrArg Except.ok (Option.some.inj h)

namespace Cpu

theorem size_restart (c : Cpu) (spStart pcStart stackSize : Int) :
    (c.restart spStart pcStart stackSize).stackTop - (c.restart spStart pcStart stackSize).stackBottom =
      spStart - max 0 (spStart - stackSize) := rfl

theorem stackBytes_eq_ok {room : Nat} {size : Int} {n : Nat} (h : stackBytes room size = .ok n) :
    (n : Int) = size ∧ Fits room size := by
  unfold stackBytes at h
  split at h
  · simp at h
  · next hindex =>
    split at h
    · simp at h
    · split at h
      · simp at h
      · obtain rfl := Except.ok.inj h
        simp only [Bool.or_eq_true, decide_eq_true_eq] at hindex
        exact ⟨by omega, by omega, by omega⟩

theorem stackBytes_mono {room room' : Nat} (hroom : room ≤ room') {size : Int} {n : Nat} (h : stackBytes room size = .ok n) :
    stackBytes room' size = .ok n := by
  unfold stackBytes at h ⊢
  split_ifs at h with hindex hneg hmemory
  have hmemory' : ¬ (room' : Int) ≤ size := by omega
  simp only [hindex, hneg, hmemory', if_false, Bool.false_eq_true]
  exact h

/-- A processor that was cleared has room for its stack. -/
theorem exists_stackBytes {c : Cpu} {spStart pcStart stackSize : Int} {room : Nat}
    (h : (c.reset spStart pcStart stackSize room).2 = .ok ()) :
    ∃ n, stackBytes room (spStart - max 0 (spStart - stackSize)) = .ok n := by
  unfold reset at h
  dsimp only at h
  rw [size_restart] at h
  cases hbytes : stackBytes room (spStart - max 0 (spStart - stackSize)) with
  | error cause => simp [hbytes] at h
  | ok n => exact ⟨n, rfl⟩

/-- Where the stack has a size, nothing of the old processor is left. -/
theorem reset_of_ok {c : Cpu} {spStart pcStart stackSize : Int} {room room' : Nat} (hroom : room ≤ room')
    (h : (c.reset spStart pcStart stackSize room).2 = .ok ()) (c' : Cpu) :
    c'.reset spStart pcStart stackSize room' = c.reset spStart pcStart stackSize room := by
  obtain ⟨n, hbytes⟩ := exists_stackBytes h
  simp only [reset, size_restart, hbytes, stackBytes_mono hroom hbytes]
  rfl

/-- The value that a register starts with; that of the program counter is no matter here. -/
def startValue (spStart : Int) (r : Reg) : Int :=
  if r = .sp then Word.wrap spStart else 0

/-- A processor since a program was loaded: its stack lies below the start of the stack pointer, and a register
that is not marked has its first value. -/
structure Since (c : Cpu) (spStart stackSize : Int) : Prop where
  top : c.stackTop = spStart
  bottom : c.stackBottom = max 0 (spStart - stackSize)
  filled : c.Filled
  untouched : ∀ r, r ≠ .pc → c.isUsed r = false → c.get r = startValue spStart r

theorem Since.continues {c c' : Cpu} {spStart stackSize : Int} (h : c.Since spStart stackSize) (hc : c.Continues c') :
    c'.Since spStart stackSize where
  top := hc.top.trans h.top
  bottom := hc.bottom.trans h.bottom
  filled := hc.filled h.filled
  untouched r hr hunused := (hc.kept r hr hunused).trans (h.untouched r hr (hc.unused hunused))

theorem get_restart (c : Cpu) (spStart pcStart stackSize : Int) {r : Reg} (hr : r ≠ .pc) :
    (c.restart spStart pcStart stackSize).get r = startValue spStart r := by
  unfold restart startValue
  rw [get_put, if_neg (Ne.symm hr), get_put]
  by_cases hsp : r = .sp
  · rw [if_pos hsp.symm, if_pos hsp]
  · rw [if_neg (Ne.symm hsp), if_neg hsp]
    simp [initial, get]

theorem since_reset {c : Cpu} {spStart pcStart stackSize : Int} {room : Nat}
    (h : (c.reset spStart pcStart stackSize room).2 = .ok ()) :
    (c.reset spStart pcStart stackSize room).1.Since spStart stackSize := by
  obtain ⟨n, hbytes⟩ := exists_stackBytes h
  simp only [reset, size_restart, hbytes]
  refine ⟨rfl, rfl, ?_, fun r hr _ => get_restart c spStart pcStart stackSize hr⟩
  unfold Filled
  rw [List.length_replicate, (stackBytes_eq_ok hbytes).1]
  rfl

end Cpu

namespace Emulator

/-- The program that a file holds, for an entry point: as it is read, with its first address and cut to its size. -/
def program? (d : Device) (path : Text) (pcStart : Int) : Option Listing :=
  (readText d path).toOption.bind fun text =>
    (listingOf path text pcStart).2.toOption.map fun l => (trimListing (anchor pcStart l)).2

variable {d : Device} {path : Text} {pcStart : Int} {l : Listing}

theorem program?_of_listing {text : Text} (hread : readText d path = .ok text)
    (hlist : (listingOf path text pcStart).2 = .ok l) :
    program? d path pcStart = some (trimListing (anchor pcStart l)).2 := by
  simp [program?, hread, hlist, Except.toOption]

theorem length_of_program? (h : program? d path pcStart = some l) : l.lines.length ≤ maxLines := by
  obtain ⟨text, -, h⟩ := Option.bind_eq_some_iff.1 h
  obtain ⟨l', -, rfl⟩ := Option.map_eq_some_iff.1 h
  unfold trimListing
  split
  · exact List.length_take_le _ _
  · next hshort => exact Nat.not_lt.1 hshort

theorem program?_congr {d' : Device} (h : d'.read (Path.ofText path) = d.read (Path.ofText path)) :
    program? d' path pcStart = program? d path pcStart := by
  simp only [program?, readText, h]

/-- A machine takes over the program and clears its processor, and only that can fail then. -/
theorem load_of_program? (e : Emulator) (spStart : Int) (h : program? d path pcStart = some l) :
    (e.load d path pcStart spStart).state =
        { e with listing := l, cpu := (e.cpu.reset spStart pcStart e.stackSize d.room).1 } ∧
      (e.load d path pcStart spStart).result =
        (e.cpu.reset spStart pcStart e.stackSize d.room).2.mapError fun cause => .fault (.stackSize cause) := by
  obtain ⟨text, htext, h⟩ := Option.bind_eq_some_iff.1 h
  obtain ⟨l', hl, rfl⟩ := Option.map_eq_some_iff.1 h
  obtain ⟨hstate, hresult⟩ := e.load_of_listing spStart (eq_ok_of_toOption htext) (eq_ok_of_toOption hl)
  obtain ⟨hinstall, hcleared⟩ := e.install_eq path l' pcStart spStart d.room
  exact ⟨hstate.trans hinstall, hresult.trans hcleared⟩

/-- A load that goes well has cleared the processor. -/
theorem cleared_of_load {e : Emulator} {spStart : Int} (h : program? d path pcStart = some l)
    (hok : (e.load d path pcStart spStart).result = .ok ()) :
    (e.cpu.reset spStart pcStart e.stackSize d.room).2 = .ok () := by
  rw [(e.load_of_program? spStart h).2] at hok
  cases hreset : (e.cpu.reset spStart pcStart e.stackSize d.room).2 with
  | error cause => simp [hreset, Except.mapError] at hok
  | ok _ => rfl

/-- Where there is no program nothing changes. -/
theorem load_of_none (e : Emulator) (spStart : Int) (h : program? d path pcStart = none) :
    (e.load d path pcStart spStart).state = e ∧ ∃ cause, (e.load d path pcStart spStart).result = .error cause := by
  unfold load
  cases hread : readText d path with
  | error cause => exact ⟨rfl, cause, rfl⟩
  | ok text =>
    cases hlist : (listingOf path text pcStart).2 with
    | error cause => exact ⟨by simp [hlist, Outcome.error], _, by simp [hlist, Outcome.error]; rfl⟩
    | ok l => simp [program?, hread, hlist, Except.toOption] at h

/-- Every file is taken for a text or refused, but one whose bytes are no text. -/
theorem readText_fault_iff (hnull : (Path.ofText path).hasNull = false) :
    (∃ f, readText d path = .error (.fault f)) ↔ ¬ d.Legible (Path.ofText path) := by
  unfold readText
  simp only [hnull, Bool.false_eq_true, if_false]
  cases hread : d.read (Path.ofText path) with
  | error cause => exact iff_of_false (by simp) (not_not_intro (Device.legible_of_unread (by simp [hread])))
  | ok bytes =>
    rw [Device.legible_iff hread]
    cases htext : Utf8.readText bytes <;> simp [htext, Except.mapError]

/-- Where memory has room for the stack, a load fails for a reason that it foresees, unless the bytes of the file are no
text. -/
theorem load_fault_iff (e : Emulator) (d : Device) (pcStart : Int) {spStart : Int}
    (hnull : (Path.ofText path).hasNull = false) (hsp : 0 ≤ spStart) (hsize : 0 ≤ e.stackSize)
    (hroom : Cpu.Fits d.room e.stackSize) :
    (∃ f, (e.load d path pcStart spStart).result = .error (.fault f)) ↔ ¬ d.Legible (Path.ofText path) := by
  rw [← readText_fault_iff hnull]
  unfold load
  cases hread : readText d path with
  | error cause => simp [Outcome.error]
  | ok text =>
    refine iff_of_false ?_ (by simp)
    dsimp only
    cases hlist : (listingOf path text pcStart).2 with
    | error cause => simp [Outcome.error]
    | ok l => simp [(e.install_eq path l pcStart spStart d.room).2, reset_ok hsp hsize hroom, Except.mapError]

/-- A load that goes well gives the same machine whatever the machine was before, if only its stack is of the
same size, the file of the same content and memory not smaller. -/
theorem load_congr {e e' : Emulator} {d' : Device} {spStart : Int} (hsize : e'.stackSize = e.stackSize)
    (hroom : d.room ≤ d'.room) (hfile : d'.read (Path.ofText path) = d.read (Path.ofText path)) (h : (e.load d path pcStart spStart).result = .ok ()) :
    (e'.load d' path pcStart spStart).result = .ok () ∧
      (e'.load d' path pcStart spStart).state = (e.load d path pcStart spStart).state := by
  cases hprogram : program? d path pcStart with
  | none =>
    obtain ⟨-, cause, hcause⟩ := e.load_of_none spStart hprogram
    simp [hcause] at h
  | some l =>
    obtain ⟨hstate, hresult⟩ := e.load_of_program? spStart hprogram
    obtain ⟨hstate', hresult'⟩ := e'.load_of_program? spStart ((program?_congr hfile).trans hprogram)
    have hsame := Cpu.reset_of_ok hroom (cleared_of_load hprogram h) e'.cpu
    rw [hsize, hsame] at hstate' hresult'
    exact ⟨by rw [hresult', ← hresult, h], by rw [hstate', hstate]⟩

end Emulator

end Stepper
