import Stepper.Numeral.Lenient
import Stepper.Proofs.Machine.Effect
import Stepper.Proofs.Machine.Loading

/-! The range of the registers. Everything that is written to a register is a word, with one exception: the
address of a label behind the last word goes to the program counter as it is. -/

namespace Stepper

open Asm

def Word.Fits (v : Int) : Prop :=
  0 ≤ v ∧ v < Word.limit

theorem Word.fits_wrap (v : Int) : Word.Fits (Word.wrap v) :=
  ⟨Word.wrap_nonneg v, Word.wrap_lt v⟩

theorem Word.fits_zero : Word.Fits 0 := by
  unfold Word.Fits
  decide

theorem Numeral.fits_of_readWord {t : Text} {v : Int} (h : readWord t = .ok v) : Word.Fits v := by
  unfold readWord at h
  dsimp only at h
  cases hn : readMagnitude (splitSign (Text.trimStart t)).2 with
  | error e => simp [hn, Except.map] at h
  | ok n =>
    rw [hn] at h
    have hlimit : 0 < Word.limit := by decide
    obtain rfl := Except.ok.inj h
    dsimp only
    split
    · exact ⟨by omega, by omega⟩
    · split
      · exact Word.fits_wrap _
      · exact ⟨by omega, by omega⟩

/-! ### Registers -/

namespace Cpu

theorem get_put (c : Cpu) (r r' : Reg) (v : Int) : (c.put r v).get r' = if r = r' then v else c.get r' := by
  simp [put, get, Vector.getElem_set, Fin.ext_iff]

/-- Every register holds a word, but for the program counter, which may also hold what `P` allows. -/
def Holds (P : Int → Prop) (c : Cpu) : Prop :=
  ∀ r, Word.Fits (c.get r) ∨ r = .pc ∧ P (c.get r)

/-- Every register holds a word. -/
def Words (c : Cpu) : Prop :=
  ∀ r, Word.Fits (c.get r)

variable {c : Cpu} {P : Int → Prop}

theorem Words.holds (h : c.Words) : c.Holds P := fun r => .inl (h r)

theorem holds_false_iff : c.Holds (fun _ => False) ↔ c.Words := by
  simp [Holds, Words]

theorem Holds.put (h : c.Holds P) {v : Int} (hv : Word.Fits v) (r : Reg) : (c.put r v).Holds P := by
  intro r'
  rw [get_put]
  split
  · exact .inl hv
  · exact h r'

theorem Holds.setReg (h : c.Holds P) (r : Reg) (v : Int) : (c.setReg r v).Holds P :=
  h.put (Word.fits_wrap v) r

theorem Holds.write (h : c.Holds P) (address v : Int) (size : Nat) : (c.write address v size).Holds P := h

/-- A word in the program counter leaves nothing else. -/
theorem Holds.put_pc (h : c.Holds P) {v : Int} (hv : Word.Fits v) : (c.put .pc v).Words := by
  intro r
  rw [get_put]
  split
  · exact hv
  · next hne =>
    rcases h r with hr | ⟨rfl, -⟩
    · exact hr
    · exact absurd rfl hne

theorem Words.put_pc_holds (h : c.Words) {v : Int} (hv : P v) : (c.put .pc v).Holds P := by
  intro r
  rw [get_put]
  split
  · next heq => exact .inr ⟨heq.symm, hv⟩
  · exact .inl (h r)

theorem words_initial : initial.Words := by
  intro r
  have hzero : initial.get r = 0 := by simp [initial, get]
  rw [hzero]
  exact Word.fits_zero

theorem words_reset (c : Cpu) (spStart pcStart stackSize : Int) (room : Nat) :
    (c.reset spStart pcStart stackSize room).1.Words := by
  have hfresh : (c.restart spStart pcStart stackSize).Words :=
    Holds.put_pc (P := fun _ => False)
      (Holds.put (holds_false_iff.2 fun r => words_initial r) (Word.fits_wrap spStart) .sp) (Word.fits_wrap pcStart)
  unfold reset
  dsimp only
  split
  · exact hfresh
  · exact hfresh

end Cpu

/-! ### Addresses -/

/-- No line and no label has a negative address. -/
structure Asm.Listing.Nonneg (l : Listing) : Prop where
  start : ∀ a ∈ l.codeStart, 0 ≤ a
  labels : ∀ x ∈ l.labels, 0 ≤ x.2

namespace Asm.Listing

theorem nonneg_empty : empty.Nonneg := ⟨by simp [empty], by simp [empty]⟩

theorem Nonneg.push {l : Listing} (h : l.Nonneg) (instruction : Text) : (l.push instruction).Nonneg :=
  ⟨h.start, h.labels⟩

theorem Nonneg.labelAddress? {l : Listing} (h : l.Nonneg) {name : Text} {a : Int}
    (ha : l.labelAddress? name = some a) : 0 ≤ a := by
  unfold Listing.labelAddress? at ha
  simp only [Option.bind_eq_bind, Option.bind_eq_some_iff] at ha
  obtain ⟨n, hn, start, hstart, ha⟩ := ha
  obtain rfl := Option.some.inj ha
  obtain ⟨before, behind, heq, -⟩ := List.lookup_eq_some_iff.1 hn
  have hlabel : 0 ≤ n := h.labels (Unicode.lower name, n) (by simp [heq])
  have hcode : 0 ≤ start := h.start start hstart
  exact Int.add_nonneg hcode (Int.mul_nonneg hlabel (by decide))

theorem Nonneg.place {l l' : Listing} (h : l.Nonneg) {n : Nat} {raw : Text} (hl : l.place n raw = .ok l') : l'.Nonneg := by
  unfold Listing.place at hl
  split at hl
  · obtain rfl := Except.ok.inj hl
    exact h
  · obtain rfl := Except.ok.inj hl
    exact h.push _
  · next address instruction _ =>
    dsimp only at hl
    generalize heq : (if l.codeStart.isNone && l.lines.isEmpty then { l with codeStart := some (address : Int) } else l) = l₁
      at hl
    have hset : l₁.Nonneg := by
      subst heq
      split
      · exact ⟨fun a ha => by obtain rfl := Option.some.inj ha; exact Int.natCast_nonneg _, h.labels⟩
      · exact h
    split at hl
    · obtain rfl := Except.ok.inj hl
      exact hset.push _
    · split at hl
      · obtain rfl := Except.ok.inj hl
        exact hset.push _
      · simp at hl
  · next name rest _ =>
    split at hl
    · simp at hl
    · dsimp only at hl
      have hlabels : { l with labels := l.labels ++ [(name, (l.lines.length : Int))] }.Nonneg := by
        refine ⟨h.start, fun x hx => ?_⟩
        rcases List.mem_append.1 hx with hx | hx
        · exact h.labels x hx
        · obtain rfl := List.mem_singleton.1 hx
          exact Int.natCast_nonneg _
      split at hl
      · obtain rfl := Except.ok.inj hl
        exact hlabels
      · obtain rfl := Except.ok.inj hl
        exact hlabels.push _

theorem Nonneg.placeAll {raws : List Text} {l l' : Listing} (h : l.Nonneg) {n : Nat} (hl : l.placeAll n raws = .ok l') :
    l'.Nonneg := by
  induction raws generalizing l n with
  | nil =>
    obtain rfl := Except.ok.inj hl
    exact h
  | cons raw raws ih =>
    unfold Listing.placeAll at hl
    cases hplace : l.place n raw with
    | error cause => simp [hplace, bind, Except.bind] at hl
    | ok l₁ =>
      simp only [hplace, bind, Except.bind] at hl
      exact ih (h.place hplace) hl

theorem nonneg_of_read {text : Text} {l : Listing} (h : Listing.read text = .ok l) : l.Nonneg :=
  nonneg_empty.placeAll h

end Asm.Listing

/-! ### Operations -/

namespace Operation

/-- An operation jumps to a label whose address is no word. -/
def Overshoots (op : Operation) (c : Cpu) (l : Listing) (i : Instruction) (os : List Operand) : Prop :=
  ∃ target name a, op.jump? c i os = some target ∧ target.kind = .label name ∧ l.labelAddress? name = some a ∧
    Word.limit ≤ a

variable {op : Operation} {c c' : Cpu} {l : Listing} {i : Instruction} {o : Operand} {os : List Operand}

theorem fits_valueOf (h : c.Words) {v : Int} (hv : valueOf c i o = .ok v) : Word.Fits v := by
  unfold valueOf at hv
  split at hv
  · obtain rfl := Except.ok.inj hv
    exact h _
  · obtain rfl := Except.ok.inj hv
    exact Word.fits_zero
  · obtain rfl := Except.ok.inj hv
    exact Word.fits_wrap _
  · simp [refuse] at hv

/-- A target is an immediate, which is wrapped, or the address of a label, which is not. -/
theorem targetOf_cases {a : Int} (h : targetOf l i o = .ok a) :
    (Word.Fits a ∧ ∀ name, o.kind ≠ .label name) ∨ ∃ name, o.kind = .label name ∧ l.labelAddress? name = some a := by
  unfold targetOf at h
  split at h
  · next hkind =>
    obtain rfl := Except.ok.inj h
    exact .inl ⟨Word.fits_wrap _, by simp [hkind]⟩
  · next name hkind =>
    split at h
    · next haddress =>
      obtain rfl := Except.ok.inj h
      exact .inr ⟨name, hkind, haddress⟩
    · simp [refuse] at h
  · simp [refuse] at h

theorem targetOf_nonneg (hl : l.Nonneg) {a : Int} (h : targetOf l i o = .ok a) : 0 ≤ a := by
  rcases targetOf_cases h with ⟨ha, -⟩ | ⟨name, -, haddress⟩
  · exact ha.1
  · exact hl.labelAddress? haddress

theorem not_overshoots (h : op.jump? c i os = none) : ¬ op.Overshoots c l i os := by
  rintro ⟨target, name, a, hjump, -⟩
  simp [h] at hjump

theorem overshoots_iff {target : Operand} {a : Int} (hjump : op.jump? c i os = some target)
    (ha : targetOf l i target = .ok a) : op.Overshoots c l i os ↔ Word.limit ≤ a := by
  constructor
  · rintro ⟨target', name, a', hjump', hkind, haddress, hlimit⟩
    obtain rfl := Option.some.inj (hjump.symm.trans hjump')
    rcases targetOf_cases ha with ⟨-, hno⟩ | ⟨name', hkind', haddress'⟩
    · exact absurd hkind (hno name)
    · obtain rfl : name = name' := by simpa [hkind] using hkind'
      obtain rfl := Option.some.inj (haddress.symm.trans haddress')
      exact hlimit
  · intro hlimit
    rcases targetOf_cases ha with ⟨hfits, -⟩ | ⟨name, hkind, haddress⟩
    · exact absurd hfits.2 (by omega)
    · exact ⟨target, name, a, hjump, hkind, haddress, hlimit⟩

theorem finishes_of_overshoots (h : op.Overshoots c l i os) : ∃ c', Finishes (op.run l i os) c () c' := by
  obtain ⟨target, name, a, hjump, hkind, haddress, -⟩ := h
  exact finishes_of_jump hjump (a := a) (by simp only [targetOf, hkind, haddress])

theorem words_put_pc_iff {a : Int} (h : c.Words) (ha : 0 ≤ a) : (c.put .pc a).Words ↔ ¬ (Word.limit : Int) ≤ a := by
  constructor
  · intro hw
    have hfits := hw .pc
    rw [Cpu.get_put, if_pos rfl] at hfits
    exact Int.not_le.2 hfits.2
  · exact fun hlimit => Cpu.Holds.put_pc (Cpu.holds_false_iff.2 h) ⟨ha, Int.not_le.1 hlimit⟩

/-- From words, an operation ends with words again unless it overshoots. Then only the program counter is no
word, and it is not negative. -/
theorem words_of_effect (hc : c.Words) (hl : l.Nonneg) (h : Effect l i c op os c') :
    c'.Holds (0 ≤ ·) ∧ (c'.Words ↔ ¬ op.Overshoots c l i os) := by
  have straight (hw : c'.Words) (hnone : op.jump? c i os = none) :
      c'.Holds (0 ≤ ·) ∧ (c'.Words ↔ ¬ op.Overshoots c l i os) :=
    ⟨hw.holds, iff_of_true hw (not_overshoots hnone)⟩
  have hc' : c.Holds fun _ => False := Cpu.holds_false_iff.2 hc
  cases h with
  | keeps none => exact straight hc none
  | sets none r v => exact straight (Cpu.holds_false_iff.1 (hc'.setReg r v)) none
  | stores none inside v => exact straight (Cpu.holds_false_iff.1 (hc'.write _ v _)) none
  | returns none source =>
    refine straight (hc'.put_pc ?_) none
    rcases source with rfl | ⟨o, hv⟩
    · exact hc .link
    · exact fits_valueOf hc hv
  | jumps jump goal =>
    have hnonneg := targetOf_nonneg hl goal
    exact ⟨hc.put_pc_holds hnonneg, by rw [overshoots_iff jump goal]; exact words_put_pc_iff hc hnonneg⟩
  | calls jump goal =>
    have hnonneg := targetOf_nonneg hl goal
    have hlink := Cpu.holds_false_iff.1 (hc'.setReg .link (c.get .pc))
    exact ⟨hlink.put_pc_holds hnonneg, by rw [overshoots_iff jump goal]; exact words_put_pc_iff hlink hnonneg⟩

end Operation

/-! ### Machines -/

namespace Emulator

/-- All registers but the program counter hold words, and no address is negative. -/
structure Regular (P : Int → Prop) (e : Emulator) : Prop where
  registers : e.cpu.Holds P
  listing : e.listing.Nonneg

variable {P : Int → Prop} {e : Emulator}

theorem regular_create (stackSize : Int) : (create stackSize).Regular P where
  registers := Cpu.words_initial.holds
  listing := ⟨by simp [create], by simp [create, Listing.empty]⟩

theorem nonneg_of_listingOf {path text : Text} {pcStart : Int} {l : Listing}
    (h : (listingOf path text pcStart).2 = .ok l) : l.Nonneg := by
  unfold listingOf at h
  split at h
  · exact Listing.nonneg_of_read h
  · exact Listing.nonneg_of_read h

theorem nonneg_trimListing {l : Listing} (h : l.Nonneg) {pcStart : Int} (hpc : 0 ≤ pcStart) :
    (trimListing (anchor pcStart l)).2.Nonneg := by
  have hstart : ∀ a, some (l.codeStart.getD pcStart) = some a → 0 ≤ a := by
    intro a ha
    obtain rfl := Option.some.inj ha
    cases hcode : l.codeStart with
    | none => exact hpc
    | some start => exact h.start start hcode
  unfold trimListing
  split
  · exact ⟨hstart, h.labels⟩
  · exact ⟨hstart, h.labels⟩

/-- A load at a non-negative entry point keeps a machine regular, also when it fails. -/
theorem Regular.load (h : e.Regular P) (d : Device) (path : Text) {pcStart : Int} (spStart : Int) (hpc : 0 ≤ pcStart) :
    (e.load d path pcStart spStart).state.Regular P := by
  cases htext : readText d path with
  | error cause => simpa [Emulator.load, htext, Outcome.error] using h
  | ok text =>
    cases hlist : (listingOf path text pcStart).2 with
    | error cause => simpa [Emulator.load, htext, hlist, Outcome.error] using h
    | ok l =>
      rw [(e.load_of_listing spStart htext hlist).1, (e.install_eq path l pcStart spStart d.room).1]
      exact ⟨(Cpu.words_reset _ _ _ _ _).holds, nonneg_trimListing (nonneg_of_listingOf hlist) hpc⟩

end Emulator

end Stepper
