import Stepper.Proofs.Asm.Labels
import Stepper.Proofs.Machine.Branching

/-! What becomes of a file that defines a label twice. With address columns it is refused. A plain source is loaded all
the same, and its branches to that label go to the last of the definitions. -/

namespace Stepper

open Asm Asm.Source Text Unicode Operation

namespace Emulator

variable {d : Device} {path text : Text} {base : Int}

/-- A load ends with a complaint about the text of the file. -/
def Refused (o : Outcome Emulator LoadError Unit) : Prop :=
  ∃ cause, o.result = .error (.refused cause)

theorem not_refused_install (e : Emulator) (l : Listing) (pcStart spStart : Int) (room : Nat) :
    ¬ Refused (e.install path l pcStart spStart room) := by
  rintro ⟨cause, h⟩
  rw [(e.install_eq path l pcStart spStart room).2] at h
  cases hreset : (e.cpu.reset spStart pcStart e.stackSize room).2 with
  | ok _ => simp [hreset, Except.mapError] at h
  | error cause => simp [hreset, Except.mapError] at h

theorem refused_load_iff (e : Emulator) (spStart : Int) (htext : readText d path = .ok text) :
    Refused (e.load d path base spStart) ↔ ∀ l, (listingOf path text base).2 ≠ .ok l := by
  constructor
  · rintro ⟨cause, h⟩ l hl
    rw [(e.load_of_listing spStart htext hl).2] at h
    exact e.not_refused_install l base spStart d.room ⟨cause, h⟩
  · intro hnone
    cases hl : (listingOf path text base).2 with
    | ok l => exact absurd hl (hnone l)
    | error cause => exact ⟨cause, by simp [load, htext, hl, Outcome.error]⟩

theorem state_of_refused {e : Emulator} {spStart : Int} (h : Refused (e.load d path base spStart)) :
    (e.load d path base spStart).state = e := by
  cases htext : readText d path with
  | error cause => simp [load, htext, Outcome.error]
  | ok text =>
    cases hl : (listingOf path text base).2 with
    | ok l => exact absurd hl ((refused_load_iff e spStart htext).1 h l)
    | error cause => simp [load, htext, hl, Outcome.error]

theorem refused_load_listing_iff (e : Emulator) (spStart : Int) (htext : readText d path = .ok text)
    (hlisting : isAddressListing text = true) :
    Refused (e.load d path base spStart) ↔ ¬ (definedNames text).Nodup ∨ ¬ Aligned (slots (lines text)) := by
  have hnames : definedNames text = listedLabels (lines text) := if_pos hlisting
  have hof : (listingOf path text base).2 = Listing.read text := by simp [listingOf, hlisting]
  rw [refused_load_iff e spStart htext, hof, hnames, ← not_and_or, ← Listing.exists_read_iff, not_exists]

/-- In the line `u` of a machine a taken branch, read as `i` in the source, goes to the address `goal`. -/
def BranchesTo (m : Emulator) (op : Operation) (i : Instruction) (u : Text) (goal : Int) : Prop :=
  ∀ c : Cpu, (op.jump? c i i.operands).isSome = true →
    ∃ c', run { m with cpu := c } u = .ok { m with cpu := c' } ∧ c'.get .pc = Word.wrap goal

end Emulator

/-- The address of the slot behind the instructions that are read off some lines. -/
def slotAfter (base : Int) (before : List Text) : Int :=
  base + (before.filterMap readInstruction?).length * instructionSize

/-- In a machine that has loaded a plain source, a branch goes to the last definition of its label. -/
theorem branchesTo_last {source : Text} {base : Int} (hplain : isAddressListing source = false) (hbase : 0 ≤ base)
    (hnames : ∀ name ∈ definedNames source, name ∉ keywords) (e : Emulator) {d : Device} {path : Text} (spStart : Int)
    (hread : Emulator.readText d path = .ok source) {j : Nat} {line u : Text} {i : Instruction} {op : Operation}
    {t : Operand} {name : Text} (hline : (Source.read source).instructions[j]? = some line)
    (hu : ((e.load d path base spStart).state.code)[j]? = some u) (hi : Instruction.read line 0 = .ok i)
    (hop : named? i.mnemonic = some op) (ht : op.target? i.operands = some t) (hname : t.kind = .label name)
    {definition : Text} {before after : List Text}
    (hlast : LastRead (renameRegisters false name) (cleanLines source) before definition after) :
    (e.load d path base spStart).state.BranchesTo op i u (slotAfter base before) := by
  obtain ⟨b, rfl⟩ := Int.eq_ofNat_of_zero_le hbase
  have hlisting := e.listing_of_load_plain b hplain spStart hread
  have hlabels : (e.load d path b spStart).state.listing.labels = [] := by rw [hlisting]
  have hsound := Source.sound_read source
  have hno : ∀ l ∈ (Source.read source).labels, l.1 ∉ keywords := by
    intro l hl
    refine hnames _ ?_
    rw [definedNames, hplain]
    exact mem_labelOf_of_mem_labels hl
  obtain rfl : instructionText b (Source.read source).labels line = u := by
    rw [Emulator.code, hlisting, List.getElem?_take] at hu
    split at hu
    · simpa [preparedLines, hline] using hu
    · simp at hu
  obtain ⟨ne, hclean⟩ := hsound.clean line (List.mem_of_getElem? hline)
  intro c htaken
  rcases exists_preparedBranch (Int.natCast_nonneg b) hsound.named hno hclean ne hi hop ht hname with
    ⟨i', t', hbranch⟩ | ⟨-, hnone⟩
  · exact (Emulator.run_preparedBranch (m := { (e.load d path b spStart).state with cpu := c }) hbranch hlabels
      (hbranch.taken c htaken)).1 _ hlast.lookup
  · simp [hnone c] at htaken

/-- A file with address columns is refused just if it defines a name twice or its columns contradict each other, and the
machine stays as it was. A plain source is never refused, whatever it defines. Where a name is defined twice in one, a
branch to it goes to the slot of the last definition. -/
theorem duplicate_labels_refused_iff {d : Device} {path text : Text} (htext : Emulator.readText d path = .ok text)
    (e : Emulator) (base spStart : Int) :
    let o := e.load d path base spStart
    (isAddressListing text = true →
      (Emulator.Refused o ↔ ¬ (definedNames text).Nodup ∨ ¬ Aligned (slots (lines text)))) ∧
    (Emulator.Refused o → o.state = e) ∧
    (isAddressListing text = false → 0 ≤ base →
      ¬ Emulator.Refused o ∧
      (0 ≤ spStart → 0 ≤ e.stackSize → Cpu.Fits d.room e.stackSize → o.result = .ok ()) ∧
      ((∀ name ∈ definedNames text, name ∉ keywords) →
        ∀ (j : Nat) (line u : Text) (i : Instruction) (op : Operation) (t : Operand) (name : Text),
          (Source.read text).instructions[j]? = some line → o.state.code[j]? = some u →
          Instruction.read line 0 = .ok i → named? i.mnemonic = some op → op.target? i.operands = some t →
          t.kind = .label name → ∀ before definition after,
          LastRead (renameRegisters false name) (cleanLines text) before definition after →
          o.state.BranchesTo op i u (slotAfter base before))) := by
  refine ⟨e.refused_load_listing_iff spStart htext, Emulator.state_of_refused, fun hplain hbase => ?_⟩
  refine ⟨?_, ?_, ?_⟩
  · obtain ⟨b, rfl⟩ := Int.eq_ofNat_of_zero_le hbase
    rw [Emulator.refused_load_iff e spStart htext]
    exact fun hnone => hnone _ (Emulator.listingOf_plain hplain)
  · intro hsp hsize hroom
    obtain ⟨b, rfl⟩ := Int.eq_ofNat_of_zero_le hbase
    rw [(e.load_of_listing spStart htext (Emulator.listingOf_plain hplain)).2, (e.install_eq path _ b spStart d.room).2,
      Emulator.reset_ok hsp hsize hroom]
    rfl
  · intro hnames j line u i op t name hline hu hi hop ht hname before definition after hlast
    exact branchesTo_last hplain hbase hnames e spStart htext hline hu hi hop ht hname hlast

/-- A source that defines a label, in two spellings, in front of each of its first instructions. -/
def twiceSource : Text := "a: nop\nA: nop\nb a\n"

def twiceDevice : Device where
  working := "/"
  scratch := []
  room := 0x10000
  depth := 100
  nodes := [(["twice.s".toList], .file (Utf8.encode twiceSource))]

theorem lines_twiceSource : lines twiceSource = ["a: nop".toList, "A: nop".toList, "b a".toList] := by decide

theorem commentFree_twiceSource : ∀ line ∈ lines twiceSource, CommentFree line := by
  rw [lines_twiceSource]
  unfold CommentFree
  decide

theorem cleanLines_twiceSource : cleanLines twiceSource = ["a: nop".toList, "A: nop".toList, "b a".toList] := by
  rw [cleanLines_of_commentFree (by decide) commentFree_twiceSource, lines_twiceSource]
  decide

theorem plain_twiceSource : isAddressListing twiceSource = false := by
  rw [isAddressListing_of_commentFree commentFree_twiceSource, lines_twiceSource]
  decide

theorem second_definition_is_reached :
    Emulator.readText twiceDevice "twice.s" = .ok twiceSource ∧ ¬ (definedNames twiceSource).Nodup ∧
    ((Emulator.create 0x100).load twiceDevice "twice.s" 0x4000 0x8000).result = .ok () ∧
    ∃ m u c, m = ((Emulator.create 0x100).load twiceDevice "twice.s" 0x4000 0x8000).state ∧ m.code[2]? = some u ∧
      m.run u = .ok { m with cpu := c } ∧ c.get .pc = 0x4004 := by
  have hread : Emulator.readText twiceDevice "twice.s" = .ok twiceSource :=
    Emulator.readText_of_encoded (by decide) (by decide) (by decide)
  have hnames : definedNames twiceSource = ["a".toList, "a".toList] := by
    rw [definedNames, plain_twiceSource, cleanLines_twiceSource]
    decide
  have hinstructions : (Source.read twiceSource).instructions = ["nop".toList, "nop".toList, "b a".toList] := by
    rw [Source.read, cleanLines_twiceSource]
    decide
  obtain ⟨-, -, hplain⟩ := duplicate_labels_refused_iff hread (Emulator.create 0x100) 0x4000 0x8000
  obtain ⟨-, hok, hbranches⟩ := hplain plain_twiceSource (by decide)
  refine ⟨hread, by rw [hnames]; decide, hok (by decide) (by decide) (by decide), ?_⟩
  have hkeywords : ∀ name ∈ definedNames twiceSource, name ∉ keywords := by
    rw [hnames]
    decide
  have hbranch : Instruction.read "b a" 0 = .ok ⟨"b a", "B", [⟨.label "a", "a"⟩]⟩ := by
    rw [Instruction.read, stripComment_of_commentFree (by unfold CommentFree; decide)]
    rfl
  have hlast : LastRead (renameRegisters false "a") (cleanLines twiceSource) ["a: nop".toList] "A: nop".toList
      ["b a".toList] := ⟨cleanLines_twiceSource, by decide, by decide⟩
  have hcode : ((Emulator.create 0x100).load twiceDevice "twice.s" 0x4000 0x8000).state.code =
      ["nop".toList, "nop".toList, "b a".toList].map (instructionText 0x4000 (Source.read twiceSource).labels) := by
    have hlisting := (Emulator.create 0x100).listing_of_load_plain 0x4000 plain_twiceSource 0x8000 hread
    rw [Nat.cast_ofNat] at hlisting
    rw [Emulator.code, hlisting, ← hinstructions]
    exact List.take_of_length_le (by rw [preparedLines, hinstructions]; decide)
  obtain ⟨c, hrun, hpc⟩ := hbranches hkeywords 2 "b a" _ _ .b _ "a" (by rw [hinstructions]; rfl)
    (by rw [hcode]; rfl) hbranch (by decide)
    rfl rfl _ _ _ hlast _ rfl
  exact ⟨_, _, c, rfl, by rw [hcode]; rfl, hrun, hpc.trans (by decide)⟩

end Stepper
