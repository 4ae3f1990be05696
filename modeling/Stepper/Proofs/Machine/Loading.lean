import Stepper.Machine.Emulator
import Stepper.Proofs.Asm.Prepared
import Stepper.Proofs.Files.Utf8

/-! Loading a plain source. The listing that stands for it is read as it stands, and a machine that loads the
listing from a file of its own ends in the same state. -/

namespace Stepper

open Asm Numeral Text

namespace Asm

theorem notMem_prepare (source : Text) (base : Nat) : '\r' ∉ prepare source base := by
  intro hc
  obtain ⟨line, hline, hmem⟩ := List.mem_flatMap.1 hc
  rcases List.mem_append.1 hmem with hmem | hmem
  · rw [← lines_prepare] at hline
    have := not_isLineBreak_of_mem_lines hline _ hmem
    exact absurd this (by decide)
  · exact absurd hmem (by decide)

theorem lines_prepare_eq (source : Text) (base : Nat) :
    lines (prepare source base) =
      (preparedLines source base).mapIdx fun i u => addressLine (base + i * instructionSize) u := by
  rw [lines_prepare, listingLines_eq]

/-- A listing that a prepared source is read as: nothing of it is lost or changed. -/
structure ReadsBack (source : Text) (base : Int) (l : Listing) : Prop where
  read : Listing.read (prepare source base) = .ok l
  labels : l.labels = []
  length : l.lines.length = (lines (prepare source base)).length
  anchored : lines (prepare source base) ≠ [] →
    isAddressListing (prepare source base) = true ∧ l.codeStart = some base
  columns : ∀ (i : Nat) (u : Text), l.lines[i]? = some u → ∃ line, (lines (prepare source base))[i]? = some line ∧
    line = column natHex 6 (base + i * instructionSize) ++ (": 00000000   " ++ u) ∧
    ∃ address : Nat, (address : Int) = base + i * instructionSize ∧ addressColumns? line = some (address, u)

/-- The listing of a prepared source. -/
def preparedListing (source : Text) (base : Nat) : Listing :=
  ⟨if preparedLines source base = [] then none else some (base : Int), preparedLines source base, []⟩

theorem readsBack_preparedListing (source : Text) (base : Nat) :
    ReadsBack source base (preparedListing source base) where
  read := read_prepare source base
  labels := rfl
  length := by simp [preparedListing, lines_prepare_eq]
  anchored h := by
    have ne : preparedLines source base ≠ [] := by
      intro h0
      exact h (by simp [lines_prepare_eq, h0])
    exact ⟨isAddressListing_prepare ne, by simp [preparedListing, ne]⟩
  columns i u hu := by
    have hmem : u ∈ preparedLines source base := List.mem_of_getElem? hu
    have hcast : (base : Int) + (i : Int) * (instructionSize : Int) = ((base + i * instructionSize : Nat) : Int) := by
      push_cast
      rfl
    refine ⟨addressLine (base + i * instructionSize) u, ?_, ?_, base + i * instructionSize, hcast.symm, ?_⟩
    · rw [lines_prepare_eq, List.getElem?_mapIdx]
      simp only [preparedListing] at hu
      rw [hu]
      rfl
    · rw [hcast, column_natHex, addressLine, codeColumn_eq]
    · exact addressColumns?_addressLine _ (preparedLines_column hmem).1

end Asm

namespace Emulator

theorem readText_of_encoded {d : Device} {path text : Text} (hnull : (Path.ofText path).hasNull = false)
    (hfile : d.read (Path.ofText path) = .ok (Utf8.encode text)) (hreturn : '\r' ∉ text) :
    readText d path = .ok text := by
  simp [readText, hnull, hfile, Utf8.readText_encode hreturn, Except.mapError]

theorem load_of_listing (e : Emulator) (spStart : Int) {d : Device} {path text : Text} {pcStart : Int} {l : Listing}
    (hread : readText d path = .ok text) (hlist : (listingOf path text pcStart).2 = .ok l) :
    (e.load d path pcStart spStart).state = (e.install path l pcStart spStart d.room).state ∧
      (e.load d path pcStart spStart).result = (e.install path l pcStart spStart d.room).result := by
  simp [load, hread, hlist]

theorem install_eq (e : Emulator) (path : Text) (l : Listing) (pcStart spStart : Int) (room : Nat) :
    (e.install path l pcStart spStart room).state =
        { e with listing := (trimListing (anchor pcStart l)).2
                 cpu := (e.cpu.reset spStart pcStart e.stackSize room).1 } ∧
      (e.install path l pcStart spStart room).result =
        (e.cpu.reset spStart pcStart e.stackSize room).2.mapError fun cause => .fault (.stackSize cause) := by
  unfold install
  generalize trimListing (anchor pcStart l) = kept
  rcases e.cpu.reset spStart pcStart e.stackSize room with ⟨cpu, cause | _⟩
  · exact ⟨rfl, rfl⟩
  · exact ⟨rfl, rfl⟩

/-- A stack that fits and starts at no negative address is always cleared. -/
theorem reset_ok {c : Cpu} {spStart pcStart stackSize : Int} {room : Nat} (hsp : 0 ≤ spStart) (h0 : 0 ≤ stackSize)
    (h : Cpu.Fits room stackSize) : (c.reset spStart pcStart stackSize room).2 = .ok () := by
  obtain ⟨hroom, hindex⟩ := h
  have hsize : spStart - max 0 (spStart - stackSize) = min spStart stackSize := by omega
  have htop : (c.restart spStart pcStart stackSize).stackTop = spStart := rfl
  have hbottom : (c.restart spStart pcStart stackSize).stackBottom = max 0 (spStart - stackSize) := rfl
  have hlimit : 0 < indexLimit := by decide
  have hbytes : Cpu.stackBytes room (min spStart stackSize) = .ok (min spStart stackSize).toNat := by
    unfold Cpu.stackBytes
    have hindex : (min spStart stackSize < -indexLimit || indexLimit ≤ min spStart stackSize) = false := by
      have h1 : ¬ min spStart stackSize < -indexLimit := by omega
      have h2 : ¬ indexLimit ≤ min spStart stackSize := by omega
      simp only [h1, h2, decide_false, Bool.or_false]
    have hneg : ¬ min spStart stackSize < 0 := by omega
    have hmem : ¬ (room : Int) ≤ min spStart stackSize := by omega
    simp only [hindex, hneg, hmem, if_false, Bool.false_eq_true]
  simp only [Cpu.reset, htop, hbottom, hsize, hbytes]

theorem listingOf_plain {path text : Text} {base : Nat} (h : isAddressListing text = false) :
    (listingOf path text base).2 = .ok (preparedListing text base) := by
  simp only [listingOf, h]
  exact read_prepare text base

/-- The listing in the text of a prepared source is the one that stands for the source. -/
theorem listingOf_prepare (path text : Text) (base : Nat) :
    ∃ l, (listingOf path (prepare text base) base).2 = .ok l ∧ anchor base l = anchor base (preparedListing text base) := by
  by_cases ne : preparedLines text base = []
  · -- nothing was prepared, and the empty text is a plain source again
    have hnil : prepare text base = [] := by
      have : Source.listingLines base (Source.read text) = [] := by rw [listingLines_eq, ne]; rfl
      rw [prepare, this]
      rfl
    rw [hnil]
    refine ⟨_, listingOf_plain rfl, ?_⟩
    have hempty : preparedLines [] base = [] := by
      simp [preparedLines, Source.read, Source.cleanLines, dropBlocks, lines]
    simp [anchor, preparedListing, ne, hempty]
  · refine ⟨preparedListing text base, ?_, rfl⟩
    simp only [listingOf, isAddressListing_prepare ne]
    exact read_prepare text base

end Emulator

/-- Every prepared source is read back line by line, without labels. A plain source is loaded for what it
prepares to: the machine ends as it does when it loads the prepared text, and only the stack can be refused. -/
theorem prepared_source_loads_as_itself (source : Text) {base : Int} (hbase : 0 ≤ base) :
    ∃ l, ReadsBack source base l ∧
      ∀ (e : Emulator) (d : Device) (path : Text) (spStart : Int),
        Emulator.readText d path = .ok source → isAddressListing source = false →
        (∀ (d' : Device) (path' : Text), d'.room = d.room → (Path.ofText path').hasNull = false →
          d'.read (Path.ofText path') = .ok (Utf8.encode (prepare source base)) →
          (e.load d path base spStart).state = (e.load d' path' base spStart).state) ∧
        (∀ cause, (e.load d path base spStart).result = .error cause → ∃ size, cause = .fault (.stackSize size)) ∧
        (0 ≤ spStart → 0 ≤ e.stackSize → Cpu.Fits d.room e.stackSize →
          (e.load d path base spStart).result = .ok ()) := by
  obtain ⟨b, rfl⟩ := Int.eq_ofNat_of_zero_le hbase
  refine ⟨preparedListing source b, readsBack_preparedListing source b, ?_⟩
  intro e d path spStart hread hplain
  obtain ⟨hstate, hresult⟩ := e.load_of_listing spStart hread (Emulator.listingOf_plain hplain)
  obtain ⟨hinstall, hcleared⟩ := e.install_eq path (preparedListing source b) b spStart d.room
  refine ⟨?_, ?_, ?_⟩
  · intro d' path' hroom hnull hfile
    have hread' : Emulator.readText d' path' = .ok (prepare source b) := by
      simp [Emulator.readText, hnull, hfile, Utf8.readText_encode (notMem_prepare source b)]
      rfl
    obtain ⟨l, hl, hanchor⟩ := Emulator.listingOf_prepare path' source b
    obtain ⟨hstate', -⟩ := e.load_of_listing spStart hread' hl
    rw [hstate, hstate', hinstall, (e.install_eq path' l b spStart d'.room).1, hanchor, hroom]
  · intro cause hcause
    rw [hresult, hcleared] at hcause
    cases hr : (e.cpu.reset spStart b e.stackSize d.room).2 with
    | error size =>
      rw [hr] at hcause
      exact ⟨size, (Except.error.inj hcause).symm⟩
    | ok _ =>
      rw [hr] at hcause
      simp [Except.mapError] at hcause
  · intro hsp h0 h
    rw [hresult, hcleared, Emulator.reset_ok hsp h0 h]
    rfl

/-- A source of one instruction that branches to itself. -/
def loopSource : Text := "loop: b loop\n"

/-- A device with a source and with the listing that is prepared from it. -/
def loopDevice : Device where
  working := "/"
  scratch := []
  nodes := [(["loop.s".toList], .file (Utf8.encode loopSource)),
    (["loop.lst".toList], .file (Utf8.encode (prepare loopSource 0x1000)))]
  room := 0x10000
  depth := 100

theorem loopSource_plain : isAddressListing loopSource = false := by
  have hlines : lines loopSource = ["loop: b loop".toList] := by decide
  have hfree : stripComment "loop: b loop".toList = "loop: b loop".toList :=
    stripComment_of_commentFree (by unfold CommentFree; decide)
  rw [isAddressListing, hlines, List.any_cons, List.any_nil, Line.read, hfree]
  decide

theorem loop_loads_as_itself :
    (0 : Int) ≤ 0x1000 ∧ ∃ l, ReadsBack loopSource 0x1000 l ∧
      ((Emulator.create 0x100).load loopDevice "loop.s" 0x1000 0x8000).state =
        ((Emulator.create 0x100).load loopDevice "loop.lst" 0x1000 0x8000).state ∧
      ((Emulator.create 0x100).load loopDevice "loop.s" 0x1000 0x8000).result = .ok () := by
  have hbase : (0 : Int) ≤ 0x1000 := by decide
  obtain ⟨l, hl, hload⟩ := prepared_source_loads_as_itself loopSource hbase
  have hnull : ∀ path ∈ ["loop.s".toList, "loop.lst".toList], (Path.ofText path).hasNull = false := by decide
  have hread : Emulator.readText loopDevice "loop.s" = .ok loopSource := by
    have hfile : loopDevice.read (Path.ofText "loop.s") = .ok (Utf8.encode loopSource) := by decide
    have hreturn : '\r' ∉ loopSource := by decide
    simp only [Emulator.readText, hnull _ (List.mem_cons_self), hfile, Utf8.readText_encode hreturn]
    rfl
  obtain ⟨hsame, -, hok⟩ := hload (Emulator.create 0x100) loopDevice "loop.s" 0x8000 hread loopSource_plain
  exact ⟨hbase, l, hl, hsame loopDevice "loop.lst" rfl (by decide) (by rfl), hok (by decide) (by decide) (by decide)⟩

end Stepper
