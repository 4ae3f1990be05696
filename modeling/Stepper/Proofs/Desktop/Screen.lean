import Mathlib.Data.List.Nodup
import Stepper.Proofs.Desktop.Table
import Stepper.Proofs.Machine.Range
import Stepper.Proofs.Numeral.Limit
import Stepper.Proofs.Session.CodeView
import Stepper.Proofs.Session.Program

/-! Drawing a session. What is drawn stands over whatever was there before, so that nothing of an older session is left.
Only a register with too many digits keeps the screen from being drawn, and there is none of these after a load. -/

namespace Stepper

namespace Session

/-- Every register that is shown has few enough digits to be written. -/
def Presentable (s : Session) : Prop :=
  s.initialized = true → ∀ r, Numeral.Writable (s.machine.cpu.get r)

variable {s : Session}

theorem presentable_of_unready (h : s.initialized = false) : s.Presentable :=
  fun hready => absurd hready (by simp [h])

theorem presentable_of_words (h : s.machine.cpu.Words) : s.Presentable := fun _ r => by
  obtain ⟨hlow, hhigh⟩ := h r
  have hlimit : (Word.limit : Int) < 10 ^ 40 := by decide
  exact Numeral.writable_of_lt (by omega)

/-- A load that goes well leaves words in the registers, and one that fails leaves nothing to show. -/
theorem presentable_of_loading {c : Command} {d : Device} {r : LoadRequest} (h : s.loading? c = some (d, r)) :
    (s.after c).Presentable := by
  obtain ⟨hmachine, -, hfails⟩ := after_of_loading h
  cases hresult : (s.machine.load d r.path r.pcStart r.spStart).result with
  | error cause => exact presentable_of_unready (hfails cause hresult).1
  | ok _ =>
    cases hprogram : Emulator.program? d r.path r.pcStart with
    | none =>
      obtain ⟨-, cause, hcause⟩ := s.machine.load_of_none r.spStart hprogram
      simp [hcause] at hresult
    | some l =>
      refine presentable_of_words ?_
      rw [hmachine, (s.machine.load_of_program? r.spStart hprogram).1]
      exact Cpu.words_reset _ _ _ _ _

end Session

namespace Desktop

/-! ### The items of the registers -/

/-- The items of a register whose value can be written. -/
def writtenItems (r : RegisterRow) : List PlacedCell :=
  let row := r.register.val / 2
  let column := 2 * (r.register.val % 2)
  let colour := if r.used then some Colour.usedRegister else none
  [((row, column), ⟨r.register.name, colour, none⟩),
    ((row, column + 1), ⟨Numeral.shown r.value, colour, some (Numeral.decimal r.value)⟩)]

theorem registerItems_of_writable {r : RegisterRow} (h : Numeral.Writable r.value) :
    registerItems r = .ok (writtenItems r) := by
  rw [registerItems, Numeral.writeDecimal_of_writable h]
  rfl

theorem registerItems_of_not_writable {r : RegisterRow} (h : ¬ Numeral.Writable r.value) :
    registerItems r = .error .writing := by
  rw [registerItems, Numeral.writeDecimal_of_not_writable h]
  rfl

section

variable {T : Toolkit} {t : T.Table} {rows : List RegisterRow}

theorem putRegisters_of_writable (h : ∀ r ∈ rows, Numeral.Writable r.value) :
    putRegisters T t rows = (putAll T t (rows.flatMap writtenItems), .ok ()) := by
  induction rows generalizing t with
  | nil => rfl
  | cons r rows ih =>
    obtain ⟨hr, hrows⟩ := List.forall_mem_cons.1 h
    rw [putRegisters, registerItems_of_writable hr, List.flatMap_cons, putAll, List.foldl_append]
    exact ih hrows

theorem putRegisters_of_not_writable {r : RegisterRow} (hr : r ∈ rows) (h : ¬ Numeral.Writable r.value) :
    (putRegisters T t rows).2 = .error .writing := by
  induction rows generalizing t with
  | nil => simp at hr
  | cons first rows ih =>
    rw [putRegisters]
    by_cases hfirst : Numeral.Writable first.value
    · rw [registerItems_of_writable hfirst]
      refine ih ((List.mem_cons.1 hr).resolve_left ?_)
      rintro rfl
      exact h hfirst
    · rw [registerItems_of_not_writable hfirst]

end

namespace Screen

variable {T : Toolkit} {v : Screen T} {s : Session} {t : T.Table}

theorem registerTable_eq (h : s.initialized = true) :
    s.registerTable = Reg.all.map fun r => ⟨r, s.machine.cpu.get r, s.machine.cpu.isUsed r⟩ :=
  if_pos h

theorem registerTable_of_unready (h : s.initialized = false) : s.registerTable = [] := by
  rw [Session.registerTable, h]
  rfl

theorem drawRegisters_of_ready (t : T.Table) (h : s.initialized = true) :
    drawRegisters T t s = putRegisters T (T.clearContents t) s.registerTable := by
  unfold drawRegisters
  split
  · next hnil => simp [registerTable_eq h, Reg.all] at hnil
  · rfl

theorem drawRegisters_of_unready (t : T.Table) (h : s.initialized = false) :
    drawRegisters T t s = (T.setItem (T.clearContents t) 0 0 ⟨"Not initialized", none, none⟩, .ok ()) := by
  rw [drawRegisters, registerTable_of_unready h]

theorem drawRegisters_eq (t : T.Table) (h : s.initialized = true) (hs : s.Presentable) :
    drawRegisters T t s = (putAll T (T.clearContents t) (s.registerTable.flatMap writtenItems), .ok ()) := by
  rw [drawRegisters_of_ready t h, putRegisters_of_writable]
  intro row hrow
  rw [registerTable_eq h] at hrow
  obtain ⟨r, -, rfl⟩ := List.mem_map.1 hrow
  exact hs h r

/-- What the registers hold decides whether all of the screen is drawn. -/
theorem result_drawRegisters (t : T.Table) (s : Session) :
    (s.Presentable ∧ (drawRegisters T t s).2 = .ok ()) ∨
      (¬ s.Presentable ∧ (drawRegisters T t s).2 = .error .writing) := by
  by_cases hs : s.Presentable
  · refine .inl ⟨hs, ?_⟩
    cases h : s.initialized with
    | true => rw [drawRegisters_eq t h hs]
    | false => rw [drawRegisters_of_unready t h]
  · refine .inr ⟨hs, ?_⟩
    simp only [Session.Presentable, Classical.not_imp, not_forall] at hs
    obtain ⟨h, r, hr⟩ := hs
    rw [drawRegisters_of_ready t h]
    refine putRegisters_of_not_writable (r := ⟨r, s.machine.cpu.get r, s.machine.cpu.isUsed r⟩) ?_ hr
    rw [registerTable_eq h]
    exact List.mem_map.2 ⟨r, List.mem_finRange r, rfl⟩

theorem result_update (v : Screen T) (s : Session) :
    (s.Presentable ∧ (v.update s).2 = .ok ()) ∨
      (¬ s.Presentable ∧ (v.update s).2 = .error (.digits .writing)) := by
  unfold update
  rcases result_drawRegisters v.registers s with ⟨hs, hresult⟩ | ⟨hs, hresult⟩
  · exact .inl ⟨hs, by simp only [hresult]⟩
  · exact .inr ⟨hs, by simp only [hresult]⟩

theorem update_eq (v : Screen T) (hs : s.Presentable) :
    (v.update s).1 = ((updateInputs { v with
      code := drawCode T v.code s
      registers := (drawRegisters T v.registers s).1
      stack := drawStack T v.stack s } s).updateStatus s) := by
  have hresult : (drawRegisters T v.registers s).2 = .ok () := by
    rcases result_drawRegisters v.registers s with ⟨-, hresult⟩ | ⟨hnot, -⟩
    · exact hresult
    · exact absurd hs hnot
  unfold update
  simp only [hresult]

/-! ### Tables -/

/-- The tables have all their columns, and the one of the registers all its rows. -/
structure Shaped (v : Screen T) : Prop where
  registerRows : T.rowCount v.registers = registerRowCount
  registerColumns : T.columnCount v.registers = 4
  stackColumns : T.columnCount v.stack = 2

/-- The screen shows a session and nothing else. -/
structure Shows (v : Screen T) (s : Session) : Prop where
  code : T.items v.code = if s.initialized then s.codeInView.map ListItem.ofLine else [⟨"No code loaded", none, false⟩]
  highlight : ((T.items v.code).filter (·.colour.isSome)).length ≤ 1
  register : s.initialized = true → ∀ r : Reg,
    let colour := if s.machine.cpu.isUsed r then some .usedRegister else none
    T.cell? v.registers (r.val / 2) (2 * (r.val % 2)) = some ⟨r.name, colour, none⟩ ∧
      T.cell? v.registers (r.val / 2) (2 * (r.val % 2) + 1) =
        some ⟨Numeral.shown (s.machine.cpu.get r), colour, some (Numeral.decimal (s.machine.cpu.get r))⟩
  noRegister : s.initialized = true → ∀ row column, (∀ r : Reg, row = r.val / 2 → column / 2 ≠ r.val % 2) →
    T.cell? v.registers row column = none
  registersBlank : s.initialized = false → ∀ row column, T.cell? v.registers row column =
    if (row, column) = (0, 0) then some ⟨"Not initialized", none, none⟩ else none
  stackLength : T.rowCount v.stack = max 1 s.stackRows.length
  stackRow : ∀ (i : Nat) x, s.stackRows[i]? = some x →
    let sp := s.machine.cpu.get .sp
    let colour := if x.address ≤ sp ∧ sp < x.address + 8 then some .stackPointer else none
    T.cell? v.stack i 0 = some ⟨Numeral.shown x.address, colour, none⟩ ∧
      T.cell? v.stack i 1 = some ⟨Numeral.shown x.value, colour, none⟩
  stackBlank : s.stackRows = [] → T.cell? v.stack 0 0 = some ⟨"No memory to display", none, none⟩ ∧
    T.cell? v.stack 0 1 = some ⟨[], none, none⟩
  stackColumns : ∀ row column, 2 ≤ column → T.cell? v.stack row column = none
  inputs : v.inputs = FieldId.all.map s.fields.state
  counter : T.labelText v.pcLabel = if s.initialized then "PC: " ++ Numeral.shown s.pc else "PC: -"

section

variable (hT : T.Lawful)

include hT

theorem items_drawCode (l : T.ItemList) (s : Session) : T.items (drawCode T l s) = codeItems s := by
  have hadd : ∀ (items : List ListItem) (l : T.ItemList), T.items (items.foldl T.addItem l) = T.items l ++ items := by
    intro items
    induction items with
    | nil => exact fun l => (List.append_nil _).symm
    | cons item items ih =>
      intro l
      rw [List.foldl_cons, ih, hT.items_addItem, List.append_assoc, List.singleton_append]
  rw [drawCode, hadd, hT.items_clear, List.nil_append]

end

/-! ### Registers -/

/-- The places of a register, for its name and for its value. -/
def registerPlaces (r : Reg) : List (Nat × Nat) :=
  [(r.val / 2, 2 * (r.val % 2)), (r.val / 2, 2 * (r.val % 2) + 1)]

theorem nodup_registerPlaces : (Reg.all.flatMap registerPlaces).Nodup := by decide +kernel

theorem places_writtenItems (h : s.initialized = true) :
    (s.registerTable.flatMap writtenItems).map (·.1) = Reg.all.flatMap registerPlaces := by
  rw [registerTable_eq h, List.map_flatMap, List.flatMap_map]
  rfl

theorem mem_registerPlaces {r : Reg} {row column : Nat} (h : (row, column) ∈ registerPlaces r) :
    row = r.val / 2 ∧ (column = 2 * (r.val % 2) ∨ column = 2 * (r.val % 2) + 1) := by
  simp only [registerPlaces, List.mem_cons, Prod.mk.injEq, List.not_mem_nil, or_false] at h
  rcases h with ⟨hrow, hcolumn⟩ | ⟨hrow, hcolumn⟩
  · exact ⟨hrow, .inl hcolumn⟩
  · exact ⟨hrow, .inr hcolumn⟩

section

variable (hT : T.Lawful)

include hT

theorem hasPlaces_writtenItems (hv : v.Shaped) (h : s.initialized = true) :
    HasPlaces T (T.clearContents v.registers) (s.registerTable.flatMap writtenItems) := by
  rintro ⟨⟨row, column⟩, c⟩ hitem
  have hplace : (row, column) ∈ Reg.all.flatMap registerPlaces := places_writtenItems h ▸ List.mem_map_of_mem hitem
  obtain ⟨r, -, hr⟩ := List.mem_flatMap.1 hplace
  have hlt : r.val < 33 := r.isLt
  obtain ⟨hrow, hcolumn⟩ := mem_registerPlaces hr
  rw [hT.rowCount_clearContents, hT.columnCount_clearContents, hv.registerRows, hv.registerColumns]
  change row < 17 ∧ column < 4
  omega

theorem cell?_drawRegisters (hv : v.Shaped) (h : s.initialized = true) (hs : s.Presentable) (r : Reg) {row column : Nat}
    {c : Cell} (hitem : ((row, column), c) ∈ writtenItems ⟨r, s.machine.cpu.get r, s.machine.cpu.isUsed r⟩) :
    T.cell? (drawRegisters T v.registers s).1 row column = some c := by
  rw [drawRegisters_eq _ h hs]
  refine hT.cell?_putAll_of_mem (hasPlaces_writtenItems hT hv h) ?_ ?_
  · rw [places_writtenItems h]
    exact nodup_registerPlaces
  · rw [registerTable_eq h, List.flatMap_map]
    exact List.mem_flatMap.2 ⟨r, List.mem_finRange r, hitem⟩

theorem cell?_drawRegisters_of_none (hv : v.Shaped) (h : s.initialized = true) (hs : s.Presentable) {row column : Nat}
    (hnone : ∀ r : Reg, row = r.val / 2 → column / 2 ≠ r.val % 2) :
    T.cell? (drawRegisters T v.registers s).1 row column = none := by
  rw [drawRegisters_eq _ h hs, hT.cell?_putAll_of_notMem (hasPlaces_writtenItems hT hv h), hT.cell?_clearContents]
  rw [places_writtenItems h]
  intro hmem
  obtain ⟨r, -, hplace⟩ := List.mem_flatMap.1 hmem
  obtain ⟨hrow, hcolumn⟩ := mem_registerPlaces hplace
  exact hnone r hrow (by omega)

theorem cell?_drawRegisters_blank (hv : v.Shaped) (h : s.initialized = false) (row column : Nat) :
    T.cell? (drawRegisters T v.registers s).1 row column =
      if (row, column) = (0, 0) then some ⟨"Not initialized", none, none⟩ else none := by
  have hrow : 0 < T.rowCount (T.clearContents v.registers) := by
    rw [hT.rowCount_clearContents, hv.registerRows]
    decide
  have hcolumn : 0 < T.columnCount (T.clearContents v.registers) := by
    rw [hT.columnCount_clearContents, hv.registerColumns]
    decide
  rw [drawRegisters_of_unready _ h, hT.cell?_setItem _ _ _ _ _ _ hrow hcolumn, hT.cell?_clearContents]

theorem shape_drawRegisters (t : T.Table) (hs : s.Presentable) :
    T.rowCount (drawRegisters T t s).1 = T.rowCount t ∧ T.columnCount (drawRegisters T t s).1 = T.columnCount t := by
  cases h : s.initialized with
  | true =>
    rw [drawRegisters_eq _ h hs, hT.rowCount_putAll, hT.columnCount_putAll, hT.rowCount_clearContents,
      hT.columnCount_clearContents]
    exact ⟨rfl, rfl⟩
  | false =>
    rw [drawRegisters_of_unready _ h, hT.rowCount_setItem, hT.columnCount_setItem, hT.rowCount_clearContents,
      hT.columnCount_clearContents]
    exact ⟨rfl, rfl⟩

end

/-! ### Stack -/

/-- The items of the stack, row by row. -/
def allStackItems (s : Session) : List PlacedCell :=
  s.stackRows.zipIdx.flatMap fun x => stackItems (s.machine.cpu.get .sp) x.1 x.2

theorem places_allStackItems (s : Session) :
    (allStackItems s).map (·.1) = (List.range' 0 s.stackRows.length).flatMap fun i => [(i, 0), (i, 1)] := by
  rw [allStackItems, List.map_flatMap, ← List.zipIdx_map_snd, List.flatMap_map]
  rfl

theorem nodup_stackItems (s : Session) : ((allStackItems s).map (·.1)).Nodup := by
  rw [places_allStackItems, List.nodup_flatMap]
  refine ⟨fun i _ => by simp, List.Nodup.pairwise_of_forall_ne List.nodup_range' fun i _ j _ hne => ?_⟩
  simp [Function.onFun, Ne.symm hne]

theorem drawStack_eq (t : T.Table) (h : s.stackRows ≠ []) :
    drawStack T t s = putAll T (T.setRowCount t s.stackRows.length) (allStackItems s) := by
  unfold drawStack
  split
  · next hnil => exact absurd hnil h
  · rfl

theorem drawStack_blank (t : T.Table) (h : s.stackRows = []) :
    drawStack T t s = putAll T (T.setRowCount t 1)
      [((0, 0), ⟨"No memory to display", none, none⟩), ((0, 1), ⟨[], none, none⟩)] := by
  rw [drawStack, h]

section

variable (hT : T.Lawful)

include hT

theorem hasPlaces_stackItems (ht : T.columnCount t = 2) (s : Session) :
    HasPlaces T (T.setRowCount t s.stackRows.length) (allStackItems s) := by
  intro item hitem
  have hplace : item.1 ∈ (allStackItems s).map (·.1) := List.mem_map_of_mem hitem
  rw [places_allStackItems] at hplace
  obtain ⟨i, hi, hmem⟩ := List.mem_flatMap.1 hplace
  obtain ⟨-, hlt⟩ := List.mem_range'_1.1 hi
  rw [hT.rowCount_setRowCount, hT.columnCount_setRowCount, ht]
  rcases List.mem_pair.1 hmem with heq | heq
  · rw [heq]
    exact ⟨by omega, Nat.zero_lt_two⟩
  · rw [heq]
    exact ⟨by omega, Nat.one_lt_two⟩

theorem cell?_drawStack (ht : T.columnCount t = 2) {i : Nat} {x : StackRow} (hx : s.stackRows[i]? = some x) {column : Nat}
    {c : Cell} (hitem : ((i, column), c) ∈ stackItems (s.machine.cpu.get .sp) x i) :
    T.cell? (drawStack T t s) i column = some c := by
  have ne : s.stackRows ≠ [] := by
    rintro hnil
    simp [hnil] at hx
  rw [drawStack_eq t ne]
  exact hT.cell?_putAll_of_mem (hasPlaces_stackItems hT ht s) (nodup_stackItems s)
    (List.mem_flatMap.2 ⟨(x, i), List.mem_zipIdx_iff_getElem?.2 hx, hitem⟩)

/-- The table has a row for each word, or one for the note that there is none. -/
theorem shape_drawStack (t : T.Table) (s : Session) :
    T.rowCount (drawStack T t s) = max 1 s.stackRows.length ∧ T.columnCount (drawStack T t s) = T.columnCount t := by
  by_cases h : s.stackRows = []
  · rw [drawStack_blank t h, hT.rowCount_putAll, hT.columnCount_putAll, hT.rowCount_setRowCount,
      hT.columnCount_setRowCount, h]
    exact ⟨rfl, rfl⟩
  · have hlength : max 1 s.stackRows.length = s.stackRows.length := by
      have := List.length_pos_iff.2 h
      omega
    rw [drawStack_eq t h, hT.rowCount_putAll, hT.columnCount_putAll, hT.rowCount_setRowCount, hT.columnCount_setRowCount,
      hlength]
    exact ⟨rfl, rfl⟩

theorem cell?_drawStack_blank (ht : T.columnCount t = 2) (h : s.stackRows = []) :
    T.cell? (drawStack T t s) 0 0 = some ⟨"No memory to display", none, none⟩ ∧
      T.cell? (drawStack T t s) 0 1 = some ⟨[], none, none⟩ := by
  have hplaces : HasPlaces T (T.setRowCount t 1)
      [((0, 0), ⟨"No memory to display", none, none⟩), ((0, 1), ⟨[], none, none⟩)] := by
    simp [HasPlaces, hT.rowCount_setRowCount, hT.columnCount_setRowCount, ht]
  have hnodup : ([((0, 0), (⟨"No memory to display", none, none⟩ : Cell)), ((0, 1), ⟨[], none, none⟩)].map
      (·.1)).Nodup := by decide
  rw [drawStack_blank t h]
  exact ⟨hT.cell?_putAll_of_mem hplaces hnodup (by simp), hT.cell?_putAll_of_mem hplaces hnodup (by simp)⟩

end

/-! ### All of it -/

theorem highlight_codeItems (s : Session) : ((codeItems s).filter (·.colour.isSome)).length ≤ 1 := by
  unfold codeItems
  split
  · have hcurrent : ∀ l : CodeLine, (ListItem.ofLine l).colour.isSome = l.current := by
      intro l
      unfold ListItem.ofLine
      cases l.current <;> rfl
    rw [List.filter_map, List.length_map]
    refine le_of_eq_of_le (congrArg List.length (List.filter_congr fun l _ => ?_))
      (s.length_filter_current_le_one s.codeWindow.nodup_indices)
    exact hcurrent l
  · exact Nat.zero_le 1

section

variable (hT : T.Lawful)

include hT

theorem shaped_blank : (blank T).Shaped where
  registerRows := hT.rowCount_table _ _
  registerColumns := hT.columnCount_table _ _
  stackColumns := hT.columnCount_table _ _

theorem Shaped.update (hv : v.Shaped) (hs : s.Presentable) : (v.update s).1.Shaped := by
  obtain ⟨hrows, hcolumns⟩ := shape_drawRegisters hT v.registers hs
  rw [update_eq v hs]
  exact ⟨hrows.trans hv.registerRows, hcolumns.trans hv.registerColumns,
    (shape_drawStack hT v.stack s).2.trans hv.stackColumns⟩

/-- After everything is drawn the screen shows the session, whatever it showed before. -/
theorem shows_update (hv : v.Shaped) (hs : s.Presentable) : (v.update s).1.Shows s := by
  obtain ⟨hrows, hcolumns⟩ := shape_drawStack hT v.stack s
  rw [update_eq v hs]
  exact {
    code := items_drawCode hT v.code s
    highlight := (items_drawCode hT v.code s).symm ▸ highlight_codeItems s
    register := fun h r => ⟨cell?_drawRegisters hT hv h hs r List.mem_cons_self,
      cell?_drawRegisters hT hv h hs r (List.mem_cons_of_mem _ List.mem_cons_self)⟩
    noRegister := fun h row column hnone => cell?_drawRegisters_of_none hT hv h hs hnone
    registersBlank := fun h row column => cell?_drawRegisters_blank hT hv h row column
    stackLength := hrows
    stackRow := fun i x hx => ⟨cell?_drawStack hT hv.stackColumns hx List.mem_cons_self,
      cell?_drawStack hT hv.stackColumns hx (List.mem_cons_of_mem _ List.mem_cons_self)⟩
    stackBlank := fun h => cell?_drawStack_blank hT hv.stackColumns h
    stackColumns := fun row column hcolumn =>
      hT.cell?_outside _ _ _ (.inr ((hcolumns.trans hv.stackColumns).symm ▸ hcolumn))
    inputs := rfl
    counter := hT.labelText_setLabel _ _ }

end

/-- Only the input fields have to be drawn again where nothing else has changed. -/
theorem Shows.updateInputs (hv : v.Shows s) (fields : Fields) :
    (v.updateInputs { s with fields := fields }).Shows { s with fields := fields } where
  code := hv.code
  highlight := hv.highlight
  register := hv.register
  noRegister := hv.noRegister
  registersBlank := hv.registersBlank
  stackLength := hv.stackLength
  stackRow := hv.stackRow
  stackBlank := hv.stackBlank
  stackColumns := hv.stackColumns
  inputs := rfl
  counter := hv.counter

end Screen

end Desktop

end Stepper
