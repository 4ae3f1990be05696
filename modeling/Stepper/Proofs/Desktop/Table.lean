import Mathlib.Data.List.Basic
import Stepper.Desktop.Plain
import Stepper.Desktop.Screen

/-! Tables of a toolkit that does what its documentation says. Putting items keeps the rows and the columns, an item is
where it was put, and the other cells are as they were. The toolkit without a screen is one of these. -/

namespace Stepper.Desktop

theorem Toolkit.lawful_plain : plain.Lawful where
  items_clear _ := rfl
  items_addItem _ _ := rfl
  rowCount_table _ _ := rfl
  columnCount_table _ _ := rfl
  cell?_outside s row column h := by
    refine if_neg fun hin => ?_
    rcases h with hrow | hcolumn
    · exact absurd hin.1 (Nat.not_lt.2 hrow)
    · exact absurd hin.2 (Nat.not_lt.2 hcolumn)
  rowCount_clearContents _ := rfl
  columnCount_clearContents _ := rfl
  cell?_clearContents _ _ _ := ite_self _
  rowCount_setRowCount _ _ := rfl
  columnCount_setRowCount _ _ := rfl
  rowCount_setItem _ _ _ _ := rfl
  columnCount_setItem _ _ _ _ := rfl
  cell?_setItem s row column c row' column' hrow hcolumn := by
    simp only [plain, Sheet.cell?, Sheet.setItem]
    by_cases hplace : (row', column') = (row, column)
    · obtain ⟨rfl, rfl⟩ := Prod.mk.inj hplace
      rw [if_pos ⟨hrow, hcolumn⟩, if_pos rfl, if_pos rfl]
    · simp only [if_neg hplace]
  labelText_setLabel _ _ := rfl
  entryText_entry _ _ := rfl

/-- The table has a place for each of the items. -/
def HasPlaces (T : Toolkit) (t : T.Table) (items : List PlacedCell) : Prop :=
  ∀ item ∈ items, item.1.1 < T.rowCount t ∧ item.1.2 < T.columnCount t

namespace Toolkit.Lawful

variable {T : Toolkit} (hT : T.Lawful) {t : T.Table} {row column : Nat} {c : Cell} {items : List PlacedCell}

include hT

theorem rowCount_putAll (t : T.Table) (items : List PlacedCell) : T.rowCount (putAll T t items) = T.rowCount t := by
  induction items generalizing t with
  | nil => rfl
  | cons item items ih => exact (ih _).trans (hT.rowCount_setItem t _ _ _)

theorem columnCount_putAll (t : T.Table) (items : List PlacedCell) :
    T.columnCount (putAll T t items) = T.columnCount t := by
  induction items generalizing t with
  | nil => rfl
  | cons item items ih => exact (ih _).trans (hT.columnCount_setItem t _ _ _)

theorem hasPlaces_setItem {item : PlacedCell} (h : HasPlaces T t items) :
    HasPlaces T (T.setItem t item.1.1 item.1.2 item.2) items := fun i hi => by
  rw [hT.rowCount_setItem, hT.columnCount_setItem]
  exact h i hi

theorem cell?_putAll_of_notMem (hplaces : HasPlaces T t items) (h : (row, column) ∉ items.map (·.1)) :
    T.cell? (putAll T t items) row column = T.cell? t row column := by
  induction items generalizing t with
  | nil => rfl
  | cons item items ih =>
    rw [List.map_cons, List.mem_cons, not_or] at h
    obtain ⟨hitem, hrest⟩ := List.forall_mem_cons.1 hplaces
    refine (ih (hT.hasPlaces_setItem hrest) h.2).trans ?_
    rw [hT.cell?_setItem t _ _ _ _ _ hitem.1 hitem.2, if_neg h.1]

/-- Where no place is taken twice, every item is at its place. -/
theorem cell?_putAll_of_mem (hplaces : HasPlaces T t items) (hnodup : (items.map (·.1)).Nodup)
    (hmem : ((row, column), c) ∈ items) : T.cell? (putAll T t items) row column = some c := by
  induction items generalizing t with
  | nil => simp at hmem
  | cons item items ih =>
    obtain ⟨hnew, hnodups⟩ := List.nodup_cons.1 (List.map_cons ▸ hnodup)
    obtain ⟨hitem, hrest⟩ := List.forall_mem_cons.1 hplaces
    rcases List.mem_cons.1 hmem with rfl | hlater
    · refine (hT.cell?_putAll_of_notMem (hT.hasPlaces_setItem hrest) hnew).trans ?_
      rw [hT.cell?_setItem t _ _ _ _ _ hitem.1 hitem.2, if_pos rfl]
    · exact ih (hT.hasPlaces_setItem hrest) hnodups hlater

end Toolkit.Lawful

end Stepper.Desktop
