import Mathlib.Data.List.Basic
import Stepper.Input.Editor

/-! The editor keeps its cursor in the line and the line in its capacity. What is typed goes in at the cursor, as much of
it as there is room for. -/

namespace Stepper.Editor

variable {e : Editor}

/-- How many more characters the line can take. -/
def room (e : Editor) : Nat :=
  e.maxLength - e.length

/-- The editor with a text at the cursor, which is put behind it. -/
def splice (e : Editor) (t : Text) : Editor :=
  { e with text := e.text.take e.cursor ++ t ++ e.text.drop e.cursor, cursor := e.cursor + t.length }

structure Sound (e : Editor) : Prop where
  cursor : e.cursor ≤ e.length
  length : e.length ≤ e.maxLength

theorem sound_ofCapacity (capacity : Nat) : (ofCapacity capacity).Sound :=
  ⟨Nat.zero_le _, Nat.zero_le _⟩

/-! ### Typing -/

theorem insertIdx_eq_splice {α : Type} {l : List α} {i : Nat} (a : α) (h : i ≤ l.length) :
    l.insertIdx i a = l.take i ++ [a] ++ l.drop i := by
  induction i generalizing l with
  | zero => simp
  | succ i ih =>
    cases l with
    | nil => simp at h
    | cons b l => simpa using ih (Nat.le_of_succ_le_succ h)

theorem length_splice (h : e.cursor ≤ e.length) (t : Text) : (e.splice t).length = e.length + t.length := by
  have : e.text.length = e.length := rfl
  simp only [splice, length, List.length_append, List.length_take, List.length_drop]
  omega

theorem splice_nil (e : Editor) : e.splice [] = e := by
  simp [splice]

/-- A text after another one is put behind it. -/
theorem splice_splice (h : e.cursor ≤ e.length) (s t : Text) : (e.splice s).splice t = e.splice (s ++ t) := by
  have htake : (e.text.take e.cursor).length = e.cursor := List.length_take_of_le h
  have hfront : (e.text.take e.cursor ++ s).length = e.cursor + s.length := by rw [List.length_append, htake]
  simp only [splice, Editor.mk.injEq, true_and]
  rw [List.take_left' hfront, List.drop_left' hfront, List.length_append]
  exact ⟨by simp, by omega⟩

theorem insert_eq (h : e.cursor ≤ e.length) (c : Char) :
    e.insert c = if 0 < e.room then (true, e.splice [c]) else (false, e) := by
  unfold insert
  by_cases hfull : e.length ≥ e.maxLength
  · rw [if_pos hfull, if_neg (by unfold room; omega)]
  · rw [if_neg hfull, if_pos (by unfold room; omega), insertIdx_eq_splice c h]
    rfl

theorem room_splice (h : e.cursor ≤ e.length) (t : Text) : (e.splice t).room = e.room - t.length := by
  have hmax : (e.splice t).maxLength = e.maxLength := rfl
  have hlength := length_splice h t
  unfold room
  omega

theorem cursor_splice_le (h : e.cursor ≤ e.length) (t : Text) : (e.splice t).cursor ≤ (e.splice t).length := by
  have hcursor : (e.splice t).cursor = e.cursor + t.length := rfl
  have hlength := length_splice h t
  omega

theorem insertText_eq (h : e.cursor ≤ e.length) (t : Text) :
    e.insertText t = ((t.take e.room).length, e.splice (t.take e.room)) := by
  induction t generalizing e with
  | nil => rw [List.take_nil, splice_nil]; rfl
  | cons c t ih =>
    rw [insertText, insert_eq h]
    by_cases hroom : 0 < e.room
    · obtain ⟨n, hn⟩ := Nat.exists_eq_succ_of_ne_zero (Nat.ne_of_gt hroom)
      have hrest : (e.splice [c]).room = n := by
        rw [room_splice h, hn]
        rfl
      rw [if_pos hroom]
      simp only [ih (cursor_splice_le h [c]), hrest, splice_splice h, hn, List.take_succ_cons]
      rfl
    · rw [if_neg hroom, Nat.eq_zero_of_not_pos hroom, List.take_zero, splice_nil]
      rfl

/-! ### What is kept -/

theorem Sound.splice (he : e.Sound) {t : Text} (ht : t.length ≤ e.room) : (e.splice t).Sound where
  cursor := cursor_splice_le he.cursor t
  length := by
    have hmax : (e.splice t).maxLength = e.maxLength := rfl
    have hlength := length_splice he.cursor t
    have := he.length
    unfold room at ht
    omega

theorem Sound.insertText (he : e.Sound) (t : Text) : (e.insertText t).2.Sound := by
  rw [insertText_eq he.cursor]
  exact he.splice (List.length_take_le _ _)

theorem sound_clear (e : Editor) : e.clear.Sound :=
  ⟨Nat.zero_le _, Nat.zero_le _⟩

theorem sound_setText (e : Editor) (t : Text) : (e.setText t).Sound :=
  ⟨Nat.le_refl _, List.length_take_le _ _⟩

/-- A line may lose a character if the cursor is not behind what is left. -/
theorem Sound.erase (he : e.Sound) {i cursor : Nat} (hi : i < e.length) (hcursor : cursor < e.length) :
    { e with text := e.text.eraseIdx i, cursor := cursor }.Sound := by
  have herase : (e.text.eraseIdx i).length = e.length - 1 := List.length_eraseIdx_of_lt hi
  refine ⟨?_, ?_⟩
  · change cursor ≤ (e.text.eraseIdx i).length
    omega
  · change (e.text.eraseIdx i).length ≤ e.maxLength
    have := he.length
    omega

theorem Sound.deleteBefore (he : e.Sound) : e.deleteBefore.2.Sound := by
  unfold Editor.deleteBefore
  split
  · exact he
  · have := he.cursor
    exact he.erase (by omega) (by omega)

theorem Sound.deleteAt (he : e.Sound) : e.deleteAt.2.Sound := by
  unfold Editor.deleteAt
  split
  · exact he
  · next hend => exact he.erase (Nat.lt_of_not_le hend) (Nat.lt_of_not_le hend)

theorem Sound.moveTo (he : e.Sound) {cursor : Nat} (h : cursor ≤ e.length) : { e with cursor := cursor }.Sound :=
  ⟨h, he.length⟩

theorem Sound.press (he : e.Sound) (key : EditKey) : (e.press key).2.Sound := by
  cases key with
  | backspace => exact he.deleteBefore
  | delete => exact he.deleteAt
  | left => exact he.moveTo (Nat.le_trans (Nat.sub_le _ _) he.cursor)
  | right =>
    change e.moveRight.Sound
    unfold moveRight
    split
    · next h => exact he.moveTo h
    · exact he
  | home => exact he.moveTo (Nat.zero_le _)
  | lineEnd => exact he.moveTo (Nat.le_refl _)
  | tab => exact he
  | enter => exact he

theorem capacity_press (e : Editor) (key : EditKey) : (e.press key).2.capacity = e.capacity := by
  have hbefore : e.deleteBefore.2.capacity = e.capacity := by
    unfold deleteBefore
    split <;> rfl
  have hat : e.deleteAt.2.capacity = e.capacity := by
    unfold deleteAt
    split <;> rfl
  have hright : e.moveRight.capacity = e.capacity := by
    unfold moveRight
    split <;> rfl
  cases key with
  | backspace => exact hbefore
  | delete => exact hat
  | right => exact hright
  | _ => rfl

/-- An editing key changes the text and the cursor at most. -/
theorem press_eq (e : Editor) (key : EditKey) :
    (e.press key).2 = { e with text := (e.press key).2.text, cursor := (e.press key).2.cursor } := by
  rw [← e.capacity_press key]

end Stepper.Editor
