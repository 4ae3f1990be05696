import Stepper.Proofs.Input.Editor

/-! The editor as a line that is parted at its cursor. A buffer has what stands before the cursor and what stands behind
it, and every edit works at the border of the two. The editor does to the joined text what the buffer does to its two
parts, edit by edit, and answers the same; so runs of edits end in the same text with the same cursor. -/

namespace Stepper

/-- What an editor can be told. -/
inductive Edit where
  | insert (c : Char)
  | insertText (t : Text)
  | setText (t : Text)
  | deleteBefore
  | deleteAt
  | moveLeft
  | moveRight
  | moveHome
  | moveEnd
  | clear
  | press (key : EditKey)
  deriving DecidableEq, Repr

/-- What an editor answers: that something was done or not, or how many characters went in. -/
inductive Edit.Answer where
  | nothing
  | done (b : Bool)
  | count (n : Nat)
  deriving DecidableEq, Repr

namespace Editor

def edit (e : Editor) : Edit → Edit.Answer × Editor
  | .insert c => (e.insert c).map .done id
  | .insertText t => (e.insertText t).map .count id
  | .setText t => (.nothing, e.setText t)
  | .deleteBefore => e.deleteBefore.map .done id
  | .deleteAt => e.deleteAt.map .done id
  | .moveLeft => (.nothing, e.moveLeft)
  | .moveRight => (.nothing, e.moveRight)
  | .moveHome => (.nothing, e.moveHome)
  | .moveEnd => (.nothing, e.moveEnd)
  | .clear => (.nothing, e.clear)
  | .press key => (e.press key).map .done id

def edits (e : Editor) (es : List Edit) : Editor :=
  es.foldl (fun e edit => (e.edit edit).2) e

end Editor

/-- A line that is parted at its cursor. -/
structure Buffer where
  before : Text
  behind : Text
  deriving DecidableEq, Repr

namespace Buffer

def empty : Buffer := ⟨[], []⟩

def length (b : Buffer) : Nat :=
  b.before.length + b.behind.length

/-- The line may be `limit` characters long. -/
def insert (limit : Nat) (b : Buffer) (c : Char) : Bool × Buffer :=
  if b.length < limit then (true, ⟨b.before ++ [c], b.behind⟩) else (false, b)

/-- The front of a text goes in, as much of it as there is room for. -/
def insertText (limit : Nat) (b : Buffer) (t : Text) : Nat × Buffer :=
  (min t.length (limit - b.length), ⟨b.before ++ t.take (limit - b.length), b.behind⟩)

def setText (limit : Nat) (t : Text) : Buffer :=
  ⟨t.take limit, []⟩

def deleteBefore (b : Buffer) : Bool × Buffer :=
  match b.before.getLast? with
  | none => (false, b)
  | some _ => (true, ⟨b.before.dropLast, b.behind⟩)

def deleteAt (b : Buffer) : Bool × Buffer :=
  match b.behind with
  | [] => (false, b)
  | _ :: rest => (true, ⟨b.before, rest⟩)

def moveLeft (b : Buffer) : Buffer :=
  match b.before.getLast? with
  | none => b
  | some c => ⟨b.before.dropLast, c :: b.behind⟩

def moveRight (b : Buffer) : Buffer :=
  match b.behind with
  | [] => b
  | c :: rest => ⟨b.before ++ [c], rest⟩

def moveHome (b : Buffer) : Buffer :=
  ⟨[], b.before ++ b.behind⟩

def moveEnd (b : Buffer) : Buffer :=
  ⟨b.before ++ b.behind, []⟩

def press (b : Buffer) : EditKey → Bool × Buffer
  | .backspace => (true, b.deleteBefore.2)
  | .delete => (true, b.deleteAt.2)
  | .left => (true, b.moveLeft)
  | .right => (true, b.moveRight)
  | .home => (true, b.moveHome)
  | .lineEnd => (true, b.moveEnd)
  | .tab => (false, b)
  | .enter => (false, b)

def edit (limit : Nat) (b : Buffer) : Edit → Edit.Answer × Buffer
  | .insert c => (b.insert limit c).map .done id
  | .insertText t => (b.insertText limit t).map .count id
  | .setText t => (.nothing, setText limit t)
  | .deleteBefore => b.deleteBefore.map .done id
  | .deleteAt => b.deleteAt.map .done id
  | .moveLeft => (.nothing, b.moveLeft)
  | .moveRight => (.nothing, b.moveRight)
  | .moveHome => (.nothing, b.moveHome)
  | .moveEnd => (.nothing, b.moveEnd)
  | .clear => (.nothing, empty)
  | .press key => (b.press key).map .done id

def edits (limit : Nat) (b : Buffer) (es : List Edit) : Buffer :=
  es.foldl (fun b edit => (b.edit limit edit).2) b

variable {limit capacity : Nat} {b : Buffer}

/-- Nothing stands before the cursor, or a character does. -/
theorem before_cases (b : Buffer) : (∃ t, b = ⟨[], t⟩) ∨ ∃ s c t, b = ⟨s ++ [c], t⟩ := by
  obtain ⟨before, behind⟩ := b
  rcases List.eq_nil_or_concat before with rfl | ⟨s, c, rfl⟩
  · exact .inl ⟨behind, rfl⟩
  · exact .inr ⟨s, c, behind, by rw [List.concat_eq_append]⟩

/-- Nothing stands behind the cursor, or a character does. -/
theorem behind_cases (b : Buffer) : (∃ s, b = ⟨s, []⟩) ∨ ∃ s c t, b = ⟨s, c :: t⟩ := by
  obtain ⟨before, behind⟩ := b
  cases behind with
  | nil => exact .inl ⟨before, rfl⟩
  | cons c t => exact .inr ⟨before, c, t, rfl⟩

theorem deleteBefore_concat (s : Text) (c : Char) (t : Text) : deleteBefore ⟨s ++ [c], t⟩ = (true, ⟨s, t⟩) := by
  simp [deleteBefore]

theorem moveLeft_concat (s : Text) (c : Char) (t : Text) : moveLeft ⟨s ++ [c], t⟩ = ⟨s, c :: t⟩ := by
  simp [moveLeft]

/-! ### The joined line -/

/-- The editor that has the two parts as one line. -/
def joined (capacity : Nat) (b : Buffer) : Editor :=
  ⟨capacity, b.before ++ b.behind, b.before.length⟩

theorem length_joined (b : Buffer) : (b.joined capacity).length = b.length :=
  List.length_append

theorem cursor_joined_le (b : Buffer) : (b.joined capacity).cursor ≤ (b.joined capacity).length := by
  rw [length_joined]
  exact Nat.le_add_right _ _

theorem room_joined (b : Buffer) : (b.joined capacity).room = capacity - 1 - b.length := by
  rw [Editor.room, length_joined]
  rfl

theorem splice_joined (b : Buffer) (t : Text) : (b.joined capacity).splice t = joined capacity ⟨b.before ++ t, b.behind⟩ := by
  simp [Editor.splice, joined]

theorem insert_joined (b : Buffer) (c : Char) :
    (b.joined capacity).insert c = (b.insert (capacity - 1) c).map id (joined capacity) := by
  rw [Editor.insert_eq b.cursor_joined_le, room_joined, splice_joined, insert]
  by_cases hroom : b.length < capacity - 1
  · rw [if_pos hroom, if_pos (by omega)]
    rfl
  · rw [if_neg hroom, if_neg (by omega)]
    rfl

theorem insertText_joined (b : Buffer) (t : Text) :
    (b.joined capacity).insertText t = (b.insertText (capacity - 1) t).map id (joined capacity) := by
  rw [Editor.insertText_eq b.cursor_joined_le, room_joined, splice_joined, List.length_take, Nat.min_comm]
  rfl

theorem eraseIdx_border (s : Text) (c : Char) (t : Text) : (s ++ c :: t).eraseIdx s.length = s ++ t := by
  rw [List.eraseIdx_append_of_length_le (Nat.le_refl _), Nat.sub_self]
  rfl

theorem deleteBefore_joined (b : Buffer) :
    (b.joined capacity).deleteBefore = b.deleteBefore.map id (joined capacity) := by
  obtain ⟨t, rfl⟩ | ⟨s, c, t, rfl⟩ := b.before_cases
  · rfl
  · rw [deleteBefore_concat]
    simp [Editor.deleteBefore, joined, eraseIdx_border]

theorem deleteAt_joined (b : Buffer) : (b.joined capacity).deleteAt = b.deleteAt.map id (joined capacity) := by
  obtain ⟨s, rfl⟩ | ⟨s, c, t, rfl⟩ := b.behind_cases
  · simp [Editor.deleteAt, deleteAt, joined, Editor.length]
  · simp [Editor.deleteAt, deleteAt, joined, Editor.length, eraseIdx_border]

theorem moveLeft_joined (b : Buffer) : (b.joined capacity).moveLeft = b.moveLeft.joined capacity := by
  obtain ⟨t, rfl⟩ | ⟨s, c, t, rfl⟩ := b.before_cases
  · rfl
  · rw [moveLeft_concat]
    simp [Editor.moveLeft, joined]

theorem moveRight_joined (b : Buffer) : (b.joined capacity).moveRight = b.moveRight.joined capacity := by
  obtain ⟨s, rfl⟩ | ⟨s, c, t, rfl⟩ := b.behind_cases
  · simp [Editor.moveRight, moveRight, joined, Editor.length]
  · simp [Editor.moveRight, moveRight, joined, Editor.length]

theorem moveEnd_joined (b : Buffer) : (b.joined capacity).moveEnd = b.moveEnd.joined capacity := by
  simp [Editor.moveEnd, moveEnd, joined, Editor.length]

theorem setText_joined (b : Buffer) (t : Text) :
    (b.joined capacity).setText t = (setText (capacity - 1) t).joined capacity := by
  simp [Editor.setText, setText, joined, Editor.maxLength]

theorem press_joined (b : Buffer) (key : EditKey) :
    (b.joined capacity).press key = (b.press key).map id (joined capacity) := by
  cases key with
  | backspace => rw [Editor.press, deleteBefore_joined]; rfl
  | delete => rw [Editor.press, deleteAt_joined]; rfl
  | left => rw [Editor.press, moveLeft_joined]; rfl
  | right => rw [Editor.press, moveRight_joined]; rfl
  | home => rfl
  | lineEnd => rw [Editor.press, moveEnd_joined]; rfl
  | tab => rfl
  | enter => rfl

/-- An edit of the joined line is the edit of its parts, with the same answer. -/
theorem edit_joined (b : Buffer) (a : Edit) :
    (b.joined capacity).edit a = (b.edit (capacity - 1) a).map id (joined capacity) := by
  cases a with
  | insert c => rw [Editor.edit, insert_joined]; rfl
  | insertText t => rw [Editor.edit, insertText_joined]; rfl
  | setText t => rw [Editor.edit, setText_joined]; rfl
  | deleteBefore => rw [Editor.edit, deleteBefore_joined]; rfl
  | deleteAt => rw [Editor.edit, deleteAt_joined]; rfl
  | moveLeft => rw [Editor.edit, moveLeft_joined]; rfl
  | moveRight => rw [Editor.edit, moveRight_joined]; rfl
  | moveHome => rfl
  | moveEnd => rw [Editor.edit, moveEnd_joined]; rfl
  | clear => rfl
  | press key => rw [Editor.edit, press_joined]; rfl

theorem edits_joined (b : Buffer) (es : List Edit) :
    (b.joined capacity).edits es = (b.edits (capacity - 1) es).joined capacity := by
  induction es generalizing b with
  | nil => rfl
  | cons a es ih =>
    calc (b.joined capacity).edits (a :: es)
      _ = ((b.joined capacity).edit a).2.edits es := rfl
      _ = ((b.edit (capacity - 1) a).2.joined capacity).edits es := by rw [edit_joined]; rfl
      _ = (b.edits (capacity - 1) (a :: es)).joined capacity := ih _

/-! ### Lengths -/

theorem length_insert (limit : Nat) (b : Buffer) (c : Char) :
    (b.insert limit c).2.length = b.length + (b.insert limit c).1.toNat := by
  unfold insert
  split
  · simp [length]
    omega
  · rfl

theorem length_deleteBefore (b : Buffer) : b.deleteBefore.2.length + b.deleteBefore.1.toNat = b.length := by
  obtain ⟨t, rfl⟩ | ⟨s, c, t, rfl⟩ := b.before_cases
  · rfl
  · rw [deleteBefore_concat]
    simp [length]
    omega

theorem length_deleteAt (b : Buffer) : b.deleteAt.2.length + b.deleteAt.1.toNat = b.length := by
  obtain ⟨s, rfl⟩ | ⟨s, c, t, rfl⟩ := b.behind_cases
  · rfl
  · simp [deleteAt, length]
    omega

theorem length_moveLeft (b : Buffer) : b.moveLeft.length = b.length := by
  obtain ⟨t, rfl⟩ | ⟨s, c, t, rfl⟩ := b.before_cases
  · rfl
  · rw [moveLeft_concat]
    simp [length]
    omega

theorem length_moveRight (b : Buffer) : b.moveRight.length = b.length := by
  obtain ⟨s, rfl⟩ | ⟨s, c, t, rfl⟩ := b.behind_cases
  · rfl
  · simp [moveRight, length]
    omega

theorem length_press_le (b : Buffer) (key : EditKey) : (b.press key).2.length ≤ b.length := by
  cases key with
  | backspace => exact Nat.le_of_add_right_le (Nat.le_of_eq b.length_deleteBefore)
  | delete => exact Nat.le_of_add_right_le (Nat.le_of_eq b.length_deleteAt)
  | left => exact Nat.le_of_eq b.length_moveLeft
  | right => exact Nat.le_of_eq b.length_moveRight
  | home => simp [press, moveHome, length]
  | lineEnd => simp [press, moveEnd, length]
  | tab => exact Nat.le_refl _
  | enter => exact Nat.le_refl _

/-- No edit makes the line longer than its limit. -/
theorem length_edit_le (h : b.length ≤ limit) (a : Edit) : (b.edit limit a).2.length ≤ limit := by
  cases a with
  | insert c =>
    change (b.insert limit c).2.length ≤ limit
    unfold insert
    split
    · next hroom =>
      simp only [length, List.length_append, List.length_singleton] at hroom ⊢
      omega
    · exact h
  | insertText t =>
    change (b.before ++ t.take (limit - b.length)).length + b.behind.length ≤ limit
    have htyped : (t.take (limit - b.length)).length ≤ limit - b.length := List.length_take_le _ _
    have hparts : b.length = b.before.length + b.behind.length := rfl
    rw [List.length_append]
    omega
  | setText t => exact List.length_take_le _ _
  | deleteBefore => exact Nat.le_trans (b.length_press_le .backspace) h
  | deleteAt => exact Nat.le_trans (b.length_press_le .delete) h
  | moveLeft => exact Nat.le_trans (b.length_press_le .left) h
  | moveRight => exact Nat.le_trans (b.length_press_le .right) h
  | moveHome => exact Nat.le_trans (b.length_press_le .home) h
  | moveEnd => exact Nat.le_trans (b.length_press_le .lineEnd) h
  | clear => exact Nat.zero_le _
  | press key => exact Nat.le_trans (b.length_press_le key) h

theorem length_edits_le (h : b.length ≤ limit) (es : List Edit) : (b.edits limit es).length ≤ limit := by
  induction es generalizing b with
  | nil => exact h
  | cons a es ih => exact ih (length_edit_le h a)

/-- A character that went in is the one that is taken out. -/
theorem deleteBefore_insert {c : Char} (h : (b.insert limit c).1 = true) : (b.insert limit c).2.deleteBefore.2 = b := by
  unfold insert at h ⊢
  split at h
  · next hroom => rw [if_pos hroom, deleteBefore_concat]
  · simp at h

end Buffer

open Buffer

theorem Editor.create_eq {capacity : Int} (h : 1 ≤ capacity) :
    Editor.create capacity = .ok (Buffer.empty.joined capacity.toNat) := by
  have hroom : ¬ capacity < 1 := by omega
  rw [Editor.create, if_neg hroom]
  rfl

/-- A new editor of some capacity that is given any edits has the text and the cursor of the buffer that is given the
same edits, and the answer to the next edit is the same; the two parts leave a slot of the capacity free. A text goes in
at the cursor as far as there is room for it, which is counted. A character that is typed or deleted is reported just
when the text gets longer or shorter, and one that was typed can be taken back. -/
theorem editor_is_parted_line {capacity : Int} (h : 1 ≤ capacity) :
    ∃ new, Editor.create capacity = .ok new ∧ ∀ es : List Edit,
      let e := new.edits es
      let b := Buffer.empty.edits (capacity - 1).toNat es
      (e.text = b.before ++ b.behind ∧ e.cursor = b.before.length) ∧
      ((b.before.length + b.behind.length : Nat) : Int) ≤ capacity - 1 ∧
      (∀ a, (e.edit a).1 = (b.edit (capacity - 1).toNat a).1) ∧
      (∀ t, ((e.insertText t).1 : Int) = min (t.length : Int) (capacity - 1 - e.length) ∧
        (e.insertText t).2.text = b.before ++ t.take (e.insertText t).1 ++ b.behind ∧
        (e.insertText t).2.cursor = e.cursor + (e.insertText t).1) ∧
      (∀ c, (e.insert c).1 = true ↔ (e.insert c).2.length ≠ e.length) ∧
      (e.deleteBefore.1 = true ↔ e.deleteBefore.2.length ≠ e.length) ∧
      (e.deleteAt.1 = true ↔ e.deleteAt.2.length ≠ e.length) ∧
      ∀ c, (e.insert c).1 = true → (e.insert c).2.deleteBefore.2 = e := by
  refine ⟨_, Editor.create_eq h, fun es => ?_⟩
  intro e b
  have hlimit : (capacity - 1).toNat = capacity.toNat - 1 := by omega
  have he : e = b.joined capacity.toNat := by
    rw [show b = Buffer.empty.edits (capacity.toNat - 1) es by rw [← hlimit]]
    exact edits_joined Buffer.empty es
  have hfits : b.length ≤ (capacity - 1).toNat := length_edits_le (Nat.zero_le _) es
  have hlength : e.length = b.length := he ▸ length_joined b
  rw [hlimit] at hfits
  refine ⟨?_, ?_, fun a => ?_, fun t => ?_, fun c => ?_, ?_, ?_, fun c hc => ?_⟩
  · rw [he]
    exact ⟨rfl, rfl⟩
  · unfold length at hfits
    omega
  · rw [he, edit_joined, hlimit]
    rfl
  · rw [hlength, he, insertText_joined]
    simp only [insertText, Prod.map, id_eq, joined, List.length_append, List.length_take]
    refine ⟨by omega, ?_, ?_⟩
    · rw [List.take_eq_take_min, Nat.min_comm]
    · rw [Nat.min_comm]
  · have hchange := b.length_insert (capacity.toNat - 1) c
    rw [hlength, he, insert_joined, Prod.map_fst, Prod.map_snd, length_joined, hchange]
    cases (b.insert (capacity.toNat - 1) c).1 <;> simp
  · have hchange := b.length_deleteBefore
    rw [hlength, he, deleteBefore_joined, Prod.map_fst, Prod.map_snd, length_joined, ← hchange]
    cases b.deleteBefore.1 <;> simp
  · have hchange := b.length_deleteAt
    rw [hlength, he, deleteAt_joined, Prod.map_fst, Prod.map_snd, length_joined, ← hchange]
    cases b.deleteAt.1 <;> simp
  · rw [he, insert_joined] at hc ⊢
    rw [Prod.map_snd, deleteBefore_joined, Prod.map_snd, deleteBefore_insert hc]

/-- Two characters go in between, of three that are asked for; then the line is full. -/
def fullLineEdits : List Edit := [.insertText "ad", .press .left, .insertText "bcx", .moveLeft, .deleteAt, .moveHome, .moveRight]

theorem full_line_is_parted :
    (1 : Int) ≤ 5 ∧ ∃ new, Editor.create 5 = .ok new ∧
      let e := new.edits fullLineEdits
      e.text = "abd" ∧ e.cursor = 1 ∧ (e.insertText "xyz").1 = 1 ∧ (e.insertText "xyz").2.text = "axbd" ∧
        (e.insert 'x').2.deleteBefore.2 = e := by
  have hcapacity : (1 : Int) ≤ 5 := by decide
  obtain ⟨new, hnew, hedits⟩ := editor_is_parted_line hcapacity
  obtain ⟨⟨htext, hcursor⟩, -, -, htyped, -, -, -, hback⟩ := hedits fullLineEdits
  obtain rfl : Editor.ofCapacity 5 = new := Except.ok.inj hnew
  refine ⟨hcapacity, _, hnew, htext, hcursor, rfl, (htyped "xyz").2.1, hback 'x' rfl⟩

end Stepper
