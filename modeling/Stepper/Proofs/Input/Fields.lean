import Stepper.Input.Fields
import Stepper.Proofs.Input.Editor

/-! The focus among the input fields. A move of it changes no text and no cursor, and what is typed changes only the
field that has it. -/

namespace Stepper.Fields

variable {fs : Fields} {id : FieldId}

/-! ### One field among the others -/

@[simp]
theorem get_update (fs : Fields) (f : Field → Field) (id other : FieldId) :
    (fs.update f id).get other = if other = id then f (fs.get other) else fs.get other := by
  cases id <;> cases other <;> rfl

@[simp]
theorem active_update (fs : Fields) (f : Field → Field) (id : FieldId) : (fs.update f id).active = fs.active := by
  cases id <;> rfl

@[simp]
theorem get_updateAll (fs : Fields) (f : Field → Field) (id : FieldId) : (fs.updateAll f).get id = f (fs.get id) := by
  cases id <;> rfl

@[simp]
theorem active_updateAll (fs : Fields) (f : Field → Field) : (fs.updateAll f).active = fs.active := rfl

@[simp]
theorem get_setEditor (fs : Fields) (e : Editor) (id other : FieldId) :
    (fs.setEditor id e).get other = if other = id then { fs.get other with editor := e } else fs.get other :=
  get_update fs _ id other

@[simp]
theorem active_setEditor (fs : Fields) (e : Editor) (id : FieldId) : (fs.setEditor id e).active = fs.active :=
  active_update fs _ id

theorem setEditor_self (fs : Fields) (id : FieldId) : fs.setEditor id (fs.get id).editor = fs := by
  cases id <;> rfl

theorem setEditor_setEditor (fs : Fields) (id : FieldId) (e e' : Editor) :
    (fs.setEditor id e).setEditor id e' = fs.setEditor id e' := by
  cases id <;> rfl

/-! ### The focus -/

/-- The fields agree with the set on which of them has the focus, and all editors are sound. -/
structure Sound (fs : Fields) : Prop where
  focus : ∀ id, (fs.get id).active = decide (fs.active = some id)
  editor : ∀ id, (fs.get id).editor.Sound

@[simp]
theorem active_activate (fs : Fields) (target : Option FieldId) : (fs.activate target).active = target := by
  unfold activate
  cases fs.active <;> cases target <;> simp

theorem get_focused (fs : Fields) (target : Option FieldId) (id : FieldId) :
    { fs with active := target }.get id = fs.get id := by
  cases id <;> rfl

/-- The fields while none of them has the focus and the set does not know it yet. -/
def left (fs : Fields) : Fields :=
  match fs.active with
  | some a => fs.update (fun field => { field with active := false }) a
  | none => fs

theorem get_left (hfs : fs.Sound) (id : FieldId) : fs.left.get id = { fs.get id with active := false } := by
  have hfocus := hfs.focus id
  unfold left
  cases hactive : fs.active with
  | none =>
    have hid : (fs.get id).active = false := by simpa [hactive] using hfocus
    rw [← hid]
  | some a =>
    rw [get_update]
    split
    · rfl
    · next hne =>
      have hid : (fs.get id).active = false := by simpa [hactive, Ne.symm hne] using hfocus
      rw [← hid]

theorem activate_none (fs : Fields) : fs.activate none = { fs.left with active := none } := rfl

theorem activate_some (fs : Fields) (id : FieldId) :
    fs.activate (some id) =
      Fields.update { fs.left with active := some id } (fun field => { field with active := true }) id := rfl

/-- Whatever the fields know of the focus, a move of it keeps their texts. -/
theorem editor_activate (fs : Fields) (target : Option FieldId) (id : FieldId) :
    ((fs.activate target).get id).editor = (fs.get id).editor := by
  have hleft : (fs.left.get id).editor = (fs.get id).editor := by
    unfold left
    cases fs.active with
    | none => rfl
    | some a =>
      rw [get_update]
      split <;> rfl
  cases target with
  | none =>
    rw [activate_none, get_focused]
    exact hleft
  | some t =>
    rw [activate_some, get_update, get_focused]
    split <;> exact hleft

/-- The focus moves, and nothing else does. -/
theorem get_activate (hfs : fs.Sound) (target : Option FieldId) (id : FieldId) :
    (fs.activate target).get id = { fs.get id with active := decide (target = some id) } := by
  cases target with
  | none =>
    rw [activate_none, get_focused, get_left hfs]
    rfl
  | some t =>
    rw [activate_some, get_update, get_focused, get_left hfs]
    by_cases hid : id = t
    · simp [hid]
    · simp [hid, Ne.symm hid]

theorem Sound.activate (hfs : fs.Sound) (target : Option FieldId) : (fs.activate target).Sound where
  focus id := by rw [get_activate hfs, active_activate]
  editor id := by
    rw [get_activate hfs]
    exact hfs.editor id

theorem sound_ofCapacity (capacity : Nat) : (ofCapacity capacity).Sound where
  focus id := by cases id <;> rfl
  editor id := by cases id <;> exact Editor.sound_ofCapacity capacity

theorem Sound.updateAll (hfs : fs.Sound) {f : Field → Field} (hactive : ∀ field, (f field).active = field.active)
    (heditor : ∀ field, field.editor.Sound → (f field).editor.Sound) : (fs.updateAll f).Sound where
  focus id := by rw [get_updateAll, hactive, active_updateAll, hfs.focus]
  editor id := by
    rw [get_updateAll]
    exact heditor _ (hfs.editor id)

theorem Sound.setEditor (hfs : fs.Sound) {e : Editor} (he : e.Sound) (id : FieldId) : (fs.setEditor id e).Sound where
  focus other := by
    rw [get_setEditor, active_setEditor, ← hfs.focus]
    split <;> rfl
  editor other := by
    rw [get_setEditor]
    split
    · exact he
    · exact hfs.editor other

theorem Sound.setText (hfs : fs.Sound) (id : FieldId) (t : Text) : (fs.setText id t).Sound :=
  hfs.setEditor (Editor.sound_setText _ t) id

theorem Sound.clearAll (hfs : fs.Sound) : fs.clearAll.Sound :=
  hfs.updateAll (fun _ => rfl) fun field _ => Editor.sound_clear field.editor

theorem Sound.showAll (hfs : fs.Sound) : fs.showAll.Sound :=
  hfs.updateAll (fun _ => rfl) fun _ h => h

/-- Of a typed text as much goes in as there is room for. -/
theorem typeText_eq (hfs : fs.Sound) (hid : fs.active = some id) (t : Text) :
    (fs.typeText t).2 = fs.setEditor id ((fs.get id).editor.splice (t.take (fs.get id).editor.room)) := by
  rw [Fields.typeText, hid]
  dsimp only
  rw [Editor.insertText_eq (hfs.editor id).cursor]

theorem Sound.typeText (hfs : fs.Sound) (t : Text) : (fs.typeText t).2.Sound := by
  unfold Fields.typeText
  split
  · exact hfs
  · next id _ => exact hfs.setEditor ((hfs.editor id).insertText t) id

theorem Sound.press (hfs : fs.Sound) (key : EditKey) : (fs.press key).2.Sound := by
  unfold Fields.press
  split
  · exact hfs
  · next id _ =>
    split
    · exact hfs.activate (some fs.cycleTarget)
    · exact hfs.setEditor ((hfs.editor id).press key) id

end Stepper.Fields
