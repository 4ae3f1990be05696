import Stepper.Proofs.Input.Fields

/-! Runs of the input fields: moves of the focus, typing and keys, in any order. The focus is on one field at most, all
fields know which, and what is typed reaches no other field. -/

namespace Stepper

namespace Fields

inductive Action where
  | activate (target : Option FieldId)
  | release
  | cycle
  | typeChar (c : Char)
  | typeText (t : Text)
  | press (key : EditKey)
  | clearAll
  | showAll

/-- The action goes to the field that has the focus. -/
def Action.isTyped : Action → Bool
  | typeChar _ => true
  | typeText _ => true
  | press _ => true
  | _ => false

/-- The action moves the focus, or takes it away. -/
def Action.isMove : Action → Bool
  | activate _ => true
  | release => true
  | cycle => true
  | press .tab => true
  | _ => false

def after (fs : Fields) : Action → Fields
  | .activate target => fs.activate target
  | .release => fs.release
  | .cycle => fs.cycle
  | .typeChar c =>
    match fs.typeSingle [c] with
    | .ok (_, fs') => fs'
    | .error _ => fs
  | .typeText t => (fs.typeText t).2
  | .press key => (fs.press key).2
  | .clearAll => fs.clearAll
  | .showAll => fs.showAll

def runs (fs : Fields) (actions : List Action) : Fields :=
  actions.foldl after fs

variable {fs : Fields} {id : FieldId}

theorem create_eq {capacity : Int} (h : 1 ≤ capacity) : create capacity = .ok (ofCapacity capacity.toNat) := by
  have hroom : ¬ capacity < 1 := by omega
  simp only [create, Editor.create, if_neg hroom]
  rfl

theorem capacity_ofCapacity (capacity : Nat) (id : FieldId) : ((ofCapacity capacity).get id).editor.capacity = capacity := by
  cases id <;> rfl

/-- A character is typed as a text of one character is, and never refused for its length. -/
theorem typeSingle_char (fs : Fields) (c : Char) :
    fs.typeSingle [c] = .ok ((fs.typeText [c]).1 == 1, (fs.typeText [c]).2) := by
  unfold typeSingle typeText
  cases fs.active with
  | none => rfl
  | some id =>
    simp only [Editor.insertSingle, Editor.insertText, Editor.insert]
    split <;> rfl

theorem after_typeChar (fs : Fields) (c : Char) : fs.after (.typeChar c) = (fs.typeText [c]).2 := by
  simp only [after, typeSingle_char]

/-! ### What stays as it is -/

theorem editor_setEditor_of_ne {a : FieldId} (h : id ≠ a) (e : Editor) :
    ((fs.setEditor a e).get id).editor = (fs.get id).editor := by
  rw [get_setEditor, if_neg h]

theorem editor_typeText (h : fs.active ≠ some id) (t : Text) : ((fs.typeText t).2.get id).editor = (fs.get id).editor := by
  unfold typeText
  split
  · rfl
  · next a ha => exact editor_setEditor_of_ne (by rintro rfl; exact h ha) _

theorem editor_press (h : fs.active ≠ some id) (key : EditKey) :
    ((fs.press key).2.get id).editor = (fs.get id).editor := by
  unfold press
  split
  · rfl
  · next a ha =>
    split
    · exact editor_activate fs _ id
    · exact editor_setEditor_of_ne (by rintro rfl; exact h ha) _

theorem editor_press_tab (fs : Fields) (id : FieldId) : ((fs.press .tab).2.get id).editor = (fs.get id).editor := by
  unfold press
  split
  · rfl
  · exact editor_activate fs _ id

/-- What is typed reaches no field without the focus. -/
theorem editor_after_of_isTyped (h : fs.active ≠ some id) {a : Action} (ha : a.isTyped = true) :
    ((fs.after a).get id).editor = (fs.get id).editor := by
  cases a with
  | typeChar c =>
    rw [after_typeChar]
    exact editor_typeText h [c]
  | typeText t => exact editor_typeText h t
  | press key => exact editor_press h key
  | _ => simp [Action.isTyped] at ha

/-- A move of the focus reaches no text. -/
theorem editor_after_of_isMove (fs : Fields) (id : FieldId) {a : Action} (ha : a.isMove = true) :
    ((fs.after a).get id).editor = (fs.get id).editor := by
  cases a with
  | activate target => exact editor_activate fs target id
  | release => exact editor_activate fs none id
  | cycle => exact editor_activate fs _ id
  | press key =>
    cases key with
    | tab => exact editor_press_tab fs id
    | _ => simp [Action.isMove] at ha
  | _ => simp [Action.isMove] at ha

theorem typeText_of_none (h : fs.active = none) (t : Text) : fs.typeText t = (0, fs) := by
  rw [typeText, h]

theorem press_of_none (h : fs.active = none) (key : EditKey) : fs.press key = (false, fs) := by
  rw [press, h]

/-! ### What every run keeps -/

theorem Sound.after (hfs : fs.Sound) (a : Action) : (fs.after a).Sound := by
  cases a with
  | activate target => exact hfs.activate target
  | release => exact hfs.activate none
  | cycle => exact hfs.activate (some fs.cycleTarget)
  | typeChar c =>
    rw [after_typeChar]
    exact hfs.typeText [c]
  | typeText t => exact hfs.typeText t
  | press key => exact hfs.press key
  | clearAll => exact hfs.clearAll
  | showAll => exact hfs.showAll

theorem Sound.runs (hfs : fs.Sound) (actions : List Action) : (fs.runs actions).Sound := by
  induction actions generalizing fs with
  | nil => exact hfs
  | cons a actions ih => exact ih (hfs.after a)

theorem capacity_setEditor {a : FieldId} {e : Editor} (he : e.capacity = (fs.get a).editor.capacity) (id : FieldId) :
    ((fs.setEditor a e).get id).editor.capacity = (fs.get id).editor.capacity := by
  rw [get_setEditor]
  split
  · next h => exact h ▸ he
  · rfl

theorem capacity_typeText (hfs : fs.Sound) (t : Text) (id : FieldId) :
    ((fs.typeText t).2.get id).editor.capacity = (fs.get id).editor.capacity := by
  unfold typeText
  split
  · rfl
  · next a _ =>
    refine capacity_setEditor ?_ id
    rw [Editor.insertText_eq (hfs.editor a).cursor]
    rfl

theorem capacity_press (fs : Fields) (key : EditKey) (id : FieldId) :
    ((fs.press key).2.get id).editor.capacity = (fs.get id).editor.capacity := by
  unfold press
  split
  · rfl
  · split
    · exact congrArg Editor.capacity (editor_activate fs _ id)
    · exact capacity_setEditor (Editor.capacity_press _ key) id

/-- No action changes how much the fields can hold. -/
theorem capacity_after (hfs : fs.Sound) (a : Action) (id : FieldId) :
    ((fs.after a).get id).editor.capacity = (fs.get id).editor.capacity := by
  cases a with
  | activate target => exact congrArg Editor.capacity (editor_activate fs target id)
  | release => exact congrArg Editor.capacity (editor_activate fs none id)
  | cycle => exact congrArg Editor.capacity (editor_activate fs _ id)
  | typeChar c =>
    rw [after_typeChar]
    exact capacity_typeText hfs [c] id
  | typeText t => exact capacity_typeText hfs t id
  | press key => exact capacity_press fs key id
  | clearAll => exact congrArg (·.editor.capacity) (get_updateAll fs _ id)
  | showAll => exact congrArg (·.editor.capacity) (get_updateAll fs _ id)

theorem capacity_runs (hfs : fs.Sound) (actions : List Action) (id : FieldId) :
    ((fs.runs actions).get id).editor.capacity = (fs.get id).editor.capacity := by
  induction actions generalizing fs with
  | nil => rfl
  | cons a actions ih => exact (ih (hfs.after a)).trans (capacity_after hfs a id)

/-! ### Typing into one field -/

/-- Moves the focus to a field and types into it, piece by piece. -/
def typing (id : FieldId) (pieces : List Text) : List Action :=
  .activate (some id) :: pieces.map .typeText

/-- Pieces that there is room for go in as one text. -/
theorem runs_typeText (hfs : fs.Sound) (hid : fs.active = some id) {pieces : List Text}
    (h : pieces.flatten.length ≤ (fs.get id).editor.room) :
    fs.runs (pieces.map .typeText) = fs.setEditor id ((fs.get id).editor.splice pieces.flatten) := by
  induction pieces generalizing fs with
  | nil => exact ((congrArg (fs.setEditor id) (Editor.splice_nil _)).trans (setEditor_self fs id)).symm
  | cons piece pieces ih =>
    rw [List.flatten_cons, List.length_append] at h
    have hcursor := (hfs.editor id).cursor
    have hfirst : fs.after (.typeText piece) = fs.setEditor id ((fs.get id).editor.splice piece) := by
      have hwhole : piece.take (fs.get id).editor.room = piece := List.take_of_length_le (by omega)
      exact (typeText_eq hfs hid piece).trans (by rw [hwhole])
    have hsound : (fs.setEditor id ((fs.get id).editor.splice piece)).Sound := hfirst ▸ hfs.after (.typeText piece)
    have heditor : ((fs.setEditor id ((fs.get id).editor.splice piece)).get id).editor = (fs.get id).editor.splice piece := by
      rw [get_setEditor, if_pos rfl]
    have hroom := Editor.room_splice hcursor piece
    have hrest := ih hsound ((active_setEditor fs _ id).trans hid) (by rw [heditor, hroom]; omega)
    rw [heditor, setEditor_setEditor, Editor.splice_splice hcursor] at hrest
    exact (congrArg (fun fs' => fs'.runs (pieces.map .typeText)) hfirst).trans hrest

/-- An empty field takes a text that leaves a slot free, and the other fields keep theirs. -/
theorem typing_eq (hfs : fs.Sound) (hempty : fs.text id = []) {pieces : List Text}
    (h : pieces.flatten.length < (fs.get id).editor.capacity) :
    (fs.runs (typing id pieces)).active = some id ∧
      ∀ other, (fs.runs (typing id pieces)).text other = if other = id then pieces.flatten else fs.text other := by
  have hactive : (fs.activate (some id)).active = some id := active_activate fs (some id)
  have hkept : ∀ other, ((fs.activate (some id)).get other).editor = (fs.get other).editor := editor_activate fs (some id)
  have hroom : pieces.flatten.length ≤ ((fs.activate (some id)).get id).editor.room := by
    have hlength : (fs.get id).editor.length = 0 := congrArg List.length hempty
    rw [hkept, Editor.room, Editor.maxLength, hlength]
    omega
  have hruns := runs_typeText (hfs.activate (some id)) hactive hroom
  change ((fs.activate (some id)).runs _).active = _ ∧ ∀ other, ((fs.activate (some id)).runs _).text other = _
  rw [hruns]
  refine ⟨(active_setEditor _ _ id).trans hactive, fun other => ?_⟩
  rw [Fields.text, get_setEditor]
  split
  · have htext : (fs.get id).editor.text = [] := hempty
    rw [hkept]
    simp [Editor.splice, htext]
  · exact congrArg Editor.text (hkept other)

/-! ### The tab key -/

theorem active_press_tab (h : fs.active = some id) : (fs.press .tab).2.active = some id.next := by
  rw [press, h]
  simp [cycle, cycleTarget, h]

/-- The tab key goes round through the fields in their order. -/
theorem active_tabs (h : fs.active = some id) (k : Nat) :
    (fs.runs (List.replicate k (.press .tab))).active =
      FieldId.all[(FieldId.all.idxOf id + k) % FieldId.all.length]? := by
  induction k generalizing fs id with
  | zero =>
    have hplace : FieldId.all[FieldId.all.idxOf id % FieldId.all.length]? = some id := by cases id <;> rfl
    exact h.trans hplace.symm
  | succ k ih =>
    have hnext : FieldId.all.idxOf id.next = (FieldId.all.idxOf id + 1) % FieldId.all.length := by cases id <;> rfl
    calc (fs.runs (List.replicate (k + 1) (.press .tab))).active
      _ = ((fs.press .tab).2.runs (List.replicate k (.press .tab))).active := rfl
      _ = FieldId.all[(FieldId.all.idxOf id.next + k) % FieldId.all.length]? := ih (active_press_tab h)
      _ = FieldId.all[(FieldId.all.idxOf id + (k + 1)) % FieldId.all.length]? := by
        rw [hnext, Nat.mod_add_mod, Nat.add_assoc, Nat.add_comm 1 k]

end Fields

open Fields

/-- After any actions on new fields of some capacity the focus is on the one field that is marked for it, if any is, and
every cursor lies in its text, which leaves a slot free. What is typed then changes the field with the focus at most,
and is ignored if there is none; a move of the focus changes no text and no cursor; and the tab key takes the focus
from field to field, round and round. -/
theorem typing_stays_in_focused_field {capacity : Int} (h : 1 ≤ capacity) :
    ∃ new, create capacity = .ok new ∧ ∀ actions : List Action,
      let fs := new.runs actions
      (∀ id, (fs.get id).active = true ↔ fs.active = some id) ∧
      (∀ id, (fs.get id).editor.cursor ≤ (fs.get id).editor.length ∧
        ((fs.get id).editor.length : Int) ≤ capacity - 1) ∧
      (∀ c, ∃ typed, fs.typeSingle [c] = .ok (typed, fs.after (.typeChar c))) ∧
      (∀ a : Action, a.isTyped = true → ∀ id, fs.active ≠ some id →
        ((fs.after a).get id).editor = (fs.get id).editor) ∧
      (fs.active = none →
        (∀ c, fs.typeSingle [c] = .ok (false, fs)) ∧ (∀ t, fs.typeText t = (0, fs)) ∧
          ∀ key, fs.press key = (false, fs)) ∧
      (∀ a : Action, a.isMove = true → ∀ id, ((fs.after a).get id).editor = (fs.get id).editor) ∧
      ∀ id, fs.active = some id → ∀ k, (fs.runs (List.replicate k (.press .tab))).active =
        FieldId.all[(FieldId.all.idxOf id + k) % FieldId.all.length]? := by
  refine ⟨_, create_eq h, fun actions => ?_⟩
  intro fs
  have hnew := sound_ofCapacity capacity.toNat
  have hfs : fs.Sound := hnew.runs actions
  refine ⟨fun id => ?_, fun id => ⟨(hfs.editor id).cursor, ?_⟩, fun c => ⟨(fs.typeText [c]).1 == 1, ?_⟩,
    fun a ha id hid => editor_after_of_isTyped hid ha, fun hnone => ⟨fun c => ?_, typeText_of_none hnone, press_of_none hnone⟩,
    fun a ha id => editor_after_of_isMove fs id ha, fun id hid k => active_tabs hid k⟩
  · simp [hfs.focus id]
  · have hlength := (hfs.editor id).length
    rw [Editor.maxLength, capacity_runs hnew, capacity_ofCapacity] at hlength
    omega
  · rw [after_typeChar]
    exact typeSingle_char fs c
  · rw [typeSingle_char, typeText_of_none hnone]
    rfl

/-- A text that is too long fills the register field, and what follows the tab key goes elsewhere. -/
theorem full_register_field_is_left :
    (1 : Int) ≤ 3 ∧ ∃ new, create 3 = .ok new ∧
      let fs := new.runs [.activate (some .register), .typeText "312", .press .tab]
      fs.active = some .memory ∧ (fs.get .register).editor = ⟨3, "31", 2⟩ ∧
        ((fs.after (.typeChar '7')).get .register).editor = ⟨3, "31", 2⟩ ∧
        (fs.runs (List.replicate 4 (.press .tab))).active = some .value := by
  have hcapacity : (1 : Int) ≤ 3 := by decide
  obtain ⟨new, hnew, hruns⟩ := typing_stays_in_focused_field hcapacity
  obtain ⟨-, -, -, htyped, -, -, htabs⟩ := hruns [.activate (some .register), .typeText "312", .press .tab]
  obtain rfl : ofCapacity 3 = new := Except.ok.inj hnew
  refine ⟨hcapacity, _, hnew, rfl, rfl, ?_, htabs .memory rfl 4⟩
  exact htyped (.typeChar '7') rfl .register (by decide)

end Stepper
