import Stepper.Proofs.Desktop.Turn
import Stepper.Proofs.Session.Fields

/-! Keys in the window. With the focus on an input field every key but the return key goes to that field and to nothing
else; without it no key goes to a field. -/

namespace Stepper

/-- The focus is on the field behind another one, and nothing else is different. -/
structure Fields.Refocused (fs fs' : Fields) (id : FieldId) : Prop where
  active : fs'.active = some id.next
  get : ∀ j, fs'.get j = { fs.get j with active := decide (j = id.next) }

/-- The fields are without text and as they were otherwise. -/
structure Fields.Emptied (fs fs' : Fields) : Prop where
  active : fs'.active = fs.active
  get : ∀ j, fs'.get j = { fs.get j with editor := (fs.get j).editor.clear }

/-- What a key does to the fields while one of them has the focus. -/
def Fields.TypedAs (fs fs' : Fields) (id : FieldId) (key : Desktop.Key) (t : Text) : Prop :=
  match key with
  | .edit .tab => fs.Refocused fs' id
  | .edit _ => ∃ text cursor, fs' = fs.setEditor id { (fs.get id).editor with text := text, cursor := cursor }
  | _ => ∃ inserted, inserted <+: t ∧ (Desktop.isTypeable t = false → inserted = []) ∧
      fs' = fs.setEditor id ((fs.get id).editor.splice inserted)

namespace Desktop.Workbench

variable {T : Toolkit} {w : Workbench T} {d : Device} {id : FieldId}

/-- A reply that leaves everything alone but the input fields and how the window shows them. -/
structure OnlyFields (w : Workbench T) (d : Device) (reply : Reply T) : Prop where
  session : reply.window.session = { w.session with fields := reply.window.session.fields }
  config : reply.window.config = w.config
  state : reply.window.screen.state = w.screen.state
  isClosed : reply.window.isClosed = w.isClosed
  device : reply.device = d
  result : w.session.Presentable → ∃ moved, reply.result = .ok moved

theorem Reached.sound_fields (hw : w.Reached) : w.session.fields.Sound :=
  hw.session (P := fun s => s.fields.Sound) (fun c => (Fields.sound_ofCapacity c.layout.inputCapacity).showAll)
    fun _ c hs => Session.sound_after hs c

/-! ### With the focus -/

theorem refocused_cycle {fs : Fields} (hfs : fs.Sound) (hid : fs.active = some id) : fs.Refocused fs.cycle id := by
  have htarget : fs.cycleTarget = id.next := by rw [Fields.cycleTarget, hid]
  refine ⟨?_, fun j => ?_⟩
  · rw [Fields.cycle, Fields.active_activate, htarget]
  · rw [Fields.cycle, Fields.get_activate hfs, htarget]
    simp [eq_comm]

/-- A window that is drawn with other fields. -/
theorem onlyFields_drawn (fields : Fields) :
    w.OnlyFields d (.drawn (w.withSession { w.session with fields := fields }).update d []) where
  session := rfl
  config := rfl
  state := Screen.state_update _ _
  isClosed := rfl
  device := rfl
  result hs := ⟨none, (result_drawn (w := w.withSession { w.session with fields := fields }) hs _ _ _).1⟩

theorem press_of_active {s : Session} {key : EditKey} (hid : s.fields.active = some id) (hkey : key ≠ .enter) :
    s.press key = .ok { s with fields := (s.fields.press key).2 } [] (s.fields.press key).1 := by
  rw [Session.press, hid]
  exact if_neg hkey

theorem typedAs_press {fs : Fields} (hfs : fs.Sound) (hid : fs.active = some id) {key : EditKey} (hkey : key ≠ .enter)
    (t : Text) : fs.TypedAs (fs.press key).2 id (.edit key) t := by
  unfold Fields.press
  rw [hid]
  dsimp only
  split
  · next htab =>
    subst htab
    exact refocused_cycle hfs hid
  · next htab =>
    have hedit : ∃ text cursor, fs.setEditor id ((fs.get id).editor.press key).2 =
        fs.setEditor id { (fs.get id).editor with text := text, cursor := cursor } :=
      ⟨_, _, congrArg (fs.setEditor id) (Editor.press_eq _ key)⟩
    cases key with
    | tab => exact absurd rfl htab
    | enter => exact absurd rfl hkey
    | _ => exact hedit

theorem typeKey_text {key : Key} (hkey : ∀ k, key ≠ .edit k) (t : Text) :
    w.typeKey d key t =
      .drawn (if isTypeable t then (w.withSession (w.session.typeText t).2).update else w.update) d [] := by
  cases key with
  | edit k => exact absurd rfl (hkey k)
  | _ =>
    unfold typeKey
    dsimp only

theorem typedAs_text {fs : Fields} {key : Key} (hkey : ∀ k, key ≠ .edit k) {t inserted : Text}
    (hinserted : inserted <+: t) (htypeable : isTypeable t = false → inserted = []) :
    fs.TypedAs (fs.setEditor id ((fs.get id).editor.splice inserted)) id key t := by
  cases key with
  | edit k => exact absurd rfl (hkey k)
  | _ => exact ⟨inserted, hinserted, htypeable, rfl⟩

/-- A key for the field that has the focus leaves everything else alone. -/
theorem onlyFields_typeKey (hfs : w.session.fields.Sound) (hid : w.session.fields.active = some id) {key : Key}
    (hkey : key ≠ .edit .enter) (t : Text) :
    w.OnlyFields d (w.typeKey d key t) ∧
      w.session.fields.TypedAs (w.typeKey d key t).window.session.fields id key t := by
  by_cases hedit : ∃ k, key = .edit k
  · obtain ⟨k, rfl⟩ := hedit
    have hk : k ≠ .enter := fun h => hkey (congrArg Key.edit h)
    have hreply : w.typeKey d (.edit k) t =
        .drawn (w.withSession { w.session with fields := (w.session.fields.press k).2 }).update d [] := by
      rw [typeKey, press_of_active hid hk]
      rfl
    rw [hreply]
    exact ⟨onlyFields_drawn _, typedAs_press hfs hid hk t⟩
  · have htext : ∀ k, key ≠ .edit k := fun k hk => hedit ⟨k, hk⟩
    rw [typeKey_text htext]
    cases htypeable : isTypeable t with
    | true =>
      refine ⟨onlyFields_drawn (w.session.fields.typeText t).2, ?_⟩
      have hfields : (w.session.typeText t).2.fields = (w.session.fields.typeText t).2 := rfl
      change w.session.fields.TypedAs (w.session.typeText t).2.fields id key t
      rw [hfields, Fields.typeText_eq hfs hid]
      exact typedAs_text htext (List.take_prefix _ _) (by simp [htypeable])
    | false =>
      refine ⟨onlyFields_drawn w.session.fields, ?_⟩
      have hnothing : w.session.fields.TypedAs
          (w.session.fields.setEditor id ((w.session.fields.get id).editor.splice [])) id key t :=
        typedAs_text htext List.nil_prefix fun _ => rfl
      rwa [Editor.splice_nil, Fields.setEditor_self] at hnothing

/-! ### Without the focus -/

theorem emptied_of_released {fs : Fields} (hfs : fs.Sound) (hnone : fs.active = none) :
    fs.Emptied fs.clearAll.release where
  active := by rw [Fields.release, Fields.active_activate, hnone]
  get id := by
    have hfocus : (fs.get id).active = false := by simpa [hnone] using hfs.focus id
    rw [Session.get_emptied hfs, ← hfocus]

/-- A load leaves the fields alone, or it succeeds and empties them. -/
theorem fields_load (w : Workbench T) (d : Device) (r : LoadRequest) :
    (w.load d r).window.session.fields =
      if w.succeeds d r then w.session.fields.clearAll.release else w.session.fields := by
  have hsucceeds := succeeds_eq_true_iff (w := w) (d := d) (r := r)
  rw [session_load]
  cases hresult : (w.session.load d r).result with
  | error cause => rw [if_neg (by simp [hsucceeds, hresult]), Session.fields_load_of_error hresult]
  | ok _ => rw [if_pos (hsucceeds.2 hresult), Session.fields_load_of_ok hresult]

theorem fields_askAndLoad (w : Workbench T) (d : Device) (user : DialogInput) :
    (w.askAndLoad d user).window.session.fields =
      if ((w.asked user).filter (w.succeeds d)).isSome then w.session.fields.clearAll.release
      else w.session.fields := by
  unfold askAndLoad asked
  dsimp only
  rcases (Dialog.ofConfig T w.config).answer user with warning | _ | r
  · rfl
  · rfl
  · dsimp only
    rw [fields_load, Option.filter_some]
    cases w.succeeds d r <;> rfl

/-- Without the focus only a load that succeeds does anything to the fields. -/
theorem fields_press (hfocus : w.hasFocus = false) (d : Device) (user : DialogInput) (key : Key) (t : Text) :
    (w.press d user key t).window.session.fields =
      if (w.loaded? ⟨d, user, .key key t⟩).isSome then w.session.fields.clearAll.release
      else w.session.fields := by
  unfold press
  rw [hfocus]
  cases key with
  | space => exact (congrArg Session.fields (w.session_step d)).trans w.session.fields_step
  | letterR => exact (congrArg Session.fields (w.session_reset d)).trans (w.session.fields_reset d)
  | letterL =>
    unfold loaded? loading?
    dsimp only
    rw [hfocus]
    exact w.fields_askAndLoad d user
  | escape =>
    change (w.close d).window.session.fields = _
    unfold close
    rcases w.config.save d w.configPath with ⟨d', (e | f) | _⟩ <;> rfl
  | edit key => rfl
  | other => rfl

end Desktop.Workbench

open Desktop Workbench

/-- With the focus on an input field, no key but the return key does anything to the program, to the configuration or to
a file: it goes to that field. Without the focus no key goes to a field, and only a load that succeeds empties them. -/
theorem typing_leaves_program {T : Toolkit} {w : Workbench T} (hw : w.Reached) (d : Device) (user : DialogInput) :
    (∀ id, w.session.fields.active = some id →
      (∀ key t, key ≠ .edit .enter →
        w.OnlyFields d (w.reply ⟨d, user, .key key t⟩) ∧
        w.session.fields.TypedAs (w.reply ⟨d, user, .key key t⟩).window.session.fields id key t) ∧
      w.OnlyFields d (w.reply ⟨d, user, .tab⟩) ∧ (w.reply ⟨d, user, .tab⟩).result = .ok (some true) ∧
      w.session.fields.Refocused (w.reply ⟨d, user, .tab⟩).window.session.fields id) ∧
    (w.session.fields.active = none →
      (∀ key t,
        (w.loaded? ⟨d, user, .key key t⟩ = none →
          (w.reply ⟨d, user, .key key t⟩).window.session.fields = w.session.fields) ∧
        ∀ r, w.loaded? ⟨d, user, .key key t⟩ = some r →
          w.session.fields.Emptied (w.reply ⟨d, user, .key key t⟩).window.session.fields) ∧
      (w.reply ⟨d, user, .tab⟩).window = w) := by
  have hfs := hw.sound_fields
  refine ⟨fun id hid => ?_, fun hnone => ?_⟩
  · have hfocus : w.hasFocus = true := by rw [Workbench.hasFocus, hid]; rfl
    have htab : w.reply ⟨d, user, .tab⟩ =
        { Reply.silent (w.withSession (w.session.press .tab).state).updateInputs d with result := .ok (some true) } :=
      if_pos hfocus
    have hcycle : w.session.press .tab = .ok { w.session with fields := w.session.fields.cycle } [] true := by
      rw [press_of_active hid (by simp), Fields.press, hid]
      rfl
    refine ⟨fun key t hkey => ?_, ?_, by rw [htab], ?_⟩
    · have hreply : w.reply ⟨d, user, .key key t⟩ = w.typeKey d key t := if_pos hfocus
      rw [hreply]
      exact onlyFields_typeKey hfs hid hkey t
    · rw [htab, hcycle]
      exact ⟨rfl, rfl, rfl, rfl, rfl, fun _ => ⟨_, rfl⟩⟩
    · rw [htab, hcycle]
      exact refocused_cycle hfs hid
  · have hfocus : w.hasFocus = false := by rw [Workbench.hasFocus, hnone]; rfl
    refine ⟨fun key t => ?_, ?_⟩
    · have hfields := fields_press hfocus d user key t
      refine ⟨fun hloaded => ?_, fun r hloaded => ?_⟩
      · rw [hloaded] at hfields
        exact hfields
      · rw [hloaded] at hfields
        exact hfields ▸ emptied_of_released hfs hnone
    · change (w.tab d).window = w
      unfold tab
      rw [hfocus]
      rfl

/-- The letter of the reset goes to the register field, and without the focus the letter of the load opens a dialog. -/
theorem typing_leaves_idle_window :
    let w := (opening .plain idleLaunch threeLinesDevice).window
    let focused := w.afterwards [⟨threeLinesDevice, .cancel, .field .register .left⟩]
    let typed := focused.reply ⟨threeLinesDevice, .cancel, .key .letterR "r"⟩
    focused.Reached ∧ focused.session.fields.active = some .register ∧ focused.OnlyFields threeLinesDevice typed ∧
      focused.session.fields.TypedAs typed.window.session.fields .register .letterR "r" ∧
      (w.reply ⟨threeLinesDevice, .cancel, .key .letterL "l"⟩).window.session.fields = w.session.fields := by
  intro w focused typed
  have hfocused := (typing_leaves_program (reached_idle .plain [⟨threeLinesDevice, .cancel, .field .register .left⟩])
    threeLinesDevice .cancel).1 .register rfl
  have hw := (typing_leaves_program (reached_idle .plain []) threeLinesDevice .cancel).2 rfl
  obtain ⟨honly, htyped⟩ := hfocused.1 .letterR "r" (by simp)
  exact ⟨reached_idle _ _, rfl, honly, htyped, (hw.1 .letterL "l").1 rfl⟩

end Stepper
