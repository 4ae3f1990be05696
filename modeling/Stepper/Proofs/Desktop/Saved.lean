import Stepper.Proofs.CommandLine.Run
import Stepper.Proofs.Config.RoundTrip
import Stepper.Proofs.Desktop.Turn

/-! What the window leaves for the next one. Its configuration is the one it was opened with, but for the load that
succeeded last, and so are the file that it saves and the dialog that it proposes. -/

namespace Stepper.Desktop

open Text

/-! ### The dialog -/

/-- The user accepts the dialog as it opens. -/
def DialogInput.acceptance : DialogInput :=
  { DialogInput.cancel with accepts := true }

namespace Dialog

variable {T : Toolkit} {c : Config} {x : Dialog T} {r : LoadRequest}

/-- The entries of the dialog hold what they are filled in with. -/
structure Fits (c : Config) : Prop where
  lastFile : Toolkit.FitsEntry (c.lastFile.getD [])
  pcStart : Toolkit.FitsEntry (addressText c.pcStart)
  pcEnd : Toolkit.FitsEntry (addressText c.pcEnd)
  spStart : Toolkit.FitsEntry (addressText c.spStart)

theorem address_addressText (entry : AddressEntry) {v : Int} (hv : 0 ≤ v) : address entry (addressText v) = .ok v := by
  obtain ⟨n, rfl⟩ := Int.eq_ofNat_of_zero_le hv
  rw [addressText, Numeral.written_eq, address, Numeral.readAddress_written]

theorem nonneg_of_address {entry : AddressEntry} {t : Text} {v : Int} (h : address entry t = .ok v) : 0 ≤ v := by
  unfold address at h
  split at h
  · obtain rfl := Except.ok.inj h
    exact Int.natCast_nonneg _
  · simp at h

/-- The dialog asks for the addresses of the configuration and for its file, if it has one. -/
theorem request_ofConfig (hT : T.Lawful) (hc : c.Valid) (hfits : Fits c) :
    (ofConfig T c).request =
      if (trim (c.lastFile.getD [])).isEmpty then .error .missingFile
      else .ok (c.requestFor (trim (c.lastFile.getD []))) := by
  rw [request, ofConfig, hT.entryText_entry _ hfits.lastFile, hT.entryText_entry _ hfits.pcStart,
    hT.entryText_entry _ hfits.pcEnd, hT.entryText_entry _ hfits.spStart, address_addressText _ hc.pcStart,
    address_addressText _ hc.pcEnd, address_addressText _ hc.spStart]
  split <;> rfl

theorem nonneg_of_request (h : x.request = .ok r) : r.Nonneg := by
  unfold request at h
  dsimp only at h
  split at h
  · simp [bind, Except.bind, throw, throwThe, MonadExceptOf.throw] at h
  · obtain ⟨pcStart, hstart, h⟩ := Config.exists_of_bind h
    obtain ⟨pcEnd, hend, h⟩ := Config.exists_of_bind h
    obtain ⟨spStart, hsp, h⟩ := Config.exists_of_bind h
    obtain rfl := Except.ok.inj h
    exact ⟨nonneg_of_address hstart, nonneg_of_address hend, nonneg_of_address hsp⟩

end Dialog

namespace Workbench

variable {T : Toolkit} {w : Workbench T} {d : Device} {r : LoadRequest} {h : Happening}

theorem nonneg_of_asked {user : DialogInput} (hasked : w.asked user = some r) : r.Nonneg := by
  unfold asked Dialog.answer at hasked
  split at hasked
  · next request hanswer =>
    subst hasked
    split at hanswer
    · cases hrequest : ((Dialog.ofConfig T w.config).entered user).request with
      | error warning => simp [hrequest] at hanswer
      | ok r' =>
        rw [hrequest] at hanswer
        obtain rfl := Option.some.inj (Except.ok.inj hanswer)
        exact Dialog.nonneg_of_request hrequest
    · simp at hanswer
  · simp at hasked

/-- Only a load that is called for directly may have negative addresses. -/
theorem nonneg_of_loaded (hdirect : ∀ r, h.event = .load r → r.Nonneg) (hloaded : w.loaded? h = some r) : r.Nonneg := by
  obtain ⟨hloading, -⟩ := Option.filter_eq_some_iff.1 hloaded
  unfold loading? at hloading
  split at hloading
  · next r' hevent =>
    obtain rfl := Option.some.inj hloading
    exact hdirect _ hevent
  · exact nonneg_of_asked hloading
  · split at hloading
    · simp at hloading
    · exact nonneg_of_asked hloading
  · simp at hloading

/-! ### The configuration of the window -/

theorem Turn.config {reply : Reply T} {loaded : Option LoadRequest} (hturn : Turn w d reply loaded) :
    reply.window.config = (loaded.map w.config.withLoad).getD w.config ∧ reply.window.configPath = w.configPath := by
  cases hturn with
  | rests window => rw [window]; exact ⟨rfl, rfl⟩
  | closes window => rw [window]; exact ⟨rfl, rfl⟩
  | draws commands v tables window => rw [window]; exact ⟨rfl, rfl⟩
  | drawsInputs commands fields only window => rw [window]; exact ⟨rfl, rfl⟩
  | escapes commands window fault => rw [window]; exact ⟨rfl, rfl⟩
  | loads ok window => rw [window]; exact ⟨rfl, rfl⟩

/-- The loads that succeed with events, the last of them at the end. -/
def loads (w : Workbench T) : List Happening → List LoadRequest
  | [] => []
  | h :: hs => (w.loaded? h).toList ++ (w.reply h).window.loads hs

theorem config_afterwards (w : Workbench T) (hs : List Happening) :
    (w.afterwards hs).config = w.config.withLoads (w.loads hs) ∧ (w.afterwards hs).configPath = w.configPath := by
  induction hs generalizing w with
  | nil => exact ⟨rfl, rfl⟩
  | cons h hs ih =>
    obtain ⟨hconfig, hpath⟩ := (w.turn_reply h).config
    obtain ⟨hmore, hsame⟩ := ih (w.reply h).window
    refine ⟨hmore.trans ?_, hsame.trans hpath⟩
    rw [hconfig, loads]
    cases w.loaded? h <;> rfl

theorem nonneg_of_mem_loads {hs : List Happening} (hdirect : ∀ h ∈ hs, ∀ r, h.event = .load r → r.Nonneg)
    (hr : r ∈ w.loads hs) : r.Nonneg := by
  induction hs generalizing w with
  | nil => simp [loads] at hr
  | cons h hs ih =>
    rcases List.mem_append.1 hr with hfirst | hmore
    · exact nonneg_of_loaded (hdirect h List.mem_cons_self) (Option.mem_toList.1 hfirst)
    · exact ih (fun h hh => hdirect h (List.mem_cons_of_mem _ hh)) hmore

/-! ### Opening and closing -/

/-- All loads that succeed from the opening on. -/
def allLoads (T : Toolkit) (l : CommandLine.Launch) (d : Device) (hs : List Happening) : List LoadRequest :=
  (openingLoad? T l d).toList ++ (opening T l d).window.loads hs

theorem config_of_opening (T : Toolkit) (l : CommandLine.Launch) (d : Device) (hs : List Happening) :
    ((opening T l d).window.afterwards hs).config = l.config.withLoads (allLoads T l d hs) ∧
      ((opening T l d).window.afterwards hs).configPath = l.configPath := by
  obtain ⟨hfirst, hpath⟩ := (turn_opening T l d).config
  obtain ⟨hmore, hsame⟩ := (opening T l d).window.config_afterwards hs
  refine ⟨hmore.trans ?_, hsame.trans hpath⟩
  rw [hfirst, allLoads]
  cases openingLoad? T l d <;> rfl

theorem request_of_openingLoad? {l : CommandLine.Launch} (h : openingLoad? T l d = some r) : l.request = some r := by
  unfold openingLoad? at h
  split at h
  · simp at h
  · exact (Option.filter_eq_some_iff.1 h).1

theorem nonneg_of_mem_allLoads {l : CommandLine.Launch} {hs : List Happening}
    (hrequest : ∀ r, l.request = some r → r.Nonneg) (hdirect : ∀ h ∈ hs, ∀ r, h.event = .load r → r.Nonneg)
    (hr : r ∈ allLoads T l d hs) : r.Nonneg := by
  rcases List.mem_append.1 hr with hfirst | hmore
  · exact hrequest r (request_of_openingLoad? (Option.mem_toList.1 hfirst))
  · exact nonneg_of_mem_loads hdirect hmore

/-- The window is closed, or the escape key closes it. -/
def Closes (w : Workbench T) (e : Event) : Prop :=
  e = .close ∨ w.hasFocus = false ∧ ∃ t, e = .key .escape t

theorem reply_of_closes (hcloses : w.Closes h.event) : w.reply h = w.close h.device := by
  obtain ⟨d, user, event⟩ := h
  rcases hcloses with rfl | ⟨hfocus, t, rfl⟩
  · rfl
  · change w.press d user .escape t = _
    unfold press
    rw [hfocus]
    rfl

/-- Closing leaves a file of the configuration. -/
theorem load_of_close (hvalid : w.config.Valid) (hcount : w.config.Countable) (hdepth : 0 < d.depth) {file : Path}
    (hfile : Config.fileAt d w.configPath = .ok file) (hwritable : d.Writable file) :
    (w.close d).result = .ok none ∧ Config.load (w.close d).device (some w.configPath) = .ok w.config ∧
      (w.configPath = Config.defaultPath → Config.load (w.close d).device none = .ok w.config) := by
  have hclose : w.close d = .passing { w with isAttached := false, isClosed := true }
      (d.put file.place (.file (Utf8.encode w.config.write.1))) .close := by
    unfold close
    rw [Config.save_of_writable hfile hwritable, Config.write_of_countable hcount]
    rfl
  rw [hclose]
  refine ⟨rfl, Config.load_of_written hvalid hcount hdepth hwritable hfile, fun hpath => ?_⟩
  rw [hpath] at hfile
  obtain rfl := Except.ok.inj ((Config.fileAt_defaultPath d).symm.trans hfile)
  exact Config.load_of_written hvalid hcount hdepth hwritable rfl

end Workbench

/-- What is typed into the dialog for three lines. -/
def threeLinesInput : DialogInput :=
  ⟨none, some "three.lst", some "0x1004", some "0x100C", some "0x8000", true⟩

theorem loads_threeLines :
    Workbench.allLoads .plain idleLaunch threeLinesDevice [⟨threeLinesDevice, threeLinesInput, .click .load⟩] =
      [threeLinesRequest] := by
  have hasked : (Workbench.launched .plain idleLaunch).1.asked threeLinesInput = some threeLinesRequest := by rfl
  have hok : ((Workbench.launched .plain idleLaunch).1.session.load threeLinesDevice threeLinesRequest).result =
      .ok () :=
    (Session.load_of_program? _ program?_threeLines (by decide) (by decide) (by decide)).1
  have hloaded : (Workbench.launched .plain idleLaunch).1.loaded? ⟨threeLinesDevice, threeLinesInput, .click .load⟩ =
      some threeLinesRequest := by
    change ((Workbench.launched .plain idleLaunch).1.asked threeLinesInput).filter _ = _
    rw [hasked, Option.filter_some, if_pos (Workbench.succeeds_eq_true_iff.2 hok)]
  exact congrArg (fun r => r.toList ++ []) hloaded

end Stepper.Desktop
