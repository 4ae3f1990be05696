import Stepper.Proofs.Desktop.Turn

/-! What the window shows is the session. A part of the screen is drawn again whenever the session it shows may have
changed, as long as every handler returns. -/

namespace Stepper.Desktop

variable {T : Toolkit}

namespace Workbench

variable {w : Workbench T} {d : Device}

/-- The window shows its session, in tables with all their columns. -/
structure Faithful (w : Workbench T) : Prop where
  shaped : w.screen.Shaped
  shows : w.screen.Shows w.session

section

variable (hT : T.Lawful)

include hT

theorem faithful_update (hw : w.screen.Shaped) (hs : w.session.Presentable) : w.update.1.Faithful :=
  ⟨hw.update hT hs, Screen.shows_update hT hw hs⟩

/-- A new window, once it is drawn without a fault. -/
theorem faithful_launched (l : CommandLine.Launch) (h : (launched T l).2 = .ok ()) : (launched T l).1.Faithful := by
  refine faithful_update hT (Screen.shaped_blank hT) ?_
  rcases result_update (create T l.session l.config l.configPath l.verbose) with ⟨hs, -⟩ | ⟨-, hfault⟩
  · exact hs
  · exact absurd (hfault.symm.trans h) nofun

/-- A turn that no fault gets out of leaves a window that shows its session. -/
theorem Turn.faithful {reply : Reply T} {loaded : Option LoadRequest} (hw : w.Faithful)
    (hturn : Turn w d reply loaded) (hreturns : ∀ f, reply.result ≠ .error f) : reply.window.Faithful := by
  cases hturn with
  | rests window => exact window ▸ hw
  | closes window => exact window ▸ ⟨hw.shaped, hw.shows⟩
  | draws commands v tables window fault =>
    have hshaped : v.Shaped :=
      ⟨tables.registers ▸ hw.shaped.registerRows, tables.registers ▸ hw.shaped.registerColumns,
        tables.stack ▸ hw.shaped.stackColumns⟩
    rw [window]
    refine faithful_update hT hshaped (not_not.1 fun hs => ?_)
    obtain ⟨f, hf⟩ := fault hs
    exact hreturns f hf
  | drawsInputs commands fields only window =>
    rw [window, only]
    exact ⟨⟨hw.shaped.registerRows, hw.shaped.registerColumns, hw.shaped.stackColumns⟩, hw.shows.updateInputs fields⟩
  | escapes commands window fault =>
    obtain ⟨f, hf⟩ := fault
    exact absurd hf (hreturns f)
  | @loads r ok window =>
    rw [window]
    exact faithful_update hT ⟨hw.shaped.registerRows, hw.shaped.registerColumns, hw.shaped.stackColumns⟩
      (Session.presentable_of_loading (c := .load d r) rfl)

end

/-- No fault gets out of any of the events. -/
def Returns (w : Workbench T) : List Happening → Prop
  | [] => True
  | h :: hs => (∀ f, (w.reply h).result ≠ .error f) ∧ (w.reply h).window.Returns hs

theorem faithful_afterwards (hT : T.Lawful) (hw : w.Faithful) {hs : List Happening} (hreturns : w.Returns hs) :
    (w.afterwards hs).Faithful := by
  induction hs generalizing w with
  | nil => exact hw
  | cons h hs ih => exact ih ((w.turn_reply h).faithful hT hw hreturns.1) hreturns.2

end Workbench

end Stepper.Desktop
