import Stepper.Desktop.Workbench
import Stepper.Proofs.CommandLine.Run
import Stepper.Proofs.Files.Device

/-! Writing the page of a session. Whatever goes wrong on the way, and wherever, the page is written as a whole or the
device is as it was; the session is only read. A command line changes nothing but the page it writes. There is one
exception: where the system refuses to remove the scratch file of an export that failed, that file stays, and the error
tells only of it. -/

namespace Stepper

open Device Snapshot

variable {d : Device} {m : Mishaps}

/-- A page is written and its path is the answer, or nothing is written and the error names the path. -/
def AllOrNothing (d : Device) (target : Path) (page : List UInt8) (o : Outcome Device ExportError Path) : Prop :=
  (o.result = .ok target ∧ Replaced d o.state target page) ∨
  ((∃ cause, o.result = .error (.unwritable (target.render d.working) cause)) ∧ o.state = d)

/-- An export has failed and so has the removal of its scratch file. Apart from that file the device is as it was. -/
def Abandoned (d : Device) (target : Path) (m : Mishaps) (o : Outcome Device ExportError Path) : Prop :=
  ∃ reason, m.removing = some reason ∧
    o.result = .error (.fault (.leftover ⟨.refused reason, some ((scratchPath target d.scratch).render d.working), none⟩)) ∧
    LeftOver d o.state target

namespace Snapshot

def pageOf (s : Session) : List UInt8 :=
  Utf8.encode (render s)

theorem write_of_null {s : Session} {path : Option Text} (hnull : (exportTarget s path).hasNull = true) :
    write s d path m = .error d [] (.fault .nullInPath) :=
  if_pos hnull

theorem write_cases (s : Session) (path : Option Text) (m : Mishaps) (hnull : (exportTarget s path).hasNull = false)
    (hfresh : d.Fresh (exportTarget s path)) :
    AllOrNothing d (exportTarget s path) (pageOf s) (write s d path m) ∨
      Abandoned d (exportTarget s path) m (write s d path m) := by
  have hends := ends_replace hfresh (Utf8.encode (render s)) m
  unfold write
  rw [if_neg (by simp [hnull])]
  generalize d.replace (exportTarget s path) (Utf8.encode (render s)) m = replaced at hends
  cases hends with
  | done replaced => exact .inl (.inl ⟨rfl, replaced⟩)
  | failed cause => exact .inl (.inr ⟨⟨cause, rfl⟩, rfl⟩)
  | leftover refused stays => exact .inr ⟨_, refused, rfl, stays⟩

/-- Without an error the page is there. -/
theorem write_eq_ok (hfresh : ∀ target, d.Fresh target) {s : Session} {path : Option Text} {written : Path}
    (h : (write s d path m).result = .ok written) :
    Replaced d (write s d path m).state (exportTarget s path) (pageOf s) := by
  cases hnull : (exportTarget s path).hasNull with
  | true =>
    rw [write_of_null hnull] at h
    simp [Outcome.error] at h
  | false =>
    rcases write_cases s path m hnull (hfresh _) with (⟨-, hreplaced⟩ | ⟨⟨cause, hresult⟩, -⟩) | ⟨reason, -, hresult, -⟩
    · exact hreplaced
    · simp [hresult] at h
    · simp [hresult] at h

/-- With an error the device is as it was, but for a scratch file that cannot be removed. -/
theorem write_eq_error (hfresh : ∀ target, d.Fresh target) {s : Session} {path : Option Text} {e : ExportError}
    (h : (write s d path m).result = .error e) :
    (write s d path m).state = d ∨ Abandoned d (exportTarget s path) m (write s d path m) := by
  cases hnull : (exportTarget s path).hasNull with
  | true => exact .inl (by rw [write_of_null hnull, Outcome.error])
  | false =>
    rcases write_cases s path m hnull (hfresh _) with (⟨hresult, -⟩ | ⟨-, hstate⟩) | habandoned
    · simp [hresult] at h
    · exact .inl hstate
    · exact .inr habandoned

end Snapshot

namespace Desktop.Workbench

variable {T : Toolkit}

/-- The window is only read, and the device is that of the export. -/
theorem writePage_eq (w : Workbench T) (d : Device) (m : Mishaps) :
    (w.writePage d m).window = w ∧ (w.writePage d m).device = (Snapshot.write w.session d none m).state := by
  unfold writePage
  dsimp only
  split <;> exact ⟨rfl, rfl⟩

end Desktop.Workbench

namespace CommandLine

/-- A run ends with the code 0 and has written just the page of a session. -/
def WritesPage (d : Device) (s : Session) (target : Text) (report : Report) : Prop :=
  report.ending = .exit 0 ∧ Replaced d report.device (snapshotPath s target) (pageOf s)

/-- A run ends without the code 0 and has written nothing. -/
def WritesNothing (d : Device) (report : Report) : Prop :=
  report.ending ≠ .exit 0 ∧ report.device = d

/-- A run ends in the fault that the scratch file for a target cannot be removed. -/
def LeavesScratch (d : Device) (m : Mishaps) (report : Report) : Prop :=
  m.removing.isSome ∧ (∃ cause, report.ending = .fault (.leftover cause)) ∧ ∃ target, LeftOver d report.device target

theorem writePage_cases (hfresh : ∀ target, d.Fresh target) (s : Session) (r : LoadRequest) (target : Text) :
    WritesNothing d (writePage s d r target m) ∨ LeavesScratch d m (writePage s d r target m) ∨
    (s.load d r).result = .ok () ∧ WritesPage d (s.load d r).state target (writePage s d r target m) := by
  have hpaging := paging_writePage s d r target m
  revert hpaging
  generalize writePage s d r target m = report
  rintro (⟨hload⟩ | ⟨hload, -⟩ | ⟨hload, hwrite⟩ | ⟨hload, hwrite, hforeseen⟩ | ⟨hload, hwrite⟩)
  · exact .inl ⟨by simp [Report.failed], rfl⟩
  · exact .inl ⟨by simp, rfl⟩
  · rcases write_eq_error hfresh hwrite with hstate | ⟨reason, hrefused, hresult, hstays⟩
    · exact .inl ⟨by simp [Report.failed], hstate⟩
    · obtain rfl := ExportError.fault.inj (Except.error.inj (hwrite.symm.trans hresult))
      exact .inr (.inl ⟨by simp [hrefused], ⟨_, rfl⟩, _, hstays⟩)
  · rcases write_eq_error hfresh hwrite with hstate | ⟨reason, -, hresult, -⟩
    · exact .inl ⟨by simp, hstate⟩
    · exact absurd (Except.error.inj (hwrite.symm.trans hresult)) (hforeseen _)
  · exact .inr (.inr ⟨hload, rfl, write_eq_ok hfresh hwrite⟩)

/-- What a run with a page to write comes to: nothing is written, the scratch file of the page stays, or the page of the
program that was loaded is written. -/
def Headless (s : Settings) (d : Device) (m : Mishaps) (target : Text) (report : Report) : Prop :=
  WritesNothing d report ∨ LeavesScratch d m report ∨
  ∃ c r, Config.load d s.config.value? = .ok c ∧ s.requested c = some r ∧
    ((freshSession c).load d r).result = .ok () ∧ WritesPage d ((freshSession c).load d r).state target report

variable {s : Settings} {c : Config} {target : Text} {report : Report}

theorem headless_onward (hfresh : ∀ target, d.Fresh target) (htarget : s.snapshot = some target)
    (hload : Config.load d s.config.value? = .ok c) (h : s.Onward d c m report) : Headless s d m target report := by
  cases h with
  | blank => exact .inl ⟨by simp [Report.failed], rfl⟩
  | idle => exact .inl ⟨by simp [Report.complaint], rfl⟩
  | window _ hwindow => simp [htarget] at hwindow
  | page hrequest _ htarget' =>
    obtain rfl := Option.some.inj (htarget.symm.trans htarget')
    rcases writePage_cases hfresh _ _ _ with hnothing | hscratch | ⟨hloaded, hpage⟩
    · exact .inl hnothing
    · exact .inr (.inl hscratch)
    · exact .inr (.inr ⟨c, _, hload, hrequest, hloaded, hpage⟩)

theorem headless_course (hfresh : ∀ target, d.Fresh target) (htarget : s.snapshot = some target)
    (hlist : s.listInstructions = false) (h : s.Course d m report) : Headless s d m target report := by
  cases h with
  | lists htrue => simp [hlist] at htrue
  | blank => exact .inl ⟨by simp [Report.failed], rfl⟩
  | refused => exact .inl ⟨by simp [Report.complaint], rfl⟩
  | fault => exact .inl ⟨by simp [Report.failed], rfl⟩
  | onward _ _ hload honward =>
    -- what is shown of the log has no part in it
    have hheadless := headless_onward hfresh htarget hload honward
    exact hheadless

/-- Without a page to write nothing is written. -/
theorem device_of_course (h : s.Course d m report) (hnone : s.snapshot = none ∨ s.listInstructions = true) :
    report.device = d := by
  cases h with
  | lists => rfl
  | blank => rfl
  | refused => rfl
  | fault => rfl
  | onward hlist _ _ honward =>
    cases honward with
    | blank => rfl
    | idle => rfl
    | window => rfl
    | page _ _ htarget => simp [htarget, hlist] at hnone

/-- What a run leaves alone, and what it writes. -/
theorem run_writes (hfresh : ∀ target, d.Fresh target) (arguments : List Text) :
    ((run arguments d m).ending ≠ .exit 0 →
      (run arguments d m).device = d ∨ LeavesScratch d m (run arguments d m)) ∧
    ∀ s, Settings.read arguments = .ok s →
      (s.snapshot = none ∨ s.listInstructions = true → (run arguments d m).device = d) ∧
      ∀ target, s.snapshot = some target → s.listInstructions = false → Headless s d m target (run arguments d m) := by
  unfold run
  cases hread : Settings.read arguments with
  | error stop => cases stop <;> exact ⟨fun _ => .inl rfl, by simp⟩
  | ok s =>
    have hcourse : s.Course d m (s.run d m) := Settings.course_run
    dsimp only
    refine ⟨fun hexit => ?_, fun s' hs => ?_⟩
    · by_cases hnone : s.snapshot = none ∨ s.listInstructions = true
      · exact .inl (device_of_course hcourse hnone)
      · rw [not_or, Bool.not_eq_true] at hnone
        obtain ⟨target, htarget⟩ := Option.ne_none_iff_exists'.1 hnone.1
        rcases headless_course hfresh htarget hnone.2 hcourse with hnothing | hscratch | ⟨c, r, -, -, -, hpage⟩
        · exact .inl hnothing.2
        · exact .inr hscratch
        · exact absurd hpage.1 hexit
    · obtain rfl := Except.ok.inj hs
      exact ⟨device_of_course hcourse, fun target htarget hlist => headless_course hfresh htarget hlist hcourse⟩

end CommandLine

/-- An export returns its target, which then holds just the page while everything else is as it was, or it fails with
an error that names the target and leaves the device as it was, wherever it fails. Only where the system refuses to remove
the scratch file of a failed export does that file stay, with everything else as it was and an error that names it. The
window of a session is not changed by an export. A command line that does not end with code 0 leaves the device as it was,
but for such a scratch file, and one that does has written the page of the program it loaded, if it was to write one, and
nothing else. -/
theorem export_is_all_or_nothing (d : Device) (m : Mishaps) :
    (∀ (s : Session) (path : Option Text), (exportTarget s path).hasNull = false → d.Fresh (exportTarget s path) →
      AllOrNothing d (exportTarget s path) (pageOf s) (Snapshot.write s d path m) ∨
        Abandoned d (exportTarget s path) m (Snapshot.write s d path m)) ∧
    (∀ (T : Desktop.Toolkit) (w : Desktop.Workbench T), (w.writePage d m).window = w ∧
      (w.writePage d m).device = (Snapshot.write w.session d none m).state) ∧
    ((∀ target, d.Fresh target) → ∀ arguments,
      let report := CommandLine.run arguments d m
      (report.ending ≠ .exit 0 → report.device = d ∨ CommandLine.LeavesScratch d m report) ∧
      ∀ s, CommandLine.Settings.read arguments = .ok s →
        (s.snapshot = none ∨ s.listInstructions = true → report.device = d) ∧
        ∀ target, s.snapshot = some target → s.listInstructions = false → CommandLine.Headless s d m target report) := by
  refine ⟨fun s path hnull hfresh => ?_, fun T w => w.writePage_eq d m, fun hfresh => CommandLine.run_writes hfresh⟩
  exact Snapshot.write_cases s path m hnull hfresh

/-- A device with an earlier page in a folder, and a program of one `nop`. -/
def pagesDevice : Device where
  working := "/"
  scratch := []
  nodes := [(["pages".toList], .folder), (["pages".toList, "old.html".toList], .file [0x31]),
    (["one.s".toList], .file (Utf8.encode "nop"))]
  room := 0x10000
  depth := 100

/-- The device is full when three bytes of a page are written. -/
def fullDevice : Mishaps where
  filling := some (3, "[Errno 28] No space left on device")

/-- And its folders are frozen. -/
def frozenDevice : Mishaps :=
  { fullDevice with removing := some "[Errno 1] Operation not permitted" }

theorem fresh_pagesDevice (target : Path) : pagesDevice.Fresh target :=
  fresh_of_slashless (by decide) target

theorem old_page_survives_full_device :
    let s := CommandLine.freshSession Config.standard
    let write := fun m : Mishaps => Snapshot.write s pagesDevice (some "pages/old.html") m
    let target := Path.ofText "pages/old.html"
    (exportTarget s (some "pages/old.html")).hasNull = false ∧ pagesDevice.Fresh (exportTarget s (some "pages/old.html")) ∧
    ((write {}).result = .ok target ∧ Replaced pagesDevice (write {}).state target (pageOf s)) ∧
    ((∃ cause, (write fullDevice).result = .error (.unwritable "pages/old.html" cause)) ∧
      (write fullDevice).state = pagesDevice) ∧
    Abandoned pagesDevice target frozenDevice (write frozenDevice) := by
  intro s write target
  have hnull : (exportTarget s (some "pages/old.html")).hasNull = false := by decide
  have hresults : (write {}).result = .ok target ∧ (∃ cause, (write fullDevice).result = .error (.unwritable "pages/old.html" cause)) ∧
      ∃ cause, (write frozenDevice).result = .error (.fault (.leftover cause)) :=
    ⟨by rfl, ⟨_, rfl⟩, ⟨_, rfl⟩⟩
  obtain ⟨hquiet, ⟨full, hfull⟩, ⟨frozen, hfrozen⟩⟩ := hresults
  have hcases := fun m => (export_is_all_or_nothing pagesDevice m).1 s (some "pages/old.html") hnull (fresh_pagesDevice _)
  refine ⟨hnull, fresh_pagesDevice _, ?_, ?_, ?_⟩
  · rcases hcases {} with (hall | ⟨⟨cause, hresult⟩, -⟩) | ⟨reason, hreason, -⟩
    · exact hall
    · exact absurd (hquiet.symm.trans hresult) (by simp)
    · simp at hreason
  · rcases hcases fullDevice with (⟨hresult, -⟩ | hnothing) | ⟨reason, hreason, -⟩
    · exact absurd (hfull.symm.trans hresult) (by simp)
    · exact hnothing
    · simp [fullDevice] at hreason
  · rcases hcases frozenDevice with (⟨hresult, -⟩ | ⟨⟨cause, hresult⟩, -⟩) | habandoned
    · exact absurd (hfrozen.symm.trans hresult) (by simp)
    · exact absurd (hfrozen.symm.trans hresult) (by simp)
    · exact habandoned

/-- A command line for a page that asks for the list of instructions as well. -/
def listedArguments : List Text := ["--export", "new.html", "--list-instructions", "one.s"]

theorem read_listedArguments : CommandLine.Settings.read listedArguments =
    .ok ⟨some "one.s", .unset, .unset, .unset, .unset, some "new.html", true, false⟩ := by
  have harguments : CommandLine.readArguments listedArguments =
      .ok [.option .snapshot false none, .word "new.html", .option .listInstructions false none, .word "one.s"] := by rfl
  rw [CommandLine.Settings.read, harguments]
  simp [Except.mapError, bind, Except.bind, CommandLine.Progress.readAll, CommandLine.Progress.apply,
    CommandLine.Progress.initial, CommandLine.Flag.arity, CommandLine.Progress.takeFile, pure, Except.pure]

/-- Two ways in which a page is neither written nor refused: a command line that lists the instructions ends with code 0
before it comes to its page, and where the scratch file cannot be removed an export fails with another error. -/
theorem neither_written_nor_refused :
    let listed := CommandLine.run listedArguments pagesDevice
    let target := Path.ofText "pages/old.html"
    let page := pageOf (CommandLine.freshSession Config.standard)
    (listed.ending = .exit 0 ∧ ∀ page, ¬ Replaced pagesDevice listed.device (Path.ofText "new.html") page) ∧
      ¬ AllOrNothing pagesDevice target page
        (Snapshot.write (CommandLine.freshSession Config.standard) pagesDevice (some "pages/old.html") frozenDevice) := by
  intro listed target page
  have hlisted : listed = ⟨CommandLine.instructionList, [], pagesDevice, .exit 0⟩ := by
    simp only [listed, CommandLine.run, read_listedArguments]
    rfl
  have hfrozen : ∃ cause, (Snapshot.write (CommandLine.freshSession Config.standard) pagesDevice (some "pages/old.html")
      frozenDevice).result = .error (.fault (.leftover cause)) := ⟨_, rfl⟩
  obtain ⟨cause, hfrozen⟩ := hfrozen
  refine ⟨⟨by rw [hlisted], fun page hreplaced => ?_⟩, ?_⟩
  · -- nothing is at the target
    have hmissing : pagesDevice.lookup (Path.ofText "new.html") = .ok (["new.html".toList], none) := by rfl
    have hcontent := hreplaced.content
    rw [hlisted, hmissing] at hcontent
    simp at hcontent
  · rintro (⟨hresult, -⟩ | ⟨⟨cause', hresult⟩, -⟩)
    · exact absurd (hfrozen.symm.trans hresult) (by simp)
    · exact absurd (hfrozen.symm.trans hresult) (by simp)

end Stepper
