import Stepper.Proofs.Asm.LineComment
import Stepper.Proofs.Machine.Loading

/-! Loading a source with a line comment and without it. -/

namespace Stepper

open Asm Text

namespace Emulator

theorem listingOf_congr {text text' : Text} (hplain : isAddressListing text = false)
    (hplain' : isAddressListing text' = false) (hread : Source.read text = Source.read text') (path path' : Text)
    (pcStart : Int) : (listingOf path text pcStart).2 = (listingOf path' text' pcStart).2 := by
  simp only [listingOf, hplain, hplain', Bool.false_eq_true, if_false, prepare, hread]

/-- A machine takes over the listing in a file or refuses it, and the name of the file is no part of that. -/
theorem load_listing_congr (e : Emulator) {d d' : Device} {path path' text text' : Text} {pcStart : Int} (spStart : Int)
    (hroom : d'.room = d.room) (htext : readText d path = .ok text) (htext' : readText d' path' = .ok text')
    (hlist : (listingOf path text pcStart).2 = (listingOf path' text' pcStart).2) :
    (e.load d path pcStart spStart).state = (e.load d' path' pcStart spStart).state ∧
      (e.load d path pcStart spStart).result = (e.load d' path' pcStart spStart).result := by
  cases hlist' : (listingOf path' text' pcStart).2 with
  | error cause => simp [load, htext, htext', hlist, hlist', Outcome.error]
  | ok l =>
    obtain ⟨hstate, hresult⟩ := e.load_of_listing spStart htext (hlist.trans hlist')
    obtain ⟨hstate', hresult'⟩ := e.load_of_listing spStart htext' hlist'
    obtain ⟨hinstall, hcleared⟩ := e.install_eq path l pcStart spStart d.room
    obtain ⟨hinstall', hcleared'⟩ := e.install_eq path' l pcStart spStart d.room
    rw [hroom] at hstate' hresult'
    exact ⟨by rw [hstate, hinstall, hstate', hinstall'], by rw [hresult, hcleared, hresult', hcleared']⟩

theorem notMem_of_readText {d : Device} {path text : Text} (h : readText d path = .ok text) : '\r' ∉ text := by
  unfold readText at h
  dsimp only at h
  split at h
  · simp at h
  · split at h
    · simp at h
    · next bytes _ =>
      cases hread : Utf8.readText bytes with
      | error cause => simp [hread, Except.mapError] at h
      | ok t =>
        rw [hread] at h
        obtain rfl := Except.ok.inj h
        exact Utf8.notMem_readText hread

end Emulator

open Emulator

/-- A line comment that lies outside of block comments, opens none that goes over the end of its line and joins no slash
in front of it is inert: with it and without it a plain source is loaded to the same machine, or is refused for the same
cause. That a source is plain does not depend on the comment either. -/
theorem line_comments_are_inert {front mark body behind : Text} (h : LineComment front mark body behind) {d d' : Device}
    (hroom : d'.room = d.room) {path path' : Text} (hwith : readText d path = .ok (front ++ (mark ++ (body ++ behind))))
    (hwithout : readText d' path' = .ok (front ++ behind)) :
    ((mark = ['/', '/'] → ¬ LooseSlash (lastLine front)) →
      isAddressListing (front ++ (mark ++ (body ++ behind))) = isAddressListing (front ++ behind)) ∧
    (isAddressListing (front ++ (mark ++ (body ++ behind))) = false → isAddressListing (front ++ behind) = false →
      ∀ (e : Emulator) (pcStart spStart : Int),
        (e.load d path pcStart spStart).state = (e.load d' path' pcStart spStart).state ∧
          (e.load d path pcStart spStart).result = (e.load d' path' pcStart spStart).result) := by
  have hreturn := notMem_of_readText hwithout
  refine ⟨h.isAddressListing_eq hreturn, fun hplain hplain' e pcStart spStart => ?_⟩
  exact e.load_listing_congr spStart hroom hwith hwithout (listingOf_congr hplain hplain' (h.read_eq hreturn) path path' pcStart)

/-- A line with a block comment in front, and a line behind it. -/
def notedFront : Text := "nop /* one */ "

def notedBehind : Text := "\nb 0\n"

/-- The same source without a comment at the end of its first line and with one, which has a block comment in it. -/
def notedDevice : Device where
  working := "/"
  scratch := []
  nodes := [(["bare.s".toList], .file (Utf8.encode (notedFront ++ notedBehind))),
    (["noted.s".toList], .file (Utf8.encode (notedFront ++ ("//" ++ (" two /* three */" ++ notedBehind)))))]
  room := 0x10000
  depth := 100

theorem dropBlocks_notedFront : dropBlocks notedFront = "nop  " := by
  have hopens : OpensBlock "/* one */ " " " := ⟨" one */ ", rfl, rfl⟩
  have hfront : Uncovered ("nop ".toList ++ "/* one */ ") "/* one */ " := uncovered_of_unopened (by decide) (by decide)
  change dropBlocks ("nop ".toList ++ "/* one */ ") = _
  rw [dropBlocks_append hfront, hopens.dropBlocks_eq, dropBlocks_of_unclosed (by decide), dropBlocks_of_unclosed (by decide)]
  rfl

theorem lineComment_noted : LineComment notedFront ['/', '/'] " two /* three */" notedBehind where
  marked := .inl rfl
  unbroken := by decide
  ends c hc := by
    obtain rfl : '\n' = c := Option.some.inj hc
    decide
  starts := by
    let rest := ['/', '/'] ++ (" two /* three */".toList ++ notedBehind)
    have hfront : Uncovered ("nop ".toList ++ ("/* one */ ".toList ++ rest)) ("/* one */ ".toList ++ rest) :=
      uncovered_of_unopened (by decide) (by decide)
    have hblock : Uncovered ("/* one */ ".toList ++ rest) (" ".toList ++ rest) := .block ⟨_, rfl, rfl⟩ (.here _)
    exact hfront.trans (hblock.trans (uncovered_of_unopened (by decide) (by decide)))
  stands := uncovered_of_unopened (by decide) (by decide)
  closes := by
    have hfront : Uncovered (" two ".toList ++ ("/* three */".toList ++ notedBehind)) ("/* three */".toList ++ notedBehind) :=
      uncovered_of_unopened (by decide) (by decide)
    exact hfront.trans (.block ⟨_, rfl, rfl⟩ (.here notedBehind))
  apart _ h := by
    rw [dropBlocks_notedFront] at h
    exact absurd h.2 (by decide)

theorem plain_noted : isAddressListing (notedFront ++ notedBehind) = false := by
  have hlines : lines (notedFront ++ notedBehind) = [notedFront, "b 0".toList] := by decide
  have hcut : cutAt [';'] (cutAt ['/', '/'] notedFront) = notedFront := by decide
  have hfree : stripComment "b 0".toList = "b 0".toList := stripComment_of_commentFree (by unfold CommentFree; decide)
  rw [isAddressListing, hlines, List.any_cons, List.any_cons, List.any_nil, Line.read, Line.read, hfree, stripComment, hcut,
    dropBlocks_notedFront]
  decide

theorem noted_loads_as_bare :
    LineComment notedFront ['/', '/'] " two /* three */" notedBehind ∧
      let bare := (create 0x100).load notedDevice "bare.s" 0x1000 0x8000
      let noted := (create 0x100).load notedDevice "noted.s" 0x1000 0x8000
      noted.state = bare.state ∧ noted.result = bare.result ∧ bare.result = .ok () := by
  refine ⟨lineComment_noted, ?_⟩
  intro bare noted
  have hbare : readText notedDevice "bare.s" = .ok (notedFront ++ notedBehind) :=
    readText_of_encoded (by decide) (by decide) (by decide)
  have hnoted : readText notedDevice "noted.s" = .ok (notedFront ++ (['/', '/'] ++ (" two /* three */" ++ notedBehind))) :=
    readText_of_encoded (by decide) (by decide) (by decide)
  obtain ⟨hplain, hload⟩ := line_comments_are_inert lineComment_noted rfl hnoted hbare
  have hloose : ¬ LooseSlash (lastLine notedFront) := fun h => absurd h.2 (by decide)
  have hsame := hload ((hplain fun _ => hloose).trans plain_noted) plain_noted (create 0x100) 0x1000 0x8000
  refine ⟨hsame.1, hsame.2, ?_⟩
  obtain ⟨-, hresult⟩ := (create 0x100).load_of_listing 0x8000 hbare (@listingOf_plain "bare.s" _ 0x1000 plain_noted)
  refine hresult.trans (((create 0x100).install_eq "bare.s" _ _ 0x8000 _).2.trans ?_)
  rw [reset_ok (by decide) (by decide) (by decide)]
  rfl

end Stepper
