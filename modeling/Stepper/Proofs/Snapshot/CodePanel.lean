import Stepper.Proofs.Numeral.Hex
import Stepper.Proofs.Session.Code
import Stepper.Proofs.Snapshot.Html
import Stepper.Snapshot.Page

/-! The panel of the code in a page. No line of a program has a line break in it, and escaping leaves no markup of a line,
so the panel can be read back: row by row it shows the addresses and the lines, and the marked one. -/

namespace Stepper

open Asm Html Numeral Snapshot Text

/-! ### Lines of a program -/

/-- No line of the code has a line feed in it, in whatever way it got there. -/
theorem Session.lineFeed_notMem_reached (stackSize : Int) (layout : Layout) (commands : List Command) :
    ∀ line ∈ (reached stackSize layout commands).machine.code, '\n' ∉ line :=
  fun line hline hbreak => absurd ((final_reached stackSize layout commands line hline).unbroken _ hbreak) (by decide)

/-! ### Rows -/

namespace Snapshot

/-- A row without the mark of the current line. -/
def plainRow (line : CodeLine) : Text :=
  column natHexUpper 4 line.address ++ (": " ++ escape line.text)

def openSpan : Text := "<span class='highlight'>"

def closeSpan : Text := "</span>"

theorem highlighted_eq (row : Text) : highlighted row = openSpan ++ (row ++ closeSpan) :=
  List.append_assoc _ _ _

theorem codeRow_eq (line : CodeLine) : codeRow line = if line.current then highlighted (plainRow line) else plainRow line := by
  simp [codeRow, plainRow]

theorem inert_of_isHexDigit {c : Char} (h : isHexDigit c = true) : Inert c := by
  refine ⟨?_, ?_, ?_, ?_⟩ <;> rintro rfl <;> exact absurd h (by decide)

theorem inert_of_mem_plainRow {line : CodeLine} : ∀ c ∈ plainRow line, Inert c := by
  have hcolon : ∀ c ∈ (": " : Text), Inert c := by decide
  intro c hc
  rcases List.mem_append.1 hc with hc | hc
  · rcases mem_column_natHexUpper hc with rfl | hc
    · decide
    · exact inert_of_isHexDigit hc
  · rcases List.mem_append.1 hc with hc | hc
    · exact hcolon c hc
    · exact inert_of_mem_escape hc

theorem unescape_plainRow (R : References) (line : CodeLine) :
    R.unescape (plainRow line) = column natHexUpper 4 line.address ++ (": " ++ line.text) := by
  have hfront : ∀ c ∈ column natHexUpper 4 line.address, c ≠ '&' := by
    rintro c hc rfl
    rcases mem_column_natHexUpper hc with hc | hc
    · exact absurd hc (by decide)
    · exact absurd hc (by decide)
  rw [plainRow, R.unescape_append fun h => hfront _ h rfl, R.unescape_append (by decide), R.unescape_escape]

theorem lineFeed_notMem_plainRow {line : CodeLine} (h : '\n' ∉ line.text) : '\n' ∉ plainRow line := by
  intro hc
  rcases List.mem_append.1 hc with hc | hc
  · rcases mem_column_natHexUpper hc with hc | hc
    · exact absurd hc (by decide)
    · exact absurd hc (by decide)
  · rcases List.mem_append.1 hc with hc | hc
    · exact absurd hc (by decide)
    · exact lineFeed_notMem_escape h hc

theorem lineFeed_notMem_codeRow {line : CodeLine} (h : '\n' ∉ line.text) : '\n' ∉ codeRow line := by
  have hplain := lineFeed_notMem_plainRow h
  rw [codeRow_eq]
  split
  · intro hc
    rcases List.mem_append.1 hc with hc | hc
    · rcases List.mem_append.1 hc with hc | hc
      · exact absurd hc (by decide)
      · exact hplain hc
    · exact absurd hc (by decide)
  · exact hplain

/-! ### The panel -/

/-- The line of the code at an index, as it is shown. -/
def lineAt (s : Session) (i : Nat) : CodeLine :=
  ⟨i, s.machine.codeStart + i * instructionSize, s.machine.code[i]?.getD [], s.currentIndex = some (i : Int)⟩

def panelRows (s : Session) : List Text :=
  (List.range s.machine.code.length).map fun i => codeRow (lineAt s i)

theorem codeBody_eq {s : Session} (hs : s.initialized = true) : codeBody s = join "\n" (panelRows s) := by
  have hlines : s.allCode = (List.range s.machine.code.length).map (lineAt s) := by
    rw [Session.allCode, if_pos hs, ← List.filterMap_eq_map]
    refine List.filterMap_congr fun i hi => ?_
    have hlt := List.mem_range.1 hi
    simp [Session.codeLine?, lineAt, List.getElem?_eq_getElem hlt]
  rw [codeBody, if_pos hs, hlines, List.map_map]
  rfl

theorem getElem?_panelRows {s : Session} {i : Nat} {line : Text} (h : s.machine.code[i]? = some line) :
    (panelRows s)[i]? = some (codeRow (lineAt s i)) := by
  have hlt := (List.getElem?_eq_some_iff.1 h).1
  rw [panelRows, List.getElem?_map, List.getElem?_range hlt]
  rfl

theorem lineFeed_notMem_panelRows {s : Session} (h : ∀ line ∈ s.machine.code, '\n' ∉ line) :
    ∀ row ∈ panelRows s, '\n' ∉ row := by
  intro row hrow
  obtain ⟨i, hi, rfl⟩ := List.mem_map.1 hrow
  refine lineFeed_notMem_codeRow ?_
  have hlt := List.mem_range.1 hi
  rw [lineAt, List.getElem?_eq_getElem hlt]
  exact h _ (List.getElem_mem hlt)

/-! ### The page around the panel -/

def openingMark : Text := "<pre id='code-display'>"

def closingMark : Text := "</pre>"

def panelTitle : List Text := ["    <div class='panel' id='code-panel'>", "      <h3>Code</h3>"]

/-- The page in front of the text of the code. -/
def panelFront : Text :=
  unlines (head ++ panelTitle) ++ "      "

/-- The page behind the text of the code. -/
def panelBehind (s : Session) : Text :=
  "\n" ++ unlines ("    </div>".toList :: (registerPanel s ++ memoryPanel s ++ inputPanel ++ foot))

theorem render_eq (s : Session) :
    render s = panelFront ++ (openingMark ++ (codeBody s ++ (closingMark ++ panelBehind s))) := by
  have hmark : ("      <pre id='code-display'>" : Text) = "      " ++ openingMark := rfl
  have hlines : List.flatten [head, codePanel s, registerPanel s, memoryPanel s, inputPanel, foot] =
      (head ++ panelTitle) ++
        ("      " ++ openingMark ++ codeBody s ++ closingMark) ::
          "    </div>".toList :: (registerPanel s ++ memoryPanel s ++ inputPanel ++ foot) := by
    simp only [List.flatten_cons, List.flatten_nil, List.append_nil, List.append_assoc, codePanel, panelTitle, hmark]
    rfl
  rw [render, hlines, unlines_append, unlines_cons, panelFront, panelBehind]
  simp only [List.append_assoc]
  rfl

theorem clear_panelFront : Clear openingMark panelFront := by
  refine clear_of_isClear ?_
  unfold openingMark panelFront panelTitle head styleLines
  repeat rw [String.toList_ofList]
  decide +kernel

theorem clear_join {mark sep : Text} {rows : List Text} (hsep : Clear mark sep) (h : ∀ row ∈ rows, Clear mark row) :
    Clear mark (join sep rows) := by
  induction rows with
  | nil => exact clear_nil
  | cons row rows ih =>
    by_cases hlast : rows = []
    · subst hlast
      rw [join, List.intercalate_singleton]
      exact h row (by simp)
    · rw [join, List.intercalate_cons_of_ne_nil hlast]
      exact ((h row (by simp)).append hsep).append (ih fun row' hrow' => h row' (by simp [hrow']))

theorem clear_codeRow (line : CodeLine) : Clear closingMark (codeRow line) := by
  have hplain : Clear closingMark (plainRow line) := clear_of_head fun h => (inert_of_mem_plainRow _ h).1 rfl
  rw [codeRow_eq]
  split
  · rw [highlighted_eq]
    exact (clear_of_isClear (by decide)).append (hplain.append (clear_of_isClear (by decide)))
  · exact hplain

/-- The text of the code as it is found in a page. -/
def codeText? (page : Text) : Option Text :=
  between? openingMark closingMark page

theorem codeText?_render {s : Session} (hs : s.initialized = true) : codeText? (render s) = some (codeBody s) := by
  have hbody : Clear closingMark (codeBody s) := by
    rw [codeBody_eq hs]
    refine clear_join (clear_of_head (by decide)) fun row hrow => ?_
    obtain ⟨i, -, rfl⟩ := List.mem_map.1 hrow
    exact clear_codeRow _
  rw [render_eq]
  exact between?_eq (by decide) (by decide) clear_panelFront hbody _

/-! ### Tags -/

/-- The tags around a row. -/
def marking (current : Bool) : Text :=
  if current then highlighted [] else []

theorem scan_codeRow {s : Tags} (hs : s.begun = none) (line : CodeLine) :
    s.scan (codeRow line) = s.scan (marking line.current) ∧ (s.scan (marking line.current)).begun = none := by
  rw [codeRow_eq, marking]
  cases line.current with
  | false => exact ⟨Tags.scan_inert hs inert_of_mem_plainRow, hs⟩
  | true =>
    have hopen : (s.scan openSpan).begun = none := s.begun_scan_close "<span class='highlight'"
    rw [if_pos rfl, if_pos rfl, highlighted_eq, highlighted_eq, List.nil_append]
    refine ⟨?_, ?_⟩
    · rw [Tags.scan_append, Tags.scan_append, Tags.scan_append, Tags.scan_inert hopen inert_of_mem_plainRow]
    · rw [Tags.scan_append]
      exact (s.scan openSpan).begun_scan_close "</span"

/-- Which tags a panel has is a matter of which rows are marked. -/
theorem scan_join {s : Tags} (hs : s.begun = none) (lines : List CodeLine) :
    s.scan (join "\n" (lines.map codeRow)) = (lines.map (·.current)).foldl (fun s current => s.scan (marking current)) s := by
  induction lines generalizing s with
  | nil => rfl
  | cons line lines ih =>
    obtain ⟨hrow, hoff⟩ := scan_codeRow hs line
    rw [List.map_cons, List.map_cons, List.foldl_cons, ← ih hoff, ← hrow]
    by_cases hlast : lines = []
    · subst hlast
      rw [List.map_nil, join, List.intercalate_singleton]
      rfl
    · have hne : lines.map codeRow ≠ [] := by simpa using hlast
      rw [join, List.intercalate_cons_of_ne_nil hne, Tags.scan_append, Tags.scan_append,
        Tags.scan_inert (t := "\n") (by rw [hrow, hoff]) (by decide)]
      rfl

end Snapshot

/-- A session that holds other texts in its lines. -/
def Session.withLines (s : Session) (texts : List Text) : Session :=
  { s with machine := { s.machine with listing := { s.machine.listing with lines := texts } } }

namespace Snapshot

theorem begun_front : (tags (panelFront ++ openingMark)).begun = none := by
  rw [tags, Tags.scan_append]
  exact Tags.begun_scan_close _ "<pre id='code-display'"

theorem tags_render {s : Session} (hs : s.initialized = true) :
    tags (render s) = (((List.range s.machine.code.length).map fun i => (lineAt s i).current).foldl
      (fun s current => s.scan (marking current)) (tags (panelFront ++ openingMark))).scan (closingMark ++ panelBehind s) := by
  have hrows : panelRows s = ((List.range s.machine.code.length).map (lineAt s)).map codeRow := by
    rw [List.map_map]
    rfl
  have hcurrent : ((List.range s.machine.code.length).map fun i => (lineAt s i).current) =
      ((List.range s.machine.code.length).map (lineAt s)).map (·.current) := by
    rw [List.map_map]
    rfl
  rw [hcurrent, ← scan_join begun_front, ← hrows, ← codeBody_eq hs, render_eq, tags, tags, ← Tags.scan_append,
    ← Tags.scan_append]
  simp only [List.append_assoc]

/-- The texts of the lines have no part in the tags of a page. -/
theorem tags_withLines {s : Session} (hs : s.initialized = true) {texts : List Text}
    (h : texts.length = s.machine.code.length) : tags (render (s.withLines texts)) = tags (render s) := by
  have hs' : (s.withLines texts).initialized = true := hs
  have hlength : (s.withLines texts).machine.code.length = s.machine.code.length := h
  rw [tags_render hs, tags_render hs', hlength]
  rfl

/-! ### Reading the panel -/

/-- A row shows a line: when the mark of the current line is taken off, and the references are replaced by what they stand
for, it is the address and the line, and nothing else of it is markup. -/
def ShowsLine (R : References) (s : Session) (i : Nat) (line row : Text) : Prop :=
  ∃ text, (∀ c ∈ text, Inert c) ∧
    R.unescape text = column natHexUpper 4 (s.machine.codeStart + i * instructionSize) ++ (": " ++ line) ∧
    row = if (i : Int) = (s.pc - s.machine.codeStart) / instructionSize then highlighted text else text

theorem showsLine_codeRow (R : References) {s : Session} (hs : s.initialized = true) {i : Nat} {line : Text}
    (h : s.machine.code[i]? = some line) : ShowsLine R s i line (codeRow (lineAt s i)) := by
  refine ⟨plainRow (lineAt s i), inert_of_mem_plainRow, ?_, ?_⟩
  · rw [unescape_plainRow, lineAt, h]
    rfl
  · rw [codeRow_eq]
    have hcurrent : (lineAt s i).current = true ↔ (i : Int) = (s.pc - s.machine.codeStart) / instructionSize := by
      simp [lineAt, Session.currentIndex, hs, eq_comm]
    simp only [hcurrent]

/-- With or without the mark, a text without markup can be told from its row. -/
theorem inert_row_inj {text text' : Text} {marked marked' : Prop} [Decidable marked] [Decidable marked']
    (ht : ∀ c ∈ text, Inert c) (hother : ∀ c ∈ text', Inert c)
    (h : (if marked then highlighted text else text) = if marked' then highlighted text' else text') : text = text' := by
  have hmarkup : ∀ t : Text, '<' ∈ highlighted t := by
    intro t
    rw [highlighted_eq]
    exact List.mem_append_left _ (by decide)
  split at h
  · split at h
    · rw [highlighted_eq, highlighted_eq] at h
      exact List.append_cancel_right (List.append_cancel_left h)
    · exact absurd rfl (hother '<' (h ▸ hmarkup text)).1
  · split at h
    · exact absurd rfl (ht '<' (h ▸ hmarkup text')).1
    · exact h

theorem colon_notMem_column (w : Nat) (v : Int) : ':' ∉ column natHexUpper w v := by
  intro h
  rcases mem_column_natHexUpper h with h | h
  · exact absurd h (by decide)
  · exact absurd h (by decide)

/-- What a row shows can be told from the row. -/
theorem ShowsLine.inj {R : References} {s s' : Session} {i : Nat} {line line' row : Text} (h : ShowsLine R s i line row)
    (h' : ShowsLine R s' i line' row) : s.machine.codeStart = s'.machine.codeStart ∧ line = line' := by
  obtain ⟨text, hinert, hread, hrow⟩ := h
  obtain ⟨text', hinert', hread', hrow'⟩ := h'
  obtain rfl := inert_row_inj hinert hinert' (hrow.symm.trans hrow')
  obtain ⟨hcolumn, hline⟩ := append_cons_inj (colon_notMem_column _ _) (colon_notMem_column _ _) (hread.symm.trans hread')
  have haddress := column_natHexUpper_inj hcolumn
  exact ⟨by omega, (List.cons.inj hline).2⟩

/-- The text of a panel shows the code of a session row by row. -/
structure ShowsCode (R : References) (s : Session) (body : Text) : Prop where
  length : (splitOn '\n' body).length = s.machine.code.length
  row : ∀ (i : Nat) (line : Text), s.machine.code[i]? = some line →
    ∃ row, (splitOn '\n' body)[i]? = some row ∧ ShowsLine R s i line row

theorem showsCode_codeBody (R : References) {s : Session} (hs : s.initialized = true) (ne : s.machine.code ≠ [])
    (h : ∀ line ∈ s.machine.code, '\n' ∉ line) : ShowsCode R s (codeBody s) := by
  have hrows : splitOn '\n' (codeBody s) = panelRows s := by
    rw [codeBody_eq hs]
    refine splitOn_join ?_ (lineFeed_notMem_panelRows h)
    simpa [panelRows] using ne
  refine ⟨by simp [hrows, panelRows], fun i line hline => ⟨_, ?_, showsLine_codeRow R hs hline⟩⟩
  rw [hrows, getElem?_panelRows hline]

/-- Two sessions with the same panel have the same code. -/
theorem ShowsCode.inj {R : References} {s s' : Session} {body : Text} (ne : s.machine.code ≠ []) (h : ShowsCode R s body)
    (h' : ShowsCode R s' body) : s'.machine.code = s.machine.code ∧ s'.machine.codeStart = s.machine.codeStart := by
  have hlength : s'.machine.code.length = s.machine.code.length := h'.length.symm.trans h.length
  have hsame : ∀ (i : Nat) (line : Text), s.machine.code[i]? = some line →
      s'.machine.code[i]? = some line ∧ s'.machine.codeStart = s.machine.codeStart := by
    intro i line hline
    obtain ⟨row, hrow, hshows⟩ := h.row i line hline
    have hlt : i < s'.machine.code.length := hlength ▸ (List.getElem?_eq_some_iff.1 hline).1
    obtain ⟨row', hrow', hshows'⟩ := h'.row i _ (List.getElem?_eq_getElem hlt)
    obtain rfl := Option.some.inj (hrow.symm.trans hrow')
    obtain ⟨hstart, rfl⟩ := hshows.inj hshows'
    exact ⟨List.getElem?_eq_getElem hlt, hstart.symm⟩
  obtain ⟨first, rest, hfirst⟩ := List.exists_cons_of_ne_nil ne
  refine ⟨List.ext_getElem? fun i => ?_, (hsame 0 first (by rw [hfirst]; rfl)).2⟩
  cases hline : s.machine.code[i]? with
  | some line => exact (hsame i line hline).1
  | none => exact List.getElem?_eq_none (hlength ▸ List.getElem?_eq_none_iff.1 hline)

end Snapshot

open Session

/-- The text of the code in the page of a ready session has a row for each line. Each row shows the address and the text of its
line, escaped, and is marked just at the index of the program counter. So the code and its start can be read back, and
whatever the lines say, the page has the same tags. -/
theorem code_panel_is_faithful (R : References) (stackSize : Int) (layout : Layout) (commands : List Command) :
    let s := reached stackSize layout commands
    s.initialized = true → s.machine.code ≠ [] →
    ∃ body, codeText? (render s) = some body ∧ ShowsCode R s body ∧
      (∀ (stackSize' : Int) (layout' : Layout) (commands' : List Command),
        let s' := reached stackSize' layout' commands'
        s'.initialized = true → s'.machine.code ≠ [] → codeText? (render s') = some body →
          s'.machine.code = s.machine.code ∧ s'.machine.codeStart = s.machine.codeStart) ∧
      ∀ texts : List Text, texts.length = s.machine.code.length → tags (render (s.withLines texts)) = tags (render s) := by
  intro s hs ne
  have hshows := showsCode_codeBody R hs ne (lineFeed_notMem_reached stackSize layout commands)
  refine ⟨codeBody s, codeText?_render hs, hshows, ?_, fun texts => tags_withLines hs⟩
  intro stackSize' layout' commands' s' hs' ne' hbody
  have hsame : codeBody s' = codeBody s := Option.some.inj ((codeText?_render hs').symm.trans hbody)
  have hshows' := showsCode_codeBody R hs' ne' (lineFeed_notMem_reached stackSize' layout' commands')
  exact hshows.inj ne (hsame ▸ hshows')

/-- The references that escaping uses. -/
def escapeReferences : References where
  named name := [("amp;".toList, ['&']), ("lt;".toList, ['<']), ("gt;".toList, ['>']), ("quot;".toList, ['"'])].lookup name
  coded n := [Char.ofNat n]
  amp := by decide
  lt := by decide
  gt := by decide
  quot := by decide
  apostrophe := by decide

/-- A line that would close its panel and that looks like an escaped one. -/
def markupLine : Text := "</pre>&lt<b>"

def markupText : Text := "1000: 00000000   </pre>&lt<b>\n"

def markupDevice : Device where
  working := "/"
  scratch := []
  room := 0x10000
  depth := 100
  nodes := [(["markup.lst".toList], .file (Utf8.encode markupText))]

def markupRequest : LoadRequest := ⟨"markup.lst", 0x1000, 0x2000, 0x8000⟩

theorem program?_markup : Emulator.program? markupDevice "markup.lst" 0x1000 = some ⟨some 0x1000, [markupLine], []⟩ := by
  have hread : Emulator.readText markupDevice "markup.lst" = .ok markupText :=
    Emulator.readText_of_encoded (by decide) (by decide) (by decide)
  have hlines : lines markupText = ["1000: 00000000   </pre>&lt<b>".toList] := by decide
  have hstrip : stripComment "1000: 00000000   </pre>&lt<b>" = "1000: 00000000   </pre>&lt<b>" :=
    stripComment_of_commentFree (by unfold CommentFree; decide)
  have hlist : (Emulator.listingOf "markup.lst" markupText 0x1000).2 = .ok ⟨some 0x1000, [markupLine], []⟩ := by
    have haddressed : isAddressListing markupText = true := by
      rw [isAddressListing, hlines, List.any_cons, Line.read, hstrip]
      rfl
    rw [Emulator.listingOf, if_pos haddressed]
    simp only [Listing.read, hlines, Listing.placeAll, Listing.place, Line.read, hstrip]
    rfl
  rw [Emulator.program?_of_listing hread hlist]
  rfl

theorem markup_is_shown_as_text :
    let s := reached 0x100 Layout.standard [.load markupDevice markupRequest]
    s.initialized = true ∧ s.machine.code ≠ [] ∧
    ∃ body row, codeText? (render s) = some body ∧ splitOn '\n' body = [row] ∧ ShowsLine escapeReferences s 0 markupLine row := by
  intro s
  obtain ⟨-, hready, -, hmachine⟩ : _ ∧ s.initialized = true ∧ _ ∧ s.machine = _ :=
    (Session.create (Emulator.create 0x100) Layout.standard).load_of_program? (r := markupRequest) program?_markup
      (by decide) (by decide) (by decide)
  have hcode : s.machine.code = [markupLine] := by rw [hmachine]; rfl
  have ne : s.machine.code ≠ [] := by simp [hcode]
  obtain ⟨body, hbody, hshows, -⟩ := code_panel_is_faithful escapeReferences 0x100 Layout.standard _ hready ne
  obtain ⟨row, hrow, hline⟩ := hshows.row 0 markupLine (by rw [hcode]; rfl)
  have hlength := hshows.length
  rw [hcode] at hlength
  obtain ⟨row', hrows⟩ := List.length_eq_one_iff.1 hlength
  rw [hrows] at hrow
  obtain rfl : row' = row := Option.some.inj hrow
  exact ⟨hready, ne, body, row', hbody, hrows, hline⟩

end Stepper
