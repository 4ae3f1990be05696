import Stepper.Proofs.Asm.Columns
import Stepper.Proofs.Asm.Outline

/-! The labels that a file defines. A file with address columns is read just if no name is defined twice and its columns
are truthful, as far as they count. A plain source is read in any case, and of two definitions of a name the later one
stays. -/

namespace Stepper.Asm

open Text Unicode

/-- The name that a line of a listing file defines. -/
def Line.label? : Line → Option Text
  | labelled name _ => some name
  | _ => none

def listedLabels (raws : List Text) : List Text :=
  raws.filterMap fun raw => (Line.read raw).label?

/-- The names that a file defines outside of comments, in lower case. -/
def definedNames (text : Text) : List Text :=
  if isAddressListing text then listedLabels (lines text) else (Source.cleanLines text).filterMap Source.labelOf?

/-! ### Files with address columns -/

/-- The columns of a file do not contradict each other, or none of them counts. -/
def Aligned (ss : List Slot) : Prop :=
  ∀ a : Nat, firstColumn? ss = some a → Truthful a ss

namespace Listing

variable {l l' : Listing} {ss : List Slot} {names : List Text}

/-- What is kept while lines are placed: the slots so far are filled, and the labels so far are different names. -/
structure Placed (l : Listing) (ss : List Slot) (names : List Text) : Prop where
  filled : l.Filled ss
  labels : l.labels.map (·.1) = names
  distinct : names.Nodup

theorem placed_empty : empty.Placed [] [] :=
  ⟨filled_empty, rfl, List.nodup_nil⟩

theorem labels_of_place {lineNo : Nat} {raw : Text} (h : l.place lineNo raw = .ok l') :
    l'.labels.map (·.1) = l.labels.map (·.1) ++ (Line.read raw).label?.toList ∧
      ∀ name, (Line.read raw).label? = some name → name ∉ l.labels.map (·.1) := by
  unfold place at h
  cases hread : Line.read raw with
  | blank =>
    rw [hread] at h
    obtain rfl := Except.ok.inj h
    simp [Line.label?]
  | plain instruction =>
    rw [hread] at h
    obtain rfl := Except.ok.inj h
    simp [Line.label?, push]
  | addressed address instruction =>
    rw [hread] at h
    dsimp only at h
    have hlabels : ∀ l₀ : Listing, l₀.labels = l.labels → (l₀.push instruction).labels = l.labels := fun _ h₀ => h₀
    have hstart : (if l.codeStart.isNone && l.lines.isEmpty then { l with codeStart := some (address : Int) } else l).labels =
        l.labels := by
      split <;> rfl
    generalize (if l.codeStart.isNone && l.lines.isEmpty then { l with codeStart := some (address : Int) } else l) = l₀ at h hstart
    split at h
    · obtain rfl := Except.ok.inj h
      simp [Line.label?, hlabels l₀ hstart]
    · split at h
      · obtain rfl := Except.ok.inj h
        simp [Line.label?, hlabels l₀ hstart]
      · simp at h
  | labelled name rest =>
    rw [hread] at h
    dsimp only at h
    split at h
    · simp at h
    · next hnew =>
      have hnone : l.labels.lookup name = none := Option.not_isSome_iff_eq_none.1 hnew
      have hnotMem : name ∉ l.labels.map (·.1) := by
        intro hmem
        obtain ⟨p, hp, rfl⟩ := List.mem_map.1 hmem
        have := List.lookup_eq_none_iff.1 hnone p hp
        simp at this
      obtain rfl := Except.ok.inj h
      refine ⟨?_, fun name' hname => ?_⟩
      · split <;> simp [Line.label?, push]
      · obtain rfl := Option.some.inj hname
        exact hnotMem

theorem Placed.place (h : l.Placed ss names) {lineNo : Nat} {raw : Text} (hl : l.place lineNo raw = .ok l') :
    l'.Placed (ss ++ (Line.read raw).slot?.toList) (names ++ (Line.read raw).label?.toList) := by
  obtain ⟨hlabels, hfresh⟩ := labels_of_place hl
  rw [h.labels] at hlabels hfresh
  refine ⟨h.filled.place hl, hlabels, ?_⟩
  cases hname : (Line.read raw).label? with
  | none => simpa using h.distinct
  | some name => simpa [List.nodup_append, h.distinct] using fun a ha => ne_of_mem_of_not_mem ha (hfresh name hname)

theorem listedLabels_cons (raw : Text) (raws : List Text) :
    listedLabels (raw :: raws) = (Line.read raw).label?.toList ++ listedLabels raws :=
  Source.filterMap_cons_toList _ _ _

theorem slots_cons (raw : Text) (raws : List Text) : slots (raw :: raws) = (Line.read raw).slot?.toList ++ slots raws :=
  Source.filterMap_cons_toList _ _ _

theorem Placed.placeAll {raws : List Text} (h : l.Placed ss names) {lineNo : Nat} (hl : l.placeAll lineNo raws = .ok l') :
    l'.Placed (ss ++ slots raws) (names ++ listedLabels raws) := by
  induction raws generalizing l ss names lineNo with
  | nil =>
    obtain rfl := Except.ok.inj hl
    simpa [slots, listedLabels] using h
  | cons raw raws ih =>
    unfold Listing.placeAll at hl
    cases hplace : l.place lineNo raw with
    | error cause => simp [hplace, bind, Except.bind] at hl
    | ok l₁ =>
      simp only [hplace, bind, Except.bind] at hl
      have hrest := ih (h.place hplace) hl
      rwa [List.append_assoc, List.append_assoc, ← slots_cons, ← listedLabels_cons] at hrest

/-- A line is placed if its label is new and its column is truthful behind the slots so far. -/
theorem Placed.exists_place (h : l.Placed ss names) (lineNo : Nat) {raw : Text}
    (hnames : (names ++ (Line.read raw).label?.toList).Nodup) (hslots : Aligned (ss ++ (Line.read raw).slot?.toList)) :
    ∃ l', l.place lineNo raw = .ok l' := by
  unfold Listing.place
  cases hread : Line.read raw with
  | blank => exact ⟨_, rfl⟩
  | plain instruction => exact ⟨_, rfl⟩
  | labelled name rest =>
    have hfresh : name ∉ l.labels.map (·.1) := by
      rw [h.labels]
      intro hmem
      rw [hread] at hnames
      exact List.disjoint_of_nodup_append hnames hmem (by simp [Line.label?])
    have hnone : l.labels.lookup name = none := Source.lookup_of_notMem hfresh
    exact ⟨_, by simp [hnone]; rfl⟩
  | addressed address instruction =>
    dsimp only
    rw [hread] at hslots
    simp only [Line.slot?, Option.toList_some] at hslots
    by_cases hnil : ss = []
    · subst hnil
      have hlines : l.lines = [] := h.filled.lines
      have hstart : l.codeStart = none := h.filled.codeStart
      simp [hlines, hstart, nextAddress]
    · have hfull : l.lines.isEmpty = false := by simpa [h.filled.lines] using hnil
      simp only [hfull, Bool.and_false, Bool.false_eq_true, if_false]
      cases hfirst : firstColumn? ss with
      | none =>
        have hstart : l.codeStart = none := by simp [h.filled.codeStart, hfirst]
        simp [hstart]
      | some a =>
        have hstart : l.codeStart = some (a : Int) := by simp [h.filled.codeStart, hfirst]
        have haddress : (address : Int) = a + ss.length * instructionSize := by
          refine hslots a (by rw [firstColumn?_snoc, if_neg hnil, hfirst]) ss.length ⟨some address, instruction⟩ address ?_ rfl
          simp
        simp [hstart, nextAddress, h.filled.length, haddress]

theorem Aligned.of_append {ss ss' : List Slot} (h : Aligned (ss ++ ss')) : Aligned ss := by
  intro a ha i s c hi hc
  cases ss with
  | nil => simp at hi
  | cons s₀ ss =>
    refine h a (by simpa [firstColumn?] using ha) i s c ?_ hc
    rw [List.getElem?_append_left (List.getElem?_eq_some_iff.1 hi).1]
    exact hi

theorem Placed.exists_placeAll {raws : List Text} (h : l.Placed ss names) (lineNo : Nat)
    (hnames : (names ++ listedLabels raws).Nodup) (hslots : Aligned (ss ++ slots raws)) :
    ∃ l', l.placeAll lineNo raws = .ok l' := by
  induction raws generalizing l ss names lineNo with
  | nil => exact ⟨l, rfl⟩
  | cons raw raws ih =>
    rw [listedLabels_cons, ← List.append_assoc] at hnames
    rw [slots_cons, ← List.append_assoc] at hslots
    obtain ⟨l₁, hplace⟩ := h.exists_place lineNo (List.Nodup.of_append_left hnames) (Aligned.of_append hslots)
    obtain ⟨l', hrest⟩ := ih (h.place hplace) (lineNo + 1) hnames hslots
    exact ⟨l', by simp [Listing.placeAll, hplace, bind, Except.bind, hrest]⟩

/-- A text is read as a listing just if it defines no name twice and its columns follow the first one. -/
theorem exists_read_iff (text : Text) :
    (∃ l, read text = .ok l) ↔ (listedLabels (Text.lines text)).Nodup ∧ Aligned (slots (Text.lines text)) := by
  constructor
  · rintro ⟨l, h⟩
    have hplaced := placed_empty.placeAll h
    rw [List.nil_append, List.nil_append] at hplaced
    exact ⟨hplaced.distinct, hplaced.filled.truthful⟩
  · rintro ⟨hnames, hslots⟩
    exact placed_empty.exists_placeAll 1 (by simpa using hnames) (by simpa using hslots)

end Listing

/-! ### Plain sources -/

namespace Source

/-- Among some lines this is the last one from which the label is read. -/
structure LastRead (name : Text) (ls before : List Text) (line : Text) (after : List Text) : Prop where
  split : ls = before ++ line :: after
  defines : readLabel? line = some name
  last : name ∉ after.filterMap readLabel?

theorem lookup_cons {α : Type} (l : Text × α) (labels : List (Text × α)) (name : Text) :
    (l :: labels).lookup name = if name = l.1 then some l.2 else labels.lookup name := by
  rw [List.lookup_cons]
  by_cases h : name = l.1
  · simp [h]
  · rw [beq_eq_false_iff_ne.2 h, if_neg h]

theorem lookup_assign {α : Type} (name : Text) (value : α) (labels : List (Text × α)) (n : Text) :
    (assign name value labels).lookup n = if n = name then some value else labels.lookup n := by
  induction labels with
  | nil => rw [assign, lookup_cons]
  | cons l labels ih =>
    obtain ⟨m, v⟩ := l
    rw [assign]
    split
    · next hm =>
      subst hm
      rw [lookup_cons, lookup_cons]
      split <;> rfl
    · next hm =>
      rw [lookup_cons, lookup_cons, ih]
      by_cases h : n = m
      · subst h
        rw [if_pos rfl, if_pos rfl, if_neg hm]
      · rw [if_neg h, if_neg h]

theorem instructions_foldl (s : Source) (ls : List Text) :
    (ls.foldl addLine s).instructions = s.instructions ++ ls.filterMap readInstruction? := by
  induction ls generalizing s with
  | nil => rw [List.foldl_nil, List.filterMap_nil, List.append_nil]
  | cons line ls ih => rw [List.foldl_cons, ih, addLine_eq, filterMap_cons_toList, List.append_assoc]

/-- Lines without the label leave alone what is known of it. -/
theorem lookup_foldl_of_notMem {s : Source} {ls : List Text} {name : Text} (h : name ∉ ls.filterMap readLabel?) :
    (ls.foldl addLine s).labels.lookup name = s.labels.lookup name := by
  induction ls generalizing s with
  | nil => rfl
  | cons line ls ih =>
    rw [filterMap_cons_toList, List.mem_append, not_or] at h
    rw [List.foldl_cons, ih h.2, addLine_eq]
    cases hlabel : readLabel? line with
    | none => rfl
    | some n =>
      have hne : name ≠ n := by simpa [hlabel] using h.1
      rw [Option.elim_some, lookup_assign, if_neg hne]

/-- A label stands where its last definition is. -/
theorem LastRead.lookup {source name line : Text} {before after : List Text}
    (h : LastRead name (cleanLines source) before line after) :
    (Source.read source).labels.lookup name = some (before.filterMap readInstruction?).length := by
  rw [Source.read, h.split, List.foldl_append, List.foldl_cons, lookup_foldl_of_notMem h.last, addLine_eq, h.defines,
    Option.elim_some, lookup_assign, if_pos rfl, instructions_foldl, List.nil_append]

theorem mem_labels_foldl {s : Source} {ls : List Text} {l : Text × Nat} (h : l ∈ (ls.foldl addLine s).labels) :
    l ∈ s.labels ∨ l.1 ∈ ls.filterMap readLabel? := by
  induction ls generalizing s with
  | nil => exact .inl h
  | cons line ls ih =>
    rw [filterMap_cons_toList, List.mem_append]
    rcases ih h with hl | hl
    · rw [addLine_eq] at hl
      cases hlabel : readLabel? line with
      | none =>
        rw [hlabel] at hl
        exact .inl hl
      | some name =>
        rw [hlabel] at hl
        rcases mem_assign hl with rfl | hl
        · exact .inr (.inl (by simp))
        · exact .inl hl
    · exact .inr (.inr hl)

/-- A label that is read is one that the source defines. -/
theorem mem_labelOf_of_mem_labels {source : Text} {l : Text × Nat} (h : l ∈ (Source.read source).labels) :
    l.1 ∈ (cleanLines source).filterMap labelOf? := by
  rcases mem_labels_foldl h with hl | hl
  · simp at hl
  · exact (filterMap_readLabel? _).subset hl

end Source

end Stepper.Asm
