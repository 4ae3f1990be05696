import Mathlib.Data.List.Nodup
import Stepper.View.Window

/-! Windows as sets of indices. A window lists the indices between its start and its stop, each once, and they are a
slice of those of the sequence. The window around a focus holds its focus if the sequence fits, if the focus is near
its start, or if the window reaches from the look-behind up to the focus; it never holds the last item of a longer
sequence that is not near its start. It starts between two fixed places, wherever its focus is, and so it scrolls forward
with its focus and no faster. The window at the tail holds the last items. -/

namespace Stepper.Window

theorem mem_indices_iff {w : Window} (h : 0 ≤ w.start) {i : Nat} : i ∈ w.indices ↔ w.start ≤ i ∧ (i : Int) < w.stop := by
  simp only [indices, stop, List.mem_map, List.mem_range]
  constructor
  · rintro ⟨k, hk, rfl⟩
    omega
  · rintro ⟨hstart, hstop⟩
    exact ⟨i - w.start.toNat, by omega, by omega⟩

theorem nodup_indices (w : Window) : w.indices.Nodup :=
  List.nodup_range.map fun a b (h : w.start.toNat + a = w.start.toNat + b) => by omega

/-! ### Slices -/

/-- The window lies within a sequence of some length. -/
structure Within (w : Window) (length : Int) : Prop where
  start : 0 ≤ w.start
  count : 0 ≤ w.count
  stop : w.stop ≤ max 0 length

theorem within_empty (length : Int) : empty.Within length :=
  ⟨Int.le_refl _, Int.le_refl _, Int.le_max_left _ _⟩

/-- Whatever the focus is, the window around it lies within the sequence. -/
theorem within_around (focus length capacity lookBehind : Int) : (around focus length capacity lookBehind).Within length := by
  unfold around
  split
  · exact within_empty length
  · refine ⟨?_, ?_, ?_⟩
    · dsimp only
      omega
    · dsimp only
      omega
    · dsimp only [stop]
      omega

theorem within_tail (length capacity : Int) : (tail length capacity).Within length := by
  unfold tail
  split
  · exact within_empty length
  · refine ⟨?_, ?_, ?_⟩
    · dsimp only
      omega
    · dsimp only
      omega
    · dsimp only [stop]
      omega

theorem indices_eq_range' (w : Window) : w.indices = List.range' w.start.toNat w.count.toNat :=
  List.range'_eq_map_range.symm

theorem Within.indices_eq {w : Window} {n : Nat} (h : w.Within n) :
    w.indices = ((List.range n).drop w.start.toNat).take w.count.toNat := by
  have hstart := h.start
  have hcount := h.count
  have hstop := h.stop
  rw [Window.stop] at hstop
  have hfits : w.count.toNat ≤ n - w.start.toNat := by omega
  rw [indices_eq_range', List.range_eq_range', List.drop_range', List.take_range'_of_length_ge hfits, Nat.zero_add, Nat.mul_one]

theorem Within.lt_of_mem {w : Window} {n : Nat} (h : w.Within n) {i : Nat} (hi : i ∈ w.indices) : i < n := by
  rw [h.indices_eq] at hi
  exact List.mem_range.1 (List.mem_of_mem_drop (List.mem_of_mem_take hi))

/-- The tail of a sequence, which is all of it if it fits, and nothing for a window without room. -/
theorem indices_tail (n : Nat) (capacity : Int) :
    (tail n capacity).indices = (List.range n).drop (n - capacity.toNat) := by
  rw [indices_eq_range', List.range_eq_range', List.drop_range']
  unfold tail
  split
  · have hnone : n - (n - capacity.toNat) = 0 := by omega
    rw [hnone]
    rfl
  · dsimp only
    congr 1 <;> omega

/-! ### The focus -/

variable {focus length capacity lookBehind : Int}

/-- Where the focus is in sight. -/
theorem focus_in_around_iff (hcapacity : 1 ≤ capacity) (hbehind : 0 ≤ lookBehind) (h0 : 0 ≤ focus) (hlen : focus < length) :
    (around focus length capacity lookBehind).start ≤ focus ∧ focus < (around focus length capacity lookBehind).stop ↔
      length ≤ capacity ∨ focus < capacity ∨ lookBehind < capacity ∧ focus + 1 < length := by
  have hne : ¬ (length ≤ 0 ∨ capacity ≤ 0) := by omega
  unfold around stop
  rw [if_neg hne]
  dsimp only
  by_cases hlong : capacity < length
  · rw [if_pos hlong]
    omega
  · rw [if_neg hlong]
    omega

theorem focus_mem_around_iff (hcapacity : 1 ≤ capacity) (hbehind : 0 ≤ lookBehind) {i : Nat} (hlen : (i : Int) < length) :
    i ∈ (around i length capacity lookBehind).indices ↔
      length ≤ capacity ∨ (i : Int) < capacity ∨ lookBehind < capacity ∧ (i : Int) + 1 < length := by
  rw [mem_indices_iff (within_around _ _ _ _).start, focus_in_around_iff hcapacity hbehind (by omega) hlen]

example : (around 5 10 5 5).indices = [0, 1, 2, 3, 4] := by decide

/-! ### Scrolling -/

/-- The last place at which a window starts. In a longer sequence it is one before the place from which the rest would
just fit. -/
def lastStart (length capacity : Int) : Int :=
  if capacity < length then length - capacity - 1 else length

theorem around_of_nothing (h : length ≤ 0 ∨ capacity ≤ 0) : around focus length capacity lookBehind = empty :=
  if_pos h

/-- A window starts where it is wanted, between the start of the sequence and the last place. -/
theorem start_around (hlength : 1 ≤ length) (hcapacity : 1 ≤ capacity) :
    (around focus length capacity lookBehind).start = max 0 (min (focus - lookBehind) (lastStart length capacity)) := by
  have hne : ¬ (length ≤ 0 ∨ capacity ≤ 0) := by omega
  unfold around lastStart
  rw [if_neg hne]
  dsimp only
  by_cases hlong : capacity < length
  · rw [if_pos hlong, if_pos hlong]
    omega
  · rw [if_neg hlong, if_neg hlong]
    omega

theorem count_around (hlength : 1 ≤ length) (hcapacity : 1 ≤ capacity) :
    (around focus length capacity lookBehind).count =
      min capacity (length - (around focus length capacity lookBehind).start) := by
  have hne : ¬ (length ≤ 0 ∨ capacity ≤ 0) := by omega
  unfold around
  rw [if_neg hne]

theorem count_around_le (focus length capacity lookBehind : Int) :
    (around focus length capacity lookBehind).count ≤ max 0 capacity := by
  by_cases h : length ≤ 0 ∨ capacity ≤ 0
  · rw [around_of_nothing h]
    exact Int.le_max_left _ _
  · rw [count_around (by omega) (by omega)]
    omega

/-- In a longer sequence a window is full. -/
theorem count_around_of_long (hcapacity : 1 ≤ capacity) (hlong : capacity < length) :
    (around focus length capacity lookBehind).count = capacity := by
  have hlength : 1 ≤ length := by omega
  have hlast : lastStart length capacity = length - capacity - 1 := if_pos hlong
  rw [count_around hlength hcapacity, start_around hlength hcapacity, hlast]
  omega

/-- In a sequence that fits a window reaches its end. -/
theorem stop_around_of_short (hlength : 1 ≤ length) (hshort : length ≤ capacity) :
    (around focus length capacity lookBehind).stop = length := by
  have hcapacity : 1 ≤ capacity := by omega
  have hlast : lastStart length capacity = length := if_neg (Int.not_lt.2 hshort)
  rw [stop, count_around hlength hcapacity, start_around hlength hcapacity, hlast]
  omega

/-- A window goes forward with its focus, and no further than it. -/
theorem start_around_le (length capacity lookBehind : Int) {focus' : Int} (h : focus ≤ focus') :
    (around focus length capacity lookBehind).start ≤ (around focus' length capacity lookBehind).start ∧
      (around focus' length capacity lookBehind).start - (around focus length capacity lookBehind).start ≤ focus' - focus := by
  by_cases hnothing : length ≤ 0 ∨ capacity ≤ 0
  · rw [around_of_nothing hnothing, around_of_nothing hnothing]
    omega
  · rw [start_around (by omega) (by omega), start_around (by omega) (by omega)]
    omega

theorem tail_of_items (hlength : 1 ≤ length) (hcapacity : 1 ≤ capacity) :
    (tail length capacity).count = min capacity length ∧ (tail length capacity).stop = length := by
  have hne : ¬ (length ≤ 0 ∨ capacity ≤ 0) := by omega
  unfold tail stop
  rw [if_neg hne]
  dsimp only
  omega

/-- Whatever the focus, the look-behind and the sizes are, a window lies within its sequence and its capacity. It is full if
the sequence is longer, and reaches to the end if the sequence fits. When the focus goes forward the window never goes
back, and it goes by one item at most when the focus goes by one. The window at the tail ends where the sequence ends,
with as many items as there are or as fit. -/
theorem windows_scroll_within (length capacity lookBehind : Int) :
    (∀ focus, let w := around focus length capacity lookBehind
      0 ≤ w.start ∧ 0 ≤ w.count ∧ w.count ≤ max 0 capacity ∧ w.start + w.count ≤ max 0 length ∧
      (1 ≤ capacity → capacity < length → w.count = capacity) ∧
      (1 ≤ length → length ≤ capacity → w.start + w.count = length)) ∧
    (∀ focus focus', focus ≤ focus' →
      (around focus length capacity lookBehind).start ≤ (around focus' length capacity lookBehind).start) ∧
    (∀ focus, (around (focus + 1) length capacity lookBehind).start ≤ (around focus length capacity lookBehind).start + 1) ∧
    (1 ≤ length → 1 ≤ capacity →
      (tail length capacity).start + (tail length capacity).count = length ∧
      (tail length capacity).count = min capacity length) := by
  refine ⟨fun focus => ?_, fun focus focus' h => (start_around_le _ _ _ h).1, fun focus => ?_, fun hlength hcapacity => ?_⟩
  · have hwithin := within_around focus length capacity lookBehind
    exact ⟨hwithin.start, hwithin.count, count_around_le focus length capacity lookBehind, hwithin.stop,
      count_around_of_long, stop_around_of_short⟩
  · have hstep := (start_around_le length capacity lookBehind (Int.le_add_one (Int.le_refl focus))).2
    omega
  · obtain ⟨hcount, hstop⟩ := tail_of_items hlength hcapacity
    exact ⟨hstop, hcount⟩

/-- Twenty-one lines in a window of twenty: it is full from the start, and is held there, also for a focus behind the end. -/
theorem window_is_held_at_start :
    (1 : Int) ≤ 20 ∧ (20 : Int) < 21 ∧ (around 99 21 20 5).count = 20 ∧
      (around 5 21 20 5).start ≤ (around 99 21 20 5).start ∧ (tail 21 20).start + (tail 21 20).count = 21 := by
  obtain ⟨hwithin, hforward, -, htail⟩ := windows_scroll_within 21 20 5
  have hcapacity : (1 : Int) ≤ 20 := by decide
  have hlong : (20 : Int) < 21 := by decide
  obtain ⟨-, -, -, -, hfull, -⟩ := hwithin 99
  exact ⟨hcapacity, hlong, hfull hcapacity hlong, hforward 5 99 (by decide), (htail (by decide) hcapacity).1⟩

end Stepper.Window
