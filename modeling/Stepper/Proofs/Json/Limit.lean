import Mathlib.Data.List.Basic
import Stepper.Json.Basic
import Stepper.Proofs.Numeral.Limit

/-! The limits of JSON texts. A text goes beyond what can be read if and only if its tokens, read on without a limit,
come to a place with more arrays and objects open than may be, or to an integer of too many digits. No integer of an
object that is read has too many digits to be written again. -/

namespace Stepper.Json

/-! ### Malformed strings are at fault for other reasons -/

theorem not_isLimit_of_readString {start position : Nat} {t : Text} {f : JsonFault × Nat}
    (h : readString start position t = .error f) : f.1.isLimit = false := by
  have hmap : ∀ {α β : Type} {x : Except (JsonFault × Nat) α} {g : α → β}, x.map g = .error f → x = .error f := by
    intro α β x g hx
    cases x with
    | error e => exact congrArg Except.error (Except.error.inj hx)
    | ok a => simp [Except.map] at hx
  -- the string ends here, is at fault here, or goes on behind a character
  fun_induction readString start position t
  case case2 => cases h
  all_goals first
    | cases h; rfl
    | rename_i ih; exact ih (hmap h)

/-- A malformed string is not at fault for a limit. -/
def Token.Limitless : Token → Prop
  | .badString fault _ => fault.isLimit = false
  | _ => True

theorem limitless_tokenAt (position : Nat) (t : Text) : (tokenAt position t).1.Limitless := by
  unfold tokenAt
  split
  case h_7 rest =>
    cases hread : readString position (position + 1) rest with
    | ok r => rcases r with ⟨_ | text, behind⟩ <;> trivial
    | error f => exact not_isLimit_of_readString hread
  case h_8 =>
    split
    · next k hk =>
      have hkeywords : ∀ k ∈ keywords, k.2.Limitless := by simp [keywords, Token.Limitless]
      exact hkeywords k (List.mem_of_find?_eq_some hk)
    · unfold number?
      dsimp only
      split
      · trivial
      · split <;> trivial
  all_goals trivial

theorem limitless_of_mem_tokensFrom {position skip : Nat} {t : Text} {p : Nat × Token}
    (h : p ∈ tokensFrom position skip t) : p.2.Limitless := by
  fun_induction tokensFrom position skip t with
  | case1 => simp at h
  | case2 _ _ _ _ ih => exact ih h
  | case3 _ _ _ _ ih => exact ih h
  | case4 position c rest _ token length htoken ih =>
    rcases List.mem_cons.1 h with rfl | h
    · have := limitless_tokenAt position (c :: rest)
      rwa [htoken] at this
    · exact ih h

theorem not_isLimit_faultAt (e : Expectation) (position : Nat) {token : Token} (h : token.Limitless) :
    (faultAt e position token).1.isLimit = false := by
  unfold faultAt
  cases token <;> cases e <;> first | rfl | exact h

/-! ### How deep the reader is -/

theorem length_complete_le (j : JsonValue) (stack : List Frame) : (complete j stack).2.length ≤ stack.length := by
  cases stack with
  | nil => exact Nat.le_refl _
  | cons frame outer => cases frame <;> exact Nat.le_refl _

theorem stack_of_opens {e e' e₀ : Expectation} {stack stack' : List Frame} {token : Token} {frame : Frame}
    (hopens : opens token = some (e₀, frame)) (h : advance? e stack token = some (e', stack')) :
    stack' = frame :: stack := by
  have hbegin : begin? token stack = some (e₀, frame :: stack) := by rw [begin?, hopens]
  unfold advance? at h
  split at h
  case h_10 => exact (Prod.mk.inj (Option.some.inj (h.symm.trans hbegin))).2
  case h_11 => exact (Prod.mk.inj (Option.some.inj (h.symm.trans hbegin))).2
  all_goals simp [opens] at hopens h

theorem length_le_of_not_opens {e e' : Expectation} {stack stack' : List Frame} {token : Token}
    (hopens : opens token = none) (h : advance? e stack token = some (e', stack')) : stack'.length ≤ stack.length := by
  have hbegin : begin? token stack = some (e', stack') → stack'.length ≤ stack.length := by
    intro hb
    rw [begin?, hopens] at hb
    obtain ⟨j, -, hj⟩ := Option.map_eq_some_iff.1 hb
    have := length_complete_le j stack
    rwa [hj] at this
  have hclose : ∀ (j : JsonValue) (frame : Frame) (outer : List Frame), some (complete j outer) = some (e', stack') →
      stack'.length ≤ (frame :: outer).length := by
    intro j frame outer hc
    have := length_complete_le j outer
    rw [Option.some.inj hc] at this
    exact Nat.le_succ_of_le this
  unfold advance? at h
  split at h
  case h_10 => exact hbegin h
  case h_11 => exact hbegin h
  case h_12 => simp at h
  -- the other tokens close an array or object, or leave as many open
  all_goals first
    | exact hclose _ _ _ h
    | obtain ⟨-, rfl⟩ := Prod.mk.inj (Option.some.inj h); exact Nat.le_refl _

/-- An integer with more digits than can be read. -/
def Token.Long : Token → Prop
  | .int n => Numeral.digitLimit < (Numeral.natDecimal n.natAbs).length
  | _ => False

variable {depth : Nat}

theorem isLimit_of_limitFault? {stack : List Frame} {token : Token} {fault : JsonFault}
    (h : limitFault? depth stack token = some fault) : fault.isLimit = true := by
  unfold limitFault? at h
  split at h
  · split at h
    · simp at h
    · exact Option.some.inj h ▸ rfl
  · split at h
    · simp at h
    · exact Option.some.inj h ▸ rfl
  · dsimp only at h
    split at h
    · simp at h
    · exact Option.some.inj h ▸ rfl
  · simp at h

/-- A token that can stand where it does goes beyond a limit just if there is too much open behind it or it has too many
digits. -/
theorem limitFault?_eq_none_iff {e e' : Expectation} {stack stack' : List Frame} {token : Token}
    (hstack : stack.length ≤ depth) (h : advance? e stack token = some (e', stack')) :
    limitFault? depth stack token = none ↔ stack'.length ≤ depth ∧ ¬ token.Long := by
  cases hopens : opens token with
  | none =>
    have hle := Nat.le_trans (length_le_of_not_opens hopens h) hstack
    have hlong : limitFault? depth stack token = none ↔ ¬ token.Long := by
      cases token <;> first | (simp [opens] at hopens; done) | simp [limitFault?, Token.Long]
    rw [hlong, and_iff_right hle]
  | some opened =>
    rw [stack_of_opens hopens h]
    have hdepth : limitFault? depth stack token = none ↔ stack.length < depth ∧ ¬ token.Long := by
      cases token <;> first | (simp [opens] at hopens; done) | simp [limitFault?, Token.Long]
    rw [hdepth]
    exact Iff.rfl

/-- Where the reader is behind tokens that can stand there, however deep they go. -/
def behind? (e : Expectation) (stack : List Frame) (before : List (Nat × Token)) : Option (Expectation × List Frame) :=
  before.foldlM (fun place token => advance? place.1 place.2 token.2) (e, stack)

/-- The next tokens come to a place with more arrays and objects open than may be, or behind an integer that is too
long. -/
def Exceeds (depth : Nat) (e : Expectation) (stack : List Frame) (ts : List (Nat × Token)) : Prop :=
  ∃ before e' stack', before <+: ts ∧ behind? e stack before = some (e', stack') ∧
    (depth < stack'.length ∨ ∃ t ∈ before, t.2.Long)

/-- A text goes beyond what can be read of it. -/
def Unbearable (depth : Nat) (t : Text) : Prop :=
  t.head? ≠ some (Char.ofNat 0xFEFF) ∧ Exceeds depth .value [] (tokens t)

theorem exceeds_of_lt {e : Expectation} {stack : List Frame} (h : depth < stack.length) (ts : List (Nat × Token)) :
    Exceeds depth e stack ts :=
  ⟨[], e, stack, List.nil_prefix, rfl, .inl h⟩

theorem not_exceeds_nil {e : Expectation} {stack : List Frame} (h : stack.length ≤ depth) : ¬ Exceeds depth e stack [] := by
  rintro ⟨before, e', stack', hbefore, hbehind, hover⟩
  obtain rfl := List.prefix_nil.1 hbefore
  obtain ⟨-, rfl⟩ := Prod.mk.inj (Option.some.inj hbehind)
  rcases hover with hdeep | ⟨t, ht, -⟩
  · omega
  · simp at ht

theorem exceeds_cons_iff {e : Expectation} {stack : List Frame} {position : Nat} {token : Token} {ts : List (Nat × Token)}
    (h : stack.length ≤ depth) : Exceeds depth e stack ((position, token) :: ts) ↔
      ∃ e₁ stack₁, advance? e stack token = some (e₁, stack₁) ∧ (token.Long ∨ Exceeds depth e₁ stack₁ ts) := by
  constructor
  · rintro ⟨before, e', stack', hbefore, hbehind, hover⟩
    rcases List.prefix_cons_iff.1 hbefore with rfl | ⟨before', rfl, hprefix⟩
    · obtain ⟨-, rfl⟩ := Prod.mk.inj (Option.some.inj hbehind)
      rcases hover with hdeep | ⟨t, ht, -⟩
      · omega
      · simp at ht
    · obtain ⟨⟨e₁, stack₁⟩, hadvance, hrest⟩ := Option.bind_eq_some_iff.1 hbehind
      refine ⟨e₁, stack₁, hadvance, ?_⟩
      rcases hover with hdeep | ⟨t, ht, hlong⟩
      · exact .inr ⟨before', e', stack', hprefix, hrest, .inl hdeep⟩
      · rcases List.mem_cons.1 ht with rfl | ht
        · exact .inl hlong
        · exact .inr ⟨before', e', stack', hprefix, hrest, .inr ⟨t, ht, hlong⟩⟩
  · rintro ⟨e₁, stack₁, hadvance, hlong | ⟨before, e', stack', hprefix, hrest, hover⟩⟩
    · have hbehind : behind? e stack [(position, token)] = some (e₁, stack₁) :=
        Option.bind_eq_some_iff.2 ⟨(e₁, stack₁), hadvance, rfl⟩
      exact ⟨_, e₁, stack₁, List.prefix_cons_iff.2 (.inr ⟨[], rfl, List.nil_prefix⟩), hbehind,
        .inr ⟨_, List.mem_singleton_self _, hlong⟩⟩
    · have hbehind : behind? e stack ((position, token) :: before) = some (e', stack') :=
        Option.bind_eq_some_iff.2 ⟨(e₁, stack₁), hadvance, hrest⟩
      exact ⟨_, e', stack', List.prefix_cons_iff.2 (.inr ⟨before, rfl, hprefix⟩), hbehind,
        hover.imp_right fun ⟨t, ht, hlong⟩ => ⟨t, List.mem_cons_of_mem _ ht, hlong⟩⟩

theorem readTokens_isLimit_iff (length : Nat) {e : Expectation} {stack : List Frame} {ts : List (Nat × Token)}
    (hlimitless : ∀ p ∈ ts, p.2.Limitless) (hstack : stack.length ≤ depth) :
    (∃ f, readTokens depth length e stack ts = .error f ∧ f.1.isLimit = true) ↔ Exceeds depth e stack ts := by
  induction ts generalizing e stack with
  | nil =>
    refine iff_of_false ?_ (not_exceeds_nil hstack)
    rintro ⟨f, hf, hlimit⟩
    cases e <;> cases hf <;> simp [Expectation.fault, JsonFault.isLimit] at hlimit
  | cons p ts ih =>
    obtain ⟨position, token⟩ := p
    rw [exceeds_cons_iff hstack, readTokens]
    cases hadvance : advance? e stack token with
    | none =>
      refine iff_of_false ?_ (by simp)
      rintro ⟨f, hf, hlimit⟩
      obtain rfl := Except.error.inj hf
      simp [not_isLimit_faultAt e position (hlimitless _ List.mem_cons_self)] at hlimit
    | some place =>
      obtain ⟨e₁, stack₁⟩ := place
      have hnone := limitFault?_eq_none_iff hstack hadvance
      cases hfault : limitFault? depth stack token with
      | some fault =>
        refine iff_of_true ⟨_, rfl, isLimit_of_limitFault? hfault⟩ ⟨e₁, stack₁, rfl, ?_⟩
        by_cases hlong : token.Long
        · exact .inl hlong
        · have hdeep : ¬ stack₁.length ≤ depth := fun hle => by simpa [hfault] using hnone.2 ⟨hle, hlong⟩
          exact .inr (exceeds_of_lt (Nat.not_le.1 hdeep) ts)
      | none =>
        obtain ⟨hle, hshort⟩ := hnone.1 hfault
        refine (ih (fun p hp => hlimitless p (List.mem_cons_of_mem _ hp)) hle).trans
          ⟨fun h => ⟨e₁, stack₁, rfl, .inr h⟩, ?_⟩
        rintro ⟨_, _, heq, h⟩
        obtain ⟨rfl, rfl⟩ := Prod.mk.inj (Option.some.inj heq)
        exact h.resolve_left hshort

/-- The texts that are refused for a limit. -/
theorem read_isLimit_iff (depth : Nat) (t : Text) :
    (∃ e, read depth t = .error e ∧ e.fault.isLimit = true) ↔ Unbearable depth t := by
  unfold read Unbearable
  split
  · next hmark =>
    refine iff_of_false ?_ fun h => h.1 hmark
    rintro ⟨e, he, hlimit⟩
    obtain rfl := Except.error.inj he
    simp [JsonError.at, JsonFault.isLimit] at hlimit
  · next hmark =>
    have hlimitless : ∀ p ∈ tokens t, p.2.Limitless := fun p hp => limitless_of_mem_tokensFrom hp
    rw [← readTokens_isLimit_iff t.length hlimitless (Nat.zero_le _)]
    cases hread : readTokens depth t.length .value [] (tokens t) with
    | ok j => simp [Except.mapError]
    | error f => simp [Except.mapError, JsonError.at, hmark]

/-! ### The integers that are read -/

/-- An integer is short enough to be written. -/
def Short (j : JsonValue) : Prop :=
  ∀ n, j = .int n → Numeral.Writable n

def ShortMembers (members : List (Text × JsonValue)) : Prop :=
  ∀ m ∈ members, Short m.2

/-- A value is short, and so are its members. -/
def Brief : JsonValue → Prop
  | .int n => Numeral.Writable n
  | .obj members => ShortMembers members
  | _ => True

theorem Brief.short {j : JsonValue} (h : Brief j) : Short j := by
  rintro n rfl
  exact h

def Frame.Brief : Frame → Prop
  | .array _ => True
  | .object members _ => ShortMembers members

/-- All that has been read is short. -/
structure BriefPlace (e : Expectation) (stack : List Frame) : Prop where
  value : ∀ j, e = .done j → Brief j
  frames : ∀ frame ∈ stack, frame.Brief

theorem shortMembers_assign {name : Text} {j : JsonValue} (hj : Short j) {members : List (Text × JsonValue)}
    (h : ShortMembers members) : ShortMembers (assign name j members) := by
  induction members with
  | nil => exact fun m hm => (List.mem_singleton.1 hm) ▸ hj
  | cons first rest ih =>
    obtain ⟨hfirst, hrest⟩ := List.forall_mem_cons.1 h
    obtain ⟨n, v⟩ := first
    unfold assign
    split
    · exact List.forall_mem_cons.2 ⟨hj, hrest⟩
    · exact List.forall_mem_cons.2 ⟨hfirst, ih hrest⟩

theorem briefPlace_complete {j : JsonValue} (hj : Brief j) {stack : List Frame} (h : ∀ frame ∈ stack, frame.Brief) :
    BriefPlace (complete j stack).1 (complete j stack).2 := by
  cases stack with
  | nil => exact ⟨fun j' hj' => Expectation.done.inj hj' ▸ hj, h⟩
  | cons frame outer =>
    obtain ⟨hframe, houter⟩ := List.forall_mem_cons.1 h
    cases frame with
    | array items => exact ⟨nofun, List.forall_mem_cons.2 ⟨trivial, houter⟩⟩
    | object members name =>
      exact ⟨nofun, List.forall_mem_cons.2 ⟨shortMembers_assign hj.short hframe, houter⟩⟩

theorem briefPlace_begin? {token : Token} (hshort : ¬ token.Long) {e : Expectation} {stack stack' : List Frame}
    (h : ∀ frame ∈ stack, frame.Brief) (hbegin : begin? token stack = some (e, stack')) : BriefPlace e stack' := by
  have hscalar : ∀ j, scalar? token = some j → Brief j := by
    intro j hj
    cases token <;> cases hj <;> first | trivial | exact Numeral.writable_iff.2 (Nat.not_lt.1 hshort)
  unfold begin? at hbegin
  split at hbegin
  · next hopens =>
    obtain ⟨rfl, rfl⟩ := Prod.mk.inj (Option.some.inj hbegin)
    cases token <;> cases hopens <;> exact ⟨nofun, List.forall_mem_cons.2 ⟨by simp [Frame.Brief, ShortMembers], h⟩⟩
  · obtain ⟨j, hj, heq⟩ := Option.map_eq_some_iff.1 hbegin
    have hplace := briefPlace_complete (hscalar j hj) h
    rwa [heq] at hplace

theorem BriefPlace.advance {e e' : Expectation} {stack stack' : List Frame} {token : Token} (h : BriefPlace e stack)
    (hshort : ¬ token.Long) (hadvance : advance? e stack token = some (e', stack')) : BriefPlace e' stack' := by
  have hclose : ∀ {j : JsonValue} {frame : Frame} {outer : List Frame}, some (complete j outer) = some (e', stack') →
      (∀ f ∈ frame :: outer, f.Brief) → Brief j → BriefPlace e' stack' := by
    intro j frame outer heq hframes hj
    have hplace := briefPlace_complete hj (List.forall_mem_cons.1 hframes).2
    rwa [Option.some.inj heq] at hplace
  have hframes := h.frames
  unfold advance? at hadvance
  split at hadvance
  -- the end of an array or of an object
  case h_1 => exact hclose hadvance hframes trivial
  case h_2 => exact hclose hadvance hframes (List.forall_mem_cons.1 hframes).1
  case h_8 => exact hclose hadvance hframes trivial
  case h_9 => exact hclose hadvance hframes (List.forall_mem_cons.1 hframes).1
  -- the beginning of a value
  case h_10 => exact briefPlace_begin? hshort hframes hadvance
  case h_11 => exact briefPlace_begin? hshort hframes hadvance
  case h_12 => simp at hadvance
  -- a name, or a mark between two values
  all_goals obtain ⟨rfl, rfl⟩ := Prod.mk.inj (Option.some.inj hadvance)
  case h_3 | h_4 =>
    obtain ⟨hframe, houter⟩ := List.forall_mem_cons.1 hframes
    exact ⟨nofun, List.forall_mem_cons.2 ⟨hframe, houter⟩⟩
  all_goals exact ⟨nofun, hframes⟩

theorem brief_of_readTokens {length : Nat} {e : Expectation} {stack : List Frame} {ts : List (Nat × Token)} {j : JsonValue}
    (h : BriefPlace e stack) (hstack : stack.length ≤ depth) (hread : readTokens depth length e stack ts = .ok j) :
    Brief j := by
  induction ts generalizing e stack with
  | nil =>
    cases e <;> cases hread
    exact h.value _ rfl
  | cons p ts ih =>
    obtain ⟨position, token⟩ := p
    rw [readTokens] at hread
    split at hread
    · simp at hread
    · next e₁ stack₁ hadvance =>
      split at hread
      · simp at hread
      · next hnone =>
        obtain ⟨hle, hshort⟩ := (limitFault?_eq_none_iff hstack hadvance).1 hnone
        exact ih (h.advance hshort hadvance) hle hread

/-- A text is read as a value whose integers can be written, as far as they are its own or those of its members. -/
theorem brief_of_read {t : Text} {j : JsonValue} (h : read depth t = .ok j) : Brief j := by
  unfold read at h
  split at h
  · simp at h
  · cases hread : readTokens depth t.length .value [] (tokens t) with
    | error f => simp [hread, Except.mapError] at h
    | ok j' =>
      rw [hread] at h
      obtain rfl := Except.ok.inj h
      have hplace : BriefPlace .value [] := ⟨nofun, by simp⟩
      exact brief_of_readTokens hplace (Nat.zero_le _) hread

end Stepper.Json
