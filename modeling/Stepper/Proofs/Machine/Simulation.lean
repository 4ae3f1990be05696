import Stepper.Proofs.Asm.Prepared
import Stepper.Proofs.Asm.Reading
import Stepper.Proofs.Machine.Execution
import Stepper.Proofs.Text.Reading
import Stepper.Proofs.Unicode.Letter
import Stepper.Machine.Emulator

/-! The prepared source does what the source does. Whatever an instruction of the source makes of the processor,
the instruction that stands for it in the listing makes the same of it, if it can be read at all. An operand that
nothing can be done with may be spelled anew as one with an integer of too many digits, and a branch that is not
taken never looks at such an operand. -/

namespace Stepper

open Asm Text Unicode Operation

/-! ### Operands that stand for others -/

namespace Operation

variable {l l' : Listing} {i i' : Instruction} {o o' : Operand} {c c' : Cpu}

theorem valueOf_stands (h : Stands l o.kind o'.kind) {v : Int} (hv : valueOf c i o = .ok v) : valueOf c i' o' = .ok v := by
  unfold valueOf at hv ⊢
  generalize o.kind = k at h hv
  generalize o'.kind = k' at h ⊢
  cases h with
  | reg r => exact hv
  | zero => exact hv
  | imm v => exact hv
  | mem => simp [refuse] at hv
  | label => simp [refuse] at hv
  | unknown => simp [refuse] at hv
  | unsupported => simp [refuse] at hv

theorem writeTo_stands (h : Stands l o.kind o'.kind) {v : Int} (hw : Finishes (writeTo i o v) c () c') :
    Finishes (writeTo i' o' v) c () c' := by
  unfold writeTo at hw ⊢
  generalize o.kind = k at h hw
  generalize o'.kind = k' at h ⊢
  cases h with
  | reg r => exact hw
  | zero => exact hw
  | imm => exact absurd hw finishes_refuse
  | mem => exact absurd hw finishes_refuse
  | label => exact absurd hw finishes_refuse
  | unknown => exact absurd hw finishes_refuse
  | unsupported => exact absurd hw finishes_refuse

theorem addressOf_stands (h : Stands l o.kind o'.kind) {a : Int} (ha : addressOf c i o = .ok a) :
    addressOf c i' o' = .ok a := by
  unfold addressOf at ha ⊢
  generalize o.kind = k at h ha
  generalize o'.kind = k' at h ⊢
  cases h with
  | mem r v =>
    dsimp only at ha ⊢
    split at ha
    · next hin => rw [if_pos hin]; exact ha
    · simp [refuse] at ha
  | reg => simp [refuse] at ha
  | zero => simp [refuse] at ha
  | imm => simp [refuse] at ha
  | label => simp [refuse] at ha
  | unknown => simp [refuse] at ha
  | unsupported => simp [refuse] at ha

theorem targetOf_stands (h : Stands l o.kind o'.kind) {a : Int} (ha : targetOf l i o = .ok a) :
    targetOf l' i' o' = .ok a := by
  unfold targetOf at ha ⊢
  generalize o.kind = k at h ha
  generalize o'.kind = k' at h ⊢
  cases h with
  | imm v => exact ha
  | label hl hw =>
    dsimp only at ha
    rw [hl] at ha
    obtain rfl := Except.ok.inj ha
    exact congrArg Except.ok hw
  | unknown hl => simp [hl, refuse] at ha
  | reg => simp [refuse] at ha
  | zero => simp [refuse] at ha
  | mem => simp [refuse] at ha
  | unsupported => simp [refuse] at ha

/-- An operation finishes alike on operands that stand for those that it finishes on. -/
theorem run_stands {op : Operation} {os os' : List Operand}
    (h : List.Forall₂ (fun o o' => Stands l o.kind o'.kind) os os') (hrun : Finishes (op.run l i os) c () c') :
    Finishes (op.run l' i' os') c () c' := by
  unfold Operation.run at hrun
  split at hrun
  · -- nop
    cases h
    exact hrun
  · -- mov
    rcases h with _ | ⟨ht, _ | ⟨hs, _ | _⟩⟩
    exact hrun.ask_mono (fun _ => valueOf_stands hs) fun _ => writeTo_stands ht
  · -- arithmetic
    rcases h with _ | ⟨ht, _ | ⟨ha, _ | ⟨hb, _ | _⟩⟩⟩
    refine hrun.ask_mono (fun _ => valueOf_stands ha) fun _ hrun => ?_
    exact hrun.ask_mono (fun _ => valueOf_stands hb) fun _ => writeTo_stands ht
  · -- ldr
    rcases h with _ | ⟨ht, _ | ⟨hs, _ | _⟩⟩
    refine hrun.ask_mono (fun _ => addressOf_stands hs) fun _ hrun => ?_
    rw [finishes_get_bind] at hrun ⊢
    exact writeTo_stands ht hrun
  · -- str
    rcases h with _ | ⟨hs, _ | ⟨ht, _ | _⟩⟩
    refine hrun.ask_mono (fun _ => addressOf_stands ht) fun _ hrun => ?_
    exact hrun.ask_mono (fun _ => valueOf_stands hs) fun _ hw => hw
  · -- b
    rcases h with _ | ⟨ht, _ | _⟩
    exact hrun.lift_mono (fun _ => targetOf_stands ht) fun _ hw => hw
  · -- bl
    rcases h with _ | ⟨ht, _ | _⟩
    exact hrun.lift_mono (fun _ => targetOf_stands ht) fun _ hw => hw
  · -- ret
    cases h
    exact hrun
  · -- ret with an operand
    rcases h with _ | ⟨hs, _ | _⟩
    exact hrun.ask_mono (fun _ => valueOf_stands hs) fun _ hw => hw
  · exact absurd hrun finishes_refuse
  · -- a branch that is not taken never looks at its target
    rcases h with _ | ⟨hs, _ | ⟨ht, _ | _⟩⟩
    refine hrun.ask_mono (fun _ => valueOf_stands hs) fun v hrun => ?_
    split at hrun
    · next htaken =>
      rw [if_pos htaken]
      exact hrun.lift_mono (fun _ => targetOf_stands ht) fun _ hw => hw
    · next htaken =>
      rw [if_neg htaken]
      exact hrun
  · exact absurd hrun finishes_refuse

/-- The move of a value is its addition to zero. -/
theorem add_stands_for_mov {target source target' zero' source' : Operand} (ht : Stands l target.kind target'.kind)
    (hz : zero'.kind = .zero) (hs : Stands l source.kind source'.kind)
    (hrun : Finishes (mov.run l i [target, source]) c () c') :
    Finishes ((arithmetic .add).run l' i' [target', zero', source']) c () c' := by
  rw [Operation.run, finishes_get_bind, finishes_lift_bind] at hrun
  obtain ⟨v, hv, hw⟩ := hrun
  have hzero : valueOf c i' zero' = .ok 0 := by simp [valueOf, hz]
  have hsum : Arithmetic.add.apply 0 v = v := Int.zero_add v
  rw [Operation.run, finishes_get_bind, finishes_lift_bind]
  refine ⟨0, hzero, ?_⟩
  rw [finishes_get_bind, finishes_lift_bind]
  refine ⟨v, valueOf_stands hs hv, ?_⟩
  rw [hsum]
  exact writeTo_stands ht hw

/-- A move that finishes has two operands, and something can be done with each. -/
theorem mov_operands {os : List Operand} (hrun : Finishes (mov.run l i os) c () c') :
    ∃ a b, os = [a, b] ∧ a.kind ≠ .unsupported ∧ b.kind ≠ .unsupported := by
  rcases os with _ | ⟨a, _ | ⟨b, _ | ⟨d, os⟩⟩⟩
  · exact absurd hrun finishes_refuse
  · exact absurd hrun finishes_refuse
  · rw [Operation.run, finishes_get_bind, finishes_lift_bind] at hrun
    obtain ⟨v, hv, hw⟩ := hrun
    refine ⟨a, b, rfl, fun ha => ?_, fun hb => ?_⟩
    · simp only [writeTo, ha] at hw
      exact absurd hw finishes_refuse
    · simp [valueOf, hb, refuse] at hv
  · exact absurd hrun finishes_refuse

end Operation

/-! ### Mnemonics -/

theorem mnemonic_of_named? {m : Text} {op : Operation} (h : named? m = some op) :
    ∃ d ∈ definitions, d.mnemonic = upper m ∧ d.operation = op := by
  obtain ⟨d, hd, rfl⟩ := Option.map_eq_some_iff.1 h
  exact ⟨d, List.mem_of_find?_eq_some hd, by simpa using List.find?_some hd, rfl⟩

theorem lettered_of_named? {w : Text} {op : Operation} (h : named? (upper w) = some op) : Lettered w := by
  have hall : ∀ d ∈ definitions, ∀ c ∈ d.mnemonic, c.isUpper = true := by decide
  obtain ⟨d, hd, heq, -⟩ := mnemonic_of_named? h
  rw [Lettered, ← heq]
  exact hall d hd

/-- No mnemonic starts as the instruction that is replaced by `nop` does. -/
theorem not_swi_of_named? {w : Text} {op : Operation} (h : named? (upper w) = some op) : ¬ "swi".toList <+: lower w := by
  have hall : ∀ d ∈ definitions, ¬ ['S', 'W', 'I'] <+: d.mnemonic := by decide
  obtain ⟨d, hd, heq, -⟩ := mnemonic_of_named? h
  rintro ⟨r, hr⟩
  have hswi : upper "swi".toList = ['S', 'W', 'I'] := by decide
  have hswi' : upper ['S', 'W', 'I'] = ['S', 'W', 'I'] := by decide
  apply hall d hd
  rw [heq, ← (lettered_of_named? h).upper_lower, ← hr, upper_append, hswi, upper_append, hswi']
  exact List.prefix_append _ _

/-! ### Lines -/

section

open Source

variable {base : Int} {labels : List (Text × Nat)} {line w r : Text}

/-- The mnemonic of an instruction that runs survives all changes of spelling. -/
theorem spelled_mnemonic {op : Operation} (h : named? (upper w) = some op) :
    renameRegisters false (lower w) = lower w ∧ named? (upper (lower w)) = named? (upper w) := by
  have hw := lettered_of_named? h
  exact ⟨renameRegisters_of_not_isDigit hw.not_isDigit_lower false, by rw [hw.upper_lower]⟩

theorem parted_spelled {op : Operation} (h : Parted (squeeze line) w r) (hop : named? (upper w) = some op) :
    Parted (spelled line) (lower w) (renameRegisters false (lower (tightenCommas r))) := by
  have := (h.tightenCommas (lettered_of_named? hop).last_ne_comma).piecewise piecewise_rename_lower
  rwa [(spelled_mnemonic hop).1] at this

/-- A move of an immediate and the addition for it, each with its operands. -/
theorem parted_moveOf {target value line out : Text} (m : MoveOf target value line out) :
    Parted line ['m', 'o', 'v'] (target ++ ([',', '#'] ++ value)) ∧
      Parted out ['a', 'd', 'd'] (target ++ ([',', 'x', 'z', 'r', ',', '#'] ++ value)) := by
  have hsolid : ∀ zero, Solid zero → Solid (target ++ (zero ++ value)) := fun zero hz =>
    Solid.append (fun c hc => (m.target_plain c hc).1) (hz.append (solid_of_negatable? m.value_isSome).2.solid)
  constructor
  · rw [m.line_eq]
    exact .space (w := ['m', 'o', 'v']) (by simp) (by unfold Solid; decide)
      (.word (by simp) (hsolid [',', '#'] (by unfold Solid; decide)))
  · rw [m.out_eq]
    exact .space (w := ['a', 'd', 'd']) (by simp) (by unfold Solid; decide)
      (.word (by simp) (hsolid [',', 'x', 'z', 'r', ',', '#'] (by unfold Solid; decide)))

/-- Only a move is spelled as a move of an immediate. -/
theorem mov_of_moveOf {op : Operation} {target value out : Text} (h : Parted (squeeze line) w r)
    (hop : named? (upper w) = some op) (m : MoveOf target value (spelled line) out) :
    op = .mov ∧ renameRegisters false (lower (tightenCommas r)) = target ++ ([',', '#'] ++ value) := by
  obtain ⟨hw, hr⟩ := (parted_spelled h hop).unique (parted_moveOf m).1
  have hknown := (spelled_mnemonic hop).2
  rw [hop, hw, show named? (upper ['m', 'o', 'v']) = some .mov by decide] at hknown
  exact ⟨(Option.some.inj hknown).symm, hr⟩

/-- The line of an instruction that runs is a move of an immediate or in normal form already. -/
theorem normalize_of_named? {op : Operation} (h : Parted (squeeze line) w r) (hop : named? (upper w) = some op) :
    (∃ target value, MoveOf target value (spelled line) (normalize line)) ∨ normalize line = spelled line := by
  rcases normalize_cases line with ⟨hswi, -⟩ | ⟨-, hmove⟩ | ⟨-, -, hn⟩
  · exact absurd ((parted_spelled h hop).prefix_word (by unfold Stopless; decide) hswi) (not_swi_of_named? hop)
  · exact .inl (exists_moveOf hmove)
  · exact .inr hn

theorem splitOperands_respell (hb : 0 ≤ base) (hl : Named labels) (r : Text) :
    splitOperands (resolve base labels (renameRegisters false (lower (tightenCommas r)))) =
      (splitOperands r).map (respell base labels) := by
  have := splitOperands_piecewise (piecewise_respelling hb hl) (tightenCommas r)
  rw [this, splitOperands_tightenCommas, List.map_map]
  rfl

variable {l : Listing} (hb : 0 ≤ base) (ha : Apart labels)
  (hlabels : l.labels = labels.map fun x => (x.1, (x.2 : Int))) (hstart : l.codeStart = some base)
  (hbound : ∀ x ∈ labels, Word.wrap (base + x.2 * instructionSize) = base + x.2 * instructionSize)

include hb ha hlabels hstart hbound

theorem stands_operand {o : Text} (ho : o ∈ splitOperands r) {x : Operand} (hx : Operand.read o = .ok x) :
    x.kind = .unsupported ∨ ∃ x', Operand.read (respell base labels o) = .ok x' ∧ Stands l x.kind x'.kind := by
  have hmem : respell base labels o ∈
      splitOperands (resolve base labels (renameRegisters false (lower (tightenCommas r)))) := by
    rw [splitOperands_respell hb ha.named]
    exact List.mem_map_of_mem ho
  have ht := trimmed_of_mem_splitOperands ho
  rcases stands_respell hb ha hlabels hstart hbound ht (kind_of_read ht hx) with hnone | ⟨k', hk', hstands⟩
  · exact .inl hnone
  · exact .inr ⟨_, read_of_kind (trimmed_of_mem_splitOperands hmem) hk', hstands⟩

/-- Operands that are read, and read again as they are spelled anew, stand for one another. -/
theorem stands_operands {os os' : List Operand} (hos : (splitOperands r).mapM Operand.read = .ok os)
    (hos' : (splitOperands (resolve base labels (renameRegisters false (lower (tightenCommas r))))).mapM Operand.read =
      .ok os') : List.Forall₂ (fun o o' => Stands l o.kind o'.kind) os os' := by
  rw [splitOperands_respell hb ha.named, List.mapM_map] at hos'
  refine forall₂_of_mapM hos hos' fun o ho x x' hx hx' => ?_
  rcases stands_operand hb ha hlabels hstart hbound ho hx with hnone | ⟨x'', hx'', hstands⟩
  · rw [hnone]
    exact .unsupported _
  · obtain rfl := Except.ok.inj (hx'.symm.trans hx'')
    exact hstands

/-- Operands that something can be done with can all be read as they are spelled anew. -/
theorem exists_read_operands {os : List Operand} (hos : (splitOperands r).mapM Operand.read = .ok os)
    (hall : ∀ o ∈ os, o.kind ≠ .unsupported) :
    ∃ os', (splitOperands (resolve base labels (renameRegisters false (lower (tightenCommas r))))).mapM Operand.read =
      .ok os' := by
  rw [splitOperands_respell hb ha.named, List.mapM_map]
  refine exists_mapM_eq_ok fun o ho => ?_
  obtain ⟨x, hmem, hx⟩ := exists_mem_of_mapM hos ho
  rcases stands_operand hb ha hlabels hstart hbound ho hx with hnone | ⟨x', hx', -⟩
  · exact absurd hnone (hall x hmem)
  · exact ⟨x', hx'⟩

/-- The addition that is written for a move of an immediate finishes as the move does. -/
theorem finishes_moved {target value : Text} (m : MoveOf target value (spelled line) (normalize line))
    (hr : renameRegisters false (lower (tightenCommas r)) = target ++ ([',', '#'] ++ value))
    {i : Instruction} {p : Listing} {c c' : Cpu} {os : List Operand} (hos : (splitOperands r).mapM Operand.read = .ok os)
    (h : Finishes (mov.run l i os) c () c') :
    ∃ os', (splitOperands (resolve base labels (target ++ ([',', 'x', 'z', 'r', ',', '#'] ++ value)))).mapM Operand.read =
        .ok os' ∧ ∀ i', Finishes ((arithmetic .add).run p i' os') c () c' := by
  have hsolid : Solid target := fun c hc => (m.target_plain c hc).1
  have hcomma : ∀ c ∈ target, c ≠ ',' := fun c hc => (m.target_plain c hc).2
  have hvalue : Stopless ('#' :: value) := by
    intro c hc
    rcases List.mem_cons.1 hc with rfl | hc
    · decide
    · exact (solid_of_negatable? m.value_isSome).2 c hc
  have hzero : Stopless ['x', 'z', 'r'] := by
    unfold Stopless
    decide
  -- the move has two operands, so its target leaves no bracket open
  obtain ⟨x, y, rfl, hxk, hyk⟩ := mov_operands h
  obtain ⟨a, b, hab, hx, hy⟩ : ∃ a b, splitOperands r = [a, b] ∧ Operand.read a = .ok x ∧ Operand.read b = .ok y := by
    generalize splitOperands r = texts at hos
    rcases mapM_eq_ok_iff.1 hos with _ | ⟨hx, _ | ⟨hy, _ | _⟩⟩
    exact ⟨_, _, rfl, hx, hy⟩
  have hsplit : splitOperands (target ++ ',' :: '#' :: value) =
      [renameRegisters false (lower (tightenCommas a)), renameRegisters false (lower (tightenCommas b))] := by
    have := splitOperands_piecewise piecewise_rename_lower (tightenCommas r)
    rw [hr, splitOperands_tightenCommas, hab] at this
    simpa using this
  have hclosed := closed_of_two_operands hcomma hvalue (by simp [hsplit])
  rw [splitOperands_comma m.target_ne hsolid hcomma hclosed, splitOperands_of_stopless (by simp) hvalue] at hsplit
  simp only [List.cons.injEq, and_true] at hsplit
  -- the target and the value are the operands of the move, spelled anew
  have hxzr : resolve base labels ['x', 'z', 'r'] = ['x', 'z', 'r'] := by
    refine resolve_of_no_label ha.named (by decide) fun n hn heq => ha.keyword n hn ?_
    rw [heq]
    decide
  have hadd : splitOperands (resolve base labels (target ++ ([',', 'x', 'z', 'r', ',', '#'] ++ value))) =
      [respell base labels a, ['x', 'z', 'r'], respell base labels b] := by
    have hparts : splitOperands (target ++ ',' :: (['x', 'z', 'r'] ++ ',' :: '#' :: value)) =
        [target, ['x', 'z', 'r'], '#' :: value] := by
      rw [splitOperands_comma m.target_ne hsolid hcomma hclosed,
        splitOperands_comma (by simp) hzero.solid (fun c hc => (unparted_of_stopless hzero c hc).1) (by decide),
        splitOperands_of_stopless (by simp) hvalue]
    have := splitOperands_piecewise (piecewise_resolve hb ha.named)
      (target ++ ',' :: (['x', 'z', 'r'] ++ ',' :: '#' :: value))
    have hfirst : resolve base labels target = respell base labels a := congrArg _ hsplit.1
    have hlast : resolve base labels ('#' :: value) = respell base labels b := congrArg _ hsplit.2
    rw [hparts, List.map_cons, List.map_cons, List.map_cons, List.map_nil, hfirst, hxzr, hlast] at this
    exact this
  obtain ⟨x', hx', hsx⟩ := (stands_operand (r := r) hb ha hlabels hstart hbound (by simp [hab]) hx).resolve_left hxk
  obtain ⟨y', hy', hsy⟩ := (stands_operand (r := r) hb ha hlabels hstart hbound (by simp [hab]) hy).resolve_left hyk
  have hzr : Operand.read ['x', 'z', 'r'] = .ok ⟨.zero, ['x', 'z', 'r']⟩ := by decide +kernel
  rw [hadd]
  exact ⟨[x', ⟨.zero, ['x', 'z', 'r']⟩, y'], mapM_eq_ok_iff.2 (.cons hx' (.cons hzr (.cons hy' .nil))),
    fun i' => add_stands_for_mov hsx rfl hsy h⟩

/-- A line of the source that runs also runs as the listing has it, to the same effect, or it is read there with an
integer of too many digits in the place of an operand that nothing could be done with. -/
theorem prepared_line_runs (hl : Clean line) (ne : line ≠ []) (p : Listing) {c : Cpu} {size : Int} {e : Emulator}
    (h : (Emulator.mk c l size).run (squeeze line) = .ok e) :
    (Emulator.mk c p size).run (instructionText base labels line) = .ok { e with listing := p } ∨
      (∃ cause, Instruction.read (instructionText base labels line) 0 = .error (.digits cause)) ∧
        ∃ i, Instruction.read (squeeze line) 0 = .ok i ∧ ∃ o ∈ i.operands, o.kind = .unsupported := by
  obtain ⟨w, r, hparted⟩ := exists_parted (tidy_squeeze hl.trimmed ne)
  have hfree : CommentFree (squeeze line) := by
    rw [CommentFree, scan_after_squeeze]
    exact hl.commentFree
  obtain ⟨i, op, c', hread, hop, hfin, rfl⟩ := Emulator.finishes_of_run h
  have hparts := hread
  rw [hparted.read hfree] at hparts
  obtain ⟨os, hos, rfl⟩ := mapM_of_ofParts hparts
  have hres := piecewise_resolve hb ha.named
  have hfree' : CommentFree (instructionText base labels line) :=
    commentFree_instructionText hres (tidy_normalize hl.trimmed ne) (commentFree_normalize hl.commentFree)
  rcases normalize_of_named? hparted hop with ⟨target, value, m⟩ | hn
  · obtain ⟨rfl, hr⟩ := mov_of_moveOf hparted hop m
    have haddOp : named? (upper ['a', 'd', 'd']) = some (.arithmetic .add) := by decide
    obtain ⟨os', hos', hadd⟩ := finishes_moved (p := p) hb ha hlabels hstart hbound m hr hos hfin
    have hread' := ((parted_moveOf m).2.instructionText hres).read hfree' 0
    rw [ofParts_of_mapM hos'] at hread'
    exact .inl (Emulator.run_of_finishes hread' haddOp (hadd _))
  · have hspelled := parted_spelled hparted hop
    rw [← hn] at hspelled
    have hknown : named? (upper (lower w)) = some op := (spelled_mnemonic hop).2.trans hop
    have hread' := (hspelled.instructionText hres).read hfree' 0
    cases hos' : (splitOperands (resolve base labels (renameRegisters false (lower (tightenCommas r))))).mapM
        Operand.read with
    | ok os' =>
      rw [ofParts_of_mapM hos'] at hread'
      exact .inl (Emulator.run_of_finishes hread' hknown
        (run_stands (stands_operands hb ha hlabels hstart hbound hos hos') hfin))
    | error cause =>
      refine .inr ⟨⟨cause, by rw [hread', Instruction.ofParts, hos']⟩, _, hread, ?_⟩
      by_contra hall
      obtain ⟨os', hok⟩ := exists_read_operands hb ha hlabels hstart hbound hos fun o ho hk => hall ⟨o, ho, hk⟩
      simp [hos'] at hok

end

/-- A plain source is prepared without a change of meaning. Read as a listing and put at the base it has the
lines that the prepared text has, and whatever a line of it makes of a processor, the prepared line makes too. There
is one exception: an operand that nothing can be done with, and that the line does not look at when it runs, may be
prepared to one with an integer of too many digits, and then the prepared line cannot be read. -/
theorem prepared_source_runs_alike {source : Text} {base : Int} {l : Listing}
    (hplain : isAddressListing source = false) (hblock : ¬ "/*".toList <:+: source)
    (hdot : ∀ line ∈ lines source, (trim (stripComment line)).head? ≠ some '.')
    (hread : Listing.read source = .ok l) (hbase : 0 ≤ base)
    (hlimit : base + l.lines.length * instructionSize < Word.limit)
    (hlabels : ∀ x ∈ l.labels, registerNamed? x.1 = none ∧ x.1 ∉ zeroNames ∧ Source.renameRegisters false x.1 = x.1) :
    ∃ p, Listing.read (prepare source base) = .ok p ∧ (l.lines ≠ [] → p.codeStart = some base) ∧
      p.lines.length = l.lines.length ∧
      ∀ (i : Nat) (u v : Text), l.lines[i]? = some u → p.lines[i]? = some v →
        ∀ (c : Cpu) (size : Int) (e : Emulator), (Emulator.mk c { l with codeStart := some base } size).run u = .ok e →
          (Emulator.mk c p size).run v = .ok { e with listing := p } ∨
            (∃ cause, Instruction.read v 0 = .error (.digits cause)) ∧
              ∃ i, Instruction.read u 0 = .ok i ∧ ∃ o ∈ i.operands, o.kind = .unsupported := by
  obtain ⟨b, rfl⟩ := Int.eq_ofNat_of_zero_le hbase
  have hagrees := agrees_of_read hplain hblock hdot hread
  have hsound := Source.sound_read source
  have hlen : l.lines.length = (Source.read source).instructions.length := by simp [hagrees.lines]
  have hapart : Source.Apart (Source.read source).labels := by
    have hall : ∀ n ∈ (Source.read source).labels,
        registerNamed? n.1 = none ∧ n.1 ∉ zeroNames ∧ Source.renameRegisters false n.1 = n.1 := by
      intro n hn
      apply hlabels (n.1, (n.2 : Int))
      rw [hagrees.labels]
      exact List.mem_map_of_mem hn
    refine ⟨hsound.named, fun n hn hk => ?_, fun n hn => (hall n hn).2.2⟩
    rcases List.mem_append.1 hk with hk | hk
    · obtain ⟨r, hr⟩ := exists_registerNamed? hk
      simp [(hall n hn).1] at hr
    · exact (hall n hn).2.1 hk
  have hbound : ∀ x ∈ (Source.read source).labels,
      Word.wrap ((b : Int) + x.2 * instructionSize) = (b : Int) + x.2 * instructionSize := by
    intro x hx
    have hindex := hsound.index x hx
    rw [hlen] at hlimit
    have hsize : instructionSize = 4 := rfl
    refine Word.wrap_of_range (by positivity) ?_
    rw [hsize] at hlimit ⊢
    push_cast at hlimit ⊢
    omega
  refine ⟨_, read_prepare source b, ?_, ?_, ?_⟩
  · intro hne
    have : preparedLines source b ≠ [] := by
      rw [hagrees.lines] at hne
      simpa [preparedLines] using hne
    simp [this]
  · simp [preparedLines, hlen]
  · intro i u v hu hv c size e hrun
    rw [hagrees.lines, List.getElem?_map, Option.map_eq_some_iff] at hu
    obtain ⟨line, hline, rfl⟩ := hu
    simp only [preparedLines, List.getElem?_map, hline, Option.map_some, Option.some.injEq] at hv
    obtain ⟨ne, hclean⟩ := hsound.clean line (List.mem_of_getElem? hline)
    rw [← hv]
    exact prepared_line_runs (l := { l with codeStart := some (b : Int) }) hbase hapart hagrees.labels rfl hbound
      hclean ne _ hrun

/-- A source that counts down from three. -/
def countdownSource : Text := "MOV X1, #3\nagain: sub x1, x1, #1\n  cbnz X1, Again\n"

/-- What it is read as without preparation. -/
def countdownListing : Listing :=
  ⟨none, ["MOV X1, #3".toList, "sub x1, x1, #1".toList, "cbnz X1, Again".toList], [("again".toList, 1)]⟩

theorem lines_countdownSource :
    lines countdownSource = ["MOV X1, #3".toList, "again: sub x1, x1, #1".toList, "  cbnz X1, Again".toList] := by
  decide

theorem stripComment_countdownSource : stripComment "MOV X1, #3".toList = "MOV X1, #3".toList ∧
    stripComment "again: sub x1, x1, #1".toList = "again: sub x1, x1, #1".toList ∧
    stripComment "  cbnz X1, Again".toList = "  cbnz X1, Again".toList := by
  refine ⟨stripComment_of_commentFree ?_, stripComment_of_commentFree ?_, stripComment_of_commentFree ?_⟩
  all_goals
    unfold CommentFree
    decide

theorem countdown_runs_alike :
    isAddressListing countdownSource = false ∧ ¬ "/*".toList <:+: countdownSource ∧
    (∀ line ∈ lines countdownSource, (trim (stripComment line)).head? ≠ some '.') ∧
    Listing.read countdownSource = .ok countdownListing ∧ (0 : Int) ≤ 0x1000 ∧
    (0x1000 : Int) + countdownListing.lines.length * instructionSize < Word.limit ∧
    (∀ x ∈ countdownListing.labels,
      registerNamed? x.1 = none ∧ x.1 ∉ zeroNames ∧ Source.renameRegisters false x.1 = x.1) ∧
    ∃ p, Listing.read (prepare countdownSource 0x1000) = .ok p ∧ p.codeStart = some 0x1000 ∧ p.lines.length = 3 ∧
      ∀ v, p.lines[2]? = some v →
        (Emulator.mk (Cpu.initial.setReg 1 3) p 0).run v = .ok ⟨(Cpu.initial.setReg 1 3).put .pc 0x1004, p, 0⟩ := by
  obtain ⟨h1, h2, h3⟩ := stripComment_countdownSource
  have hplain : isAddressListing countdownSource = false := by
    simp only [isAddressListing, lines_countdownSource, List.any_cons, List.any_nil, Line.read, h1, h2, h3]
    rfl
  have hblock : ¬ "/*".toList <:+: countdownSource := by decide
  have hdot : ∀ line ∈ lines countdownSource, (trim (stripComment line)).head? ≠ some '.' := by
    simp only [lines_countdownSource, List.forall_mem_cons, h1, h2, h3]
    decide
  have hread : Listing.read countdownSource = .ok countdownListing := by
    simp only [Listing.read, lines_countdownSource, Listing.placeAll, Listing.place, Line.read, h1, h2, h3]
    rfl
  have hlimit : (0x1000 : Int) + countdownListing.lines.length * instructionSize < Word.limit := by decide
  have hlabels : ∀ x ∈ countdownListing.labels,
      registerNamed? x.1 = none ∧ x.1 ∉ zeroNames ∧ Source.renameRegisters false x.1 = x.1 := by
    decide
  have hline : Instruction.read "cbnz X1, Again" 0 =
      .ok ⟨"cbnz X1, Again", "CBNZ", [⟨.reg 1, "X1"⟩, ⟨.label "again", "Again"⟩]⟩ := by
    rw [Instruction.read, stripComment_of_commentFree (by unfold CommentFree; decide)]
    rfl
  have hruns : (Emulator.mk (Cpu.initial.setReg 1 3) { countdownListing with codeStart := some 0x1000 } 0).run
      "cbnz X1, Again" =
        .ok ⟨(Cpu.initial.setReg 1 3).put .pc 0x1004, { countdownListing with codeStart := some 0x1000 }, 0⟩ := by
    simp only [Emulator.run, Emulator.performLine, hline]
    rfl
  obtain ⟨p, hp, hstart, hlen, hsim⟩ :=
    prepared_source_runs_alike hplain hblock hdot hread (by decide) hlimit hlabels
  refine ⟨hplain, hblock, hdot, hread, by decide, hlimit, hlabels, p, hp, hstart (by decide), hlen, fun v hv => ?_⟩
  refine (hsim 2 "cbnz X1, Again" v rfl hv (Cpu.initial.setReg 1 3) 0 _ hruns).resolve_right fun h => ?_
  obtain ⟨-, i, hread', o, ho, hk⟩ := h
  obtain rfl := Except.ok.inj (hline.symm.trans hread')
  rcases List.mem_pair.1 ho with rfl | rfl
  · simp at hk
  · simp at hk

end Stepper
