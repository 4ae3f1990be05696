import Stepper.Proofs.Asm.Outline
import Stepper.Proofs.Machine.Effect
import Stepper.Proofs.Machine.Program
import Stepper.Proofs.Machine.Simulation

/-! Where the branches of a plain source go. A branch to a label is prepared as a branch to an address, the address
of the slot behind the instructions in front of the label. -/

namespace Stepper

open Asm Numeral Text Unicode Operation

namespace Operation

/-- The operand that tells where a branch goes, taken or not. -/
def target? {α : Type} : Operation → List α → Option α
  | b, [target] => some target
  | bl, [target] => some target
  | compareBranch _, [_, target] => some target
  | _, _ => none

variable {c : Cpu} {i i' : Instruction} {op : Operation}

theorem target?_of_jump? {os : List Operand} {t : Operand} (h : op.jump? c i os = some t) : op.target? os = some t := by
  unfold jump? at h
  split at h
  · exact h
  · exact h
  · split at h
    · split at h
      · exact h
      · simp at h
    · simp at h
  · simp at h

/-- A branch that is taken can do something with each of its operands: one is the target, another has a value. -/
theorem target_or_value_of_jump? {os : List Operand} {t : Operand} (h : op.jump? c i os = some t) {o : Operand}
    (ho : o ∈ os) : o = t ∨ ∃ v, valueOf c i o = .ok v := by
  unfold jump? at h
  split at h
  · rw [List.mem_singleton.1 ho]
    exact .inl (Option.some.inj h)
  · rw [List.mem_singleton.1 ho]
    exact .inl (Option.some.inj h)
  · split at h
    · next v hv =>
      split at h
      · rcases List.mem_pair.1 ho with rfl | rfl
        · exact .inr ⟨v, hv⟩
        · exact .inl (Option.some.inj h)
      · simp at h
    · simp at h
  · simp at h

theorem target?_of_forall₂ {R : Operand → Operand → Prop} {os os' : List Operand} (h : List.Forall₂ R os os')
    {t : Operand} (ht : op.target? os = some t) : ∃ t', op.target? os' = some t' ∧ R t t' := by
  unfold target? at ht
  split at ht
  · rcases h with _ | ⟨hR, _ | _⟩
    exact ⟨_, rfl, Option.some.inj ht ▸ hR⟩
  · rcases h with _ | ⟨hR, _ | _⟩
    exact ⟨_, rfl, Option.some.inj ht ▸ hR⟩
  · rcases h with _ | ⟨-, _ | ⟨hR, _ | _⟩⟩
    exact ⟨_, rfl, Option.some.inj ht ▸ hR⟩
  · simp at ht

/-- A branch is taken on any operands that keep the values of those that it is taken on. -/
theorem jump?_of_forall₂ {os os' : List Operand}
    (hvalue : List.Forall₂ (fun o o' => ∀ v, valueOf c i o = .ok v → valueOf c i' o' = .ok v) os os')
    (h : (op.jump? c i os).isSome = true) : (op.jump? c i' os').isSome = true := by
  unfold jump? at h
  split at h
  · rcases hvalue with _ | ⟨-, _ | _⟩
    rfl
  · rcases hvalue with _ | ⟨-, _ | _⟩
    rfl
  · rcases hvalue with _ | ⟨hs, _ | ⟨-, _ | _⟩⟩
    split at h
    · next v hv =>
      split at h
      · next htaken => simp only [jump?, hs v hv, if_pos htaken, Option.isSome_some]
      · simp at h
    · simp at h
  · simp at h

/-- What jumps has a target, and the program counter is there. -/
theorem Effect.goal_of_jump {l : Listing} {c' : Cpu} {os : List Operand} {t : Operand} (h : Effect l i c op os c')
    (hjump : op.jump? c i os = some t) : ∃ a, targetOf l i t = .ok a ∧ c'.get .pc = a := by
  cases h with
  | keeps hnone => simp [hjump] at hnone
  | sets hnone => simp [hjump] at hnone
  | stores hnone => simp [hjump] at hnone
  | returns hnone => simp [hjump] at hnone
  | jumps hto goal =>
    obtain rfl := Option.some.inj (hjump.symm.trans hto)
    exact ⟨_, goal, by simp [Cpu.get_put]⟩
  | calls hto goal =>
    obtain rfl := Option.some.inj (hjump.symm.trans hto)
    exact ⟨_, goal, by simp [Cpu.get_put]⟩

end Operation

namespace Emulator

variable {e : Emulator} {u : Text} {i : Instruction} {op : Operation} {t : Operand}

/-- A branch that is taken to a known target runs and leaves the program counter there. -/
theorem run_of_jump (hread : Instruction.read u 0 = .ok i) (hop : named? i.mnemonic = some op)
    (hjump : op.jump? e.cpu i i.operands = some t) {a : Int} (ha : targetOf e.listing i t = .ok a) :
    ∃ c, e.run u = .ok { e with cpu := c } ∧ c.get .pc = a := by
  obtain ⟨c, hfin⟩ := finishes_of_jump hjump ha
  obtain ⟨a', ha', hpc⟩ := (effect_of_finishes hfin).goal_of_jump hjump
  obtain rfl := Except.ok.inj (ha.symm.trans ha')
  exact ⟨c, run_of_finishes hread hop hfin, hpc⟩

/-- A branch that is taken to no target is refused. -/
theorem run_of_lost (hread : Instruction.read u 0 = .ok i) (hop : named? i.mnemonic = some op)
    (hjump : op.jump? e.cpu i i.operands = some t) (ha : ∀ a, targetOf e.listing i t ≠ .ok a) :
    ∃ cause, e.run u = .error cause := by
  cases hrun : e.run u with
  | error cause => exact ⟨cause, rfl⟩
  | ok e' =>
    obtain ⟨i', op', c, hread', hop', hfin, -⟩ := finishes_of_run hrun
    obtain rfl := Except.ok.inj (hread.symm.trans hread')
    obtain rfl := Option.some.inj (hop.symm.trans hop')
    obtain ⟨a, hgoal, -⟩ := (effect_of_finishes hfin).goal_of_jump hjump
    exact absurd hgoal (ha a)

end Emulator

/-! ### Operands of branches -/

namespace Asm.Source

variable {base : Int} {labels : List (Text × Nat)} (hb : 0 ≤ base) (hl : Named labels)

include hb hl in
theorem trim_respell (o : Text) : trim (respell base labels o) = respell base labels (trim o) := by
  have := (piecewise_respelling hb hl).trim (tightenCommas o)
  rw [trim_tightenCommas] at this
  exact this.symm

/-- An operand as the machine reads it in the listing of the source. -/
def preparedOperand (base : Int) (labels : List (Text × Nat)) (o : Text) : Except DigitError Operand :=
  Operand.read (respell base labels (squeeze o))

include hb hl

theorem preparedOperand_of_kind {o : Text} (ho : Solid o) {k : OperandKind}
    (hk : OperandKind.read (respell base labels o) = .ok k) :
    preparedOperand base labels o = .ok ⟨k, respell base labels o⟩ := by
  have ht : Trimmed (respell base labels o) := by
    have := trimmed_trim (respell base labels o)
    rwa [trim_respell hb hl, trim_of_trimmed ho.trimmed] at this
  rw [preparedOperand, squeeze_of_solid ho]
  exact read_of_kind ht hk

/-- What has a value keeps it. -/
theorem exists_preparedOperand_of_value (hno : ∀ l ∈ labels, l.1 ∉ keywords) {o : Text} (ho : Trimmed o) {x : Operand}
    (hx : Operand.read o = .ok x) {c : Cpu} {i : Instruction} {v : Int} (h : valueOf c i x = .ok v) :
    ∃ x', preparedOperand base labels o = .ok x' ∧ x'.kind = x.kind := by
  have hk := kind_of_read ho hx
  have hsame : OperandKind.read (respell base labels o) = .ok x.kind ∧ Solid o := by
    unfold valueOf at h
    generalize hkind : x.kind = k at h hk
    cases readAs hk with
    | reg hr =>
      have hkey := mem_keywords_of_registerNamed? hr
      exact ⟨(read_respell_keyword hl hno hkey).trans hk, (stopless_of_keyword hkey).solid⟩
    | zero _ hz =>
      have hkey : lower o ∈ keywords := List.mem_append_right _ hz
      exact ⟨(read_respell_keyword hl hno hkey).trans hk, (stopless_of_keyword hkey).solid⟩
    | imm hd hv =>
      rw [immediateDigits?_eq_some_iff, trim_of_trimmed ho] at hd
      refine ⟨?_, hd.stopless.2.solid⟩
      rw [read_respell_writtenInt hl hd, hv]
      rfl
    | mem => simp [refuse] at h
    | label => simp [refuse] at h
    | unsupported => simp [refuse] at h
  exact ⟨_, preparedOperand_of_kind hb hl hsame.2 hsame.1, rfl⟩

omit hb hl in
theorem valueOf_congr {c : Cpu} {i i' : Instruction} {x x' : Operand} (hkind : x'.kind = x.kind) {v : Int}
    (h : valueOf c i x = .ok v) : valueOf c i' x' = .ok v := by
  unfold valueOf at h ⊢
  rw [hkind]
  cases hk : x.kind with
  | reg r => simpa [hk] using h
  | zero => simpa [hk] using h
  | imm v => simpa [hk] using h
  | mem => simp [hk, refuse] at h
  | label => simp [hk, refuse] at h
  | unsupported => simp [hk, refuse] at h

omit hb hl in
theorem isName_of_label {o name : Text} (h : OperandKind.read o = .ok (.label name)) :
    isName o = true ∧ name = lower o := by
  cases readAs h with
  | label hn => exact ⟨hn, rfl⟩

/-- A name that is a label becomes its address, and one that is no label becomes no address. -/
theorem exists_preparedOperand_of_label {o name : Text} (ho : OperandKind.read o = .ok (.label name)) :
    ∃ x, preparedOperand base labels o = .ok x ∧
      (∀ k, labels.lookup (renameRegisters false name) = some k → x.kind = .imm (base + k * instructionSize)) ∧
      (labels.lookup (renameRegisters false name) = none → ∀ v, x.kind ≠ .imm v) := by
  obtain ⟨hname, rfl⟩ := isName_of_label ho
  have hsolid := (labelName_of_isName hname).stopless.solid
  cases hk : labels.lookup (renameRegisters false (lower o)) with
  | some k =>
    refine ⟨_, preparedOperand_of_kind hb hl hsolid (read_respell_label hb hl hname hk), ?_, by simp⟩
    rintro k' hk'
    obtain rfl := Option.some.inj hk'
    rfl
  | none =>
    obtain ⟨kind, hread, hno⟩ := exists_read_of_no_label hl hname hk
    exact ⟨_, preparedOperand_of_kind hb hl hsolid hread, by simp, fun _ => hno⟩

/-- A branch of a source as the listing has it. -/
structure PreparedBranch (base : Int) (labels : List (Text × Nat)) (op : Operation) (i : Instruction) (name : Text)
    (u : Text) (i' : Instruction) (t : Operand) : Prop where
  read : Instruction.read u 0 = .ok i'
  names : named? i'.mnemonic = some op
  target : op.target? i'.operands = some t
  taken : ∀ c, (op.jump? c i i.operands).isSome = true → (op.jump? c i' i'.operands).isSome = true
  label : ∀ k, labels.lookup (renameRegisters false name) = some k → t.kind = .imm (base + k * instructionSize)
  lost : labels.lookup (renameRegisters false name) = none → ∀ v, t.kind ≠ .imm v

/-- A branch that can be taken is a branch in the listing too. One that is never taken may have an operand there that
nothing could be done with and that is now an integer of too many digits. -/
theorem exists_preparedBranch (hno : ∀ l ∈ labels, l.1 ∉ keywords) {line : Text} (hc : Clean line) (ne : line ≠ [])
    {i : Instruction} {op : Operation} {t : Operand} {name : Text} (hread : Instruction.read line 0 = .ok i)
    (hop : named? i.mnemonic = some op) (ht : op.target? i.operands = some t) (hname : t.kind = .label name) :
    (∃ i' t', PreparedBranch base labels op i name (instructionText base labels line) i' t') ∨
      (∃ cause, Instruction.read (instructionText base labels line) 0 = .error (.digits cause)) ∧
        ∀ c, op.jump? c i i.operands = none := by
  obtain ⟨w, r, hparted, hline⟩ := read_of_trimmed hc.trimmed ne hc.commentFree 0
  rw [hline] at hread
  obtain ⟨os, hos, rfl⟩ := mapM_of_ofParts hread
  -- a branch is no move, so its line is only spelled anew
  have hn : normalize line = spelled line := by
    rcases normalize_of_named? hparted hop with ⟨target, value, m⟩ | hn
    · obtain ⟨rfl, -⟩ := mov_of_moveOf hparted hop m
      simp [target?] at ht
    · exact hn
  have hspelled := parted_spelled hparted hop
  rw [← hn] at hspelled
  have hres := piecewise_resolve hb hl
  have hfree : CommentFree (instructionText base labels line) :=
    commentFree_instructionText hres (tidy_normalize hc.trimmed ne) (commentFree_normalize hc.commentFree)
  have hread' := (hspelled.instructionText hres).read hfree 0
  have hops : (splitOperands (resolve base labels (renameRegisters false (lower (tightenCommas (squeeze r)))))).mapM
      Operand.read = (splitOperands r).mapM (preparedOperand base labels) := by
    rw [splitOperands_respell hb hl, splitOperands_squeeze, List.map_map, List.mapM_map]
    rfl
  have htrimmed : ∀ o ∈ splitOperands r, Trimmed o := fun o => trimmed_of_mem_splitOperands
  -- an operand that is the target or has a value can be read
  have hknown : ∀ o ∈ splitOperands r, ∀ x, Operand.read o = .ok x →
      (x = t ∨ ∃ c i v, valueOf c i x = .ok v) → ∃ x', preparedOperand base labels o = .ok x' := by
    rintro o ho x hx (rfl | ⟨c, i, v, hv⟩)
    · have hkind := kind_of_read (htrimmed o ho) hx
      rw [hname] at hkind
      obtain ⟨x', hx', -⟩ := exists_preparedOperand_of_label hb hl hkind
      exact ⟨x', hx'⟩
    · obtain ⟨x', hx', -⟩ := exists_preparedOperand_of_value hb hl hno (htrimmed o ho) hx hv
      exact ⟨x', hx'⟩
  cases hos' : (splitOperands r).mapM (preparedOperand base labels) with
  | error cause =>
    refine .inr ⟨⟨cause, by rw [hread', Instruction.ofParts, hops, hos']⟩, fun c => ?_⟩
    by_contra hjump
    obtain ⟨t', hjump⟩ := Option.ne_none_iff_exists'.1 hjump
    obtain rfl := Option.some.inj ((target?_of_jump? hjump).symm.trans ht)
    obtain ⟨os', hok⟩ := exists_mapM_eq_ok fun o ho => by
      obtain ⟨x, hmem, hx⟩ := exists_mem_of_mapM hos ho
      refine hknown o ho x hx ((target_or_value_of_jump? hjump hmem).imp_right ?_)
      rintro ⟨v, hv⟩
      exact ⟨c, _, v, hv⟩
    simp [hos'] at hok
  | ok os' =>
    have hpairs : List.Forall₂ (fun x x' => ∃ o ∈ splitOperands r, Operand.read o = .ok x ∧
        preparedOperand base labels o = .ok x') os os' :=
      forall₂_of_mapM hos hos' fun o ho x x' hx hx' => ⟨o, ho, hx, hx'⟩
    obtain ⟨t', ht', o, ho, hx, hx'⟩ := target?_of_forall₂ hpairs ht
    have hkind := kind_of_read (htrimmed o ho) hx
    rw [hname] at hkind
    obtain ⟨x, hlabel, hfound, hlost⟩ := exists_preparedOperand_of_label hb hl hkind
    obtain rfl := Except.ok.inj (hlabel.symm.trans hx')
    rw [ofParts_of_mapM (hops.trans hos')] at hread'
    refine .inl ⟨_, x, hread', (spelled_mnemonic hop).2.trans hop, ht', fun c htaken => ?_, hfound, hlost⟩
    refine jump?_of_forall₂ (hpairs.imp ?_) htaken
    rintro x x' ⟨o, ho, hx, hx'⟩ v hv
    obtain ⟨x'', hx'', hkind⟩ := exists_preparedOperand_of_value hb hl hno (htrimmed o ho) hx hv
    obtain rfl := Except.ok.inj (hx'.symm.trans hx'')
    exact valueOf_congr hkind hv

end Asm.Source

open Asm.Source

namespace Emulator

variable {source : Text} {base : Int} {op : Operation} {i i' : Instruction} {name u : Text} {t : Operand}

/-- In a listing without labels only an integer is a target. -/
theorem targetOf_ne_ok {l : Listing} (hlabels : l.labels = []) (ht : ∀ v, t.kind ≠ .imm v) (a : Int) :
    targetOf l i t ≠ .ok a := by
  unfold targetOf
  cases hk : t.kind with
  | imm v => exact absurd hk (ht v)
  | label name => simp [Listing.labelAddress?, hlabels, refuse]
  | reg => simp [refuse]
  | zero => simp [refuse]
  | mem => simp [refuse]
  | unsupported => simp [refuse]

/-- A branch that is taken goes to the slot of its label, and without a label it is refused. -/
theorem run_preparedBranch {labels : List (Text × Nat)} (h : PreparedBranch base labels op i name u i' t) {m : Emulator}
    (hlabels : m.listing.labels = []) (htaken : (op.jump? m.cpu i' i'.operands).isSome = true) :
    (∀ k, labels.lookup (renameRegisters false name) = some k →
      ∃ c, m.run u = .ok { m with cpu := c } ∧ c.get .pc = Word.wrap (base + k * instructionSize)) ∧
    (labels.lookup (renameRegisters false name) = none → ∃ cause, m.run u = .error cause) := by
  obtain ⟨t', hjump⟩ := Option.isSome_iff_exists.1 htaken
  obtain rfl := Option.some.inj (h.target.symm.trans (target?_of_jump? hjump))
  refine ⟨fun k hk => run_of_jump h.read h.names hjump ?_, fun hnone => run_of_lost h.read h.names hjump ?_⟩
  · simp [targetOf, h.label k hk]
  · exact targetOf_ne_ok hlabels (h.lost hnone)

/-- What a machine holds once it has loaded a plain source. -/
theorem listing_of_load_plain (base : Nat) (hplain : isAddressListing source = false) (e : Emulator) {d : Device} {path : Text}
    (spStart : Int) (hread : readText d path = .ok source) :
    (e.load d path base spStart).state.listing = ⟨some base, (preparedLines source base).take maxLines, []⟩ := by
  rw [(e.load_of_listing spStart hread (listingOf_plain hplain)).1, (e.install_eq path _ base spStart d.room).1]
  have hstart : (preparedListing source base).codeStart.getD base = base := by
    unfold preparedListing
    dsimp only
    split <;> rfl
  simp only [anchor, hstart, trimListing]
  split
  · rfl
  · next hshort =>
    have : (preparedLines source base).length ≤ maxLines := Nat.not_lt.1 hshort
    simp [preparedListing, List.take_of_length_le this]

end Emulator

/-- The address of the slot behind some lines of a source. -/
def slotBehind (base : Int) (before : List Text) : Int :=
  base + (before.filterMap instructionOf?).length * instructionSize

/-- The line `u` of a machine is a branch to the label `name` of a source, read as `i` there and as `i'` here. The
label is looked up by its name with the other names of registers. -/
structure BranchRuns (m : Emulator) (source : Text) (base : Int) (op : Operation) (i : Instruction) (name u : Text)
    (i' : Instruction) : Prop where
  read : Instruction.read u 0 = .ok i'
  names : named? i'.mnemonic = some op
  taken : ∀ c, (op.jump? c i i.operands).isSome = true → (op.jump? c i' i'.operands).isSome = true
  reaches : ∀ c, (op.jump? c i' i'.operands).isSome = true → ∀ before line after,
    cleanLines source = before ++ line :: after → labelOf? line = some (renameRegisters false name) →
    slotBehind base before < Word.limit →
    ∃ c', Emulator.run { m with cpu := c } u = .ok { m with cpu := c' } ∧ c'.get .pc = slotBehind base before
  lost : ∀ c, (op.jump? c i' i'.operands).isSome = true →
    renameRegisters false name ∉ (cleanLines source).filterMap labelOf? →
    ∃ cause, Emulator.run { m with cpu := c } u = .error cause

/-- A source whose labels have different names, none of them a register, is read as it is meant if and only if no label
starts with a dot and no directive stands behind a label. In such a source directives take no slot, and a branch that
is taken to a label goes to the slot behind the instructions in front of it. What it goes by is the name as the
registers in it are renamed: `loop.r1` is looked up as `loop.x1`, and where there is no such label the branch is
refused. A branch that is never taken, whatever the processor holds, may have an operand that is spelled as an integer of
too many digits to be read, and then no more is said of it. -/
theorem taken_branches_reach_labels {source : Text} {base : Int} (hplain : isAddressListing source = false)
    (hbase : 0 ≤ base) (hdistinct : ((cleanLines source).filterMap labelOf?).Nodup)
    (hnames : ∀ name ∈ (cleanLines source).filterMap labelOf?, name ∉ keywords) :
    (Source.read source = outline source ↔ ∀ line ∈ cleanLines source, conventional line = true) ∧
    ((∀ line ∈ cleanLines source, conventional line = true) →
      ∀ (e : Emulator) (d : Device) (path : Text) (spStart : Int), Emulator.readText d path = .ok source →
        let m := (e.load d path base spStart).state
        m.codeStart = base ∧
        m.code = ((outline source).instructions.take Emulator.maxLines).map (instructionText base (outline source).labels) ∧
        ∀ (j : Nat) (line u : Text) (i : Instruction) (op : Operation) (t : Operand) (name : Text),
          (outline source).instructions[j]? = some line → m.code[j]? = some u → Instruction.read line 0 = .ok i →
          named? i.mnemonic = some op → op.target? i.operands = some t → t.kind = .label name →
          (∃ i', BranchRuns m source base op i name u i') ∨
            (∃ cause, Instruction.read u 0 = .error (.digits cause)) ∧ ∀ c, op.jump? c i i.operands = none) := by
  obtain ⟨b, rfl⟩ := Int.eq_ofNat_of_zero_le hbase
  refine ⟨read_eq_outline_iff hdistinct, fun hconventional e d path spStart hread => ?_⟩
  have hmeant := (read_eq_outline_iff hdistinct).2 hconventional
  have hlisting := e.listing_of_load_plain b hplain spStart hread
  have hsound := Source.sound_read source
  rw [hmeant] at hsound
  intro m
  have hlabels : m.listing.labels = [] := by rw [hlisting]
  have hlines : m.code = (preparedLines source b).take Emulator.maxLines := by rw [Emulator.code, hlisting]
  have hno : ∀ l ∈ (outline source).labels, l.1 ∉ keywords := by
    intro l hl
    apply hnames
    rw [← map_fst_placed instructionOf? 0]
    exact List.mem_map_of_mem hl
  refine ⟨by rw [Emulator.codeStart, hlisting]; rfl, by rw [hlines, preparedLines, hmeant, List.map_take], ?_⟩
  intro j line u i op t name hline hu hi hop ht hname
  obtain rfl : instructionText b (outline source).labels line = u := by
    rw [hlines, List.getElem?_take] at hu
    split at hu
    · simpa [preparedLines, hmeant, hline] using hu
    · simp at hu
  obtain ⟨ne, hclean⟩ := hsound.clean line (List.mem_of_getElem? hline)
  refine (exists_preparedBranch (Int.natCast_nonneg b) hsound.named hno hclean ne hi hop ht hname).imp_left ?_
  rintro ⟨i', t', hbranch⟩
  refine ⟨i', hbranch.read, hbranch.names, hbranch.taken, ?_, ?_⟩
  · intro c htaken before lab after hsplit hlab hlimit
    have hlookup := lookup_outline hdistinct hsplit hlab
    obtain ⟨c', hrun, hpc⟩ := (Emulator.run_preparedBranch (m := { m with cpu := c }) hbranch hlabels htaken).1 _ hlookup
    refine ⟨c', hrun, hpc.trans (Word.wrap_of_range ?_ hlimit)⟩
    positivity
  · intro c htaken hmissing
    exact (Emulator.run_preparedBranch (m := { m with cpu := c }) hbranch hlabels htaken).2 (lookup_placed_none hmissing 0)

/-- A loop whose label is written with a dot, a digit and a dollar, behind a directive. -/
def dollarSource : Text := "nop\n.word 5\nl.R1x$: sub X1, X1, #1\ncbnz X1, L.r1x$\n"

def dollarLines : List Text :=
  ["nop".toList, ".word 5".toList, "l.R1x$: sub X1, X1, #1".toList, "cbnz X1, L.r1x$".toList]

def dollarDevice : Device where
  working := "/"
  scratch := []
  room := 0x10000
  depth := 100
  nodes := [(["loop.s".toList], .file (Utf8.encode dollarSource))]

theorem lines_dollarSource : lines dollarSource = dollarLines := by decide

theorem commentFree_dollarLines : ∀ line ∈ dollarLines, CommentFree line := by
  unfold CommentFree
  decide

theorem commentFree_dollarSource : ∀ line ∈ lines dollarSource, CommentFree line := by
  rw [lines_dollarSource]
  exact commentFree_dollarLines

theorem cleanLines_dollarSource : cleanLines dollarSource = dollarLines := by
  rw [cleanLines_of_commentFree (by decide) commentFree_dollarSource, lines_dollarSource]
  decide

theorem dollar_loop_is_reached :
    isAddressListing dollarSource = false ∧ (0 : Int) ≤ 0x4000 ∧
    ((cleanLines dollarSource).filterMap labelOf?).Nodup ∧
    (∀ name ∈ (cleanLines dollarSource).filterMap labelOf?, name ∉ keywords) ∧
    (∀ line ∈ cleanLines dollarSource, conventional line = true) ∧
    Emulator.readText dollarDevice "loop.s" = .ok dollarSource ∧
    ∃ m u c, m = ((Emulator.create 0x100).load dollarDevice "loop.s" 0x4000 0x8000).state ∧ m.code[2]? = some u ∧
      Emulator.run { m with cpu := Cpu.initial.setReg 1 3 } u = .ok { m with cpu := c } ∧ c.get .pc = 0x4004 := by
  have hplain : isAddressListing dollarSource = false := by
    rw [isAddressListing_of_commentFree commentFree_dollarSource, lines_dollarSource]
    decide
  have hdistinct : ((cleanLines dollarSource).filterMap labelOf?).Nodup := by
    rw [cleanLines_dollarSource]
    decide
  have hnames : ∀ name ∈ (cleanLines dollarSource).filterMap labelOf?, name ∉ keywords := by
    rw [cleanLines_dollarSource]
    decide
  have hconventional : ∀ line ∈ cleanLines dollarSource, conventional line = true := by
    rw [cleanLines_dollarSource]
    decide
  have hread : Emulator.readText dollarDevice "loop.s" = .ok dollarSource := by
    have hnull : (Path.ofText "loop.s").hasNull = false := by decide
    have hfile : dollarDevice.read (Path.ofText "loop.s") = .ok (Utf8.encode dollarSource) := by decide
    have hreturn : '\r' ∉ dollarSource := by decide
    simp only [Emulator.readText, hnull, hfile, Utf8.readText_encode hreturn]
    rfl
  have hinstructions : (outline dollarSource).instructions =
      ["nop".toList, "sub X1, X1, #1".toList, "cbnz X1, L.r1x$".toList] := by
    rw [outline, cleanLines_dollarSource]
    decide
  have hbranch : Instruction.read "cbnz X1, L.r1x$" 0 = .ok ⟨"cbnz X1, L.r1x$", "CBNZ",
      [⟨.reg 1, "X1"⟩, ⟨.label "l.r1x$", "L.r1x$"⟩]⟩ := by
    rw [Instruction.read, stripComment_of_commentFree (commentFree_dollarLines _ (by simp [dollarLines]))]
    rfl
  obtain ⟨-, hloaded⟩ := taken_branches_reach_labels hplain (by decide : (0 : Int) ≤ 0x4000) hdistinct hnames
  obtain ⟨-, hcode, hruns⟩ := hloaded hconventional (Emulator.create 0x100) dollarDevice "loop.s" 0x8000 hread
  have hline : (outline dollarSource).instructions[2]? = some "cbnz X1, L.r1x$".toList := by
    rw [hinstructions]
    rfl
  have hu : ∃ u, (((Emulator.create 0x100).load dollarDevice "loop.s" 0x4000 0x8000).state.code)[2]? = some u := by
    rw [hcode, hinstructions]
    exact ⟨_, rfl⟩
  obtain ⟨u, hu⟩ := hu
  obtain ⟨i', hi'⟩ := (hruns 2 _ u _ (.compareBranch false) _ "l.r1x$" hline hu hbranch (by decide) rfl rfl).resolve_right
    fun h => absurd (h.2 (Cpu.initial.setReg 1 3)) (by decide)
  have htaken := hi'.taken (Cpu.initial.setReg 1 3) (by decide)
  obtain ⟨c, hrun, hpc⟩ := hi'.reaches _ htaken ["nop".toList, ".word 5".toList] "l.R1x$: sub X1, X1, #1"
    ["cbnz X1, L.r1x$".toList] cleanLines_dollarSource (by decide) (by decide)
  refine ⟨hplain, by decide, hdistinct, hnames, hconventional, hread, _, u, c, rfl, hu, hrun, hpc.trans (by decide)⟩

end Stepper
