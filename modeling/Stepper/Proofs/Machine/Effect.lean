import Stepper.Proofs.Machine.Execution

/-! What an operation that finishes has done to the processor. It has written one register, or one word of the
stack, or it has gone on elsewhere. -/

namespace Stepper

open Asm

namespace Operation

/-- The operand that an operation jumps to, if it jumps. -/
def jump? (c : Cpu) (i : Instruction) : Operation → List Operand → Option Operand
  | b, [target] => some target
  | bl, [target] => some target
  | compareBranch onZero, [source, target] =>
    match valueOf c i source with
    | .ok v => if (v == 0) == onZero then some target else none
    | .error _ => none
  | _, _ => none

inductive Effect (l : Listing) (i : Instruction) (c : Cpu) (op : Operation) (os : List Operand) : Cpu → Prop
  | keeps (none : op.jump? c i os = none) : Effect l i c op os c
  | sets (none : op.jump? c i os = none) (r : Reg) (v : Int) : Effect l i c op os (c.setReg r v)
  | stores (none : op.jump? c i os = none) {address : Int} (inside : c.inStack address Word.bytes = true) (v : Int) :
    Effect l i c op os (c.write address v Word.bytes)
  | returns (none : op.jump? c i os = none) {v : Int} (source : v = c.get .link ∨ ∃ o, valueOf c i o = .ok v) :
    Effect l i c op os (c.put .pc v)
  | jumps {target : Operand} {address : Int} (jump : op.jump? c i os = some target)
    (goal : targetOf l i target = .ok address) : Effect l i c op os (c.put .pc address)
  | calls {target : Operand} {address : Int} (jump : op.jump? c i os = some target)
    (goal : targetOf l i target = .ok address) :
    Effect l i c op os ((c.setReg .link (c.get .pc)).put .pc address)

theorem finishes_writeTo {i : Instruction} {o : Operand} {v : Int} {c c' : Cpu} (h : Finishes (writeTo i o v) c () c') :
    c' = c ∨ ∃ r, c' = c.setReg r v := by
  unfold writeTo at h
  split at h
  · exact .inr ⟨_, finishes_modify.1 h⟩
  · exact .inl (finishes_pure.1 h).2
  · exact absurd h finishes_refuse

variable {l : Listing} {i : Instruction} {c c' : Cpu} {op : Operation} {os : List Operand}

/-- A memory operand has an address only where a whole word lies in the stack. -/
theorem inStack_of_addressOf {o : Operand} {a : Int} (h : addressOf c i o = .ok a) : c.inStack a Word.bytes = true := by
  unfold addressOf at h
  split at h
  · dsimp only at h
    split at h
    · next hin =>
      obtain rfl := Except.ok.inj h
      exact hin
    · simp [refuse] at h
  · simp [refuse] at h

theorem effect_of_writeTo (hnone : op.jump? c i os = none) {o : Operand} {v : Int}
    (h : Finishes (writeTo i o v) c () c') : Effect l i c op os c' := by
  rcases finishes_writeTo h with rfl | ⟨r, rfl⟩
  · exact .keeps hnone
  · exact .sets hnone r v

/-- Every operation that finishes has one of the effects. -/
theorem effect_of_finishes (h : Finishes (op.run l i os) c () c') : Effect l i c op os c' := by
  unfold Operation.run at h
  split at h
  · obtain ⟨-, rfl⟩ := finishes_pure.1 h
    exact .keeps rfl
  · rw [finishes_get_bind, finishes_lift_bind] at h
    obtain ⟨v, -, h⟩ := h
    exact effect_of_writeTo rfl h
  · rw [finishes_get_bind, finishes_lift_bind] at h
    obtain ⟨a, -, h⟩ := h
    rw [finishes_get_bind, finishes_lift_bind] at h
    obtain ⟨b, -, h⟩ := h
    exact effect_of_writeTo rfl h
  · rw [finishes_get_bind, finishes_lift_bind] at h
    obtain ⟨address, -, h⟩ := h
    rw [finishes_get_bind] at h
    exact effect_of_writeTo rfl h
  · rw [finishes_get_bind, finishes_lift_bind] at h
    obtain ⟨address, haddress, h⟩ := h
    rw [finishes_get_bind, finishes_lift_bind] at h
    obtain ⟨v, -, h⟩ := h
    obtain rfl := finishes_modify.1 h
    exact .stores rfl (inStack_of_addressOf haddress) v
  · rw [finishes_lift_bind] at h
    obtain ⟨address, haddress, h⟩ := h
    obtain rfl := finishes_modify.1 h
    exact .jumps rfl haddress
  · rw [finishes_lift_bind] at h
    obtain ⟨address, haddress, h⟩ := h
    rw [finishes_bind] at h
    obtain ⟨_, c₁, hlink, h⟩ := h
    obtain rfl := finishes_modify.1 hlink
    obtain rfl := finishes_modify.1 h
    exact .calls rfl haddress
  · obtain rfl := finishes_modify.1 h
    exact .returns rfl (.inl rfl)
  · rw [finishes_get_bind, finishes_lift_bind] at h
    obtain ⟨v, hv, h⟩ := h
    obtain rfl := finishes_modify.1 h
    exact .returns rfl (.inr ⟨_, hv⟩)
  · exact absurd h finishes_refuse
  · rw [finishes_get_bind, finishes_lift_bind] at h
    obtain ⟨v, hv, h⟩ := h
    split at h
    · next htaken =>
      rw [finishes_lift_bind] at h
      obtain ⟨address, haddress, h⟩ := h
      obtain rfl := finishes_modify.1 h
      exact .jumps (by simp only [jump?, hv, if_pos htaken]) haddress
    · next htaken =>
      obtain ⟨-, rfl⟩ := finishes_pure.1 h
      exact .keeps (by simp only [jump?, hv, if_neg htaken])
  · exact absurd h finishes_refuse

/-- A jump to a known target always finishes. -/
theorem finishes_of_jump {target : Operand} {a : Int} (hjump : op.jump? c i os = some target)
    (ha : targetOf l i target = .ok a) : ∃ c', Finishes (op.run l i os) c () c' := by
  unfold jump? at hjump
  split at hjump
  · obtain rfl := Option.some.inj hjump
    exact ⟨_, finishes_lift_bind.2 ⟨a, ha, finishes_modify.2 rfl⟩⟩
  · obtain rfl := Option.some.inj hjump
    exact ⟨_, finishes_lift_bind.2 ⟨a, ha, finishes_bind.2 ⟨(), _, finishes_modify.2 rfl, finishes_modify.2 rfl⟩⟩⟩
  · split at hjump
    · next v hv =>
      split at hjump
      · next htaken =>
        obtain rfl := Option.some.inj hjump
        refine ⟨c.put .pc a, ?_⟩
        rw [Operation.run, finishes_get_bind, finishes_lift_bind]
        refine ⟨v, hv, ?_⟩
        rw [if_pos htaken, finishes_lift_bind]
        exact ⟨a, ha, finishes_modify.2 rfl⟩
      · simp at hjump
    · simp at hjump
  · simp at hjump

end Operation

end Stepper
