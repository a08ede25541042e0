import Stagecraft.Proofs.Trace.Argument
import Stagecraft.Trace.Read

namespace Stagecraft.Trace

structure Instruction.Spelled (i : Instruction) : Prop where
  named : i.opcode.toList ≠ []
  ordinary : ∀ c ∈ i.opcode.toList, Ordinary c

structure Instruction.Regular (i : Instruction) : Prop extends Instruction.Spelled i where
  bounded : Operand.BoundedAll i.operands

namespace Instruction

variable {i : Instruction}

def gap : List Char := [' ', ' ', ' ', ' ']

theorem write_of_operands (h : i.operands ≠ []) :
    i.write = i.opcode.toList ++ gap ++ Operand.writeAll i.operands := by
  rw [Instruction.write]
  split
  · next h0 => exact absurd h0 h
  · rfl

theorem write_of_no_operands (h : i.operands = []) : i.write = i.opcode.toList := by
  rw [Instruction.write, h]

theorem Spelled.write_ne_nil (h : i.Spelled) : i.write ≠ [] := by
  by_cases ho : i.operands = []
  · rw [write_of_no_operands ho]
    exact h.named
  · simp [write_of_operands ho, h.named]

theorem Spelled.write_inline (h : i.Spelled) : ∀ c ∈ i.write, c ≠ ';' ∧ c ≠ '\n' := by
  have hopcode : ∀ c ∈ i.opcode.toList, c ≠ ';' ∧ c ≠ '\n' := fun c hc ↦ (h.ordinary c hc).inline
  by_cases ho : i.operands = []
  · rwa [write_of_no_operands ho]
  · rw [write_of_operands ho, List.forall_mem_append, List.forall_mem_append]
    exact ⟨⟨hopcode, by simp [gap]⟩, Operand.writeAll_inline i.operands⟩

theorem Spelled.splitOpcode_write (h : i.Spelled) :
    splitOpcode i.write = (i.opcode.toList, Operand.writeAll i.operands) := by
  have hspace : ' ' ∉ i.opcode.toList := fun hc ↦ absurd (h.ordinary ' ' hc).1 (by decide)
  by_cases ho : i.operands = []
  · rw [write_of_no_operands ho, splitOpcode, Text.splitAt?_eq_none hspace, ho, Operand.writeAll]
  · have hw : i.write = i.opcode.toList ++ ' ' :: ([' ', ' ', ' '] ++ Operand.writeAll i.operands) := by
      simp [write_of_operands ho, gap]
    have htrim : Text.trim ([' ', ' ', ' '] ++ Operand.writeAll i.operands) =
        Operand.writeAll i.operands := by
      rw [Text.trim_append (by decide), (Operand.snug_writeAll i.operands).trim]
    rw [hw, splitOpcode, Text.splitAt?_append hspace]
    simp only [htrim]

/-- What stands behind the opcode is read as the operands. -/
theorem Regular.readArguments_splitOpcode (h : i.Regular) :
    readArguments (splitOpcode i.write).2 = .ok (Operand.arguments i.operands) := by
  rw [h.splitOpcode_write]
  exact Operand.readArguments_writeAll h.bounded

end Instruction

end Stagecraft.Trace
