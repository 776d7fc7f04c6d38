import OpcodeForge.Opcode.Reference

/-!
# The Processor's Reference

The 256 opcodes of the processor, two in a line. `XXX` stands for an opcode that
no instruction has; a few of them act like `NOP` and are called that.

## Main definitions

* `Opcode.defaultReference`: The row of each byte, in order.

## Theorems

* `Opcode.length_defaultReference`: Each byte has a row.
-/

namespace OpcodeForge.Opcode

/-- A row with a natural number of cycles. -/
def row (mode name : String) (cycles : Nat) : ReferenceRow :=
  ⟨mode, name, .count cycles⟩

/-- What the processor does with each byte. -/
def defaultReference : List ReferenceRow := [
  row "imp" "BRK" 7, row "izx" "ORA" 6,
  row "imp" "XXX" 2, row "imp" "XXX" 8,
  row "imp" "NOP" 3, row "zp0" "ORA" 3,
  row "zp0" "ASL" 5, row "imp" "XXX" 5,
  row "imp" "PHP" 3, row "imm" "ORA" 2,
  row "acc" "ASL" 2, row "imp" "XXX" 2,
  row "imp" "NOP" 4, row "abs" "ORA" 4,
  row "abs" "ASL" 6, row "imp" "XXX" 6,
  row "rel" "BPL" 2, row "izy" "ORA" 5,
  row "imp" "XXX" 2, row "imp" "XXX" 8,
  row "imp" "NOP" 4, row "zpx" "ORA" 4,
  row "zpx" "ASL" 6, row "imp" "XXX" 6,
  row "imp" "CLC" 2, row "aby" "ORA" 4,
  row "imp" "NOP" 2, row "imp" "XXX" 7,
  row "abx" "NOP" 4, row "abx" "ORA" 4,
  row "abx" "ASL" 7, row "imp" "XXX" 7,
  row "abs" "JSR" 6, row "izx" "AND" 6,
  row "imp" "XXX" 2, row "imp" "XXX" 8,
  row "zp0" "BIT" 3, row "zp0" "AND" 3,
  row "zp0" "ROL" 5, row "imp" "XXX" 5,
  row "imp" "PLP" 4, row "imm" "AND" 2,
  row "acc" "ROL" 2, row "imp" "XXX" 2,
  row "abs" "BIT" 4, row "abs" "AND" 4,
  row "abs" "ROL" 6, row "imp" "XXX" 6,
  row "rel" "BMI" 2, row "izy" "AND" 5,
  row "imp" "XXX" 2, row "imp" "XXX" 8,
  row "imp" "NOP" 4, row "zpx" "AND" 4,
  row "zpx" "ROL" 6, row "imp" "XXX" 6,
  row "imp" "SEC" 2, row "aby" "AND" 4,
  row "imp" "NOP" 2, row "imp" "XXX" 7,
  row "abx" "NOP" 4, row "abx" "AND" 4,
  row "abx" "ROL" 7, row "imp" "XXX" 7,
  row "imp" "RTI" 6, row "izx" "EOR" 6,
  row "imp" "XXX" 2, row "imp" "XXX" 8,
  row "imp" "NOP" 3, row "zp0" "EOR" 3,
  row "zp0" "LSR" 5, row "imp" "XXX" 5,
  row "imp" "PHA" 3, row "imm" "EOR" 2,
  row "acc" "LSR" 2, row "imp" "XXX" 2,
  row "abs" "JMP" 3, row "abs" "EOR" 4,
  row "abs" "LSR" 6, row "imp" "XXX" 6,
  row "rel" "BVC" 2, row "izy" "EOR" 5,
  row "imp" "XXX" 2, row "imp" "XXX" 8,
  row "imp" "NOP" 4, row "zpx" "EOR" 4,
  row "zpx" "LSR" 6, row "imp" "XXX" 6,
  row "imp" "CLI" 2, row "aby" "EOR" 4,
  row "imp" "NOP" 2, row "imp" "XXX" 7,
  row "abx" "NOP" 4, row "abx" "EOR" 4,
  row "abx" "LSR" 7, row "imp" "XXX" 7,
  row "imp" "RTS" 6, row "izx" "ADC" 6,
  row "imp" "XXX" 2, row "imp" "XXX" 8,
  row "imp" "NOP" 3, row "zp0" "ADC" 3,
  row "zp0" "ROR" 5, row "imp" "XXX" 5,
  row "imp" "PLA" 4, row "imm" "ADC" 2,
  row "acc" "ROR" 2, row "imp" "XXX" 2,
  row "ind" "JMP" 5, row "abs" "ADC" 4,
  row "abs" "ROR" 6, row "imp" "XXX" 6,
  row "rel" "BVS" 2, row "izy" "ADC" 5,
  row "imp" "XXX" 2, row "imp" "XXX" 8,
  row "imp" "NOP" 4, row "zpx" "ADC" 4,
  row "zpx" "ROR" 6, row "imp" "XXX" 6,
  row "imp" "SEI" 2, row "aby" "ADC" 4,
  row "imp" "NOP" 2, row "imp" "XXX" 7,
  row "abx" "NOP" 4, row "abx" "ADC" 4,
  row "abx" "ROR" 7, row "imp" "XXX" 7,
  row "imp" "NOP" 2, row "izx" "STA" 6,
  row "imp" "NOP" 2, row "imp" "XXX" 6,
  row "zp0" "STY" 3, row "zp0" "STA" 3,
  row "zp0" "STX" 3, row "imp" "XXX" 3,
  row "imp" "DEY" 2, row "imp" "NOP" 2,
  row "imp" "TXA" 2, row "imp" "XXX" 2,
  row "abs" "STY" 4, row "abs" "STA" 4,
  row "abs" "STX" 4, row "imp" "XXX" 4,
  row "rel" "BCC" 2, row "izy" "STA" 6,
  row "imp" "XXX" 2, row "imp" "XXX" 6,
  row "zpx" "STY" 4, row "zpx" "STA" 4,
  row "zpy" "STX" 4, row "imp" "XXX" 4,
  row "imp" "TYA" 2, row "aby" "STA" 5,
  row "imp" "TXS" 2, row "imp" "XXX" 5,
  row "imp" "NOP" 5, row "abx" "STA" 5,
  row "imp" "XXX" 5, row "imp" "XXX" 5,
  row "imm" "LDY" 2, row "izx" "LDA" 6,
  row "imm" "LDX" 2, row "imp" "XXX" 6,
  row "zp0" "LDY" 3, row "zp0" "LDA" 3,
  row "zp0" "LDX" 3, row "imp" "XXX" 3,
  row "imp" "TAY" 2, row "imm" "LDA" 2,
  row "imp" "TAX" 2, row "imp" "XXX" 2,
  row "abs" "LDY" 4, row "abs" "LDA" 4,
  row "abs" "LDX" 4, row "imp" "XXX" 4,
  row "rel" "BCS" 2, row "izy" "LDA" 5,
  row "imp" "XXX" 2, row "imp" "XXX" 5,
  row "zpx" "LDY" 4, row "zpx" "LDA" 4,
  row "zpy" "LDX" 4, row "imp" "XXX" 4,
  row "imp" "CLV" 2, row "aby" "LDA" 4,
  row "imp" "TSX" 2, row "imp" "XXX" 4,
  row "abx" "LDY" 4, row "abx" "LDA" 4,
  row "aby" "LDX" 4, row "imp" "XXX" 4,
  row "imm" "CPY" 2, row "izx" "CMP" 6,
  row "imp" "NOP" 2, row "imp" "XXX" 8,
  row "zp0" "CPY" 3, row "zp0" "CMP" 3,
  row "zp0" "DEC" 5, row "imp" "XXX" 5,
  row "imp" "INY" 2, row "imm" "CMP" 2,
  row "imp" "DEX" 2, row "imp" "XXX" 2,
  row "abs" "CPY" 4, row "abs" "CMP" 4,
  row "abs" "DEC" 6, row "imp" "XXX" 6,
  row "rel" "BNE" 2, row "izy" "CMP" 5,
  row "imp" "XXX" 2, row "imp" "XXX" 8,
  row "imp" "NOP" 4, row "zpx" "CMP" 4,
  row "zpx" "DEC" 6, row "imp" "XXX" 6,
  row "imp" "CLD" 2, row "aby" "CMP" 4,
  row "imp" "NOP" 2, row "imp" "XXX" 7,
  row "abx" "NOP" 4, row "abx" "CMP" 4,
  row "abx" "DEC" 7, row "imp" "XXX" 7,
  row "imm" "CPX" 2, row "izx" "SBC" 6,
  row "imp" "NOP" 2, row "imp" "XXX" 8,
  row "zp0" "CPX" 3, row "zp0" "SBC" 3,
  row "zp0" "INC" 5, row "imp" "XXX" 5,
  row "imp" "INX" 2, row "imm" "SBC" 2,
  row "imp" "NOP" 2, row "imp" "SBC" 2,
  row "abs" "CPX" 4, row "abs" "SBC" 4,
  row "abs" "INC" 6, row "imp" "XXX" 6,
  row "rel" "BEQ" 2, row "izy" "SBC" 5,
  row "imp" "XXX" 2, row "imp" "XXX" 8,
  row "imp" "NOP" 4, row "zpx" "SBC" 4,
  row "zpx" "INC" 6, row "imp" "XXX" 6,
  row "imp" "SED" 2, row "aby" "SBC" 4,
  row "imp" "NOP" 2, row "imp" "XXX" 7,
  row "abx" "NOP" 4, row "abx" "SBC" 4,
  row "abx" "INC" 7, row "imp" "XXX" 7]

theorem length_defaultReference : defaultReference.length = opcodeSpace := by
  decide +kernel

end OpcodeForge.Opcode
