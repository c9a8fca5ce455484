/-
Instructions as words.

`encode` lays out the operands of an instruction in the pattern of its kind, and `decode`
reads a word back.  A word that no pattern matches has no instruction: what the machine
does with it is the machine's business, and the all-zero word, which programs use as an
end marker, is one of them.
-/
import ChipEight.Instruction.Basic

namespace ChipEight.Instruction

/-- The word of an instruction. -/
def encode : Instruction → Word
  | clearScreen => .withAddress 0x0 0x0E0
  | ret => .withAddress 0x0 0x0EE
  | jump nnn => .withAddress 0x1 nnn
  | call nnn => .withAddress 0x2 nnn
  | skipIfByte x nn => .withByte 0x3 x nn
  | skipUnlessByte x nn => .withByte 0x4 x nn
  | skipIfSame x y => .ofNibbles 0x5 x y 0x0
  | loadByte x nn => .withByte 0x6 x nn
  | addByte x nn => .withByte 0x7 x nn
  | copy x y => .ofNibbles 0x8 x y 0x0
  | bitOr x y => .ofNibbles 0x8 x y 0x1
  | bitAnd x y => .ofNibbles 0x8 x y 0x2
  | bitXor x y => .ofNibbles 0x8 x y 0x3
  | add x y => .ofNibbles 0x8 x y 0x4
  | sub x y => .ofNibbles 0x8 x y 0x5
  | shiftRight x y => .ofNibbles 0x8 x y 0x6
  | subFrom x y => .ofNibbles 0x8 x y 0x7
  | shiftLeft x y => .ofNibbles 0x8 x y 0xE
  | skipUnlessSame x y => .ofNibbles 0x9 x y 0x0
  | loadIndex nnn => .withAddress 0xA nnn
  | jumpFrom nnn => .withAddress 0xB nnn
  | random x nn => .withByte 0xC x nn
  | draw x y n => .ofNibbles 0xD x y n
  | skipIfKey x => .withByte 0xE x 0x9E
  | skipUnlessKey x => .withByte 0xE x 0xA1
  | readDelay x => .withByte 0xF x 0x07
  | awaitKey x => .withByte 0xF x 0x0A
  | setDelay x => .withByte 0xF x 0x15
  | setSound x => .withByte 0xF x 0x18
  | addIndex x => .withByte 0xF x 0x1E
  | pointAtGlyph x => .withByte 0xF x 0x29
  | storeDecimal x => .withByte 0xF x 0x33
  | storeRegisters x => .withByte 0xF x 0x55
  | loadRegisters x => .withByte 0xF x 0x65

/-- The instruction of family 8 that the last nibble selects. -/
def decodeArithmetic (x y : Register) (n : Nibble) : Option Instruction :=
  match n with
  | 0x0#4 => some (copy x y)
  | 0x1#4 => some (bitOr x y)
  | 0x2#4 => some (bitAnd x y)
  | 0x3#4 => some (bitXor x y)
  | 0x4#4 => some (add x y)
  | 0x5#4 => some (sub x y)
  | 0x6#4 => some (shiftRight x y)
  | 0x7#4 => some (subFrom x y)
  | 0xE#4 => some (shiftLeft x y)
  | _ => none

/-- The instruction of family F that the low byte selects. -/
def decodeTransfer (x : Register) (nn : Byte) : Option Instruction :=
  match nn with
  | 0x07#8 => some (readDelay x)
  | 0x0A#8 => some (awaitKey x)
  | 0x15#8 => some (setDelay x)
  | 0x18#8 => some (setSound x)
  | 0x1E#8 => some (addIndex x)
  | 0x29#8 => some (pointAtGlyph x)
  | 0x33#8 => some (storeDecimal x)
  | 0x55#8 => some (storeRegisters x)
  | 0x65#8 => some (loadRegisters x)
  | _ => none

/-- The instruction that a word encodes, if its pattern is documented. -/
def decode (w : Word) : Option Instruction :=
  match w.family with
  | 0x0#4 =>
    if w.nnn = 0x0E0#12 then some clearScreen
    else if w.nnn = 0x0EE#12 then some ret
    else none
  | 0x1#4 => some (jump w.nnn)
  | 0x2#4 => some (call w.nnn)
  | 0x3#4 => some (skipIfByte w.x w.nn)
  | 0x4#4 => some (skipUnlessByte w.x w.nn)
  | 0x5#4 => if w.n = 0x0#4 then some (skipIfSame w.x w.y) else none
  | 0x6#4 => some (loadByte w.x w.nn)
  | 0x7#4 => some (addByte w.x w.nn)
  | 0x8#4 => decodeArithmetic w.x w.y w.n
  | 0x9#4 => if w.n = 0x0#4 then some (skipUnlessSame w.x w.y) else none
  | 0xA#4 => some (loadIndex w.nnn)
  | 0xB#4 => some (jumpFrom w.nnn)
  | 0xC#4 => some (random w.x w.nn)
  | 0xD#4 => some (draw w.x w.y w.n)
  | 0xE#4 =>
    if w.nn = 0x9E#8 then some (skipIfKey w.x)
    else if w.nn = 0xA1#8 then some (skipUnlessKey w.x)
    else none
  | 0xF#4 => decodeTransfer w.x w.nn
  | _ => none

/-- Reading undoes writing. -/
theorem decode_encode (i : Instruction) : decode i.encode = some i := by
  cases i <;> simp [encode, decode, decodeArithmetic, decodeTransfer]

private theorem encode_of_decodeArithmetic {x y : Register} {n : Nibble} {i : Instruction}
    (h : decodeArithmetic x y n = some i) : i.encode = .ofNibbles 0x8 x y n := by
  unfold decodeArithmetic at h
  split at h <;> first | contradiction | (obtain rfl := Option.some.inj h; rfl)

private theorem encode_of_decodeTransfer {x : Register} {nn : Byte} {i : Instruction}
    (h : decodeTransfer x nn = some i) : i.encode = .withByte 0xF x nn := by
  unfold decodeTransfer at h
  split at h <;> first | contradiction | (obtain rfl := Option.some.inj h; rfl)

/-- Writing undoes reading. -/
theorem encode_of_decode {w : Word} {i : Instruction} (h : decode w = some i) :
    i.encode = w := by
  have hA := w.withAddress_family_nnn
  have hB := w.withByte_family_x_nn
  have hN := w.ofNibbles_family_x_y_n
  unfold decode at h
  split at h
  all_goals
    rename_i hf
    try rw [hf] at hA hB hN
  case h_1 =>
    split at h
    · rename_i hn
      obtain rfl := Option.some.inj h
      rw [hn] at hA; exact hA
    · split at h
      · rename_i hn
        obtain rfl := Option.some.inj h
        rw [hn] at hA; exact hA
      · contradiction
  case h_6 | h_10 =>
    split at h
    · rename_i hn
      obtain rfl := Option.some.inj h
      rw [hn] at hN; exact hN
    · contradiction
  case h_9 => exact (encode_of_decodeArithmetic h).trans hN
  case h_15 =>
    split at h
    · rename_i hn
      obtain rfl := Option.some.inj h
      rw [hn] at hB; exact hB
    · split at h
      · rename_i hn
        obtain rfl := Option.some.inj h
        rw [hn] at hB; exact hB
      · contradiction
  case h_16 => exact (encode_of_decodeTransfer h).trans hB
  case h_17 => contradiction
  all_goals
    obtain rfl := Option.some.inj h
    first | exact hA | exact hB | exact hN

/-- A word has an instruction exactly if it is the word of that instruction. -/
theorem decode_eq_some_iff {w : Word} {i : Instruction} : decode w = some i ↔ i.encode = w :=
  ⟨encode_of_decode, fun h => h ▸ decode_encode i⟩

end ChipEight.Instruction
