/-
Blocks that go between registers and memory.

Three instructions work at the index register: one stores the registers up to `Vx`, one loads them,
and one stores the three decimal digits of `Vx`.  Each is told here byte by byte, for every block
that fits, also one that ends with the last byte of memory.  The index register then wraps around to
zero, although no access does.

A store and a load at one place undo each other.  What has been stored is loaded again, whatever
became of the registers and of the rest of memory in between, and storing what has just been loaded
changes no byte.  Nothing is assumed about where the block lies: it may cover the font, and it may
cover the words of the two instructions themselves.
-/
import ChipEight.Proofs.Machine.Arithmetic
import ChipEight.Proofs.Machine.Loading

namespace ChipEight.Machine

/-! ### What the instructions leave behind -/

section Statements

variable (x : Register) (m m' : Machine)

/-- The block at the index register has a byte for each register up to `Vx`. -/
def Fits : Prop := m.i.toNat + x.toNat ≤ 0xFFF

/-- The second machine is the first one after storing the registers up to `Vx`. -/
structure Dumped : Prop where
  stored : ∀ r : Register, r.toNat ≤ x.toNat →
    m'.memory.byteAt (m.i.toNat + r.toNat) = m.v.read r
  kept : ∀ a, a < m.i.toNat ∨ m.i.toNat + x.toNat < a →
    m'.memory.byteAt a = m.memory.byteAt a
  index : m'.i.toNat = (m.i.toNat + x.toNat + 1) % Memory.size

/-- The second machine is the first one after loading the registers up to `Vx`. -/
structure Loaded : Prop where
  loaded : ∀ r : Register, r.toNat ≤ x.toNat →
    m'.v.read r = m.memory.byteAt (m.i.toNat + r.toNat)
  kept : ∀ r : Register, x.toNat < r.toNat → m'.v.read r = m.v.read r
  /-- The bytes take the place of as many registers, so that there are sixteen afterwards. -/
  whole : ∃ bytes, m.memory.readBlock m.i.toNat (x.toNat + 1 : Nat) = .ok bytes ∧
    m'.v.toList = splice m.v.toList 0 (x.toNat + 1) bytes ∧
      (splice m.v.toList 0 (x.toNat + 1) bytes).length = 16
  index : m'.i.toNat = (m.i.toNat + x.toNat + 1) % Memory.size
  memory : m'.memory = m.memory

/-- The second machine is the first one after storing the digits of `Vx`. -/
structure Spelled : Prop where
  digits : ∃ hundreds tens ones : Byte,
    (m'.memory.byteAt m.i.toNat = hundreds ∧ m'.memory.byteAt (m.i.toNat + 1) = tens ∧
      m'.memory.byteAt (m.i.toNat + 2) = ones) ∧
    (hundreds.toNat ≤ 9 ∧ tens.toNat ≤ 9 ∧ ones.toNat ≤ 9) ∧
      100 * hundreds.toNat + 10 * tens.toNat + ones.toNat = (m.v.read x).toNat
  kept : ∀ a, a < m.i.toNat ∨ m.i.toNat + 2 < a → m'.memory.byteAt a = m.memory.byteAt a
  index : m'.i = m.i

end Statements

variable {rules : Rules} {source : ByteSource} {m m' n n' : Machine} {x : Register}

/-! ### One instruction -/

theorem toNat_index_after (i : Address) (x : Register) :
    (i + x.setWidth 12 + 1).toNat = (i.toNat + x.toNat + 1) % Memory.size := by
  have hx : x.toNat < 2 ^ 12 := Nat.lt_trans x.isLt (by decide)
  rw [BitVec.toNat_add, BitVec.toNat_add, BitVec.toNat_setWidth, Nat.mod_eq_of_lt hx]
  exact Nat.mod_add_mod _ _ _

theorem reaches_dumped (hm : m.Meets (.withByte 0xF x 0x55)) (hfits : m.Fits x) :
    m.Reaches rules source (m.Dumped x) := by
  have hi : ¬Memory.size < m.i.toNat + x.toNat + 1 := Nat.not_lt.mpr (Nat.succ_le_succ hfits)
  refine reaches_of_executed (.storeRegisters x) hm (.storeRegisters x hi)
    ⟨?_, ?_, toNat_index_after m.i x⟩
  · intro r hr
    have hin : m.i.toNat ≤ m.i.toNat + r.toNat ∧ m.i.toNat + r.toNat < Memory.size := by omega
    show (m.memory.store m.i.toNat (m.v.upTo x)).byteAt (m.i.toNat + r.toNat) = _
    rw [Memory.byteAt_store, if_pos hin, Nat.add_sub_cancel_left, Registers.getElem?_upTo _ hr,
      Option.getD_some]
  · intro a ha
    have hout : a < m.i.toNat ∨ m.i.toNat + (x.toNat + 1) ≤ a := by omega
    rw [← Registers.length_upTo m.v x] at hout
    exact m.memory.byteAt_store_of_outside hout

theorem reaches_loaded (hm : m.Meets (.withByte 0xF x 0x65)) (hfits : m.Fits x) :
    m.Reaches rules source (m.Loaded x) := by
  have hi : ¬Memory.size < m.i.toNat + x.toNat + 1 := Nat.not_lt.mpr (Nat.succ_le_succ hfits)
  have hx : x.toNat < 16 := x.isLt
  refine reaches_of_executed (.loadRegisters x) hm (.loadRegisters x hi)
    ⟨?_, ?_, ?_, toNat_index_after m.i x, rfl⟩
  · intro r hr
    show (m.v.fill 0 (m.memory.slice m.i.toNat (x.toNat + 1))).read r = _
    rw [Registers.read_fill, if_pos (Nat.zero_le _), Nat.sub_zero,
      Memory.getElem?_slice _ (Nat.lt_succ_of_le hr), Option.getD_some]
  · intro r hr
    show (m.v.fill 0 (m.memory.slice m.i.toNat (x.toNat + 1))).read r = _
    rw [Registers.read_fill, if_pos (Nat.zero_le _), Nat.sub_zero, List.getElem?_eq_none,
      Option.getD_none]
    rw [Memory.length_slice]
    exact hr
  · have hread : m.memory.readBlock m.i.toNat (x.toNat + 1 : Nat) =
        .ok (m.memory.slice m.i.toNat (x.toNat + 1)) := by
      rw [Memory.readBlock_address, if_neg (fun h => hi h.2)]
    have hwhole := Registers.toList_fill m.v 0 (m.memory.slice m.i.toNat (x.toNat + 1))
      (by rw [Memory.length_slice]; omega)
    rw [Memory.length_slice] at hwhole
    refine ⟨_, hread, hwhole, ?_⟩
    rw [← hwhole, Vector.length_toList]

theorem toNat_decimalDigits (b : Byte) :
    ∃ hundreds tens ones : Byte, decimalDigits b = [hundreds, tens, ones] ∧
      (hundreds.toNat ≤ 9 ∧ tens.toNat ≤ 9 ∧ ones.toNat ≤ 9) ∧
        100 * hundreds.toNat + 10 * tens.toNat + ones.toNat = b.toNat := by
  have hb : b.toNat < 256 := b.isLt
  refine ⟨_, _, _, rfl, ?_⟩
  simp only [BitVec.toNat_ofNat]
  omega

theorem reaches_spelled (hm : m.Meets (.withByte 0xF x 0x33)) (hi : m.i.toNat ≤ 0xFFD) :
    m.Reaches rules source (m.Spelled x) := by
  have hroom : ¬Memory.size < m.i.toNat + 3 := Nat.not_lt.mpr (Nat.add_le_add_right hi 3)
  obtain ⟨hundreds, tens, ones, hdigits, hlt, hsum⟩ := toNat_decimalDigits (m.v.read x)
  refine reaches_of_executed (.storeDecimal x) hm (.storeDecimal x hroom)
    ⟨⟨hundreds, tens, ones, ?_, hlt, hsum⟩, ?_, rfl⟩
  · show (m.memory.store m.i.toNat (decimalDigits (m.v.read x))).byteAt _ = _ ∧
      (m.memory.store m.i.toNat (decimalDigits (m.v.read x))).byteAt _ = _ ∧
        (m.memory.store m.i.toNat (decimalDigits (m.v.read x))).byteAt _ = _
    have hbyte : ∀ k < 3, (m.memory.store m.i.toNat (decimalDigits (m.v.read x))).byteAt
        (m.i.toNat + k) = ([hundreds, tens, ones][k]?).getD 0 := by
      intro k hk
      have hin : m.i.toNat ≤ m.i.toNat + k ∧ m.i.toNat + k < Memory.size := by omega
      rw [Memory.byteAt_store, if_pos hin, Nat.add_sub_cancel_left, hdigits]
      have hsome : ([hundreds, tens, ones][k]?).isSome = true := by simpa using hk
      obtain ⟨d, hd⟩ := Option.isSome_iff_exists.mp hsome
      rw [hd, Option.getD_some, Option.getD_some]
    exact ⟨hbyte 0 (by decide), hbyte 1 (by decide), hbyte 2 (by decide)⟩
  · intro a ha
    refine m.memory.byteAt_store_of_outside ?_
    show a < m.i.toNat ∨ m.i.toNat + 3 ≤ a
    omega

/-! ### One after the other -/

/-- What was stored is loaded again. -/
theorem read_of_dumped_loaded (hstored : m.Dumped x m') (hi : n.i = m.i)
    (hsame : ∀ r : Register, r.toNat ≤ x.toNat →
      n.memory.byteAt (m.i.toNat + r.toNat) = m'.memory.byteAt (m.i.toNat + r.toNat))
    (hloaded : n.Loaded x n') {r : Register} (hr : r.toNat ≤ x.toNat) :
    n'.v.read r = m.v.read r := by
  rw [hloaded.loaded r hr, hi, hsame r hr, hstored.stored r hr]

/-- What was loaded is there already when it is stored. -/
theorem memory_of_loaded_dumped (hloaded : m.Loaded x m') (hi : n.i = m.i)
    (hmemory : n.memory = m'.memory)
    (hsame : ∀ r : Register, r.toNat ≤ x.toNat → n.v.read r = m'.v.read r)
    (hstored : n.Dumped x n') : n'.memory = m.memory := by
  rw [hloaded.memory] at hmemory
  refine Memory.ext_byteAt fun a _ => ?_
  by_cases hin : m.i.toNat ≤ a ∧ a ≤ m.i.toNat + x.toNat
  · have hlt : a - m.i.toNat < 2 ^ 4 := by
      have hx : x.toNat < 16 := x.isLt
      omega
    have hr : (BitVec.ofNat 4 (a - m.i.toNat)).toNat = a - m.i.toNat := by
      rw [BitVec.toNat_ofNat, Nat.mod_eq_of_lt hlt]
    have hle : (BitVec.ofNat 4 (a - m.i.toNat)).toNat ≤ x.toNat := by omega
    have hbyte := hstored.stored _ hle
    rw [hsame _ hle, hloaded.loaded _ hle, hi, hr, Nat.add_sub_cancel' hin.1] at hbyte
    exact hbyte
  · rw [hstored.kept a (by rw [hi]; omega), hmemory]

/-- What the three instructions do, and what becomes of a block that goes and comes back. -/
structure Transfers (rules : Rules) (source : ByteSource) (m : Machine) (x : Register) : Prop where
  dump : m.Meets (.withByte 0xF x 0x55) → m.Fits x → m.Reaches rules source (m.Dumped x)
  load : m.Meets (.withByte 0xF x 0x65) → m.Fits x → m.Reaches rules source (m.Loaded x)
  spell : m.Meets (.withByte 0xF x 0x33) → m.i.toNat ≤ 0xFFD →
    m.Reaches rules source (m.Spelled x)
  /-- After the store anything may happen, as long as the block stays and the index returns. -/
  restore : m.Meets (.withByte 0xF x 0x55) → m.Fits x →
    ∀ (source' : ByteSource) (n : Machine), n.i = m.i →
      (∀ r : Register, r.toNat ≤ x.toNat → n.memory.byteAt (m.i.toNat + r.toNat) =
        (m.step rules source).machine.memory.byteAt (m.i.toNat + r.toNat)) →
      n.Meets (.withByte 0xF x 0x65) →
      n.Reaches rules source' fun n' => ∀ r : Register, r.toNat ≤ x.toNat →
        n'.v.read r = m.v.read r
  /-- After the load anything may happen that spares memory and the loaded registers. -/
  rewrite : m.Meets (.withByte 0xF x 0x65) → m.Fits x →
    ∀ (source' : ByteSource) (n : Machine), n.i = m.i →
      n.memory = (m.step rules source).machine.memory →
      (∀ r : Register, r.toNat ≤ x.toNat →
        n.v.read r = (m.step rules source).machine.v.read r) →
      n.Meets (.withByte 0xF x 0x55) →
      n.Reaches rules source' fun n' => n'.memory = m.memory

/-- **Blocks go to memory and come back.** -/
theorem block_transfers (rules : Rules) (source : ByteSource) (m : Machine) (x : Register) :
    m.Transfers rules source x where
  dump := reaches_dumped
  load := reaches_loaded
  spell := reaches_spelled
  restore := by
    intro hm hfits source' n hi hblock hn
    have hstored : m.Dumped x (m.step rules source).machine := (reaches_dumped hm hfits).2
    have hfits' : n.Fits x := by rw [Fits, hi]; exact hfits
    exact (reaches_loaded hn hfits').imp fun n' hloaded r hr =>
      read_of_dumped_loaded hstored hi hblock hloaded hr
  rewrite := by
    intro hm hfits source' n hi hmemory hregisters hn
    have hloaded : m.Loaded x (m.step rules source).machine := (reaches_loaded hm hfits).2
    have hfits' : n.Fits x := by rw [Fits, hi]; exact hfits
    exact (reaches_dumped hn hfits').imp fun n' hstored =>
      memory_of_loaded_dumped hloaded hi hmemory hregisters hstored

/-- A block that ends with the last byte of memory: only the index register wraps around. -/
example :
    let m : Machine :=
      { withProgram [0xF1, 0x55] with v := Vector.replicate 16 7, i := 0xFFE }
    let m' := (m.step ⟨true, 16⟩ .zeros).machine
    m'.memory.byteAt 0xFFF = 7 ∧ m'.memory.byteAt 0 = m.memory.byteAt 0 ∧ m'.i = 0 := by
  decide +kernel

end ChipEight.Machine
