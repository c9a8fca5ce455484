/-
Machine words and their parts.

A program is a sequence of sixteen-bit words, stored high byte first.  The same word is
read in several overlapping ways: its first nibble is the family that selects the kind of
instruction, and the rest is an address `nnn`, or a register `x` and a byte `nn`, or two
registers `x`, `y` and a nibble `n`.  `withAddress`, `withByte` and `ofNibbles` put a word
together again in each of these ways.

All of this is positional notation, and the lemmas say so in natural numbers: one for what
each way of putting a word together makes of its parts, and one for each part of a word.
-/

namespace ChipEight

/-- Four bits: one digit of a word. -/
abbrev Nibble := BitVec 4

/-- The number of a register, `V0` to `VF`. -/
abbrev Register := BitVec 4

/-- Eight bits: the contents of a register or of one memory cell. -/
abbrev Byte := BitVec 8

/-- Twelve bits: a position in memory. -/
abbrev Address := BitVec 12

/-- Sixteen bits: an instruction as it lies in memory. -/
abbrev Word := BitVec 16

namespace Word

/-- The word that an integer denotes: its low sixteen bits in two's complement. -/
def ofInt (n : Int) : Word := BitVec.ofInt 16 n

/-- The word made of two bytes, the high one first. -/
def ofBytes (high low : Byte) : Word := high ++ low

/-- The word of a family with an address. -/
def withAddress (a : Nibble) (nnn : Address) : Word := a ++ nnn

/-- The word of a family with a register and a byte. -/
def withByte (a : Nibble) (x : Register) (nn : Byte) : Word := a ++ x ++ nn

/-- The word made of four nibbles. -/
def ofNibbles (a x y n : Nibble) : Word := a ++ x ++ y ++ n

/-- The first nibble, which selects the family of instructions. -/
def family (w : Word) : Nibble := w.extractLsb' 12 4

/-- The second nibble: the first register operand. -/
def x (w : Word) : Register := w.extractLsb' 8 4

/-- The third nibble: the second register operand. -/
def y (w : Word) : Register := w.extractLsb' 4 4

/-- The last nibble. -/
def n (w : Word) : Nibble := w.extractLsb' 0 4

/-- The low byte. -/
def nn (w : Word) : Byte := w.extractLsb' 0 8

/-- The low twelve bits. -/
def nnn (w : Word) : Address := w.extractLsb' 0 12

/-- The high byte. -/
def high (w : Word) : Byte := w.extractLsb' 8 8

/-! ### Words as numbers -/

private theorem toNat_append {m n : Nat} (a : BitVec m) (b : BitVec n) :
    (a ++ b).toNat = a.toNat <<< n + b.toNat := by
  rw [BitVec.toNat_append, ← Nat.shiftLeft_add_eq_or_of_lt b.isLt]

theorem toNat_ofBytes (high low : Byte) :
    (ofBytes high low).toNat = high.toNat * 256 + low.toNat := by
  rw [ofBytes, toNat_append, Nat.shiftLeft_eq]

theorem toNat_withAddress (a : Nibble) (nnn : Address) :
    (withAddress a nnn).toNat = a.toNat * 4096 + nnn.toNat := by
  rw [withAddress, toNat_append, Nat.shiftLeft_eq]

theorem toNat_withByte (a : Nibble) (x : Register) (nn : Byte) :
    (withByte a x nn).toNat = a.toNat * 4096 + x.toNat * 256 + nn.toNat := by
  have h := toNat_append (a ++ x) nn
  rw [toNat_append a x] at h
  exact h.trans (by omega)

theorem toNat_ofNibbles (a x y n : Nibble) :
    (ofNibbles a x y n).toNat = a.toNat * 4096 + x.toNat * 256 + y.toNat * 16 + n.toNat := by
  have h := toNat_append (a ++ x ++ y) n
  rw [toNat_append (a ++ x) y, toNat_append a x] at h
  exact h.trans (by omega)

theorem toNat_family (w : Word) : w.family.toNat = w.toNat / 4096 := by
  have := w.isLt
  simp [family, Nat.shiftRight_eq_div_pow]
  omega

theorem toNat_x (w : Word) : w.x.toNat = w.toNat / 256 % 16 := by
  simp [x, Nat.shiftRight_eq_div_pow]

theorem toNat_y (w : Word) : w.y.toNat = w.toNat / 16 % 16 := by
  simp [y, Nat.shiftRight_eq_div_pow]

theorem toNat_n (w : Word) : w.n.toNat = w.toNat % 16 := by
  simp [n]

theorem toNat_nn (w : Word) : w.nn.toNat = w.toNat % 256 := by
  simp [nn]

theorem toNat_nnn (w : Word) : w.nnn.toNat = w.toNat % 4096 := by
  simp [nnn]

theorem toNat_high (w : Word) : w.high.toNat = w.toNat / 256 := by
  have := w.isLt
  simp [high, Nat.shiftRight_eq_div_pow]
  omega

/-! ### Taking apart what was put together -/

variable (a x y n : Nibble) (nn : Byte) (nnn : Address)

@[simp] theorem family_withAddress : (withAddress a nnn).family = a :=
  BitVec.eq_of_toNat_eq (by rw [toNat_family, toNat_withAddress]; omega)

@[simp] theorem nnn_withAddress : (withAddress a nnn).nnn = nnn :=
  BitVec.eq_of_toNat_eq (by rw [toNat_nnn, toNat_withAddress]; omega)

@[simp] theorem family_withByte : (withByte a x nn).family = a :=
  BitVec.eq_of_toNat_eq (by rw [toNat_family, toNat_withByte]; omega)

@[simp] theorem x_withByte : (withByte a x nn).x = x :=
  BitVec.eq_of_toNat_eq (by rw [toNat_x, toNat_withByte]; omega)

@[simp] theorem nn_withByte : (withByte a x nn).nn = nn :=
  BitVec.eq_of_toNat_eq (by rw [toNat_nn, toNat_withByte]; omega)

@[simp] theorem family_ofNibbles : (ofNibbles a x y n).family = a :=
  BitVec.eq_of_toNat_eq (by rw [toNat_family, toNat_ofNibbles]; omega)

@[simp] theorem x_ofNibbles : (ofNibbles a x y n).x = x :=
  BitVec.eq_of_toNat_eq (by rw [toNat_x, toNat_ofNibbles]; omega)

@[simp] theorem y_ofNibbles : (ofNibbles a x y n).y = y :=
  BitVec.eq_of_toNat_eq (by rw [toNat_y, toNat_ofNibbles]; omega)

@[simp] theorem n_ofNibbles : (ofNibbles a x y n).n = n :=
  BitVec.eq_of_toNat_eq (by rw [toNat_n, toNat_ofNibbles]; omega)

/-! ### Putting together what was taken apart -/

variable (w : Word)

@[simp] theorem withAddress_family_nnn : withAddress w.family w.nnn = w :=
  BitVec.eq_of_toNat_eq (by rw [toNat_withAddress, toNat_family, toNat_nnn]; omega)

@[simp] theorem withByte_family_x_nn : withByte w.family w.x w.nn = w :=
  BitVec.eq_of_toNat_eq (by rw [toNat_withByte, toNat_family, toNat_x, toNat_nn]; omega)

@[simp] theorem ofNibbles_family_x_y_n : ofNibbles w.family w.x w.y w.n = w :=
  BitVec.eq_of_toNat_eq (by
    rw [toNat_ofNibbles, toNat_family, toNat_x, toNat_y, toNat_n]; omega)

end Word
end ChipEight
