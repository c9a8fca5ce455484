/-
Numbers as they are written.

A number is written as a row of digits, one for each place and without underscores (`Spells`).
Fields in base sixteen, in either case and with zeros in front, and the decimal digits of a number
are such rows: each is made digit by digit from the last one, as its number is.  What is written is
read back, so fields of one width with different numbers differ.
-/
import ChipEight.Proofs.Text.Grammar
import ChipEight.Proofs.Text.Hex
import Mathlib.Data.List.Forall2

namespace ChipEight

namespace Numeral

variable {base : Base} {cs : List Char} {n d : Nat} {c : Char}

/-- The characters are digits, and this is the number that they show. -/
def Spells (base : Base) (cs : List Char) (n : Nat) : Prop :=
  cs ≠ [] ∧ ∃ ds, List.Forall₂ (IsDigit base) cs ds ∧ value base ds = n

theorem digits_of_forall₂ {ds : List Nat} (hne : cs ≠ [])
    (h : List.Forall₂ (IsDigit base) cs ds) : Digits base cs ds := by
  induction h with
  | nil => exact absurd rfl hne
  | @cons c d cs ds hdigit hrest ih =>
      cases cs with
      | nil =>
          cases hrest
          exact .last hdigit
      | cons c' cs => exact .next hdigit (ih (List.cons_ne_nil _ _))

/-- A row of digits is a numeral with as many digits. -/
theorem Spells.digits (h : Spells base cs n) :
    ∃ ds, Digits base cs ds ∧ ds.length = cs.length ∧ value base ds = n := by
  obtain ⟨hne, ds, hds, rfl⟩ := h
  exact ⟨ds, digits_of_forall₂ hne hds, hds.length_eq.symm, rfl⟩

theorem Spells.signed (h : Spells .sixteen cs n) : Signed .sixteen cs n := by
  obtain ⟨ds, hds, -, rfl⟩ := h.digits
  exact .bare (.plain hds)

/-! ### Digit by digit -/

theorem spells_singleton (h : IsDigit base c d) : Spells base [c] d :=
  ⟨List.cons_ne_nil _ _, [d], .cons h .nil, by simp [value]⟩

/-- One more digit at the end is one more place. -/
theorem Spells.concat (h : Spells base cs n) (hc : IsDigit base c d) :
    Spells base (cs ++ [c]) (base.toNat * n + d) := by
  obtain ⟨-, ds, hds, rfl⟩ := h
  refine ⟨by simp, ds ++ [d], List.rel_append hds (.cons hc .nil), ?_⟩
  rw [value, value, List.reverse_append, List.reverse_singleton, List.singleton_append,
    Nat.ofDigits_cons, Nat.add_comm]

/-- Zeros in front show nothing. -/
theorem Spells.zeros (h : Spells base cs n) (k : Nat) :
    Spells base (List.replicate k '0' ++ cs) n := by
  have hzero : IsDigit base '0' 0 := by cases base <;> decide
  induction k with
  | zero => exact h
  | succ k ih =>
      obtain ⟨-, ds, hds, rfl⟩ := ih
      refine ⟨List.cons_ne_nil _ _, 0 :: ds, .cons hzero hds, ?_⟩
      rw [value, value, List.reverse_cons, Nat.ofDigits_append, Nat.ofDigits_singleton,
        Nat.mul_zero, Nat.add_zero]

/-! ### Base sixteen -/

theorem isDigit_digit : ∀ d < 16, IsDigit .sixteen (Hex.digit d) d := by decide

theorem spells_hexDigits (n : Nat) : Spells .sixteen (Hex.digits n) n := by
  induction n using Hex.digits.induct with
  | case1 n hn =>
      rw [Hex.digits, if_pos hn]
      exact spells_singleton (isDigit_digit n hn)
  | case2 n hn ih =>
      have hlast := ih.concat (isDigit_digit (n % 16) (Nat.mod_lt n (by decide)))
      rw [Hex.digits, if_neg hn]
      rwa [show Base.sixteen.toNat * (n / 16) + n % 16 = n from Nat.div_add_mod n 16] at hlast

theorem spells_field (width n : Nat) : Spells .sixteen (Hex.field width n).toList n := by
  rw [Hex.toList_field]
  exact (spells_hexDigits n).zeros _

/-- **A field shows its number.** -/
theorem read_field (width n : Nat) : read .sixteen (Hex.field width n) = .ok n :=
  read_of_signed (spells_field width n).signed

/-- Digits may be written in lower case. -/
theorem Spells.lower (h : Spells .sixteen cs n) : Spells .sixteen (cs.map Char.toLower) n := by
  have hlower {c : Char} {d : Nat} (h : IsDigit .sixteen c d) : IsDigit .sixteen c.toLower d := by
    obtain ⟨row, hrow, hget⟩ := h
    have hrows : ∀ row ∈ digitRows .sixteen,
        row.toList.map Char.toLower = "0123456789abcdef".toList := by
      decide
    refine ⟨"0123456789abcdef", by decide, ?_⟩
    rw [← hrows row hrow, List.getElem?_map, hget]
    rfl
  obtain ⟨hne, ds, hds, rfl⟩ := h
  refine ⟨by simpa using hne, ds, ?_, rfl⟩
  exact List.forall₂_map_left_iff.mpr (hds.imp fun _ _ => hlower)

/-! ### Base ten -/

theorem isDigit_digitChar : ∀ d < 10, IsDigit .ten (Nat.digitChar d) d := by decide

theorem spells_toDigits (n : Nat) : Spells .ten (Nat.toDigits 10 n) n := by
  induction n using Nat.strong_induction_on with
  | _ n ih =>
      rw [Nat.toDigits_eq_if (by decide)]
      split
      next hn => exact spells_singleton (isDigit_digitChar n hn)
      next hn =>
        have hsmaller : n / 10 < n := by omega
        have hlast := (ih _ hsmaller).concat (isDigit_digitChar (n % 10) (Nat.mod_lt n (by decide)))
        rwa [show Base.ten.toNat * (n / 10) + n % 10 = n from Nat.div_add_mod n 10] at hlast

theorem unsigned_toDigits {n k : Nat} (hn : n < 10 ^ k) (hk : 0 < k) (hmax : k ≤ 4300) :
    Unsigned .ten (Nat.toDigits 10 n) n := by
  obtain ⟨ds, hds, hlen, hvalue⟩ := (spells_toDigits n).digits
  have hplaces := (Nat.length_toDigits_le_iff (by decide) hk).mpr hn
  have hunsigned := Unsigned.decimal hds (hlen ▸ Nat.le_trans hplaces hmax)
  rwa [hvalue] at hunsigned

/-- **The decimal form of an integer is a numeral** if it has at most 4300 places. -/
theorem signed_toString {n : Int} {k : Nat} (hn : n.natAbs < 10 ^ k) (hk : 0 < k)
    (hmax : k ≤ 4300) : Signed .ten (toString n).toList n := by
  have hunsigned := unsigned_toDigits hn hk hmax
  show Signed .ten n.repr.toList n
  rw [Int.repr_eq_if]
  split
  next hpos =>
    have habs : n.toNat = n.natAbs := by omega
    rw [Nat.toList_repr, habs]
    have hbare := Signed.bare hunsigned
    rwa [Int.natAbs_of_nonneg hpos] at hbare
  next hneg =>
    have habs : (-n).toNat = n.natAbs := by omega
    rw [String.toList_append, Nat.toList_repr, habs]
    have hminus := Signed.minus hunsigned
    rwa [show -(n.natAbs : Int) = n by omega] at hminus

end Numeral

theorem Hex.field_inj {width m n : Nat} : field width m = field width n ↔ m = n := by
  refine ⟨fun h => ?_, fun h => h ▸ rfl⟩
  have hread := Numeral.read_field width m
  rw [h, Numeral.read_field] at hread
  exact Int.ofNat.inj (Except.ok.inj hread).symm

theorem Hex.marked_inj {width m n : Nat} : marked width m = marked width n ↔ m = n := by
  rw [← @field_inj width m n, marked, marked, String.append_right_inj]

end ChipEight
