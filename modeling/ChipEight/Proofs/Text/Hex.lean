/-
The digits of a hexadecimal field.

A field that is wide enough for its number holds one digit for each place (`places`), so its
characters are known one by one.  In every field of a natural number there is nothing but digits,
which is why none of the characters that a listing puts between its fields occurs in them.
-/
import ChipEight.Text.Hex
import Mathlib.Algebra.Group.Nat.Defs

namespace ChipEight.Hex

/-- The digits of the lowest `width` places of a number. -/
def places : Nat → Nat → List Char
  | 0, _ => []
  | width + 1, n => places width (n / 16) ++ [digit (n % 16)]

@[simp] theorem length_places (width n : Nat) : (places width n).length = width := by
  induction width generalizing n with
  | zero => rfl
  | succ width ih => rw [places, List.length_append, ih, List.length_singleton]

theorem places_zero (width : Nat) : places width 0 = List.replicate width '0' := by
  induction width with
  | zero => rfl
  | succ width ih =>
      rw [places, ih, List.replicate_succ']
      rfl

/-! ### Fields -/

theorem toList_field (width n : Nat) : (field width n).toList = pad width (digits n) := by
  rw [field, String.toList_ofList, fieldChars, if_neg (by omega)]
  rfl

/-- One more place, and one more digit. -/
theorem pad_concat (width : Nat) (cs : List Char) (c : Char) :
    pad (width + 1) (cs ++ [c]) = pad width cs ++ [c] := by
  have hlen : width + 1 - (cs ++ [c]).length = width - cs.length := by
    rw [List.length_append, List.length_singleton]
    omega
  rw [pad, pad, hlen, List.append_assoc]

theorem pad_digits (width n : Nat) (h : n < 16 ^ (width + 1)) :
    pad (width + 1) (digits n) = places (width + 1) n := by
  induction width generalizing n with
  | zero =>
      have hn : n < 16 := by omega
      rw [digits, if_pos hn, places, Nat.mod_eq_of_lt hn]
      rfl
  | succ width ih =>
      by_cases hn : n < 16
      · rw [digits, if_pos hn, places, Nat.div_eq_of_lt hn, Nat.mod_eq_of_lt hn, places_zero]
        rfl
      · have hquot : n / 16 < 16 ^ (width + 1) := by
          rw [Nat.div_lt_iff_lt_mul (by decide), ← Nat.pow_succ]
          exact h
        rw [digits, if_neg hn, pad_concat, ih _ hquot]
        rfl

/-- A number that fits in a field is written with one digit for each place. -/
theorem toList_field_of_lt {width n : Nat} (h : n < 16 ^ (width + 1)) :
    (field (width + 1) n).toList = places (width + 1) n := by
  rw [toList_field, pad_digits width n h]

theorem length_toList_field {width n : Nat} (h : n < 16 ^ (width + 1)) :
    (field (width + 1) n).toList.length = width + 1 := by
  rw [toList_field_of_lt h, length_places]

/-! ### What stands in a field -/

section Members

variable {p : Char → Prop} (hp : ∀ d < 16, p (digit d))
include hp

theorem forall_mem_digits (n : Nat) : ∀ c ∈ digits n, p c := by
  induction n using digits.induct with
  | case1 n hn =>
      rw [digits, if_pos hn]
      exact List.forall_mem_singleton.mpr (hp n hn)
  | case2 n hn ih =>
      rw [digits, if_neg hn]
      exact List.forall_mem_append.mpr
        ⟨ih, List.forall_mem_singleton.mpr (hp _ (Nat.mod_lt n (by decide)))⟩

theorem forall_mem_pad (width n : Nat) : ∀ c ∈ pad width (digits n), p c := by
  refine List.forall_mem_append.mpr ⟨?_, forall_mem_digits hp n⟩
  intro c hc
  rw [List.eq_of_mem_replicate hc]
  exact hp 0 (by decide)

theorem forall_mem_field (width n : Nat) : ∀ c ∈ (field width n).toList, p c := by
  rw [toList_field]
  exact forall_mem_pad hp width n

/-- In the field of an integer there may also be a sign. -/
theorem forall_mem_field_int (hsign : p '-') (width : Nat) (n : Int) :
    ∀ c ∈ (field width n).toList, p c := by
  rw [field, String.toList_ofList, fieldChars]
  split
  · exact List.forall_mem_cons.mpr ⟨hsign, forall_mem_pad hp _ _⟩
  · exact forall_mem_pad hp _ _

end Members

end ChipEight.Hex
