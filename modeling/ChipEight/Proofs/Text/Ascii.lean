/-
The first 128 characters, on which upper case and digits are what they seem.

The tables of the text modules range over all of Unicode, and only the first entry of each of them
can speak of these characters (`find?_eq_head?`): `a` to `z` have their capitals, `0` to `9` are the
digits, and nothing else changes or counts.
-/
import ChipEight.Text.DecimalDigit
import ChipEight.Text.UpperCase
import Mathlib.Data.List.Basic

namespace ChipEight.Text

/-- The character is one of the first 128. -/
def IsAscii (c : Char) : Prop := c.toNat < 128

instance : DecidablePred IsAscii := fun c => inferInstanceAs (Decidable (c.toNat < 128))

/-- A property of the first 128 code points is one of their characters. -/
theorem forall_ascii {p : Char → Prop} (h : ∀ n < 128, p (Char.ofNat n)) {c : Char}
    (hc : IsAscii c) : p c := by
  rw [← Char.ofNat_toNat c]
  exact h _ hc

/-- A property of the characters of a list is found by going through the list, which is much
shorter than the list of all characters. -/
theorem forall_mem_of_all {p : Char → Prop} [DecidablePred p] {cs : List Char}
    (h : (cs.all fun c => decide (p c)) = true) : ∀ c ∈ cs, p c := fun c hc =>
  of_decide_eq_true (List.all_eq_true.mp h c hc)

/-! ### What the tables say -/

theorem find?_eq_head? {α : Type} {p : α → Bool} {l : List α} (h : ∀ a ∈ l.tail, p a = false) :
    l.find? p = l.head?.filter p := by
  cases l with
  | nil => rfl
  | cons a rest =>
      have hrest : rest.find? p = none := List.find?_eq_none.mpr fun b hb => by simp [h b hb]
      cases ha : p a <;> simp [ha, hrest, Option.filter]

theorem first_of_caseRuns : ∀ r ∈ caseRuns.toList.tail, 128 ≤ r.first := by decide +kernel

theorem first_of_caseExpansions : ∀ e ∈ caseExpansions.toList, 128 ≤ e.1 := by decide +kernel

theorem first_of_decimalZeros : ∀ z ∈ decimalZeros.toList.tail, 128 ≤ z := by decide +kernel

theorem first_of_otherDigits : ∀ r ∈ otherDigits.toList, 128 ≤ r.1 := by decide +kernel

/-- The one run that holds letters from A to Z. -/
def smallLetters : CaseRun := ⟨0x61, 0x7A, 1, -32⟩

theorem find?_caseRuns {c : Char} (hc : IsAscii c) :
    caseRuns.find? (·.contains c.toNat) = (some smallLetters).filter (·.contains c.toNat) := by
  have hhead : caseRuns.toList.head? = some smallLetters := rfl
  rw [← Array.find?_toList, ← hhead]
  refine find?_eq_head? fun r hr => ?_
  have hlow : ¬r.first ≤ c.toNat := Nat.not_le.mpr (Nat.lt_of_lt_of_le hc (first_of_caseRuns r hr))
  simp [CaseRun.contains, hlow]

theorem find?_caseExpansions {c : Char} (hc : IsAscii c) :
    caseExpansions.find? (·.1 == c.toNat) = none := by
  rw [← Array.find?_toList, List.find?_eq_none]
  intro e he heq
  have hlow : e.1 < 128 := by
    rw [beq_iff_eq.mp heq]
    exact hc
  exact absurd (first_of_caseExpansions e he) (Nat.not_le.mpr hlow)

theorem upperChar_ascii {c : Char} (hc : IsAscii c) : upperChar c = [c.toUpper] := by
  -- The tables are large, so they are told apart by cases instead of being rewritten.
  have hrun := find?_caseRuns hc
  unfold upperChar
  split
  next r hr =>
    obtain ⟨hsmall, hin⟩ := Option.filter_eq_some_iff.mp (hrun.symm.trans hr)
    obtain rfl := Option.some.inj hsmall
    exact forall_ascii (p := fun c => smallLetters.contains c.toNat = true →
      [Char.ofNat (c.toNat + smallLetters.offset).toNat] = [c.toUpper]) (by decide +kernel) hc hin
  next hnone =>
    have hout : ¬smallLetters.contains c.toNat = true := fun hin => by
      simp [hnone, Option.filter, hin] at hrun
    split
    next he => cases (find?_caseExpansions hc).symm.trans he
    next =>
      exact forall_ascii (p := fun c => ¬smallLetters.contains c.toNat = true →
        [c] = [c.toUpper]) (by decide +kernel) hc hout

theorem decimalValue?_ascii {c : Char} (hc : IsAscii c) :
    decimalValue? c = if c.isDigit then some (c.toNat - 48) else none := by
  have hzero : (decimalZeros.find? fun z => z ≤ c.toNat && c.toNat < z + 10) =
      (some 0x30).filter fun z => z ≤ c.toNat && c.toNat < z + 10 := by
    have hhead : decimalZeros.toList.head? = some 0x30 := rfl
    rw [← Array.find?_toList, ← hhead]
    refine find?_eq_head? fun z hz => ?_
    have hlow : ¬z ≤ c.toNat :=
      Nat.not_le.mpr (Nat.lt_of_lt_of_le hc (first_of_decimalZeros z hz))
    simp [hlow]
  rw [decimalValue?, hzero]
  exact forall_ascii (p := fun c =>
    ((some 0x30).filter fun z => z ≤ c.toNat && c.toNat < z + 10).map (c.toNat - ·) =
      if c.isDigit then some (c.toNat - 48) else none) (by decide +kernel) hc

theorem isDigit_ascii {c : Char} (hc : IsAscii c) : isDigit c = c.isDigit := by
  have hother : (otherDigits.any fun r => r.1 ≤ c.toNat && c.toNat ≤ r.2) = false := by
    rw [← Array.any_toList, List.any_eq_false]
    intro r hr
    have hlow : ¬r.1 ≤ c.toNat :=
      Nat.not_le.mpr (Nat.lt_of_lt_of_le hc (first_of_otherDigits r hr))
    simp [hlow]
  rw [isDigit, hother, decimalValue?_ascii hc]
  cases c.isDigit <;> rfl

/-! ### Texts that differ in case only -/

/-- Two texts are equal but for the case of the letters from A to Z. -/
def SameUpToCase (s t : String) : Prop := s.toList.map Char.toUpper = t.toList.map Char.toUpper

instance (s t : String) : Decidable (SameUpToCase s t) :=
  inferInstanceAs (Decidable (s.toList.map Char.toUpper = t.toList.map Char.toUpper))

theorem SameUpToCase.symm {s t : String} (h : SameUpToCase s t) : SameUpToCase t s := Eq.symm h

/-- All characters of a text are among the first 128. -/
def AllAscii (s : String) : Prop := ∀ c ∈ s.toList, IsAscii c

instance (s : String) : Decidable (AllAscii s) := List.decidableBAll IsAscii s.toList

theorem toUpper_of_not_isAscii {c : Char} (hc : ¬IsAscii c) : c.toUpper = c := by
  have hnot : ¬(c.val ≥ 'a'.val ∧ c.val ≤ 'z'.val) := by
    rintro ⟨-, hz⟩
    have hle : c.toNat ≤ 'z'.toNat := hz
    exact hc (Nat.lt_of_le_of_lt hle (by decide))
  exact dif_neg hnot

theorem isAscii_toUpper_iff {c : Char} : IsAscii c.toUpper ↔ IsAscii c := by
  by_cases hc : IsAscii c
  · exact iff_of_true (forall_ascii (p := fun c => IsAscii c.toUpper) (by decide +kernel) hc) hc
  · rw [toUpper_of_not_isAscii hc]

theorem toUpper_toUpper (c : Char) : c.toUpper.toUpper = c.toUpper := by
  by_cases hc : IsAscii c
  · exact forall_ascii (p := fun c => c.toUpper.toUpper = c.toUpper) (by decide +kernel) hc
  · rw [toUpper_of_not_isAscii hc, toUpper_of_not_isAscii hc]

theorem toLower_of_not_isAscii {c : Char} (hc : ¬IsAscii c) : c.toLower = c := by
  have hnot : ¬(c.val ≥ 'A'.val ∧ c.val ≤ 'Z'.val) := by
    rintro ⟨-, hz⟩
    have hle : c.toNat ≤ 'Z'.toNat := hz
    exact hc (Nat.lt_of_le_of_lt hle (by decide))
  exact dif_neg hnot

theorem toLower_toUpper (c : Char) : c.toUpper.toLower = c.toLower := by
  by_cases hc : IsAscii c
  · exact forall_ascii (p := fun c => c.toUpper.toLower = c.toLower) (by decide +kernel) hc
  · rw [toUpper_of_not_isAscii hc]

theorem toUpper_toLower (c : Char) : c.toLower.toUpper = c.toUpper := by
  by_cases hc : IsAscii c
  · exact forall_ascii (p := fun c => c.toLower.toUpper = c.toUpper) (by decide +kernel) hc
  · rw [toLower_of_not_isAscii hc]

/-- It does not matter in which case texts are compared. -/
theorem sameUpToCase_iff_toLower {s t : String} :
    SameUpToCase s t ↔ s.toList.map Char.toLower = t.toList.map Char.toLower := by
  have hlower (cs : List Char) : (cs.map Char.toUpper).map Char.toLower = cs.map Char.toLower := by
    rw [List.map_map]
    exact List.map_congr_left fun c _ => toLower_toUpper c
  have hupper (cs : List Char) : (cs.map Char.toLower).map Char.toUpper = cs.map Char.toUpper := by
    rw [List.map_map]
    exact List.map_congr_left fun c _ => toUpper_toLower c
  constructor
  · intro h
    rw [← hlower, ← hlower t.toList, h]
  · intro h
    unfold SameUpToCase
    rw [← hupper, ← hupper t.toList, h]

theorem allAscii_iff {s : String} : AllAscii s ↔ ∀ c ∈ s.toList.map Char.toUpper, IsAscii c := by
  simp [AllAscii, isAscii_toUpper_iff]

theorem SameUpToCase.allAscii {s t : String} (h : SameUpToCase s t) (ht : AllAscii t) :
    AllAscii s := by
  rw [allAscii_iff] at ht ⊢
  rwa [h]

theorem upper_ascii {s : String} (hs : AllAscii s) :
    upper s = String.ofList (s.toList.map Char.toUpper) := by
  rw [upper, List.map_eq_flatMap]
  exact congrArg String.ofList (List.flatMap_congr fun c hc => upperChar_ascii (hs c hc))

theorem toList_upper {s : String} (hs : AllAscii s) :
    (upper s).toList = s.toList.map Char.toUpper := by
  rw [upper_ascii hs, String.toList_ofList]

/-- Texts are equal but for case if and only if their upper-case forms are equal. -/
theorem sameUpToCase_iff {s t : String} (hs : AllAscii s) (ht : AllAscii t) :
    SameUpToCase s t ↔ upper s = upper t := by
  rw [← String.toList_inj, toList_upper hs, toList_upper ht]
  rfl

theorem sameUpToCase_upper {s : String} (hs : AllAscii s) : SameUpToCase s (upper s) := by
  rw [SameUpToCase, toList_upper hs, List.map_map]
  exact List.map_congr_left fun c _ => (toUpper_toUpper c).symm

/-- What is in upper case stays so. -/
theorem upper_upper {s : String} (hs : AllAscii s) : upper (upper s) = upper s := by
  have hsame := sameUpToCase_upper hs
  exact ((sameUpToCase_iff hs (hsame.symm.allAscii hs)).mp hsame).symm

end ChipEight.Text
