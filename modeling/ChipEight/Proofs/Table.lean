/-
What is found in a table.

A table that is made from pairs holds for each key the value of the last pair with that key
(`Last`).  A table in which no key is repeated holds exactly its pairs.
-/
import ChipEight.Table
import Mathlib.Data.List.Induction

namespace ChipEight.Table

variable {κ ν : Type} {key : κ} {value : ν} {pairs : List (κ × ν)}

/-- The last of the pairs with a key has a value. -/
def Last (pairs : List (κ × ν)) (key : κ) (value : ν) : Prop :=
  ∃ front back, pairs = front ++ (key, value) :: back ∧ ∀ e ∈ back, e.1 ≠ key

theorem last_concat_iff {e : κ × ν} :
    Last (pairs ++ [e]) key value ↔
      e = (key, value) ∨ e.1 ≠ key ∧ Last pairs key value := by
  constructor
  · rintro ⟨front, back, heq, hback⟩
    rcases List.eq_nil_or_concat back with rfl | ⟨rest, last, rfl⟩
    · exact .inl (List.singleton_inj.mp (List.append_inj_right' heq rfl))
    · rw [List.concat_eq_append, ← List.cons_append, ← List.append_assoc] at heq
      obtain ⟨hpairs, hlast⟩ := List.append_inj' heq rfl
      obtain rfl := List.singleton_inj.mp hlast
      exact .inr ⟨hback e (by simp), front, rest, hpairs, fun a ha => hback a (by simp [ha])⟩
  · rintro (rfl | ⟨hne, front, back, rfl, hback⟩)
    · exact ⟨pairs, [], rfl, by simp⟩
    · refine ⟨front, back ++ [e], by simp, fun a ha => ?_⟩
      rcases List.mem_append.mp ha with ha | ha
      · exact hback a ha
      · rwa [List.mem_singleton.mp ha]

variable [DecidableEq κ]

/-- **A table of pairs holds the last value of each key.** -/
theorem get?_ofPairs_eq_some_iff :
    get? key (ofPairs pairs) = some value ↔ Last pairs key value := by
  induction pairs using List.reverseRecOn with
  | nil => simp [ofPairs, get?, Last]
  | append_singleton rest e ih =>
      have hput : ofPairs (rest ++ [e]) = put e.1 e.2 (ofPairs rest) := List.foldl_append ..
      rw [hput, get?_put, last_concat_iff]
      by_cases he : e.1 = key
      · rw [if_pos he, Option.some.injEq, Prod.ext_iff]
        simp [he]
      · rw [if_neg he, ih, Prod.ext_iff]
        simp [he]

theorem get?_eq_some_iff_mem {t : List (κ × ν)} (h : t.Pairwise fun a b => a.1 ≠ b.1) :
    get? key t = some value ↔ (key, value) ∈ t := by
  induction t with
  | nil => simp [get?]
  | cons e rest ih =>
      obtain ⟨hhead, hrest⟩ := List.pairwise_cons.mp h
      by_cases he : e.1 = key
      · have hnot : (key, value) ∉ rest := fun hmem => hhead _ hmem he
        rw [get?, if_pos he, Option.some.injEq, List.mem_cons, Prod.ext_iff]
        simp [he, hnot, eq_comm]
      · rw [get?, if_neg he, ih hrest, List.mem_cons, Prod.ext_iff]
        simp [Ne.symm he]

end ChipEight.Table
