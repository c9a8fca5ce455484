/-
Changes on top of changes.

Whether a change is refused, and why, can be seen from the change alone (`refusal?`), since all that
it leaves as it was has passed the check before.  If it is not refused, the settings have the very
values that were asked for (`change_eq_ok_iff`).  So nothing is lost between two changes: they are
one change, in which what the second leaves open is taken from the first (`change_change`).

Layers of settings are changes too, some of which may not be readable.  The check comes after
every layer, not only after the last: a row of layers is refused for the first one that is refused
on its own, even where a later one would have replaced its value (`applyAll_eq_error_iff`).
-/
import ChipEight.Settings
import Mathlib.Data.List.Forall2

namespace ChipEight.Settings

/-- Values for the settings, before the counters are checked. -/
@[ext]
structure Values where
  shiftsBoth : Bool
  stackDepth : Int
  cyclesPerFrame : Int
  timerHz : Int
  scale : Int
  seed : Option Int

/-- The value of a counter. -/
def Values.counter (v : Values) : Counter → Int
  | .stackDepth => v.stackDepth
  | .cyclesPerFrame => v.cyclesPerFrame
  | .timerHz => v.timerHz
  | .scale => v.scale

/-- The values with some of them replaced. -/
def Values.change (v : Values) (c : Changes) : Values where
  shiftsBoth := c.shiftsBoth.getD v.shiftsBoth
  stackDepth := c.stackDepth.getD v.stackDepth
  cyclesPerFrame := c.cyclesPerFrame.getD v.cyclesPerFrame
  timerHz := c.timerHz.getD v.timerHz
  scale := c.scale.getD v.scale
  seed := c.seed.or v.seed

/-- The values that settings have. -/
def values (s : Settings) : Values where
  shiftsBoth := s.shiftsBoth
  stackDepth := s.stackDepth
  cyclesPerFrame := s.cyclesPerFrame
  timerHz := s.timerHz
  scale := s.scale
  seed := s.seed

namespace Changes

/-- The value given for a counter, if any. -/
def counter (c : Changes) : Counter → Option Int
  | .stackDepth => c.stackDepth
  | .cyclesPerFrame => c.cyclesPerFrame
  | .timerHz => c.timerHz
  | .scale => c.scale

/-- The refusal of a counter, if it is given a value below one. -/
def refusalOf? (c : Changes) (k : Counter) : Option Error :=
  (c.counter k).bind fun n => if n < 1 then some (.belowOne k n) else none

/-- The refusal of the first counter that is given a value below one. -/
def refusal? (c : Changes) : Option Error :=
  (c.refusalOf? .stackDepth).or <| (c.refusalOf? .cyclesPerFrame).or <|
    (c.refusalOf? .timerHz).or (c.refusalOf? .scale)

/-- The changes of `c`, except where `d` gives a value too. -/
def updated (c d : Changes) : Changes where
  shiftsBoth := d.shiftsBoth.or c.shiftsBoth
  stackDepth := d.stackDepth.or c.stackDepth
  cyclesPerFrame := d.cyclesPerFrame.or c.cyclesPerFrame
  timerHz := d.timerHz.or c.timerHz
  scale := d.scale.or c.scale
  seed := d.seed.or c.seed

/-- The changes that give one value: to a counter, or to the seed if no counter is named. -/
def single : Option Counter → Option Int → Changes
  | none, v => { seed := v }
  | some .stackDepth, v => { stackDepth := v }
  | some .cyclesPerFrame, v => { cyclesPerFrame := v }
  | some .timerHz, v => { timerHz := v }
  | some .scale, v => { scale := v }

end Changes

/-- The value of a counter that a change asks for. -/
def asked (s : Settings) (c : Changes) (k : Counter) : Int :=
  (c.counter k).getD (s.values.counter k)

variable {s t : Settings} {c d : Changes} {k : Counter} {e : Error}

/-! ### Values -/

theorem Values.change_empty (v : Values) : v.change {} = v := by
  simp [change]

theorem Values.change_change (v : Values) (c d : Changes) :
    (v.change c).change d = v.change (c.updated d) := by
  simp [change, Changes.updated, Option.or_assoc]

/-- Settings differ only if their values do. -/
theorem eq_of_values_eq (h : s.values = t.values) : s = t := by
  cases s
  cases t
  simpa [values, Int.natCast_inj] using h

theorem one_le_counter (s : Settings) (k : Counter) : 1 ≤ s.values.counter k := by
  cases k with
  | stackDepth => exact Int.ofNat_le.mpr s.stackDepth_pos
  | cyclesPerFrame => exact Int.ofNat_le.mpr s.cyclesPerFrame_pos
  | timerHz => exact Int.ofNat_le.mpr s.timerHz_pos
  | scale => exact Int.ofNat_le.mpr s.scale_pos

/-! ### One change -/

/-- A counter that is asked to be below one has been given this value, for what is left as it was
has passed the check. -/
theorem refusalOf?_of_lt (h : s.asked c k < 1) :
    c.refusalOf? k = some (.belowOne k (s.asked c k)) := by
  unfold asked at h ⊢
  cases hk : c.counter k with
  | none =>
      rw [hk, Option.getD_none] at h
      exact absurd (s.one_le_counter k) (Int.not_le.mpr h)
  | some n =>
      rw [hk, Option.getD_some] at h
      simp [Changes.refusalOf?, hk, h]

theorem refusalOf?_of_not_lt (h : ¬s.asked c k < 1) : c.refusalOf? k = none := by
  unfold asked at h
  cases hk : c.counter k with
  | none => simp [Changes.refusalOf?, hk]
  | some n =>
      rw [hk, Option.getD_some] at h
      simp [Changes.refusalOf?, hk, h]

/-- A change is refused for a counter that it gives a value below one, the first in the order of
declaration, or else it gives settings with the values that were asked for. -/
theorem change_cases (s : Settings) (c : Changes) :
    (∃ e, c.refusal? = some e ∧ s.change c = .error e) ∨
      c.refusal? = none ∧ ∃ t, s.change c = .ok t ∧ t.values = s.values.change c := by
  by_cases hdepth : s.asked c .stackDepth < 1
  · exact .inl ⟨.belowOne .stackDepth (s.asked c .stackDepth),
      by simp [Changes.refusal?, refusalOf?_of_lt hdepth], dif_pos hdepth⟩
  have hdepth' := refusalOf?_of_not_lt hdepth
  by_cases hcycles : s.asked c .cyclesPerFrame < 1
  · exact .inl ⟨.belowOne .cyclesPerFrame (s.asked c .cyclesPerFrame),
      by simp [Changes.refusal?, hdepth', refusalOf?_of_lt hcycles],
      (dif_neg hdepth).trans (dif_pos hcycles)⟩
  have hcycles' := refusalOf?_of_not_lt hcycles
  by_cases hhz : s.asked c .timerHz < 1
  · exact .inl ⟨.belowOne .timerHz (s.asked c .timerHz),
      by simp [Changes.refusal?, hdepth', hcycles', refusalOf?_of_lt hhz],
      (dif_neg hdepth).trans ((dif_neg hcycles).trans (dif_pos hhz))⟩
  have hhz' := refusalOf?_of_not_lt hhz
  by_cases hscale : s.asked c .scale < 1
  · exact .inl ⟨.belowOne .scale (s.asked c .scale),
      by simp [Changes.refusal?, hdepth', hcycles', hhz', refusalOf?_of_lt hscale],
      (dif_neg hdepth).trans ((dif_neg hcycles).trans ((dif_neg hhz).trans (dif_pos hscale)))⟩
  have hscale' := refusalOf?_of_not_lt hscale
  have hnonneg {n : Int} (hn : ¬n < 1) : (n.toNat : Int) = n := Int.toNat_of_nonneg (by omega)
  refine .inr ⟨by simp [Changes.refusal?, hdepth', hcycles', hhz', hscale'], _,
    (dif_neg hdepth).trans ((dif_neg hcycles).trans ((dif_neg hhz).trans (dif_neg hscale))), ?_⟩
  exact Values.ext rfl (hnonneg hdepth) (hnonneg hcycles) (hnonneg hhz) (hnonneg hscale) rfl

/-- Why a change is refused does not depend on the settings that it is made to. -/
theorem change_eq_error_iff : s.change c = .error e ↔ c.refusal? = some e := by
  rcases change_cases s c with ⟨e', hrefused, hchange⟩ | ⟨hnone, t, hchange, -⟩
  · simp [hrefused, hchange]
  · simp [hnone, hchange]

theorem values_of_change (h : s.change c = .ok t) : t.values = s.values.change c := by
  rcases change_cases s c with ⟨e, -, hchange⟩ | ⟨-, t', hchange, hvalues⟩
  · rw [h] at hchange
    cases hchange
  · rw [h] at hchange
    cases hchange
    exact hvalues

/-- A change depends on the values that it asks for. -/
theorem change_congr (h : s.values.change c = t.values.change d) : s.change c = t.change d := by
  simp only [values, Values.change, Values.mk.injEq] at h
  obtain ⟨hshifts, hdepth, hcycles, hhz, hscale, hseed⟩ := h
  simp only [change, hshifts, hdepth, hcycles, hhz, hscale, hseed]

theorem change_empty (s : Settings) : s.change {} = .ok s := by
  rcases change_cases s {} with ⟨e, hrefused, -⟩ | ⟨-, t, hchange, hvalues⟩
  · cases hrefused
  · rw [Values.change_empty] at hvalues
    rw [hchange, eq_of_values_eq hvalues]

/-- Settings that are changed have the values that were asked for, and no others do. -/
theorem change_eq_ok_iff : s.change c = .ok t ↔ t.values = s.values.change c := by
  constructor
  · exact values_of_change
  · intro h
    rw [← t.change_empty]
    apply change_congr
    rw [← h, Values.change_empty]

/-- **Two changes are one.**  They are refused with the same error, or give the same settings. -/
theorem change_change (h : s.change c = .ok t) (d : Changes) :
    t.change d = s.change (c.updated d) := by
  apply change_congr
  rw [values_of_change h, Values.change_change]

/-! ### Changes of one value -/

theorem single_none (k? : Option Counter) : Changes.single k? none = {} := by
  rcases k? with _ | _ | _ | _ | _ <;> rfl

/-- A value below one is refused for a counter, and no value is refused for the seed. -/
theorem refusal?_single_iff {k? : Option Counter} {v : Option Int} :
    (Changes.single k? v).refusal? = some e ↔
      ∃ k n, k? = some k ∧ v = some n ∧ n < 1 ∧ e = .belowOne k n := by
  cases k? with
  | none =>
      have hnone : (Changes.single none v).refusal? = none := rfl
      simp [hnone]
  | some k =>
      have hown : (Changes.single (some k) v).refusal? =
          (Changes.single (some k) v).refusalOf? k := by
        cases k <;>
          simp [Changes.refusal?, Changes.refusalOf?, Changes.counter, Changes.single]
      have hcounter : (Changes.single (some k) v).counter k = v := by
        cases k <;> rfl
      cases v with
      | none => simp [hown, Changes.refusalOf?, hcounter]
      | some n => simp [hown, Changes.refusalOf?, hcounter, eq_comm]

/-! ### Layers -/

/-- A layer of settings: changes, or the reason why they cannot be read. -/
abbrev Layer := Except Error Changes

/-- Why a layer is refused. -/
def Layer.refusal? : Layer → Option Error
  | .error e => some e
  | .ok c => c.refusal?

/-- The settings with a layer applied. -/
def apply (s : Settings) (layer : Layer) : Except Error Settings := do
  s.change (← layer)

/-- The settings with one layer after the other applied. -/
def applyAll (s : Settings) (layers : List Layer) : Except Error Settings :=
  layers.foldlM apply s

variable {layer : Layer} {layers : List Layer}

theorem apply_ok (s : Settings) (c : Changes) : s.apply (.ok c) = s.change c := rfl

theorem apply_eq_error_iff : s.apply layer = .error e ↔ layer.refusal? = some e := by
  cases layer with
  | error e' => simp [apply, Layer.refusal?, bind, Except.bind]
  | ok c => exact change_eq_error_iff

/-- **The first wrong layer is reported**, whatever the later ones say. -/
theorem applyAll_eq_error_iff :
    s.applyAll layers = .error e ↔ layers.findSome? Layer.refusal? = some e := by
  unfold applyAll
  induction layers generalizing s with
  | nil => simp [pure, Except.pure]
  | cons layer layers ih =>
      rw [List.foldlM_cons, List.findSome?_cons]
      cases happly : s.apply layer with
      | error e' => simp [apply_eq_error_iff.mp happly, bind, Except.bind]
      | ok t =>
          have hnone : layer.refusal? = none := by
            rw [Option.eq_none_iff_forall_ne_some]
            intro e' hrefused
            rw [← apply_eq_error_iff (s := s), happly] at hrefused
            cases hrefused
          simpa [hnone, bind, Except.bind] using ih

/-- If no layer is refused, all of them have been read and applied. -/
theorem values_of_applyAll (h : s.applyAll layers = .ok t) :
    ∃ cs, List.Forall₂ (fun layer c => layer = .ok c) layers cs ∧
      t.values = cs.foldl Values.change s.values := by
  unfold applyAll at h
  induction layers generalizing s with
  | nil =>
      cases h
      exact ⟨[], .nil, rfl⟩
  | cons layer layers ih =>
      cases layer with
      | error e => cases h
      | ok c =>
          rw [List.foldlM_cons, apply_ok] at h
          cases hchange : s.change c with
          | error e =>
              rw [hchange] at h
              cases h
          | ok s' =>
              rw [hchange] at h
              obtain ⟨cs, hcs, hvalues⟩ := ih h
              refine ⟨c :: cs, .cons rfl hcs, ?_⟩
              rw [hvalues, values_of_change hchange, List.foldl_cons]

end ChipEight.Settings
