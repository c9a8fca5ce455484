/-
Drawing one sprite after the other.

A sprite is drawn by toggling pixels, so all that a sequence of sprites does to a pixel is settled
by how often it is toggled, and of that only by whether the number is odd.  `get_drawAll` says so,
for sprites of any length, also for those that wrap around onto their own rows.  The number does not
depend on the order of the sprites, which is why they may be drawn in any order, and a second round
doubles it, which is why a second round takes back the first one.

The collisions do depend on the order.  They do not depend on where a coordinate is counted from,
because the places that a sprite toggles, in drawing order, are the same after a shift by the width
or the height of the display.  And a sprite with a set bit that is drawn twice collides, because the
pixel that it toggles first is toggled once more before the end.
-/
import ChipEight.Proofs.Display.Draw

namespace ChipEight

/-- A sprite and the place that it is drawn at. -/
structure Stroke where
  x : Int
  y : Int
  sprite : List Byte

/-- The same sprite, some widths and some heights of the display away. -/
def Stroke.Shifted (s t : Stroke) : Prop :=
  ∃ j k : Int, t = ⟨s.x + 64 * j, s.y + 32 * k, s.sprite⟩

namespace Display

variable {d : Display} {strokes strokes' : List Stroke}

/-- Draws one sprite after the other, and says for each whether a pixel was turned off. -/
def drawAll (d : Display) : List Stroke → List Bool × Display
  | [] => ([], d)
  | s :: rest =>
      let first := d.draw s.x s.y s.sprite
      let others := first.2.drawAll rest
      (first.1 :: others.1, others.2)

/-- The places that a sequence of sprites toggles, in drawing order. -/
def toggled (strokes : List Stroke) : List (Fin 2048) :=
  strokes.flatMap fun s => places s.x s.y s.sprite

/-! ### Any order -/

/-- A pixel is changed by a sequence of sprites if they toggle it an odd number of times. -/
theorem get_drawAll (d : Display) (strokes : List Stroke) (k : Fin 2048) :
    (d.drawAll strokes).2.pixels.get k =
      (d.pixels.get k ^^ decide ((toggled strokes).count k % 2 = 1)) := by
  induction strokes generalizing d with
  | nil => simp [drawAll, toggled]
  | cons s rest ih =>
      have hfirst : (d.draw s.x s.y s.sprite).2.pixels.get k =
          (d.pixels.get k ^^ decide ((places s.x s.y s.sprite).count k % 2 = 1)) :=
        get_foldl_toggle _ _ k
      have hrest := ih (d.draw s.x s.y s.sprite).2
      rw [hfirst, Bool.xor_assoc, ← decide_odd_add, ← List.count_append] at hrest
      exact hrest

theorem dirty_drawAll (d : Display) (strokes : List Stroke) :
    (d.drawAll strokes).2.dirty = (d.dirty || !strokes.isEmpty) := by
  induction strokes generalizing d with
  | nil => simp [drawAll]
  | cons s rest ih =>
      have hrest := ih (d.draw s.x s.y s.sprite).2
      rw [show (d.draw s.x s.y s.sprite).2.dirty = true from rfl, Bool.true_or] at hrest
      rw [List.isEmpty_cons, Bool.not_false, Bool.or_true]
      exact hrest

theorem ext_get {p q : Pixels} (h : ∀ k, p.get k = q.get k) : p = q :=
  Vector.ext fun k hk => h ⟨k, hk⟩

theorem count_toggled (h : strokes.Perm strokes') (k : Fin 2048) :
    (toggled strokes).count k = (toggled strokes').count k :=
  (h.flatMap_right _).count_eq k

theorem drawAll_perm (h : strokes.Perm strokes') :
    (d.drawAll strokes).2 = (d.drawAll strokes').2 := by
  have hpixels : (d.drawAll strokes).2.pixels = (d.drawAll strokes').2.pixels := by
    refine ext_get fun k => ?_
    rw [get_drawAll, get_drawAll, count_toggled h]
  have hdirty : (d.drawAll strokes).2.dirty = (d.drawAll strokes').2.dirty := by
    rw [dirty_drawAll, dirty_drawAll, h.isEmpty_eq]
  exact congrArg₂ Display.mk hpixels hdirty

theorem pixels_drawAll_drawAll (h : strokes.Perm strokes') :
    ((d.drawAll strokes).2.drawAll strokes').2.pixels = d.pixels := by
  refine ext_get fun k => ?_
  rw [get_drawAll, get_drawAll, count_toggled h, Bool.xor_assoc, Bool.xor_self, Bool.xor_false]

/-! ### Any corner of the same place -/

theorem places_congr {x x' y y' : Int} (hx : x % 64 = x' % 64) (hy : y % 32 = y' % 32)
    (sprite : List Byte) : places x y sprite = places x' y' sprite := by
  induction sprite generalizing y y' with
  | nil => rfl
  | cons bits rest ih =>
      have hrow : (fun c : Nat => place (x + c) y) = fun c : Nat => place (x' + c) y' :=
        funext fun c => place_eq_place_iff.mpr ⟨by omega, hy⟩
      have hbelow : (y + 1) % 32 = (y' + 1) % 32 := by omega
      rw [places, places, hrow, ih hbelow]

theorem draw_shifted {s t : Stroke} (h : s.Shifted t) (d : Display) :
    d.draw s.x s.y s.sprite = d.draw t.x t.y t.sprite := by
  obtain ⟨j, k, rfl⟩ := h
  rw [draw, draw, places_congr (Int.add_mul_emod_self_left s.x 64 j).symm
    (Int.add_mul_emod_self_left s.y 32 k).symm]

theorem drawAll_shifted (h : List.Forall₂ Stroke.Shifted strokes strokes') (d : Display) :
    d.drawAll strokes = d.drawAll strokes' := by
  induction h generalizing d with
  | nil => rfl
  | cons hs _ ih => simp only [drawAll, draw_shifted hs, ih]

/-! ### The same sprite again -/

theorem setColumns_eq_nil_iff {bits : Byte} : setColumns bits = [] ↔ bits = 0 := by
  constructor
  · intro h
    refine BitVec.eq_of_getLsbD_eq fun i hi => ?_
    have hnot : 7 - i ∉ setColumns bits := by rw [h]; exact List.not_mem_nil
    rw [mem_setColumns_iff, show 7 - (7 - i) = i by omega] at hnot
    rw [show BitVec.getLsbD (0 : Byte) i = false from BitVec.getLsbD_zero, ← Bool.not_eq_true]
    exact fun hbit => hnot ⟨by omega, hbit⟩
  · rintro rfl
    rfl

theorem places_eq_nil_iff {x y : Int} {sprite : List Byte} :
    places x y sprite = [] ↔ ∀ bits ∈ sprite, bits = 0 := by
  induction sprite generalizing y with
  | nil => simp [places]
  | cons bits rest ih =>
      rw [places, List.append_eq_nil_iff, List.map_eq_nil_iff, setColumns_eq_nil_iff, ih,
        List.forall_mem_cons]

theorem snd_foldl_toggle_mono (ps : List (Fin 2048)) {s : Pixels × Bool} (h : s.2 = true) :
    (ps.foldl toggle s).2 = true := by
  induction ps generalizing s with
  | nil => exact h
  | cons p rest ih => exact ih (by rw [toggle, h, Bool.true_or])

/-- A lit pixel is turned off the first time that it is toggled. -/
theorem snd_foldl_toggle_of_lit {ps : List (Fin 2048)} {s : Pixels × Bool} {p : Fin 2048}
    (hp : p ∈ ps) (hlit : s.1.get p = true) : (ps.foldl toggle s).2 = true := by
  induction ps generalizing s with
  | nil => exact absurd hp List.not_mem_nil
  | cons q rest ih =>
      by_cases hq : q = p
      · subst hq
        refine snd_foldl_toggle_mono rest ?_
        show (s.2 || s.1.get q) = true
        rw [hlit, Bool.or_true]
      · have hrest : p ∈ rest := (List.mem_cons.mp hp).resolve_left (Ne.symm hq)
        refine ih hrest ?_
        rw [get_toggle, if_neg hq]
        exact hlit

/-- Look at the pixel that is toggled first.  It is turned off at once if it was lit, and otherwise
the next time that it is toggled, at the latest at the beginning of the second drawing. -/
theorem collision_of_places_ne_nil (d : Display) {x y : Int} {sprite : List Byte}
    (h : places x y sprite ≠ []) :
    (d.draw x y sprite).1 = true ∨ ((d.draw x y sprite).2.draw x y sprite).1 = true := by
  obtain ⟨p, rest, hplaces⟩ := List.exists_cons_of_ne_nil h
  have hfirst : p ∈ places x y sprite := by rw [hplaces]; exact List.mem_cons_self
  cases hlit : d.pixels.get p with
  | true => exact .inl (snd_foldl_toggle_of_lit hfirst hlit)
  | false =>
      have hon : (toggle (d.pixels, false) p).1.get p = true := by
        rw [get_toggle, if_pos rfl, hlit, Bool.not_false]
      by_cases hagain : p ∈ rest
      · left
        show ((places x y sprite).foldl toggle (d.pixels, false)).2 = true
        rw [hplaces, List.foldl_cons]
        exact snd_foldl_toggle_of_lit hagain hon
      · right
        refine snd_foldl_toggle_of_lit hfirst ?_
        show ((places x y sprite).foldl toggle (d.pixels, false)).1.get p = true
        rw [hplaces, List.foldl_cons, get_foldl_toggle, List.count_eq_zero_of_not_mem hagain, hon]
        rfl

theorem collision_draw_draw (d : Display) (x y : Int) (sprite : List Byte) :
    ((d.draw x y sprite).1 = true ∨ ((d.draw x y sprite).2.draw x y sprite).1 = true) ↔
      ∃ bits ∈ sprite, bits ≠ 0 := by
  have hblank : places x y sprite = [] ↔ ¬∃ bits ∈ sprite, bits ≠ 0 := by
    rw [places_eq_nil_iff]
    push Not
    rfl
  constructor
  · intro h
    by_contra hnone
    -- Nothing is toggled by either drawing.
    simp only [draw, hblank.mpr hnone, List.foldl_nil, Bool.false_eq_true, or_self] at h
  · intro hsome
    exact collision_of_places_ne_nil d fun hnil => hblank.mp hnil hsome

/-- What holds of two sequences of sprites, drawn on one display. -/
structure Sequences (d : Display) (strokes strokes' : List Stroke) : Prop where
  reorder : strokes.Perm strokes' → (d.drawAll strokes).2 = (d.drawAll strokes').2
  undo : strokes.Perm strokes' → ((d.drawAll strokes).2.drawAll strokes').2.pixels = d.pixels
  /-- Picture and collisions are the same. -/
  shift : List.Forall₂ Stroke.Shifted strokes strokes' → d.drawAll strokes = d.drawAll strokes'
  /-- Of two drawings of one sprite, one at least turns off a pixel. -/
  twice : ∀ s : Stroke, true ∈ (d.drawAll [s, s]).1 ↔ ∃ bits ∈ s.sprite, bits ≠ 0

/-- **Sprites are drawn in any order, and drawing them again erases them.** -/
theorem stroke_sequences (d : Display) (strokes strokes' : List Stroke) :
    Sequences d strokes strokes' where
  reorder := drawAll_perm
  undo := pixels_drawAll_drawAll
  shift := (drawAll_shifted · d)
  twice := by
    intro s
    rw [← collision_draw_draw d s.x s.y s.sprite]
    simp only [drawAll, List.mem_cons, List.not_mem_nil, or_false, @eq_comm Bool true]

end Display
end ChipEight
