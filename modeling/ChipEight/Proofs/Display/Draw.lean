/-
What drawing a sprite does to the display.

A sprite toggles one pixel for each of its set bits, one after the other.  A pixel that is toggled
several times ends up changed if the number is odd, so the order of the toggles does not matter to
the picture.  The collision is another matter, because it looks at the pixels while they change.

A sprite of at most 32 rows toggles no pixel twice: its columns are less than 64 apart and its rows
less than 32, so two of its bits never wrap around to the same place.  Then the collision compares
the display before with the display afterwards, and the number of lit pixels grows by the number
of set bits, less two for each pixel that was turned off.
-/
import ChipEight.Display.Basic
import Mathlib.Algebra.GroupWithZero.Nat
import Mathlib.Data.Fintype.Prod
import Mathlib.Data.Finset.SymmDiff
import Mathlib.Data.List.FinRange
import Mathlib.Data.List.Nodup

namespace ChipEight.Display

/-! ### Toggling one pixel after the other -/

theorem get_toggle (s : Pixels × Bool) (p k : Fin 2048) :
    (toggle s p).1.get k = if p = k then !s.1.get k else s.1.get k := by
  show (toggle s p).1[k] = if p = k then !s.1[k] else s.1[k]
  simp only [toggle, Fin.getElem_fin, Vector.getElem_set, Fin.ext_iff]
  split
  · rename_i h
    simp only [h]
  · rfl

theorem decide_odd_add (a b : Nat) :
    decide ((a + b) % 2 = 1) = (decide (a % 2 = 1) ^^ decide (b % 2 = 1)) := by
  rcases Nat.mod_two_eq_zero_or_one a with ha | ha <;>
    rcases Nat.mod_two_eq_zero_or_one b with hb | hb <;> simp [Nat.add_mod, ha, hb]

theorem get_foldl_toggle (ps : List (Fin 2048)) (s : Pixels × Bool) (k : Fin 2048) :
    (ps.foldl toggle s).1.get k = (s.1.get k ^^ decide (ps.count k % 2 = 1)) := by
  induction ps generalizing s with
  | nil => simp
  | cons p rest ih =>
      rw [List.foldl_cons, ih, get_toggle, List.count_cons, decide_odd_add]
      by_cases hp : p = k <;> simp [hp]

/-- If no pixel is toggled twice, the ones that are turned off are those that were lit at first. -/
theorem snd_foldl_toggle {ps : List (Fin 2048)} (hps : ps.Nodup) (s : Pixels × Bool) :
    (ps.foldl toggle s).2 = (s.2 || ps.any s.1.get) := by
  induction ps generalizing s with
  | nil => simp
  | cons p rest ih =>
      obtain ⟨hp, hrest⟩ := List.nodup_cons.mp hps
      have hsame : rest.any (toggle s p).1.get = rest.any s.1.get := by
        simp only [List.any_eq, decide_eq_decide]
        refine exists_congr fun q => and_congr_right fun hq => ?_
        rw [get_toggle, if_neg fun h : p = q => hp (h ▸ hq)]
      rw [List.foldl_cons, ih hrest, hsame, List.any_cons, ← Bool.or_assoc]
      rfl

theorem get_foldl_toggle_of_nodup {ps : List (Fin 2048)} (hps : ps.Nodup)
    (s : Pixels × Bool) (k : Fin 2048) :
    (ps.foldl toggle s).1.get k = (s.1.get k ^^ decide (k ∈ ps)) := by
  rw [get_foldl_toggle]
  by_cases hk : k ∈ ps
  · simp [hk, List.count_eq_one_of_mem hps hk]
  · simp [hk, List.count_eq_zero_of_not_mem hk]

/-! ### The places of a sprite -/

theorem place_eq_place_iff {x y x' y' : Int} :
    place x y = place x' y' ↔ x % 64 = x' % 64 ∧ y % 32 = y' % 32 := by
  simp only [place, Fin.mk.injEq]
  omega

theorem mem_setColumns_iff {bits : Byte} {c : Nat} :
    c ∈ setColumns bits ↔ c < 8 ∧ bits.getLsbD (7 - c) = true := by
  simp only [setColumns, List.mem_filter, List.mem_range]
  constructor
  · intro ⟨hc, hbit⟩
    rw [BitVec.getMsbD_eq_getLsbD] at hbit
    simpa [hc] using hbit
  · intro ⟨hc, hbit⟩
    refine ⟨hc, ?_⟩
    rw [BitVec.getMsbD_eq_getLsbD]
    simpa [hc] using hbit

theorem mem_places_iff {x y : Int} {sprite : List Byte} {p : Fin 2048} :
    p ∈ places x y sprite ↔
      ∃ row bits col, sprite[row]? = some bits ∧ col ∈ setColumns bits ∧
        p = place (x + (col : Nat)) (y + (row : Nat)) := by
  induction sprite generalizing y with
  | nil => simp [places]
  | cons bits rest ih =>
      rw [places, List.mem_append, List.mem_map, ih]
      constructor
      · intro h
        rcases h with ⟨col, hcol, rfl⟩ | ⟨row, bits', col, hrow, hcol, rfl⟩
        · exact ⟨0, bits, col, rfl, hcol, by simp⟩
        · exact ⟨row + 1, bits', col, hrow, hcol, by push_cast; congr 1; omega⟩
      · intro ⟨row, bits', col, hrow, hcol, hp⟩
        cases row with
        | zero =>
            obtain rfl := Option.some.inj hrow
            exact .inl ⟨col, hcol, by simpa using hp.symm⟩
        | succ row =>
            refine .inr ⟨row, bits', col, hrow, hcol, ?_⟩
            rw [hp]
            push_cast
            congr 1
            omega

/-- **A sprite of at most 32 rows toggles no pixel twice.** -/
theorem nodup_places (x y : Int) {sprite : List Byte} (h : sprite.length ≤ 32) :
    (places x y sprite).Nodup := by
  induction sprite generalizing y with
  | nil => exact List.nodup_nil
  | cons bits rest ih =>
      rw [List.length_cons] at h
      have hrow : ((setColumns bits).map fun c : Nat => place (x + c) y).Nodup := by
        refine List.Nodup.map_on ?_ (List.nodup_range.filter _)
        intro c hc c' hc' hplace
        have hlt := (mem_setColumns_iff.mp hc).1
        have hlt' := (mem_setColumns_iff.mp hc').1
        have hcolumn := (place_eq_place_iff.mp hplace).1
        omega
      refine List.nodup_append'.mpr ⟨hrow, ih (y + 1) (by omega), ?_⟩
      intro p hp hp'
      obtain ⟨c, -, rfl⟩ := List.mem_map.mp hp
      obtain ⟨row, bits', col, hbits, -, hplace⟩ := mem_places_iff.mp hp'
      have hlt := (List.getElem?_eq_some_iff.mp hbits).1
      have hsame := (place_eq_place_iff.mp hplace).2
      omega

/-- The number of set bits of a sprite. -/
def setBits (sprite : List Byte) : Nat :=
  (sprite.map fun bits => (List.range 8).countP bits.getLsbD).sum

theorem length_setColumns (bits : Byte) :
    (setColumns bits).length = (List.range 8).countP bits.getLsbD := by
  have hreverse : (List.range 8).map (7 - ·) = (List.range 8).reverse := by decide
  have hbits : ∀ c ∈ List.range 8, bits.getMsbD c = (bits.getLsbD ∘ (7 - ·)) c := by
    intro c hc
    rw [BitVec.getMsbD_eq_getLsbD]
    simp [List.mem_range.mp hc]
  rw [setColumns, ← List.countP_eq_length_filter, List.countP_congr fun c hc => by rw [hbits c hc],
    ← List.countP_map, hreverse, List.countP_reverse]

theorem length_places (x y : Int) (sprite : List Byte) :
    (places x y sprite).length = setBits sprite := by
  induction sprite generalizing y with
  | nil => rfl
  | cons bits rest ih =>
      rw [places, List.length_append, List.length_map, ih, length_setColumns]
      rfl

/-! ### Cells of the grid -/

/-- A column and a row of the grid. -/
abbrev Cell := Fin 64 × Fin 32

/-- The places of the cells are all the places there are. -/
def cellEquiv : Cell ≃ Fin 2048 where
  toFun p := place p.1 p.2
  invFun k := (⟨k % 64, by omega⟩, ⟨k / 64, by omega⟩)
  left_inv p := by
    have := p.1.isLt
    have := p.2.isLt
    simp only [place, Prod.ext_iff, Fin.ext_iff]
    omega
  right_inv k := by
    simp only [place, Fin.ext_iff]
    omega

theorem card_cells (P : Fin 2048 → Prop) [DecidablePred P] :
    (Finset.univ.filter fun p => P (cellEquiv p)).card = (Finset.univ.filter P).card := by
  rw [← Finset.card_map cellEquiv.toEmbedding]
  refine congrArg Finset.card (Finset.ext fun k => ?_)
  simp only [Finset.mem_map_equiv, Finset.mem_filter, Finset.mem_univ, true_and,
    Equiv.apply_symm_apply]

theorem isLit_cell (d : Display) (p : Cell) : d.isLit p.1 p.2 = d.pixels.get (cellEquiv p) := by
  have hplace : 64 * p.2.val + p.1.val = (cellEquiv p).val := by
    have := p.1.isLt
    have := p.2.isLt
    simp only [cellEquiv, Equiv.coe_fn_mk, place]
    omega
  have hlt := (cellEquiv p).isLt
  rw [isLit, hplace, Vector.getElem?_eq_getElem hlt]
  rfl

/-- The cells that are lit. -/
@[irreducible] def lit (d : Display) : Finset Cell :=
  Finset.univ.filter fun p => d.isLit p.1 p.2 = true

theorem mem_lit {d : Display} {p : Cell} : p ∈ d.lit ↔ d.isLit p.1 p.2 = true := by
  unfold lit
  exact Finset.mem_filter_univ p

/-- The cells that were lit and are dark now. -/
@[irreducible] def erased (d d' : Display) : Finset Cell :=
  Finset.univ.filter fun p => d.isLit p.1 p.2 = true ∧ d'.isLit p.1 p.2 = false

theorem mem_erased {d d' : Display} {p : Cell} :
    p ∈ erased d d' ↔ d.isLit p.1 p.2 = true ∧ d'.isLit p.1 p.2 = false := by
  unfold erased
  exact Finset.mem_filter_univ p

theorem litCount_eq_card (d : Display) : d.litCount = d.lit.card := by
  have hrow : d.pixels.toList = (List.finRange 2048).map d.pixels.get := by
    refine List.ext_getElem (by simp) ?_
    intro k hk hk'
    simp only [Vector.getElem_toList, List.getElem_map, List.getElem_finRange]
    rfl
  have hcard := card_cells fun k => d.pixels.get k = true
  unfold lit
  simp only [isLit_cell]
  rw [hcard, litCount, hrow, List.count, List.countP_map, List.countP_eq_length_filter,
    ← List.toFinset_card_of_nodup ((List.nodup_finRange _).filter _)]
  refine congrArg Finset.card (Finset.ext fun k => ?_)
  simp

/-! ### The picture before and afterwards -/

/-- The sprite at column `x` and row `y` has a set bit for the cell in column `c` and row `r`. -/
def Covers (x y : Int) (sprite : List Byte) (c r : Nat) : Prop :=
  let col := ((c - x) % 64).toNat
  let row := ((r - y) % 32).toNat
  ∃ bits, sprite[row]? = some bits ∧ col < 8 ∧ bits.getLsbD (7 - col) = true

/-- Each covered cell has one place only, so its distance from the corner of the sprite tells the
row and the bit. -/
theorem mem_places_iff_covers {x y : Int} {sprite : List Byte} (h : sprite.length ≤ 32)
    (p : Cell) : cellEquiv p ∈ places x y sprite ↔ Covers x y sprite p.1 p.2 := by
  have hc := p.1.isLt
  have hr := p.2.isLt
  simp only [mem_places_iff, mem_setColumns_iff, Covers, cellEquiv, Equiv.coe_fn_mk,
    place_eq_place_iff]
  constructor
  · intro ⟨row, bits, col, hrow, ⟨hcol, hbit⟩, hx, hy⟩
    have hlt := (List.getElem?_eq_some_iff.mp hrow).1
    obtain rfl : row = ((p.2 - y) % 32).toNat := by omega
    obtain rfl : col = ((p.1 - x) % 64).toNat := by omega
    exact ⟨bits, hrow, hcol, hbit⟩
  · intro ⟨bits, hrow, hcol, hbit⟩
    exact ⟨_, bits, _, hrow, ⟨hcol, hbit⟩, by omega, by omega⟩

/-- The cells that a sprite toggles. -/
@[irreducible] def covered (x y : Int) (sprite : List Byte) : Finset Cell :=
  Finset.univ.filter fun p => cellEquiv p ∈ places x y sprite

theorem mem_covered {x y : Int} {sprite : List Byte} {p : Cell} :
    p ∈ covered x y sprite ↔ cellEquiv p ∈ places x y sprite := by
  unfold covered
  exact Finset.mem_filter_univ p

theorem card_covered (x y : Int) {sprite : List Byte} (h : sprite.length ≤ 32) :
    (covered x y sprite).card = setBits sprite := by
  have hset : (Finset.univ.filter fun k => k ∈ places x y sprite) =
      (places x y sprite).toFinset := by
    ext k
    simp
  have hcells := card_cells fun k => k ∈ places x y sprite
  rw [hset, List.toFinset_card_of_nodup (nodup_places x y h), length_places] at hcells
  unfold covered
  exact hcells

theorem isLit_draw (d : Display) (x y : Int) {sprite : List Byte} (h : sprite.length ≤ 32)
    (p : Cell) :
    (d.draw x y sprite).2.isLit p.1 p.2 = (d.isLit p.1 p.2 ^^ decide (p ∈ covered x y sprite)) := by
  rw [isLit_cell, isLit_cell]
  simp only [mem_covered]
  exact get_foldl_toggle_of_nodup (nodup_places x y h) (d.pixels, false) _

theorem lit_draw (d : Display) (x y : Int) {sprite : List Byte} (h : sprite.length ≤ 32) :
    (d.draw x y sprite).2.lit = symmDiff d.lit (covered x y sprite) := by
  ext p
  simp only [Finset.mem_symmDiff, mem_lit, isLit_draw d x y h]
  by_cases hp : p ∈ covered x y sprite <;> cases d.isLit p.1 p.2 <;> simp [hp]

theorem erased_draw (d : Display) (x y : Int) {sprite : List Byte} (h : sprite.length ≤ 32) :
    erased d (d.draw x y sprite).2 = d.lit ∩ covered x y sprite := by
  ext p
  simp only [Finset.mem_inter, mem_erased, mem_lit, isLit_draw d x y h]
  by_cases hp : p ∈ covered x y sprite <;> cases d.isLit p.1 p.2 <;> simp [hp]

theorem card_symmDiff_add {α : Type} [DecidableEq α] (s t : Finset α) :
    (symmDiff s t).card + 2 * (s ∩ t).card = s.card + t.card := by
  have hs := Finset.card_sdiff_add_card_inter s t
  have ht := Finset.card_sdiff_add_card_inter t s
  have hdisjoint : Disjoint (s \ t) (t \ s) := disjoint_sdiff_sdiff
  rw [Finset.inter_comm] at ht
  rw [Finset.symmDiff_def, Finset.card_union_of_disjoint hdisjoint]
  omega

/-- A collision is a cell that was turned off. -/
theorem collision_iff (d : Display) (x y : Int) {sprite : List Byte} (h : sprite.length ≤ 32) :
    (d.draw x y sprite).1 = true ↔ (erased d (d.draw x y sprite).2).Nonempty := by
  show ((places x y sprite).foldl toggle (d.pixels, false)).2 = true ↔ _
  rw [snd_foldl_toggle (nodup_places x y h), erased_draw d x y h, Bool.false_or, List.any_eq_true]
  constructor
  · rintro ⟨k, hk, hlit⟩
    refine ⟨cellEquiv.symm k, ?_⟩
    simp only [Finset.mem_inter, mem_lit, mem_covered, isLit_cell, Equiv.apply_symm_apply]
    exact ⟨hlit, hk⟩
  · intro ⟨p, hp⟩
    simp only [Finset.mem_inter, mem_lit, mem_covered, isLit_cell] at hp
    exact ⟨cellEquiv p, hp.2, hp.1⟩

/-- The second display is the first one with the sprite drawn on it. -/
structure Drawn (d d' : Display) (x y : Int) (sprite : List Byte) (collision : Bool) : Prop where
  flipped : ∀ c < 64, ∀ r < 32, Covers x y sprite c r → d'.isLit c r = !d.isLit c r
  kept : ∀ c < 64, ∀ r < 32, ¬Covers x y sprite c r → d'.isLit c r = d.isLit c r
  collision_iff : collision = true ↔ ∃ c < 64, ∃ r < 32, d.isLit c r = true ∧ d'.isLit c r = false
  litCount : (d'.litCount : Int) = d.litCount + setBits sprite - 2 * (erased d d').card
  /-- If nothing is turned off, every set bit lights a pixel, and only then. -/
  clear_iff : collision = false ↔ d'.litCount = d.litCount + setBits sprite

theorem drawn_draw (d : Display) (x y : Int) {sprite : List Byte} (h : sprite.length ≤ 32) :
    Drawn d (d.draw x y sprite).2 x y sprite (d.draw x y sprite).1 := by
  have hpixel : ∀ c (hc : c < 64) r (hr : r < 32),
      (d.draw x y sprite).2.isLit c r =
        (d.isLit c r ^^ decide ((⟨c, hc⟩, ⟨r, hr⟩) ∈ covered x y sprite)) :=
    fun c hc r hr => isLit_draw d x y h (⟨c, hc⟩, ⟨r, hr⟩)
  have hcovered : ∀ c (hc : c < 64) r (hr : r < 32),
      (⟨c, hc⟩, ⟨r, hr⟩) ∈ covered x y sprite ↔ Covers x y sprite c r := by
    intro c hc r hr
    rw [mem_covered, mem_places_iff_covers h]
  have hcount : (d.draw x y sprite).2.litCount + 2 * (erased d (d.draw x y sprite).2).card =
      d.litCount + setBits sprite := by
    rw [litCount_eq_card, litCount_eq_card, lit_draw d x y h, erased_draw d x y h,
      card_symmDiff_add, card_covered x y h]
  have hcollision := collision_iff d x y h
  constructor
  · intro c hc r hr hcov
    rw [hpixel c hc r hr, decide_eq_true ((hcovered c hc r hr).mpr hcov), Bool.xor_true]
  · intro c hc r hr hcov
    rw [hpixel c hc r hr, decide_eq_false (mt (hcovered c hc r hr).mp hcov), Bool.xor_false]
  · rw [hcollision]
    constructor
    · intro ⟨p, hp⟩
      exact ⟨p.1, p.1.isLt, p.2, p.2.isLt, mem_erased.mp hp⟩
    · intro ⟨c, hc, r, hr, hoff⟩
      exact ⟨(⟨c, hc⟩, ⟨r, hr⟩), mem_erased.mpr hoff⟩
  · omega
  · rw [← Bool.not_eq_true, hcollision, Finset.not_nonempty_iff_eq_empty,
      ← Finset.card_eq_zero]
    omega

end ChipEight.Display
