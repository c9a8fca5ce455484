/-
All views of the display show the same picture.

The pixels are one flat row, and each view finds its way in it on its own: a single pixel by its
column and its row, a line of text by cutting a piece off, a dot of an image by dividing out the
scale.  `SeenAlike` says that they all come to the same pixel, and `Depicts` says it of the dots of
an image.

Images are made by a system of which no more is known than `Imaging.Lawful`: grey levels are put in
row by row, and a larger image repeats each dot.
-/
import ChipEight.Display.View
import ChipEight.Proofs.Display.Draw

namespace ChipEight.Display

variable {d : Display} {c r : Nat}

/-! ### Single pixels -/

theorem pixels_getElem? (hc : c < 64) (hr : r < 32) :
    d.pixels[64 * r + c]? = some (d.isLit c r) := by
  have hlt : 64 * r + c < 2048 := by omega
  rw [isLit, Vector.getElem?_eq_getElem hlt]
  rfl

theorem getPixel_of_lt (hc : c < 64) (hr : r < 32) : d.getPixel c r = .ok (d.isLit c r) := by
  have hinside : 0 ≤ (c : Int) ∧ (c : Int) < width ∧ 0 ≤ (r : Int) ∧ (r : Int) < height := by
    simp only [width, height]
    omega
  rw [getPixel, if_pos hinside]
  rfl

/-- A pixel is refused if and only if it lies outside the grid. -/
theorem getPixel_eq_error_iff {x y : Int} {e : ViewError} :
    d.getPixel x y = .error e ↔
      ¬(0 ≤ x ∧ x < 64 ∧ 0 ≤ y ∧ y < 32) ∧ e = .noSuchPixel x y := by
  have hgrid : (0 ≤ x ∧ x < width ∧ 0 ≤ y ∧ y < height) ↔
      (0 ≤ x ∧ x < 64 ∧ 0 ≤ y ∧ y < 32) := by simp only [width, height]; rfl
  rw [getPixel]
  by_cases h : 0 ≤ x ∧ x < 64 ∧ 0 ≤ y ∧ y < 32
  · rw [if_pos (hgrid.mpr h)]
    simp [h]
  · rw [if_neg (mt hgrid.mp h), Except.error.injEq]
    exact ⟨fun he => ⟨h, he.symm⟩, fun ⟨_, he⟩ => he.symm⟩

/-- The lit pixels are counted one by one. -/
theorem litCount_eq_card_getPixel (d : Display) :
    d.litCount = (Finset.univ.filter fun p : Cell => d.getPixel p.1 p.2 = .ok true).card := by
  have hpixel : ∀ p : Cell, d.getPixel p.1 p.2 = .ok (d.isLit p.1 p.2) :=
    fun p => getPixel_of_lt p.1.isLt p.2.isLt
  rw [litCount_eq_card]
  refine congrArg Finset.card (Finset.ext fun p => ?_)
  rw [mem_lit, Finset.mem_filter_univ, hpixel, Except.ok.injEq]

/-! ### Text -/

theorem row_getElem? (hc : c < 64) (hr : r < 32) : (d.row r)[c]? = some (d.isLit c r) := by
  have hwidth : c < width := hc
  rw [row, List.getElem?_take_of_lt hwidth, List.getElem?_drop, Vector.getElem?_toList]
  exact pixels_getElem? hc hr

theorem length_row (hr : r < 32) : (d.row r).length = 64 := by
  rw [row, List.length_take, List.length_drop, Vector.length_toList]
  simp only [width]
  omega

/-- The line for one row, if each pixel is written as one character. -/
def line (d : Display) (on off : Char) (r : Nat) : String :=
  String.ofList ((d.row r).map fun lit => if lit then on else off)

theorem textGrid_eq (d : Display) (on off : Char) :
    d.textGrid (String.singleton on) (String.singleton off) =
      (List.range 32).map (d.line on off) := by
  refine List.map_congr_left fun r _ => String.toList_inj.mp ?_
  rw [line, String.toList_join, String.toList_ofList, List.flatMap_map, ← List.flatMap_pure_eq_map]
  refine List.flatMap_congr fun lit _ => ?_
  cases lit <;> simp

theorem textGrid_getElem? (on off : Char) (hr : r < 32) :
    (d.textGrid (String.singleton on) (String.singleton off))[r]? = some (d.line on off r) := by
  rw [textGrid_eq, List.getElem?_map, List.getElem?_range hr]
  rfl

theorem line_getElem? (on off : Char) (hc : c < 64) (hr : r < 32) :
    (d.line on off r).toList[c]? = some (if d.isLit c r then on else off) := by
  rw [line, String.toList_ofList, List.getElem?_map, row_getElem? hc hr]
  rfl

theorem length_line (on off : Char) (hr : r < 32) : (d.line on off r).length = 64 := by
  rw [line, ← String.length_toList, String.toList_ofList, List.length_map, length_row hr]

theorem newline_not_mem_line {on off : Char} (hon : on ≠ '\n') (hoff : off ≠ '\n') :
    '\n' ∉ (d.line on off r).toList := by
  rw [line, String.toList_ofList, List.mem_map]
  rintro ⟨lit, -, hlit⟩
  cases lit with
  | true => exact hon hlit
  | false => exact hoff hlit

/-- The text of a display is made of 32 lines of 64 characters. -/
structure Lined (d : Display) (on off : String) : Prop where
  split : ((d.text on off).split '\n').toList.map (·.copy) = d.textGrid on off
  height : (d.textGrid on off).length = 32
  width : ∀ line ∈ d.textGrid on off, line.length = 64

theorem lined {on off : Char} (hon : on ≠ '\n') (hoff : off ≠ '\n') :
    d.Lined (String.singleton on) (String.singleton off) := by
  have hgrid := textGrid_eq d on off
  have hne : (List.range 32).map (d.line on off) ≠ [] := by simp
  constructor
  · have hsplit := String.toList_split_intercalate (c := '\n')
      (l := d.textGrid (String.singleton on) (String.singleton off)) ?_
    · rw [text]
      rw [if_neg (by rw [hgrid]; exact hne)] at hsplit
      exact hsplit
    · rw [hgrid]
      intro s hs
      obtain ⟨r, -, rfl⟩ := List.mem_map.mp hs
      exact newline_not_mem_line hon hoff
  · rw [hgrid, List.length_map, List.length_range]
  · rw [hgrid]
    intro s hs
    obtain ⟨r, hr, rfl⟩ := List.mem_map.mp hs
    exact length_line on off (List.mem_range.mp hr)

/-- All views agree on whether the pixel in column `c` and row `r` is lit. -/
structure SeenAlike (d : Display) (c r : Nat) (lit : Bool) : Prop where
  pixel : d.getPixel c r = .ok lit
  snapshot : d.snapshot.1[64 * r + c]? = some lit
  pixels : d.pixels[64 * r + c]? = some lit
  grid : ∀ on off : Char, ∃ line,
    (d.textGrid (String.singleton on) (String.singleton off))[r]? = some line ∧
      line.toList[c]? = some (if lit then on else off)

theorem seenAlike (hc : c < 64) (hr : r < 32) : d.SeenAlike c r (d.isLit c r) where
  pixel := getPixel_of_lt hc hr
  snapshot := pixels_getElem? hc hr
  pixels := pixels_getElem? hc hr
  grid on off := ⟨d.line on off r, textGrid_getElem? on off hr, line_getElem? on off hc hr⟩

/-! ### Images -/

variable {Image : Type} {system : Imaging Image}

/-- The image has one dot for each pixel of the grid. -/
def Imaging.OfGrid (system : Imaging Image) (image : Image) : Prop :=
  system.width image = 64 ∧ system.height image = 32

/-- What is expected of a system for images. -/
structure Imaging.Lawful (system : Imaging Image) : Prop where
  grid_blank : ∀ level, system.OfGrid (system.blank level)
  dot_blank : ∀ level, 0 ≤ level ∧ level ≤ 255 → ∀ x < 64, ∀ y < 32,
    system.dot (system.blank level) x y = level
  grid_fill : ∀ image levels, system.OfGrid image → system.OfGrid (system.fill image levels)
  /-- Grey levels are put in row by row; dots for which there are none stay as they were. -/
  dot_fill : ∀ image levels, system.OfGrid image → levels.length ≤ 2048 →
    (∀ level ∈ levels, 0 ≤ level ∧ level ≤ 255) → ∀ x < 64, ∀ y < 32,
      system.dot (system.fill image levels) x y = levels[64 * y + x]?.getD (system.dot image x y)
  width_resize : ∀ image (s : Nat), system.OfGrid image → 1 ≤ s →
    system.width (system.resize image (64 * s) (32 * s)) = 64 * s
  height_resize : ∀ image (s : Nat), system.OfGrid image → 1 ≤ s →
    system.height (system.resize image (64 * s) (32 * s)) = 32 * s
  /-- An image that is made larger by a whole factor repeats each of its dots. -/
  dot_resize : ∀ image (s : Nat), system.OfGrid image → 1 ≤ s → ∀ x < 64 * s, ∀ y < 32 * s,
    system.dot (system.resize image (64 * s) (32 * s)) x y = system.dot image (x / s) (y / s)

/-- An image of the grid with squares of a side of `scale` dots, in two grey levels. -/
structure Depicts (system : Imaging Image) (image : Image) (scale : Nat)
    (foreground background : Int) (lit : Nat → Nat → Prop) : Prop where
  width : system.width image = 64 * scale
  height : system.height image = 32 * scale
  bright : ∀ x < 64 * scale, ∀ y < 32 * scale, lit (x / scale) (y / scale) →
    system.dot image x y = foreground
  dark : ∀ x < 64 * scale, ∀ y < 32 * scale, ¬lit (x / scale) (y / scale) →
    system.dot image x y = background

section Depicts

variable {image : Image} {scale : Nat} {foreground background : Int}

theorem Depicts.congr {lit lit' : Nat → Nat → Prop}
    (h : Depicts system image scale foreground background lit)
    (heq : ∀ c < 64, ∀ r < 32, lit c r ↔ lit' c r) :
    Depicts system image scale foreground background lit' := by
  have hcell : ∀ x < 64 * scale, ∀ y < 32 * scale,
      (lit (x / scale) (y / scale) ↔ lit' (x / scale) (y / scale)) :=
    fun x hx y hy => heq _ (Nat.div_lt_of_lt_mul (by rwa [Nat.mul_comm])) _
      (Nat.div_lt_of_lt_mul (by rwa [Nat.mul_comm]))
  exact ⟨h.width, h.height, fun x hx y hy hlit => h.bright x hx y hy ((hcell x hx y hy).mpr hlit),
    fun x hx y hy hdark => h.dark x hx y hy (mt (hcell x hx y hy).mp hdark)⟩

/-- A larger image of an image depicts the same. -/
theorem Depicts.resize (hsystem : system.Lawful) {lit : Nat → Nat → Prop}
    (h : Depicts system image 1 foreground background lit) (hscale : 1 ≤ scale) :
    Depicts system (system.resize image (64 * scale) (32 * scale)) scale foreground background
      lit := by
  have hgrid : system.OfGrid image := ⟨h.width, h.height⟩
  have hdot := hsystem.dot_resize image scale hgrid hscale
  have hlt : ∀ n z, z < n * scale → z / scale < n * 1 :=
    fun n z hz => Nat.div_lt_of_lt_mul (by rwa [Nat.mul_one, Nat.mul_comm])
  refine ⟨hsystem.width_resize image scale hgrid hscale,
    hsystem.height_resize image scale hgrid hscale, ?_, ?_⟩
  · intro x hx y hy hlit
    rw [hdot x hx y hy]
    exact h.bright _ (hlt 64 x hx) _ (hlt 32 y hy) (by rwa [Nat.div_one, Nat.div_one])
  · intro x hx y hy hdark
    rw [hdot x hx y hy]
    exact h.dark _ (hlt 64 x hx) _ (hlt 32 y hy) (by rwa [Nat.div_one, Nat.div_one])

/-- Pixels that are put into an empty image stand at their places, and those that are missing are
dark. -/
theorem depicts_fill (hsystem : system.Lawful) {lit : List Bool} (hlit : lit.length ≤ 2048)
    (hfore : 0 ≤ foreground ∧ foreground ≤ 255) (hback : 0 ≤ background ∧ background ≤ 255) :
    Depicts system
      (system.fill (system.blank background)
        (lit.map fun lit => if lit then foreground else background))
      1 foreground background fun c r => lit[64 * r + c]? = some true := by
  have hgrid := hsystem.grid_blank background
  have hlevels : ∀ level ∈ lit.map (fun lit => if lit then foreground else background),
      0 ≤ level ∧ level ≤ 255 := by
    intro level hlevel
    obtain ⟨b, -, rfl⟩ := List.mem_map.mp hlevel
    cases b with
    | true => exact hfore
    | false => exact hback
  have hdot := hsystem.dot_fill (system.blank background) _ hgrid (by simpa using hlit) hlevels
  obtain ⟨hwidth, hheight⟩ := hsystem.grid_fill (system.blank background)
    (lit.map fun lit => if lit then foreground else background) hgrid
  refine ⟨hwidth, hheight, ?_, ?_⟩
  · intro x hx y hy hbright
    rw [Nat.div_one, Nat.div_one] at hbright
    rw [hdot x hx y hy, List.getElem?_map, hbright]
    rfl
  · intro x hx y hy hdark
    rw [Nat.div_one, Nat.div_one] at hdark
    rw [hdot x hx y hy, List.getElem?_map]
    cases hcell : lit[64 * y + x]? with
    | none => exact hsystem.dot_blank background hback x hx y hy
    | some b =>
        rw [hcell, Option.some.injEq, Bool.not_eq_true] at hdark
        rw [hdark]
        rfl

end Depicts

/-- An image of some pixels shows them, and takes those that are missing for dark. -/
theorem depicts_imageOn (hsystem : system.Lawful) {lit : List Bool} (hlit : lit.length ≤ 2048)
    {scale foreground background : Int} (hscale : 1 ≤ scale)
    (hfore : 0 ≤ foreground ∧ foreground ≤ 255) (hback : 0 ≤ background ∧ background ≤ 255) :
    ∃ image, imageOn system lit scale foreground background = .ok image ∧
      Depicts system image scale.toNat foreground background fun c r =>
        lit[64 * r + c]? = some true := by
  have hfilled := depicts_fill hsystem hlit hfore hback
  rw [imageOn, if_neg (Int.not_lt.mpr hscale)]
  by_cases hone : 1 < scale
  · rw [if_pos hone]
    exact ⟨_, rfl, hfilled.resize hsystem (by omega)⟩
  · obtain rfl : scale = 1 := by omega
    exact ⟨_, rfl, hfilled⟩

/-! ### Pictures are such images -/

theorem toNat_greyLevel {n : Int} (h : 0 ≤ n ∧ n ≤ 255) : ((greyLevel n).toNat : Int) = n := by
  rw [greyLevel, BitVec.toNat_ofNat]
  omega

namespace Picture

theorem scale_of_ofGrid {p : Picture} (h : imaging.OfGrid p) : p.scale = 1 := by
  have hwidth : 64 * p.scale = 64 := h.1
  omega

theorem dot_of_scale {p : Picture} (h : p.scale = 1) (x y : Nat) :
    p.dot x y = p.squares[64 * y + x]?.getD 0 := by
  rw [dot, h, Nat.div_one, Nat.div_one]

theorem scale_withLevels (p : Picture) (levels : List Int) :
    (p.withLevels levels).scale = p.scale := by
  unfold withLevels
  rfl

theorem toNat_dot_withLevels {p : Picture} {levels : List Int} (hscale : p.scale = 1)
    (hlevels : ∀ level ∈ levels, 0 ≤ level ∧ level ≤ 255) {x y : Nat} (hx : x < 64) (hy : y < 32) :
    (((p.withLevels levels).dot x y).toNat : Int) =
      levels[64 * y + x]?.getD ((p.dot x y).toNat : Int) := by
  have hlt : 64 * y + x < 2048 := by omega
  have hscale' : (p.withLevels levels).scale = 1 := (scale_withLevels p levels).trans hscale
  rw [dot_of_scale hscale', dot_of_scale hscale]
  simp only [withLevels, Vector.getElem?_eq_getElem hlt, Vector.getElem_ofFn,
    List.getElem?_toArray, Option.getD_some]
  cases hlevel : levels[64 * y + x]? with
  | none => rfl
  | some level => exact toNat_greyLevel (hlevels level (List.mem_of_getElem? hlevel))

theorem lawful_imaging : imaging.Lawful where
  grid_blank _ := ⟨rfl, rfl⟩
  dot_blank level hlevel x hx y hy := by
    have hlt : 64 * y + x < 2048 := by omega
    show ((dot ⟨1, _⟩ x y).toNat : Int) = level
    rw [dot_of_scale rfl]
    simp only [Vector.getElem?_eq_getElem hlt, Vector.getElem_replicate, Option.getD_some]
    exact toNat_greyLevel hlevel
  grid_fill p levels h := by
    have hscale := (scale_withLevels p levels).trans (scale_of_ofGrid h)
    exact ⟨congrArg (64 * ·) hscale, congrArg (32 * ·) hscale⟩
  dot_fill _ _ hgrid _ hlevels _ hx _ hy :=
    toNat_dot_withLevels (scale_of_ofGrid hgrid) hlevels hx hy
  width_resize _ s _ _ := by
    show 64 * (64 * s / 64) = 64 * s
    rw [Nat.mul_div_cancel_left s (by decide)]
  height_resize _ s _ _ := by
    show 32 * (64 * s / 64) = 32 * s
    rw [Nat.mul_div_cancel_left s (by decide)]
  dot_resize p s hgrid _ x _ y _ := by
    have hscale : 64 * s / Display.width = s := Nat.mul_div_cancel_left s (by decide)
    show (((Picture.mk (64 * s / Display.width) p.squares).dot x y).toNat : Int) =
      (p.dot (x / s) (y / s)).toNat
    rw [dot_of_scale (scale_of_ofGrid hgrid), dot, hscale]

end Picture

/-- What holds of all views of a display together. -/
structure Agree (system : Imaging Image) (d : Display) : Prop where
  pixels : ∀ c < 64, ∀ r < 32, ∃ lit, d.SeenAlike c r lit
  text : ∀ on off : Char, on ≠ '\n' → off ≠ '\n' →
    d.Lined (String.singleton on) (String.singleton off)
  litCount : d.litCount =
    (Finset.univ.filter fun p : Fin 64 × Fin 32 => d.getPixel p.1 p.2 = .ok true).card
  image : ∀ scale foreground background : Int, 1 ≤ scale → 0 ≤ foreground ∧ foreground ≤ 255 →
    0 ≤ background ∧ background ≤ 255 →
      ∃ image, imageOn system d.pixels.toList scale foreground background = .ok image ∧
        Depicts system image scale.toNat foreground background fun c r => d.getPixel c r = .ok true
  /-- Pixels may also be given as bytes, and those that are missing are dark. -/
  bytes : ∀ (bytes : List Byte) (scale foreground background : Int), bytes.length ≤ 2048 →
    1 ≤ scale → 0 ≤ foreground ∧ foreground ≤ 255 → 0 ≤ background ∧ background ≤ 255 →
      ∃ image, imageOn system (litBytes bytes) scale foreground background = .ok image ∧
        Depicts system image scale.toNat foreground background fun c r =>
          ∃ b, bytes[64 * r + c]? = some b ∧ b ≠ 0
  outside : ∀ x y : Int,
    (∃ e, d.getPixel x y = .error e) ↔ ¬(0 ≤ x ∧ x < 64 ∧ 0 ≤ y ∧ y < 32)
  tooSmall : ∀ scale < 1, ∀ (lit : List Bool) (foreground background : Int),
    imageOn system lit scale foreground background = .error (.scaleTooSmall scale)

/-- **All views of the display show the same picture.**  A single pixel, the snapshot, the pixels
and the text agree on every pixel of the grid; the text falls apart into its lines; the lit pixels
are counted; and an image repeats each pixel as a square of its scale, in the grey levels that were
asked for.  Nothing is refused but a pixel outside the grid and a scale below one. -/
theorem views_agree (system : Imaging Image) (hsystem : system.Lawful) (d : Display) :
    Agree system d where
  pixels c hc r hr := ⟨_, seenAlike hc hr⟩
  text _ _ := lined
  litCount := litCount_eq_card_getPixel d
  image scale foreground background hscale hfore hback := by
    have hlit : d.pixels.toList.length ≤ 2048 := by rw [Vector.length_toList]
    obtain ⟨image, himage, hdepicts⟩ := depicts_imageOn hsystem hlit hscale hfore hback
    refine ⟨image, himage, hdepicts.congr fun c hc r hr => ?_⟩
    rw [Vector.getElem?_toList, pixels_getElem? hc hr, getPixel_of_lt hc hr,
      Option.some.injEq, Except.ok.injEq]
  bytes bytes scale foreground background hbytes hscale hfore hback := by
    have hlit : (litBytes bytes).length ≤ 2048 := by rwa [litBytes, List.length_map]
    obtain ⟨image, himage, hdepicts⟩ := depicts_imageOn hsystem hlit hscale hfore hback
    refine ⟨image, himage, hdepicts.congr fun c _ r _ => ?_⟩
    simp [litBytes]
  outside x y := by simp only [getPixel_eq_error_iff, exists_and_left, exists_eq, and_true]
  tooSmall scale hscale lit _ _ := by rw [imageOn, if_pos hscale]

/-- The views of a display with a sprite that wraps around at the lower right corner. -/
theorem views_agree_drawn :
    let d := (Display.powerOn.draw 62 31 [0xF0, 0x90]).2
    Picture.imaging.Lawful ∧ Agree Picture.imaging d ∧ d.getPixel 0 31 = .ok true := by
  refine ⟨Picture.lawful_imaging, views_agree Picture.imaging Picture.lawful_imaging _, ?_⟩
  decide +kernel

end ChipEight.Display
