/-
The window shows the display as it is.

A window draws from a copy of the pixels and renews it only if the display says that it has
changed.  That is right as long as everything that touches a pixel also says so.  Two
instructions do, and so does every fresh start of a program; nothing else touches the display.  So
whenever the display does not ask for a new copy, the old one is up to date (`UpToDate`), whatever
happens to the window or, behind its back, to its console.  Only somebody else who took a
snapshot would break this, because a snapshot marks the change as seen.

What the window then paints is one square for each lit pixel and nothing besides (`Shows`).
-/
import ChipEight.Proofs.Console.Requests
import ChipEight.Window.Basic

namespace ChipEight

/-! ### Whatever touches a pixel says so -/

theorem Display.dirty_draw (d : Display) (x y : Int) (sprite : List Byte) :
    (d.draw x y sprite).2.dirty = true := rfl

namespace Machine

variable {rules : Rules} {source : ByteSource} {m : Machine}

theorem display_of_executed {ins : Instruction} {effect : Effect}
    (he : Executed rules source m ins effect) :
    effect.machine.display = m.display ∨ effect.machine.display.dirty = true := by
  cases he with
  | clearScreen => exact .inr rfl
  | draw x y n hi => exact .inr (Display.dirty_draw _ _ _ _)
  | _ => exact .inl rfl

/-- A cycle leaves the display alone or marks it as changed. -/
theorem display_of_step (rules : Rules) (source : ByteSource) (m : Machine) :
    (m.step rules source).machine.display = m.display ∨
      (m.step rules source).machine.display.dirty = true := by
  have hout := outcomes_step rules source m
  generalize m.step rules source = o at hout ⊢
  cases hout with
  | executed hpc hd he => exact display_of_executed (m := m.latch m.nextWord) he
  | _ => exact .inl rfl

end Machine

namespace Console

/-- A copy of the pixels is up to date, unless the display says that it has changed. -/
def ShownBy (copy : Pixels) (c : Console) : Prop :=
  c.machine.display.dirty = false → copy = c.machine.display.pixels

/-- **A running program never changes a pixel in secret.** -/
theorem keptRunning_shownBy (copy : Pixels) : KeptRunning (ShownBy copy) where
  step c hc hdirty := by
    obtain ⟨cycles, hstep⟩ := step_console c
    rw [hstep] at hdirty ⊢
    rcases Machine.display_of_step c.rules c.source c.machine with hsame | hchanged
    · rw [hsame] at hdirty ⊢
      exact hc hdirty
    · rw [hchanged] at hdirty
      cases hdirty
  halt _ _ hc _ := hc
  tick _ hc := hc

/-- Neither does any request but a snapshot. -/
theorem shownBy_serve {copy : Pixels} {c : Console} {r : Request} (hr : r ≠ .snapshot)
    (hc : c.ShownBy copy) : (c.serve r).ShownBy copy := by
  have hserved := served c r
  generalize c.serve r = d at hserved ⊢
  cases hserved with
  | refused => exact hc
  | loaded hfresh hdata => intro hdirty; cases hdirty
  | step => exact (keptRunning_shownBy copy).step c hc
  | run maxCycles strict => exact (keptRunning_shownBy copy).run maxCycles strict hc
  | runFrame => exact (keptRunning_shownBy copy).runFrame hc
  | tick => exact hc
  | press key keypad => exact hc
  | release key keypad => exact hc
  | snapshot => exact absurd rfl hr

end Console

namespace Window

/-! ### What happens while a window is open -/

/-- Something that happens while a window is open. -/
inductive Occurrence where
  /-- Something happens at the window. -/
  | action (a : Action)
  /-- Somebody else asks something of the console. -/
  | request (r : Request)
  deriving DecidableEq, Repr

/-- The window after something happened. -/
def undergo (w : Window) : Occurrence → Window
  | .action a => (w.respond a).window
  | .request r => { w with console := w.console.serve r }

/-- The window after everything that happened. -/
def afterAll (w : Window) (history : List Occurrence) : Window := history.foldl undergo w

variable {w : Window}

/-- What becomes of a window that responds to something. -/
inductive Responded (w : Window) : Action → Window → Prop
  /-- Nothing changes. -/
  | idle (a : Action) : Responded w a w
  /-- A frame is executed, and perhaps it fails. -/
  | frame (failure : Option Fault) :
      Responded w .frame { w with console := w.console.runFrame.console, failure := failure }
  /-- A key of the keypad changes. -/
  | key (a : Action) (keypad : Keypad) :
      Responded w a { w with console := w.console.withKeypad keypad }
  /-- The pixels are copied. -/
  | copied :
      Responded w .draw
        { w with console := w.console.seen, copy := w.console.machine.display.pixels }

theorem responded_key (a : Action) (symbol : Int) (down : Bool) :
    Responded w a (w.key symbol down).window := by
  rw [key]
  cases Table.get? symbol w.symbols with
  | none => exact .idle a
  | some k =>
      cases hkey : w.console.key (.number k) down with
      | error e => simp only [hkey]; exact .idle a
      | ok console =>
          obtain ⟨keypad, rfl⟩ := Console.key_eq_ok hkey
          simp only [hkey]
          exact .key a keypad

theorem responded_frame : Responded w .frame w.frame.window := by
  rw [frame]
  split
  · exact .idle .frame
  · have hframe := Responded.frame (w := w)
    rcases hrun : w.console.runFrame with ⟨fault | cycles, console, log⟩
    · rw [hrun] at hframe
      dsimp only
      split
      · exact hframe (some fault)
      · exact hframe w.failure
    · rw [hrun] at hframe
      exact hframe w.failure

/-- **Every response comes to one of these.** -/
theorem responded (w : Window) (a : Action) : Responded w a (w.respond a).window := by
  cases a with
  | frame => exact responded_frame
  | press symbol =>
      show Responded w _ (w.press symbol).window
      rw [press]
      split
      · exact .idle _
      · exact responded_key _ symbol true
  | release symbol => exact responded_key _ symbol false
  | draw =>
      show Responded w _ w.draw.window
      rw [draw]
      split
      · exact .copied
      · exact .idle _
  | close => exact .idle _

theorem scale_undergo (o : Occurrence) : (w.undergo o).scale = w.scale := by
  cases o with
  | request r => rfl
  | action a =>
      have hresponded := responded w a
      show (w.respond a).window.scale = w.scale
      generalize (w.respond a).window = w' at hresponded ⊢
      cases hresponded <;> rfl

/-! ### The copy is up to date -/

/-- The copy of the pixels is up to date, unless the display says that it has changed. -/
def UpToDate (w : Window) : Prop := w.console.ShownBy w.copy

theorem upToDate_undergo {o : Occurrence} (ho : o ≠ .request .snapshot) (h : w.UpToDate) :
    (w.undergo o).UpToDate := by
  cases o with
  | request r => exact Console.shownBy_serve (fun hr => ho (hr ▸ rfl)) h
  | action a =>
      have hresponded := responded w a
      show (w.respond a).window.UpToDate
      generalize (w.respond a).window = w' at hresponded ⊢
      cases hresponded with
      | idle => exact h
      | frame failure => exact (Console.keptRunning_shownBy w.copy).runFrame h
      | key a keypad => exact h
      | copied => exact fun _ => rfl

/-- A copy that was up to date once stays so, as long as nobody else takes a snapshot. -/
theorem upToDate_afterAll :
    ∀ (history : List Occurrence) {w : Window}, (∀ o ∈ history, o ≠ .request .snapshot) →
      w.UpToDate → (w.afterAll history).UpToDate ∧ (w.afterAll history).scale = w.scale := by
  intro history
  induction history with
  | nil => intro w _ h; exact ⟨h, rfl⟩
  | cons o rest ih =>
      intro w hnot h
      obtain ⟨hup, hscale⟩ := ih (fun p hp => hnot p (by simp [hp]))
        (upToDate_undergo (hnot o (by simp)) h)
      exact ⟨hup, hscale.trans (scale_undergo o)⟩

/-! ### What is painted -/

/-- The column and the row of an entry of the grid. -/
def cell (k : Nat) : Nat × Nat := (k % Display.width, k / Display.width)

/-- The columns and rows of the lit pixels, row by row from the top. -/
def litCells (pixels : Pixels) : List (Nat × Nat) :=
  ((List.range 2048).filter fun k => pixels[k]?.getD false).map cell

/-- The painting of one pixel; the screen counts rows from the bottom. -/
def square (scale : Int) (p : Nat × Nat) : Event := .painted (p.1 * scale) ((31 - p.2) * scale)

theorem nodup_litCells (pixels : Pixels) : (litCells pixels).Nodup := by
  refine List.pairwise_map.mpr (List.Pairwise.imp ?_ (List.nodup_range.filter _))
  intro j k hne hcell
  obtain ⟨hcolumn, hrow⟩ := Prod.mk.inj hcell
  simp only [Display.width] at hcolumn hrow
  omega

theorem mem_litCells_iff (d : Display) (column row : Nat) :
    (column, row) ∈ litCells d.pixels ↔
      column < 64 ∧ row < 32 ∧ d.isLit column row = true := by
  simp only [litCells, List.mem_map, List.mem_filter, List.mem_range, Display.isLit]
  constructor
  · rintro ⟨k, ⟨hk, hlit⟩, hcell⟩
    obtain ⟨rfl, rfl⟩ := Prod.mk.inj hcell
    simp only [Display.width]
    refine ⟨by omega, by omega, ?_⟩
    rw [Nat.div_add_mod]
    exact hlit
  · rintro ⟨hcolumn, hrow, hlit⟩
    refine ⟨64 * row + column, ⟨by omega, hlit⟩, ?_⟩
    simp only [cell, Display.width, Prod.mk.injEq]
    omega

/-- What a window paints for a copy, told by columns and rows. -/
theorem squares_eq (pixels : Pixels) (scale : Int) :
    squares pixels scale = (litCells pixels).map (square scale) := by
  have hlit : squares pixels scale =
      ((List.range 2048).filter fun k => pixels[k]?.getD false).filterMap
        (some ∘ fun k => .painted ((k % Display.width : Nat) * scale)
          ((Display.height - 1 - k / Display.width : Nat) * scale)) :=
    List.filterMap_filter.symm
  rw [hlit, List.filterMap_eq_map, litCells, List.map_map]
  refine List.map_congr_left fun k hk => ?_
  have hk' : k < 2048 := List.mem_range.mp (List.mem_filter.mp hk).1
  have hrow : ((Display.height - 1 - k / Display.width : Nat) : Int) =
      31 - (k / Display.width : Nat) := by
    simp only [Display.height, Display.width]
    omega
  rw [hrow]
  rfl

/-- Two pixels are never painted at one place. -/
theorem square_injective {scale : Int} (hscale : scale ≠ 0) {p q : Nat × Nat}
    (h : square scale p = square scale q) : p = q := by
  obtain ⟨hx, hy⟩ := Event.painted.inj h
  have hcolumn := Int.eq_of_mul_eq_mul_right hscale hx
  have hrow := Int.eq_of_mul_eq_mul_right hscale hy
  exact Prod.ext (by omega) (by omega)

/-- The response of a window that shows the display as it is, pixel by pixel. -/
structure Shows (w : Window) (r : Response) (lit : List (Nat × Nat)) : Prop where
  nodup : lit.Nodup
  mem_iff : ∀ column row, (column, row) ∈ lit ↔
    column < 64 ∧ row < 32 ∧ w.console.machine.display.isLit column row = true
  /-- The screen is cleared, and then each lit pixel is painted at its place. -/
  events : r.events = .cleared :: lit.map fun p => .painted (p.1 * w.scale) ((31 - p.2) * w.scale)
  /-- No place is painted twice. -/
  once : r.events.Nodup
  /-- The change of the display is marked as seen, and nothing else is done to it. -/
  display : r.window.console.machine.display =
    { w.console.machine.display with dirty := false }

/-- A window that is up to date draws the pixels of the display. -/
theorem draw_eq (h : w.UpToDate) :
    w.draw.events = .cleared :: squares w.console.machine.display.pixels w.scale ∧
      w.draw.window.console.machine.display =
        { w.console.machine.display with dirty := false } := by
  rw [draw]
  cases hdirty : w.console.machine.display.dirty with
  | true => exact ⟨rfl, rfl⟩
  | false =>
      refine ⟨?_, ?_⟩
      · show Event.cleared :: squares w.copy w.scale = _
        rw [h hdirty]
      · show w.console.machine.display = _
        rw [← hdirty]

theorem shows_draw (hscale : w.scale ≠ 0) (h : w.UpToDate) :
    Shows w w.draw (litCells w.console.machine.display.pixels) := by
  obtain ⟨hevents, hdisplay⟩ := draw_eq h
  rw [squares_eq] at hevents
  refine ⟨nodup_litCells _, mem_litCells_iff _, hevents, ?_, hdisplay⟩
  rw [hevents, List.nodup_cons]
  refine ⟨fun hmem => ?_, ?_⟩
  · obtain ⟨p, -, hp⟩ := List.mem_map.mp hmem
    cases hp
  · exact List.pairwise_map.mpr ((nodup_litCells _).imp fun hne hsame =>
      hne (square_injective hscale hsame))

/-- A window never has a scale of zero. -/
theorem scale_newOn_ne_zero (constants : Symbol.Constants) (console : Console)
    (scale : Option Int) (caption : Option String) (layout : Option Keypad.Layout) :
    (newOn constants console scale caption layout).1.scale ≠ 0 := by
  have hpos := console.settings.scale_pos
  show effectiveScale console.settings scale ≠ 0
  cases scale with
  | none => simp only [effectiveScale]; omega
  | some n => by_cases hn : n = 0 <;> simp only [effectiveScale, hn, if_true, if_false] <;> omega

/-- **The window shows the display as it is.**  Whatever has happened to a window and to its
console, as long as nobody else took a snapshot: if the display does not say that it has
changed, the copy of the pixels is up to date; and if the window is asked to draw itself, it
paints each pixel that is lit, once and at its place, and no other. -/
theorem shows_after (constants : Symbol.Constants) (console : Console) (scale : Option Int)
    (caption : Option String) (layout : Option Keypad.Layout) (history : List Occurrence)
    (hnot : ∀ o ∈ history, o ≠ .request .snapshot) :
    let w := (newOn constants console scale caption layout).1.afterAll history
    (w.console.machine.display.dirty = false → w.copy = w.console.machine.display.pixels) ∧
      ∃ lit, Shows w w.draw lit := by
  intro w
  have hnew : (newOn constants console scale caption layout).1.UpToDate := fun _ => rfl
  obtain ⟨hup, hscale⟩ := upToDate_afterAll history hnot hnew
  have hne : w.scale ≠ 0 := by
    rw [hscale]
    exact scale_newOn_ne_zero constants console scale caption layout
  exact ⟨hup, _, shows_draw hne hup⟩

/-- On a system with a single key, a program is loaded behind the back of a window; its first
instruction clears the display, which a frame executes and the window draws. -/
theorem shows_after_clear :
    let constants : Symbol.Constants := fun name => if name = "X" then some 0x78 else none
    let history : List Occurrence :=
      [.action .draw, .request (.load [0x00, 0xE0]), .action (.press 0x78), .action .frame,
        .action .draw, .request (.run 1 false)]
    let w := (newOn constants (Console.new {} .zeros) (some 3) none none).1.afterAll history
    (∀ o ∈ history, o ≠ .request .snapshot) ∧
      (w.console.machine.display.dirty = false → w.copy = w.console.machine.display.pixels) ∧
        ∃ lit, Shows w w.draw lit := by
  intro constants history w
  have hnot : ∀ o ∈ history, o ≠ .request .snapshot := by decide
  exact ⟨hnot, shows_after constants (Console.new {} .zeros) (some 3) none none history hnot⟩

end Window
end ChipEight
