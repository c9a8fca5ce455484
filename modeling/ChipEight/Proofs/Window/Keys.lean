/-
Keys of a window and keys of the keypad.

A window listens to the symbols that the names of its layout stand for; of several names that stand
for one symbol the last one in the order of the layout counts (`Sends`).  A key event sets the
keypad key to which its symbol is sent, if there is one, and touches nothing else.  The escape key
closes the window when it goes down, and passes for any other key when it goes up.

Frames and drawing leave the keypad alone.  So a key of the keypad is down if and only if the last
event that concerned it was a press, whatever else has happened in between (`DownAfter`).
-/
import ChipEight.Proofs.Table
import ChipEight.Proofs.Window.Picture

namespace ChipEight

/-! ### A running program leaves the keypad alone -/

theorem Machine.keypad_of_step (rules : Rules) (source : ByteSource) (m : Machine) :
    (m.step rules source).machine.keypad = m.keypad := by
  have hout := outcomes_step rules source m
  generalize m.step rules source = o at hout ⊢
  cases hout with
  | executed hpc hd he => cases he <;> rfl
  | _ => rfl

theorem Console.keptRunning_keypad (keypad : Keypad) :
    KeptRunning fun c => c.machine.keypad = keypad where
  step c hc := by
    obtain ⟨cycles, hstep⟩ := step_console c
    rw [hstep]
    exact (Machine.keypad_of_step c.rules c.source c.machine).trans hc
  halt _ _ hc _ := hc
  tick _ hc := hc

/-! ### Which symbol is sent to which key -/

namespace Symbol

variable {constants : Constants} {layout : Keypad.Layout} {name : String} {symbol key : Int}

/-- The symbols that the names of keys stand for. -/
inductive StandsFor (constants : Constants) : String → Int → Prop
  /-- A name of digits has the constant after an underscore. -/
  | digits {name : String} {symbol : Int} (hne : name ≠ "")
      (hdigits : ∀ c ∈ name.toList, Text.isDigit c = true)
      (h : constants ("_" ++ name) = some symbol) : StandsFor constants name symbol
  /-- Any other name has its constant in upper case. -/
  | upper {name : String} {symbol : Int}
      (hname : name = "" ∨ ∃ c ∈ name.toList, Text.isDigit c = false)
      (h : constants (Text.upper name) = some symbol) : StandsFor constants name symbol

/-- A symbol is sent to the key of the last name in the layout that stands for it. -/
def Sends (constants : Constants) (layout : Keypad.Layout) (symbol key : Int) : Prop :=
  ∃ before name after, layout.entries = before ++ (name, key) :: after ∧
    StandsFor constants name symbol ∧ ∀ e ∈ after, ¬StandsFor constants e.1 symbol

theorem isNumber_iff :
    isNumber name = true ↔ name ≠ "" ∧ ∀ c ∈ name.toList, Text.isDigit c = true := by
  simp [isNumber]

theorem ofName?_eq_some_iff :
    ofName? constants name = some symbol ↔ StandsFor constants name symbol := by
  rw [ofName?, constantName]
  by_cases hnumber : isNumber name = true
  · obtain ⟨hne, hdigits⟩ := isNumber_iff.mp hnumber
    rw [if_pos hnumber]
    refine ⟨.digits hne hdigits, fun h => ?_⟩
    cases h with
    | digits _ _ h => exact h
    | upper hname h =>
        rcases hname with hempty | ⟨c, hc, hfalse⟩
        · exact absurd hempty hne
        · rw [hdigits c hc] at hfalse
          cases hfalse
  · rw [if_neg hnumber]
    have hname : name = "" ∨ ∃ c ∈ name.toList, Text.isDigit c = false := by
      by_contra hnone
      refine hnumber (isNumber_iff.mpr ⟨fun hempty => hnone (.inl hempty), fun c hc => ?_⟩)
      cases hdigit : Text.isDigit c with
      | true => rfl
      | false => exact absurd (.inr ⟨c, hc, hdigit⟩) hnone
    refine ⟨.upper hname, fun h => ?_⟩
    cases h with
    | digits hne hdigits h => exact absurd (isNumber_iff.mpr ⟨hne, hdigits⟩) hnumber
    | upper _ h => exact h

/-- **The symbols of a window are sent to the keys of the last names that stand for them.** -/
theorem get?_tableOf_eq_some_iff :
    Table.get? symbol (tableOf constants layout) = some key ↔
      Sends constants layout symbol key := by
  rw [tableOf, Table.get?_ofPairs_eq_some_iff]
  constructor
  · rintro ⟨front, back, heq, hback⟩
    obtain ⟨before, rest, hentries, -, hrest⟩ := List.filterMap_eq_append_iff.mp heq
    obtain ⟨skipped, ⟨name, key'⟩, after, rfl, -, hname, hafter⟩ :=
      List.filterMap_eq_cons_iff.mp hrest
    obtain ⟨s, hs, hpair⟩ := Option.map_eq_some_iff.mp hname
    obtain ⟨rfl, rfl⟩ := Prod.mk.inj hpair
    refine ⟨before ++ skipped, name, after, by rw [hentries, List.append_assoc],
      ofName?_eq_some_iff.mp hs, fun e he hstands => ?_⟩
    refine hback (s, e.2) ?_ rfl
    rw [← hafter, List.mem_filterMap]
    exact ⟨e, he, by rw [ofName?_eq_some_iff.mpr hstands]; rfl⟩
  · rintro ⟨before, name, after, hentries, hstands, hafter⟩
    rw [hentries, List.filterMap_append,
      List.filterMap_cons_some (by rw [ofName?_eq_some_iff.mpr hstands]; rfl)]
    refine ⟨_, _, rfl, fun p hp heq => ?_⟩
    obtain ⟨e, he, hpair⟩ := List.mem_filterMap.mp hp
    obtain ⟨s, hs, rfl⟩ := Option.map_eq_some_iff.mp hpair
    obtain rfl : s = symbol := heq
    exact hafter e he (ofName?_eq_some_iff.mp hs)

theorem Sends.mem (h : Sends constants layout symbol key) : ∃ e ∈ layout.entries, e.2 = key := by
  obtain ⟨before, name, after, hentries, -⟩ := h
  exact ⟨(name, key), by simp [hentries], rfl⟩

theorem Sends.unique {key' : Int} (h : Sends constants layout symbol key)
    (h' : Sends constants layout symbol key') : key = key' := by
  rw [← get?_tableOf_eq_some_iff] at h h'
  exact Option.some.inj (h.symm.trans h')

end Symbol

namespace Window

variable {w : Window} {constants : Symbol.Constants} {layout : Keypad.Layout}

/-! ### One event -/

/-- Whether a key goes down. -/
def Action.isPress : Action → Bool
  | .press _ => true
  | .release _ | .frame | .draw | .close => false

/-- What happens at a window concerns a key of the keypad: a symbol that is sent to the key goes
down or up, but for the escape key, which counts only as it goes up. -/
def Concerns (constants : Symbol.Constants) (layout : Keypad.Layout) (key : Nibble) :
    Action → Prop
  | .press symbol => symbol ≠ Symbol.escape ∧ Symbol.Sends constants layout symbol key.toNat
  | .release symbol => Symbol.Sends constants layout symbol key.toNat
  | .frame | .draw | .close => False

/-- The keys of a layout are keys of the keypad. -/
def KeysOnPad (layout : Keypad.Layout) : Prop := ∀ e ∈ layout.entries, 0 ≤ e.2 ∧ e.2 < 16

/-- A window that listens to the symbols of a layout. -/
structure Listens (constants : Symbol.Constants) (layout : Keypad.Layout) (w : Window) : Prop where
  symbols : w.symbols = Symbol.tableOf constants layout
  keys : KeysOnPad layout

/-- The window with one key of the keypad set. -/
def withKey (w : Window) (key : Nibble) (down : Bool) : Window :=
  { w with console :=
      w.console.withKeypad (w.console.machine.keypad.setKey key.toFin down) }

theorem isPressed_withKey (key other : Nibble) (down : Bool) :
    (w.withKey key down).console.machine.keypad.isPressed other =
      if key = other then down else w.console.machine.keypad.isPressed other := by
  show (Keypad.setKey _ key.toFin down).isPressed other = _
  simp only [Keypad.isPressed_setKey, BitVec.val_toFin, BitVec.toNat_inj]

section Listens

variable (hw : w.Listens constants layout)
include hw

/-- A symbol that is sent to no key is ignored. -/
theorem Listens.key_of_not_sends {symbol : Int}
    (hnot : ∀ key, ¬Symbol.Sends constants layout symbol key) (down : Bool) :
    w.key symbol down = ⟨.ok false, w, [], []⟩ := by
  have hnone : Table.get? symbol w.symbols = none := by
    rw [hw.symbols]
    cases hget : Table.get? symbol (Symbol.tableOf constants layout) with
    | none => rfl
    | some key => exact absurd (Symbol.get?_tableOf_eq_some_iff.mp hget) (hnot key)
  rw [key, hnone]

/-- A symbol that is sent to a key sets it. -/
theorem Listens.key_of_sends {symbol : Int} {key : Nibble}
    (hsends : Symbol.Sends constants layout symbol key.toNat) (down : Bool) :
    w.key symbol down = ⟨.ok false, w.withKey key down, [], []⟩ := by
  have hsome : Table.get? symbol w.symbols = some (key.toNat : Int) := by
    rw [hw.symbols]
    exact Symbol.get?_tableOf_eq_some_iff.mpr hsends
  have hrange : (0 : Int) ≤ key.toNat ∧ (key.toNat : Int) < 16 := by
    have := key.isLt
    omega
  simp only [Window.key, hsome, Console.key, Keypad.change, Keypad.resolve, dif_pos hrange]
  rfl

/-- A symbol is sent to a key of the keypad, or to none. -/
theorem Listens.sends_or_not (symbol : Int) :
    (∃ key : Nibble, Symbol.Sends constants layout symbol key.toNat) ∨
      ∀ key, ¬Symbol.Sends constants layout symbol key := by
  by_cases h : ∃ key, Symbol.Sends constants layout symbol key
  · obtain ⟨key, hsends⟩ := h
    obtain ⟨e, he, rfl⟩ := hsends.mem
    obtain ⟨hlow, hhigh⟩ := hw.keys e he
    refine .inl ⟨BitVec.ofNat 4 e.2.toNat, ?_⟩
    have hkey : ((BitVec.ofNat 4 e.2.toNat).toNat : Int) = e.2 := by
      rw [BitVec.toNat_ofNat]
      omega
    rwa [hkey]
  · exact .inr fun key hsends => h ⟨key, hsends⟩

/-- What a key event comes to: nothing, or the setting of one key. -/
theorem Listens.key_cases (symbol : Int) (down : Bool) :
    (∃ key : Nibble, Symbol.Sends constants layout symbol key.toNat ∧
      w.key symbol down = ⟨.ok false, w.withKey key down, [], []⟩) ∨
    (∀ key, ¬Symbol.Sends constants layout symbol key) ∧
      w.key symbol down = ⟨.ok false, w, [], []⟩ := by
  rcases hw.sends_or_not symbol with ⟨key, hsends⟩ | hnot
  · exact .inl ⟨key, hsends, hw.key_of_sends hsends down⟩
  · exact .inr ⟨hnot, hw.key_of_not_sends hnot down⟩

theorem Listens.isPressed_key (symbol : Int) (down : Bool) (key : Nibble) :
    (Symbol.Sends constants layout symbol key.toNat →
      (w.key symbol down).window.console.machine.keypad.isPressed key = down) ∧
    (¬Symbol.Sends constants layout symbol key.toNat →
      (w.key symbol down).window.console.machine.keypad.isPressed key =
        w.console.machine.keypad.isPressed key) := by
  rcases hw.key_cases symbol down with ⟨sent, hsends, hkey⟩ | ⟨hnot, hkey⟩
  · rw [hkey, isPressed_withKey]
    constructor
    · intro h
      have hsame : sent = key := BitVec.eq_of_toNat_eq (Int.ofNat.inj (hsends.unique h))
      rw [if_pos hsame]
    · intro h
      rw [if_neg fun hsame : sent = key => h (hsame ▸ hsends)]
  · rw [hkey]
    exact ⟨fun h => absurd h (hnot _), fun _ => rfl⟩

end Listens

/-- Frames leave the keypad alone. -/
theorem keypad_frame (w : Window) :
    w.frame.window.console.machine.keypad = w.console.machine.keypad := by
  have hrun : w.console.runFrame.console.machine.keypad = w.console.machine.keypad :=
    (Console.keptRunning_keypad _).runFrame rfl
  rw [frame]
  split
  · rfl
  · rcases hreply : w.console.runFrame with ⟨fault | cycles, console, log⟩
    · rw [hreply] at hrun
      dsimp only
      split <;> exact hrun
    · rw [hreply] at hrun
      exact hrun

/-- So does drawing. -/
theorem keypad_draw (w : Window) :
    w.draw.window.console.machine.keypad = w.console.machine.keypad := by
  rw [draw]
  cases hdirty : w.console.machine.display.dirty <;> rfl

theorem symbols_undergo (w : Window) (o : Occurrence) : (w.undergo o).symbols = w.symbols := by
  cases o with
  | request r => rfl
  | action a =>
      have hresponded := responded w a
      show (w.respond a).window.symbols = w.symbols
      generalize (w.respond a).window = w' at hresponded ⊢
      cases hresponded <;> rfl

theorem Listens.kept (hw : w.Listens constants layout) (a : Action) :
    (w.respond a).window.Listens constants layout :=
  ⟨(symbols_undergo w (.action a)).trans hw.symbols, hw.keys⟩

theorem Listens.afterAll :
    ∀ (history : List Occurrence) {w : Window}, w.Listens constants layout →
      (w.afterAll history).Listens constants layout := by
  intro history
  induction history with
  | nil => intro w hw; exact hw
  | cons o rest ih => intro w hw; exact ih ⟨(symbols_undergo w o).trans hw.symbols, hw.keys⟩

/-- **What happens once.**  A key is set by what concerns it, and by nothing else. -/
theorem Listens.isPressed_respond (hw : w.Listens constants layout) (a : Action) (key : Nibble) :
    (Concerns constants layout key a →
      (w.respond a).window.console.machine.keypad.isPressed key = a.isPress) ∧
    (¬Concerns constants layout key a →
      (w.respond a).window.console.machine.keypad.isPressed key =
        w.console.machine.keypad.isPressed key) := by
  cases a with
  | frame => exact ⟨False.elim, fun _ => by rw [respond, keypad_frame]⟩
  | draw => exact ⟨False.elim, fun _ => by rw [respond, keypad_draw]⟩
  | close => exact ⟨False.elim, fun _ => rfl⟩
  | release symbol => exact hw.isPressed_key symbol false key
  | press symbol =>
      obtain ⟨hset, hkept⟩ := hw.isPressed_key symbol true key
      rw [respond, press]
      by_cases hescape : symbol = Symbol.escape
      · rw [if_pos hescape]
        exact ⟨fun h => absurd hescape h.1, fun _ => rfl⟩
      · rw [if_neg hescape]
        exact ⟨fun h => hset h.2, fun h => hkept fun hsends => h ⟨hescape, hsends⟩⟩

/-- An event of one key: nothing fails, and at most one key of the keypad changes. -/
structure KeyOnly (w : Window) (r : Response) : Prop where
  result : ∃ own, r.result = .ok own
  window : ∃ keypad, r.window = { w with console := w.console.withKeypad keypad } ∧
    ∃ key, ∀ other, other ≠ key → keypad.isPressed other = w.console.machine.keypad.isPressed other

theorem keyOnly_same (w : Window) (own : Bool) (events : List Event) :
    w.KeyOnly ⟨.ok own, w, events, []⟩ :=
  ⟨⟨own, rfl⟩, w.console.machine.keypad, rfl, 0, fun _ _ => rfl⟩

theorem Listens.keyOnly_key (hw : w.Listens constants layout) (symbol : Int) (down : Bool) :
    w.KeyOnly (w.key symbol down) := by
  rcases hw.key_cases symbol down with ⟨key, -, hkey⟩ | ⟨-, hkey⟩
  · rw [hkey]
    refine ⟨⟨false, rfl⟩, _, rfl, key, fun other hother => ?_⟩
    have hpressed := isPressed_withKey (w := w) key other down
    rwa [if_neg (Ne.symm hother)] at hpressed
  · rw [hkey]
    exact keyOnly_same w false []

theorem Listens.keyOnly_press (hw : w.Listens constants layout) (symbol : Int) :
    w.KeyOnly (w.press symbol) := by
  rw [press]
  split
  · exact keyOnly_same w true closing
  · exact hw.keyOnly_key symbol true

/-! ### The last event counts -/

/-- A key is down after some events: the last one that concerned it was a press, or none did and
it was down before. -/
def DownAfter (constants : Symbol.Constants) (layout : Keypad.Layout) (key : Nibble)
    (before : Prop) (actions : List Action) : Prop :=
  (∃ earlier a later, actions = earlier ++ a :: later ∧ Concerns constants layout key a ∧
    a.isPress = true ∧ ∀ b ∈ later, ¬Concerns constants layout key b) ∨
  (∀ a ∈ actions, ¬Concerns constants layout key a) ∧ before

variable {key : Nibble}

/-- The first event decides what was before the others. -/
theorem downAfter_cons {before : Prop} {a : Action} {rest : List Action} :
    DownAfter constants layout key before (a :: rest) ↔
      DownAfter constants layout key
        (Concerns constants layout key a ∧ a.isPress = true ∨
          ¬Concerns constants layout key a ∧ before) rest := by
  constructor
  · rintro (⟨earlier, b, later, heq, hb, hpress, hlater⟩ | ⟨hnone, hbefore⟩)
    · rcases List.cons_eq_append_iff.mp heq with ⟨rfl, hcons⟩ | ⟨earlier', rfl, rfl⟩
      · obtain ⟨rfl, rfl⟩ := List.cons.inj hcons
        exact .inr ⟨hlater, .inl ⟨hb, hpress⟩⟩
      · exact .inl ⟨earlier', b, later, rfl, hb, hpress, hlater⟩
    · obtain ⟨ha, hrest⟩ := List.forall_mem_cons.mp hnone
      exact .inr ⟨hrest, .inr ⟨ha, hbefore⟩⟩
  · rintro (⟨earlier, b, later, rfl, hb, hpress, hlater⟩ | ⟨hnone, ⟨ha, hpress⟩ | ⟨ha, hbefore⟩⟩)
    · exact .inl ⟨a :: earlier, b, later, rfl, hb, hpress, hlater⟩
    · exact .inl ⟨[], a, rest, rfl, ha, hpress, hnone⟩
    · exact .inr ⟨List.forall_mem_cons.mpr ⟨ha, hnone⟩, hbefore⟩

/-- **The keypad after any sequence of events.** -/
theorem Listens.isPressed_after (key : Nibble) :
    ∀ (actions : List Action) {w : Window}, w.Listens constants layout →
      ((w.after actions).console.machine.keypad.isPressed key = true ↔
        DownAfter constants layout key (w.console.machine.keypad.isPressed key = true)
          actions) := by
  intro actions
  induction actions with
  | nil => intro w _; simp [after, DownAfter]
  | cons a rest ih =>
      intro w hw
      obtain ⟨hset, hkept⟩ := hw.isPressed_respond a key
      have hfirst : (w.respond a).window.console.machine.keypad.isPressed key = true ↔
          Concerns constants layout key a ∧ a.isPress = true ∨
            ¬Concerns constants layout key a ∧ w.console.machine.keypad.isPressed key = true := by
        by_cases ha : Concerns constants layout key a
        · simp [ha, hset ha]
        · simp [ha, hkept ha]
      have hrest := ih (hw.kept a)
      rw [propext hfirst, ← downAfter_cons] at hrest
      exact hrest

theorem listens_newOn (constants : Symbol.Constants) (console : Console) (scale : Option Int)
    (caption : Option String) (hne : layout.entries ≠ []) (hkeys : KeysOnPad layout) :
    (newOn constants console scale caption (some layout)).1.Listens constants layout := by
  refine ⟨?_, hkeys⟩
  show Symbol.tableOf constants (effectiveLayout (some layout)) = _
  rw [effectiveLayout, if_neg (by rwa [List.isEmpty_iff])]

/-- **A window follows the last event of each key.**  Whatever constants the system has for keys,
and whatever has happened to a window and its console since it was opened with a layout: after any
further keys, frames and drawing, a key of the keypad is down if and only if the last event whose
symbol the layout sends to it was a press, or there was none and it was down before.  A key event
never fails, and it changes at most one key of the keypad and nothing else. -/
theorem keys_follow_events (constants : Symbol.Constants) (console : Console) (scale : Option Int)
    (caption : Option String) (layout : Keypad.Layout) (hne : layout.entries ≠ [])
    (hkeys : KeysOnPad layout) (history : List Occurrence) :
    let w := (newOn constants console scale caption (some layout)).1.afterAll history
    (∀ actions key, (w.after actions).console.machine.keypad.isPressed key = true ↔
      DownAfter constants layout key (w.console.machine.keypad.isPressed key = true) actions) ∧
    ∀ actions symbol, (w.after actions).KeyOnly ((w.after actions).respond (.press symbol)) ∧
      (w.after actions).KeyOnly ((w.after actions).respond (.release symbol)) := by
  intro w
  have hw : w.Listens constants layout :=
    Listens.afterAll history (listens_newOn constants console scale caption hne hkeys)
  refine ⟨fun actions key => Listens.isPressed_after key actions hw, fun actions symbol => ?_⟩
  have hafter : (w.after actions).Listens constants layout := by
    have hall := Listens.afterAll (actions.map .action) hw
    rwa [Window.afterAll, List.foldl_map] at hall
  exact ⟨hafter.keyOnly_press symbol, hafter.keyOnly_key symbol false⟩

/-- Two names share a symbol, and three symbols share a key.  The escape key is ignored as it goes
down, the release of a key without a name too, and the last press counts. -/
theorem keys_follow_events_shared :
    let constants : Symbol.Constants := fun name =>
      Table.get? name [("Q", 0x71), ("W", 0x77), ("ESCAPE", Symbol.escape)]
    let layout : Keypad.Layout := ⟨[("q", 4), ("Q", 5), ("w", 5), ("escape", 5)]⟩
    let w := (newOn constants (Console.new {} .zeros) none none (some layout)).1.afterAll []
    let actions : List Action :=
      [.press 0x77, .release Symbol.escape, .frame, .press 0x71, .press Symbol.escape, .draw,
        .release 0x70]
    (layout.entries ≠ [] ∧ KeysOnPad layout) ∧
      ((w.after actions).console.machine.keypad.isPressed 5 = true ∧
        (w.after actions).KeyOnly ((w.after actions).respond (.release 0x71))) := by
  intro constants layout w actions
  have hne : layout.entries ≠ [] := List.cons_ne_nil _ _
  have hkeys : KeysOnPad layout := by unfold KeysOnPad; decide
  obtain ⟨hdown, honly⟩ := keys_follow_events constants (Console.new {} .zeros) none none
    layout hne hkeys []
  refine ⟨⟨hne, hkeys⟩, (hdown actions 5).mpr (.inl ?_), (honly actions 0x71).2⟩
  have htable : Symbol.tableOf constants layout =
      [(0x71, 5), (0x77, 5), (Symbol.escape, 5)] := by decide +kernel
  have hsent : Symbol.Sends constants layout 0x71 (5 : Nibble).toNat := by
    rw [← Symbol.get?_tableOf_eq_some_iff, htable]
    decide
  have hnot : ¬Symbol.Sends constants layout 0x70 (5 : Nibble).toNat := by
    rw [← Symbol.get?_tableOf_eq_some_iff, htable]
    decide
  refine ⟨[.press 0x77, .release Symbol.escape, .frame], .press 0x71, _, rfl,
    ⟨by decide, hsent⟩, rfl, List.forall_mem_cons.mpr ⟨fun h => h.1 rfl, ?_⟩⟩
  exact List.forall_mem_cons.mpr ⟨id, List.forall_mem_singleton.mpr hnot⟩

end Window
end ChipEight
