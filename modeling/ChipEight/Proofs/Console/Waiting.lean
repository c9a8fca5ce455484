/-
Cycles that get nowhere, and the end of a wait.

A cycle at a word without an instruction, or at an instruction that waits for a key, changes the
record of the last word and nothing else.  So it comes again as often as it is asked for, and
whoever drives the program may try again or stop, as runs and frames do: a run spends all its
cycles on an instruction that waits, and a frame ends after one.

A wait is over when a key is down at the moment of a cycle.  What happened before does not matter,
neither how often the cycle was tried nor which keys went down and up in between: the instruction
takes the lowest key that is down now, and the program goes on with the next word.
-/
import ChipEight.Proofs.Console.Frames
import ChipEight.Proofs.Console.Halting
import ChipEight.Proofs.Machine.Changes

namespace ChipEight

namespace Keypad

/-- The key is down, and no lower key is. -/
def Lowest (k : Keypad) (key : Nibble) : Prop :=
  k.isPressed key = true ∧ ∀ other, k.isPressed other = true → key.toNat ≤ other.toNat

theorem pairwise_pressedKeys (k : Keypad) :
    k.pressedKeys.Pairwise fun a b => a.toNat < b.toNat := by
  rw [pressedKeys, List.pairwise_filterMap]
  refine List.Pairwise.imp_of_mem ?_ List.pairwise_lt_range
  intro i j hi hj hlt a ha b hb
  have hi16 : i < 2 ^ 4 := List.mem_range.mp hi
  have hj16 : j < 2 ^ 4 := List.mem_range.mp hj
  split at ha
  · split at hb
    · obtain rfl := Option.some.inj ha
      obtain rfl := Option.some.inj hb
      rwa [BitVec.toNat_ofNat, BitVec.toNat_ofNat, Nat.mod_eq_of_lt hi16, Nat.mod_eq_of_lt hj16]
    · cases hb
  · cases ha

/-- The first key that is down is the lowest. -/
theorem lowest_of_firstPressed {k : Keypad} {key : Nibble} (h : k.firstPressed = some key) :
    k.Lowest key := by
  refine ⟨isPressed_of_firstPressed h, fun other hother => ?_⟩
  obtain ⟨rest, hkeys⟩ := List.head?_eq_some_iff.mp h
  have hsorted := k.pairwise_pressedKeys
  have hmem : other ∈ k.pressedKeys := mem_pressedKeys.mpr hother
  rw [hkeys, List.pairwise_cons] at hsorted
  rw [hkeys, List.mem_cons] at hmem
  rcases hmem with rfl | hmem
  · exact Nat.le_refl _
  · exact Nat.le_of_lt (hsorted.1 other hmem)

end Keypad

namespace Machine

variable {rules : Rules} {source : ByteSource} {m : Machine} {x : Register}

/-- The next instruction waits for a key, and has it stored in `x`. -/
def Awaits (m : Machine) (x : Register) : Prop :=
  m.pc.toNat ≠ 0xFFF ∧ m.nextWord = .withByte 0xF x 0x0A

/-- Only the program counter and memory decide which instruction comes next. -/
theorem Awaits.congr {m' : Machine} (h : m.Awaits x) (hpc : m'.pc = m.pc)
    (hmemory : m'.memory = m.memory) : m'.Awaits x := by
  rw [Awaits, nextWord, hpc, hmemory]
  exact h

theorem Awaits.decode (h : m.Awaits x) : Instruction.decode m.nextWord = some (.awaitKey x) :=
  Instruction.decode_eq_some_iff.mpr h.2.symm

theorem awaits_of_waiting {cycle : Cycle} (h : (m.step rules source).result = .ok cycle)
    (hw : cycle.waiting = true) : (∃ x, m.Awaits x) ∧ m.keypad.firstPressed = none := by
  obtain ⟨⟨x, hword⟩, hnone⟩ := (waiting_iff h).mp hw
  exact ⟨⟨x, (cycle_of_step h).1, hword⟩, (Keypad.firstPressed_eq_none_iff _).mpr hnone⟩

theorem step_of_awaits_none (h : m.Awaits x) (hk : m.keypad.firstPressed = none) :
    m.step rules source =
      ⟨.ok ⟨m.pc, m.nextWord, true, true, false⟩, m.latch m.nextWord, source⟩ :=
  step_executed h.1 h.decode (.wait x hk)

theorem step_of_awaits_some (h : m.Awaits x) {key : Nibble}
    (hk : m.keypad.firstPressed = some key) :
    m.step rules source = ⟨.ok ⟨m.pc, m.nextWord, true, false, false⟩,
      (m.latch m.nextWord).withRegisters (m.v.write x (key.setWidth 8)), source⟩ :=
  step_executed h.1 h.decode (.awaitKey x hk)

end Machine

namespace Console

variable {c d : Console} {cycle : Cycle} {x : Register}

/-! ### While no key is touched -/

/-- What a running program keeps is kept by every request that neither starts a program afresh nor
touches a key, if looking at the display keeps it too. -/
theorem KeptRunning.after {P : Console → Prop} (h : KeptRunning P)
    (hseen : ∀ c, P c → P c.seen) :
    ∀ (requests : List Request) {c : Console},
      (∀ r ∈ requests, r.startsAfresh = false ∧ r.isKey = false) → P c → P (c.after requests) := by
  intro requests
  induction requests with
  | nil => intro c _ hc; exact hc
  | cons r rest ih =>
      intro c hr hc
      obtain ⟨hfresh, hkey⟩ := hr r List.mem_cons_self
      rw [after_cons]
      refine ih (fun q hq => hr q (List.mem_cons_of_mem r hq)) ?_
      have hserved := served c r
      generalize c.serve r = d at hserved ⊢
      cases hserved with
      | refused => exact hc
      | loaded hloaded hdata => simp [hfresh] at hloaded
      | step => exact h.step c hc
      | run maxCycles strict => exact h.run maxCycles strict hc
      | runFrame => exact h.runFrame hc
      | tick => exact h.tick c hc
      | press | release => cases hkey
      | snapshot => exact hseen c hc

/-- The program is where it was, and so are the keys. -/
structure Unmoved (c d : Console) : Prop where
  frozen : Frozen c d
  keypad : d.machine.keypad = c.machine.keypad

theorem Frozen.awaits (h : Frozen c d) (hc : c.machine.Awaits x) : d.machine.Awaits x :=
  hc.congr h.pc h.memory

/-- **An instruction that waits for a key waits until a key is touched.** -/
theorem keptRunning_unmoved (hc : c.machine.Awaits x)
    (hk : c.machine.keypad.firstPressed = none) : KeptRunning (Unmoved c) where
  step d h := by
    have hstep := step_of_ok (c := d)
      (Machine.step_of_awaits_none (h.frozen.awaits hc) (h.keypad ▸ hk))
    rw [hstep]
    exact ⟨h.frozen.agree ⟨d.machine.nextWord, d.cycles + 1, rfl⟩, h.keypad⟩
  halt d reason h hstop := by
    have hdecode := (h.frozen.awaits hc).decode
    rw [hstop.decode_eq_none] at hdecode
    cases hdecode
  tick d h := ⟨h.frozen.trans (.tick d), h.keypad⟩

/-- Keys that go down and up leave the program where it was. -/
theorem frozen_after_keys :
    ∀ (keys : List Request) {d : Console}, (∀ r ∈ keys, r.isKey = true) → Frozen c d →
      Frozen c (d.after keys) := by
  intro keys
  induction keys with
  | nil => intro d _ h; exact h
  | cons r rest ih =>
      intro d hr h
      rw [after_cons]
      refine ih (fun q hq => hr q (List.mem_cons_of_mem r hq)) ?_
      obtain ⟨keypad, hkeypad⟩ := serve_of_isKey (c := d) (hr r List.mem_cons_self)
      rw [hkeypad]
      exact h.trans (.withKeypad d keypad)

/-! ### The end of a wait -/

/-- The next cycle stores a key in `x` and goes on, and it changes nothing else. -/
structure Answered (x : Register) (key : Nibble) (d : Console) : Prop where
  /-- The key is the lowest of those that are down. -/
  lowest : d.machine.keypad.Lowest key
  succeeds : ∃ cycle, d.step.result = .ok cycle ∧ cycle.waiting = false
  stored : (d.step.console.machine.v.read x).toNat = key.toNat
  moved : Machine.MovedOn d.machine d.step.console.machine 2
  kept : ∀ p, p ≠ .register x → Machine.Same d.machine d.step.console.machine p
  source : d.step.console.source = d.source

theorem answered_of_awaits (hd : d.machine.Awaits x) {key : Nibble}
    (hk : d.machine.keypad.firstPressed = some key) : Answered x key d := by
  have hstep := step_of_ok (c := d) (Machine.step_of_awaits_some hd hk)
  constructor
  case lowest => exact Keypad.lowest_of_firstPressed hk
  case succeeds => exact ⟨_, by rw [hstep], rfl⟩
  all_goals rw [hstep]
  case stored =>
    show ((d.machine.v.write x (key.setWidth 8)).read x).toNat = key.toNat
    have hlt : key.toNat < 2 ^ 8 := Nat.lt_trans key.isLt (by decide)
    rw [Registers.read_write, if_pos rfl, BitVec.toNat_setWidth, Nat.mod_eq_of_lt hlt]
  case moved => exact Machine.movedOn_two rfl
  case kept =>
    intro p hp
    cases p with
    | register r =>
        show (d.machine.v.write x (key.setWidth 8)).read r = d.machine.v.read r
        rw [Registers.read_write, if_neg fun heq : x = r => hp (by rw [heq])]
    | _ => rfl

/-! ### Cycles that get nowhere -/

/-- A cycle that leaves everything but the record of the last word as it was, and comes out the same
however often it is repeated. -/
structure Stutters (c : Console) (cycle : Cycle) : Prop where
  /-- It is counted, and its word is noted. -/
  console : c.step.console = c.idled 1
  again : ∀ n, (c.afterCycles n).step.result = .ok cycle
  after : ∀ n, c.afterCycles (n + 1) = c.idled (n + 1)

/-- What becomes of a console at an instruction that waits for a key, to store it in `x`. -/
structure WaitsFor (c : Console) (cycle : Cycle) (x : Register) : Prop where
  word : cycle.word = .withByte 0xF x 0x0A
  /-- A run goes on until its cycles are spent. -/
  run : ∀ maxCycles strict,
    (c.run maxCycles strict).result =
        .ok ⟨maxCycles.toNat, none, if maxCycles.toNat = 0 then none else some cycle⟩ ∧
      (c.run maxCycles strict).console = c.afterCycles maxCycles.toNat
  /-- A frame takes one cycle, and then its tick. -/
  runFrame : c.halted = none →
    c.runFrame.result = .ok [cycle] ∧ c.runFrame.console = c.step.console.tick
  /-- Whatever is tried in the meantime, the program stays where it is, also when keys go down and
  up after that.  If none is down in the end, it still waits, and otherwise the wait is over. -/
  later : ∀ waits keys : List Request,
    (∀ r ∈ waits, r.startsAfresh = false ∧ r.isKey = false) → (∀ r ∈ keys, r.isKey = true) →
      let d := (c.after waits).after keys
      Unmoved c (c.after waits) ∧ Frozen c d ∧
        ((∀ key, d.machine.keypad.isPressed key = false) → d.step.result = .ok cycle) ∧
        ((∃ key, d.machine.keypad.isPressed key = true) → ∃ key, Answered x key d)

theorem stutters_of_idle (h : c.step.result = .ok cycle)
    (hidle : cycle.isImplemented = false ∨ cycle.waiting = true) : Stutters c cycle where
  console := (afterCycles_of_idle h hidle 0).2
  again n := (afterCycles_of_idle h hidle n).1
  after n := (afterCycles_of_idle h hidle n).2

theorem runFrame_of_waiting (h : c.step.result = .ok cycle) (hw : cycle.waiting = true)
    (hc : c.halted = none) :
    c.runFrame.result = .ok [cycle] ∧ c.runFrame.console = c.step.console.tick := by
  obtain ⟨n, hn⟩ := Nat.exists_eq_succ_of_ne_zero (Nat.ne_of_gt c.settings.cyclesPerFrame_pos)
  rw [Console.runFrame, if_neg (by simp [hc]), hn,
    frameCycles_of_waiting (p := ⟨c, [], []⟩) n h hw]
  exact ⟨rfl, rfl⟩

theorem waitsFor_of_awaits (h : c.step.result = .ok cycle) (hw : cycle.waiting = true)
    (hc : c.machine.Awaits x) (hk : c.machine.keypad.firstPressed = none) :
    WaitsFor c cycle x := by
  constructor
  case word => exact (cycle_of_step h).2.2.trans hc.2
  case runFrame => exact runFrame_of_waiting h hw
  case run =>
    intro maxCycles strict
    have hrun := runCycles_of_waiting strict maxCycles.toNat ⟨c, 0, none, []⟩ h hw
    rw [Nat.zero_add] at hrun
    exact hrun
  case later =>
    intro waits keys hwaits hkeys d
    have hunmoved : Unmoved c (c.after waits) :=
      (keptRunning_unmoved hc hk).after
        (fun e he => ⟨he.frozen.trans (.seen e), he.keypad⟩) waits hwaits ⟨Frozen.refl c, rfl⟩
    have hfrozen : Frozen c d := frozen_after_keys keys hkeys hunmoved.frozen
    have hd : d.machine.Awaits x := hfrozen.awaits hc
    refine ⟨hunmoved, hfrozen, fun hnone => ?_, fun hdown => ?_⟩
    · rw [← Keypad.firstPressed_eq_none_iff] at hnone
      have hcycle : cycle = ⟨d.machine.pc, d.machine.nextWord, true, true, false⟩ := by
        have hstep := step_of_ok (Machine.step_of_awaits_none hc hk)
        rw [hstep] at h
        rw [← Except.ok.inj h, hfrozen.pc, hd.2, hc.2]
      rw [step_of_ok (Machine.step_of_awaits_none hd hnone), hcycle]
    · cases hfirst : d.machine.keypad.firstPressed with
      | none =>
          obtain ⟨key, hkey⟩ := hdown
          rw [(Keypad.firstPressed_eq_none_iff _).mp hfirst key] at hkey
          cases hkey
      | some key => exact ⟨key, answered_of_awaits hd hfirst⟩

/-- **A cycle that gets nowhere is a pure stutter, and a wait ends with the lowest key.**  A word
without an instruction and an instruction that waits for a key leave everything as it was, and come
out the same as often as they are tried.  While an instruction waits, a run spends its cycles on
it and a frame takes a single one; and as soon as a key is down at a cycle, the instruction stores
the lowest such key, whatever came before. -/
theorem stutters_until_key (c : Console) (cycle : Cycle) (h : c.step.result = .ok cycle)
    (hidle : cycle.isImplemented = false ∨ cycle.waiting = true) :
    Stutters c cycle ∧ (cycle.waiting = true → ∃ x, WaitsFor c cycle x) := by
  refine ⟨stutters_of_idle h hidle, fun hw => ?_⟩
  have hm : (c.machine.step c.rules c.source).result = .ok cycle := by
    rw [← step_result]
    exact h
  obtain ⟨⟨x, hc⟩, hk⟩ := Machine.awaits_of_waiting hm hw
  exact ⟨x, waitsFor_of_awaits h hw hc hk⟩

/-- A program that waits for a key at once; a cycle and a frame are tried, and then two keys go
down.  The lower one is stored. -/
theorem stutters_until_key_loaded :
    let c := (Console.new {} .zeros).loaded [0xF3, 0x0A]
    let cycle : Cycle := ⟨0x200, 0xF30A, true, true, false⟩
    let d := (c.after [.step, .runFrame]).after [.press (.number 9), .press (.number 5)]
    (c.step.result = .ok cycle ∧ cycle.waiting = true) ∧
      Stutters c cycle ∧ WaitsFor c cycle 3 ∧ Answered 3 5 d := by
  intro c cycle d
  have hword : c.machine.nextWord = 0xF30A :=
    Memory.wordAt_store Memory.powerOn 0xF3 0x0A [] (by decide)
  have hawaits : c.machine.Awaits 3 := ⟨by decide, hword⟩
  have hstep : c.step.result = .ok cycle := by
    rw [step_of_ok (Machine.step_of_awaits_none hawaits (by decide)), hword]
    rfl
  obtain ⟨hstutters, hwaits⟩ := stutters_until_key c cycle hstep (.inr rfl)
  obtain ⟨x, hwaits⟩ := hwaits rfl
  obtain rfl : x = 3 := by
    have hx := congrArg Word.x hwaits.word
    rw [Word.x_withByte] at hx
    exact hx.symm.trans (by decide)
  obtain ⟨hunmoved, -, -, hover⟩ := hwaits.later [.step, .runFrame]
    [.press (.number 9), .press (.number 5)] (by decide) (by decide)
  have hkeypad : d.machine.keypad = (Keypad.released.setKey 9 true).setKey 5 true :=
    congrArg (fun k : Keypad => (k.setKey 9 true).setKey 5 true) hunmoved.keypad
  obtain ⟨key, hanswered⟩ := hover ⟨5, by rw [hkeypad]; decide⟩
  obtain rfl : key = 5 := by
    have hkeys : ∀ key, ((Keypad.released.setKey 9 true).setKey 5 true).isPressed key = true →
        key.toNat ≤ 5 → key = 5 := by decide
    obtain ⟨hdown, hlowest⟩ := hanswered.lowest
    rw [hkeypad] at hdown hlowest
    exact hkeys key hdown (hlowest 5 (by decide))
  exact ⟨⟨hstep, rfl⟩, hstutters, hwaits, hanswered⟩

end Console
end ChipEight
