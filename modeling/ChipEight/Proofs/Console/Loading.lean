/-
Loading erases the past, or does nothing.

A program that is too large is refused, and the console is as it was.  Any other program is
loaded into a machine that was switched off and on, so the console is in a state that `JustLoaded`
lists part by part, whatever it was in before.  A new console with the same settings comes to the
same state when it loads the program; only the source of random bytes goes on from where it was.

What a console does depends on its source through the bytes that it draws.  So from then on the two
consoles cannot be told apart as long as their sources hand out the same bytes.
-/
import ChipEight.Proofs.Console.Draws

namespace ChipEight

namespace Machine

/-- Below the start of programs, memory is as it is after switching on. -/
theorem byteAt_withProgram_of_lt (data : List Byte) {a : Nat} (ha : a < Memory.programStart) :
    (withProgram data).memory.byteAt a = Font.glyphs[a]?.getD 0 := by
  show (Memory.powerOn.store Memory.programStart data).byteAt a = _
  rw [Memory.byteAt_store, if_neg (fun h => Nat.not_le.mpr ha h.1), Memory.byteAt_powerOn]

/-- From there on, it is the program and zeros after it. -/
theorem byteAt_withProgram_of_le (data : List Byte) {a : Nat} (ha : Memory.programStart ≤ a)
    (hsize : a < Memory.size) :
    (withProgram data).memory.byteAt a = data[a - Memory.programStart]?.getD 0 := by
  have hlen : Font.glyphs.length ≤ a :=
    Nat.le_trans (by decide : Font.glyphs.length ≤ Memory.programStart) ha
  show (Memory.powerOn.store Memory.programStart data).byteAt a = _
  rw [Memory.byteAt_store, if_pos ⟨ha, hsize⟩, Memory.byteAt_powerOn,
    List.getElem?_eq_none hlen, Option.getD_none]

end Machine

namespace Console

/-- The console has just had a program loaded. -/
structure JustLoaded (settings : Settings) (data : List Byte) (c : Console) : Prop where
  settings : c.settings = settings
  /-- The font stands at the start of memory. -/
  font : ∀ a < 80, some (c.machine.memory.byteAt a) = Font.glyphs[a]?
  /-- There are zeros up to the start of the program. -/
  gap : ∀ a < 0x200, 80 ≤ a → c.machine.memory.byteAt a = 0
  program : ∀ k < data.length, some (c.machine.memory.byteAt (0x200 + k)) = data[k]?
  /-- There are zeros after the program. -/
  rest : ∀ a < 4096, 0x200 + data.length ≤ a → c.machine.memory.byteAt a = 0
  pc : c.machine.pc = 0x200
  registers : ∀ r, c.machine.v.read r = 0
  i : c.machine.i = 0
  delay : c.machine.delay = 0
  sound : c.machine.sound = 0
  lastWord : c.machine.lastWord = 0
  stack : c.machine.stack = []
  keypad : ∀ key, c.machine.keypad.isPressed key = false
  pixels : c.machine.display.pixels = Vector.replicate 2048 false
  dirty : c.machine.display.dirty = true
  halted : c.halted = none
  cycles : c.cycles = 0
  romSize : c.romSize = data.length

theorem justLoaded_loaded (c : Console) {data : List Byte}
    (h : data.length ≤ Memory.programLimit) : JustLoaded c.settings data (c.loaded data) := by
  have hglyphs : Font.glyphs.length = 80 := by decide
  have hlimit : 0x200 + data.length ≤ 4096 := by
    simp only [Memory.programLimit, Memory.programStart, Memory.size] at h
    omega
  have hlow : ∀ a < 0x200, (c.loaded data).machine.memory.byteAt a = Font.glyphs[a]?.getD 0 :=
    fun a ha => Machine.byteAt_withProgram_of_lt data ha
  have hhigh : ∀ a < 4096, 0x200 ≤ a →
      (c.loaded data).machine.memory.byteAt a = data[a - 0x200]?.getD 0 :=
    fun a ha hle => Machine.byteAt_withProgram_of_le data hle ha
  exact {
    settings := rfl
    font := fun a ha => by
      rw [hlow a (by omega), List.getElem?_eq_getElem (by omega), Option.getD_some]
    gap := fun a ha hle => by
      rw [hlow a ha, List.getElem?_eq_none (by omega), Option.getD_none]
    program := fun k hk => by
      rw [hhigh _ (by omega) (by omega), Nat.add_sub_cancel_left, List.getElem?_eq_getElem hk,
        Option.getD_some]
    rest := fun a ha hle => by
      rw [hhigh a ha (by omega), List.getElem?_eq_none (by omega), Option.getD_none]
    pc := rfl
    registers := fun r => Vector.getElem_replicate r.isLt
    i := rfl
    delay := rfl
    sound := rfl
    lastWord := rfl
    stack := rfl
    keypad := fun key => Vector.getElem_replicate key.isLt
    pixels := rfl
    dirty := rfl
    halted := rfl
    cycles := rfl
    romSize := rfl }

/-- **Loading erases the past, or does nothing.**  A program is refused if and only if it is larger
than the room for programs, and then the console is as it was.  Otherwise the console is in the
state that the program alone determines: a new console with the same settings and any source loads
the program into the same state, and whatever a host does from then on, the two answer alike and
stay the same as long as the sources hand out the same bytes, of which there are `k`.

A reset writes the parts of a console one after the other, and what comes out is a new console. -/
theorem load_erases_or_refuses (c : Console) (data : List Byte) :
    ((∃ e, (c.load data).result = .error e) ↔ 3584 < data.length) ∧
      (3584 < data.length →
        (c.load data).result = .error (.rom (.tooLarge data.length 3584)) ∧
          (c.load data).console = c) ∧
      (data.length ≤ 3584 →
        let d := (c.load data).console
        let fresh (source : ByteSource) := ((Console.new c.settings source).load data).console
        (c.load data).result = .ok () ∧ JustLoaded c.settings data d ∧
          (∀ source, d = (fresh source).withSource c.source) ∧
          ∀ asked, ∃ k, (d.through asked).source = c.source.drop k ∧
            ∀ source, source.take k = c.source.take k →
              (fresh source).transcript asked = d.transcript asked ∧
                (fresh source).through asked =
                  (d.through asked).withSource (source.drop k)) ∧
      c.reset = .new c.settings c.source := by
  refine ⟨⟨?_, fun h => ⟨_, congrArg Reply.result (load_of_lt h)⟩⟩, fun h => ?_, fun h => ?_,
    reset_eq_new c⟩
  · rintro ⟨e, he⟩
    refine Nat.lt_of_not_le fun hle => ?_
    rw [load_of_le hle] at he
    cases he
  · rw [load_of_lt h]
    exact ⟨rfl, rfl⟩
  · intro d fresh
    have hd : d = c.loaded data := congrArg Reply.console (load_of_le h)
    have hfresh : ∀ source, fresh source = d.withSource source := by
      intro source
      rw [hd]
      exact congrArg Reply.console (load_of_le h)
    have hresult : (c.load data).result = .ok () := congrArg Reply.result (load_of_le h)
    refine ⟨hresult, hd ▸ justLoaded_loaded c h, fun source => ?_, fun asked => ?_⟩
    · rw [hfresh, hd]
      rfl
    · have hsource : d.source = c.source := by rw [hd]; rfl
      obtain ⟨k, hk⟩ := draws_transcript asked d
      rw [hsource] at hk
      have hself : (d.through asked).source = c.source.drop k :=
        hsource ▸ congrArg (fun r => r.2.source) (hk d.source (by rw [hsource]))
      refine ⟨k, hself, fun source hs => ?_⟩
      rw [hfresh]
      exact Prod.ext_iff.mp (hk source hs)

end Console
end ChipEight
