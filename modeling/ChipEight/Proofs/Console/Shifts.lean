/-
When the rule for shifts matters.

Under one rule a shift stores its result in both of its registers, under the other in the first one
only.  The two differ only where the second register is a register of its own.  If it is the first
one, it holds the result anyway; and if it is the one for flags, then the flag is written after the
result and replaces it, under either rule.

So a program whose shifts are all of these two kinds runs the same under both rules.  No other
instruction looks at the rule, and no cycle faults because of it.
-/
import ChipEight.Proofs.Console.OtherSettings

namespace ChipEight

/-- If the cycle executes a shift, the second register is the first one or the one for flags. -/
def Cycle.ShiftsInPlace (cycle : Cycle) : Prop :=
  ∀ x y n, n = 0x6 ∨ n = 0xE → cycle.word = .ofNibbles 0x8 x y n → y = x ∨ y = Registers.flag

theorem Cycle.shiftsInPlace_of_registers {cycle : Cycle}
    (h : cycle.word.y = cycle.word.x ∨ cycle.word.y = Registers.flag) : cycle.ShiftsInPlace := by
  intro x y n _ hword
  rw [hword, Word.y_ofNibbles, Word.x_ofNibbles] at h
  exact h

theorem Registers.write_write (v : Registers) (r : Register) (a b : Byte) :
    (v.write r a).write r b = v.write r b := by
  simp only [Registers.write, Vector.set_set]

namespace Machine

variable {rules : Rules} {source : ByteSource} {m : Machine} {both : Bool}

/-- In these two cases a shift leaves the same registers behind under both rules. -/
theorem withShift_eq (v : Registers) {x y : Register} (result : Byte) (flag : Bool)
    (hy : y = x ∨ y = Registers.flag) :
    withShift rules v x y result flag = withFlag v x result flag := by
  unfold withShift withFlag
  split
  · rcases hy with rfl | rfl
    · simp only [Registers.write_write]
    · simp only [Registers.write_write]
  · rfl

theorem refused_shiftsBoth {ins : Instruction} {cause : Cause} (hr : Refused rules m ins cause) :
    Refused { rules with shiftsBoth := both } m ins cause := by
  cases hr <;> constructor <;> assumption

/-- An instruction that does not shift from one register to another does not look at the rule. -/
theorem executed_shiftsBoth {ins : Instruction} {effect : Effect}
    (hplace : ∀ x y, ins = .shiftRight x y ∨ ins = .shiftLeft x y → y = x ∨ y = Registers.flag)
    (he : Executed rules source m ins effect) :
    Executed { rules with shiftsBoth := both } source m ins effect := by
  cases he with
  | shiftRight x y =>
      have hy := hplace x y (.inl rfl)
      have hrule : Executed { rules with shiftsBoth := both } source m (.shiftRight x y) _ :=
        .shiftRight x y
      rw [withShift_eq _ _ _ hy] at hrule ⊢
      exact hrule
  | shiftLeft x y =>
      have hy := hplace x y (.inr rfl)
      have hrule : Executed { rules with shiftsBoth := both } source m (.shiftLeft x y) _ :=
        .shiftLeft x y
      rw [withShift_eq _ _ _ hy] at hrule ⊢
      exact hrule
  | _ => constructor <;> assumption

/-- A cycle that shifts in place, if it shifts at all, comes out the same under both rules. -/
theorem step_shiftsBoth (both : Bool)
    (h : ∀ cycle, (m.step rules source).result = .ok cycle → cycle.ShiftsInPlace) :
    m.step { rules with shiftsBoth := both } source = m.step rules source := by
  refine step_withRules (fun _ hr _ => refused_shiftsBoth hr) fun hd he hok => ?_
  refine executed_shiftsBoth (fun x y hins => ?_) he
  rcases hins with rfl | rfl
  · exact h _ hok x y 0x6 (.inl rfl) (Instruction.encode_of_decode hd).symm
  · exact h _ hok x y 0xE (.inr rfl) (Instruction.encode_of_decode hd).symm

end Machine

namespace Console

/-- The settings with the rule for shifts replaced. -/
def shiftSettings (c : Console) (both : Bool) : Settings := { c.settings with shiftsBoth := both }

/-- If the next cycle executes a shift, it is one in place. -/
def ShiftsInPlace (c : Console) : Prop :=
  ∀ cycle, c.step.result = .ok cycle → cycle.ShiftsInPlace

variable {c : Console}

theorem indifferent_shifts (s : Settings) (hs : s.stackDepth = c.settings.stackDepth)
    (h : c.ShiftsInPlace) : Indifferent s c := by
  have hplace : ∀ cycle, (c.machine.step c.rules c.source).result = .ok cycle →
      cycle.ShiftsInPlace := fun cycle hcycle => h cycle ((step_result c).trans hcycle)
  have hrules : (c.withSettings s).rules = { c.rules with shiftsBoth := s.shiftsBoth } := by
    simp only [rules, withSettings, hs]
  rw [Indifferent, hrules, Machine.step_shiftsBoth s.shiftsBoth hplace]

/-- A word that stops a program is no shift. -/
theorem shiftsInPlace_of_stop {reason : Halt} (h : c.machine.StopsFor reason) :
    c.ShiftsInPlace := by
  intro cycle hcycle x y n hn hword
  have hnone := h.decode_eq_none
  rw [← (cycle_of_step hcycle).2.2, hword] at hnone
  rcases hn with rfl | rfl
  · cases hnone.symm.trans (Instruction.decode_encode (.shiftRight x y))
  · cases hnone.symm.trans (Instruction.decode_encode (.shiftLeft x y))

/-- **The rule for shifts matters only for shifts from one register to another.**  As long as every
shift is in place, the cycles come out the same whatever the rule, and so does a frame; and a run
whose completed cycles shift in place completes the same cycles, ends alike and leaves the same
behind. -/
theorem same_of_shiftsInPlace (c : Console) (both : Bool) :
    let s := c.shiftSettings both
    (∀ n, (∀ j < n, (c.afterCycles j).ShiftsInPlace) → SameCycles s c n) ∧
      ∀ maxCycles strict done,
        Accounted c maxCycles strict done (c.run maxCycles strict) →
          (∀ cycle ∈ done, cycle.ShiftsInPlace) → SameRun s c maxCycles strict done := by
  intro s
  have hthroughout : ∀ {n : Nat}, Throughout ShiftsInPlace c n → Throughout (Indifferent s) c n :=
    fun h j hj => indifferent_shifts s (by rw [settings_afterCycles]; rfl) (h j hj)
  refine ⟨fun n h => sameCycles rfl (hthroughout h), ?_⟩
  intro maxCycles strict done haccounted hdone
  have hends := haccounted.ends
  refine sameRun rfl hends (hthroughout (hends.throughout ?_ ?_ ?_))
  · intro e cycle hmem hok cycle' hok'
    obtain rfl := Except.ok.inj (hok.symm.trans hok')
    exact hdone cycle hmem
  · exact fun e reason hstop => shiftsInPlace_of_stop hstop
  · intro e fault _ hfault cycle hok
    cases hfault.symm.trans hok

/-- A shift that has the register for flags as its second one, and a shift of a register onto
itself. -/
theorem same_of_shiftsInPlace_loaded :
    let c := ((Console.new {} .zeros).load [0x81, 0xF6, 0x82, 0x2E]).console
    (∀ j < 2, (c.afterCycles j).ShiftsInPlace) ∧ SameCycles (c.shiftSettings false) c 2 := by
  intro c
  have hwords : (c.afterCycles 0).machine.nextWord = 0x81F6 ∧
      (c.afterCycles 1).machine.nextWord = 0x822E := by decide +kernel
  have hplace : ∀ j < 2, (c.afterCycles j).ShiftsInPlace := by
    intro j hj cycle hok
    have hword := (cycle_of_step hok).2.2
    rcases Nat.le_one_iff_eq_zero_or_eq_one.mp (Nat.le_of_lt_succ hj) with rfl | rfl
    · exact Cycle.shiftsInPlace_of_registers (by rw [hword, hwords.1]; decide)
    · exact Cycle.shiftsInPlace_of_registers (by rw [hword, hwords.2]; decide)
  exact ⟨hplace, (same_of_shiftsInPlace c false).1 2 hplace⟩

end Console
end ChipEight
