/-
Subroutines return to where they were called.

A call puts the address of the next instruction on the stack, and a return takes the latest
address off and goes on there.  No other word touches the stack, whatever else it does to the
program, and neither does a host that changes keys or timers between two cycles.

So the return address of a call, and everything below it, stays at the bottom of the stack for
as long as the stack is higher than it was before the call.  The cycle that makes it as low
again is a return, and it is the one that belongs to the call: it goes on after the call, with
the stack that was there before.  How many calls and returns lie in between does not matter, nor
does it matter if the program rewrites itself on the way.
-/
import ChipEight.Proofs.Console.Cycles
import ChipEight.Proofs.Console.Requests

namespace ChipEight

namespace Machine

variable {rules : Rules} {source : ByteSource} {m m' : Machine}

/-- The address at which a program goes on after a subroutine that is called here. -/
def returnAddress (m : Machine) : Address := m.pc + 2

theorem toNat_returnAddress (m : Machine) :
    m.returnAddress.toNat = (m.pc.toNat + 2) % Memory.size := by
  rw [returnAddress, BitVec.toNat_add]
  rfl

/-- What becomes of the stack in a cycle with an instruction, or without one. -/
inductive StackChange (m m' : Machine) : Option Instruction → Prop
  /-- A call pushes its return address. -/
  | call (nnn : Address) (hs : m'.stack = m.returnAddress :: m.stack) :
      StackChange m m' (some (.call nnn))
  /-- A return goes on at the latest return address, and takes it off. -/
  | ret (hs : m.stack = m'.pc :: m'.stack) : StackChange m m' (some .ret)
  /-- Every other cycle leaves the stack alone. -/
  | other {ins : Option Instruction} (hcall : ∀ nnn, ins ≠ some (.call nnn))
      (hs : m'.stack = m.stack) : StackChange m m' ins

/-- Only the stack and the program counter matter in the machine afterwards. -/
theorem StackChange.congr {ins : Option Instruction} {m'' : Machine} (h : StackChange m m' ins)
    (hstack : m''.stack = m'.stack) (hpc : m''.pc = m'.pc) : StackChange m m'' ins := by
  cases h with
  | call nnn hs => exact .call nnn (hstack.trans hs)
  | ret hs => exact .ret (by rw [hstack, hpc]; exact hs)
  | other hcall hs => exact .other hcall (hstack.trans hs)

theorem stackChange_of_executed {ins : Instruction} {effect : Effect} {word : Word}
    (he : Executed rules source (m.latch word) ins effect) :
    StackChange m effect.machine (some ins) := by
  cases he with
  | ret hs => exact .ret hs
  | call nnn hs => exact .call nnn rfl
  | _ => exact .other (fun nnn h => nomatch h) rfl

theorem stackChange_of_step {cycle : Cycle} (h : (m.step rules source).result = .ok cycle) :
    StackChange m (m.step rules source).machine (Instruction.decode cycle.word) := by
  have hsucceeds := succeeds_of_step h
  generalize m.step rules source = o at hsucceeds ⊢
  cases hsucceeds with
  | unknown hpc hd =>
      rw [hd]
      exact .other (fun nnn h => nomatch h) rfl
  | @executed hpc ins effect hw he =>
      show StackChange m effect.machine (Instruction.decode m.nextWord)
      rw [hw, Instruction.decode_encode]
      exact stackChange_of_executed he

end Machine

/-- Whether a request leaves the program alone: it is about keys, timers or the display. -/
def Request.isAside : Request → Bool
  | tick | press _ | release _ | snapshot => true
  | _ => false

namespace Console

variable {c d e : Console}

/-! ### One cycle of a run -/

/-- The second console is what a cycle of the first leaves behind, if it succeeds, and what the
host has made of keys, timers and display since then. -/
structure Follows (c d : Console) : Prop where
  succeeds : ∃ cycle, c.step.result = .ok cycle
  aside : ∃ between : List Request,
    (∀ r ∈ between, r.isAside = true) ∧ d = c.step.console.after between

theorem serve_of_isAside {r : Request} (hr : r.isAside = true) (c : Console) :
    (c.serve r).machine.stack = c.machine.stack ∧ (c.serve r).machine.pc = c.machine.pc := by
  have hserved := served c r
  generalize c.serve r = d at hserved ⊢
  cases hserved with
  | loaded hfresh hdata => cases r <;> simp [Request.isAside, Request.startsAfresh] at hr hfresh
  | step | run | runFrame => cases hr
  | _ => exact ⟨rfl, rfl⟩

theorem after_of_isAside :
    ∀ (between : List Request) (c : Console), (∀ r ∈ between, r.isAside = true) →
      (c.after between).machine.stack = c.machine.stack ∧
        (c.after between).machine.pc = c.machine.pc := by
  intro between
  induction between with
  | nil => intro c _; exact ⟨rfl, rfl⟩
  | cons r rest ih =>
      intro c hr
      obtain ⟨hstack, hpc⟩ := serve_of_isAside (hr r (by simp)) c
      obtain ⟨hstack', hpc'⟩ := ih (c.serve r) (fun q hq => hr q (by simp [hq]))
      rw [after_cons]
      exact ⟨hstack'.trans hstack, hpc'.trans hpc⟩

/-- A host need not do anything between two cycles. -/
theorem follows_afterCycles {n : Nat} (h : (c.afterCycles n).step.result.isOk = true) :
    (c.afterCycles n).Follows (c.afterCycles (n + 1)) := by
  refine ⟨?_, [], by simp, afterCycles_succ c n⟩
  cases hresult : (c.afterCycles n).step.result with
  | ok cycle => exact ⟨cycle, rfl⟩
  | error fault => rw [hresult] at h; cases h

/-- In a run the stack changes by the instruction of the cycle alone. -/
theorem Follows.stackChange (h : c.Follows d) :
    ∃ cycle, c.step.result = .ok cycle ∧ cycle.word = c.machine.nextWord ∧
      c.machine.StackChange d.machine (Instruction.decode cycle.word) := by
  obtain ⟨⟨cycle, hok⟩, between, haside, rfl⟩ := h
  refine ⟨cycle, hok, (cycle_of_step hok).2.2, ?_⟩
  obtain ⟨hstack, hpc⟩ := after_of_isAside between c.step.console haside
  obtain ⟨cycles, hconsole⟩ := step_console c
  rw [step_result] at hok
  rw [hconsole] at hstack hpc ⊢
  exact (Machine.stackChange_of_step hok).congr hstack hpc

/-! ### From a call to its return -/

/-- The cycle from one console to the next was the return from a subroutine that was called
when the machine was `m`. -/
structure Returned (m : Machine) (d e : Console) : Prop where
  ret : ∃ cycle, d.step.result = .ok cycle ∧ cycle.word = 0x00EE
  stack : e.machine.stack = m.stack
  pc : e.machine.pc = m.returnAddress

/-- A call puts its return address on top of what was there. -/
theorem Follows.stack_of_call {nnn : Address} (h : c.Follows d)
    (hcall : c.machine.nextWord = .withAddress 0x2 nnn) :
    d.machine.stack = c.machine.returnAddress :: c.machine.stack := by
  obtain ⟨cycle, -, hword, hchange⟩ := h.stackChange
  have hdecode : Instruction.decode cycle.word = some (.call nnn) :=
    Instruction.decode_eq_some_iff.mpr (hcall ▸ hword).symm
  rw [hdecode] at hchange
  cases hchange with
  | call nnn hs => exact hs
  | other hother hs => exact absurd rfl (hother nnn)

/-- **A cycle inside a subroutine stays inside it, or returns from it.** -/
theorem Follows.inside_or_returned {m : Machine} (h : d.Follows e)
    (hd : m.returnAddress :: m.stack <:+ d.machine.stack) :
    m.returnAddress :: m.stack <:+ e.machine.stack ∨ Returned m d e := by
  obtain ⟨cycle, hok, -, hchange⟩ := h.stackChange
  generalize hins : Instruction.decode cycle.word = ins at hchange
  cases hchange with
  | call nnn hs =>
      rw [hs]
      exact .inl (hd.trans (List.suffix_cons _ _))
  | ret hs =>
      rw [hs, List.suffix_cons_iff] at hd
      rcases hd with htop | hbelow
      · obtain ⟨hpc, hstack⟩ := List.cons.inj htop
        have hword : cycle.word = 0x00EE := (Instruction.encode_of_decode hins).symm
        exact .inr ⟨⟨cycle, hok, hword⟩, hstack.symm, hpc.symm⟩
      · exact .inl hbelow
  | other hcall hs =>
      rw [hs]
      exact .inl hd

/-- **Calls nest.**  A run begins with a call, and until its last cycle the stack is higher than
it was before the call.  Then the return address lies on top of what was there before, and both
lie at the bottom of the stack all the time; and if the last cycle makes the stack as low as
it was, it is a return to that address, with the stack that was there before. -/
theorem nested_of_call (s : Nat → Console) (k : Nat) (nnn : Address)
    (hrun : ∀ j ≤ k, (s j).Follows (s (j + 1)))
    (hcall : (s 0).machine.nextWord = .withAddress 0x2 nnn)
    (hinside : ∀ j, 1 ≤ j → j ≤ k →
      (s 0).machine.stack.length + 1 ≤ (s j).machine.stack.length) :
    let m := (s 0).machine
    m.returnAddress.toNat = (m.pc.toNat + 2) % Memory.size ∧
      (∀ j, 1 ≤ j → j ≤ k + 1 → m.stack.length + 1 ≤ (s j).machine.stack.length →
        m.returnAddress :: m.stack <:+ (s j).machine.stack) ∧
      m.stack.length ≤ (s (k + 1)).machine.stack.length ∧
      ((s (k + 1)).machine.stack.length = m.stack.length → Returned m (s k) (s (k + 1))) := by
  intro m
  -- the induction is on the cycles after the call; the height keeps all but the last inside
  have hcycle : ∀ j ≤ k, m.returnAddress :: m.stack <:+ (s (j + 1)).machine.stack ∨
      Returned m (s j) (s (j + 1)) := by
    intro j
    induction j with
    | zero =>
        intro _
        rw [(hrun 0 (Nat.zero_le k)).stack_of_call hcall]
        exact .inl (List.suffix_refl _)
    | succ j ih =>
        intro hj
        rcases ih (Nat.le_of_succ_le hj) with hin | hret
        · exact (hrun (j + 1) hj).inside_or_returned hin
        · have hheight := hinside (j + 1) (Nat.succ_pos j) hj
          rw [hret.stack] at hheight
          exact absurd hheight (Nat.not_succ_le_self _)
  refine ⟨m.toNat_returnAddress, ?_, ?_, ?_⟩
  · intro j hpos hj hheight
    obtain ⟨i, rfl⟩ := Nat.exists_eq_succ_of_ne_zero (Nat.ne_of_gt hpos)
    rcases hcycle i (Nat.le_of_succ_le_succ hj) with hin | hret
    · exact hin
    · rw [hret.stack] at hheight
      exact absurd hheight (Nat.not_succ_le_self _)
  · rcases hcycle k (Nat.le_refl k) with hin | hret
    · exact Nat.le_of_succ_le hin.length_le
    · exact Nat.le_of_eq (by rw [hret.stack])
  · intro hheight
    rcases hcycle k (Nat.le_refl k) with hin | hret
    · have hle := hin.length_le
      rw [hheight] at hle
      exact absurd hle (Nat.not_succ_le_self _)
    · exact hret

/-- A call in the last word of memory, of a subroutine that calls another one. -/
def callAtEnd (settings : Settings) : Console :=
  { Console.new settings .zeros with
    machine :=
      { Machine.powerOn with
        pc := 0xFFE
        memory := (Memory.store ⟨Vector.replicate 4096 0⟩ 0xFFE [0x20, 0x00]).store 0x000
          [0x20, 0x04, 0x00, 0xEE, 0x00, 0xEE] } }

/-- The subroutine returns to the address zero. -/
theorem nested_of_call_atEnd :
    let s := (callAtEnd {}).afterCycles
    ((∀ j ≤ 3, (s j).Follows (s (j + 1))) ∧
      (s 0).machine.nextWord = .withAddress 0x2 0x000 ∧
      (∀ j, 1 ≤ j → j ≤ 3 →
        (s 0).machine.stack.length + 1 ≤ (s j).machine.stack.length) ∧
      (s 4).machine.stack.length = (s 0).machine.stack.length) ∧
    Returned (s 0).machine (s 3) (s 4) := by
  intro s
  have hfacts : (∀ j ≤ 3, (s j).step.result.isOk = true) ∧
      (s 0).machine.nextWord = .withAddress 0x2 0x000 ∧
      (∀ j ≤ 3, 1 ≤ j → (s 0).machine.stack.length + 1 ≤ (s j).machine.stack.length) ∧
      (s 4).machine.stack.length = (s 0).machine.stack.length := by
    decide +kernel
  obtain ⟨hok, hcall, hinside, hlow⟩ := hfacts
  have hrun : ∀ j ≤ 3, (s j).Follows (s (j + 1)) :=
    fun j hj => follows_afterCycles (hok j hj)
  have hheight : ∀ j, 1 ≤ j → j ≤ 3 →
      (s 0).machine.stack.length + 1 ≤ (s j).machine.stack.length :=
    fun j hpos hj => hinside j hj hpos
  -- from here on the consoles are not to be computed again
  clear_value s
  exact ⟨⟨hrun, hcall, hheight, hlow⟩,
    (nested_of_call s 3 0x000 hrun hcall hheight).2.2.2 hlow⟩

end Console
end ChipEight
