/-
What no instruction reads.

Three parts of a machine are there for the host: the sound timer, the record of the last word,
and the mark on the display that says that it has changed.  Instructions write them, and so
does a host, but no instruction reads them.  The record is the least obvious case, because a
fault of the stack is blamed on it; but before that can happen the cycle has fetched a word and
replaced the record.

So a cycle does the same whatever stands in these three parts, and what comes out differs in
nothing else.
-/
import ChipEight.Proofs.Machine.Cycle

namespace ChipEight.Machine

/-- The parts of a machine that no instruction reads. -/
structure Unread where
  /-- The sound timer. -/
  sound : Byte
  /-- The record of the last word. -/
  lastWord : Word
  /-- The mark on the display. -/
  dirty : Bool
  deriving DecidableEq

/-- The machine with other unread parts. -/
def withUnread (m : Machine) (u : Unread) : Machine :=
  { m with
    sound := u.sound
    lastWord := u.lastWord
    display := { m.display with dirty := u.dirty } }

/-- The machines agree on everything that an instruction reads. -/
def Equivalent (m n : Machine) : Prop := ∃ u, n = m.withUnread u

/-- Apart from the mark on the display, the machine has just these unread parts. -/
def HasUnread (m : Machine) (u : Unread) : Prop := u.sound = m.sound ∧ u.lastWord = m.lastWord

variable {rules : Rules} {source : ByteSource} {m : Machine}

theorem refused_withUnread {ins : Instruction} {cause : Cause} (u : Unread)
    (hr : Refused rules m ins cause) : Refused rules (m.withUnread u) ins cause := by
  cases hr <;> constructor <;> assumption

/-- The sound timer is set alike, or left alone in both machines. -/
theorem executed_withUnread {ins : Instruction} {effect : Effect} (u : Unread)
    (he : Executed rules source m ins effect) :
    ∃ u', Executed rules source (m.withUnread u) ins
        { effect with machine := effect.machine.withUnread u' } ∧
      (m.HasUnread u → effect.machine.HasUnread u') := by
  cases he with
  | clearScreen => exact ⟨{ u with dirty := true }, .clearScreen, id⟩
  | draw x y n hi => exact ⟨{ u with dirty := true }, .draw x y n hi, id⟩
  | setSound x => exact ⟨{ u with sound := m.v.read x }, .setSound x, fun h => ⟨rfl, h.2⟩⟩
  | _ => exact ⟨u, by constructor <;> assumption, id⟩

/-- **A cycle does the same whatever stands in the unread parts.**  What it leaves behind differs
in these parts only, and if it was no more than the mark before, it is no more afterwards. -/
theorem step_withUnread (rules : Rules) (source : ByteSource) (m : Machine) (u : Unread) :
    let o := m.step rules source
    ∃ u', (m.withUnread u).step rules source =
        { o with machine := o.machine.withUnread u' } ∧
      (m.HasUnread u → o.machine.HasUnread u') := by
  intro o
  have hout : Outcomes rules source m o := outcomes_step rules source m
  generalize o = o at hout ⊢
  cases hout with
  | pastEnd hpc => exact ⟨u, step_pastEnd (m := m.withUnread u) hpc, id⟩
  | unknown hpc hd =>
      exact ⟨{ u with lastWord := m.nextWord }, step_unknown (m := m.withUnread u) hpc hd,
        fun h => ⟨h.1, rfl⟩⟩
  | refused hpc hd hr =>
      exact ⟨{ u with lastWord := m.nextWord },
        step_refused (m := m.withUnread u) hpc hd (refused_withUnread u hr),
        fun h => ⟨h.1, rfl⟩⟩
  | executed hpc hd he =>
      obtain ⟨u', he', hunread⟩ := executed_withUnread { u with lastWord := m.nextWord } he
      exact ⟨u', step_executed (m := m.withUnread u) hpc hd he', fun h => hunread ⟨h.1, rfl⟩⟩

end ChipEight.Machine
