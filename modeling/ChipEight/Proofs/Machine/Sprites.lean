/-
Drawing as an instruction.

The instruction takes its column, its row and its sprite from the machine as it finds it, draws,
and puts the collision into the flag register last.  So it makes no difference if the flag register
is also where the column or the row came from.
-/
import ChipEight.Proofs.Display.Draw
import ChipEight.Proofs.Machine.Cycle

namespace ChipEight.Machine

variable {rules : Rules} {source : ByteSource} {m : Machine}

/-- The second machine has drawn the sprite at the index register. -/
def HasDrawn (m m' : Machine) (x y : Register) (n : Nibble) : Prop :=
  let column : Int := (m.v.read x).toNat
  let row : Int := (m.v.read y).toNat
  ∃ sprite collision,
    m.memory.readBlock m.i.toNat n.toNat = .ok sprite ∧ sprite.length = n.toNat ∧
      m.display.draw column row sprite = (collision, m'.display) ∧
      (m'.v.read Registers.flag).toNat = collision.toNat ∧
      Display.Drawn m.display m'.display column row sprite collision

theorem hasDrawn_of_step {x y : Register} {n : Nibble} {cycle : Cycle}
    (hw : m.nextWord = .ofNibbles 0xD x y n) (h : (m.step rules source).result = .ok cycle) :
    m.HasDrawn (m.step rules source).machine x y n := by
  obtain ⟨effect, he, hstep⟩ := executed_of_step (.draw x y n) hw h
  rw [hstep]
  cases he with
  | draw x y n hi =>
      have hlen : (m.memory.slice m.i.toNat n.toNat).length ≤ 32 := by
        have := n.isLt
        rw [Memory.length_slice]
        omega
      have hfits : ¬(1 ≤ n.toNat ∧ Memory.size < m.i.toNat + n.toNat) := hi
      have hread : m.memory.readBlock m.i.toNat n.toNat =
          .ok (m.memory.slice m.i.toNat n.toNat) := by
        rw [Memory.readBlock_address, if_neg hfits]
      refine ⟨_, _, hread, Memory.length_slice _ _ _, rfl, ?_, Display.drawn_draw _ _ _ hlen⟩
      show ((m.v.write Registers.flag (flagByte _)).read Registers.flag).toNat = _
      rw [Registers.read_write, if_pos rfl, toNat_flagByte]
      rfl

/-- **Drawing toggles exactly the cells that the sprite covers.**  A sprite of at most 32 rows is
drawn bit by bit, wrapped around at the edges, for any position of its corner; the collision says
whether a lit cell was turned off.  The instruction draws in this way with the registers as they
were before it and the bytes at the index register, and leaves the collision in the flag
register. -/
theorem draw_exact :
    (∀ (d : Display) (x y : Int) (sprite : List Byte), sprite.length ≤ 32 →
      Display.Drawn d (d.draw x y sprite).2 x y sprite (d.draw x y sprite).1) ∧
    ∀ (rules : Rules) (source : ByteSource) (m : Machine) (x y : Register) (n : Nibble)
      (cycle : Cycle), m.nextWord = .ofNibbles 0xD x y n →
      (m.step rules source).result = .ok cycle → m.HasDrawn (m.step rules source).machine x y n :=
  ⟨fun d x y _ h => Display.drawn_draw d x y h, fun _ _ _ _ _ _ _ hw h => hasDrawn_of_step hw h⟩

end ChipEight.Machine
