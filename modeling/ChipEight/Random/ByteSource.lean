/-
Sources of random bytes.

The machine asks for one byte at a time.  The bytes come from a generator, or from a list
that is handed out again and again, or they are all zero.
-/
import ChipEight.Word
import ChipEight.Random.Twister

namespace ChipEight

/-- Where random bytes come from. -/
inductive ByteSource where
  /-- Every byte is zero. -/
  | zeros
  /-- The bytes of `all` in turn, from the first again after the last; `rest` is what is left
  of the present turn. -/
  | cycle (all rest : List Byte)
  /-- The bytes of a generator. -/
  | generator (t : Twister)
  deriving DecidableEq

namespace ByteSource

/-- A source that hands out the bytes of a list in turn. -/
def ofBytes (bytes : List Byte) : ByteSource := .cycle bytes bytes

/-- How many numbers the generator may be asked for one byte.  Half of all numbers are
refused, so that this many refusals in a row do not occur. -/
def patience : Nat := 4096

/-- A byte from the generator: the top nine bits of a number, drawn again while they exceed a
byte. -/
def drawByte : Nat → Twister → Byte × Twister
  | 0, t => (0, t)
  | tries + 1, t =>
    let (number, t) := t.next
    let top := (number >>> 23).toNat
    if top < 256 then (BitVec.ofNat 8 top, t) else drawByte tries t

/-- The next byte, and the source after it. -/
def next : ByteSource → Byte × ByteSource
  | zeros => (0, zeros)
  | cycle all (b :: rest) => (b, cycle all rest)
  | cycle [] [] => (0, cycle [] [])
  | cycle (b :: more) [] => (b, cycle (b :: more) more)
  | generator t =>
    let (b, t) := drawByte patience t
    (b, generator t)

/-- The source for a seed; `otherwise` serves where there is none. -/
def ofSeed? (seed : Option Int) (otherwise : ByteSource) : ByteSource :=
  match seed with
  | some n => .generator (Twister.ofSeed n)
  | none => otherwise

end ByteSource
end ChipEight
