/-
The Mersenne twister.

The generator keeps 624 words of 32 bits.  Reading a number tempers the next of them, and
after the last one all are renewed by the recurrence.  The state is seeded from a list of
words of any length.
-/

namespace ChipEight

/-- The state of the generator. -/
structure Twister where
  /-- The words of the state. -/
  words : Vector UInt32 624
  /-- How many words have been used since they were last renewed. -/
  used : Nat
  deriving DecidableEq

namespace Twister

/-- One of the words of a state; positions wrap around. -/
private def wordAt (words : Vector UInt32 624) (k : Nat) : UInt32 := words[k % 624]

/-- The words with one replaced. -/
private def put (words : Vector UInt32 624) (k : Nat) (w : UInt32) : Vector UInt32 624 :=
  words.set (k % 624) w

/-- A word mixed with its own highest bits, as the seeding uses it. -/
private def fold30 (w : UInt32) : UInt32 := w ^^^ (w >>> 30)

/-- The state grown from a single word. -/
def ofWord (seed : UInt32) : Vector UInt32 624 :=
  (List.range 623).foldl
    (fun words k => put words (k + 1) (1812433253 * fold30 (wordAt words k) + UInt32.ofNat (k + 1)))
    (Vector.replicate 624 seed)

/-- Goes on to the next place to mix: from the last one back to the second, whose
predecessor then takes the value of the last. -/
private def advance (words : Vector UInt32 624) (i : Nat) : Vector UInt32 624 × Nat :=
  if i + 1 < 624 then (words, i + 1) else (put words 0 (wordAt words 623), 1)

/-- Mixes one word of the key into the state. -/
private def mixKey (key : Array UInt32) (s : Vector UInt32 624 × Nat) (k : Nat) :
    Vector UInt32 624 × Nat :=
  let (words, i) := s
  let j := k % key.size
  let mixed := (wordAt words i ^^^ (fold30 (wordAt words (i - 1)) * 1664525)) + key[j]?.getD 0 +
    UInt32.ofNat j
  advance (put words i mixed) i

/-- Mixes the state with itself at one place. -/
private def mixSelf (s : Vector UInt32 624 × Nat) : Vector UInt32 624 × Nat :=
  let (words, i) := s
  let mixed := (wordAt words i ^^^ (fold30 (wordAt words (i - 1)) * 1566083941)) - UInt32.ofNat i
  advance (put words i mixed) i

/-- The generator seeded with a list of words. -/
def ofKey (key : Array UInt32) : Twister :=
  let keyed := (List.range (max 624 key.size)).foldl (mixKey key) (ofWord 19650218, 1)
  let mixed := Nat.repeat mixSelf 623 keyed
  ⟨put mixed.1 0 0x80000000, 624⟩

/-- The words of a number in base 2^32, least significant first; one zero for zero. -/
def keyWords (n : Nat) : List UInt32 :=
  if n < 0x100000000 then [UInt32.ofNat n]
  else UInt32.ofNat (n % 0x100000000) :: keyWords (n / 0x100000000)

/-- The generator seeded with an integer, whose sign does not matter. -/
def ofSeed (seed : Int) : Twister := ofKey (keyWords seed.natAbs).toArray

/-- Renews one word by the recurrence. -/
private def renewWord (words : Vector UInt32 624) (k : Nat) : Vector UInt32 624 :=
  let y := (wordAt words k &&& 0x80000000) ||| (wordAt words (k + 1) &&& 0x7FFFFFFF)
  let twist : UInt32 := if y &&& 1 = 0 then 0 else 0x9908B0DF
  put words k (wordAt words (k + 397) ^^^ (y >>> 1) ^^^ twist)

/-- Renews all words. -/
def renew (words : Vector UInt32 624) : Vector UInt32 624 :=
  (List.range 624).foldl renewWord words

/-- Spreads the bits of a word of the state evenly. -/
def temper (w : UInt32) : UInt32 :=
  let w := w ^^^ (w >>> 11)
  let w := w ^^^ ((w <<< 7) &&& 0x9D2C5680)
  let w := w ^^^ ((w <<< 15) &&& 0xEFC60000)
  w ^^^ (w >>> 18)

/-- The next number of 32 bits. -/
def next (t : Twister) : UInt32 × Twister :=
  if t.used < 624 then (temper (wordAt t.words t.used), { t with used := t.used + 1 })
  else
    let words := renew t.words
    (temper (wordAt words 0), ⟨words, 1⟩)

end Twister
end ChipEight
