/-
What memory holds after a history of updates.

An update names any integer as a position and brings any integers as values.  It is refused if it
touches at least one byte and its first or its last position is outside memory, and then it leaves
no trace; an empty block is never refused.  `Refuses` has a rule for each of the two reasons, and
every kind of access follows them.

What stands at a position afterwards is told by the history alone.  `lastWritten` looks back from
the end of the history to the last time that memory was cleared, and takes the first value that it
meets there for the position; memory holds the low byte of that value, or what it held after
switching on if there is none.
-/
import ChipEight.Proofs.Memory
import Mathlib.Data.List.Induction

namespace ChipEight.Memory

/-! ### Which accesses are refused -/

/-- Why an access to `count` positions from an address on is refused. -/
inductive Refuses (address count : Int) : OutOfRange → Prop
  | first (hcount : 1 ≤ count) (h : address < 0 ∨ 4095 < address) :
      Refuses address count ⟨address⟩
  | last (hcount : 1 ≤ count) (hfirst : 0 ≤ address ∧ address ≤ 4095)
      (h : 4095 < address + count - 1) : Refuses address count ⟨address + count - 1⟩

/-- The positions are all in memory, or there are none. -/
def Fits (address count : Int) : Prop := count < 1 ∨ 0 ≤ address ∧ address + count ≤ 4096

instance (address count : Int) : Decidable (Fits address count) :=
  inferInstanceAs (Decidable (_ ∨ _))

theorem fits_or_refuses (address count : Int) :
    Fits address count ∨ ∃ e, Refuses address count e := by
  by_cases hcount : count < 1
  · exact .inl (.inl hcount)
  by_cases hfirst : address < 0 ∨ 4095 < address
  · exact .inr ⟨_, .first (by omega) hfirst⟩
  by_cases hlast : 4095 < address + count - 1
  · exact .inr ⟨_, .last (by omega) (by omega) hlast⟩
  · exact .inl (.inr (by omega))

theorem Refuses.not_fits {address count : Int} {e : OutOfRange} (h : Refuses address count e) :
    ¬Fits address count := by
  unfold Fits
  cases h <;> omega

theorem check_of_refuses {address count : Int} {e : OutOfRange} (h : Refuses address count e) :
    check address count = .error e := by
  have hsize : (size : Int) = 4096 := rfl
  unfold check
  cases h with
  | first hcount h => rw [if_pos (by omega)]
  | last hcount hfirst h => rw [if_neg (by omega), if_pos (by omega)]

theorem check_of_fits {address count : Int} (hcount : 1 ≤ count) (h : Fits address count) :
    check address count = .ok () := by
  have hsize : (size : Int) = 4096 := rfl
  unfold check
  unfold Fits at h
  rw [if_neg (by omega), if_neg (by omega)]

/-- An access that follows the rules in both directions is refused exactly as they say. -/
theorem error_iff_refuses {α : Type} {address count : Int} {r : Except OutOfRange α} {a : α}
    (hok : Fits address count → r = .ok a)
    (herror : ∀ e, Refuses address count e → r = .error e) (e : OutOfRange) :
    r = .error e ↔ Refuses address count e := by
  refine ⟨fun h => ?_, herror e⟩
  rcases fits_or_refuses address count with hfits | ⟨e', he'⟩
  · rw [hok hfits] at h
    cases h
  · rw [herror e' he'] at h
    exact Except.error.inj h ▸ he'

theorem writeBlock_of_fits (m : Memory) {address : Int} {values : List Byte}
    (h : Fits address values.length) :
    writeBlock address values m = .ok () (m.store address.toNat values) := by
  unfold writeBlock
  cases values with
  | nil => rfl
  | cons b rest =>
      have hcount : 1 ≤ ((b :: rest).length : Int) := by
        rw [List.length_cons]
        omega
      rw [if_neg (by simp), check_of_fits hcount h]
      rfl

theorem writeBlock_of_refuses (m : Memory) {address : Int} {values : List Byte} {e : OutOfRange}
    (h : Refuses address values.length e) : writeBlock address values m = .error e m := by
  unfold writeBlock
  cases values with
  | nil => cases h <;> simp at *
  | cons b rest =>
      rw [if_neg (by simp), check_of_refuses h]
      rfl

theorem readBlock_of_fits (m : Memory) {address count : Int} (h : Fits address count) :
    m.readBlock address count = .ok (m.slice address.toNat count.toNat) := by
  unfold readBlock
  by_cases hcount : count ≤ 0
  · rw [if_pos hcount, Int.toNat_of_nonpos hcount]
    rfl
  · rw [if_neg hcount, check_of_fits (by omega) h]
    rfl

theorem readBlock_of_refuses (m : Memory) {address count : Int} {e : OutOfRange}
    (h : Refuses address count e) : m.readBlock address count = .error e := by
  have hcount : ¬count ≤ 0 := by cases h <;> omega
  unfold readBlock
  rw [if_neg hcount, check_of_refuses h]
  rfl

theorem read_of_fits (m : Memory) {address : Int} (h : Fits address 1) :
    m.read address = .ok (m.byteAt address.toNat) := by
  unfold read
  rw [check_of_fits (by omega) h]
  rfl

theorem read_of_refuses (m : Memory) {address : Int} {e : OutOfRange} (h : Refuses address 1 e) :
    m.read address = .error e := by
  unfold read
  rw [check_of_refuses h]
  rfl

theorem readWord_of_fits (m : Memory) {address : Int} (h : Fits address 2) :
    m.readWord address = .ok (m.wordAt address.toNat) := by
  unfold readWord
  rw [check_of_fits (by omega) h]
  rfl

theorem readWord_of_refuses (m : Memory) {address : Int} {e : OutOfRange}
    (h : Refuses address 2 e) : m.readWord address = .error e := by
  unfold readWord
  rw [check_of_refuses h]
  rfl

/-! ### Updates -/

/-- A request that changes memory. -/
inductive Update where
  | write (address value : Int)
  | writeBlock (address : Int) (values : List Int)
  | load (address : Int) (data : List Byte)
  | clear
  deriving DecidableEq, Repr

namespace Update

/-- Where the update begins to write. -/
def address : Update → Int
  | write address _ => address
  | writeBlock address _ => address
  | load address _ => address
  | clear => 0

/-- The values that the update writes one after the other; clearing writes none. -/
def values : Update → List Int
  | write _ value => [value]
  | writeBlock _ values => values
  | load _ data => data.map fun b => (b.toNat : Int)
  | clear => []

/-- The value that the update writes at a position, if it is accepted and covers it. -/
def valueAt (u : Update) (a : Nat) : Option Int :=
  if Fits u.address u.values.length ∧ u.address ≤ a then u.values[(a - u.address).toNat]?
  else none

end Update

/-- An update as a request to memory. -/
def Update.request : Update → Request
  | write address value => Memory.write address value
  | writeBlock address values => writeValues address values
  | load address data => Memory.load address data
  | clear => modify Memory.clear

/-- The memory that an update leaves, whether it is refused or not. -/
def attempt (m : Memory) (u : Update) : Memory := (u.request m).state

/-- The memory after a history of updates. -/
def after (m : Memory) (history : List Update) : Memory := history.foldl attempt m

/-- The value that was written last at a position since memory was last cleared. -/
def lastWritten (history : List Update) (a : Nat) : Option Int :=
  (history.reverse.takeWhile (· ≠ .clear)).findSome? (·.valueAt a)

/-- What the history says of a position: the last value modulo 256, or the font and zeros. -/
def expected (history : List Update) (a : Nat) : Int :=
  match lastWritten history a with
  | some value => value % 256
  | none => if a < 0x50 then (Font.glyphs.getD a 0).toNat else 0

theorem lowByte_toNat (b : Byte) : lowByte b.toNat = b := by
  simp [lowByte]

theorem toNat_lowByte (value : Int) : ((lowByte value).toNat : Int) = value % 256 := by
  unfold lowByte
  rw [BitVec.toNat_ofInt]
  omega

/-- Writing one value is writing a block of one. -/
theorem write_eq_writeValues (address value : Int) :
    write address value = writeValues address [value] := rfl

/-- Apart from clearing, an update writes the low bytes of its values as a block. -/
theorem request_eq_writeBlock {u : Update} (hu : u ≠ .clear) :
    u.request = writeBlock u.address (u.values.map lowByte) := by
  cases u with
  | write address value => exact write_eq_writeValues address value
  | writeBlock address values => rfl
  | load address data =>
      have hdata : (Update.load address data).values.map lowByte = data := by
        simp [Update.values, Function.comp_def, lowByte_toNat]
      rw [hdata]
      rfl
  | clear => exact absurd rfl hu

theorem request_of_fits (m : Memory) {u : Update} (hu : u ≠ .clear)
    (h : Fits u.address u.values.length) :
    u.request m = .ok () (m.store u.address.toNat (u.values.map lowByte)) := by
  rw [request_eq_writeBlock hu]
  exact writeBlock_of_fits m (by simpa using h)

/-- An update that is refused has written nothing. -/
theorem request_of_refuses (m : Memory) {u : Update} {e : OutOfRange}
    (h : Refuses u.address u.values.length e) : u.request m = .error e m := by
  have hu : u ≠ .clear := by
    intro hu
    rw [hu] at h
    cases h <;> simp [Update.values] at *
  rw [request_eq_writeBlock hu]
  exact writeBlock_of_refuses m (by simpa using h)

theorem request_eq_error_iff (m : Memory) (u : Update) (e : OutOfRange) (m' : Memory) :
    u.request m = .error e m' ↔ Refuses u.address u.values.length e ∧ m' = m := by
  constructor
  · intro h
    by_cases hu : u = .clear
    · rw [hu] at h
      cases h
    · rcases fits_or_refuses u.address u.values.length with hfits | ⟨e', he'⟩
      · rw [request_of_fits m hu hfits] at h
        cases h
      · rw [request_of_refuses m he'] at h
        cases h
        exact ⟨he', rfl⟩
  · rintro ⟨he, rfl⟩
    exact request_of_refuses m' he

theorem attempt_of_refuses (m : Memory) {u : Update} {e : OutOfRange}
    (h : Refuses u.address u.values.length e) : m.attempt u = m := by
  rw [attempt, request_of_refuses m h]
  rfl

/-- The values of a block that fits stand at the positions of the block, which are in memory. -/
theorem valueAt_of_fits {u : Update} (h : Fits u.address u.values.length) (a : Nat) :
    u.valueAt a =
      if u.address.toNat ≤ a ∧ a < size then u.values[a - u.address.toNat]? else none := by
  have hsize : size = 4096 := rfl
  unfold Update.valueAt
  by_cases hempty : u.values.length = 0
  · simp [List.length_eq_zero_iff.mp hempty]
  have hblock : 0 ≤ u.address ∧ u.address + u.values.length ≤ 4096 :=
    h.resolve_left (by omega)
  by_cases hle : u.address ≤ a
  · have hindex : (a - u.address).toNat = a - u.address.toNat := by omega
    rw [if_pos ⟨h, hle⟩, hindex]
    by_cases hlt : a < size
    · rw [if_pos ⟨by omega, hlt⟩]
    · rw [if_neg fun hc => hlt hc.2, List.getElem?_eq_none (by omega)]
  · rw [if_neg fun hc => hle hc.2, if_neg fun hc => hle (by omega)]

/-- One update changes the positions for which it has a value, and no other. -/
theorem byteAt_attempt (m : Memory) {u : Update} (hu : u ≠ .clear) (a : Nat) :
    (m.attempt u).byteAt a = (u.valueAt a).elim (m.byteAt a) lowByte := by
  rcases fits_or_refuses u.address u.values.length with hfits | ⟨e, he⟩
  · have hattempt : m.attempt u = m.store u.address.toNat (u.values.map lowByte) := by
      rw [attempt, request_of_fits m hu hfits]
      rfl
    simp only [hattempt, byteAt_store, valueAt_of_fits hfits, List.getElem?_map]
    split
    · cases u.values[a - u.address.toNat]? <;> rfl
    · rfl
  · rw [attempt_of_refuses m he, Update.valueAt, if_neg fun h => he.not_fits h.1]
    rfl

/-! ### Histories -/

theorem after_append (m : Memory) (earlier later : List Update) :
    m.after (earlier ++ later) = (m.after earlier).after later :=
  List.foldl_append

/-- A refused update can be left out of a history. -/
theorem after_of_refuses (m : Memory) (earlier : List Update) {u : Update} {e : OutOfRange}
    (h : Refuses u.address u.values.length e) (later : List Update) :
    m.after (earlier ++ u :: later) = m.after (earlier ++ later) := by
  rw [after_append, after_append]
  show ((m.after earlier).attempt u).after later = _
  rw [attempt_of_refuses _ h]

theorem lastWritten_clear (history : List Update) (a : Nat) :
    lastWritten (history ++ [.clear]) a = none := by
  simp [lastWritten]

theorem lastWritten_snoc (history : List Update) {u : Update} (hu : u ≠ .clear) (a : Nat) :
    lastWritten (history ++ [u]) a = (u.valueAt a).or (lastWritten history a) := by
  simp only [lastWritten, List.reverse_append, List.reverse_cons, List.reverse_nil,
    List.nil_append, List.singleton_append, List.takeWhile_cons, hu, ne_eq, not_false_eq_true,
    decide_true, if_true, List.findSome?_cons]
  cases u.valueAt a <;> rfl

/-- **Memory holds what was written last.** -/
theorem byteAt_after (history : List Update) (a : Nat) :
    (powerOn.after history).byteAt a =
      (lastWritten history a).elim (powerOn.byteAt a) lowByte := by
  -- The newest update stands at the end, and it decides unless it has no value for the position.
  induction history using List.reverseRecOn with
  | nil => rfl
  | append_singleton history u ih =>
      rw [after_append]
      show ((powerOn.after history).attempt u).byteAt a = _
      by_cases hu : u = .clear
      · subst hu
        rw [lastWritten_clear]
        rfl
      · rw [byteAt_attempt _ hu, lastWritten_snoc history hu, ih]
        cases u.valueAt a <;> rfl

theorem toNat_byteAt_after (history : List Update) (a : Nat) :
    (((powerOn.after history).byteAt a).toNat : Int) = expected history a := by
  rw [byteAt_after]
  unfold expected
  cases lastWritten history a with
  | some value => exact toNat_lowByte value
  | none =>
      show ((powerOn.byteAt a).toNat : Int) = _
      have hglyphs : Font.glyphs.length = 0x50 := by decide
      rw [byteAt_powerOn]
      by_cases ha : a < 0x50
      · rw [if_pos ha, List.getD_eq_getElem?_getD]
      · rw [if_neg ha, List.getElem?_eq_none (by omega)]
        rfl

/-! ### The store as a whole -/

/-- Memory holds the given value at each position, and every access to it follows the rules. -/
structure Holds (m : Memory) (value : Nat → Int) : Prop where
  read : ∀ a : Nat, a < 4096 → ∃ b, m.read a = .ok b ∧ (b.toNat : Int) = value a
  read_refused : ∀ address e, m.read address = .error e ↔ Refuses address 1 e
  /-- An update that is refused has not written any part of its block before. -/
  update_refused : ∀ (u : Update) e m', u.request m = .error e m' ↔
    Refuses u.address u.values.length e ∧ m' = m
  update_accepted : ∀ u : Update, (∃ m', u.request m = .ok () m') ↔ Fits u.address u.values.length
  block_refused : ∀ address count e, m.readBlock address count = .error e ↔ Refuses address count e
  /-- A block is made of the bytes that are read one by one. -/
  block : ∀ address count bytes, m.readBlock address count = .ok bytes →
    bytes.length = count.toNat ∧ ∀ k (hk : k < bytes.length), m.read (address + k) = .ok bytes[k]
  word_refused : ∀ address e, m.readWord address = .error e ↔ Refuses address 2 e
  word_outside : ∀ address, (∃ e, m.readWord address = .error e) ↔ address < 0 ∨ 4094 < address
  /-- A word is made of two bytes that are read one by one, the high one first. -/
  word : ∀ address w, m.readWord address = .ok w →
    ∃ high low, m.read address = .ok high ∧ m.read (address + 1) = .ok low ∧
      w.toNat = 256 * high.toNat + low.toNat

theorem request_accepted_iff (m : Memory) (u : Update) :
    (∃ m', u.request m = .ok () m') ↔ Fits u.address u.values.length := by
  constructor
  · intro ⟨m', hok⟩
    rcases fits_or_refuses u.address u.values.length with hfits | ⟨e, he⟩
    · exact hfits
    · rw [request_of_refuses m he] at hok
      cases hok
  · intro hfits
    by_cases hu : u = .clear
    · exact ⟨powerOn, by rw [hu]; rfl⟩
    · exact ⟨_, request_of_fits m hu hfits⟩

theorem read_of_readBlock {m : Memory} {address count : Int} {bytes : List Byte}
    (h : m.readBlock address count = .ok bytes) :
    bytes.length = count.toNat ∧
      ∀ k (hk : k < bytes.length), m.read (address + k) = .ok bytes[k] := by
  rcases fits_or_refuses address count with hfits | ⟨e, he⟩
  · rw [readBlock_of_fits m hfits] at h
    obtain rfl := Except.ok.inj h
    refine ⟨length_slice m _ _, ?_⟩
    intro k hk
    rw [length_slice] at hk
    unfold Fits at hfits
    have hposition : (address + k).toNat = address.toNat + k := by omega
    rw [read_of_fits m (.inr (by omega)), hposition]
    simp [slice]
  · rw [readBlock_of_refuses m he] at h
    cases h

theorem readWord_outside_iff (m : Memory) (address : Int) :
    (∃ e, m.readWord address = .error e) ↔ address < 0 ∨ 4094 < address := by
  constructor
  · intro ⟨e, he⟩
    by_contra hin
    have hfits : Fits address 2 := .inr (by omega)
    rw [readWord_of_fits m hfits] at he
    cases he
  · intro hout
    rcases fits_or_refuses address 2 with hfits | ⟨e, he⟩
    · unfold Fits at hfits
      omega
    · exact ⟨e, readWord_of_refuses m he⟩

theorem read_of_readWord {m : Memory} {address : Int} {w : Word}
    (h : m.readWord address = .ok w) :
    ∃ high low, m.read address = .ok high ∧ m.read (address + 1) = .ok low ∧
      w.toNat = 256 * high.toNat + low.toNat := by
  rcases fits_or_refuses address 2 with hfits | ⟨e, he⟩
  · rw [readWord_of_fits m hfits] at h
    obtain rfl := Except.ok.inj h
    unfold Fits at hfits
    have hnext : (address + 1).toNat = address.toNat + 1 := by omega
    refine ⟨m.byteAt address.toNat, m.byteAt (address.toNat + 1),
      read_of_fits m (.inr (by omega)), ?_, ?_⟩
    · rw [read_of_fits m (.inr (by omega)), hnext]
    · rw [wordAt, Word.toNat_ofBytes]
      omega
  · rw [readWord_of_refuses m he] at h
    cases h

/-- **Memory is a store of the values that were written last.**  After any history of updates,
among them any that were refused, each position holds the low byte of the last value that was
written there since memory was cleared, or what it held after switching on.  Accesses are refused
by the two rules and for no other reason, and a refused update leaves no trace. -/
theorem last_writer (history : List Update) :
    Holds (powerOn.after history) (expected history) ∧
      ∀ (u : Update) e m', u.request (powerOn.after history) = .error e m' →
        m' = powerOn.after history ∧
          ∀ later, powerOn.after (history ++ u :: later) = powerOn.after (history ++ later) := by
  refine ⟨?_, ?refused⟩
  case refused =>
    intro u e m' h
    obtain ⟨he, hm'⟩ := (request_eq_error_iff _ u e m').mp h
    exact ⟨hm', after_of_refuses powerOn history he⟩
  exact {
    read := fun a ha =>
      ⟨_, read_of_fits _ (.inr (by omega)), toNat_byteAt_after history a⟩
    read_refused := fun address =>
      error_iff_refuses (read_of_fits _) fun _ => read_of_refuses _
    update_refused := request_eq_error_iff _
    update_accepted := request_accepted_iff _
    block_refused := fun address count =>
      error_iff_refuses (readBlock_of_fits _) fun _ => readBlock_of_refuses _
    block := fun _ _ _ => read_of_readBlock
    word_refused := fun address =>
      error_iff_refuses (readWord_of_fits _) fun _ => readWord_of_refuses _
    word_outside := readWord_outside_iff _
    word := fun _ _ => read_of_readWord }

/-- The first block is overwritten in its middle, and the last one would leave memory. -/
example :
    expected [.writeBlock 0x300 [1, 2, 3], .write 0x301 511, .load 0x2FF [4, 5],
      .writeBlock 0xFFF [6, 7]] 0x301 = 255 := by decide

end ChipEight.Memory
