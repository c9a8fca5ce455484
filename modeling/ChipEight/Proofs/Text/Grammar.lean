/-
The grammar of numerals.

What counts as a numeral is said here without the reader: digits from a table, single underscores
between them, a marker for base sixteen, a sign, spaces on both sides.  Reading a text of printable
characters gives a number if and only if the text is a numeral, and then it is the number that the
digits denote (`read_eq_ok_iff`).  The parts of the reader are dealt with one by one: the digits,
the marker, the sign, and the spaces.
-/
import ChipEight.Proofs.Text.Ascii
import ChipEight.Text.Numeral
import Mathlib.Data.List.TakeWhile
import Mathlib.Data.Nat.Digits.Defs

namespace ChipEight

/-! ### What a numeral is -/

namespace Numeral

/-- The digits of a base, each row in ascending order. -/
def digitRows : Base → List String
  | .ten => ["0123456789"]
  | .sixteen => ["0123456789abcdef", "0123456789ABCDEF"]

/-- The character is the digit with a value: it has this place in a row. -/
def IsDigit (base : Base) (c : Char) (d : Nat) : Prop :=
  ∃ row ∈ digitRows base, row.toList[d]? = some c

instance (base : Base) (c : Char) (d : Nat) : Decidable (IsDigit base c d) :=
  inferInstanceAs (Decidable (∃ row ∈ digitRows base, row.toList[d]? = some c))

/-- One or more digits, with single underscores between them or none. -/
inductive Digits (base : Base) : List Char → List Nat → Prop
  | last {c : Char} {d : Nat} (h : IsDigit base c d) : Digits base [c] [d]
  | next {c : Char} {d : Nat} {cs : List Char} {ds : List Nat} (h : IsDigit base c d)
      (rest : Digits base cs ds) : Digits base (c :: cs) (d :: ds)
  | apart {c : Char} {d : Nat} {cs : List Char} {ds : List Nat} (h : IsDigit base c d)
      (rest : Digits base cs ds) : Digits base (c :: '_' :: cs) (d :: ds)

/-- The number with the given digits, most significant first. -/
def value (base : Base) (ds : List Nat) : Nat := Nat.ofDigits base.toNat ds.reverse

/-- A marker for base sixteen, at most one underscore, and digits. -/
inductive Marked : List Char → Nat → Prop
  | mk {m : Char} (hm : m = 'x' ∨ m = 'X') {gap : List Char} (hgap : gap = [] ∨ gap = ['_'])
      {cs : List Char} {ds : List Nat} (h : Digits .sixteen cs ds) :
      Marked ('0' :: m :: (gap ++ cs)) (value .sixteen ds)

/-- A numeral without a sign: at most 4300 decimal digits, or hexadecimal digits with a marker or
without. -/
inductive Unsigned : Base → List Char → Nat → Prop
  | decimal {cs : List Char} {ds : List Nat} (h : Digits .ten cs ds) (hlen : ds.length ≤ 4300) :
      Unsigned .ten cs (value .ten ds)
  | plain {cs : List Char} {ds : List Nat} (h : Digits .sixteen cs ds) :
      Unsigned .sixteen cs (value .sixteen ds)
  | marked {cs : List Char} {n : Nat} (h : Marked cs n) : Unsigned .sixteen cs n

/-- A numeral with a sign or without. -/
inductive Signed (base : Base) : List Char → Int → Prop
  | bare {cs : List Char} {n : Nat} (h : Unsigned base cs n) : Signed base cs n
  | plus {cs : List Char} {n : Nat} (h : Unsigned base cs n) : Signed base ('+' :: cs) n
  | minus {cs : List Char} {n : Nat} (h : Unsigned base cs n) : Signed base ('-' :: cs) (-n)

end Numeral

/-- Nothing but spaces. -/
def Text.spaces (k : Nat) : List Char := List.replicate k ' '

theorem Text.spaces_zero : spaces 0 = [] := rfl

theorem Text.spaces_succ (k : Nat) : spaces (k + 1) = ' ' :: spaces k := rfl

theorem Text.mem_spaces {k : Nat} {c : Char} (h : c ∈ spaces k) : c = ' ' :=
  List.eq_of_mem_replicate h

/-- A printable character of the first 128, the space among them. -/
def Text.IsShown (c : Char) : Prop := 0x20 ≤ c.toNat ∧ c.toNat ≤ 0x7E

instance : DecidablePred Text.IsShown := fun c =>
  inferInstanceAs (Decidable (0x20 ≤ c.toNat ∧ c.toNat ≤ 0x7E))

theorem Text.IsShown.isAscii {c : Char} (hc : IsShown c) : IsAscii c :=
  Nat.lt_of_le_of_lt hc.2 (by decide)

namespace Numeral

open Text (IsAscii IsShown spaces trim isPadding)

variable {base : Base} {c : Char} {d : Nat} {cs : List Char} {ds : List Nat} {n : Nat}

/-! ### Digits -/

theorem digitValue?_underscore (base : Base) : digitValue? base '_' = none := by
  cases base <;> decide

theorem digitValue?_of_isDigit (h : IsDigit base c d) : digitValue? base c = some d := by
  obtain ⟨row, hrow, hget⟩ := h
  have hrows : ∀ base, ∀ row ∈ digitRows base,
      row.toList.map (digitValue? base) = (List.range row.toList.length).map some := by
    intro base
    cases base <;> decide +kernel
  obtain ⟨hd, hc⟩ := List.getElem?_eq_some_iff.mp hget
  have hvalue := congrArg (·[d]?) (hrows base row hrow)
  simpa [hd, hc] using hvalue

theorem isDigit_of_digitValue? (hc : IsAscii c) (h : digitValue? base c = some d) :
    IsDigit base c d := by
  have hvalue {c : Char} (hc : IsAscii c) : digitValue? base c =
      match base with
      | .ten => if c.isDigit then some (c.toNat - 48) else none
      | .sixteen => (if c.isDigit then some (c.toNat - 48) else none).or (letterValue? c) := by
    cases base <;> simp only [digitValue?, Text.decimalValue?_ascii hc]
  rw [hvalue hc] at h
  cases base with
  | ten =>
      exact Text.forall_ascii (p := fun c => ∀ d ∈ if c.isDigit then some (c.toNat - 48) else none,
        IsDigit .ten c d) (by decide +kernel) hc d h
  | sixteen =>
      exact Text.forall_ascii (p := fun c =>
        ∀ d ∈ (if c.isDigit then some (c.toNat - 48) else none).or (letterValue? c),
        IsDigit .sixteen c d) (by decide +kernel) hc d h

/-- Digits begin with a digit. -/
theorem Digits.head (h : Digits base cs ds) : ∃ c rest d, cs = c :: rest ∧ IsDigit base c d := by
  cases h with
  | last h => exact ⟨_, _, _, rfl, h⟩
  | next h _ => exact ⟨_, _, _, rfl, h⟩
  | apart h _ => exact ⟨_, _, _, rfl, h⟩

theorem Digits.ne_underscore (h : Digits base cs ds) (rest : List Char) : cs ≠ '_' :: rest := by
  rintro rfl
  obtain ⟨c, _, d, hcons, hdigit⟩ := h.head
  obtain ⟨rfl, -⟩ := List.cons.inj hcons
  cases (digitValue?_underscore base).symm.trans (digitValue?_of_isDigit hdigit)

theorem digits?_of_digits (h : Digits base cs ds) : digits? base cs = some ds := by
  induction h with
  | last h => simp [digits?, digitValue?_of_isDigit h]
  | apart h _ ih => simp [digits?, digitValue?_of_isDigit h, ih]
  | next h rest ih =>
      obtain ⟨c', cs', d', rfl, -⟩ := rest.head
      have hne : c' ≠ '_' := fun heq => rest.ne_underscore cs' (by rw [heq])
      simp [digits?, hne, digitValue?_of_isDigit h, ih]

theorem digits_of_digits? (hcs : ∀ c ∈ cs, IsAscii c) (h : digits? base cs = some ds) :
    Digits base cs ds := by
  induction cs using digits?.induct generalizing ds with
  | case1 => cases h
  | case2 c =>
      obtain ⟨d, hd, rfl⟩ := Option.map_eq_some_iff.mp h
      exact .last (isDigit_of_digitValue? (hcs c List.mem_cons_self) hd)
  | case3 c rest ih =>
      obtain ⟨hc, -, hrest⟩ : IsAscii c ∧ IsAscii '_' ∧ ∀ c ∈ rest, IsAscii c := by simpa using hcs
      simp only [digits?, Option.bind_eq_bind, Option.bind_eq_some_iff, Option.pure_def,
        Option.some_inj] at h
      obtain ⟨d, hd, ds, hds, rfl⟩ := h
      exact .apart (isDigit_of_digitValue? hc hd) (ih hrest hds)
  | case4 c rest hne hgap ih =>
      obtain ⟨hc, hrest⟩ := List.forall_mem_cons.mp hcs
      simp only [digits?.eq_4 _ _ _ hne hgap, Option.bind_eq_bind, Option.bind_eq_some_iff,
        Option.pure_def, Option.some_inj] at h
      obtain ⟨d, hd, ds, hds, rfl⟩ := h
      exact .next (isDigit_of_digitValue? hc hd) (ih hrest hds)

/-- **The digits that are read are those of the grammar.** -/
theorem digits?_eq_some_iff (hcs : ∀ c ∈ cs, IsAscii c) :
    digits? base cs = some ds ↔ Digits base cs ds :=
  ⟨digits_of_digits? hcs, digits?_of_digits⟩

theorem isBody_of_digits (h : Digits base cs ds) : ∀ c ∈ cs, isBody base c = true := by
  have hdigit {c : Char} {d : Nat} (h : IsDigit base c d) : isBody base c = true := by
    simp [isBody, digitValue?_of_isDigit h]
  have hgap : isBody base '_' = true := by simp [isBody]
  induction h with
  | last h => exact List.forall_mem_singleton.mpr (hdigit h)
  | next h _ ih => exact List.forall_mem_cons.mpr ⟨hdigit h, ih⟩
  | apart h _ ih => exact List.forall_mem_cons.mpr ⟨hdigit h, List.forall_mem_cons.mpr ⟨hgap, ih⟩⟩

theorem ofDigits_eq_value (ds : List Nat) : ofDigits base ds = value base ds := by
  rw [value, Nat.ofDigits_eq_foldr, List.foldr_reverse, ofDigits]
  simp [Nat.add_comm, Nat.mul_comm]

/-! ### The marker -/

/-- The characters in which digits are looked for. -/
def unmarked (base : Base) (cs : List Char) : List Char :=
  if base = .sixteen then dropMarker cs else cs

section Marker

variable {z m : Char} {rest : List Char}

theorem dropMarker_gap (h : Text.decimalValue? z = some 0 ∧ (m = 'x' ∨ m = 'X')) :
    dropMarker (z :: m :: '_' :: rest) = rest :=
  if_pos h

theorem dropMarker_no_gap (h : Text.decimalValue? z = some 0 ∧ (m = 'x' ∨ m = 'X'))
    (hgap : ∀ rest', rest ≠ '_' :: rest') : dropMarker (z :: m :: rest) = rest := by
  rw [dropMarker, if_pos h]
  exact hgap

theorem dropMarker_of_not (h : ¬(Text.decimalValue? z = some 0 ∧ (m = 'x' ∨ m = 'X'))) :
    dropMarker (z :: m :: rest) = z :: m :: rest := by
  unfold dropMarker
  exact if_neg h

end Marker

/-- A marker is dropped, or there is none. -/
theorem dropMarker_cases (hcs : ∀ c ∈ cs, IsAscii c) :
    dropMarker cs = cs ∨ ∃ m gap rest, cs = '0' :: m :: (gap ++ rest) ∧ (m = 'x' ∨ m = 'X') ∧
      (gap = [] ∨ gap = ['_']) ∧ dropMarker cs = rest := by
  match cs, hcs with
  | [], _ => exact .inl rfl
  | [_], _ => exact .inl rfl
  | z :: m :: rest, hcs =>
      by_cases h : Text.decimalValue? z = some 0 ∧ (m = 'x' ∨ m = 'X')
      · have hzero : z = '0' := by
          have hvalue : digitValue? .ten z = some 0 := h.1
          obtain ⟨row, hrow, hget⟩ := isDigit_of_digitValue? (hcs z List.mem_cons_self) hvalue
          obtain rfl := List.mem_singleton.mp hrow
          exact (Option.some.inj hget).symm
        subst hzero
        by_cases hgap : ∃ rest', rest = '_' :: rest'
        · obtain ⟨rest', rfl⟩ := hgap
          exact .inr ⟨m, ['_'], rest', rfl, h.2, .inr rfl, dropMarker_gap h⟩
        · have hnot : ∀ rest', rest ≠ '_' :: rest' := fun rest' heq => hgap ⟨rest', heq⟩
          exact .inr ⟨m, [], rest, rfl, h.2, .inl rfl, dropMarker_no_gap h hnot⟩
      · exact .inl (dropMarker_of_not h)

/-- Digits alone hold no marker. -/
theorem dropMarker_of_digits (h : Digits .sixteen cs ds) : dropMarker cs = cs := by
  have hbody := isBody_of_digits h
  match cs, hbody with
  | [], _ => rfl
  | [_], _ => rfl
  | z :: m :: rest, hbody =>
      have hm : isBody .sixteen m = true := hbody m (by simp)
      have hnot : ¬(m = 'x' ∨ m = 'X') := by
        rintro (rfl | rfl) <;> revert hm <;> decide
      exact dropMarker_of_not fun h => hnot h.2

theorem dropMarker_of_marked {m : Char} (hm : m = 'x' ∨ m = 'X') {gap : List Char}
    (hgap : gap = [] ∨ gap = ['_']) (h : Digits .sixteen cs ds) :
    dropMarker ('0' :: m :: (gap ++ cs)) = cs := by
  have hzero : Text.decimalValue? '0' = some 0 :=
    digitValue?_of_isDigit (show IsDigit .ten '0' 0 by decide)
  obtain rfl | rfl := hgap
  · exact dropMarker_no_gap ⟨hzero, hm⟩ h.ne_underscore
  · exact dropMarker_gap ⟨hzero, hm⟩

/-- **The numerals without a sign** are the digits that are left after a marker. -/
theorem unsigned_iff (hcs : ∀ c ∈ cs, IsAscii c) :
    Unsigned base cs n ↔ ∃ ds, Digits base (unmarked base cs) ds ∧
      (base = .ten → ds.length ≤ 4300) ∧ value base ds = n := by
  constructor
  · intro h
    cases h with
    | decimal h hlen => exact ⟨_, h, fun _ => hlen, rfl⟩
    | plain h =>
        refine ⟨_, ?_, nofun, rfl⟩
        rwa [unmarked, if_pos rfl, dropMarker_of_digits h]
    | marked h =>
        obtain ⟨hm, hgap, h⟩ := h
        refine ⟨_, ?_, nofun, rfl⟩
        rwa [unmarked, if_pos rfl, dropMarker_of_marked hm hgap h]
  · rintro ⟨ds, h, hlen, rfl⟩
    cases base with
    | ten => exact .decimal h (hlen rfl)
    | sixteen =>
        rw [unmarked, if_pos rfl] at h
        rcases dropMarker_cases hcs with hdrop | ⟨m, gap, rest, rfl, hm, hgap, hdrop⟩
        · rw [hdrop] at h
          exact .plain h
        · rw [hdrop] at h
          exact .marked (.mk hm hgap h)

/-! ### The whole body -/

theorem leading?_eq_some_iff (hcs : ∀ c ∈ cs, IsAscii c) :
    leading? base cs = some (ds, []) ↔ Digits base (unmarked base cs) ds := by
  have hascii : ∀ c ∈ unmarked base cs, IsAscii c := by
    intro c hc
    rw [unmarked] at hc
    split at hc
    · rcases dropMarker_cases hcs with hdrop | ⟨m, gap, rest, rfl, -, -, hdrop⟩
      · exact hcs c (hdrop ▸ hc)
      · rw [hdrop] at hc
        exact hcs c (by simp [hc])
    · exact hcs c hc
  have hleading : leading? base cs = (digits? base ((unmarked base cs).takeWhile (isBody base))).map
      (·, (unmarked base cs).dropWhile (isBody base)) := rfl
  rw [hleading, ← digits?_eq_some_iff hascii, Option.map_eq_some_iff]
  constructor
  · rintro ⟨ds', hds, hpair⟩
    obtain ⟨rfl, hrest⟩ := Prod.mk.inj hpair
    have hall : (unmarked base cs).takeWhile (isBody base) = unmarked base cs := by
      have hsplit := List.takeWhile_append_dropWhile (p := isBody base) (l := unmarked base cs)
      rwa [hrest, List.append_nil] at hsplit
    rwa [hall] at hds
  · intro hds
    have hbody := isBody_of_digits (digits_of_digits? hascii hds)
    rw [List.takeWhile_eq_self_iff.mpr hbody, List.dropWhile_eq_nil_iff.mpr hbody]
    exact ⟨ds, hds, rfl⟩

/-! ### The sign -/

theorem digitValue?_sign (base : Base) :
    digitValue? base '-' = none ∧ digitValue? base '+' = none := by
  cases base <;> decide

theorem Unsigned.head (h : Unsigned base cs n) : ∃ c rest d, cs = c :: rest ∧ IsDigit base c d := by
  cases h with
  | decimal h _ => exact h.head
  | plain h => exact h.head
  | marked h =>
      obtain ⟨_, _, _⟩ := h
      exact ⟨_, _, 0, rfl, by decide⟩

/-- What has no sign is left alone. -/
theorem splitSign_of_unsigned (h : Unsigned base cs n) : splitSign cs = (false, cs) := by
  obtain ⟨c, rest, d, rfl, hdigit⟩ := h.head
  have hvalue := digitValue?_of_isDigit hdigit
  unfold splitSign
  split
  next heq =>
    obtain ⟨rfl, -⟩ := List.cons.inj heq
    cases (digitValue?_sign base).1.symm.trans hvalue
  next heq =>
    obtain ⟨rfl, -⟩ := List.cons.inj heq
    cases (digitValue?_sign base).2.symm.trans hvalue
  next => rfl

/-- **The numerals** are those without a sign, after a sign or without. -/
theorem signed_iff {n : Int} :
    Signed base cs n ↔ ∃ v : Nat, Unsigned base (splitSign cs).2 v ∧
      n = if (splitSign cs).1 then -(v : Int) else v := by
  constructor
  · intro h
    cases h with
    | bare h =>
        rw [splitSign_of_unsigned h]
        exact ⟨_, h, rfl⟩
    | plus h => exact ⟨_, h, rfl⟩
    | minus h => exact ⟨_, h, rfl⟩
  · rintro ⟨v, h, rfl⟩
    unfold splitSign at h ⊢
    split at h
    · exact .minus h
    · exact .plus h
    · exact .bare h

/-! ### The spaces around -/

/-- The characters of numerals. -/
def alphabet : List Char := "0123456789abcdefABCDEF_xX+-".toList

theorem mem_alphabet_of_isDigit (h : IsDigit base c d) : c ∈ alphabet := by
  obtain ⟨row, hrow, hget⟩ := h
  have hrows : ∀ base, ∀ row ∈ digitRows base,
      (row.toList.all fun c => decide (c ∈ alphabet)) = true := by
    intro base
    cases base <;> decide
  exact Text.forall_mem_of_all (hrows base row hrow) c (List.mem_of_getElem? hget)

theorem Digits.mem_alphabet (h : Digits base cs ds) : ∀ c ∈ cs, c ∈ alphabet := by
  induction h with
  | last h => exact List.forall_mem_singleton.mpr (mem_alphabet_of_isDigit h)
  | next h _ ih => exact List.forall_mem_cons.mpr ⟨mem_alphabet_of_isDigit h, ih⟩
  | apart h _ ih =>
      exact List.forall_mem_cons.mpr ⟨mem_alphabet_of_isDigit h,
        List.forall_mem_cons.mpr ⟨by decide, ih⟩⟩

theorem Marked.mem_alphabet (h : Marked cs n) : ∀ c ∈ cs, c ∈ alphabet := by
  obtain ⟨hm, hgap, h⟩ := h
  refine List.forall_mem_cons.mpr ⟨by decide, List.forall_mem_cons.mpr ⟨?_, ?_⟩⟩
  · obtain rfl | rfl := hm <;> decide
  · refine List.forall_mem_append.mpr ⟨?_, h.mem_alphabet⟩
    obtain rfl | rfl := hgap
    · exact List.forall_mem_nil _
    · exact List.forall_mem_singleton.mpr (by decide)

theorem Unsigned.mem_alphabet (h : Unsigned base cs n) : ∀ c ∈ cs, c ∈ alphabet := by
  cases h with
  | decimal h _ => exact h.mem_alphabet
  | plain h => exact h.mem_alphabet
  | marked h => exact h.mem_alphabet

theorem Signed.mem_alphabet {n : Int} (h : Signed base cs n) : ∀ c ∈ cs, c ∈ alphabet := by
  cases h with
  | bare h => exact h.mem_alphabet
  | plus h => exact List.forall_mem_cons.mpr ⟨by decide, h.mem_alphabet⟩
  | minus h => exact List.forall_mem_cons.mpr ⟨by decide, h.mem_alphabet⟩

theorem isShown_of_mem_alphabet : ∀ c ∈ alphabet, IsShown c := Text.forall_mem_of_all (by decide)

theorem isPadding_of_mem_alphabet : ∀ c ∈ alphabet, isPadding c = false :=
  Text.forall_mem_of_all (by decide)

end Numeral

namespace Text

variable {p : Char → Bool} {cs : List Char}

/-- A text is what is left of it after trimming, with trimmed characters on both sides. -/
theorem exists_trim (p : Char → Bool) (cs : List Char) :
    ∃ front back, cs = front ++ trim p cs ++ back ∧
      (∀ c ∈ front, p c = true) ∧ ∀ c ∈ back, p c = true := by
  have hback := List.takeWhile_append_dropWhile (p := p) (l := (cs.dropWhile p).reverse)
  refine ⟨cs.takeWhile p, ((cs.dropWhile p).reverse.takeWhile p).reverse, ?_, ?_, ?_⟩
  · rw [List.append_assoc, trim, ← List.reverse_append, hback, List.reverse_reverse,
      List.takeWhile_append_dropWhile]
  · exact fun c hc => List.mem_takeWhile_imp hc
  · exact fun c hc => List.mem_takeWhile_imp (List.mem_reverse.mp hc)

theorem dropWhile_eq_self (h : ∀ c ∈ cs, p c = false) : cs.dropWhile p = cs := by
  cases cs with
  | nil => rfl
  | cons c rest => rw [List.dropWhile_cons_of_neg (by simp [h c List.mem_cons_self])]

theorem trim_padded {front body back : List Char} (hfront : ∀ c ∈ front, p c = true)
    (hbody : ∀ c ∈ body, p c = false) (hback : ∀ c ∈ back, p c = true) :
    trim p (front ++ body ++ back) = body := by
  rw [trim, List.append_assoc, List.dropWhile_append_of_pos hfront]
  cases body with
  | nil => rw [List.nil_append, List.dropWhile_eq_nil_iff.mpr hback]; rfl
  | cons c rest =>
      have hc : ¬p c = true := by simp [hbody c List.mem_cons_self]
      have hbody' : ∀ a ∈ (c :: rest).reverse, p a = false := fun a ha =>
        hbody a (List.mem_reverse.mp ha)
      have hback' : ∀ a ∈ back.reverse, p a = true := fun a ha => hback a (List.mem_reverse.mp ha)
      rw [List.cons_append, List.dropWhile_cons_of_neg hc, ← List.cons_append, List.reverse_append,
        List.dropWhile_append_of_pos hback', dropWhile_eq_self hbody', List.reverse_reverse]

/-- Among printable characters nothing but the space is trimmed. -/
theorem eq_space_of_isPadding {c : Char} (hc : IsShown c) (h : isPadding c = true) : c = ' ' :=
  forall_ascii (p := fun c => 0x20 ≤ c.toNat → isPadding c = true → c = ' ') (by decide +kernel)
    hc.isAscii hc.1 h

end Text

namespace Numeral

open Text (IsAscii IsShown spaces trim isPadding)

variable {base : Base}

/-- What a text is read as, in terms of its trimmed characters. -/
theorem read_eq_ok_iff_digits {text : String} {n : Int} :
    read base text = .ok n ↔
      ∃ ds, leading? base (splitSign (trim isPadding text.toList)).2 = some (ds, []) ∧
        (base = .ten → ds.length ≤ 4300) ∧
        n = if (splitSign (trim isPadding text.toList)).1 then -(ofDigits base ds : Int)
          else ofDigits base ds := by
  simp only [read]
  rcases splitSign (trim isPadding text.toList) with ⟨negative, body⟩
  have hrefused {e : Error} : ¬(.error e : Except Error Int) = .ok n := fun h => by cases h
  rcases leading? base body with _ | ⟨ds, rest⟩
  · exact iff_of_false hrefused (by rintro ⟨_, h, -⟩; cases h)
  · simp only [Option.some_inj, Prod.mk.injEq]
    by_cases hlong : base = .ten ∧ maxDecimalDigits < ds.length
    · rw [if_pos hlong]
      refine iff_of_false hrefused ?_
      rintro ⟨_, ⟨rfl, -⟩, hlen, -⟩
      exact Nat.not_lt.mpr (hlen hlong.1) hlong.2
    · rw [if_neg hlong]
      have hlen : base = .ten → ds.length ≤ 4300 := fun hbase =>
        Nat.not_lt.mp fun hlt => hlong ⟨hbase, hlt⟩
      cases rest with
      | nil =>
          rw [if_neg (by simp), Except.ok.injEq]
          constructor
          · rintro rfl
            exact ⟨ds, ⟨rfl, rfl⟩, hlen, rfl⟩
          · rintro ⟨_, ⟨rfl, -⟩, -, rfl⟩
            rfl
      | cons c rest =>
          rw [if_pos (by simp)]
          exact iff_of_false hrefused (by rintro ⟨_, ⟨-, h⟩, -⟩; cases h)

/-- A text of ASCII characters is read as a number if and only if what is left of it after trimming
is a numeral of this number. -/
theorem read_eq_ok_iff_signed {text : String} (htext : ∀ c ∈ text.toList, IsAscii c) {n : Int} :
    read base text = .ok n ↔ Signed base (trim isPadding text.toList) n := by
  have hbody : ∀ c ∈ (splitSign (trim isPadding text.toList)).2, IsAscii c := by
    obtain ⟨front, back, htrim, -, -⟩ := Text.exists_trim isPadding text.toList
    rw [htrim] at htext
    generalize trim isPadding text.toList = cs at htext ⊢
    unfold splitSign
    split <;> exact fun c hc => htext c (by simp [hc])
  rw [read_eq_ok_iff_digits, signed_iff]
  simp only [unsigned_iff hbody, leading?_eq_some_iff hbody, ofDigits_eq_value]
  constructor
  · rintro ⟨ds, hds, hlen, rfl⟩
    exact ⟨_, ⟨ds, hds, hlen, rfl⟩, rfl⟩
  · rintro ⟨_, ⟨ds, hds, hlen, rfl⟩, rfl⟩
    exact ⟨ds, hds, hlen, rfl⟩

/-- **Reading is the grammar.**  A text of printable characters is read as a number if and only if
it is a numeral of this number with spaces around it. -/
theorem read_eq_ok_iff {text : String} (htext : ∀ c ∈ text.toList, IsShown c) {n : Int} :
    read base text = .ok n ↔
      ∃ i j body, text.toList = spaces i ++ body ++ spaces j ∧ Signed base body n := by
  rw [read_eq_ok_iff_signed fun c hc => (htext c hc).isAscii]
  have hspace : isPadding ' ' = true := by decide
  constructor
  · intro h
    obtain ⟨front, back, htrim, hfront, hback⟩ := Text.exists_trim isPadding text.toList
    have hshown : ∀ c ∈ front ++ trim isPadding text.toList ++ back, IsShown c := htrim ▸ htext
    have hfront' : front = spaces front.length := List.eq_replicate_iff.mpr ⟨rfl, fun c hc =>
      Text.eq_space_of_isPadding (hshown c (by simp [hc])) (hfront c hc)⟩
    have hback' : back = spaces back.length := List.eq_replicate_iff.mpr ⟨rfl, fun c hc =>
      Text.eq_space_of_isPadding (hshown c (by simp [hc])) (hback c hc)⟩
    exact ⟨front.length, back.length, _, by rw [← hfront', ← hback', ← htrim], h⟩
  · rintro ⟨i, j, body, htext, h⟩
    have hspaces (k : Nat) : ∀ c ∈ spaces k, isPadding c = true := fun c hc => by
      rw [Text.mem_spaces hc, hspace]
    have hbody : ∀ c ∈ body, isPadding c = false := fun c hc =>
      isPadding_of_mem_alphabet c (h.mem_alphabet c hc)
    rwa [htext, Text.trim_padded (hspaces i) hbody (hspaces j)]

theorem read_of_signed {text : String} {n : Int} (h : Signed base text.toList n) :
    read base text = .ok n := by
  have hshown : ∀ c ∈ text.toList, IsShown c := fun c hc =>
    isShown_of_mem_alphabet c (h.mem_alphabet c hc)
  refine (read_eq_ok_iff hshown).mpr ⟨0, 0, text.toList, ?_, h⟩
  rw [Text.spaces_zero, List.append_nil, List.nil_append]

end Numeral
end ChipEight
