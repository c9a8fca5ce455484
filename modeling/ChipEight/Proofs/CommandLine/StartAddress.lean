/-
Which texts are addresses.

An address on the command line is a numeral in one of three forms (`IsAddress`), and which of them
is decided by how the text begins, before anything is stripped from it: after `0x` only trailing
spaces are allowed and no sign, after a dollar sign there may be spaces, a sign and a marker, and
everything else is decimal.  Among texts of printable characters those that are read are exactly
the addresses, and what a listing or a number shows is read back.
-/
import ChipEight.CommandLine.Program
import ChipEight.Proofs.Text.Spelling

namespace ChipEight.CommandLine

open Numeral (Marked Signed Unsigned Digits Base)
open Text (IsShown spaces)

/-! ### What an address is -/

/-- The text begins as no decimal address does. -/
def BeginsHexadecimal (cs : List Char) : Prop :=
  ['0', 'x'] <+: cs ∨ ['0', 'X'] <+: cs ∨ ['$'] <+: cs

/-- The addresses, with their numbers. -/
inductive IsAddress : List Char → Int → Prop
  /-- After a marker, digits of base sixteen and spaces. -/
  | marked {body : List Char} {n : Nat} (h : Marked body n) (i : Nat) :
      IsAddress (body ++ spaces i) n
  /-- After a dollar sign, a signed numeral of base sixteen with spaces around it. -/
  | dollar {body : List Char} {n : Int} (h : Signed .sixteen body n) (i j : Nat) :
      IsAddress ('$' :: (spaces i ++ body ++ spaces j)) n
  /-- Otherwise, a signed numeral of base ten with spaces around it. -/
  | decimal {body : List Char} {n : Int} (h : Signed .ten body n) (i j : Nat)
      (hfront : ¬BeginsHexadecimal (spaces i ++ body ++ spaces j)) :
      IsAddress (spaces i ++ body ++ spaces j) n

/-! ### The three ways to read -/

variable {text : String} {rest : List Char} {m : Char} {n : Int}

theorem parseAddress_dollar (htext : text.toList = '$' :: rest) :
    parseAddress text = (Numeral.read .sixteen (String.ofList rest)).toOption := by
  simp only [parseAddress, htext]

theorem parseAddress_marked (htext : text.toList = '0' :: m :: rest) (hm : m = 'x' ∨ m = 'X') :
    parseAddress text = (Numeral.read .sixteen text).toOption := by
  obtain rfl | rfl := hm <;> simp only [parseAddress, htext]

theorem parseAddress_decimal (htext : ¬BeginsHexadecimal text.toList) :
    parseAddress text = (Numeral.read .ten text).toOption := by
  unfold parseAddress
  split
  next heq => exact absurd (.inr (.inr (heq ▸ ⟨_, rfl⟩))) htext
  next heq => exact absurd (.inl (heq ▸ ⟨_, rfl⟩)) htext
  next heq => exact absurd (.inr (.inl (heq ▸ ⟨_, rfl⟩))) htext
  next => rfl

theorem toOption_eq_some_iff {ε α : Type} {r : Except ε α} {a : α} :
    r.toOption = some a ↔ r = .ok a := by
  cases r <;> simp [Except.toOption]

/-! ### What is read is an address -/

/-- A numeral that begins with a marker has no sign and no spaces in front of it. -/
theorem marked_of_signed {i j : Nat} {body : List Char} (h : Signed .sixteen body n)
    (hm : m = 'x' ∨ m = 'X') (heq : '0' :: m :: rest = spaces i ++ body ++ spaces j) :
    ∃ k : Nat, Marked body k ∧ n = k ∧ '0' :: m :: rest = body ++ spaces j := by
  cases i with
  | succ i => simp [Text.spaces_succ] at heq
  | zero =>
      replace heq : '0' :: m :: rest = body ++ spaces j := heq
      cases h with
      | plus _ => simp at heq
      | minus _ => simp at heq
      | bare h =>
          cases h with
          | marked h => exact ⟨_, h, rfl, heq⟩
          | plain h =>
              -- The letter of the marker is neither a digit nor a space.
              obtain ⟨c, body, _, rfl, -⟩ := h.head
              have htail : m :: rest = body ++ spaces j := (List.cons.inj heq).2
              have hmem : m ∈ body ++ spaces j := htail ▸ List.mem_cons_self
              exfalso
              rcases List.mem_append.mp hmem with hbody | hspace
              · have hdigit := Numeral.isBody_of_digits h m (List.mem_cons_of_mem _ hbody)
                obtain rfl | rfl := hm <;> revert hdigit <;> decide
              · have hspace' := Text.mem_spaces hspace
                subst hspace'
                revert hm
                decide

theorem begins_of_marked {body : List Char} {k : Nat} (h : Marked body k) :
    ∃ m rest, body = '0' :: m :: rest ∧ (m = 'x' ∨ m = 'X') := by
  obtain ⟨hm, -, -⟩ := h
  exact ⟨_, _, rfl, hm⟩

section IsShown

variable (htext : ∀ c ∈ text.toList, IsShown c)
include htext

/-- After a dollar sign. -/
theorem parseAddress_dollar_iff (hrest : text.toList = '$' :: rest) :
    parseAddress text = some n ↔ IsAddress text.toList n := by
  have hshown : ∀ c ∈ (String.ofList rest).toList, IsShown c := fun c hc =>
    htext c (by simpa [hrest] using .inr (by simpa using hc))
  rw [parseAddress_dollar hrest, toOption_eq_some_iff, Numeral.read_eq_ok_iff hshown,
    String.toList_ofList, hrest]
  constructor
  · rintro ⟨i, j, body, rfl, h⟩
    exact .dollar h i j
  · generalize hcs : '$' :: rest = cs
    intro h
    cases h with
    | marked h i =>
        obtain ⟨m, tail, rfl, -⟩ := begins_of_marked h
        simp at hcs
    | dollar h i j => exact ⟨i, j, _, (List.cons.inj hcs).2, h⟩
    | decimal h i j hfront => exact absurd (.inr (.inr (hcs ▸ ⟨rest, rfl⟩))) hfront

/-- After a marker. -/
theorem parseAddress_marked_iff (hrest : text.toList = '0' :: m :: rest)
    (hm : m = 'x' ∨ m = 'X') : parseAddress text = some n ↔ IsAddress text.toList n := by
  rw [parseAddress_marked hrest hm, toOption_eq_some_iff, Numeral.read_eq_ok_iff htext, hrest]
  constructor
  · rintro ⟨i, j, body, heq, h⟩
    obtain ⟨k, hmarked, rfl, heq⟩ := marked_of_signed h hm heq
    rw [heq]
    exact .marked hmarked j
  · generalize hcs : '0' :: m :: rest = cs
    intro h
    cases h with
    | marked h i => exact ⟨0, i, _, rfl, .bare (.marked h)⟩
    | dollar h i j => simp at hcs
    | decimal h i j hfront =>
        have hbegins : BeginsHexadecimal ('0' :: m :: rest) := by
          obtain rfl | rfl := hm
          · exact .inl ⟨rest, rfl⟩
          · exact .inr (.inl ⟨rest, rfl⟩)
        exact absurd (hcs ▸ hbegins) hfront

/-- Otherwise. -/
theorem parseAddress_decimal_iff (hfront : ¬BeginsHexadecimal text.toList) :
    parseAddress text = some n ↔ IsAddress text.toList n := by
  rw [parseAddress_decimal hfront, toOption_eq_some_iff, Numeral.read_eq_ok_iff htext]
  constructor
  · rintro ⟨i, j, body, heq, h⟩
    rw [heq] at hfront ⊢
    exact .decimal h i j hfront
  · generalize text.toList = cs at hfront
    intro h
    cases h with
    | marked h i =>
        obtain ⟨m, tail, rfl, rfl | rfl⟩ := begins_of_marked h
        · exact absurd (.inl ⟨_, rfl⟩) hfront
        · exact absurd (.inr (.inl ⟨_, rfl⟩)) hfront
    | dollar h i j => exact absurd (.inr (.inr ⟨_, rfl⟩)) hfront
    | decimal h i j _ => exact ⟨i, j, _, rfl, h⟩

/-- **What is read is an address.** -/
theorem parseAddress_eq_some_iff : parseAddress text = some n ↔ IsAddress text.toList n := by
  by_cases hfront : BeginsHexadecimal text.toList
  · rcases hfront with ⟨rest, hrest⟩ | ⟨rest, hrest⟩ | ⟨rest, hrest⟩
    · exact parseAddress_marked_iff htext hrest.symm (.inl rfl)
    · exact parseAddress_marked_iff htext hrest.symm (.inr rfl)
    · exact parseAddress_dollar_iff htext hrest.symm
  · exact parseAddress_decimal_iff htext hfront

end IsShown

/-! ### What is shown is read back -/

theorem isShown_of_mem_spaces {k : Nat} {c : Char} (h : c ∈ spaces k) : IsShown c := by
  rw [Text.mem_spaces h]
  exact ⟨by decide, by decide⟩

/-- Addresses have printable characters only. -/
theorem IsAddress.isShown {cs : List Char} (h : IsAddress cs n) : ∀ c ∈ cs, IsShown c := by
  have hpadded {body : List Char} (hbody : ∀ c ∈ body, c ∈ Numeral.alphabet) (i j : Nat) :
      ∀ c ∈ spaces i ++ body ++ spaces j, IsShown c := by
    refine List.forall_mem_append.mpr ⟨List.forall_mem_append.mpr ⟨?_, ?_⟩, ?_⟩
    · exact fun c hc => isShown_of_mem_spaces hc
    · exact fun c hc => Numeral.isShown_of_mem_alphabet c (hbody c hc)
    · exact fun c hc => isShown_of_mem_spaces hc
  cases h with
  | marked h i => exact hpadded h.mem_alphabet 0 i
  | dollar h i j => exact List.forall_mem_cons.mpr ⟨by decide, hpadded h.mem_alphabet i j⟩
  | decimal h i j _ => exact hpadded h.mem_alphabet i j

theorem parseAddress_of_isAddress (h : IsAddress text.toList n) : parseAddress text = some n :=
  (parseAddress_eq_some_iff h.isShown).mpr h

/-- What a listing shows in front of a line. -/
theorem parseAddress_marked_field (width k : Nat) :
    parseAddress (Hex.marked width k) = some (k : Int) := by
  obtain ⟨ds, hds, -, hvalue⟩ := (Numeral.spells_field width k).digits
  have haddress := IsAddress.marked (.mk (.inl rfl) (.inl rfl) hds) 0
  rw [hvalue, Text.spaces_zero, List.append_nil, List.nil_append] at haddress
  refine parseAddress_of_isAddress ?_
  rw [Hex.marked, String.toList_append]
  exact haddress

/-- Digits of base sixteen after a dollar sign. -/
theorem parseAddress_dollar_spells {digits : String} {k : Nat}
    (h : Numeral.Spells .sixteen digits.toList k) :
    parseAddress ("$" ++ digits) = some (k : Int) := by
  have haddress := IsAddress.dollar h.signed 0 0
  rw [Text.spaces_zero, List.append_nil, List.nil_append] at haddress
  refine parseAddress_of_isAddress ?_
  rw [String.toList_append]
  exact haddress

theorem not_beginsHexadecimal {body : List Char} (h : Signed .ten body n) :
    ¬BeginsHexadecimal body := by
  have hdollar : '$' ∉ body := fun hmem => absurd (h.mem_alphabet _ hmem) (by decide)
  rintro (⟨rest, rfl⟩ | ⟨rest, rfl⟩ | ⟨rest, rfl⟩)
  · cases h with
    | bare h =>
        cases h with
        | decimal h _ => exact absurd (Numeral.isBody_of_digits h 'x' (by simp)) (by decide)
  · cases h with
    | bare h =>
        cases h with
        | decimal h _ => exact absurd (Numeral.isBody_of_digits h 'X' (by simp)) (by decide)
  · exact hdollar List.mem_cons_self

/-- The decimal form. -/
theorem parseAddress_toString {k : Nat} (hn : n.natAbs < 10 ^ k) (hk : 0 < k) (hmax : k ≤ 4300) :
    parseAddress (toString n) = some n := by
  have hsigned := Numeral.signed_toString hn hk hmax
  have hpadded : spaces 0 ++ (toString n).toList ++ spaces 0 = (toString n).toList := by
    rw [Text.spaces_zero, List.append_nil, List.nil_append]
  have hfront : ¬BeginsHexadecimal (spaces 0 ++ (toString n).toList ++ spaces 0) := by
    rw [hpadded]
    exact not_beginsHexadecimal hsigned
  have haddress := IsAddress.decimal hsigned 0 0 hfront
  rw [hpadded] at haddress
  exact parseAddress_of_isAddress haddress

/-- **Addresses are read, and nothing else is.**  A text of printable characters is read as a number
if and only if it is an address with this number; if it is no address, then the listing that asked
for it reports the text as invalid and does nothing else.  The address in front of a line of a
listing, the digits of base sixteen after a dollar sign, in either case, and the decimal form of an
integer are read back as the numbers that they show. -/
theorem addresses_are_read :
    (∀ text : String, (∀ c ∈ text.toList, IsShown c) →
      (∀ n, parseAddress text = some n ↔ IsAddress text.toList n) ∧
      ((∀ n, ¬IsAddress text.toList n) → parseAddress text = none ∧
        ∀ world common rom withAddress output count,
          disasm world common rom withAddress text output count =
            (Mishap.parameter (invalidAddress text)).report common.verbose listingActivity [])) ∧
    (∀ line : Listing.Line, 0 ≤ line.address →
      parseAddress line.addressText = some line.address) ∧
    (∀ width n : Nat, parseAddress ("$" ++ Hex.field width n) = some (n : Int) ∧
      parseAddress ("$" ++ (Hex.field width n).map Char.toLower) = some (n : Int)) ∧
    ∀ n : Int, n.natAbs < 10 ^ 4300 → parseAddress (toString n) = some n := by
  refine ⟨fun text htext => ⟨fun n => parseAddress_eq_some_iff htext, fun hnone => ?_⟩,
    fun line hline => ?_, fun width n => ⟨?_, ?_⟩, fun n hn => ?_⟩
  · have hparse : parseAddress text = none := by
      by_contra hsome
      obtain ⟨n, hn⟩ := Option.ne_none_iff_exists'.mp hsome
      exact hnone n ((parseAddress_eq_some_iff htext).mp hn)
    refine ⟨hparse, fun world common rom withAddress output count => ?_⟩
    rw [disasm, hparse]
  · have hread := parseAddress_marked_field 3 line.address.toNat
    rwa [Int.toNat_of_nonneg hline] at hread
  · exact parseAddress_dollar_spells (Numeral.spells_field width n)
  · refine parseAddress_dollar_spells ?_
    rw [String.toList_map]
    exact (Numeral.spells_field width n).lower
  · exact parseAddress_toString hn (by decide) (Nat.le_refl _)

/-- After a dollar sign there may be spaces, a sign and a marker; in front of a marker there may be
nothing. -/
theorem addresses_are_read_signed :
    (parseAddress "$ -0X_fF " = some (-255) ∧ ∀ n, ¬IsAddress " 0x10".toList n) ∧
      parseAddress " 0x10" = none ∧
      parseAddress (Listing.Line.mk 0x200 0x00E0).addressText = some 0x200 ∧
      parseAddress (toString (-42 : Int)) = some (-42) := by
  obtain ⟨htexts, hlines, -, hdecimals⟩ := addresses_are_read
  have hdollar : IsAddress "$ -0X_fF ".toList (-255) := by
    have hdigits : Digits .sixteen ['f', 'F'] [15, 15] := .next (by decide) (.last (by decide))
    have haddress := IsAddress.dollar (.minus (.marked (.mk (.inr rfl) (.inr rfl) hdigits))) 1 1
    exact haddress
  have hspace : ∀ n, ¬IsAddress " 0x10".toList n := by
    intro n h
    have hread := ((htexts " 0x10" (Text.forall_mem_of_all (by decide))).1 n).mpr h
    rw [show parseAddress " 0x10" = none by decide +kernel] at hread
    cases hread
  refine ⟨⟨?_, hspace⟩, ?_, hlines _ (by decide), hdecimals _ ?_⟩
  · exact ((htexts _ (Text.forall_mem_of_all (by decide))).1 _).mpr hdollar
  · exact ((htexts _ (Text.forall_mem_of_all (by decide))).2 hspace).1
  · have hplaces (k : Nat) (hk : 2 ≤ k) : (-42 : Int).natAbs < 10 ^ k :=
      Nat.lt_of_lt_of_le (show (-42 : Int).natAbs < 10 ^ 2 by decide)
        (Nat.pow_le_pow_right (by decide) hk)
    exact hplaces 4300 (by decide)

end ChipEight.CommandLine
