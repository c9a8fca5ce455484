/-
Names of host keys, in either case.

A layout is asked for the upper-case form of a name, and it keeps its own names as they were given.
So a name that is its own upper-case form answers to every way of writing it (`Bound`), and a name
with a small letter in it answers to none, not even to itself (`Ignored`).

The symbols of a window are made from the same layout the other way about: there the names of the
layout are put in upper case.  For names of single letters and digits every entry has its symbol,
and the two agree on a key exactly when the layout names it in upper case.
-/
import ChipEight.Proofs.Text.Ascii
import ChipEight.Proofs.Window.Keys
import Mathlib.Data.List.Nodup

namespace ChipEight

namespace Keypad

open Text (AllAscii SameUpToCase upper)

/-! ### Names and keys -/

/-- The key goes down or up, and no other key does. -/
structure SetsKey (before : Keypad) (key : Int) (down : Bool) (after : Keypad) : Prop where
  own : ∀ k : Nibble, (k.toNat : Int) = key → after.isPressed k = down
  others : ∀ k : Nibble, (k.toNat : Int) ≠ key → after.isPressed k = before.isPressed k

namespace Layout

/-- The name stands for a key: it is found, and it presses and releases this key. -/
structure Bound (layout : Layout) (name : String) (key : Int) : Prop where
  found : layout.keyFor name = some key
  press : ∀ k : Keypad, ∃ after, k.press layout (.named name) = .ok after ∧ k.SetsKey key true after
  release : ∀ k : Keypad, ∃ after, k.release layout (.named name) = .ok after ∧
    k.SetsKey key false after

/-- The name stands for nothing: it is not found, and nothing happens when it is pressed. -/
structure Ignored (layout : Layout) (name : String) : Prop where
  found : layout.keyFor name = none
  press : ∀ k : Keypad, k.press layout (.named name) = .ok k
  release : ∀ k : Keypad, k.release layout (.named name) = .ok k

/-- Names of the first 128 characters that stay apart in upper case, and keys of the keypad. -/
structure WellNamed (layout : Layout) : Prop where
  names : ∀ e ∈ layout.entries, AllAscii e.1
  distinct : (layout.entries.map fun e => upper e.1).Nodup
  keys : Window.KeysOnPad layout

/-- The names are single letters and digits. -/
def LettersAndDigits (layout : Layout) : Prop :=
  ∀ e ∈ layout.entries, ∃ c : Char, c.isAlphanum = true ∧ e.1 = String.singleton c

/-- The layout has the name with a key, in whichever case. -/
def Has (layout : Layout) (name : String) (key : Int) : Prop :=
  ∃ e ∈ layout.entries, SameUpToCase name e.1 ∧ e.2 = key

variable {layout : Layout} {name : String} {key : Int}

theorem change_of_keyFor (hfound : layout.keyFor name = some key) (hkey : 0 ≤ key ∧ key < 16)
    (k : Keypad) (down : Bool) :
    ∃ after, k.change layout (.named name) down = .ok after ∧ k.SetsKey key down after := by
  have hposition : position? 16 key = some ⟨key.toNat, by omega⟩ := dif_pos (by omega)
  refine ⟨k.setKey ⟨key.toNat, by omega⟩ down, ?_, fun n hn => ?_, fun n hn => ?_⟩
  · simp only [change, resolve, hfound, hposition]
    rfl
  · rw [isPressed_setKey, if_pos (show key.toNat = n.toNat by omega)]
  · rw [isPressed_setKey, if_neg (show ¬key.toNat = n.toNat by omega)]

theorem bound_of_keyFor (hfound : layout.keyFor name = some key) (hkey : 0 ≤ key ∧ key < 16) :
    layout.Bound name key :=
  ⟨hfound, fun k => change_of_keyFor hfound hkey k true,
    fun k => change_of_keyFor hfound hkey k false⟩

theorem ignored_of_keyFor (hfound : layout.keyFor name = none) : layout.Ignored name := by
  have hchange (k : Keypad) (down : Bool) : k.change layout (.named name) down = .ok k := by
    simp only [change, resolve, hfound]
    rfl
  exact ⟨hfound, fun k => hchange k true, fun k => hchange k false⟩

theorem wellNamed_of_pairwise (hnames : ∀ e ∈ layout.entries, AllAscii e.1)
    (hdistinct : layout.entries.Pairwise fun a b => ¬SameUpToCase a.1 b.1)
    (hkeys : Window.KeysOnPad layout) : layout.WellNamed := by
  refine ⟨hnames, ?_, hkeys⟩
  rw [List.Nodup, List.pairwise_map]
  refine hdistinct.imp_of_mem fun ha hb hne heq => ?_
  exact hne ((Text.sameUpToCase_iff (hnames _ ha) (hnames _ hb)).mpr heq)

section WellNamed

variable (hl : layout.WellNamed)
include hl

theorem WellNamed.sameUpToCase_iff (hname : AllAscii name) {e : String × Int}
    (he : e ∈ layout.entries) : SameUpToCase name e.1 ↔ upper name = upper e.1 :=
  Text.sameUpToCase_iff hname (hl.names e he)

/-- An entry is found if it stands in the layout in the upper-case form of the name. -/
theorem WellNamed.keyFor_eq_some_iff_mem :
    layout.keyFor name = some key ↔ (upper name, key) ∈ layout.entries :=
  Table.get?_eq_some_iff_mem
    ((List.pairwise_map.mp hl.distinct).imp fun hne heq => hne (congrArg upper heq))

/-- **What is found** under a name is an entry with this name whose own name is in upper case. -/
theorem WellNamed.keyFor_eq_some_iff (hname : AllAscii name) :
    layout.keyFor name = some key ↔
      ∃ e ∈ layout.entries, SameUpToCase name e.1 ∧ upper e.1 = e.1 ∧ e.2 = key := by
  rw [hl.keyFor_eq_some_iff_mem]
  constructor
  · intro hmem
    exact ⟨_, hmem, Text.sameUpToCase_upper hname, Text.upper_upper hname, rfl⟩
  · rintro ⟨⟨own, key⟩, he, hsame, hupper, rfl⟩
    rwa [(hl.sameUpToCase_iff hname he).mp hsame, hupper]

/-- Only one entry has a name, whatever the case. -/
theorem WellNamed.eq_of_sameUpToCase {a b : String × Int} (ha : a ∈ layout.entries)
    (hb : b ∈ layout.entries) (h : SameUpToCase a.1 b.1) : a = b :=
  List.inj_on_of_nodup_map hl.distinct ha hb ((hl.sameUpToCase_iff (hl.names a ha) hb).mp h)

theorem WellNamed.bound (hname : AllAscii name) {e : String × Int} (he : e ∈ layout.entries)
    (hsame : SameUpToCase name e.1) (hupper : upper e.1 = e.1) : layout.Bound name e.2 :=
  bound_of_keyFor ((hl.keyFor_eq_some_iff hname).mpr ⟨e, he, hsame, hupper, rfl⟩) (hl.keys e he)

/-- A name is ignored if no entry with this name is in upper case. -/
theorem WellNamed.ignored (hname : AllAscii name)
    (h : ∀ e ∈ layout.entries, SameUpToCase name e.1 → upper e.1 ≠ e.1) :
    layout.Ignored name := by
  refine ignored_of_keyFor ?_
  by_contra hsome
  obtain ⟨key, hkey⟩ := Option.ne_none_iff_exists'.mp hsome
  obtain ⟨e, he, hsame, hupper, -⟩ := (hl.keyFor_eq_some_iff hname).mp hkey
  exact h e he hsame hupper

end WellNamed

end Layout
end Keypad

/-! ### The symbols of letters and digits -/

namespace Symbol

open Text (AllAscii SameUpToCase upper)

/-- The code of a letter or a digit, letters in lower case. -/
def code (c : Char) : Int := c.toLower.toNat

/-- The constants of letters and digits are the codes of their characters. -/
structure Usual (constants : Constants) : Prop where
  letter : ∀ c : Char, c.isUpper = true → constants (String.singleton c) = some (code c)
  digit : ∀ c : Char, c.isDigit = true → constants ("_" ++ String.singleton c) = some (code c)

theorem isAscii_of_isAlphanum {c : Char} (hc : c.isAlphanum = true) : Text.IsAscii c := by
  have hbelow {z : Char} (hle : c.val ≤ z.val) (hz : Text.IsAscii z) : Text.IsAscii c :=
    Nat.lt_of_le_of_lt hle hz
  rcases Bool.or_eq_true_iff.mp hc with hletter | hdigit
  · rcases Bool.or_eq_true_iff.mp hletter with hupper | hlower
    · exact hbelow (of_decide_eq_true hupper).2 (by decide)
    · exact hbelow (of_decide_eq_true (Bool.and_eq_true_iff.mp hlower).2) (by decide)
  · exact hbelow (of_decide_eq_true (Bool.and_eq_true_iff.mp hdigit).2) (by decide)

/-- The constants of a system that has symbols for letters and digits only. -/
def lettersAndDigits : Constants := fun name =>
  match name.toList with
  | [c] => if c.isUpper then some (code c) else none
  | ['_', c] => if c.isDigit then some (code c) else none
  | _ => none

theorem usual_lettersAndDigits : Usual lettersAndDigits where
  letter c hc := by simp [lettersAndDigits, hc]
  digit c hc := by simp [lettersAndDigits, hc]

variable {constants : Constants} {layout : Keypad.Layout} {c : Char} {symbol key : Int}

theorem ofName?_singleton (hconstants : Usual constants) (hc : c.isAlphanum = true) :
    ofName? constants (String.singleton c) = some (code c) := by
  have hascii := isAscii_of_isAlphanum hc
  have hnumber : isNumber (String.singleton c) = c.isDigit := by
    simp [isNumber, Text.isDigit_ascii hascii]
  rw [ofName?, constantName, hnumber]
  cases hdigit : c.isDigit with
  | true => exact hconstants.digit c hdigit
  | false =>
      have hupper : upper (String.singleton c) = String.singleton c.toUpper := by
        rw [← String.toList_inj, Text.toList_upper (by simpa [Text.AllAscii] using hascii)]
        simp
      have hletter : c.toUpper.isUpper = true ∧ code c.toUpper = code c :=
        Text.forall_ascii (p := fun c => c.isAlphanum = true → c.isDigit = false →
          c.toUpper.isUpper = true ∧ code c.toUpper = code c) (by decide +kernel) hascii hc hdigit
      rw [if_neg Bool.false_ne_true, hupper, hconstants.letter _ hletter.1, hletter.2]

theorem standsFor_singleton (hconstants : Usual constants) (hc : c.isAlphanum = true) :
    StandsFor constants (String.singleton c) symbol ↔ symbol = code c := by
  rw [← ofName?_eq_some_iff, ofName?_singleton hconstants hc, Option.some_inj, eq_comm]

/-- Letters and digits have one symbol if and only if they are the same up to case. -/
theorem code_eq_code_iff {d : Char} (hc : c.isAlphanum = true) (hd : d.isAlphanum = true) :
    code c = code d ↔ SameUpToCase (String.singleton c) (String.singleton d) := by
  have hlower {a : Char} (ha : a.isAlphanum = true) : a.toLower.toUpper = a.toUpper :=
    Text.forall_ascii (p := fun a => a.toLower.toUpper = a.toUpper) (by decide +kernel)
      (isAscii_of_isAlphanum ha)
  have hupper {a : Char} (ha : a.isAlphanum = true) : a.toUpper.toLower = a.toLower :=
    Text.forall_ascii (p := fun a => a.toUpper.toLower = a.toLower) (by decide +kernel)
      (isAscii_of_isAlphanum ha)
  have hsame : SameUpToCase (String.singleton c) (String.singleton d) ↔ c.toUpper = d.toUpper := by
    simp [SameUpToCase]
  rw [hsame, code, code, Int.ofNat_inj, Char.toNat_inj]
  constructor
  · intro h
    rw [← hlower hc, h, hlower hd]
  · intro h
    rw [← hupper hc, h, hupper hd]

section Layout

variable (hconstants : Usual constants) (hsingle : layout.LettersAndDigits)
include hconstants hsingle

theorem standsFor_entry {e : String × Int} (he : e ∈ layout.entries) (hc : c.isAlphanum = true) :
    StandsFor constants e.1 (code c) ↔ SameUpToCase (String.singleton c) e.1 := by
  obtain ⟨d, hd, hname⟩ := hsingle e he
  rw [hname, standsFor_singleton hconstants hd, code_eq_code_iff hc hd]

/-- A letter or a digit is sent to the key that the layout has for it, in whichever case. -/
theorem sends_code_iff (hl : layout.WellNamed) (hc : c.isAlphanum = true) :
    Sends constants layout (code c) key ↔ layout.Has (String.singleton c) key := by
  constructor
  · rintro ⟨before, name, after, hentries, hstands, -⟩
    have he : (name, key) ∈ layout.entries := by simp [hentries]
    exact ⟨_, he, (standsFor_entry hconstants hsingle he hc).mp hstands, rfl⟩
  · rintro ⟨e, he, hsame, rfl⟩
    obtain ⟨before, after, hentries⟩ := List.append_of_mem he
    refine ⟨before, e.1, after, hentries, (standsFor_entry hconstants hsingle he hc).mpr hsame,
      fun other hother hstands => ?_⟩
    -- A later entry for the symbol would have the same name.
    have hmem : other ∈ layout.entries := by simp [hentries, hother]
    have hsame' := (standsFor_entry hconstants hsingle hmem hc).mp hstands
    have hupper : upper e.1 = upper other.1 :=
      (hl.sameUpToCase_iff (hl.names e he) hmem).mp (hsame.symm.trans hsame')
    have hdistinct := hl.distinct
    rw [hentries, List.map_append, List.map_cons] at hdistinct
    have hnot := (List.nodup_cons.mp hdistinct.of_append_right).1
    exact hnot (List.mem_map.mpr ⟨other, hother, hupper.symm⟩)

theorem get?_code_eq_some_iff (hl : layout.WellNamed) (hc : c.isAlphanum = true) :
    Table.get? (code c) (tableOf constants layout) = some key ↔
      layout.Has (String.singleton c) key := by
  rw [get?_tableOf_eq_some_iff, sends_code_iff hconstants hsingle hl hc]

/-- No other symbol is sent anywhere. -/
theorem get?_other (hsymbol : ∀ c : Char, c.isAlphanum = true → symbol ≠ code c) :
    Table.get? symbol (tableOf constants layout) = none := by
  by_contra hsome
  obtain ⟨key, hkey⟩ := Option.ne_none_iff_exists'.mp hsome
  obtain ⟨before, name, after, hentries, hstands, -⟩ := get?_tableOf_eq_some_iff.mp hkey
  obtain ⟨c, hc, rfl⟩ := hsingle (name, key) (by simp [hentries])
  exact hsymbol c hc ((standsFor_singleton hconstants hc).mp hstands)

/-- The symbol and the name of a host key agree if and only if the layout has the name in upper
case. -/
theorem get?_code_eq_keyFor_iff (hl : layout.WellNamed) (hc : c.isAlphanum = true) :
    Table.get? (code c) (tableOf constants layout) = layout.keyFor (String.singleton c) ↔
      ∀ e ∈ layout.entries, SameUpToCase (String.singleton c) e.1 → upper e.1 = e.1 := by
  have hname : AllAscii (String.singleton c) := by
    simpa [AllAscii] using isAscii_of_isAlphanum hc
  constructor
  · intro hagree e he hsame
    have hkey := (get?_code_eq_some_iff hconstants hsingle hl hc).mpr ⟨e, he, hsame, rfl⟩
    rw [hagree] at hkey
    obtain ⟨e', he', hsame', hupper, -⟩ := (hl.keyFor_eq_some_iff hname).mp hkey
    rwa [hl.eq_of_sameUpToCase he he' (hsame.symm.trans hsame')]
  · intro hupper
    refine Option.ext fun key => ?_
    rw [get?_code_eq_some_iff hconstants hsingle hl hc, hl.keyFor_eq_some_iff hname]
    constructor
    · rintro ⟨e, he, hsame, rfl⟩
      exact ⟨e, he, hsame, hupper e he hsame, rfl⟩
    · rintro ⟨e, he, hsame, -, rfl⟩
      exact ⟨e, he, hsame, rfl⟩

end Layout

/-- The symbols that are made of a layout: each letter and digit has one; it is sent to the key
that the layout has for its name, which is the key under this name if and only if the layout has
the name in upper case; and no other symbol is sent anywhere. -/
structure SentByName (constants : Constants) (layout : Keypad.Layout) : Prop where
  symbol : ∀ c : Char, c.isAlphanum = true →
    ofName? constants (String.singleton c) = some (code c)
  sent : ∀ c : Char, c.isAlphanum = true → ∀ key,
    Table.get? (code c) (tableOf constants layout) = some key ↔
      layout.Has (String.singleton c) key
  found : ∀ c : Char, c.isAlphanum = true →
    (Table.get? (code c) (tableOf constants layout) = layout.keyFor (String.singleton c) ↔
      ∀ e ∈ layout.entries, SameUpToCase (String.singleton c) e.1 → upper e.1 = e.1)
  others : ∀ symbol, (∀ c : Char, c.isAlphanum = true → symbol ≠ code c) →
    Table.get? symbol (tableOf constants layout) = none

end Symbol

namespace Keypad.Layout

open Text (AllAscii SameUpToCase upper)

/-- **A name answers in upper case.**  If the layout has a name in upper case, then every way of
writing it in either case stands for its key.  A name that the layout has with a small letter in it
is ignored, however it is written, and so is a name that the layout does not have.  The symbols of
letters and digits do not tell the case of the layout: they agree with the names exactly as far as
these are in upper case. -/
theorem names_answer_in_upper_case (layout : Layout) (hl : layout.WellNamed) :
    (∀ e ∈ layout.entries, ∀ name, SameUpToCase name e.1 →
      (upper e.1 = e.1 → layout.Bound name e.2) ∧ (upper e.1 ≠ e.1 → layout.Ignored name)) ∧
    (∀ name, AllAscii name → (∀ e ∈ layout.entries, ¬SameUpToCase name e.1) →
      layout.Ignored name) ∧
    (layout.LettersAndDigits → ∀ constants, Symbol.Usual constants →
      Symbol.SentByName constants layout) := by
  refine ⟨fun e he name hsame => ?_, fun name hname hnone => ?_,
    fun hsingle constants hconstants => ?_⟩
  · have hname : AllAscii name := hsame.allAscii (hl.names e he)
    refine ⟨hl.bound hname he hsame, fun hsmall => hl.ignored hname fun e' he' hsame' => ?_⟩
    rwa [← hl.eq_of_sameUpToCase he he' (hsame.symm.trans hsame')]
  · exact hl.ignored hname fun e he hsame => absurd hsame (hnone e he)
  · exact {
      symbol := fun c hc => Symbol.ofName?_singleton hconstants hc
      sent := fun c hc key => Symbol.get?_code_eq_some_iff hconstants hsingle hl hc
      found := fun c hc => Symbol.get?_code_eq_keyFor_iff hconstants hsingle hl hc
      others := fun symbol hsymbol => Symbol.get?_other hconstants hsingle hsymbol }

/-- A layout with one name in each case: the name in upper case answers, the other one does not, and
the symbol of either is sent to its key. -/
theorem names_answer_in_upper_case_mixed :
    let layout : Layout := ⟨[("q", 4), ("W", 5)]⟩
    layout.WellNamed ∧ layout.LettersAndDigits ∧ layout.Bound "w" 5 ∧ layout.Ignored "q" ∧
      layout.Ignored "p" ∧ Symbol.SentByName Symbol.lettersAndDigits layout := by
  intro layout
  have hl : layout.WellNamed :=
    wellNamed_of_pairwise (by decide) (by decide) (by unfold Window.KeysOnPad; decide)
  have hcapital : upper "W" = "W" := by
    rw [Text.upper_ascii (by decide)]
    decide
  have hsmall : upper "q" ≠ "q" := by
    rw [Text.upper_ascii (by decide)]
    decide
  have hsingle : layout.LettersAndDigits := by
    refine List.forall_mem_cons.mpr ⟨⟨'q', by decide⟩, ?_⟩
    exact List.forall_mem_singleton.mpr ⟨'W', by decide⟩
  obtain ⟨hentries, hothers, hsymbols⟩ := names_answer_in_upper_case layout hl
  refine ⟨hl, hsingle, ?_, ?_, ?_, hsymbols hsingle _ Symbol.usual_lettersAndDigits⟩
  · exact (hentries ("W", 5) (by decide) "w" (by decide)).1 hcapital
  · exact (hentries ("q", 4) (by decide) "q" (by decide)).2 hsmall
  · exact hothers "p" (by decide) (by decide)

/-- A name in lower case does not answer even to itself, though its symbol is sent to its key. -/
theorem lower_case_name_ignored :
    let layout : Layout := ⟨[("q", 4)]⟩
    layout.WellNamed ∧ layout.LettersAndDigits ∧ layout.Has "q" 4 ∧ layout.keyFor "q" = none ∧
      released.press layout (.named "q") = .ok released ∧
      ∀ constants, Symbol.Usual constants →
        Table.get? 0x71 (Symbol.tableOf constants layout) = some 4 := by
  intro layout
  have hl : layout.WellNamed :=
    wellNamed_of_pairwise (by decide) (by decide) (by unfold Window.KeysOnPad; decide)
  have hignored : layout.Ignored "q" := by
    refine hl.ignored (by decide) (List.forall_mem_singleton.mpr fun _ => ?_)
    rw [Text.upper_ascii (by decide)]
    decide
  have hsingle : layout.LettersAndDigits := List.forall_mem_singleton.mpr ⟨'q', by decide⟩
  have hhas : layout.Has "q" 4 := ⟨_, List.mem_cons_self, by decide, rfl⟩
  refine ⟨hl, hsingle, hhas, hignored.found, hignored.press released, fun constants husual => ?_⟩
  exact (Symbol.get?_code_eq_some_iff (c := 'q') husual hsingle hl (by decide)).mpr hhas

end Keypad.Layout
end ChipEight
