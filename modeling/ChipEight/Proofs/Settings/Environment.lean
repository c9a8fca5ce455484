/-
What the environment says.

A variable says something only if it is set to a text that is not empty (`Sets`).  What it holds is
then what this text means (`Held`): an integer if it is a numeral, and on or off for the rule of
shifts, where all but four words mean on.  Each variable is a layer of its own, and a variable that
is not set is a layer that changes nothing, so the environment is a row of four layers on top of the
defaults (`ofEnvironment_eq_applyAll`).
-/
import ChipEight.Proofs.Settings.Changes
import ChipEight.Proofs.Text.Grammar

namespace ChipEight

namespace Text

theorem isBlank_toLower (c : Char) : isBlank c.toLower = isBlank c := by
  by_cases hc : IsAscii c
  · exact forall_ascii (p := fun c => isBlank c.toLower = isBlank c) (by decide +kernel) hc
  · rw [toLower_of_not_isAscii hc]

end Text

namespace Settings

open Text (SameUpToCase isBlank trim)

/-! ### Texts of variables -/

/-- The variable is set to the text, which is not empty. -/
def Sets (env : Environment) (name text : String) : Prop := env name = some text ∧ text ≠ ""

/-- What a variable holds: a value that its text means, or nothing if it is not set. -/
inductive Held {α : Type} (env : Environment) (name : String) (means : String → α → Prop) :
    Option α → Prop
  | unset (h : ∀ text, ¬Sets env name text) : Held env name means none
  | set {text : String} {a : α} (h : Sets env name text) (ha : means text a) :
      Held env name means (some a)

variable {env : Environment} {name text : String} {c : Changes} {k? : Option Counter} {e : Error}

theorem textOf?_eq_some_iff : textOf? env name = some text ↔ Sets env name text := by
  simp [textOf?, Sets, Option.filter_eq_some_iff]

theorem textOf?_eq_none_iff : textOf? env name = none ↔ ∀ text, ¬Sets env name text := by
  simp only [Option.eq_none_iff_forall_ne_some, ne_eq, textOf?_eq_some_iff]

/-! ### On and off -/

/-- The words for off. -/
def offWords : List String := ["0", "false", "no", "off"]

/-- The text is a word for off, in whichever case, with any blanks around it. -/
def SaysOff (text : String) : Prop :=
  ∃ word ∈ offWords, ∃ front body back : String, text = front ++ body ++ back ∧
    (∀ c ∈ front.toList, isBlank c = true) ∧ (∀ c ∈ back.toList, isBlank c = true) ∧
    SameUpToCase body word

/-- The text says on or off. -/
def Switches (text : String) (on : Bool) : Prop := on = false ↔ SaysOff text

theorem toLower_offWords : ∀ word ∈ offWords, word.toList.map Char.toLower = word.toList := by
  decide

theorem isBlank_offWords : ∀ word ∈ offWords, ∀ c ∈ word.toList, isBlank c = false := by
  have hall : (offWords.all fun word => word.toList.all fun c => !isBlank c) = true := by decide
  simpa only [List.all_eq_true, Bool.not_eq_true'] using hall

theorem sameUpToCase_offWord {body word : String} (hword : word ∈ offWords) :
    SameUpToCase body word ↔ body.toList.map Char.toLower = word.toList := by
  rw [Text.sameUpToCase_iff_toLower, toLower_offWords word hword]

/-- A word for off has no blanks in it, in whichever case. -/
theorem isBlank_of_sameUpToCase {body word : String} (hword : word ∈ offWords)
    (hsame : SameUpToCase body word) : ∀ c ∈ body.toList, isBlank c = false := by
  intro c hc
  rw [sameUpToCase_offWord hword] at hsame
  have hmem : c.toLower ∈ word.toList := hsame ▸ List.mem_map_of_mem hc
  rw [← Text.isBlank_toLower]
  exact isBlank_offWords word hword _ hmem

theorem isOff_iff : isOff text = true ↔ SaysOff text := by
  simp only [isOff, decide_eq_true_eq]
  constructor
  · intro hword
    obtain ⟨front, back, htrim, hfront, hback⟩ := Text.exists_trim isBlank text.toList
    refine ⟨_, hword, .ofList front, .ofList (trim isBlank text.toList), .ofList back,
      ?_, ?_, ?_, ?_⟩
    · rw [← String.toList_inj]
      simpa using htrim
    · simpa using hfront
    · simpa using hback
    · rw [sameUpToCase_offWord hword, String.toList_ofList, String.toList_ofList]
  · rintro ⟨word, hword, front, body, back, rfl, hfront, hback, hsame⟩
    have hbody := isBlank_of_sameUpToCase hword hsame
    rw [String.toList_append, String.toList_append, Text.trim_padded hfront hbody hback,
      (sameUpToCase_offWord hword).mp hsame, String.ofList_toList]
    exact hword

/-- What the environment says about the rule of shifts. -/
def switch? (env : Environment) : Option Bool :=
  (textOf? env "CHIP8_SHIFT_QUIRK").map fun text => !isOff text

theorem held_switch? (env : Environment) : Held env "CHIP8_SHIFT_QUIRK" Switches (switch? env) := by
  unfold switch?
  cases h : textOf? env "CHIP8_SHIFT_QUIRK" with
  | none => exact .unset (textOf?_eq_none_iff.mp h)
  | some text =>
      refine .set (textOf?_eq_some_iff.mp h) ?_
      rw [Switches, ← isOff_iff, Bool.not_eq_false']

theorem change_switch? (s : Settings) (env : Environment) :
    s.change { shiftsBoth := switch? env } = .ok (s.changeShifts env) := by
  unfold changeShifts switch?
  cases textOf? env "CHIP8_SHIFT_QUIRK" with
  | none => exact s.change_empty
  | some text =>
      rw [change_eq_ok_iff, Option.map_some]
      simp [values, Values.change]

/-! ### Integers -/

/-- The text is a numeral of the integer. -/
def Denotes (text : String) (n : Int) : Prop := Numeral.read .ten text = .ok n

/-- The integer that a variable holds, if it is set. -/
def integer? (env : Environment) (name : String) : Except Error (Option Int) :=
  match textOf? env name with
  | none => .ok none
  | some text =>
    match Numeral.read .ten text with
    | .error e => .error (.notAnInteger e)
    | .ok n => .ok (some n)

/-- What comes of reading a variable that should hold an integer. -/
inductive Reads (env : Environment) (name : String) : Except Error (Option Int) → Prop
  | unset (h : ∀ text, ¬Sets env name text) : Reads env name (.ok none)
  | unreadable {text : String} {e : Numeral.Error} (h : Sets env name text)
      (hread : Numeral.read .ten text = .error e) : Reads env name (.error (.notAnInteger e))
  | value {text : String} {n : Int} (h : Sets env name text) (hdenotes : Denotes text n) :
      Reads env name (.ok (some n))

theorem reads_integer? (env : Environment) (name : String) :
    Reads env name (integer? env name) := by
  unfold integer?
  split
  next hnone => exact .unset (textOf?_eq_none_iff.mp hnone)
  next text hsome =>
    have hset := textOf?_eq_some_iff.mp hsome
    split
    next e hread => exact .unreadable hset hread
    next n hread => exact .value hset hread

theorem integer?_of_sets (h : Sets env name text) :
    integer? env name = ((Numeral.read .ten text).mapError .notAnInteger).map some := by
  simp only [integer?, textOf?_eq_some_iff.mpr h]
  cases Numeral.read .ten text <;> rfl

/-- The layer of a variable that holds an integer: what it gives to a counter, or to the seed. -/
def Layer.ofVariable (env : Environment) (name : String) (k? : Option Counter) : Layer :=
  (integer? env name).map (Changes.single k?)

theorem held_of_ofVariable (h : Layer.ofVariable env name k? = .ok c) :
    ∃ v, Held env name Denotes v ∧ c = Changes.single k? v := by
  have hreads := reads_integer? env name
  unfold Layer.ofVariable at h
  generalize integer? env name = read at h hreads
  cases hreads with
  | unset hunset => exact ⟨none, .unset hunset, (Except.ok.inj h).symm⟩
  | unreadable => cases h
  | value hset hdenotes => exact ⟨_, .set hset hdenotes, (Except.ok.inj h).symm⟩

/-- The layer of a variable is refused if its text is no numeral, or if its counter cannot have the
number. -/
theorem refusal?_ofVariable_iff :
    (Layer.ofVariable env name k?).refusal? = some e ↔
      (∃ text e', Sets env name text ∧ Numeral.read .ten text = .error e' ∧ e = .notAnInteger e') ∨
      ∃ text k n, Sets env name text ∧ Denotes text n ∧ k? = some k ∧ n < 1 ∧
        e = .belowOne k n := by
  unfold Layer.ofVariable
  constructor
  · intro h
    have hreads := reads_integer? env name
    generalize integer? env name = read at h hreads
    cases hreads with
    | unset =>
        obtain ⟨k, n, -, hnone, -⟩ := refusal?_single_iff.mp h
        cases hnone
    | unreadable hset hread =>
        cases h
        exact .inl ⟨_, _, hset, hread, rfl⟩
    | value hset hdenotes =>
        obtain ⟨k, n, hk, hn, hlt, he⟩ := refusal?_single_iff.mp h
        cases hn
        exact .inr ⟨_, k, _, hset, hdenotes, hk, hlt, he⟩
  · rintro (⟨text, e', hset, hread, rfl⟩ | ⟨text, k, n, hset, hdenotes, hk, hlt, he⟩)
    · rw [integer?_of_sets hset, hread]
      rfl
    · rw [integer?_of_sets hset, hdenotes]
      exact refusal?_single_iff.mpr ⟨k, n, hk, rfl, hlt, he⟩

/-- A variable that is not set is a layer that changes nothing. -/
theorem changeInt_eq (s : Settings) (k? : Option Counter) :
    s.changeInt env name (fun n => Changes.single k? (some n)) =
      s.apply (Layer.ofVariable env name k?) := by
  unfold changeInt apply Layer.ofVariable integer?
  cases textOf? env name with
  | none => exact (single_none k? ▸ s.change_empty).symm
  | some text => cases h : Numeral.read .ten text <;> simp [h, bind, Except.bind, Except.map]

/-! ### The environment -/

/-- The variables that hold integers, each with the counter that it sets; the seed is
no counter. -/
def integerVariables : List (String × Option Counter) :=
  [("CHIP8_SEED", none), ("CHIP8_CYCLES_PER_FRAME", some .cyclesPerFrame),
    ("CHIP8_SCALE", some .scale)]

/-- The layers of the environment. -/
def environmentLayers (env : Environment) : List Layer :=
  .ok { shiftsBoth := switch? env } ::
    integerVariables.map fun (name, k?) => Layer.ofVariable env name k?

theorem ofEnvironment_eq_applyAll (env : Environment) :
    ofEnvironment env = applyAll {} (environmentLayers env) := by
  have hswitch : apply {} (.ok { shiftsBoth := switch? env }) = .ok (changeShifts {} env) :=
    change_switch? {} env
  simp only [applyAll, environmentLayers, integerVariables, List.map_cons, List.map_nil,
    List.foldlM_cons, List.foldlM_nil, hswitch, ← changeInt_eq, bind_pure]
  rfl

end Settings
end ChipEight
