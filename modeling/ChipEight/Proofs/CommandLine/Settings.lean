/-
The settings for a command.

They come in layers: the defaults, the four variables of the environment, and the options of the
command line.  Nothing is taken from a wrong layer: a variable that holds no integer, or one that
its counter cannot have, is an error even if an option stands above it, and so is such an option
(`RefusedFor`).  If nothing is wrong, every setting comes from the uppermost layer that speaks of
it (`Layered`).
-/
import ChipEight.CommandLine.Program
import ChipEight.Proofs.Settings.Environment

namespace ChipEight.CommandLine

open Settings (Changes Counter Denotes Environment Held Layer Sets Switches environmentLayers
  integerVariables switch?)

/-- What is wrong with the variables or with the option for the scale, as it is reported. -/
inductive RefusedFor (env : Environment) (scale : Option Int) : Settings.Error → Prop
  /-- A variable is set to a text that is no numeral. -/
  | unreadable {name : String} {k? : Option Counter} {text : String} {e : Numeral.Error}
      (hname : (name, k?) ∈ integerVariables) (hset : Sets env name text)
      (hread : Numeral.read .ten text = .error e) : RefusedFor env scale (.notAnInteger e)
  /-- A variable sets a counter to a number below one. -/
  | variableBelowOne {name : String} {k : Counter} {text : String} {n : Int}
      (hname : (name, some k) ∈ integerVariables) (hset : Sets env name text)
      (hdenotes : Denotes text n) (hn : n < 1) : RefusedFor env scale (.belowOne k n)
  /-- The option asks for a scale below one. -/
  | optionBelowOne {n : Int} (hscale : scale = some n) (hn : n < 1) :
      RefusedFor env scale (.belowOne .scale n)

/-- Every setting comes from the option, if it is given and there is one; else from the variable, if
it is set and there is one; else it is the default. -/
structure Layered (env : Environment) (shiftsBoth : Option Bool) (scale : Option Int)
    (s : Settings) : Prop where
  shiftsBoth : ∃ held, Held env "CHIP8_SHIFT_QUIRK" Switches held ∧
    s.shiftsBoth = (shiftsBoth.or held).getD true
  stackDepth : s.stackDepth = 16
  cyclesPerFrame : ∃ held, Held env "CHIP8_CYCLES_PER_FRAME" Denotes held ∧
    (s.cyclesPerFrame : Int) = held.getD 10
  timerHz : s.timerHz = 60
  scale : ∃ held, Held env "CHIP8_SCALE" Denotes held ∧ (s.scale : Int) = (scale.or held).getD 10
  seed : Held env "CHIP8_SEED" Denotes s.seed

variable {env : Environment} {shiftsBoth : Option Bool} {scale : Option Int} {s : Settings}
  {e : Settings.Error}

/-- The layers above the defaults: the variables of the environment, then the options. -/
def layers (env : Environment) (shiftsBoth : Option Bool) (scale : Option Int) : List Layer :=
  environmentLayers env ++ [.ok { shiftsBoth := shiftsBoth, scale := scale }]

theorem makeSettings_eq_applyAll :
    makeSettings env shiftsBoth scale = Settings.applyAll {} (layers env shiftsBoth scale) := by
  rw [Settings.applyAll, layers, List.foldlM_append, ← Settings.applyAll,
    ← Settings.ofEnvironment_eq_applyAll]
  simp only [List.foldlM_cons, List.foldlM_nil, bind_pure]
  rfl

/-- The options are looked at for the scale only. -/
theorem refusal?_options_iff :
    ({ shiftsBoth := shiftsBoth, scale := scale } : Changes).refusal? = some e ↔
      ∃ n, scale = some n ∧ n < 1 ∧ e = .belowOne .scale n := by
  have hsingle : ({ shiftsBoth := shiftsBoth, scale := scale } : Changes).refusal? =
      (Changes.single (some .scale) scale).refusal? := rfl
  rw [hsingle, Settings.refusal?_single_iff]
  simp

/-- What is wrong is wrong in one of the layers. -/
theorem exists_refusal_iff (shiftsBoth : Option Bool) :
    (∃ layer ∈ layers env shiftsBoth scale, layer.refusal? = some e) ↔
      RefusedFor env scale e := by
  constructor
  · rintro ⟨layer, hmem, hrefused⟩
    simp only [layers, environmentLayers, List.cons_append, List.mem_cons, List.mem_append,
      List.mem_map, List.not_mem_nil, or_false, Prod.exists] at hmem
    rcases hmem with rfl | ⟨name, k?, hname, rfl⟩ | rfl
    · cases hrefused
    · rcases Settings.refusal?_ofVariable_iff.mp hrefused with
        ⟨text, e', hset, hread, rfl⟩ | ⟨text, k, n, hset, hdenotes, rfl, hn, rfl⟩
      · exact .unreadable hname hset hread
      · exact .variableBelowOne hname hset hdenotes hn
    · obtain ⟨n, hscale, hn, rfl⟩ := refusal?_options_iff.mp hrefused
      exact .optionBelowOne hscale hn
  · have hvariable {name : String} {k? : Option Counter}
        (hname : (name, k?) ∈ integerVariables) :
        Layer.ofVariable env name k? ∈ layers env shiftsBoth scale :=
      List.mem_append_left _ (List.mem_cons_of_mem _ (List.mem_map.mpr ⟨_, hname, rfl⟩))
    intro h
    cases h with
    | unreadable hname hset hread =>
        exact ⟨_, hvariable hname,
          Settings.refusal?_ofVariable_iff.mpr (.inl ⟨_, _, hset, hread, rfl⟩)⟩
    | variableBelowOne hname hset hdenotes hn =>
        exact ⟨_, hvariable hname,
          Settings.refusal?_ofVariable_iff.mpr (.inr ⟨_, _, _, hset, hdenotes, rfl, hn, rfl⟩)⟩
    | optionBelowOne hscale hn =>
        exact ⟨_, List.mem_append_right _ List.mem_cons_self,
          refusal?_options_iff.mpr ⟨_, hscale, hn, rfl⟩⟩

/-- What is reported is the first thing that is wrong, from the lowest layer upwards. -/
theorem makeSettings_eq_error_iff :
    makeSettings env shiftsBoth scale = .error e ↔
      (layers env shiftsBoth scale).findSome? Layer.refusal? = some e := by
  rw [makeSettings_eq_applyAll, Settings.applyAll_eq_error_iff]

theorem refusedFor_of_makeSettings (h : makeSettings env shiftsBoth scale = .error e) :
    RefusedFor env scale e := by
  rw [makeSettings_eq_error_iff] at h
  exact (exists_refusal_iff shiftsBoth).mp (List.exists_of_findSome?_eq_some h)

theorem makeSettings_of_refusedFor (h : RefusedFor env scale e) :
    ∃ e', makeSettings env shiftsBoth scale = .error e' := by
  obtain ⟨layer, hmem, hrefused⟩ := (exists_refusal_iff shiftsBoth).mpr h
  have hsome : ((layers env shiftsBoth scale).findSome? Layer.refusal?).isSome = true :=
    List.findSome?_isSome_iff.mpr ⟨layer, hmem, by simp [hrefused]⟩
  obtain ⟨e', he'⟩ := Option.isSome_iff_exists.mp hsome
  exact ⟨e', makeSettings_eq_error_iff.mpr he'⟩

/-- If all layers can be read, the variables hold integers or are not set. -/
theorem read_layers {cs : List Changes}
    (h : List.Forall₂ (fun layer c => layer = .ok c) (layers env shiftsBoth scale) cs) :
    ∃ seed cycles side, Held env "CHIP8_SEED" Denotes seed ∧
      Held env "CHIP8_CYCLES_PER_FRAME" Denotes cycles ∧ Held env "CHIP8_SCALE" Denotes side ∧
      cs = [{ shiftsBoth := switch? env }, .single none seed,
        .single (some .cyclesPerFrame) cycles, .single (some .scale) side,
        { shiftsBoth := shiftsBoth, scale := scale }] := by
  -- There are five layers, and each of them has been read.
  rcases h with _ | ⟨hswitch, _ | ⟨hseed, _ | ⟨hcycles, _ | ⟨hside, _ | ⟨hoptions, _ | _⟩⟩⟩⟩⟩
  obtain ⟨seed, hseed', rfl⟩ := Settings.held_of_ofVariable hseed
  obtain ⟨cycles, hcycles', rfl⟩ := Settings.held_of_ofVariable hcycles
  obtain ⟨side, hside', rfl⟩ := Settings.held_of_ofVariable hside
  refine ⟨seed, cycles, side, hseed', hcycles', hside', ?_⟩
  rw [← Except.ok.inj hswitch, ← Except.ok.inj hoptions]

theorem layered_of_makeSettings (h : makeSettings env shiftsBoth scale = .ok s) :
    Layered env shiftsBoth scale s := by
  rw [makeSettings_eq_applyAll] at h
  obtain ⟨cs, hcs, hvalues⟩ := Settings.values_of_applyAll h
  obtain ⟨seed, cycles, side, hseed, hcycles, hside, rfl⟩ := read_layers hcs
  simp only [Settings.values, List.foldl_cons, List.foldl_nil, Settings.Values.change,
    Changes.single, Option.getD_none, Option.none_or, Option.or_none,
    Settings.Values.mk.injEq] at hvalues
  obtain ⟨hshifts, hdepth, hcycles', hhz, hscale, rfl⟩ := hvalues
  exact {
    shiftsBoth := ⟨_, Settings.held_switch? env, by rw [hshifts, Option.getD_or]⟩
    stackDepth := by omega
    cyclesPerFrame := ⟨_, hcycles, hcycles'⟩
    timerHz := by omega
    scale := ⟨_, hside, by rw [hscale, Option.getD_or]; rfl⟩
    seed := hseed }

/-- **Settings come in layers, and each layer has to be right.**  A command has no settings if and
only if something is wrong with a variable or with the option for the scale, and what is reported is
one of the things that are wrong; otherwise every setting comes from the uppermost layer that speaks
of it.  Settings that have been changed can be changed again, and this is refused, or gives the same
settings, as if all had been changed at once. -/
theorem settings_come_in_layers :
    (∀ env shiftsBoth scale,
      ((∃ e, makeSettings env shiftsBoth scale = .error e) ↔ ∃ e, RefusedFor env scale e) ∧
      (∀ e, makeSettings env shiftsBoth scale = .error e → RefusedFor env scale e) ∧
      ∀ s, makeSettings env shiftsBoth scale = .ok s → Layered env shiftsBoth scale s) ∧
    ∀ (s t : Settings) (a b : Changes), s.change a = .ok t →
      t.change b = s.change (a.updated b) := by
  refine ⟨fun env shiftsBoth scale => ⟨?_, ?_, ?_⟩, ?_⟩
  · constructor
    · rintro ⟨e, h⟩
      exact ⟨e, refusedFor_of_makeSettings h⟩
    · rintro ⟨e, h⟩
      exact makeSettings_of_refusedFor h
  · intro e h
    exact refusedFor_of_makeSettings h
  · intro s h
    exact layered_of_makeSettings h
  · intro s t a b h
    exact Settings.change_change h b

/-- An option does not make up for a variable that is wrong, but it stands above one that is right;
and a scale below one is refused after a change just as together with it. -/
theorem settings_come_in_layers_overridden :
    let zero : Environment := fun name => [("CHIP8_SCALE", "0")].lookup name
    let right : Environment := fun name => [("CHIP8_SHIFT_QUIRK", " Off\n"), ("CHIP8_SEED", ""),
      ("CHIP8_CYCLES_PER_FRAME", " 2_0"), ("CHIP8_SCALE", "5")].lookup name
    let settings : Settings := { shiftsBoth := false, cyclesPerFrame := 20, scale := 7 }
    (makeSettings zero none (some 7) = .error (.belowOne .scale 0) ∧
      RefusedFor zero (some 7) (.belowOne .scale 0)) ∧
    (makeSettings right none (some 7) = .ok settings ∧ Layered right none (some 7) settings) ∧
    Settings.change {} { scale := some 4 } = .ok { scale := 4 } ∧
      Settings.change { scale := 4 } { scale := some 0, seed := some 1 } =
        Settings.change {} { scale := some 0, seed := some 1 } := by
  intro zero right settings
  obtain ⟨hmake, hchange⟩ := settings_come_in_layers
  have hzero : makeSettings zero none (some 7) = .error (.belowOne .scale 0) := by decide +kernel
  have hright : makeSettings right none (some 7) = .ok settings := by decide +kernel
  have hfour : Settings.change {} { scale := some 4 } = .ok { scale := 4 } := by decide +kernel
  exact ⟨⟨hzero, (hmake _ _ _).2.1 _ hzero⟩, ⟨hright, (hmake _ _ _).2.2 _ hright⟩, hfour,
    hchange _ _ _ { scale := some 0, seed := some 1 } hfour⟩

end ChipEight.CommandLine
