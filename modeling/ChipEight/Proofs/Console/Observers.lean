/-
Looking at a console does not change what it does.

A snapshot clears the mark on the display, and nothing else that a host may look at leaves a
trace.  So two consoles are compared that agree on everything that an instruction reads.  They
answer every request alike and still agree afterwards, whatever the request is: this is the
comparison of two cycles, carried on by `Lockstep`.

If the consoles differ in no more than the mark, then so they do after every request, and a look
shows the same in both, because no look shows the mark.  Hence a host may look at a console as
often as it likes and will be told the same as a host that does not.
-/
import ChipEight.Proofs.Console.Interactions
import ChipEight.Proofs.Console.Lockstep
import ChipEight.Proofs.Machine.Unread

namespace ChipEight.Console

/-- The consoles agree on everything that an instruction reads, and if `markOnly` holds, then
even on everything but the mark on the display. -/
def Agreeing (markOnly : Prop) (c d : Console) : Prop :=
  ∃ u, d = c.withMachine (c.machine.withUnread u) ∧ (markOnly → c.machine.HasUnread u)

/-- The consoles agree on everything that an instruction reads. -/
def Equivalent (c d : Console) : Prop := Agreeing False c d

/-- The consoles agree on everything but the mark on the display. -/
def SameButMark (c d : Console) : Prop := Agreeing True c d

variable {markOnly : Prop} {c d e : Console}

namespace Agreeing

theorem refl (c : Console) : Agreeing markOnly c c :=
  ⟨⟨c.machine.sound, c.machine.lastWord, c.machine.display.dirty⟩, rfl, fun _ => ⟨rfl, rfl⟩⟩

theorem trans (h₁ : Agreeing markOnly c d) (h₂ : Agreeing markOnly d e) :
    Agreeing markOnly c e := by
  obtain ⟨u, rfl, hu⟩ := h₁
  obtain ⟨u', rfl, hu'⟩ := h₂
  exact ⟨u', rfl, fun hm =>
    ⟨(hu' hm).1.trans (hu hm).1, (hu' hm).2.trans (hu hm).2⟩⟩

/-! ### Requests -/

theorem step (h : Agreeing markOnly c d) : c.step.Alike (Agreeing markOnly) d.step := by
  obtain ⟨u, rfl, hu⟩ := h
  obtain ⟨u', hstep, hu'⟩ := Machine.step_withUnread c.rules c.source c.machine u
  obtain ⟨hresult, hconsole⟩ := step_withMachine hstep
  refine ⟨hresult, u', ?_, fun hm => ?_⟩
  · rw [hconsole, machine_step]
  · rw [machine_step]
    exact hu' (hu hm)

theorem lockstep (markOnly : Prop) : Lockstep (fun _ => True) (Agreeing markOnly) where
  step h _ := h.step
  halt := by
    rintro c d reason ⟨u, rfl, hu⟩
    exact ⟨u, rfl, hu⟩
  tick := by
    rintro c d ⟨u, rfl, hu⟩
    refine ⟨{ u with sound := if u.sound = 0 then 0 else u.sound - 1 }, rfl, fun hm => ?_⟩
    obtain ⟨hsound, hword⟩ := hu hm
    exact ⟨by rw [hsound]; rfl, hword⟩
  halted := by
    rintro c d ⟨u, rfl, -⟩
    rfl
  cyclesPerFrame := by
    rintro c d ⟨u, rfl, -⟩
    rfl

theorem load (h : Agreeing markOnly c d) (data : List Byte) :
    Agreeing markOnly (c.load data).console (d.load data).console := by
  by_cases hdata : data.length ≤ Memory.programLimit
  · obtain ⟨u, rfl, -⟩ := h
    rw [load_of_le hdata, load_of_le hdata]
    exact refl _
  · rw [load_of_lt (Nat.not_le.mp hdata), load_of_lt (Nat.not_le.mp hdata)]
    exact h

/-- A key is refused by both consoles or changes the keypad of both in the same way. -/
theorem key (h : Agreeing markOnly c d) (key : Keypad.Key) (down : Bool) :
    d.reply (.ofKey key down) = c.reply (.ofKey key down) ∧
      Agreeing markOnly (c.serve (.ofKey key down)) (d.serve (.ofKey key down)) := by
  obtain ⟨u, rfl, hu⟩ := h
  have hkeypad : (c.withMachine (c.machine.withUnread u)).machine.keypad = c.machine.keypad := rfl
  rw [reply_ofKey, reply_ofKey, serve_ofKey, serve_ofKey, key_eq_map, key_eq_map, hkeypad]
  cases c.machine.keypad.change .standard key down with
  | error e => exact ⟨rfl, u, rfl, hu⟩
  | ok keypad => exact ⟨rfl, u, rfl, hu⟩

/-- **A request is answered alike, and the consoles still agree afterwards.** -/
theorem request (h : Agreeing markOnly c d) (r : Request) :
    d.reply r = c.reply r ∧ Agreeing markOnly (c.serve r) (d.serve r) := by
  cases r with
  | load data =>
      refine ⟨?_, h.load data⟩
      rw [reply, reply, load_result, load_result]
  | loadFile path entry =>
      rw [reply, reply, loadFile_result, loadFile_result]
      show _ ∧ Agreeing markOnly (c.loadFile path entry).console (d.loadFile path entry).console
      rw [loadFile_console, loadFile_console]
      cases entry.contents with
      | error e => exact ⟨rfl, h⟩
      | ok data => exact ⟨by simp only [load_result], h.load data⟩
  | reset =>
      obtain ⟨u, rfl, -⟩ := h
      exact ⟨rfl, refl _⟩
  | step => exact ⟨congrArg Answer.cycle h.step.result, h.step.console⟩
  | run maxCycles strict =>
      have halike := (lockstep markOnly).run h maxCycles strict fun _ _ => trivial
      exact ⟨congrArg Answer.run halike.result, halike.console⟩
  | runFrame =>
      have halike := (lockstep markOnly).runFrame h fun _ _ => trivial
      exact ⟨congrArg Answer.frame halike.result, halike.console⟩
  | tick => exact ⟨rfl, (lockstep markOnly).tick h⟩
  | press key => exact h.key key true
  | release key => exact h.key key false
  | snapshot =>
      obtain ⟨u, rfl, hu⟩ := h
      exact ⟨rfl, { u with dirty := false }, rfl, hu⟩

theorem requests (requests : List Request) :
    ∀ {c d : Console}, Agreeing markOnly c d →
      d.replies requests = c.replies requests ∧
        Agreeing markOnly (c.after requests) (d.after requests) := by
  induction requests with
  | nil => intro c d h; exact ⟨rfl, h⟩
  | cons r rest ih =>
      intro c d h
      obtain ⟨hreply, hserve⟩ := h.request r
      obtain ⟨hreplies, hafter⟩ := ih hserve
      exact ⟨by rw [replies, replies, hreply, hreplies], hafter⟩

end Agreeing

/-! ### Looks -/

namespace SameButMark

/-- No look shows the mark on the display. -/
theorem sight_eq (h : c.SameButMark d) (l : Look) : d.sight l = c.sight l := by
  obtain ⟨⟨sound, lastWord, dirty⟩, rfl, hu⟩ := h
  obtain ⟨rfl, rfl⟩ := hu trivial
  cases l <;> rfl

theorem interaction (h : c.SameButMark d) (i : Interaction) :
    d.answer i = c.answer i ∧ (c.meet i).SameButMark (d.meet i) := by
  cases i with
  | request r => exact Agreeing.request h r
  | look l => exact ⟨h.sight_eq l, h⟩

/-- An observation leaves no more than a cleared mark behind. -/
theorem of_observation (c : Console) {i : Interaction} (hi : i.isObservation = true) :
    c.SameButMark (c.meet i) := by
  cases i with
  | look l => exact Agreeing.refl c
  | request r =>
      cases r with
      | snapshot => exact ⟨⟨c.machine.sound, c.machine.lastWord, false⟩, rfl, fun _ => ⟨rfl, rfl⟩⟩
      | _ => cases hi

theorem through_observations {observed : List Interaction} :
    ∀ {d : Console}, (∀ i ∈ observed, i.isObservation = true) → c.SameButMark d →
      c.SameButMark (d.through observed) := by
  induction observed with
  | nil => intro d _ h; exact h
  | cons i rest ih =>
      intro d hi h
      rw [through_cons]
      exact ih (fun j hj => hi j (List.mem_cons_of_mem i hj))
        (Agreeing.trans h (of_observation d (hi i List.mem_cons_self)))

end SameButMark

/-! ### A host that looks, and one that does not -/

/-- Interactions, each with what is observed before it, as one sequence. -/
def woven (asked : List (List Interaction × Interaction)) : List Interaction :=
  asked.flatMap fun p => p.1 ++ [p.2]

/-- What the interactions are answered with if each of them comes after some observations; the
answers to the observations are left out. -/
def watched (c : Console) : List (List Interaction × Interaction) → List (Interaction × Answer)
  | [] => []
  | (observed, i) :: rest =>
    let d := c.through observed
    (i, d.answer i) :: (d.meet i).watched rest

theorem through_woven_cons (observed : List Interaction) (i : Interaction)
    (rest : List (List Interaction × Interaction)) (last : List Interaction) :
    d.through (woven ((observed, i) :: rest) ++ last) =
      ((d.through observed).meet i).through (woven rest ++ last) := by
  simp [woven, through]

theorem SameButMark.watched {asked : List (List Interaction × Interaction)}
    {last : List Interaction} (hlast : ∀ i ∈ last, i.isObservation = true) :
    ∀ {c d : Console}, (∀ p ∈ asked, ∀ i ∈ p.1, i.isObservation = true) → c.SameButMark d →
      d.watched asked = c.transcript (asked.map (·.2)) ∧
        (c.through (asked.map (·.2))).SameButMark (d.through (woven asked ++ last)) := by
  induction asked with
  | nil => intro c d _ h; exact ⟨rfl, through_observations hlast h⟩
  | cons p rest ih =>
      intro c d hasked h
      obtain ⟨observed, i⟩ := p
      have hobserved : c.SameButMark (d.through observed) :=
        through_observations (hasked _ List.mem_cons_self) h
      obtain ⟨hanswer, hmeet⟩ := hobserved.interaction i
      obtain ⟨htold, hthrough⟩ :=
        ih (fun q hq => hasked q (List.mem_cons_of_mem _ hq)) hmeet
      refine ⟨?_, ?_⟩
      · rw [List.map_cons, Console.watched, transcript, hanswer, htold]
      · rw [List.map_cons, through_cons, through_woven_cons]
        exact hthrough

/-- **Observations never change an execution.**  Machines that differ only in what no instruction
reads take the same cycle, and so do consoles for every sequence of requests: these are answered
alike.  In particular a host may make observations wherever it likes: what it asks for besides is
answered as if it had made none, and in the end only the mark on the display can tell. -/
theorem unchanged_by_observation :
    (∀ (rules : Rules) (source : ByteSource) (m n : Machine), m.Equivalent n →
      let o := m.step rules source
      let o' := n.step rules source
      o'.result = o.result ∧ o'.source = o.source ∧ o.machine.Equivalent o'.machine) ∧
    (∀ (c d : Console) (requests : List Request), c.Equivalent d →
      d.replies requests = c.replies requests ∧
        (c.after requests).Equivalent (d.after requests)) ∧
    ∀ (c : Console) (asked : List (List Interaction × Interaction)) (last : List Interaction),
      (∀ p ∈ asked, ∀ i ∈ p.1, i.isObservation = true) →
      (∀ i ∈ last, i.isObservation = true) →
        c.watched asked = c.transcript (asked.map (·.2)) ∧
          (c.through (asked.map (·.2))).SameButMark (c.through (woven asked ++ last)) := by
  refine ⟨?_, fun c d requests h => Agreeing.requests requests h, ?_⟩
  · rintro rules source m _ ⟨u, rfl⟩
    obtain ⟨u', hstep, -⟩ := Machine.step_withUnread rules source m u
    rw [hstep]
    exact ⟨rfl, rfl, u', rfl⟩
  · intro c asked last hasked hlast
    exact SameButMark.watched hlast hasked (Agreeing.refl c)

/-- A host that takes snapshots and looks at registers and memory around a cycle and a look of its
own, and one that does not. -/
theorem unchanged_by_observation_snapshot :
    let c := Console.new {} .zeros
    let asked : List (List Interaction × Interaction) :=
      [([.request .snapshot, .look .registers], .request .step),
        ([.look (.memoryText 16 0x200), .request .snapshot], .look .registers)]
    let last : List Interaction := [.look .nextWord, .request .snapshot]
    ((∀ p ∈ asked, ∀ i ∈ p.1, i.isObservation = true) ∧
        ∀ i ∈ last, i.isObservation = true) ∧
      c.watched asked = c.transcript [.request .step, .look .registers] ∧
        (c.through [.request .step, .look .registers]).SameButMark
          (c.through (woven asked ++ last)) := by
  intro c asked last
  have hasked : ∀ p ∈ asked, ∀ i ∈ p.1, i.isObservation = true := by decide
  have hlast : ∀ i ∈ last, i.isObservation = true := by decide
  exact ⟨⟨hasked, hlast⟩, unchanged_by_observation.2.2 c asked last hasked hlast⟩

end ChipEight.Console
