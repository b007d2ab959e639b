import ExtensionHost.Task.Schedule

/-!
# Steps of code

`c.Leads steps d` says that code `c` has `d` left of it when it has taken the steps, which are given by the
states before and after each. What happens to the state between two steps is left open. So this covers
code among anything else that runs (`Task.Executor.leads_of_mem`). A run that gets its turn again and again
comes to an end (`Task.Executor.exists_isOver`), and one that nothing interrupts ends as `Code.run` says
(`Task.Executor.exists_after_alone`).
-/

namespace ExtensionHost

namespace Code

variable {σ α β : Type} {c d : Code σ α} {steps more : List (σ × σ)}

/-! ## Steps -/

/-- Code has some code left of it when it has taken some steps. -/
inductive Leads : Code σ α → List (σ × σ) → Code σ α → Prop
  | here (c : Code σ α) : Leads c [] c
  | step (change : σ → σ) {next : σ → Code σ α} (s : σ) {steps : List (σ × σ)} {d : Code σ α}
      (h : Leads (next s) steps d) : Leads (.step change next) ((s, change s) :: steps) d

theorem Leads.trans {e : Code σ α} (h : c.Leads steps d) (hMore : d.Leads more e) :
    c.Leads (steps ++ more) e := by
  induction h with
  | here c => exact hMore
  | step change s h ih => exact .step change s (ih hMore)

theorem Leads.of_isOver (h : c.Leads steps d) (hOver : c.isOver) : steps = [] ∧ d = c := by
  cases h with
  | here => exact ⟨rfl, rfl⟩
  | step change s h => cases hOver

theorem leads_done_iff {a : α} : (done a).Leads steps d ↔ steps = [] ∧ d = done a := by
  constructor
  · exact fun h => h.of_isOver rfl
  · rintro ⟨rfl, rfl⟩
    exact .here _

theorem Leads.value_eq {a b : α} (h : (done a).Leads steps (.done b)) : steps = [] ∧ b = a := by
  obtain ⟨rfl, hEnd⟩ := leads_done_iff.mp h
  cases hEnd
  exact ⟨rfl, rfl⟩

/-! ## Code that goes on -/

theorem isOver_bind (f : α → Code σ β) (h : c.isOver = false) : (c >>= f).isOver = false := by
  cases c with
  | step change next => rfl
  | done a | panicked message => cases h

/-- How far code that goes on has come: it is still in its first part, it has panicked there, or the first
part has given a value and the second is under way. -/
inductive Onward (c : Code σ α) (f : α → Code σ β) : List (σ × σ) → Code σ β → Prop
  | first {steps : List (σ × σ)} {d : Code σ α} (h : c.Leads steps d) (hUnder : d.isOver = false) :
      Onward c f steps (d >>= f)
  | stuck {steps : List (σ × σ)} {message : Option String} (h : c.Leads steps (.panicked message)) :
      Onward c f steps (.panicked message)
  | second {before after : List (σ × σ)} {a : α} {d : Code σ β} (h : c.Leads before (.done a))
      (hNext : (f a).Leads after d) : Onward c f (before ++ after) d

theorem Onward.step {next : σ → Code σ α} {f : α → Code σ β} {e : Code σ β} (change : σ → σ) (s : σ)
    (h : Onward (next s) f steps e) : Onward (.step change next) f ((s, change s) :: steps) e := by
  cases h with
  | first h hUnder => exact .first (.step change s h) hUnder
  | stuck h => exact .stuck (.step change s h)
  | second h hNext => exact .second (.step change s h) hNext

theorem onward_here (c : Code σ α) (f : α → Code σ β) : Onward c f [] (c >>= f) := by
  cases c with
  | done a => exact .second (.here _) (.here _)
  | panicked message => exact .stuck (.here _)
  | step change next => exact .first (.here _) rfl

theorem Leads.onward {f : α → Code σ β} {e : Code σ β} (h : (c >>= f).Leads steps e) :
    Onward c f steps e := by
  induction c generalizing steps with
  | done a => exact .second (.here _) h
  | panicked message =>
    obtain ⟨rfl, rfl⟩ := h.of_isOver rfl
    exact onward_here _ _
  | step change next ih =>
    cases h with
    | here => exact onward_here _ _
    | step _ s h => exact (ih s h).step change s

/-- Code that goes on is done when both of its parts are. -/
theorem Leads.bind_done {f : α → Code σ β} {b : β} (h : (c >>= f).Leads steps (.done b)) :
    ∃ before after a, steps = before ++ after ∧ c.Leads before (.done a) ∧
      (f a).Leads after (.done b) := by
  generalize hEnd : done b = e at h
  cases h.onward with
  | first hFirst hUnder =>
    have hOver := isOver_bind f hUnder
    rw [← hEnd] at hOver
    cases hOver
  | stuck hFirst => cases hEnd
  | second hFirst hNext => exact ⟨_, _, _, rfl, hFirst, hEnd ▸ hNext⟩

theorem Leads.of_map {f : α → β} {e : Code σ β} (h : (f <$> c).Leads steps e) :
    ∃ d, c.Leads steps d ∧ e = f <$> d := by
  induction c generalizing steps with
  | done a | panicked message =>
    obtain ⟨rfl, rfl⟩ := h.of_isOver rfl
    exact ⟨_, .here _, rfl⟩
  | step change next ih =>
    cases h with
    | here => exact ⟨_, .here _, rfl⟩
    | step _ s h =>
      obtain ⟨d, hLeads, rfl⟩ := ih s h
      exact ⟨d, .step change s hLeads, rfl⟩

theorem Leads.map_done {f : α → β} {b : β} (h : (f <$> c).Leads steps (.done b)) :
    ∃ a, f a = b ∧ c.Leads steps (.done a) := by
  obtain ⟨d, hLeads, hEnd⟩ := h.of_map
  cases d with
  | done a => cases hEnd; exact ⟨a, rfl, hLeads⟩
  | panicked message | step change next => cases hEnd

/-- Caught code is done when the code is or has panicked. -/
theorem Leads.caught_done {r : Except (Option String) α} (h : c.caught.Leads steps (.done r)) :
    (∃ a, r = .ok a ∧ c.Leads steps (.done a)) ∨
      ∃ message, r = .error message ∧ c.Leads steps (.panicked message) := by
  induction c generalizing steps with
  | done a =>
    obtain ⟨rfl, rfl⟩ := h.value_eq
    exact .inl ⟨a, rfl, .here _⟩
  | panicked message =>
    obtain ⟨rfl, rfl⟩ := h.value_eq
    exact .inr ⟨message, rfl, .here _⟩
  | step change next ih =>
    cases h with
    | step _ s h =>
      obtain ⟨a, hValue, hDone⟩ | ⟨message, hValue, hPanicked⟩ := ih s h
      · exact .inl ⟨a, hValue, .step change s hDone⟩
      · exact .inr ⟨message, hValue, .step change s hPanicked⟩

/-! ## Code that does not panic -/

/-- Code that does not panic, whatever states it finds. -/
def Calm : Code σ α → Prop
  | .done _ => True
  | .panicked _ => False
  | .step _ next => ∀ s, (next s).Calm

theorem Calm.bind {f : α → Code σ β} (h : c.Calm) (hNext : ∀ a, (f a).Calm) : (c >>= f).Calm := by
  induction c with
  | done a => exact hNext a
  | panicked message => exact h.elim
  | step change next ih => exact fun s => ih s (h s)

theorem Calm.map (h : c.Calm) (f : α → β) : (f <$> c).Calm := by
  rw [map_eq_pure_bind]
  exact h.bind fun _ => trivial

theorem calm_caught (c : Code σ α) : c.caught.Calm := by
  induction c with
  | done a => trivial
  | panicked message => trivial
  | step change next ih => exact ih

theorem Leads.calm (h : c.Leads steps d) (hCalm : c.Calm) : d.Calm := by
  induction h with
  | here c => exact hCalm
  | step change s h ih => exact ih (hCalm s)

end Code

/-! ## Runs -/

namespace Task

variable {σ ε α : Type} {t : Task σ ε α} {r : Run σ ε α} {x : Executor σ ε α} {s : σ}

theorem Run.leads_advance {c : Code σ (Except ε α)} (h : c.Leads r.steps r.left) (s : σ) :
    c.Leads (r.advance s).1.steps (r.advance s).1.left := by
  unfold advance
  split
  case h_1 change next hLeft => exact h.trans (hLeft ▸ .step change s (.here _))
  case h_2 => exact h

namespace Executor

/-- What holds of a run that begins and is kept by each of its steps holds of all runs. -/
theorem forall_play {P : Run σ ε α → Prop} (hStart : P ⟨t.run, []⟩)
    (hAdvance : ∀ r s, P r → P (r.advance s).1) (h : ∀ r ∈ x.runs, P r) (m : Move σ) :
    ∀ r ∈ (x.play t m).runs, P r := by
  intro r hr
  cases m with
  | start =>
    obtain hOld | hNew := List.mem_append.mp hr
    · exact h r hOld
    · exact List.mem_singleton.mp hNew ▸ hStart
  | interfere change => exact h r hr
  | advance number =>
    unfold play at hr
    cases hRun : x.runs[number]? with
    | none => exact h r (by simpa only [hRun] using hr)
    | some old =>
      simp only [hRun] at hr
      obtain hOld | rfl := List.mem_or_eq_of_mem_set hr
      · exact h r hOld
      · exact hAdvance old x.state (h old (List.mem_of_getElem? hRun))

/-- All that any run of a task has done are steps of the task. -/
theorem leads_of_mem (schedule : Nat → Move σ) (time : Nat) :
    ∀ r ∈ (after t s schedule time).runs, t.run.Leads r.steps r.left := by
  induction time with
  | zero => exact fun r hr => nomatch hr
  | succ time ih => exact forall_play (.here _) (fun r s h => r.leads_advance h s) ih _

/-! ## Turns -/

/-- A schedule gives a run its turn again and again. -/
def Turns (schedule : Nat → Move σ) (number : Nat) : Prop :=
  ∀ time, ∃ later, time ≤ later ∧ schedule later = .advance number

theorem play_advance {number : Nat} (h : x.runs[number]? = some r) :
    (x.play t (.advance number)).runs[number]? = some (r.advance x.state).1 := by
  have hNumber : number < x.runs.length := (List.getElem?_eq_some_iff.mp h).1
  simp only [play, h]
  exact List.getElem?_set_self hNumber

theorem play_of_ne {number : Nat} {m : Move σ} (h : x.runs[number]? = some r)
    (hOther : m ≠ .advance number) : (x.play t m).runs[number]? = some r := by
  have hNumber : number < x.runs.length := (List.getElem?_eq_some_iff.mp h).1
  cases m with
  | start => exact (List.getElem?_append_left hNumber).trans h
  | interfere change => exact h
  | advance other =>
    have hNe : other ≠ number := fun hSame => hOther (hSame ▸ rfl)
    cases hRun : x.runs[other]? with
    | none => simpa only [play, hRun] using h
    | some old => simpa only [play, hRun, List.getElem?_set_ne hNe] using h

theorem after_advance {schedule : Nat → Move σ} {number time : Nat}
    (h : (after t s schedule time).runs[number]? = some r)
    (hNow : schedule time = .advance number) :
    (after t s schedule (time + 1)).runs[number]? =
      some (r.advance (after t s schedule time).state).1 := by
  rw [after, hNow]
  exact play_advance h

/-- A run that gets its turn again is as it is now until it takes its next step. -/
theorem exists_advance {schedule : Nat → Move σ} {number time : Nat}
    (h : (after t s schedule time).runs[number]? = some r) (hTurns : Turns schedule number) :
    ∃ later found, time < later ∧
      (after t s schedule later).runs[number]? = some (r.advance found).1 := by
  obtain ⟨turn, hTurn, hAdvance⟩ := hTurns time
  obtain ⟨gap, rfl⟩ := Nat.exists_eq_add_of_le hTurn
  induction gap generalizing time with
  | zero => exact ⟨time + 1, _, Nat.lt_succ_self _, after_advance h hAdvance⟩
  | succ gap ih =>
    by_cases hNow : schedule time = .advance number
    · exact ⟨time + 1, _, Nat.lt_succ_self _, after_advance h hNow⟩
    · have hNext : (after t s schedule (time + 1)).runs[number]? = some r := play_of_ne h hNow
      rw [← Nat.add_assoc, Nat.add_right_comm] at hAdvance
      obtain ⟨later, found, hLater, hRun⟩ := ih hNext (Nat.le_add_right _ _) hAdvance
      exact ⟨later, found, Nat.lt_of_succ_lt hLater, hRun⟩

/-- A run that gets its turn again and again ends. -/
theorem exists_isOver {schedule : Nat → Move σ} {number time : Nat}
    (h : number < (after t s schedule time).runs.length) (hTurns : Turns schedule number) :
    ∃ later r, time ≤ later ∧ (after t s schedule later).runs[number]? = some r ∧ r.left.isOver := by
  obtain ⟨r, hRun⟩ : ∃ r, (after t s schedule time).runs[number]? = some r :=
    ⟨_, List.getElem?_eq_getElem h⟩
  obtain ⟨left, steps⟩ := r
  -- by induction on the code that is left of the run
  induction left generalizing time steps with
  | done a => exact ⟨time, _, Nat.le_refl _, hRun, rfl⟩
  | panicked message => exact ⟨time, _, Nat.le_refl _, hRun, rfl⟩
  | step change next ih =>
    obtain ⟨soon, found, hSoon, hNext⟩ := exists_advance hRun hTurns
    obtain ⟨later, r, hLater, hEnd⟩ := ih found (List.getElem?_eq_some_iff.mp hNext).1 _ hNext
    exact ⟨later, r, Nat.le_trans (Nat.le_of_lt hSoon) hLater, hEnd⟩

/-! ## A single run -/

/-- The code that is left when a run has ended. -/
def ended : Except (Option String) (Except ε α) → Code σ (Except ε α)
  | .ok result => .done result
  | .error message => .panicked message

/-- A run that nothing interrupts ends as the code runs. -/
theorem exists_after_alone (t : Task σ ε α) (s : σ) :
    ∃ time steps, after t s alone time = ⟨(t.run.run s).2, [⟨ended (t.run.run s).1, steps⟩]⟩ := by
  have hRest : ∀ (c : Code σ (Except ε α)) s' steps time,
      after t s alone (time + 1) = ⟨s', [⟨c, steps⟩]⟩ →
      ∃ time steps, after t s alone time = ⟨(c.run s').2, [⟨ended (c.run s').1, steps⟩]⟩ := by
    intro c
    induction c with
    | done a | panicked message => exact fun s' steps time h => ⟨time + 1, steps, h⟩
    | step change next ih =>
      intro s' steps time h
      refine ih s' _ (steps ++ [(s', change s')]) (time + 1) ?_
      rw [after, h]
      rfl
  exact hRest t.run s [] 0 rfl

end Executor

end Task

end ExtensionHost
