import ExtensionHost.Proofs.Task.Plans
import ExtensionHost.Proofs.Task.Sequences

/-!
# The first failure of a plan

A run of a plan does one act after the other: a leaf gives its value or fails, work is done, and the plan's
functions are called. `Plan.Runs` says which acts a plan does and what the run ends with, with one rule for
each way to go on. Every run that has ended is one of these (`Plan.exists_runs`). If it ends with an error,
then some leaf failed, and no leaf did anything after that one. What makes an error of its failure
was called once and no other, and the error then passed the functions around that leaf, innermost first
(`Plan.FailsAt`). All of it in one: `Plan.reports`.
-/

namespace ExtensionHost.Task

variable {σ ε δ α β κ : Type} {steps more : List (σ × σ)}

/-! ## Acts -/

/-- What a run of a plan does next, with what comes of it: a leaf gives its value or fails, work ends, a
function of `map` or `andThen` is called with a value, `onError` is called with a cause, or a function of
`mapError` is called with an error. -/
inductive Act (σ : Type) : Type 1 where
  | give {α : Type} (a : α) : Act σ
  | fail {ε : Type} (e : ε) : Act σ
  | work {α : Type} (work : Task σ Cause α) (result : Except Cause α) : Act σ
  | follow {α β : Type} (f : α → Code σ β) (a : α) (b : β) : Act σ
  | onError {ε : Type} (f : Cause → Code σ ε) (cause : Cause) (e : ε) : Act σ
  | mapError {ε δ : Type} (f : ε → Code σ δ) (e : ε) (e' : δ) : Act σ

/-- The steps of an act. The cause of work that panicked tells the message of the panic. -/
inductive Act.Takes : Act σ → List (σ × σ) → Prop
  | give {α : Type} (a : α) : Takes (.give a) []
  | fail {ε : Type} (e : ε) : Takes (.fail e) []
  | done {α : Type} {work : Task σ Cause α} {a : α} {steps : List (σ × σ)}
      (h : work.run.Leads steps (.done (.ok a))) : Takes (.work work (.ok a)) steps
  | failed {α : Type} {work : Task σ Cause α} {cause : Cause} {steps : List (σ × σ)}
      (h : work.run.Leads steps (.done (.error cause))) : Takes (.work work (.error cause)) steps
  | panicked {α : Type} {work : Task σ Cause α} {message : Option String} {steps : List (σ × σ)}
      (h : work.run.Leads steps (.panicked message)) :
      Takes (.work work (.error (.ofPanic message))) steps
  | follow {α β : Type} {f : α → Code σ β} {a : α} {b : β} {steps : List (σ × σ)}
      (h : (f a).Leads steps (.done b)) : Takes (.follow f a b) steps
  | onError {ε : Type} {f : Cause → Code σ ε} {cause : Cause} {e : ε} {steps : List (σ × σ)}
      (h : (f cause).Leads steps (.done e)) : Takes (.onError f cause e) steps
  | mapError {ε δ : Type} {f : ε → Code σ δ} {e : ε} {e' : δ} {steps : List (σ × σ)}
      (h : (f e).Leads steps (.done e')) : Takes (.mapError f e e') steps

/-- The steps of acts, one after the other. -/
inductive Took : List (Act σ) → List (σ × σ) → Prop
  | nil : Took [] []
  | cons {act : Act σ} {acts : List (Act σ)} {part steps : List (σ × σ)} (h : act.Takes part)
      (hRest : Took acts steps) : Took (act :: acts) (part ++ steps)

theorem Took.append {acts others : List (Act σ)} (h : Took acts steps) (hMore : Took others more) :
    Took (acts ++ others) (steps ++ more) := by
  induction h with
  | nil => exact hMore
  | cons h hRest ih =>
    rw [List.append_assoc]
    exact .cons h ih

/-- Acts behind which nothing happens have taken all steps. -/
theorem Took.of_done {acts : List (Act σ)} {a b : α} (h : Took acts steps)
    (hEnd : (Code.done a).Leads more (.done b)) : Took acts (steps ++ more) ∧ b = a := by
  obtain ⟨rfl, rfl⟩ := hEnd.value_eq
  exact ⟨(List.append_nil steps).symm ▸ h, rfl⟩

theorem Act.Takes.took {act : Act σ} (h : act.Takes steps) : Took [act] steps :=
  List.append_nil steps ▸ .cons h .nil

/-- A leaf that fails. -/
def Act.IsFailure : Act σ → Prop
  | .fail _ => True
  | .work _ (.error _) => True
  | _ => False

/-- An act that has to do with no failure: no leaf fails, and no function for errors is called. -/
def Act.Smooth : Act σ → Prop
  | .give _ => True
  | .work _ (.ok _) => True
  | .follow _ _ _ => True
  | _ => False

theorem Act.Smooth.not_isFailure {act : Act σ} (h : act.Smooth) : ¬ act.IsFailure := by
  cases act with
  | work work result => cases result <;> simp_all [Smooth, IsFailure]
  | give a | follow f a b => exact id
  | fail e | onError f cause e | mapError f e e' => exact h.elim

/-! ## Runs of plans -/

/-- The acts of a run of a plan and what it ends with. -/
inductive Plan.Runs : {ε α : Type} → Plan σ ε α → List (Act σ) → Except ε α → Prop
  | of {ε α : Type} (a : α) : Runs (.leaf (.of a : Leaf σ ε α)) [.give a] (.ok a)
  | fail {ε α : Type} (e : ε) : Runs (.leaf (.fail e : Leaf σ ε α)) [.fail e] (.error e)
  | done {ε α : Type} {work : Task σ Cause α} {onError : Cause → Code σ ε} {a : α} :
      Runs (.leaf (.attempt work onError)) [.work work (.ok a)] (.ok a)
  | failed {ε α : Type} {work : Task σ Cause α} {onError : Cause → Code σ ε} {cause : Cause} {e : ε} :
      Runs (.leaf (.attempt work onError)) [.work work (.error cause), .onError onError cause e]
        (.error e)
  | map {ε α β : Type} {p : Plan σ ε α} {f : α → Code σ β} {acts : List (Act σ)} {a : α} {b : β}
      (h : Runs p acts (.ok a)) : Runs (.map p f) (acts ++ [.follow f a b]) (.ok b)
  | map_error {ε α β : Type} {p : Plan σ ε α} {f : α → Code σ β} {acts : List (Act σ)} {e : ε}
      (h : Runs p acts (.error e)) : Runs (.map p f) acts (.error e)
  | mapError {ε δ α : Type} {p : Plan σ ε α} {f : ε → Code σ δ} {acts : List (Act σ)} {e : ε} {e' : δ}
      (h : Runs p acts (.error e)) : Runs (.mapError p f) (acts ++ [.mapError f e e']) (.error e')
  | mapError_ok {ε δ α : Type} {p : Plan σ ε α} {f : ε → Code σ δ} {acts : List (Act σ)} {a : α}
      (h : Runs p acts (.ok a)) : Runs (.mapError p f) acts (.ok a)
  | andThen {ε α β κ : Type} {p : Plan σ ε α} {choose : α → Code σ κ} {next : κ → Plan σ ε β}
      {acts others : List (Act σ)} {a : α} {k : κ} {result : Except ε β} (h : Runs p acts (.ok a))
      (hNext : Runs (next k) others result) :
      Runs (.andThen p choose next) (acts ++ .follow choose a k :: others) result
  | andThen_error {ε α β κ : Type} {p : Plan σ ε α} {choose : α → Code σ κ} {next : κ → Plan σ ε β}
      {acts : List (Act σ)} {e : ε} (h : Runs p acts (.error e)) :
      Runs (.andThen p choose next) acts (.error e)
  | sequence_nil {ε α : Type} (ps : Fin 0 → Plan σ ε α) : Runs (.sequence ps) [] (.ok [])
  | sequence_cons {ε α : Type} {n : Nat} {ps : Fin (n + 1) → Plan σ ε α} {acts others : List (Act σ)}
      {a : α} {rest : Except ε (List α)} (h : Runs (ps 0) acts (.ok a))
      (hRest : Runs (.sequence fun i : Fin n => ps i.succ) others rest) :
      Runs (.sequence ps) (acts ++ others) (rest.map (a :: ·))
  | sequence_error {ε α : Type} {n : Nat} {ps : Fin (n + 1) → Plan σ ε α} {acts : List (Act σ)} {e : ε}
      (h : Runs (ps 0) acts (.error e)) : Runs (.sequence ps) acts (.error e)

namespace Plan

/-- The steps of a run of a leaf that has ended. -/
theorem exists_runs_leaf {l : Leaf σ ε α} {result : Except ε α}
    (h : l.task.run.Leads steps (.done result)) :
    ∃ acts, Took acts steps ∧ (leaf l).Runs acts result := by
  cases l with
  | of a =>
    obtain ⟨rfl, rfl⟩ := h.value_eq
    exact ⟨[.give a], (Act.Takes.give a).took, .of a⟩
  | fail e =>
    obtain ⟨rfl, rfl⟩ := h.value_eq
    exact ⟨[.fail e], (Act.Takes.fail e).took, .fail e⟩
  | attempt work onError =>
    replace h : (Task.attempt work onError).run.Leads steps (.done result) := h
    rw [run_attempt] at h
    obtain ⟨before, after, caught, rfl, hWork, hSettled⟩ := h.bind_done
    have hFailed : ∀ cause, Act.Takes (.work work (.error cause)) before →
        (Except.error <$> onError cause).Leads after (.done result) →
        ∃ acts, Took acts (before ++ after) ∧ (leaf (.attempt work onError)).Runs acts result := by
      intro cause hTakes hCalled
      obtain ⟨e, rfl, hCall⟩ := hCalled.map_done
      exact ⟨_, .cons hTakes (Act.Takes.onError hCall).took, .failed⟩
    obtain ⟨settled, rfl, hDone⟩ | ⟨message, rfl, hPanicked⟩ := hWork.caught_done
    · cases settled with
      | ok a =>
        obtain ⟨hAll, rfl⟩ := (Act.Takes.done hDone).took.of_done hSettled
        exact ⟨_, hAll, .done⟩
      | error cause => exact hFailed cause (.failed hDone) hSettled
    · exact hFailed _ (.panicked hPanicked) hSettled

theorem exists_runs_sequence {n : Nat} {ps : Fin n → Plan σ ε α} {result : Except ε (List α)}
    (hEach : ∀ i steps result, (ps i).task.run.Leads steps (.done result) →
      ∃ acts, Took acts steps ∧ (ps i).Runs acts result)
    (h : (runAll [] (List.ofFn fun i => (ps i).task)).Leads steps (.done result)) :
    ∃ acts, Took acts steps ∧ (sequence ps).Runs acts result := by
  induction n generalizing steps result with
  | zero =>
    obtain ⟨rfl, rfl⟩ := h.value_eq
    exact ⟨[], .nil, .sequence_nil ps⟩
  | succ n ih =>
    rw [List.ofFn_succ] at h
    obtain ⟨before, after, first, rfl, hFirst, hRest⟩ := Code.Leads.bind_done h
    obtain ⟨acts, hTook, hRuns⟩ := hEach 0 _ _ hFirst
    cases first with
    | error e =>
      obtain ⟨hAll, rfl⟩ := hTook.of_done hRest
      exact ⟨acts, hAll, .sequence_error hRuns⟩
    | ok a =>
      simp only [runAll_eq_map ([] ++ [a])] at hRest
      obtain ⟨rest, rfl, hBehind⟩ := hRest.map_done
      obtain ⟨others, hTookRest, hRunsRest⟩ := ih (fun i => hEach i.succ) hBehind
      exact ⟨acts ++ others, hTook.append hTookRest, .sequence_cons hRuns hRunsRest⟩

/-- All steps of a run that has ended are those of the acts of a run of the plan. -/
theorem exists_runs {p : Plan σ ε α} {result : Except ε α}
    (h : p.task.run.Leads steps (.done result)) : ∃ acts, Took acts steps ∧ p.Runs acts result := by
  induction p generalizing steps with
  | leaf l => exact exists_runs_leaf h
  | map p f ih =>
    replace h : (p.task.map f).run.Leads steps (.done result) := h
    rw [run_map] at h
    obtain ⟨before, after, first, rfl, hFirst, hNext⟩ := h.bind_done
    obtain ⟨acts, hTook, hRuns⟩ := ih hFirst
    cases first with
    | ok a =>
      obtain ⟨b, rfl, hCall⟩ := hNext.map_done
      exact ⟨_, hTook.append (Act.Takes.follow hCall).took, .map hRuns⟩
    | error e =>
      obtain ⟨hAll, rfl⟩ := hTook.of_done hNext
      exact ⟨acts, hAll, .map_error hRuns⟩
  | mapError p f ih =>
    replace h : (p.task.mapError f).run.Leads steps (.done result) := h
    rw [run_mapError] at h
    obtain ⟨before, after, first, rfl, hFirst, hNext⟩ := h.bind_done
    obtain ⟨acts, hTook, hRuns⟩ := ih hFirst
    cases first with
    | ok a =>
      obtain ⟨hAll, rfl⟩ := hTook.of_done hNext
      exact ⟨acts, hAll, .mapError_ok hRuns⟩
    | error e =>
      obtain ⟨e', rfl, hCall⟩ := hNext.map_done
      exact ⟨_, hTook.append (Act.Takes.mapError hCall).took, .mapError hRuns⟩
  | andThen p choose next ih ihNext =>
    rw [Plan.run_andThen] at h
    obtain ⟨before, after, first, rfl, hFirst, hNext⟩ := h.bind_done
    obtain ⟨acts, hTook, hRuns⟩ := ih hFirst
    cases first with
    | ok a =>
      obtain ⟨chosen, behind, k, rfl, hCall, hNext⟩ := Code.Leads.bind_done hNext
      obtain ⟨others, hTookNext, hRunsNext⟩ := ihNext k hNext
      exact ⟨_, hTook.append (.cons (.follow hCall) hTookNext), .andThen hRuns hRunsNext⟩
    | error e =>
      obtain ⟨hAll, rfl⟩ := hTook.of_done hNext
      exact ⟨acts, hAll, .andThen_error hRuns⟩
  | sequence ps ih => exact exists_runs_sequence (fun i _ _ h => ih i h) h

end Plan

/-! ## The first failure -/

/-- The functions of `mapError` around a leaf, the innermost first. They make errors of a plan of the
errors of the leaf. -/
inductive Around (σ : Type) : Type → Type → Type 1 where
  | nil {ε : Type} : Around σ ε ε
  | cons {ε δ κ : Type} (f : ε → Code σ δ) (outer : Around σ δ κ) : Around σ ε κ

namespace Around

/-- A further function around all others. -/
def concat {ε δ κ : Type} : Around σ ε δ → (δ → Code σ κ) → Around σ ε κ
  | .nil, f => .cons f .nil
  | .cons g outer, f => .cons g (outer.concat f)

/-- The acts by which an error passes all functions around a leaf, and the error that comes out. -/
inductive Passes : {ε δ : Type} → Around σ ε δ → ε → List (Act σ) → δ → Prop
  | nil {ε : Type} (e : ε) : Passes .nil e [] e
  | cons {ε δ κ : Type} {f : ε → Code σ δ} {outer : Around σ δ κ} {acts : List (Act σ)} {e : ε} {e' : δ}
      {last : κ} (h : Passes outer e' acts last) :
      Passes (.cons f outer) e (.mapError f e e' :: acts) last

theorem Passes.concat {around : Around σ ε δ} {acts : List (Act σ)} {e : ε} {e' : δ}
    (h : around.Passes e acts e') (f : δ → Code σ κ) (last : κ) :
    (around.concat f).Passes e (acts ++ [.mapError f e' last]) last := by
  induction h with
  | nil e => exact .cons (.nil last)
  | cons h ih => exact .cons (ih f)

end Around

/-- The acts of a leaf that fails, and its error. -/
inductive Leaf.Fails : Leaf σ ε α → List (Act σ) → ε → Prop
  | fail (e : ε) : Fails (.fail e) [.fail e] e
  | attempt (work : Task σ Cause α) (onError : Cause → Code σ ε) (cause : Cause) (e : ε) :
      Fails (.attempt work onError) [.work work (.error cause), .onError onError cause e] e

theorem Leaf.Fails.exists_isFailure {l : Leaf σ ε α} {acts : List (Act σ)} {e : ε} (h : l.Fails acts e) :
    ∃ act ∈ acts, act.IsFailure := by
  cases h with
  | fail e => exact ⟨.fail e, List.mem_cons_self, trivial⟩
  | attempt work onError cause e => exact ⟨.work work (.error cause), List.mem_cons_self, trivial⟩

namespace Plan

/-- A plan that is a leaf has no functions around it. -/
inductive IsLeaf : {ε α ε' α' : Type} → Leaf σ ε α → Around σ ε' ε → Leaf σ ε' α' → Prop
  | here {ε α : Type} (l : Leaf σ ε α) : IsLeaf l .nil l

/-- A leaf of a plan with the functions of `mapError` that are around it. -/
def Encloses {ε α ε' α' : Type} : Plan σ ε α → Around σ ε' ε → Leaf σ ε' α' → Prop
  | .leaf l, around, l' => IsLeaf l around l'
  | .map p _, around, l => p.Encloses around l
  | .mapError p f, around, l => ∃ inner, around = inner.concat f ∧ p.Encloses inner l
  | .andThen p _ next, around, l => p.Encloses around l ∨ ∃ k, (next k).Encloses around l
  | .sequence ps, around, l => ∃ i, (ps i).Encloses around l

/-- How a run ends with an error: after acts that have to do with no failure, a leaf fails. Its error, made
by the leaf's own `onError` if it has one, passes the functions around it. There are no other acts. -/
inductive FailsAt (p : Plan σ ε α) (acts : List (Act σ)) (e : ε) : Prop
  | intro {ε' α' : Type} {l : Leaf σ ε' α'} {around : Around σ ε' ε}
      {before failing passing : List (Act σ)} {e' : ε'} (hLeaf : p.Encloses around l)
      (hBefore : ∀ act ∈ before, act.Smooth) (hFails : l.Fails failing e') (hPasses : around.Passes e' passing e)
      (hActs : acts = before ++ (failing ++ passing))

variable {p : Plan σ ε α} {acts : List (Act σ)} {e : ε}

theorem failsAt_leaf {l : Leaf σ ε α} (h : l.Fails acts e) : (Plan.leaf l).FailsAt acts e := by
  have hActs : acts = [] ++ (acts ++ []) := (List.append_nil acts).symm
  exact .intro (.here l) (List.forall_mem_nil _) h (.nil e) hActs

/-- A plan fails as one of its parts does, if nothing failed before. -/
theorem FailsAt.lift {q : Plan σ ε β} {front : List (Act σ)} (h : p.FailsAt acts e)
    (hFront : ∀ act ∈ front, act.Smooth)
    (hPart : ∀ {ε' α' : Type} (around : Around σ ε' ε) (l : Leaf σ ε' α'),
      p.Encloses around l → q.Encloses around l) : q.FailsAt (front ++ acts) e := by
  obtain ⟨hLeaf, hBefore, hFails, hPasses, rfl⟩ := h
  refine .intro (hPart _ _ hLeaf) ?_ hFails hPasses (List.append_assoc _ _ _).symm
  exact List.forall_mem_append.mpr ⟨hFront, hBefore⟩

theorem FailsAt.part {q : Plan σ ε β} (h : p.FailsAt acts e)
    (hPart : ∀ {ε' α' : Type} (around : Around σ ε' ε) (l : Leaf σ ε' α'),
      p.Encloses around l → q.Encloses around l) : q.FailsAt acts e :=
  h.lift (List.forall_mem_nil _) hPart

theorem FailsAt.mapError (h : p.FailsAt acts e) (f : ε → Code σ δ) (e' : δ) :
    (Plan.mapError p f).FailsAt (acts ++ [.mapError f e e']) e' := by
  obtain ⟨hLeaf, hBefore, hFails, hPasses, rfl⟩ := h
  refine .intro ⟨_, rfl, hLeaf⟩ hBefore hFails (hPasses.concat f e') ?_
  simp only [List.append_assoc]

/-- A run that gives a value does nothing that has to do with a failure. -/
theorem Runs.smooth {result : Except ε α} (h : p.Runs acts result) :
    ∀ a, result = .ok a → ∀ act ∈ acts, act.Smooth := by
  induction h with
  | of a | done => exact fun _ _ => List.forall_mem_singleton.mpr trivial
  | fail e | failed => exact fun _ hEnd => nomatch hEnd
  | map_error h ih | mapError h ih | andThen_error h ih | sequence_error h ih =>
    exact fun _ hEnd => nomatch hEnd
  | map h ih =>
    exact fun _ _ => List.forall_mem_append.mpr ⟨ih _ rfl, List.forall_mem_singleton.mpr trivial⟩
  | mapError_ok h ih => exact fun _ _ => ih _ rfl
  | andThen h hNext ih ihNext =>
    exact fun b hEnd =>
      List.forall_mem_append.mpr ⟨ih _ rfl, List.forall_mem_cons.mpr ⟨trivial, ihNext b hEnd⟩⟩
  | sequence_nil ps => exact fun _ _ _ hAct => nomatch hAct
  | @sequence_cons _ _ _ _ _ _ _ rest h hRest ih ihRest =>
    cases rest with
    | error e => exact fun _ hEnd => nomatch hEnd
    | ok as => exact fun _ _ => List.forall_mem_append.mpr ⟨ih _ rfl, ihRest as rfl⟩

/-- A run that ends with an error fails at some leaf. -/
theorem Runs.failsAt {result : Except ε α} (h : p.Runs acts result) :
    ∀ e, result = .error e → p.FailsAt acts e := by
  induction h with
  | of a | done | map h | mapError_ok h | sequence_nil ps => exact fun _ hEnd => nomatch hEnd
  | fail e =>
    rintro _ ⟨⟩
    exact failsAt_leaf (.fail e)
  | failed =>
    rintro _ ⟨⟩
    exact failsAt_leaf (.attempt _ _ _ _)
  | map_error h ih =>
    rintro _ ⟨⟩
    exact (ih _ rfl).part fun _ _ hLeaf => hLeaf
  | mapError h ih =>
    rintro _ ⟨⟩
    exact (ih _ rfl).mapError _ _
  | andThen h hNext ih ihNext =>
    intro e hEnd
    rw [List.append_cons]
    refine (ihNext e hEnd).lift ?_ fun _ _ hLeaf => .inr ⟨_, hLeaf⟩
    exact List.forall_mem_append.mpr ⟨h.smooth _ rfl, List.forall_mem_singleton.mpr trivial⟩
  | andThen_error h ih =>
    rintro _ ⟨⟩
    exact (ih _ rfl).part fun _ _ hLeaf => .inl hLeaf
  | @sequence_cons _ _ _ _ _ _ _ rest h hRest ih ihRest =>
    cases rest with
    | ok as => exact fun _ hEnd => nomatch hEnd
    | error e =>
      rintro _ ⟨⟩
      exact (ihRest e rfl).lift (h.smooth _ rfl) fun _ _ ⟨i, hLeaf⟩ => ⟨i.succ, hLeaf⟩
  | sequence_error h ih =>
    rintro _ ⟨⟩
    exact (ih _ rfl).part fun _ _ hLeaf => ⟨0, hLeaf⟩

theorem FailsAt.exists_isFailure (h : p.FailsAt acts e) : ∃ act ∈ acts, act.IsFailure := by
  obtain ⟨-, -, hFails, -, rfl⟩ := h
  obtain ⟨act, hAct, hFailure⟩ := hFails.exists_isFailure
  exact ⟨act, List.mem_append_right _ (List.mem_append_left _ hAct), hFailure⟩

/-! ## Reports -/

/-- What a run of a plan that has ended did: its steps are those of acts of the plan. It ends with an error
just if a leaf failed, and then this failure is the first and the last one, and it is the one that is
reported. -/
structure Reports (p : Plan σ ε α) (acts : List (Act σ)) (steps : List (σ × σ))
    (result : Except ε α) : Prop where
  took : Took acts steps
  runs : p.Runs acts result
  error_iff : (∃ e, result = .error e) ↔ ∃ act ∈ acts, act.IsFailure
  failsAt : ∀ e, result = .error e → p.FailsAt acts e

theorem Runs.error_iff {result : Except ε α} (h : p.Runs acts result) :
    (∃ e, result = .error e) ↔ ∃ act ∈ acts, act.IsFailure := by
  constructor
  · rintro ⟨e, hEnd⟩
    exact (h.failsAt e hEnd).exists_isFailure
  · rintro ⟨act, hAct, hFailure⟩
    cases result with
    | ok a => exact ((h.smooth a rfl act hAct).not_isFailure hFailure).elim
    | error e => exact ⟨e, rfl⟩

theorem exists_reports {result : Except ε α} (h : p.task.run.Leads steps (.done result)) :
    ∃ acts, p.Reports acts steps result := by
  obtain ⟨acts, hTook, hRuns⟩ := exists_runs h
  exact ⟨acts, hTook, hRuns, hRuns.error_iff, hRuns.failsAt⟩

/-- Tries something and notes its number. The error is the cause with the numbers of what it passed. -/
private def trying (number : Nat) (future : Code (List Nat) (Except Cause Nat)) :
    Plan (List Nat) (Cause × List Nat) Nat :=
  .leaf (.attempt ⟨do modify (number :: ·); pure future⟩ fun cause => pure (cause, [number]))

/-- Notes a number with an error that passes. -/
private def noted (number : Nat) (e : Cause × List Nat) : Code (List Nat) (Cause × List Nat) := do
  modify (number :: ·)
  pure (e.1, e.2 ++ [number])

/-- Three tasks in order, of which the second panics when it is waited for. -/
private def trials : Plan (List Nat) (Cause × List Nat) (List Nat) :=
  .mapError
    (.sequence [trying 1 (pure (.ok 1)), .mapError (trying 2 (.panicked (some "halt"))) (noted 3),
      trying 4 (pure (.ok 4))].get)
    (noted 5)

/-- **A plan whose functions do not panic ends with a value or with its first failure.** This holds of
each of its runs, whatever else a schedule interleaves. No run is ever a panic, and one that gets its turn
again and again ends. -/
theorem reports (p : Plan σ ε α) (hCalm : p.Calm) (s : σ) (schedule : Nat → Move σ) :
    (∀ time, ∀ r ∈ (Executor.after p.task s schedule time).runs,
      (∀ message, r.left ≠ .panicked message) ∧
      ∀ result, r.left = .done result → ∃ acts, p.Reports acts r.steps result) ∧
    ∀ time number, number < (Executor.after p.task s schedule time).runs.length →
      Executor.Turns schedule number →
      ∃ later r result, time ≤ later ∧
        (Executor.after p.task s schedule later).runs[number]? = some r ∧ r.left = .done result := by
  have hLeads : ∀ time, ∀ r ∈ (Executor.after p.task s schedule time).runs,
      p.task.run.Leads r.steps r.left := Executor.leads_of_mem schedule
  have hNever : ∀ time, ∀ r ∈ (Executor.after p.task s schedule time).runs, r.left.Calm :=
    fun time r hr => (hLeads time r hr).calm hCalm.task
  refine ⟨fun time r hr => ⟨fun message hLeft => ?_, fun result hLeft => ?_⟩,
    fun time number h hTurns => ?_⟩
  · have hPanicked := hNever time r hr
    rw [hLeft] at hPanicked
    exact hPanicked
  · exact exists_reports (hLeft ▸ hLeads time r hr)
  · obtain ⟨later, r, hLater, hRun, hOver⟩ := Executor.exists_isOver h hTurns
    have hLeft := hNever later r (List.mem_of_getElem? hRun)
    obtain ⟨left, steps⟩ := r
    cases left with
    | done result => exact ⟨later, _, result, hLater, hRun, rfl⟩
    | panicked message => exact hLeft.elim
    | step change next => cases hOver

/-- A run of three tasks fails at the second, and its error passes the two functions around it. -/
theorem reports_trials :
    trials.Calm ∧ ∃ acts, trials.Reports acts [([], [1]), ([1], [2, 1]), ([2, 1], [3, 2, 1]),
      ([3, 2, 1], [5, 3, 2, 1])] (.error (.ofPanic (some "halt"), [2, 3, 5])) := by
  have hCalm : trials.Calm := by
    refine ⟨fun i => ?_, fun _ _ => trivial⟩
    match i with
    | ⟨0, _⟩ => exact fun _ => trivial
    | ⟨1, _⟩ => exact ⟨fun _ => trivial, fun _ _ => trivial⟩
    | ⟨2, _⟩ => exact fun _ => trivial
  have hRuns := (trials.reports hCalm [] Executor.alone).1 5
  exact ⟨hCalm, (hRuns _ (List.Mem.head _)).2 _ rfl⟩

end Plan

end ExtensionHost.Task
