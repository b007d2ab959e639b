import ExtensionHost.Proofs.Lifecycle.Notices
import ExtensionHost.Proofs.Lifecycle.Startups
import Mathlib.Data.List.Forall2

/-!
# Startups are gated and reported once

Several startups may overlap in a run. `Startups` follows each of them by its own steps, from the move
that begins it to the move with which it ends. `Stage.gated_playAll` says of all of them that a client is
made only after the startup's own call has made its own scripts executable, that a client is stored only
when it has started, and that a startup which ends in the epoch in which it began writes one line, which
says what became of it, while one that was overtaken by a deactivation writes none.
-/

namespace ExtensionHost

/-! ## Following startups -/

/-- A step of a startup: a move, in the stage before it. -/
structure Step where
  stage : Stage
  move : Move

namespace Step

/-- The epoch in which a step is made. -/
def epoch (p : Step) : Nat := p.stage.epoch

/-- The events of the server that a step records. -/
def reported (x : Surroundings) (p : Step) : List Event := p.stage.reported x p.move

/-- Whether the scripts were made executable with a step. -/
def executable (p : Step) : Bool := p.stage.executableBy p.move

/-- The client that has started with a step. -/
def started (p : Step) : Option Nat := p.stage.startedBy p.move

/-- The phase of the extension after a step. -/
def phaseAfter (x : Surroundings) (p : Step) : Phase := (p.stage.play x p.move).session.extension.phase

end Step

/-- The startups of a run. For each operation that waits there are the steps of the startup that it makes,
none if it has not begun to start the server; then there are those that have ended. -/
structure Startups where
  underWay : List (List Step) := []
  ended : List (List Step) := []

namespace Startups

/-- The steps so far of the startup that makes a move. -/
def steps (u : Startups) : Move → List Step
  | .reply number _ => (u.underWay[number]?).getD []
  | _ => []

/-- The startups under way that do not make a move. -/
def others (u : Startups) : Move → List (List Step)
  | .reply number _ => u.underWay.eraseIdx number
  | _ => u.underWay

/-- The steps of the startup that makes a move, with the move; none if no startup makes it. -/
def next (x : Surroundings) (u : Startups) (g : Stage) (m : Move) : List Step :=
  if (g.startup? x m).isNone && (u.steps m).isEmpty then [] else u.steps m ++ [⟨g, m⟩]

/-- The startups after a move. The one that makes the move is under way as long as its operation
waits. -/
def play (x : Surroundings) (u : Startups) (g : Stage) (m : Move) : Startups :=
  if (g.others m).length < (g.play x m).waiting.length then
    { u with underWay := u.others m ++ [u.next x g m] }
  else ⟨u.others m, u.ended ++ [u.next x g m].filter fun steps => !steps.isEmpty⟩

/-- The startups after several moves. -/
def playAll (x : Surroundings) : Startups → Stage → List Move → Startups
  | u, _, [] => u
  | u, g, m :: moves => (u.play x g m).playAll x (g.play x m) moves

end Startups

/-! ## What is said of a startup -/

/-- The lines that the steps of a startup write about its outcome. -/
def outcomes (x : Surroundings) (steps : List Step) : List Event :=
  (steps.flatMap (Step.reported x)).filter Event.isOutcome

/-- The calls with which the steps of a startup change permissions. -/
def chmods (x : Surroundings) (steps : List Step) : List Event :=
  (steps.flatMap (Step.reported x)).filter Event.isChmod

/-- The last step of a startup is made in the epoch in which the startup began. -/
def Current (steps : List Step) : Prop :=
  steps.head?.map Step.epoch = steps.getLast?.map Step.epoch

/-- The steps of a startup write one line about its outcome and end in a phase. -/
def EndsWith (x : Surroundings) (steps : List Step) (line : Event) (phase : Phase) : Prop :=
  outcomes x steps = [line] ∧ ∀ p ∈ steps.getLast?, p.phaseAfter x = phase

/-- How a startup may have ended. -/
inductive Concluded (x : Surroundings) (steps : List Step) : Prop where
  /-- The scripts were not found or not made executable. -/
  | unscripted {line : Event} (hCurrent : Current steps) (hScripts : ∀ p ∈ steps, p.executable = false)
      (hLine : line.isScriptFailure = true) (hEnds : EndsWith x steps line .inactive) :
      Concluded x steps
  /-- The scripts were made executable, and no client has started. -/
  | unstarted {line : Event} (hCurrent : Current steps) (hScripts : ∃ p ∈ steps, p.executable = true)
      (hClient : ∀ p ∈ steps, p.started = none) (hLine : line.isStartFailure = true)
      (hEnds : EndsWith x steps line .inactive) : Concluded x steps
  /-- The scripts were made executable, and the client has started. -/
  | running (hCurrent : Current steps) (hScripts : ∃ p ∈ steps, p.executable = true)
      (hClient : ∃ p ∈ steps, p.started.isSome = true)
      (hEnds : EndsWith x steps (.log "Activated") .running) : Concluded x steps
  /-- The extension was deactivated meanwhile. -/
  | overtaken (hLate : ¬ Current steps) (hSilent : outcomes x steps = []) : Concluded x steps

/-- The call that lets everyone run scripts. -/
def chmodCall (scripts : List String) : Event :=
  .process { program := "/usr/bin/env", args := "chmod" :: "a+x" :: scripts }

/-- The startup that makes a step begins with it, lists scripts and has them made executable. -/
structure Step.Lists (x : Surroundings) (p : Step) (scripts : List String) : Prop where
  begins : ∃ s, p.stage.startup? x p.move = some s ∧ s.launchScripts x = .ok scripts
  asks : p.reported x = [chmodCall scripts]

/-- Startups are gated and reported, in a stage and with every move that may be made in it. -/
structure Gated (x : Surroundings) (u : Startups) (g : Stage) : Prop where
  created : ∀ m, ∀ e ∈ g.reported x m, e.isCreate = true → ∃ first scripts,
    u.steps m = [first] ∧ first.Lists x scripts ∧ scripts ≠ [] ∧
    chmods x [first, ⟨g, m⟩] = [chmodCall scripts] ∧
    g.executableBy m = true
  stored : ∀ m client, (g.play x m).session.extension.slot = some client →
    g.session.extension.slot ≠ some client →
    g.startedBy m = some client ∧ ∃ first second, u.steps m = [first, second] ∧
      second.reported x = [Session.creation x, .start client]
  reported : ∀ m, ∀ e ∈ g.reported x m, e.isOutcome = true →
    ∃ steps, (u.play x g m).ended = u.ended ++ [steps] ∧ steps.getLast? = some ⟨g, m⟩
  concluded : ∀ steps ∈ u.ended, Concluded x steps

/-! ## Startups under way -/

/-- How far a startup got whose operation waits in an epoch. -/
inductive UnderWay (x : Surroundings) (epoch : Nat) : Wait → List Step → Prop where
  | scripts {first : Step} {scripts : List String} (hLists : first.Lists x scripts) :
      UnderWay x epoch (.chmod first.epoch) [first]
  | client {first second : Step} {scripts : List String} {noted client : Nat}
      (hLists : first.Lists x scripts)
      (hAnswered : second.stage.answered second.move = some (.chmod noted))
      (hDone : second.executable = true)
      (hMade : second.reported x = [Session.creation x, .start client]) :
      UnderWay x epoch (.start first.epoch client) [first, second]
  | overtaken {first : Step} {rest : List Step} {client : Nat} (hLate : first.epoch < epoch)
      (hSilent : outcomes x (first :: rest) = []) :
      UnderWay x epoch (.staleStop client) (first :: rest)
  | other {w : Wait} (hOther : w.inStartup = false) : UnderWay x epoch w []

variable {x : Surroundings} {u : Startups} {g : Stage} {m : Move} {steps : List Step}

theorem UnderWay.later {epoch later : Nat} {w : Wait} (h : UnderWay x epoch w steps)
    (hLater : epoch ≤ later) : UnderWay x later w steps := by
  cases h with
  | scripts hLists => exact .scripts hLists
  | client hLists hAnswered hDone hMade => exact .client hLists hAnswered hDone hMade
  | overtaken hLate hSilent => exact .overtaken (Nat.lt_of_lt_of_le hLate hLater) hSilent
  | other hOther => exact .other hOther

/-- The startups that are followed are those of a stage. -/
structure Startups.Follow (x : Surroundings) (u : Startups) (g : Stage) : Prop where
  underWay : List.Forall₂ (UnderWay x g.epoch) g.waits u.underWay
  ended : ∀ steps ∈ u.ended, Concluded x steps

theorem forall₂_eraseIdx {α β : Type} {R : α → β → Prop} {as : List α} {bs : List β}
    (h : List.Forall₂ R as bs) (number : Nat) :
    List.Forall₂ R (as.eraseIdx number) (bs.eraseIdx number) := by
  rw [List.eraseIdx_eq_take_drop_succ, List.eraseIdx_eq_take_drop_succ]
  exact List.rel_append (List.forall₂_take number h) (List.forall₂_drop (number + 1) h)

theorem forall₂_getElem? {α β : Type} {R : α → β → Prop} {as : List α} {bs : List β}
    (h : List.Forall₂ R as bs) {number : Nat} {a : α} (ha : as[number]? = some a) :
    ∃ b, bs[number]? = some b ∧ R a b := by
  induction h generalizing number with
  | nil => cases ha
  | cons hHead _ ih =>
    cases number with
    | zero =>
      cases ha
      exact ⟨_, rfl, hHead⟩
    | succ number => exact ih ha

namespace Startups.Follow

/-- The steps so far of the startup that goes on with a reply tell what its operation waited for. -/
theorem underWay_of_answered (h : u.Follow x g) {w : Wait} (hAnswered : g.answered m = some w) :
    UnderWay x g.epoch w (u.steps m) := by
  cases m with
  | reply number answer =>
    have hWait : g.waits[number]? = some w := by
      unfold Stage.waits
      rw [List.getElem?_map]
      exact hAnswered
    obtain ⟨steps, hSteps, hUnderWay⟩ := forall₂_getElem? h.underWay hWait
    rw [Startups.steps, hSteps]
    exact hUnderWay
  | _ => cases hAnswered

/-- A startup that waits for its scripts has made one step. -/
theorem of_chmod (h : u.Follow x g) {epoch : Nat} (hAnswered : g.answered m = some (.chmod epoch)) :
    ∃ first scripts, u.steps m = [first] ∧ first.epoch = epoch ∧ first.Lists x scripts := by
  have hUnderWay := h.underWay_of_answered hAnswered
  generalize u.steps m = steps at hUnderWay
  cases hUnderWay with
  | other hOther => cases hOther
  | scripts hLists => exact ⟨_, _, rfl, rfl, hLists⟩

/-- A startup that waits for its client has made two steps. -/
theorem of_start (h : u.Follow x g) {epoch client : Nat}
    (hAnswered : g.answered m = some (.start epoch client)) :
    ∃ first second, u.steps m = [first, second] ∧ first.epoch = epoch ∧
      (∃ scripts, first.Lists x scripts) ∧
      (∃ noted, second.stage.answered second.move = some (.chmod noted)) ∧
      second.executable = true ∧ second.reported x = [Session.creation x, .start client] := by
  have hUnderWay := h.underWay_of_answered hAnswered
  generalize u.steps m = steps at hUnderWay
  cases hUnderWay with
  | other hOther => cases hOther
  | client hLists hMaking hDone hMade =>
    exact ⟨_, _, rfl, rfl, ⟨_, hLists⟩, ⟨_, hMaking⟩, hDone, hMade⟩

theorem steps_of_unanswered (h : u.Follow x g) (hAnswered : g.answered m = none) :
    u.steps m = [] := by
  cases m with
  | reply number answer =>
    have hLength : g.waits.length ≤ number := by
      unfold Stage.waits
      rw [List.length_map]
      exact List.getElem?_eq_none_iff.mp (Option.map_eq_none_iff.mp hAnswered)
    rw [h.underWay.length_eq] at hLength
    rw [Startups.steps, List.getElem?_eq_none hLength]
    rfl
  | _ => rfl

theorem steps_eq_nil (h : u.Follow x g) (hAnswered : ∀ w ∈ g.answered m, w.inStartup = false) :
    u.steps m = [] := by
  cases hWait : g.answered m with
  | none => exact h.steps_of_unanswered hWait
  | some w =>
    have hOutside := hAnswered w hWait
    have hUnderWay := h.underWay_of_answered hWait
    generalize u.steps m = steps at hUnderWay
    cases hUnderWay with
    | other => rfl
    | _ => cases hOutside

theorem others (h : u.Follow x g) (m : Move) :
    List.Forall₂ (UnderWay x g.epoch) ((g.others m).map Suspended.wait) (u.others m) := by
  cases m with
  | reply number answer =>
    have hErased := forall₂_eraseIdx h.underWay number
    rw [Stage.waits, List.eraseIdx_map] at hErased
    exact hErased
  | _ => exact h.underWay

/-- The startups are followed further: the one that makes a move is under way, or has ended as it may. -/
theorem advance (h : u.Follow x g) (hDated : g.Dated) {w : Option Wait}
    (hWaits : (g.play x m).waits = (g.others m).map Suspended.wait ++ w.toList)
    (hUnderWay : ∀ w' ∈ w, UnderWay x (g.play x m).epoch w' (u.next x g m))
    (hEnded : w = none → u.next x g m ≠ [] → Concluded x (u.next x g m)) :
    (u.play x g m).Follow x (g.play x m) := by
  have hEpoch : g.epoch ≤ (g.play x m).epoch := by
    rw [(hDated.play x m).1]
    exact Nat.le_add_right _ _
  have hOthers := (h.others m).imp fun _ _ hOther => UnderWay.later hOther hEpoch
  have hLength := Stage.length_waiting_play hWaits
  unfold Startups.play
  cases w with
  | none =>
    rw [if_neg (by simp [hLength])]
    refine ⟨?_, ?_⟩
    · rw [hWaits, Option.toList_none, List.append_nil]
      exact hOthers
    · intro steps hSteps
      rcases List.mem_append.mp hSteps with hOld | hNew
      · exact h.ended steps hOld
      · obtain ⟨hMem, hSome⟩ := List.mem_filter.mp hNew
        cases List.mem_singleton.mp hMem
        refine hEnded rfl ?_
        intro hNil
        rw [hNil] at hSome
        cases hSome
  | some w =>
    rw [if_pos (by simp [hLength])]
    refine ⟨?_, h.ended⟩
    rw [hWaits]
    exact List.rel_append hOthers (.cons (hUnderWay w rfl) .nil)

end Startups.Follow

/-! ## What a move answers and records -/

namespace Stage

theorem mem_waits_of_answered {w : Wait} (hAnswered : g.answered m = some w) : w ∈ g.waits := by
  cases m with
  | reply number answer =>
    obtain ⟨t, ht, rfl⟩ := Option.map_eq_some_iff.mp hAnswered
    exact List.mem_map_of_mem (List.mem_of_getElem? ht)
  | _ => cases hAnswered

theorem executableBy_of_answered (hAnswered : ∀ w ∈ g.answered m, ∀ epoch, w ≠ .chmod epoch) :
    g.executableBy m = false := by
  cases m with
  | reply number answer =>
    cases ht : g.waiting[number]? with
    | none => rw [executableBy, ht, Option.any_none]
    | some t =>
      rw [answered_reply ht] at hAnswered
      rw [executableBy, ht]
      change t.wait.executable (answer t.wait) = false
      have hOther := hAnswered t.wait rfl
      cases hWait : t.wait with
      | chmod epoch => exact absurd hWait (hOther epoch)
      | _ => rfl
  | _ => rfl

theorem answered_of_startedBy {client : Nat} (hStarted : g.startedBy m = some client) :
    ∃ epoch, g.answered m = some (.start epoch client) := by
  cases m with
  | reply number answer =>
    obtain ⟨t, ht, hWell⟩ := Option.bind_eq_some_iff.mp hStarted
    have hStarting := Wait.starting?_of_started? hWell
    rw [answered_reply ht]
    cases hWait : t.wait with
    | start epoch c =>
      rw [hWait] at hStarting
      cases hStarting
      exact ⟨epoch, rfl⟩
    | _ =>
      rw [hWait] at hStarting
      cases hStarting
  | _ => cases hStarted

theorem answered_of_startup? {s : Session} (hBegins : g.startup? x m = some s) :
    ∀ w ∈ g.answered m, w.inStartup = false := by
  cases m with
  | reply number answer =>
    intro w hw
    obtain ⟨t, ht, rfl⟩ := Option.map_eq_some_iff.mp hw
    refine Bool.eq_false_iff.mpr fun hStep => ?_
    rw [startup?_of_answered ht hStep] at hBegins
    cases hBegins
  | _ => exact nofun

end Stage

/-! ## The steps of one startup -/

theorem Step.Lists.executable {first : Step} {scripts : List String} (h : first.Lists x scripts) :
    first.executable = false := by
  obtain ⟨s, hBegins, -⟩ := h.begins
  refine Stage.executableBy_of_answered fun w hw epoch => ?_
  rintro rfl
  cases Stage.answered_of_startup? hBegins _ hw

theorem Step.Lists.started {first : Step} {scripts : List String} (h : first.Lists x scripts) :
    first.started = none := by
  obtain ⟨s, hBegins, -⟩ := h.begins
  refine Option.eq_none_iff_forall_ne_some.mpr fun client hStarted => ?_
  obtain ⟨epoch, hAnswered⟩ := Stage.answered_of_startedBy hStarted
  cases Stage.answered_of_startup? hBegins _ hAnswered

theorem Step.started_of_chmod {p : Step} {epoch : Nat}
    (hAnswered : p.stage.answered p.move = some (.chmod epoch)) : p.started = none := by
  refine Option.eq_none_iff_forall_ne_some.mpr fun client hStarted => ?_
  obtain ⟨noted, hStart⟩ := Stage.answered_of_startedBy hStarted
  rw [hAnswered] at hStart
  cases hStart

theorem outcomes_concat (x : Surroundings) (steps : List Step) (p : Step) :
    outcomes x (steps ++ [p]) = outcomes x steps ++ (p.reported x).filter Event.isOutcome := by
  unfold outcomes
  rw [List.flatMap_append, List.filter_append, List.flatMap_singleton]

theorem Step.Lists.silent {first : Step} {scripts : List String} (h : first.Lists x scripts) :
    outcomes x [first] = [] := by
  unfold outcomes
  rw [List.flatMap_singleton, h.asks]
  rfl

theorem silent_made {first second : Step} {scripts : List String} {client : Nat}
    (hLists : first.Lists x scripts)
    (hMade : second.reported x = [Session.creation x, .start client]) :
    outcomes x [first, second] = [] := by
  have hBoth := outcomes_concat x [first] second
  rw [hLists.silent, hMade] at hBoth
  exact hBoth

namespace Startups

theorem next_of_cons {first : Step} {rest : List Step} (hSteps : u.steps m = first :: rest) :
    u.next x g m = first :: rest ++ [⟨g, m⟩] := by
  unfold next
  rw [hSteps, List.isEmpty_cons, Bool.and_false]
  rfl

theorem next_of_startup? {s : Session} (hSteps : u.steps m = []) (hBegins : g.startup? x m = some s) :
    u.next x g m = [⟨g, m⟩] := by
  unfold next
  rw [hSteps, hBegins]
  rfl

theorem next_of_idle (hSteps : u.steps m = []) (hNone : g.startup? x m = none) :
    u.next x g m = [] := by
  unfold next
  rw [hSteps, hNone]
  rfl

theorem ended_play (hWaits : (g.play x m).waits = (g.others m).map Suspended.wait) {first : Step}
    {rest : List Step} (hNext : u.next x g m = first :: rest) :
    (u.play x g m).ended = u.ended ++ [first :: rest] := by
  have hLength := Stage.length_waiting_play (w := none) (hWaits.trans (List.append_nil _).symm)
  unfold play
  rw [if_neg (by simp [hLength]), hNext]
  rfl

/-- A startup ends with a move: it writes its line in the epoch in which it began, else none. -/
theorem Follow.endsBy (h : u.Follow x g) (hDated : g.Dated) {first : Step} {rest : List Step}
    (hNext : u.next x g m = first :: rest) (hLast : ∃ before, first :: rest = before ++ [⟨g, m⟩] ∧
      outcomes x before = []) {prior : List Event} {line : Event} {phase : Phase}
    (hEnds : g.EndsBy x m first.epoch prior line phase) (hEpoch : first.epoch ≤ g.epoch)
    (hPrior : prior.filter Event.isOutcome = []) (hLine : line.isOutcome = true)
    (hConcluded : Current (first :: rest) → EndsWith x (first :: rest) line phase →
      Concluded x (first :: rest)) : (u.play x g m).Follow x (g.play x m) := by
  obtain ⟨before, hBefore, hSilent⟩ := hLast
  have hFinal : (first :: rest).getLast? = some ⟨g, m⟩ := by
    rw [hBefore, List.getLast?_concat]
  have hCurrent : Current (first :: rest) ↔ first.epoch = g.epoch := by
    unfold Current
    rw [hFinal]
    exact Option.some_inj
  have hOutcomes : outcomes x (first :: rest) = if g.epoch = first.epoch then [line] else [] := by
    rw [hBefore, outcomes_concat, hSilent, List.nil_append]
    change (g.reported x m).filter Event.isOutcome = _
    rw [hEnds.records.reported, List.filter_append, hPrior, List.nil_append]
    split
    · rw [List.filter_cons_of_pos hLine, List.filter_nil]
    · rfl
  by_cases hSame : g.epoch = first.epoch
  · obtain ⟨hWaits, hPhase, -⟩ := hEnds.current hSame
    refine h.advance (w := none) hDated (hWaits.trans (List.append_nil _).symm) nofun fun _ _ => ?_
    rw [hNext]
    refine hConcluded (hCurrent.mpr hSame.symm) ⟨hOutcomes.trans (if_pos hSame), ?_⟩
    rw [hFinal]
    rintro p ⟨⟩
    exact hPhase
  · obtain ⟨⟨w, hWaits, hStale⟩, -⟩ := hEnds.overtaken hSame
    have hNone : outcomes x (first :: rest) = [] := hOutcomes.trans (if_neg hSame)
    have hLater : g.epoch ≤ (g.play x m).epoch := by
      rw [(hDated.play x m).1]
      exact Nat.le_add_right _ _
    refine h.advance hDated hWaits ?_ ?_
    · intro w' hw'
      obtain ⟨client, rfl⟩ := hStale w' hw'
      rw [hNext]
      exact .overtaken (by omega) hNone
    · intro _ _
      rw [hNext]
      exact .overtaken (fun hIs => hSame (hCurrent.mp hIs).symm) hNone

/-- A startup that was overtaken and has written no line is over when it writes none with its last step. -/
theorem concluded_overtaken {first : Step} {rest : List Step} (hLate : first.epoch < g.epoch)
    (hSilent : outcomes x (first :: rest) = []) (hIdles : g.Idles x m) :
    Concluded x (first :: rest ++ [⟨g, m⟩]) := by
  refine .overtaken ?_ ?_
  · unfold Current
    rw [List.getLast?_concat]
    intro hSame
    exact Nat.ne_of_lt hLate (Option.some.inj hSame)
  · rw [outcomes_concat, hSilent, List.nil_append, List.filter_eq_nil_iff]
    intro e he
    obtain ⟨client, hRequest, -⟩ := hIdles.reported e he
    rw [(Event.isOutcome_of_requestOf? hRequest).1]
    exact Bool.false_ne_true

/-- A startup whose first move finds no scripts ends with it. -/
theorem Follow.unlisted (h : u.Follow x g) (hDated : g.Dated) {s : Session} {line : Event}
    (hBegins : g.startup? x m = some s) (hLine : line.isScriptFailure = true)
    (hEnds : g.EndsBy x m g.epoch [] line .inactive) : (u.play x g m).Follow x (g.play x m) := by
  have hBefore := Stage.answered_of_startup? hBegins
  refine h.endsBy hDated (next_of_startup? (h.steps_eq_nil hBefore) hBegins) ⟨[], rfl, rfl⟩ hEnds
    (Nat.le_refl _) rfl (Event.of_isScriptFailure hLine).1 fun hCurrent hEnd =>
      .unscripted hCurrent ?_ hLine hEnd
  intro p hp
  cases List.mem_singleton.mp hp
  refine Stage.executableBy_of_answered fun w hw epoch => ?_
  rintro rfl
  cases hBefore _ hw

/-- A startup whose client has not started ends so. -/
theorem Follow.failed (h : u.Follow x g) (hDated : g.Dated) {epoch client : Nat} {line : Event}
    (hAnswered : g.answered m = some (.start epoch client)) (hEpoch : epoch ≤ g.epoch)
    (hNone : g.startedBy m = none) (hLine : line.isStartFailure = true)
    (hEnds : g.EndsBy x m epoch [] line .inactive) : (u.play x g m).Follow x (g.play x m) := by
  obtain ⟨first, second, hSteps, rfl, ⟨scripts, hLists⟩, ⟨noted, hMaking⟩, hDone, hMade⟩ :=
    h.of_start hAnswered
  refine h.endsBy hDated (next_of_cons hSteps) ⟨[first, second], rfl, silent_made hLists hMade⟩
    hEnds hEpoch rfl (Event.of_isStartFailure hLine).1 fun hCurrent hEnd =>
      .unstarted hCurrent ⟨second, by simp, hDone⟩ ?_ hLine hEnd
  have hBoth : ∀ p ∈ [first, second], p.started = none := by
    intro p hp
    rcases List.mem_pair.mp hp with rfl | rfl
    · exact hLists.started
    · exact Step.started_of_chmod hMaking
  intro p hp
  have hp' : p ∈ [first, second] ++ [⟨g, m⟩] := hp
  rcases List.mem_append.mp hp' with hEarlier | hLast
  · exact hBoth p hEarlier
  · cases List.mem_singleton.mp hLast
    exact hNone

/-- **Startups are followed through every move.** -/
theorem Follow.play (h : u.Follow x g) (hOrderly : g.Orderly) (hDated : g.Dated) (m : Move) :
    (u.play x g m).Follow x (g.play x m) := by
  have hNoted : ∀ {w : Wait} {epoch : Nat}, g.answered m = some w → w.epoch? = some epoch →
      epoch ≤ g.epoch :=
    fun hAnswered hEpoch => hDated _ (Stage.mem_waits_of_answered hAnswered) _ hEpoch
  cases Stage.turn_play hOrderly x m with
  | listed hBegins hListed hWaits hRecords =>
    have hSteps := h.steps_eq_nil (Stage.answered_of_startup? hBegins)
    refine h.advance (w := some _) hDated hWaits ?_ nofun
    rintro w ⟨⟩
    have hLists : Step.Lists x ⟨g, m⟩ _ := ⟨⟨_, hBegins, hListed⟩, hRecords.reported⟩
    rw [next_of_startup? hSteps hBegins]
    exact .scripts hLists
  | unlisted hBegins hLine hEnds => exact h.unlisted hDated hBegins hLine hEnds
  | refused hAnswered hFailed hLine hEnds =>
    obtain ⟨first, scripts, hSteps, rfl, hLists⟩ := h.of_chmod hAnswered
    refine h.endsBy hDated (next_of_cons hSteps) ⟨[first], rfl, hLists.silent⟩ hEnds
      (hNoted hAnswered rfl) rfl (Event.of_isScriptFailure hLine).1 fun hCurrent hEnd =>
        .unscripted hCurrent ?_ hLine hEnd
    intro p hp
    rcases List.mem_pair.mp hp with rfl | rfl
    · exact hLists.executable
    · exact hFailed
  | unmade hAnswered hDone hLine hEnds =>
    obtain ⟨first, scripts, hSteps, rfl, hLists⟩ := h.of_chmod hAnswered
    refine h.endsBy hDated (next_of_cons hSteps) ⟨[first], rfl, hLists.silent⟩ hEnds
      (hNoted hAnswered rfl) rfl (Event.of_isStartFailure hLine).1 fun hCurrent hEnd =>
        .unstarted hCurrent ⟨⟨g, m⟩, by simp, hDone⟩ ?_ hLine hEnd
    intro p hp
    rcases List.mem_pair.mp hp with rfl | rfl
    · exact hLists.started
    · exact Step.started_of_chmod hAnswered
  | made hAnswered hDone hWaits hRecords =>
    obtain ⟨first, scripts, hSteps, rfl, hLists⟩ := h.of_chmod hAnswered
    refine h.advance (w := some _) hDated hWaits ?_ nofun
    rintro w ⟨⟩
    rw [next_of_cons hSteps]
    exact .client hLists hAnswered hDone hRecords.reported
  | running hAnswered hStarted hEnds =>
    obtain ⟨first, second, hSteps, rfl, ⟨scripts, hLists⟩, -, hDone, hMade⟩ := h.of_start hAnswered
    refine h.endsBy hDated (next_of_cons hSteps) ⟨[first, second], rfl, silent_made hLists hMade⟩
      hEnds (hNoted hAnswered rfl) rfl rfl fun hCurrent hEnd =>
        .running hCurrent ⟨second, by simp, hDone⟩ ⟨⟨g, m⟩, by simp, ?_⟩ hEnd
    exact Option.isSome_of_eq_some hStarted
  | failed hAnswered hNone hLine hEnds =>
    exact h.failed hDated hAnswered (hNoted hAnswered rfl) hNone hLine hEnds
  | stopped hAnswered hWaits hIdles =>
    have hUnderWay := h.underWay_of_answered hAnswered
    generalize hSteps : u.steps m = steps at hUnderWay
    cases hUnderWay with
    | other hOther => cases hOther
    | @overtaken first rest _ hLate hSilent =>
      -- The operation waits for nothing else, so its startup ends here, as late as it was.
      refine h.advance (w := none) hDated (hWaits.trans (List.append_nil _).symm) nofun fun _ _ => ?_
      rw [next_of_cons hSteps]
      exact concluded_overtaken hLate hSilent hIdles
  | idle hAnswered hNone hIdles =>
    have hSteps := h.steps_eq_nil hAnswered
    obtain ⟨w, hWaits, hOther⟩ := hIdles.waits
    have hNext : u.next x g m = [] := next_of_idle hSteps hNone
    refine h.advance hDated hWaits ?_ fun _ hSome => absurd hNext hSome
    intro w' hw'
    rw [hNext]
    exact .other (hOther w' hw')

theorem Follow.playAll (h : u.Follow x g) (hOrderly : g.Orderly) (hDated : g.Dated)
    (moves : List Move) : (u.playAll x g moves).Follow x (g.playAll x moves) := by
  induction moves generalizing u g with
  | nil => exact h
  | cons m moves ih =>
    exact ih (h.play hOrderly hDated m) (hOrderly.play x m) (hDated.play x m).2

/-! ## All startups of a run -/

/-- When the scripts of a startup are executable, only the call with which it asked for them was made. -/
theorem Follow.gates (h : u.Follow x g) {epoch : Nat} (hAnswered : g.answered m = some (.chmod epoch))
    (hDone : g.executableBy m = true) (hNoChmod : (g.reported x m).filter Event.isChmod = []) :
    ∃ first scripts, u.steps m = [first] ∧ first.Lists x scripts ∧ scripts ≠ [] ∧
      chmods x [first, ⟨g, m⟩] = [chmodCall scripts] ∧
      g.executableBy m = true := by
  obtain ⟨first, scripts, hSteps, -, hLists⟩ := h.of_chmod hAnswered
  obtain ⟨s, -, hListed⟩ := hLists.begins
  refine ⟨first, scripts, hSteps, hLists, Session.launchScripts_ne_nil hListed, ?_, hDone⟩
  unfold chmods
  rw [List.flatMap_cons, List.flatMap_singleton, List.filter_append, hLists.asks]
  exact congrArg (_ ++ ·) hNoChmod

theorem Follow.created (h : u.Follow x g) (hOrderly : g.Orderly) {e : Event}
    (he : e ∈ g.reported x m) (hCreate : e.isCreate = true) :
    ∃ first scripts, u.steps m = [first] ∧ first.Lists x scripts ∧ scripts ≠ [] ∧
      chmods x [first, ⟨g, m⟩] = [chmodCall scripts] ∧
      g.executableBy m = true := by
  have hEnd : ∀ {epoch : Nat} {prior : List Event} {line : Event} {phase : Phase},
      g.EndsBy x m epoch prior line phase → line.isCreate = false → e ∈ prior := by
    intro epoch prior line phase hEnds hOther
    refine (hEnds.mem_reported he).resolve_right ?_
    rintro ⟨-, rfl⟩
    rw [hOther] at hCreate
    cases hCreate
  cases Stage.turn_play hOrderly x m with
  | listed hBegins hListed hWaits hRecords =>
    rw [hRecords.reported] at he
    cases List.mem_singleton.mp he
    cases hCreate
  | unlisted hBegins hLine hEnds => cases hEnd hEnds (Event.of_isScriptFailure hLine).2.1
  | refused hAnswered hFailed hLine hEnds => cases hEnd hEnds (Event.of_isScriptFailure hLine).2.1
  | unmade hAnswered hDone hLine hEnds =>
    refine h.gates hAnswered hDone (List.filter_eq_nil_iff.mpr ?_)
    intro e he
    rcases hEnds.mem_reported he with hPrior | ⟨-, rfl⟩
    · cases List.mem_singleton.mp hPrior
      exact Bool.false_ne_true
    · rw [(Event.of_isStartFailure hLine).2.2]
      exact Bool.false_ne_true
  | made hAnswered hDone hWaits hRecords =>
    refine h.gates hAnswered hDone ?_
    rw [hRecords.reported]
    rfl
  | running hAnswered hStarted hEnds => cases hEnd hEnds rfl
  | failed hAnswered hNone hLine hEnds => cases hEnd hEnds (Event.of_isStartFailure hLine).2.1
  | stopped _ _ hIdles | idle _ _ hIdles =>
    obtain ⟨client, hRequest, -⟩ := hIdles.reported e he
    rw [(Event.isOutcome_of_requestOf? hRequest).2] at hCreate
    cases hCreate

theorem Follow.stored (h : u.Follow x g) {client : Nat}
    (hAfter : (g.play x m).session.extension.slot = some client)
    (hBefore : g.session.extension.slot ≠ some client) :
    g.startedBy m = some client ∧ ∃ first second, u.steps m = [first, second] ∧
      second.reported x = [Session.creation x, .start client] := by
  have hStarted := ((Stage.queues_play x g m).slot client hAfter).resolve_left hBefore
  obtain ⟨epoch, hAnswered⟩ := Stage.answered_of_startedBy hStarted
  obtain ⟨first, second, hSteps, -, -, -, -, hMade⟩ := h.of_start hAnswered
  exact ⟨hStarted, first, second, hSteps, hMade⟩

theorem Follow.reported (h : u.Follow x g) (hOrderly : g.Orderly) {e : Event}
    (he : e ∈ g.reported x m) (hOutcome : e.isOutcome = true) :
    ∃ steps, (u.play x g m).ended = u.ended ++ [steps] ∧ steps.getLast? = some ⟨g, m⟩ := by
  have hEnd : ∀ {epoch : Nat} {prior : List Event} {line : Event} {phase : Phase},
      g.EndsBy x m epoch prior line phase → (∀ e ∈ prior, e.isOutcome = false) →
      ∀ before, u.next x g m = before ++ [⟨g, m⟩] →
        ∃ steps, (u.play x g m).ended = u.ended ++ [steps] ∧ steps.getLast? = some ⟨g, m⟩ := by
    intro epoch prior line phase hEnds hPrior before hNext
    have hNotPrior : e ∉ prior := fun hMem => Bool.eq_false_iff.mp (hPrior e hMem) hOutcome
    obtain ⟨hCurrent, -⟩ := (hEnds.mem_reported he).resolve_left hNotPrior
    refine ⟨before ++ [⟨g, m⟩], ?_, List.getLast?_concat⟩
    cases before with
    | nil => exact ended_play (hEnds.current hCurrent).1 hNext
    | cons first rest => exact ended_play (hEnds.current hCurrent).1 hNext
  cases Stage.turn_play hOrderly x m with
  | listed hBegins hListed hWaits hRecords =>
    rw [hRecords.reported] at he
    cases List.mem_singleton.mp he
    cases hOutcome
  | unlisted hBegins hLine hEnds =>
    have hSteps := h.steps_eq_nil (Stage.answered_of_startup? hBegins)
    exact hEnd hEnds nofun [] (next_of_startup? hSteps hBegins)
  | refused hAnswered hFailed hLine hEnds =>
    obtain ⟨first, scripts, hSteps, -⟩ := h.of_chmod hAnswered
    exact hEnd hEnds nofun _ (next_of_cons hSteps)
  | unmade hAnswered hDone hLine hEnds =>
    obtain ⟨first, scripts, hSteps, -⟩ := h.of_chmod hAnswered
    refine hEnd hEnds ?_ _ (next_of_cons hSteps)
    intro e he
    cases List.mem_singleton.mp he
    rfl
  | made hAnswered hDone hWaits hRecords =>
    rw [hRecords.reported] at he
    rcases List.mem_pair.mp he with rfl | rfl
    · cases hOutcome
    · cases hOutcome
  | running hAnswered hStarted hEnds =>
    obtain ⟨first, second, hSteps, -⟩ := h.of_start hAnswered
    exact hEnd hEnds nofun _ (next_of_cons hSteps)
  | failed hAnswered hNone hLine hEnds =>
    obtain ⟨first, second, hSteps, -⟩ := h.of_start hAnswered
    exact hEnd hEnds nofun _ (next_of_cons hSteps)
  | stopped _ _ hIdles | idle _ _ hIdles =>
    obtain ⟨client, hRequest, -⟩ := hIdles.reported e he
    rw [(Event.isOutcome_of_requestOf? hRequest).1] at hOutcome
    cases hOutcome

end Startups

namespace Stage

/-- **Startups are gated and reported once**, in every stage of every run, however the operations overlap
and whatever they are answered. -/
theorem gated_playAll (x : Surroundings) {s : Session} (hPristine : s.Pristine) (moves : List Move) :
    Gated x (Startups.playAll x {} ⟨s, []⟩ moves) (playAll x ⟨s, []⟩ moves) := by
  have hArises : (playAll x ⟨s, []⟩ moves).Arises x := ⟨s, moves, hPristine, rfl⟩
  have hOrderly : (⟨s, []⟩ : Stage).Orderly := ⟨hPristine.attributed, List.forall_mem_nil _⟩
  have hNone : Startups.Follow x {} ⟨s, []⟩ := ⟨.nil, List.forall_mem_nil _⟩
  have hFollow := hNone.playAll hOrderly (List.forall_mem_nil _) moves
  refine ⟨?_, ?_, ?_, hFollow.ended⟩
  · exact fun m e he hCreate => hFollow.created hArises.orderly he hCreate
  · exact fun m client hAfter hBefore => hFollow.stored hAfter hBefore
  · exact fun m e he hOutcome => hFollow.reported hArises.orderly he hOutcome

/-- Three activations: the scripts of the first are not made executable, the second is overtaken by a
deactivation while it waits for its scripts, and the third goes well. -/
def threeStartups : List Move :=
  [.activate, .reply 0 Wait.badReply, .activate, .deactivate] ++
    List.replicate 3 (.reply 0 Wait.goodReply) ++ .activate ::
      List.replicate 2 (.reply 0 Wait.goodReply)

/-- The three startups have ended, each after the one call with its script, with the lines that belong to
them. -/
theorem gated_threeStartups :
    Gated .plain (Startups.playAll .plain {} ⟨.scripted, []⟩ threeStartups)
        (playAll .plain ⟨.scripted, []⟩ threeStartups) ∧
      ((Startups.playAll .plain {} ⟨.scripted, []⟩ threeStartups).ended.map fun steps =>
        (outcomes .plain steps).map fun e => (e.isScriptFailure, e.isActivated)) =
          [[(true, false)], [], [(false, true)]] ∧
      ((Startups.playAll .plain {} ⟨.scripted, []⟩ threeStartups).ended.map fun steps =>
        (chmods .plain steps).map fun
          | .process r => some (r.program, r.args)
          | _ => none) =
          List.replicate 3 [some ("/usr/bin/env", ["chmod", "a+x", "elixir-ls/language_server.sh"])] :=
  ⟨gated_playAll .plain Session.pristine_scripted threeStartups, by decide +kernel, by decide +kernel⟩

end Stage

end ExtensionHost
