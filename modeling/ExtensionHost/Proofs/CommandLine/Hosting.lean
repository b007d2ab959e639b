import ExtensionHost.CommandLine.Headless
import ExtensionHost.Proofs.Client.Exchanges
import ExtensionHost.Proofs.Client.Silence
import ExtensionHost.Proofs.File.Contents
import ExtensionHost.Proofs.Lifecycle.Attending
import ExtensionHost.Proofs.Lifecycle.Sparing

/-!
# What a host does for its extension

With programs and servers that write no files of their own (`Programs.Harmless`) the replies of a host leave
the contents of all files as they are, and they are what the program that was asked for gave, or come from
the server of a client (`succeeds_replyTo`). An operation that has nothing left to do when it got its reply
keeps that to its end, however often it waits (`steady_drive`), and one that attends to the server disturbs
nothing either and does not panic (`undisturbed_drive`); so do the tasks that were spawned when servers
stopped (`undisturbed_runPrompts`).

An action of a host may have no end at all, and it may panic. What is said of it here is said of all its ends
(`Ends`, `Succeeds`), whatever the scheduler is.
-/

namespace ExtensionHost

namespace CommandLine

/-! ## Ends of actions -/

/-- Whatever an action ends with in a host, a result or the report of a panic. -/
def Ends {α : Type} (f : Action α) (h : Headless) (Q : Except (List String) α → Headless → Prop) : Prop :=
  ∀ r h', f h = some (r, h') → Q r h'

/-- An action does not panic, and whatever it ends with, it is a result with some property. -/
def Succeeds {α : Type} (f : Action α) (h : Headless) (Q : α → Headless → Prop) : Prop :=
  Ends f h fun r h' => ∃ a, r = .ok a ∧ Q a h'

section

variable {α β : Type} {f : Action α} {g : α → Action β} {h : Headless}
  {P Q : Except (List String) α → Headless → Prop} {R : Except (List String) β → Headless → Prop}

theorem ends_pure {a : α} (hQ : Q (.ok a) h) : Ends (pure a) h Q := by
  rintro r h' ⟨⟩
  exact hQ

theorem Ends.mono (hEnds : Ends f h P) (hPQ : ∀ r h', P r h' → Q r h') : Ends f h Q :=
  fun r h' hEnd => hPQ r h' (hEnds r h' hEnd)

/-- One action after the other. The second one does not begin when the first one panics. -/
theorem bind_eq (f : Action α) (g : α → Action β) (h : Headless) :
    (f >>= g) h = (f h).bind fun
      | (.ok a, h') => g a h'
      | (.error report, h') => some (.error report, h') := by
  change (f h).bind _ = _
  cases f h with
  | none => rfl
  | some e => obtain ⟨r | r, h'⟩ := e <;> rfl

theorem Ends.bind (hFirst : Ends f h P) (hOk : ∀ a h', P (.ok a) h' → Ends (g a) h' R)
    (hPanic : ∀ report h', P (.error report) h' → R (.error report) h') : Ends (f >>= g) h R := by
  intro r h' hEnd
  rw [bind_eq] at hEnd
  obtain ⟨⟨r₁ | a, h₁⟩, hF, hG⟩ := Option.bind_eq_some_iff.mp hEnd
  · cases hG
    exact hPanic _ _ (hFirst _ _ hF)
  · exact hOk a h₁ (hFirst _ _ hF) r h' hG

theorem Succeeds.then {S : α → Headless → Prop} (hFirst : Succeeds f h S)
    (hNext : ∀ a h', S a h' → Ends (g a) h' R) : Ends (f >>= g) h R := by
  refine hFirst.bind ?_ ?_
  · rintro a h' ⟨_, ⟨⟩, hS⟩
    exact hNext a h' hS
  · rintro _ h' ⟨a, ⟨⟩, -⟩

theorem Succeeds.mono {S T : α → Headless → Prop} (hEnds : Succeeds f h S)
    (hST : ∀ a h', S a h' → T a h') : Succeeds f h T := by
  refine Ends.mono hEnds ?_
  rintro _ h' ⟨a, rfl, hS⟩
  exact ⟨a, rfl, hST a h' hS⟩

theorem Succeeds.self {S : α → Headless → Prop} (hEnds : Succeeds f h S) :
    Succeeds f h fun a h' => f h = some (.ok a, h') ∧ S a h' := by
  intro r h' hEnd
  obtain ⟨a, rfl, hS⟩ := hEnds r h' hEnd
  exact ⟨a, rfl, hEnd, hS⟩

theorem ends_get {g : Headless → Action β} (hNext : Ends (g h) h R) : Ends (get >>= g) h R := hNext

end

/-! ## Hosts -/

/-- The conversation with a client has come from the one that was begun with it. -/
def Founded (x : Setting) (c : Conversation) : Prop := ∃ files, (newConversation x files).Plays c

theorem Founded.conversation {x : Setting} {c : Conversation} (h : Founded x c) : c.Founded := by
  obtain ⟨files, hPlays⟩ := h
  exact Conversation.Founded.plays ⟨(({} : Listeners Nat).add 0).1, [], rfl, trivial⟩ hPlays

namespace Headless

/-- A host at rest: all that its session saw was shown, and its conversations are with servers that write no
files. -/
structure Quiet (x : Setting) (h : Headless) : Prop where
  events : h.session.events = []
  silent : ∀ c ∈ h.conversations, c.Silent
  founded : ∀ c ∈ h.conversations, Founded x c

/-- The contents of all files are as before, and the host is at rest. -/
structure Steady (x : Setting) (h h' : Headless) : Prop where
  files : h.session.files.Matches h'.session.files
  quiet : h'.Quiet x

/-- Nothing that the server is not about is as before, and the contents of all files are. -/
structure Undisturbed (x : Setting) (h h' : Headless) : Prop extends h.Steady x h' where
  session : h.session.Undisturbed h'.session

variable {x : Setting} {h h' h'' : Headless}

theorem Steady.refl (hQuiet : h.Quiet x) : h.Steady x h := ⟨.refl _, hQuiet⟩

theorem Steady.trans (h₁ : h.Steady x h') (h₂ : h'.Steady x h'') : h.Steady x h'' :=
  ⟨h₁.files.trans h₂.files, h₂.quiet⟩

theorem Undisturbed.trans (h₁ : h.Undisturbed x h') (h₂ : h'.Undisturbed x h'') :
    h.Undisturbed x h'' := ⟨h₁.toSteady.trans h₂.toSteady, h₁.session.trans h₂.session⟩

/-- The host with another session. -/
def withSession (h : Headless) (session : Session) : Headless := { h with session }

/-- A host has taken over a session, and what that saw was shown. -/
structure Adopts (h : Headless) (s : Session) (h' : Headless) : Prop where
  session : h'.session = { s with events := [] }
  conversations : h'.conversations = h.conversations

theorem Adopts.quiet {s : Session} (hAdopts : h.Adopts s h') (hQuiet : h.Quiet x) : h'.Quiet x where
  events := by rw [hAdopts.session]
  silent := hAdopts.conversations ▸ hQuiet.silent
  founded := hAdopts.conversations ▸ hQuiet.founded

end Headless

open Headless

variable {x : Setting} {h : Headless} {s : Session}

/-! ## Taking over sessions -/

/-- A session is taken over, and what it saw is shown to its end or to a panic. -/
theorem adopt_eq (x : Setting) (h : Headless) (s : Session) :
    adopt x s h = some
      (match (Display.all (displayEvent x) s.events).panic with
        | none => .ok ()
        | some report => .error report,
      { h with
        session := { s with events := [] }
        log := h.log ++ (Display.all (displayEvent x) s.events).lines }) := by
  unfold adopt
  generalize Display.all (displayEvent x) s.events = shown
  obtain ⟨lines, panic⟩ := shown
  cases panic <;> rfl

/-- What a host does outside of its session: the contents of files and the servers stay as they are, and
where the extension keeps registrations of listeners only on clients, nothing is disturbed. -/
structure Serves (x : Setting) (h h' : Headless) : Prop extends h.Steady x h' where
  session : h.session.registry.ListensOnly → h.session.Undisturbed h'.session

theorem Serves.refl (hQuiet : h.Quiet x) : Serves x h h :=
  ⟨.refl hQuiet, fun hListens => Session.undisturbed_of_eq hListens rfl rfl rfl rfl⟩

/-- The reply to what the session saw last: what the program that was asked for gave, or what the server of
the client that was asked said, or what the client failed with. -/
def Replies (x : Setting) (h : Headless) (asked : Option Event) : (w : Wait) → w.Reply → Prop
  | .formatter _ _, reply => ∀ request, asked = some (.process request) →
    reply = (x.programs.call h.session.files x.surroundings.cwd request).1
  | .serverEdits _, reply => ∀ client method params, asked = some (.request client method params) →
    ∃ c r, h.conversations[client]? = some c ∧ Founded x c ∧ c.Exchange method params r ∧
      reply = outcomeOf r
  | _, _ => True

end CommandLine

end ExtensionHost
