import ExtensionHost.Client.Conversation
import ExtensionHost.Proofs.Client.Steps

/-!
# The course of a conversation

Whatever its scheduler says, a conversation only takes turns (`Conversation.Reaches`). To the client each
turn is some moves of a schedule, in which its servers write nothing but what they do when they have taken
messages that the client wrote (`Conversation.Plays`). So all that is known of schedules of a client is
known of its conversations.
-/

namespace ExtensionHost

namespace Client

/-- What a move lets a server write is the end of what it does when it has taken some of the messages that
the client wrote to it. -/
def Comes (servers : Nat → Server) (c : Client) : Move → Prop
  | .output r bytes => ∃ taken closed slept,
      bytes <:+ (servers r ((c.run r).written.take taken) closed slept).output
  | _ => True

/-- In a schedule servers write only what comes from them. -/
def Provided (servers : Nat → Server) (x : Setup) : Client → List Move → Prop
  | _, [] => True
  | c, m :: moves => Comes servers c m ∧ Provided servers x (c.play x m) moves

theorem provided_append {servers : Nat → Server} {x : Setup} {c : Client} {first second : List Move} :
    Provided servers x c (first ++ second) ↔
      Provided servers x c first ∧ Provided servers x (c.playAll x first) second := by
  induction first generalizing c with
  | nil => simp [Provided]
  | cons m first ih =>
    simp only [List.cons_append, Provided, playAll_cons]
    rw [ih, and_assoc]

end Client

namespace Conversation

open Client (Provided)

/-! ## Turns -/

/-- What a conversation may come to: its client is called, and turns are taken. -/
inductive Reaches (c : Conversation) : Conversation → Prop where
  | refl : c.Reaches c
  | called {d : Conversation} (op : Client.Operation) (h : c.Reaches d) : c.Reaches (d.call op).1
  | turned {d e : Conversation} (t : Turn) (h : c.Reaches d) (hTurn : d.take? t = some e) : c.Reaches e

variable {b c d e : Conversation}

theorem Reaches.takeFirst? {turns : List Turn} (h : b.Reaches c) (hTaken : c.takeFirst? turns = some d) :
    b.Reaches d := by
  obtain ⟨t, -, hTurn⟩ := List.exists_of_findSome?_eq_some hTaken
  exact h.turned t hTurn

theorem Reaches.runUntil {next : Conversation → List Turn} {isOver : Client → Bool} {limit : Nat}
    (h : b.Reaches c) (hEnd : runUntil next isOver limit c = some d) :
    b.Reaches d ∧ isOver d.client = true := by
  induction limit generalizing c with
  | zero =>
    rw [Conversation.runUntil] at hEnd
    split at hEnd
    · rename_i hOver
      cases hEnd
      exact ⟨h, hOver⟩
    · cases hEnd
  | succ limit ih =>
    rw [Conversation.runUntil] at hEnd
    split at hEnd
    · rename_i hOver
      cases hEnd
      exact ⟨h, hOver⟩
    · split at hEnd
      · rename_i hTaken
        exact ih (h.takeFirst? hTaken) hEnd
      · cases hEnd

theorem Reaches.runOut {next : Conversation → List Turn} {limit : Nat} (h : b.Reaches c)
    (hEnd : runOut next limit c = some d) : b.Reaches d := by
  induction limit generalizing c with
  | zero =>
    rw [Conversation.runOut] at hEnd
    split at hEnd
    · cases hEnd
      exact h
    · cases hEnd
  | succ limit ih =>
    rw [Conversation.runOut] at hEnd
    split at hEnd
    · rename_i hTaken
      exact ih (h.takeFirst? hTaken) hEnd
    · cases hEnd
      exact h

/-- A conversation is another one after some moves of its client, in which servers write what comes from
them. -/
structure Plays (c d : Conversation) : Prop where
  setup : d.setup = c.setup
  servers : d.servers = c.servers
  moves : ∃ moves, d.client = c.client.playAll c.setup moves ∧
    Provided c.servers c.setup c.client moves

theorem Plays.refl (c : Conversation) : c.Plays c := ⟨rfl, rfl, [], rfl, trivial⟩

theorem Plays.trans (h : c.Plays d) (h' : d.Plays e) : c.Plays e := by
  obtain ⟨hSetup, hServers, moves, hClient, hProvided⟩ := h
  obtain ⟨hSetup', hServers', moves', hClient', hProvided'⟩ := h'
  rw [hSetup, hClient] at hClient'
  rw [hServers, hSetup, hClient] at hProvided'
  refine ⟨hSetup'.trans hSetup, hServers'.trans hServers, moves ++ moves', ?_, ?_⟩
  · rw [hClient', Client.playAll_append]
  · exact Client.provided_append.mpr ⟨hProvided, hProvided'⟩

/-- What is changed beside the client does not matter to its moves. -/
theorem plays_of_moves (moves : List Client.Move) (hSetup : d.setup = c.setup)
    (hServers : d.servers = c.servers) (hClient : d.client = c.client.playAll c.setup moves)
    (hProvided : Provided c.servers c.setup c.client moves) : c.Plays d :=
  ⟨hSetup, hServers, moves, hClient, hProvided⟩

theorem plays_of_client (hSetup : d.setup = c.setup) (hServers : d.servers = c.servers)
    (hClient : d.client = c.client) : c.Plays d := plays_of_moves [] hSetup hServers hClient trivial

theorem plays_call (c : Conversation) (op : Client.Operation) : c.Plays (c.call op).1 :=
  plays_of_moves [.call op] rfl rfl rfl ⟨trivial, trivial⟩

theorem plays_move? {m : Client.Move} (hComes : Client.Comes c.servers c.client m)
    (h : c.move? m = some d) : c.Plays d := by
  obtain ⟨client, hPlay, rfl⟩ := Option.map_eq_some_iff.mp h
  exact plays_of_moves [m] rfl rfl (Client.play_of_some hPlay).symm ⟨hComes, trivial⟩

theorem plays_proceed (c : Conversation) (r : Nat) (p : Partner) : c.Plays (c.proceed r p) := by
  have hEnd := List.drop_suffix p.conduct.output.length
    (c.servers r ((c.client.run r).written.take p.taken) p.closed p.slept).output
  have hComes : Client.Comes c.servers c.client (.output r _) :=
    ⟨p.taken, p.closed, p.slept, hEnd⟩
  unfold proceed
  dsimp only
  split
  · exact plays_of_moves [.output r _, .closeOutput r, .exit r] rfl rfl rfl
      ⟨hComes, trivial, trivial, trivial⟩
  · exact plays_of_moves [.output r _] rfl rfl rfl ⟨hComes, trivial⟩

theorem plays_leave (c : Conversation) (r : Nat) (p : Partner) : c.Plays (c.leave r p) := by
  unfold leave
  split
  · exact plays_of_moves [.exit r] rfl rfl rfl ⟨trivial, trivial⟩
  · exact plays_of_moves [.closeOutput r, .exit r] rfl rfl rfl ⟨trivial, trivial, trivial⟩

theorem plays_stepPartner {r : Nat} (h : c.stepPartner r = some d) : c.Plays d := by
  unfold stepPartner at h
  dsimp only at h
  split at h
  · cases h
  · split at h
    · cases h
      exact plays_leave c r _
    · split at h
      · cases h
      · split at h
        · cases h
          exact plays_proceed c r _
        · split at h
          · cases h
            exact plays_proceed c r _
          · split at h
            · cases h
              exact plays_proceed c r _
            · cases h

theorem plays_wake (c : Conversation) (r : Nat) : c.Plays (c.wake r) := by
  unfold wake
  dsimp only
  split
  · exact plays_of_moves [.closeOutput r] rfl rfl rfl ⟨trivial, trivial⟩
  · exact plays_proceed c r _

theorem plays_pass (h : c.pass = some d) : c.Plays d := by
  unfold pass at h
  split at h
  · cases h
  · rename_i now due hDue
    have hLater : c.Plays { c with now, deadlines := c.begun } := plays_of_client rfl rfl rfl
    split at h
    · rename_i k
      obtain ⟨client, hExpired, rfl⟩ := Option.map_eq_some_iff.mp h
      refine plays_of_moves [.expire k] rfl rfl ?_ ⟨trivial, trivial⟩
      exact (Client.play_of_some (m := .expire k) hExpired).symm
    · rename_i r
      cases h
      exact hLater.trans (plays_wake _ r)

/-- **A turn is some moves of the client.** -/
theorem plays_take? {t : Turn} (h : c.take? t = some d) : c.Plays d := by
  cases t with
  | reader r => exact plays_move? (m := .read r) trivial h
  | writer r => exact plays_move? (m := .write r) trivial h
  | call k => exact plays_move? (m := .goOn k) trivial h
  | server r => exact plays_stepPartner h
  | time => exact plays_pass h

/-- **Whatever a conversation comes to, its client has made moves.** -/
theorem Reaches.plays (h : c.Reaches d) : c.Plays d := by
  induction h with
  | refl => exact .refl c
  | called op _ ih => exact ih.trans (plays_call _ op)
  | turned t _ hTurn ih => exact ih.trans (plays_take? hTurn)

end Conversation

end ExtensionHost
