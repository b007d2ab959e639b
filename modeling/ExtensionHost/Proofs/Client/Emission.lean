import ExtensionHost.Proofs.Client.Steps
import ExtensionHost.Proofs.Rpc.Framing

/-!
# What a writer emits

Requests and notifications of calls and the replies of the reader are put on the channel of a run, in any
order; its writer takes them from there. `Conveyed` is the invariant of the channel: what was put on it is
what the writer has written, followed by what is still on the channel, and the bytes are the frames of what
was written. `readAll_emitted` draws the conclusion: whoever reads these bytes gets back the messages in the
order of the channel, and nothing is left.
-/

namespace ExtensionHost.Client

/-! ## What is put on the channel -/

/-- The messages that a call at a point puts on the channel of a run when it goes on. -/
def sentAt (x : Setup) (r : Nat) (c : Client) : Point → List String
  | .sending p id s =>
    if s = r ∧ (c.run s).writing ∧ (c.run s).hasRoom then [p.body x id] else []
  | .notifying n s => if s = r ∧ (c.run s).writing ∧ (c.run s).hasRoom then [n.body] else []
  | _ => []

/-- The messages that the reader of a run puts on the run's channel when it goes on. -/
def repliedBy (y : Run) : List String :=
  match y.reader with
  | .replying message => if y.writing ∧ y.hasRoom then [message] else []
  | _ => []

/-- The messages that a move puts on the channel of a run. -/
def sentBy (x : Setup) (r : Nat) (c : Client) : Move → List String
  | .goOn k =>
    match c.calls[k]? with
    | some p => sentAt x r c p
    | none => []
  | .read s => if s = r then repliedBy (c.run s) else []
  | _ => []

/-- The messages that moves put on the channel of a run, in their order. -/
def sent (x : Setup) (r : Nat) (c : Client) (moves : List Move) : List String :=
  collect x (sentBy x r) c moves

/-- Messages are put on the channel of a run. -/
def Run.accept (y : Run) (messages : List String) : Run :=
  { y with channel := y.channel ++ messages }

/-- The part of a run that its writer works on. -/
def Run.wire (y : Run) : List String × Bool × List String × List UInt8 :=
  (y.channel, y.writing, y.written, y.emitted)

theorem wire_accept_nil (y : Run) : (y.accept []).wire = y.wire := by
  simp [Run.accept, Run.wire]

theorem wire_modifyRun (c : Client) (r s : Nat) {f : Run → Run} (hf : ∀ y, (f y).wire = y.wire) :
    ((c.modifyRun r f).run s).wire = (c.run s).wire :=
  congr_run_modifyRun Run.wire c r s hf

theorem wire_push {c : Client} {r : Nat} (h : r < c.runs.length) (s : Nat) (message : String) :
    ((c.push s message).run r).wire =
      ((c.run r).accept (if s = r then [message] else [])).wire := by
  rw [push, run_modifyRun]
  by_cases hs : s = r
  · simp [hs, h, Run.accept]
  · simp [hs, Ne.symm hs, wire_accept_nil]

theorem sentAt_of_none {x : Setup} {c : Client} {k : Nat} {p : Point}
    (h : c.stepPoint x k p = none) (r : Nat) : sentAt x r c p = [] := by
  cases p with
  | sending p id s =>
    simp only [stepPoint] at h
    split at h
    · cases h
    split at h
    · cases h
    · simp [sentAt, ‹¬ (c.run s).hasRoom = true›]
  | notifying n s =>
    simp only [stepPoint] at h
    split at h
    · cases h
    split at h
    · cases h
    · simp [sentAt, ‹¬ (c.run s).hasRoom = true›]
  | _ => rfl

theorem repliedBy_of_none {x : Setup} {c : Client} {r : Nat} (h : c.stepReader x r = none)
    (hRun : r < c.runs.length) : repliedBy (c.run r) = [] := by
  unfold repliedBy
  rcases reader_of_none (getElem?_run hRun) h with
    hReader | hReader | hReader | ⟨hReader, -⟩ | ⟨message, hReader, -, hRoom⟩
  all_goals simp only [hReader]
  simp [hRoom]

theorem sentBy_of_none {x : Setup} {r : Nat} {c : Client} {m : Move} (h : c.play? x m = none)
    (hRun : r < c.runs.length) : sentBy x r c m = [] := by
  cases m with
  | goOn k =>
    cases hCall : c.calls[k]? with
    | none => simp only [sentBy, hCall]
    | some p =>
      simp only [play?, stepCall, hCall] at h
      simp only [sentBy, hCall]
      exact sentAt_of_none h r
  | read s =>
    simp only [sentBy]
    split
    · rename_i hs
      subst hs
      exact repliedBy_of_none h hRun
    · rfl
  | _ => rfl

variable {x : Setup} {c d : Client} {r : Nat}

/-- A call that goes on leaves what the writer of a run works on, but for what it puts on the channel. -/
theorem wire_advances {p q : Point} (hRun : r < c.runs.length) (h : Advances x c p d q) :
    (d.run r).wire = ((c.run r).accept (sentAt x r c p)).wire := by
  cases h with
  | sent p id s hWriting hRoom =>
    rw [wire_push hRun]
    simp [sentAt, hWriting, hRoom]
  | noticeSent n s log hWriting hRoom =>
    have hPush := wire_push hRun s n.body
    simp only [sentAt, hWriting, hRoom, and_true]
    exact hPush
  | sendFailed p id s log hWriting =>
    simp [sentAt, hWriting, wire_accept_nil]
    rfl
  | noticeFailed n s log hWriting =>
    simp [sentAt, hWriting, wire_accept_nil]
    rfl
  | launched hLaunch => exact (congrArg Run.wire (run_launched c _ r)).trans (wire_accept_nil _).symm
  | processTold a s =>
    refine Eq.trans ?_ (wire_accept_nil _).symm
    exact wire_modifyRun { c with process := none, clearing := true } s r fun _ => rfl
  | processKept s =>
    refine Eq.trans ?_ (wire_accept_nil _).symm
    exact wire_modifyRun c s r fun _ => rfl
  | processReplaced s old =>
    refine Eq.trans ?_ (wire_accept_nil _).symm
    refine (wire_modifyRun _ s r ?_).trans (wire_modifyRun c old r ?_) <;> exact fun _ => rfl
  | _ => exact (wire_accept_nil _).symm

/-- A reader that goes on leaves what the writer of a run works on, but for its reply. -/
theorem wire_reads {s : Nat} (hRun : r < c.runs.length) (h : Reads x c s (c.run s) d) :
    (d.run r).wire =
      ((c.run r).accept (if s = r then repliedBy (c.run s) else [])).wire := by
  have hSilent : ∀ {y : Run}, (∀ message, y.reader ≠ .replying message) → repliedBy y = [] := by
    intro y hReader
    unfold repliedBy
    split
    · exact absurd ‹_› (hReader _)
    · rfl
  cases h with
  | replied message hReader hWriting hRoom =>
    have hReplied : repliedBy (c.run s) = [message] := by
      simp [repliedBy, hReader, hWriting, hRoom]
    rw [hReplied]
    refine (wire_modifyRun (c.push s message) s r ?_).trans (wire_push hRun s message)
    exact fun _ => rfl
  | replyLost message hReader hWriting =>
    have hReplied : repliedBy (c.run s) = [] := by
      simp [repliedBy, hReader, hWriting]
    rw [hReplied, ite_self, wire_accept_nil]
    exact wire_modifyRun c s r fun _ => rfl
  | response body rest id result hReader =>
    rw [hSilent (by simp [hReader]), ite_self, wire_accept_nil, run_complete]
    exact wire_modifyRun c s r fun _ => rfl
  | request body rest id method params message hReader =>
    rw [hSilent (by simp [hReader]), ite_self, wire_accept_nil]
    refine (wire_modifyRun _ s r ?_).trans (wire_modifyRun c s r ?_) <;> exact fun _ => rfl
  | passed body rest hReader | outputEnded hReader | tooLarge hReader =>
    rw [hSilent (by simp [hReader]), ite_self, wire_accept_nil]
    exact wire_modifyRun c s r fun _ => rfl
  | failed e log hReader =>
    rw [hSilent (by simp [hReader]), ite_self, wire_accept_nil]
    exact wire_modifyRun { c with log } s r fun _ => rfl
  | drained reason hReader =>
    rw [hSilent (by simp [hReader]), ite_self, wire_accept_nil]
    exact wire_modifyRun c.drain s r fun _ => rfl
  | left reason hReader =>
    rw [hSilent (by simp [hReader]), ite_self, wire_accept_nil]
    rw [← run_leave x c reason r]
    exact wire_modifyRun (c.leave x reason) s r fun _ => rfl

/-! ## The invariant of the channel -/

/-- A run conveys messages that were put on its channel: the writer has written the first of them, their
frames are the bytes that it has emitted, and the others are those on the channel unless it has ended. -/
structure Conveyed (y : Run) (messages : List String) : Prop where
  emitted : y.emitted = Rpc.frames y.written
  order : ∃ left, messages = y.written ++ left ∧ (y.writing = true → left = y.channel)

theorem Conveyed.of_wire {y z : Run} {messages more : List String} (h : Conveyed y messages)
    (hWire : z.wire = (y.accept more).wire) : Conveyed z (messages ++ more) := by
  simp only [Run.wire, Run.accept, Prod.mk.injEq] at hWire
  obtain ⟨hChannel, hWriting, hWritten, hEmitted⟩ := hWire
  obtain ⟨left, hOrder, hLeft⟩ := h.order
  refine ⟨by rw [hEmitted, hWritten, h.emitted], left ++ more, ?_, ?_⟩
  · rw [hWritten, hOrder, List.append_assoc]
  · intro hAlive
    rw [hChannel, hLeft (hWriting ▸ hAlive)]

theorem Conveyed.writes {messages : List String} (hRun : r < c.runs.length)
    (h : Conveyed (c.run r) messages) (hWrites : Writes c r (c.run r) d) :
    Conveyed (d.run r) messages := by
  obtain ⟨left, hOrder, hLeft⟩ := h.order
  cases hWrites with
  | wrote message rest hWriting hChannel hInput =>
    rw [run_modifyRun_self hRun]
    have hFront : left = message :: rest := (hLeft hWriting).trans hChannel
    refine ⟨?_, rest, ?_, fun _ => rfl⟩
    · rw [h.emitted, Rpc.frames, Rpc.frames, List.flatMap_append, List.flatMap_singleton]
    · rw [hOrder, hFront, List.append_assoc, List.singleton_append]
  | failed log hWriting hInput =>
    have hAfter : ({ c.modifyRun r fun y => { y with channel := [], writing := false } with log } :
        Client).run r = { c.run r with channel := [], writing := false } :=
      run_modifyRun_self hRun _
    rw [hAfter]
    exact ⟨h.emitted, left, hOrder, fun hAlive => nomatch hAlive⟩
  | finished hWriting hChannel hSender =>
    rw [run_modifyRun_self hRun]
    exact ⟨h.emitted, left, hOrder, fun hAlive => nomatch hAlive⟩

theorem Conveyed.play {messages : List String} {m : Move} (hRun : r < c.runs.length)
    (h : Conveyed (c.run r) messages) :
    Conveyed ((c.play x m).run r) (messages ++ sentBy x r c m) := by
  have hSame : ∀ {d : Client}, (d.run r).wire = (c.run r).wire → Conveyed (d.run r) (messages ++ []) :=
    fun hWire => h.of_wire (hWire.trans (wire_accept_nil _).symm)
  have hPlays := plays_play x c m
  revert hPlays
  generalize c.play x m = d
  intro hPlays
  cases hPlays with
  | nothing m hNone =>
    rw [sentBy_of_none hNone hRun]
    exact hSame rfl
  | called op => exact hSame rfl
  | @advanced k p q d hCall hAdvances =>
    have hWire : (d.run r).wire = ((c.run r).accept (sentAt x r c p)).wire :=
      wire_advances hRun hAdvances
    simp only [sentBy, hCall]
    exact h.of_wire hWire
  | expired hCall hExpires =>
    refine hSame ?_
    cases hExpires with
    | request p id log hResponse => rfl
    | process a s => exact wire_modifyRun c s r fun _ => rfl
  | @wrote s y _ hGet hWrites =>
    obtain rfl := run_eq hGet
    by_cases hs : s = r
    · subst hs
      simpa only [sentBy, List.append_nil] using Conveyed.writes hRun h hWrites
    · refine hSame (congrArg Run.wire ?_)
      cases hWrites with
      | wrote | finished | failed => exact run_modifyRun_of_ne c hs _
  | read hGet hReads =>
    obtain rfl := run_eq hGet
    exact h.of_wire (wire_reads hRun hReads)
  | served s bytes =>
    refine hSame (wire_modifyRun c s r fun y => ?_)
    split <;> rfl
  | outputClosed s => exact hSame (wire_modifyRun c s r fun _ => rfl)
  | exited s => exact hSame (wire_modifyRun c s r fun _ => rfl)

theorem conveyed_playAll {messages : List String} (hRun : r < c.runs.length)
    (h : Conveyed (c.run r) messages) (moves : List Move) :
    Conveyed ((c.playAll x moves).run r) (messages ++ sent x r c moves) := by
  induction moves generalizing c messages with
  | nil => simpa [sent, collect] using h
  | cons m moves ih =>
    have hNext : r < (c.play x m).runs.length := Nat.lt_of_lt_of_le hRun (length_runs_play x c m)
    have hLater := ih hNext (h.play hRun)
    rw [List.append_assoc] at hLater
    exact hLater

/-! ## What is read of the bytes -/

/-- A writer whose process takes input empties the channel. -/
theorem run_playAll_write {channel : List String} (hRun : r < c.runs.length)
    (hWriting : (c.run r).writing = true) (hInput : (c.run r).inputOpen = true)
    (hChannel : (c.run r).channel = channel) :
    (c.playAll x (List.replicate channel.length (.write r))).run r =
      { c.run r with
        channel := []
        written := (c.run r).written ++ channel
        emitted := (c.run r).emitted ++ Rpc.frames channel } := by
  induction channel generalizing c with
  | nil =>
    rw [List.length_nil, List.replicate_zero, playAll_nil, Rpc.frames, List.flatMap_nil,
      List.append_nil, List.append_nil, ← hChannel]
  | cons message rest ih =>
    have hGet := getElem?_run hRun
    have hWrite : c.play x (.write r) = c.modifyRun r fun y =>
        { y with
          channel := rest
          written := y.written ++ [message]
          emitted := y.emitted ++ Rpc.frame message.toList } := by
      refine play_of_some ?_
      simp [play?, stepWriter, hGet, hWriting, hChannel, hInput]
    have hAfter := run_modifyRun_self hRun fun y =>
        { y with
          channel := rest
          written := y.written ++ [message]
          emitted := y.emitted ++ Rpc.frame message.toList }
    rw [List.length_cons, List.replicate_succ, playAll_cons, hWrite,
      ih (by rwa [length_runs_modifyRun]) (by rwa [hAfter]) (by rwa [hAfter]) (by rw [hAfter]),
      hAfter]
    simp only [Rpc.frames, List.flatMap_cons, List.append_assoc, List.singleton_append]

/-- **Framing round trip.** The writer of a run that is new emits the frames of messages that were put on
its channel, in the order of the channel: of all of them, once it has emptied the channel. Whoever reads
these bytes to their end gets back these messages in this order, and nothing is left of the bytes. -/
theorem readAll_emitted (x : Setup) {c : Client} {r : Nat} (hRun : r < c.runs.length)
    (hWritten : (c.run r).written = []) (hEmitted : (c.run r).emitted = []) (moves : List Move)
    (hFits : ∀ message ∈ (c.run r).channel ++ sent x r c moves, Rpc.Fits message) :
    let messages := (c.run r).channel ++ sent x r c moves
    let y := (c.playAll x moves).run r
    (∃ left, messages = y.written ++ left ∧ (y.writing = true → left = y.channel)) ∧
      y.emitted = Rpc.frames y.written ∧
      Rpc.readAll y.emitted =
        ⟨y.written.map fun message => Utf8.encode message.toList, .ended, []⟩ ∧
      (y.writing = true → y.inputOpen = true →
        let z := (c.playAll x (moves ++ List.replicate y.channel.length (.write r))).run r
        z.emitted = Rpc.frames messages ∧
          Rpc.readAll z.emitted =
            ⟨messages.map fun message => Utf8.encode message.toList, .ended, []⟩) := by
  have hNew : Conveyed (c.run r) (c.run r).channel :=
    ⟨by rw [hWritten, hEmitted]; rfl, (c.run r).channel, by rw [hWritten]; rfl, fun _ => rfl⟩
  obtain ⟨hFrames, left, hOrder, hLeft⟩ := conveyed_playAll (x := x) hRun hNew moves
  have hLater : r < (c.playAll x moves).runs.length :=
    Nat.lt_of_lt_of_le hRun (length_runs_playAll x c moves)
  refine ⟨⟨left, hOrder, hLeft⟩, hFrames, ?_, fun hWriting hInput => ?_⟩
  · rw [hFrames]
    refine Rpc.readAll_frames fun message hMem => hFits message ?_
    rw [hOrder]
    exact List.mem_append_left left hMem
  · have hAll : ((c.playAll x (moves ++ List.replicate ((c.playAll x moves).run r).channel.length
        (.write r))).run r).emitted = Rpc.frames ((c.run r).channel ++ sent x r c moves) := by
      rw [playAll_append, run_playAll_write hLater hWriting hInput rfl, hOrder, hLeft hWriting, hFrames,
        Rpc.frames, Rpc.frames, Rpc.frames, List.flatMap_append]
    exact ⟨hAll, hAll ▸ Rpc.readAll_frames hFits⟩

/-- A client whose reader and two calls are about to put messages on a channel that holds two already,
which look like a header. -/
def crowded : Client where
  runs :=
    [{ channel := ["\r\n\r\n", "Content-Length: 2\r\n\r\n€😀"]
       reader := .replying "Content-Length: 0\r\n" }]
  calls := [.sending (.call "\n" .null) 7 0, .notifying .exit 0]

/-- The senders take turns, and the writer begins. -/
def senders : List Move := [.goOn 1, .write 0, .read 0, .goOn 0, .write 0]

/-- The two messages that were written are read back, and when the channel is empty all five were
emitted in its order. -/
theorem readAll_emitted_crowded :
    0 < crowded.runs.length ∧ (crowded.run 0).written = [] ∧ (crowded.run 0).emitted = [] ∧
      (∀ message ∈ (crowded.run 0).channel ++ sent .plain 0 crowded senders, Rpc.Fits message) ∧
      Rpc.readAll ((crowded.playAll .plain senders).run 0).emitted =
        ⟨[Utf8.encode "\r\n\r\n".toList, Utf8.encode "Content-Length: 2\r\n\r\n€😀".toList],
          .ended, []⟩ ∧
      ((crowded.playAll .plain (senders ++ List.replicate 3 (.write 0))).run 0).emitted =
        Rpc.frames ["\r\n\r\n", "Content-Length: 2\r\n\r\n€😀", Notice.exit.body,
          "Content-Length: 0\r\n", (Purpose.call "\n" .null).body .plain 7] := by
  have hFits : ∀ message ∈ (crowded.run 0).channel ++ sent .plain 0 crowded senders,
      Rpc.Fits message := by decide +kernel
  obtain ⟨_, _, hRead, hRest⟩ :=
    readAll_emitted .plain (c := crowded) (r := 0) (by decide) rfl rfl senders hFits
  exact ⟨by decide, rfl, rfl, hFits, hRead, (hRest rfl rfl).1⟩

end ExtensionHost.Client
