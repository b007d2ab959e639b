import ExtensionHost.Proofs.Client.Correlation
import ExtensionHost.Proofs.Client.Emission
import ExtensionHost.Proofs.Client.Readers
import ExtensionHost.Proofs.Rpc.Streams

/-!
# How a reader ends

When the output of a server has ended, its reader takes the frames that are left and then ends the requests
that wait and changes the state. There is one exception: a header that announces more bytes than memory is
ever asked for breaks the reader off, and nothing is ended or changed (`not_alwaysEnds`). `foretold_playAll`
carries along what all bytes of the server will come to, whatever was read of them so far; `turns_stop` lets
the reader and its writer take turns until the reader is there; `ends_unless_tooLarge` puts both together.
-/

namespace ExtensionHost.Client

variable {x : Setup} {c d : Client} {r : Nat}

/-! ## What the bytes of a server come to -/

/-- The bytes that a move lets the server of a run write. -/
def servedBy (r : Nat) (c : Client) : Move → List UInt8
  | .output s bytes => if s = r ∧ r < c.runs.length ∧ (c.run r).outputOpen then bytes else []
  | _ => []

/-- All bytes that moves let the server of a run write. -/
def served (x : Setup) (r : Nat) (c : Client) (moves : List Move) : List UInt8 :=
  collect x (servedBy r) c moves

theorem servedBy_of_le {m : Move} (h : c.runs.length ≤ r) : servedBy r c m = [] := by
  cases m with
  | output s bytes => exact if_neg fun hServed => absurd hServed.2.1 (Nat.not_lt.mpr h)
  | _ => rfl

theorem servedBy_of_silent {m : Move}
    (h : ∀ bytes, m = .output r bytes → (c.run r).outputOpen = false) : servedBy r c m = [] := by
  cases m with
  | output s bytes =>
    refine if_neg fun hServed => ?_
    obtain ⟨rfl, -, hOpen⟩ := hServed
    exact absurd hOpen (by simp [h bytes rfl])
  | _ => rfl

/-- Whether the reader of a run breaks off, now or when more bytes follow those that it has not read. -/
def Run.breaks (y : Run) (more : List UInt8) : Prop :=
  match y.reader with
  | .idle => (Rpc.readAll (y.output ++ more)).stop = .tooLarge
  | .reading => (Rpc.readAll (y.output ++ more)).stop = .tooLarge
  | .replying _ => (Rpc.readAll (y.output ++ more)).stop = .tooLarge
  | .broken => True
  | .draining _ => False
  | .leaving _ => False
  | .ended => False

/-- The bytes of a server foretell whether the reader of the run breaks off, whatever follows them. -/
def Foretold (y : Run) (stream : List UInt8) : Prop :=
  ∀ more, (y.outputOpen = false → more = []) →
    (y.breaks more ↔ (Rpc.readAll (stream ++ more)).stop = .tooLarge)

theorem breaks_of_intake {y z : Run} (h : z.intake = y.intake) (more : List UInt8) :
    z.breaks more ↔ y.breaks more := by
  simp only [Run.intake, Prod.mk.injEq] at h
  unfold Run.breaks
  rw [h.1, h.2.1]

theorem Foretold.of_intake {y z : Run} {stream : List UInt8} (h : Foretold y stream)
    (hIntake : z.intake = y.intake) : Foretold z stream := by
  have hOpen : z.outputOpen = y.outputOpen := congrArg (fun i => i.2.2) hIntake
  exact fun more hMore => (breaks_of_intake hIntake more).trans (h more (hOpen ▸ hMore))

/-- A reader that goes on does not change what the bytes foretell. -/
theorem breaks_digests {y z : Run} {more : List UInt8} (h : Digests y z)
    (hMore : y.outputOpen = false → more = []) : z.breaks more ↔ y.breaks more := by
  cases h with
  | frame body rest hReader hFrame hListens hOutput hOpen =>
    have hAll := Rpc.readAll_of_frame hMore hFrame
    have hAfter : z.breaks more ↔ (Rpc.readAll (z.output ++ more)).stop = .tooLarge := by
      rcases hListens with hReading | ⟨message, hReplying⟩
      · simp only [Run.breaks, hReading]
      · simp only [Run.breaks, hReplying]
    rw [hAfter]
    simp only [Run.breaks, hReader, hOutput, hAll]
  | stopped stop hReader hFrame hNoFrame hComplete hIntake =>
    have hAll := Rpc.readAll_of_stop hMore hFrame hNoFrame hComplete
    have hNext : z.reader = readerAt stop := congrArg Prod.fst hIntake
    simp only [Run.breaks, hReader, hAll, hNext]
    cases stop <;> simp [readerAt]
  | replied message hReader hIntake =>
    simp only [Run.intake, Prod.mk.injEq] at hIntake
    simp only [Run.breaks, hReader, hIntake.1, hIntake.2.1]
  | drained reason hReader hIntake | left reason hReader hIntake =>
    have hNext := congrArg Prod.fst hIntake
    simp only [Run.intake] at hNext
    simp only [Run.breaks, hReader, hNext]

theorem Foretold.play {stream : List UInt8} {m : Move} (hRun : r < c.runs.length)
    (hAttended : Attended c) (h : Foretold (c.run r) stream) :
    Foretold ((c.play x m).run r) (stream ++ servedBy r c m) := by
  have hTakes := takes_play x hRun m
  generalize c.play x m = d at hTakes ⊢
  cases hTakes with
  | kept _ _ hIntake hSilent =>
    rw [servedBy_of_silent hSilent, List.append_nil]
    exact h.of_intake hIntake
  | begun k _ hCall hNow hIntake =>
    have hIdle := (hAttended.idle k r hCall).2
    simp only [Run.intake, Prod.mk.injEq] at hIntake
    obtain ⟨hReader, hOutput, hOpen⟩ := hIntake
    simp only [servedBy, List.append_nil]
    intro more hMore
    rw [← h more (hOpen ▸ hMore)]
    simp only [Run.breaks, hReader, hIdle, hOutput]
  | read _ hReads =>
    have hDigests := digests_reads hRun hReads
    simp only [servedBy, List.append_nil]
    have hOpen : (d.run r).outputOpen = (c.run r).outputOpen := hDigests.outputOpen
    exact fun more hMore =>
      (breaks_digests hDigests (hOpen ▸ hMore)).trans (h more (hOpen ▸ hMore))
  | served _ bytes hOpen hIntake =>
    have hServed : servedBy r c (.output r bytes) = bytes := if_pos ⟨rfl, hRun, hOpen⟩
    simp only [Run.intake, Prod.mk.injEq] at hIntake
    obtain ⟨hReader, hOutput, -⟩ := hIntake
    intro more hMore
    rw [hServed, List.append_assoc, ← h (bytes ++ more) (by simp [hOpen])]
    simp only [Run.breaks, hReader, hOutput, List.append_assoc]
  | closed _ hIntake =>
    simp only [Run.intake, Prod.mk.injEq] at hIntake
    obtain ⟨hReader, hOutput, hClosed⟩ := hIntake
    simp only [servedBy, List.append_nil]
    intro more hMore
    rw [← h more fun _ => hMore hClosed]
    simp only [Run.breaks, hReader, hOutput]

theorem outputOpen_play {m : Move} (hRun : r < c.runs.length) (h : (c.run r).outputOpen = false) :
    ((c.play x m).run r).outputOpen = false := by
  have hTakes := takes_play x hRun m
  generalize c.play x m = d at hTakes ⊢
  cases hTakes with
  | kept _ _ hIntake => exact (congrArg (fun i => i.2.2) hIntake).trans h
  | begun _ _ _ _ hIntake => exact (congrArg (fun i => i.2.2) hIntake).trans h
  | read _ hReads => exact (digests_reads hRun hReads).outputOpen.trans h
  | served _ _ hOpen => exact absurd hOpen (by simp [h])
  | closed _ hIntake => exact congrArg (fun i => i.2.2) hIntake

theorem Foretold.play_of_le {stream : List UInt8} {m : Move} (hRun : c.runs.length ≤ r)
    (hAttended : Attended c) (h : Foretold (c.run r) stream) :
    Foretold ((c.play x m).run r) (stream ++ servedBy r c m) := by
  rw [servedBy_of_le hRun, List.append_nil]
  exact h.of_intake (intake_play_of_le x hAttended hRun m)

theorem foretold_playAll (listeners : Listeners Nat) (moves : List Move) (r : Nat) :
    Foretold (((fresh listeners).playAll x moves).run r) (served x r (fresh listeners) moves) := by
  induction moves using List.reverseRecOn with
  | nil => exact fun more _ => Iff.rfl
  | append_singleton moves m ih =>
    have hAttended := attended_playAll (x := x) (attended_fresh listeners) moves
    rw [playAll_concat, served, collect_concat]
    rcases Nat.lt_or_ge r ((fresh listeners).playAll x moves).runs.length with hRun | hRun
    · exact ih.play hRun hAttended
    · exact ih.play_of_le hRun hAttended

/-! ## Turns of a reader and its writer -/

/-- The writer of a run and then its reader go on. -/
def turn (r : Nat) : List Move := [.write r, .read r]

/-- The writer of a run and its reader take turns. -/
def turns (r n : Nat) : List Move := (List.replicate n (turn r)).flatten

/-- A bound on the turns that a reader needs. A reply that waits for room lies between two frames, and each
message on the channel may stand in its way. -/
def Run.rank (y : Run) : Nat :=
  y.channel.length +
    match y.reader with
    | .reading => 3 * y.output.length + 3
    | .replying _ => 3 * y.output.length + 5
    | .draining _ => 2
    | .leaving _ => 1
    | .idle => 0
    | .ended => 0
    | .broken => 0

/-- A writer that goes on leaves the reader alone and makes room for it, if there is none. -/
theorem play_write (x : Setup) (hRun : r < c.runs.length) :
    let d := c.play x (.write r)
    d.standing = c.standing ∧ d.books = c.books ∧ (d.run r).intake = (c.run r).intake ∧
      (d.run r).channel.length ≤ (c.run r).channel.length ∧
      ((d.run r).writing = true → (d.run r).hasRoom = false →
        (d.run r).channel.length < (c.run r).channel.length) := by
  have hPlays := plays_play x c (.write r)
  generalize c.play x (.write r) = d at hPlays ⊢
  cases hPlays with
  | nothing _ hNone =>
    refine ⟨rfl, rfl, rfl, Nat.le_refl _, fun hWriting hRoom => ?_⟩
    cases hChannel : (c.run r).channel with
    | nil => simp [Run.hasRoom, hChannel, channelSize] at hRoom
    | cons message rest =>
      simp only [play?, stepWriter, getElem?_run hRun, hWriting, hChannel] at hNone
      simp at hNone
      split at hNone <;> cases hNone
  | wrote hGet hWrites =>
    obtain rfl := run_eq hGet
    have hTo : ∀ f : Run → Run, (c.modifyRun r f).run r = f (c.run r) := run_modifyRun_self hRun
    have hIntake := intake_writes (r := r) hWrites
    cases hWrites with
    | wrote message rest hWriting hChannel hInput =>
      refine ⟨rfl, rfl, hIntake, ?_⟩
      rw [hTo]
      simp [hChannel]
    | failed log hWriting hInput =>
      have hNow : ({ c.modifyRun r fun y => { y with channel := [], writing := false } with log } :
          Client).run r = { c.run r with channel := [], writing := false } := hTo _
      refine ⟨rfl, rfl, hIntake, ?_⟩
      rw [hNow]
      exact ⟨Nat.zero_le _, fun h => by cases h⟩
    | finished hWriting hChannel hSender =>
      refine ⟨rfl, rfl, hIntake, ?_⟩
      rw [hTo]
      exact ⟨Nat.le_refl _, fun h => by cases h⟩

/-! ## The frames that are left -/

/-- A client has taken frames with some bodies: the requests wait to which none of them responds, and the
others have a response. -/
structure Answered (c : Client) (bodies : List (List UInt8)) (d : Client) : Prop where
  standing : d.standing = c.standing
  pending : d.pending = c.pending.filter fun id => bodies.all fun body => (responseTo id body).isNone
  kept : ∀ id v, (id, v) ∈ c.responses → (id, v) ∈ d.responses
  given : ∀ id ∈ c.pending, id ∈ d.pending ∨ ∃ v, (id, v) ∈ d.responses

theorem answered_nothing (hStanding : d.standing = c.standing) (hBooks : d.books = c.books) :
    Answered c [] d := by
  simp only [books, Prod.mk.injEq] at hBooks
  obtain ⟨-, hPending, hResponses⟩ := hBooks
  refine ⟨hStanding, ?_, fun id v h => hResponses ▸ h, fun id h => .inl (hPending ▸ h)⟩
  rw [hPending]
  exact (List.filter_eq_self.mpr fun _ _ => rfl).symm

theorem answered_frame {body : List UInt8} (hStanding : d.standing = c.standing)
    (hNotes : Notes c (.frame body) d) : Answered c [body] d := by
  have hPending : d.pending = c.pending.filter fun id => (responseTo id body).isNone := by
    rw [hNotes.pending, Event.numbers, List.append_nil]
    refine List.filter_congr fun id _ => ?_
    rw [Event.ends, Option.not_isSome]
  refine ⟨hStanding, by simpa using hPending, fun id v h => (hNotes.responses id v).mpr (.inl h),
    fun id hMem => ?_⟩
  cases hTo : responseTo id body with
  | none =>
    refine .inl ?_
    rw [hPending, List.mem_filter]
    exact ⟨hMem, by simp [hTo]⟩
  | some v => exact .inr ⟨v, (hNotes.responses id v).mpr (.inr ⟨hMem, hTo⟩)⟩

theorem Answered.mem_pending_iff {bodies : List (List UInt8)} (h : Answered c bodies d) (id : Nat) :
    id ∈ d.pending ↔ id ∈ c.pending ∧ ∀ body ∈ bodies, responseTo id body = none := by
  rw [h.pending, List.mem_filter, List.all_eq_true]
  simp only [Option.isNone_iff_eq_none]

theorem Answered.trans {e : Client} {first second : List (List UInt8)} (h : Answered c first d)
    (h' : Answered d second e) : Answered c (first ++ second) e := by
  refine ⟨h'.standing.trans h.standing, ?_, fun id v hv => h'.kept id v (h.kept id v hv), fun id hMem => ?_⟩
  · rw [h'.pending, h.pending, List.filter_filter]
    refine List.filter_congr fun id _ => ?_
    rw [List.all_append, Bool.and_comm]
  · rcases h.given id hMem with hStill | ⟨v, hv⟩
    · exact h'.given id hStill
    · exact .inr ⟨v, h'.kept id v hv⟩

/-- What the reader of a run does to frames that are left of an output that has ended: it takes some of them
and comes closer to the end, or there are none and it stops. -/
def Approaches (r : Nat) (c d : Client) : Prop :=
  let found := Rpc.readAll (c.run r).output
  (∃ bodies, found.bodies = bodies ++ (Rpc.readAll (d.run r).output).bodies ∧
      found.stop = (Rpc.readAll (d.run r).output).stop ∧ (d.run r).Listens ∧
      (d.run r).outputOpen = false ∧ (d.run r).rank < (c.run r).rank ∧ Answered c bodies d) ∨
    found.bodies = [] ∧ (d.run r).reader = readerAt found.stop ∧ Answered c [] d

theorem rank_of_listens {y : Run} (h : y.Listens) :
    y.channel.length + 3 * y.output.length + 3 ≤ y.rank ∧
      y.rank ≤ y.channel.length + 3 * y.output.length + 5 := by
  rcases h with hReading | ⟨message, hReplying⟩
  · simp only [Run.rank, hReading]
    omega
  · simp only [Run.rank, hReplying]
    omega

theorem channel_reads (hRun : r < c.runs.length) (h : Reads x c r (c.run r) d) :
    (d.run r).channel = (c.run r).channel ++ repliedBy (c.run r) := by
  have hWire := wire_reads hRun h
  rw [if_pos rfl] at hWire
  exact congrArg Prod.fst hWire

/-- A reader that goes on comes closer to its end. -/
theorem approaches_reads (hRun : r < c.runs.length) (hListens : (c.run r).Listens)
    (hClosed : (c.run r).outputOpen = false) (hReads : Reads x c r (c.run r) d) :
    Approaches r c d := by
  have hReading : ∀ {y : Run}, y.reader = .reading → repliedBy y = [] := by
    intro y hReader
    simp only [repliedBy, hReader]
  have hChannel := channel_reads hRun hReads
  have hKeeps := keeps_reads hReads
  have hStanding := standing_reads hReads
  have hDigests := digests_reads hRun hReads
  have hOpen := hDigests.outputOpen.trans hClosed
  have hEnd : ((c.run r).outputOpen = false → ([] : List UInt8) = []) := fun _ => rfl
  cases hDigests with
  | frame body rest hReader hFrame hNext hOutput =>
    have hEvents : eventsRead (c.run r) = [.frame body] := by
      simp only [eventsRead, hReader, hFrame]
    rw [hEvents] at hKeeps
    have hFound := Rpc.readAll_of_frame hEnd hFrame
    rw [List.append_nil, List.append_nil] at hFound
    rw [hReading hReader, List.append_nil] at hChannel
    have hLess : rest.length < (c.run r).output.length := Rpc.length_of_readFrame hFrame
    refine .inl ⟨[body], ?_, ?_, hNext, hOpen, ?_,
      answered_frame (hStanding (by simp [hReader])) hKeeps.of_singleton⟩
    · rw [hFound, hOutput]
      rfl
    · rw [hFound, hOutput]
    · have hAfter := (rank_of_listens hNext).2
      have hBefore := (rank_of_listens hListens).1
      rw [hChannel, hOutput] at hAfter
      omega
  | stopped stop hReader hFrame hNoFrame hComplete hIntake =>
    have hFound := Rpc.readAll_of_stop hEnd hFrame hNoFrame hComplete
    rw [List.append_nil] at hFound
    have hEvents : eventsRead (c.run r) = [] := by
      simp only [eventsRead, hReader, hFrame]
    rw [hEvents] at hKeeps
    refine .inr ⟨by rw [hFound], ?_, answered_nothing (hStanding (by simp [hReader])) hKeeps.of_nil⟩
    rw [hFound]
    exact congrArg Prod.fst hIntake
  | replied message hReader hIntake =>
    have hEvents : eventsRead (c.run r) = [] := by simp only [eventsRead, hReader]
    rw [hEvents] at hKeeps
    simp only [Run.intake, Prod.mk.injEq] at hIntake
    obtain ⟨hNext, hOutput, -⟩ := hIntake
    refine .inl ⟨[], by rw [hOutput, List.nil_append], by rw [hOutput], .inl hNext, hOpen, ?_,
      answered_nothing (hStanding (by simp [hReader])) hKeeps.of_nil⟩
    have hOne : (repliedBy (c.run r)).length ≤ 1 := by
      unfold repliedBy
      split
      · split <;> simp
      · simp
    simp only [Run.rank, hReader, hNext, hOutput, hChannel, List.length_append]
    omega
  | drained reason hReader | left reason hReader => simp [Run.Listens, hReader] at hListens

/-- A reader that listens goes on, unless it waits for room. -/
theorem approaches_read (x : Setup) (hRun : r < c.runs.length) (hListens : (c.run r).Listens)
    (hClosed : (c.run r).outputOpen = false) :
    Approaches r c (c.play x (.read r)) ∨
      c.play x (.read r) = c ∧ (c.run r).writing = true ∧ (c.run r).hasRoom = false := by
  have hPlays := plays_play x c (.read r)
  generalize c.play x (.read r) = d at hPlays ⊢
  cases hPlays with
  | nothing _ hNone =>
    rcases reader_of_none (getElem?_run hRun) hNone with
      hReader | hReader | hReader | ⟨-, hFrame⟩ | ⟨message, -, hWriting, hFull⟩
    · simp [Run.Listens, hReader] at hListens
    · simp [Run.Listens, hReader] at hListens
    · simp [Run.Listens, hReader] at hListens
    · rw [hClosed] at hFrame
      exact absurd hFrame (Rpc.readFrame_true_ne_incomplete _)
    · exact .inr ⟨rfl, hWriting, hFull⟩
  | read hGet hReads =>
    obtain rfl := run_eq hGet
    exact .inl (approaches_reads hRun hListens hClosed hReads)

/-- A turn brings the reader of a run closer to its end. -/
theorem approaches_turn (x : Setup) (hRun : r < c.runs.length) (hListens : (c.run r).Listens)
    (hClosed : (c.run r).outputOpen = false) : Approaches r c (c.playAll x (turn r)) := by
  obtain ⟨hStanding, hBooks, hIntake, hChannel, hRoom⟩ := play_write x hRun
  have hWritten := answered_nothing hStanding hBooks
  have hLength := length_runs_play x c (.write r)
  rw [turn, playAll_cons, playAll_cons, playAll_nil]
  generalize c.play x (.write r) = b at *
  simp only [Run.intake, Prod.mk.injEq] at hIntake
  obtain ⟨hReader, hOutput, hOpen⟩ := hIntake
  have hListens' : (b.run r).Listens := by
    rwa [Run.Listens, hReader]
  have hRank : (b.run r).rank + (c.run r).channel.length = (c.run r).rank + (b.run r).channel.length := by
    simp only [Run.rank, hReader, hOutput]
    omega
  rcases approaches_read x (Nat.lt_of_lt_of_le hRun hLength) hListens' (hOpen.trans hClosed) with hRead | ⟨hSame, hWriting, hFull⟩
  · rcases hRead with ⟨bodies, hBodies, hStop, hNext, hClosed', hLess, hAnswered⟩ |
        ⟨hBodies, hNext, hAnswered⟩
    · rw [hOutput] at hBodies hStop
      exact .inl ⟨bodies, hBodies, hStop, hNext, hClosed', by omega, hWritten.trans hAnswered⟩
    · rw [hOutput] at hBodies hNext
      exact .inr ⟨hBodies, hNext, hWritten.trans hAnswered⟩
  · rw [hSame]
    have hLess := hRoom hWriting hFull
    refine .inl ⟨[], by rw [hOutput, List.nil_append], by rw [hOutput], hListens', hOpen.trans hClosed,
      by omega, hWritten⟩

theorem turns_succ (r n : Nat) : turns r (n + 1) = turn r ++ turns r n := by
  rw [turns, List.replicate_succ, List.flatten_cons, turns]

theorem turns_add (r m n : Nat) : turns r (m + n) = turns r m ++ turns r n := by
  rw [turns, turns, turns, ← List.flatten_append, List.replicate_append_replicate]

theorem lt_of_listens (h : (c.run r).Listens) : r < c.runs.length := by
  refine Nat.lt_of_not_le fun hRun => ?_
  rw [run_of_le hRun] at h
  rcases h with hReading | ⟨message, hReplying⟩
  · cases hReading
  · cases hReplying

/-- **The reader of an output that has ended comes to the end of what is left of it**, taking turns with its
writer, and the frames that it takes are those that are found there. -/
theorem turns_stop (x : Setup) (hRun : r < c.runs.length) (hListens : (c.run r).Listens)
    (hClosed : (c.run r).outputOpen = false) :
    let found := Rpc.readAll (c.run r).output
    ∃ n, ((c.playAll x (turns r n)).run r).reader = readerAt found.stop ∧
      Answered c found.bodies (c.playAll x (turns r n)) := by
  induction hRank : (c.run r).rank using Nat.strongRecOn generalizing c with
  | ind rank ih =>
    have hLater := Nat.lt_of_lt_of_le hRun (length_runs_playAll x c (turn r))
    rcases approaches_turn x hRun hListens hClosed with
      ⟨bodies, hBodies, hStop, hNext, hClosed', hLess, hAnswered⟩ | ⟨hBodies, hNext, hAnswered⟩
    · obtain ⟨n, hReader, hRest⟩ := ih _ (hRank ▸ hLess) hLater hNext hClosed' rfl
      refine ⟨n + 1, ?_⟩
      rw [turns_succ, playAll_append, hBodies, hStop]
      exact ⟨hReader, hAnswered.trans hRest⟩
    · refine ⟨1, ?_⟩
      rw [turns_succ, playAll_append, hBodies]
      exact ⟨hNext, hAnswered⟩

/-! ## The end -/

theorem turn_draining (x : Setup) {reason : Option String} (hRun : r < c.runs.length)
    (hReader : (c.run r).reader = .draining reason) :
    let d := c.playAll x (turn r)
    (d.run r).reader = .leaving reason ∧ d.standing = c.standing ∧ d.pending = [] ∧
      d.responses = c.responses ++ c.pending.map fun id => (id, .error (terminated id)) := by
  obtain ⟨hStanding, hBooks, hIntake, -, -⟩ := play_write x hRun
  have hLater := Nat.lt_of_lt_of_le hRun (length_runs_play x c (.write r))
  rw [turn, playAll_cons, playAll_cons, playAll_nil]
  generalize c.play x (.write r) = b at *
  simp only [books, Prod.mk.injEq] at hBooks
  obtain ⟨-, hPending, hResponses⟩ := hBooks
  have hReader' : (b.run r).reader = .draining reason := (congrArg Prod.fst hIntake).trans hReader
  have hRead : b.play x (.read r) = b.drain.modifyRun r fun y => { y with reader := .leaving reason } :=
    play_of_some (by simp only [play?, stepReader, getElem?_run hLater, hReader'])
  rw [hRead]
  refine ⟨?_, hStanding, rfl, ?_⟩
  · have hDrained : r < b.drain.runs.length := hLater
    rw [run_modifyRun_self hDrained]
  · rw [← hPending, ← hResponses]
    rfl

theorem turn_leaving (x : Setup) {reason : Option String} (hRun : r < c.runs.length)
    (hReader : (c.run r).reader = .leaving reason) :
    let d := c.playAll x (turn r)
    (d.run r).reader = .ended ∧ d.standing = c.standing.afterEnd reason ∧ d.books = c.books := by
  obtain ⟨hStanding, hBooks, hIntake, -, -⟩ := play_write x hRun
  have hLater := Nat.lt_of_lt_of_le hRun (length_runs_play x c (.write r))
  rw [turn, playAll_cons, playAll_cons, playAll_nil]
  generalize c.play x (.write r) = b at *
  have hReader' : (b.run r).reader = .leaving reason := (congrArg Prod.fst hIntake).trans hReader
  have hRead : b.play x (.read r) =
      (b.leave x reason).modifyRun r fun y => { y with reader := .ended } :=
    play_of_some (by simp only [play?, stepReader, getElem?_run hLater, hReader'])
  rw [hRead]
  refine ⟨?_, ?_, ?_⟩
  · rw [run_modifyRun_self (by rwa [length_runs_leave])]
  · rw [← hStanding]
    exact standing_leave x b reason
  · refine Eq.trans ?_ hBooks
    have hLeave : (b.leave x reason).books = b.books := by
      unfold leave
      split <;> rfl
    exact hLeave

/-- A reader that has come to the end of the output needs two more turns: it ends the requests that wait, and
then changes the state. -/
theorem turns_end (x : Setup) {reason : Option String} (hRun : r < c.runs.length)
    (hReader : (c.run r).reader = .draining reason) :
    let d := c.playAll x (turns r 2)
    (d.run r).reader = .ended ∧ d.standing = c.standing.afterEnd reason ∧ d.pending = [] ∧
      d.responses = c.responses ++ c.pending.map fun id => (id, .error (terminated id)) := by
  obtain ⟨hLeaving, hStanding, hPending, hResponses⟩ := turn_draining x hRun hReader
  have hLater := Nat.lt_of_lt_of_le hRun (length_runs_playAll x c (turn r))
  obtain ⟨hEnded, hStanding', hBooks⟩ := turn_leaving x hLater hLeaving
  have hTurns : turns r 2 = turn r ++ turn r := by
    rw [turns_succ]
    rfl
  simp only [books, Prod.mk.injEq] at hBooks
  rw [hTurns, playAll_append]
  exact ⟨hEnded, hStanding'.trans (by rw [hStanding]), hBooks.2.1.trans hPending,
    hBooks.2.2.trans hResponses⟩

/-- A reader that has begun comes to its end when the output has ended, unless it breaks off. -/
theorem turns_ended (x : Setup) (hRun : r < c.runs.length) (hBegun : (c.run r).reader ≠ .idle)
    (hReader : (c.run r).reader ≠ .ended) (hClosed : (c.run r).outputOpen = false)
    (hWhole : ¬ (c.run r).breaks []) :
    ∃ n reason, let d := c.playAll x (turns r n)
      (d.run r).reader = .ended ∧ d.standing = c.standing.afterEnd reason := by
  have hListening : (c.run r).Listens → (Rpc.readAll (c.run r).output).stop ≠ .tooLarge →
      ∃ n reason, let d := c.playAll x (turns r n)
        (d.run r).reader = .ended ∧ d.standing = c.standing.afterEnd reason := by
    intro hListens hFits
    obtain ⟨n, hNext, hAnswered⟩ := turns_stop x hRun hListens hClosed
    have hLater := Nat.lt_of_lt_of_le hRun (length_runs_playAll x c (turns r n))
    obtain ⟨hEnded, hStanding, -, -⟩ :=
      turns_end x hLater (hNext.trans (readerAt_of_ne_tooLarge hFits))
    refine ⟨n + 2, stopReason (Rpc.readAll (c.run r).output).stop, ?_⟩
    rw [turns_add, playAll_append]
    exact ⟨hEnded, hStanding.trans (by rw [hAnswered.standing])⟩
  cases hNow : (c.run r).reader with
  | idle => exact absurd hNow hBegun
  | ended => exact absurd hNow hReader
  | broken => exact absurd (by simp only [Run.breaks, hNow]) hWhole
  | reading => exact hListening (.inl hNow) (by simpa only [Run.breaks, hNow, List.append_nil] using hWhole)
  | replying message =>
    exact hListening (.inr ⟨message, hNow⟩)
      (by simpa only [Run.breaks, hNow, List.append_nil] using hWhole)
  | draining reason =>
    obtain ⟨hEnded, hStanding, -, -⟩ := turns_end x hRun hNow
    exact ⟨2, reason, hEnded, hStanding⟩
  | leaving reason =>
    obtain ⟨hEnded, hStanding, -⟩ := turn_leaving x hRun hNow
    refine ⟨1, reason, ?_⟩
    rw [turns_succ, playAll_append]
    exact ⟨hEnded, hStanding⟩

/-- A reader whose bytes foretell that it breaks off never ends the requests that wait, whatever happens. -/
theorem not_ended_of_tooLarge {stream : List UInt8} (hAttended : Attended c) (hRun : r < c.runs.length)
    (hClosed : (c.run r).outputOpen = false) (h : Foretold (c.run r) stream)
    (hStop : (Rpc.readAll stream).stop = .tooLarge) (moves : List Move) :
    let y := (c.playAll x moves).run r
    y.reader ≠ .ended ∧ ∀ reason, y.reader ≠ .draining reason ∧ y.reader ≠ .leaving reason := by
  induction moves generalizing c with
  | nil =>
    have hBreaks : (c.run r).breaks [] := (h [] fun _ => rfl).mpr (by rwa [List.append_nil])
    rw [playAll_nil]
    unfold Run.breaks at hBreaks
    cases hReader : (c.run r).reader <;> simp_all
  | cons m moves ih =>
    have hNext := h.play (x := x) (m := m) hRun hAttended
    rw [servedBy_of_silent fun _ _ => hClosed, List.append_nil] at hNext
    exact ih hAttended.play (Nat.lt_of_lt_of_le hRun (length_runs_play x c m))
      (outputOpen_play hRun hClosed) hNext

/-- **A reader comes to its end, unless a header announces too much.** When the output of a server has ended
whose reader waits for frames or has one to reply to, then:

* if all bytes of the server hold no header above what memory is asked for, turns of the reader and its
  writer bring the reader to its end, for good; no request waits any more, those to which no frame that was
  left responds have failed because the server terminated, a client that was ready or starting is crashed,
  and each listener was told once, if it was ready;
* otherwise turns of the two bring the reader to that header, which breaks it off; the client stands as
  before, the requests to which no frame responds wait on, and whatever happens then, the reader never comes
  to ending them. -/
theorem ends_unless_tooLarge (x : Setup) (listeners : Listeners Nat) (moves : List Move) (r : Nat)
    (hListens : (((fresh listeners).playAll x moves).run r).Listens)
    (hClosed : (((fresh listeners).playAll x moves).run r).outputOpen = false) :
    let c := (fresh listeners).playAll x moves
    let stop := (Rpc.readAll (served x r (fresh listeners) moves)).stop
    let found := Rpc.readAll (c.run r).output
    (stop ≠ .tooLarge →
      ∃ n, let d := c.playAll x (turns r n)
        (∀ more, ((d.playAll x more).run r).reader = .ended) ∧ d.pending = [] ∧
          (∀ id ∈ c.pending, (∃ v, (id, v) ∈ d.responses) ∧
            ((∀ body ∈ found.bodies, responseTo id body = none) →
              (id, .error (terminated id)) ∈ d.responses)) ∧
          d.standing = c.standing.afterEnd (stopReason found.stop)) ∧
    (stop = .tooLarge →
      (∃ n, let d := c.playAll x (turns r n)
        (d.run r).reader = .broken ∧ d.standing = c.standing ∧
          ∀ id, id ∈ d.pending ↔ id ∈ c.pending ∧ ∀ body ∈ found.bodies, responseTo id body = none) ∧
      ∀ more, let y := (c.playAll x more).run r
        y.reader ≠ .ended ∧ ∀ reason, y.reader ≠ .draining reason ∧ y.reader ≠ .leaving reason) := by
  intro c stop found
  have hRun : r < c.runs.length := lt_of_listens hListens
  have hAttended : Attended c := attended_playAll (attended_fresh listeners) moves
  have hForetold : Foretold (c.run r) (served x r (fresh listeners) moves) :=
    foretold_playAll listeners moves r
  obtain ⟨n, hReader, hAnswered⟩ := turns_stop x hRun hListens hClosed
  have hSame : found.stop = .tooLarge ↔ stop = .tooLarge := by
    have hBreaks := hForetold [] fun _ => rfl
    rw [List.append_nil] at hBreaks
    rw [← hBreaks]
    rcases hListens with hReading | ⟨message, hReplying⟩
    · simp only [Run.breaks, hReading, List.append_nil, found, c]
    · simp only [Run.breaks, hReplying, List.append_nil, found, c]
  have hLater := Nat.lt_of_lt_of_le hRun (length_runs_playAll x c (turns r n))
  refine ⟨fun hStop => ⟨n + 2, ?_⟩, fun hStop => ⟨⟨n, ?_, hAnswered.standing, fun id => ?_⟩,
    not_ended_of_tooLarge hAttended hRun hClosed hForetold hStop⟩⟩
  · have hDraining := readerAt_of_ne_tooLarge (mt hSame.mp hStop)
    obtain ⟨hEnded, hStanding, hPending, hResponses⟩ := turns_end x hLater (hReader.trans hDraining)
    have hLast := Nat.lt_of_lt_of_le hLater (length_runs_playAll x _ (turns r 2))
    rw [turns_add, playAll_append]
    refine ⟨ended_playAll (attended_playAll (attended_playAll hAttended _) _) hLast hEnded, hPending,
      fun id hMem => ⟨?_, fun hAlone => ?_⟩, hStanding.trans (by rw [hAnswered.standing])⟩
    · rw [hResponses]
      rcases hAnswered.given id hMem with hStill | ⟨v, hv⟩
      · exact ⟨_, List.mem_append_right _ (List.mem_map.mpr ⟨id, hStill, rfl⟩)⟩
      · exact ⟨v, List.mem_append_left _ hv⟩
    · rw [hResponses]
      refine List.mem_append_right _ (List.mem_map.mpr ⟨id, ?_, rfl⟩)
      exact (hAnswered.mem_pending_iff id).mpr ⟨hMem, hAlone⟩
  · rw [hReader, hSame.mpr hStop]
    rfl
  · exact hAnswered.mem_pending_iff id

/-! ## A header that announces too much -/

/-- A client is started and becomes ready, and a request waits for its response. -/
def running : List Move :=
  [.call .start] ++ List.replicate 9 (.goOn 0) ++
    [.output 0 (Rpc.frame "\x7b\"id\":0\x7d".toList), .read 0] ++ List.replicate 5 (.goOn 0) ++
    [.call (.request "x" .null)] ++ List.replicate 4 (.goOn 1)

/-- The server of a running client writes and closes its output. -/
def lastWords (text : List Char) : List Move :=
  running ++ [.output 0 (Utf8.encode text), .closeOutput 0]

/-- A listener. -/
def listener : Listeners Nat := (({} : Listeners Nat).add 5).1

/-- A server that writes a part of a frame, and then closes its output. -/
def cutShort : List Move := lastWords (Rpc.header 7 ++ ['7'])

/-- The end of a server that was cut short is noticed. -/
theorem ends_unless_tooLarge_cutShort :
    let c := (fresh listener).playAll .plain cutShort
    (c.run 0).Listens ∧ (c.run 0).outputOpen = false ∧
      (Rpc.readAll (served .plain 0 (fresh listener) cutShort)).stop ≠ .tooLarge ∧ 1 ∈ c.pending ∧
      ∃ n, let d := c.playAll .plain (turns 0 n)
        (d.run 0).reader = .ended ∧ d.pending = [] ∧ (1, .error (terminated 1)) ∈ d.responses ∧
          d.status = .crashed ∧
          d.notified = [(5, some "Failed to read from language server: early eof")] := by
  have hListens : (((fresh listener).playAll .plain cutShort).run 0).Listens :=
    .inl (by decide +kernel)
  have hClosed : (((fresh listener).playAll .plain cutShort).run 0).outputOpen = false := by
    decide +kernel
  have hStop : (Rpc.readAll (served .plain 0 (fresh listener) cutShort)).stop ≠ .tooLarge := by
    decide +kernel
  have hPending : 1 ∈ ((fresh listener).playAll .plain cutShort).pending := by decide +kernel
  have hFound : (Rpc.readAll (((fresh listener).playAll .plain cutShort).run 0).output).bodies = [] := by
    decide +kernel
  obtain ⟨hEnds, -⟩ := ends_unless_tooLarge .plain listener cutShort 0 hListens hClosed
  obtain ⟨n, hEnded, hNone, hFailed, hStanding⟩ := hEnds hStop
  have hNow := hEnded []
  rw [playAll_nil] at hNow
  have hAlone := (hFailed 1 hPending).2 fun body hBody => by
    rw [hFound] at hBody
    cases hBody
  refine ⟨hListens, hClosed, hStop, hPending, n, hNow, hNone, hAlone,
    (congrArg Standing.status hStanding).trans ?_, (congrArg Standing.notified hStanding).trans ?_⟩
  · decide +kernel
  · decide +kernel

/-- Whenever the output of a server has ended, its reader can come to its end. -/
def AlwaysEnds : Prop :=
  ∀ (x : Setup) (listeners : Listeners Nat) (moves : List Move) (r : Nat),
    let c := (fresh listeners).playAll x moves
    (c.run r).Listens → (c.run r).outputOpen = false →
      ∃ more, ((c.playAll x more).run r).reader = .ended

/-- A server that announces a body that no memory holds, and then closes its output. -/
def oversized : List Move := lastWords (Rpc.header 9223372036854775808)

/-- **Not every reader can come to its end.** -/
theorem not_alwaysEnds : ¬ AlwaysEnds := by
  have hRun : 0 < ((fresh listener).playAll .plain oversized).runs.length := by decide +kernel
  have hListens : (((fresh listener).playAll .plain oversized).run 0).Listens :=
    .inl (by decide +kernel)
  have hClosed : (((fresh listener).playAll .plain oversized).run 0).outputOpen = false := by
    decide +kernel
  have hStop : (Rpc.readAll (served .plain 0 (fresh listener) oversized)).stop = .tooLarge := by
    decide +kernel
  have hAttended := attended_playAll (x := .plain) (attended_fresh listener) oversized
  have hForetold := foretold_playAll (x := .plain) listener oversized 0
  intro h
  obtain ⟨more, hEnded⟩ := h .plain listener oversized 0 hListens hClosed
  exact (not_ended_of_tooLarge hAttended hRun hClosed hForetold hStop more).1 hEnded

end ExtensionHost.Client
