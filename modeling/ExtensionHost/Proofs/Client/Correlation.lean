import ExtensionHost.Proofs.Client.Steps

/-!
# Requests and their responses

A request gets a number and is registered; from then on it waits until something ends it: it could not be
sent, its time is over, a response with its number comes in, or the output of a server ends. The history of
a schedule lists these events. `Outstanding` and `Delivered` say from the history alone which requests wait
and what was delivered to which, and `correlated` says that the client keeps exactly these books, whatever
the order in which calls, frames, failures and restarts follow each other.
-/

namespace ExtensionHost.Client

/-! ## What a frame says to a request -/

/-- What a body that comes in says to the request with a number. It is a response to it if it has its
number and no method; an error in it comes before a result, and a missing result is null. -/
def responseTo (id : Nat) (body : List UInt8) : Option Response :=
  match Rpc.RawMessage.parse? body with
  | none => none
  | some m =>
    if m.method.value? = none ∧ m.id.value?.bind Json.nat? = some id then
      match m.error.value? with
      | some e => some (.error e.toHostError)
      | none => some (.ok (m.result.value?.getD .null))
    else none

theorem responseTo_eq_some_iff {id : Nat} {body : List UInt8} {r : Response} :
    responseTo id body = some r ↔ Rpc.Incoming.ofBody body = .response id r := by
  unfold responseTo Rpc.Incoming.ofBody
  cases Rpc.RawMessage.parse? body with
  | none => simp
  | some m =>
    simp only [Rpc.RawMessage.classify]
    cases hMethod : m.method.value? with
    | some method => cases hId : m.id.value? <;> simp
    | none =>
      cases hId : m.id.value? with
      | none => simp
      | some number =>
        cases hNumber : number.nat? with
        | none => simp [hNumber]
        | some n =>
          cases hError : m.error.value? <;> simp [hNumber]

/-! ## Histories -/

/-- What happens to requests. -/
inductive Event where
  /-- A request gets its number and is registered. -/
  | issued (id : Nat)
  /-- A request fails on the side of the client. -/
  | failed (id : Nat) (e : HostError)
  /-- A frame comes in. -/
  | frame (body : List UInt8)
  /-- The output of a server has ended. -/
  | outputEnded

/-- The numbers that an event gives to requests. -/
def Event.numbers : Event → List Nat
  | .issued id => [id]
  | .failed _ _ => []
  | .frame _ => []
  | .outputEnded => []

/-- What an event delivers to the request with a number. -/
def Event.delivers (id : Nat) : Event → Option Response
  | .issued _ => none
  | .failed _ _ => none
  | .frame body => responseTo id body
  | .outputEnded => some (.error (terminated id))

/-- Whether an event ends the request with a number. -/
def Event.ends (id : Nat) : Event → Bool
  | .issued _ => false
  | .failed n _ => n = id
  | .frame body => (responseTo id body).isSome
  | .outputEnded => true

/-- A request was issued and nothing has ended it since. -/
def Outstanding (id : Nat) (events : List Event) : Prop :=
  ∃ before after, events = before ++ .issued id :: after ∧ ∀ e ∈ after, e.ends id = false

/-- A response was delivered to a request while it was outstanding. -/
def Delivered (id : Nat) (r : Response) (events : List Event) : Prop :=
  ∃ earlier e later, events = earlier ++ e :: later ∧ Outstanding id earlier ∧ e.delivers id = some r

theorem outstanding_concat {id : Nat} {events : List Event} {e : Event} :
    Outstanding id (events ++ [e]) ↔ Outstanding id events ∧ e.ends id = false ∨ e = .issued id := by
  constructor
  · rintro ⟨before, after, hEvents, hAfter⟩
    rcases List.eq_nil_or_concat after with rfl | ⟨after, last, rfl⟩
    · exact .inr (List.append_singleton_inj.mp hEvents).2
    · rw [List.concat_eq_append] at hEvents hAfter
      rw [← List.cons_append, ← List.append_assoc] at hEvents
      obtain ⟨rfl, rfl⟩ := List.append_singleton_inj.mp hEvents
      refine .inl ⟨⟨before, after, rfl, fun e he => hAfter e (List.mem_append_left _ he)⟩, ?_⟩
      exact hAfter e (List.mem_append_right _ List.mem_cons_self)
  · rintro (⟨⟨before, after, rfl, hAfter⟩, hEnds⟩ | rfl)
    · refine ⟨before, after ++ [e], by simp, fun other hOther => ?_⟩
      rcases List.mem_append.mp hOther with hOld | hNew
      · exact hAfter other hOld
      · rwa [List.mem_singleton.mp hNew]
    · exact ⟨events, [], rfl, fun _ h => nomatch h⟩

theorem delivered_concat {id : Nat} {r : Response} {events : List Event} {e : Event} :
    Delivered id r (events ++ [e]) ↔
      Delivered id r events ∨ Outstanding id events ∧ e.delivers id = some r := by
  constructor
  · rintro ⟨earlier, last, later, hEvents, hOutstanding, hDelivers⟩
    rcases List.eq_nil_or_concat later with rfl | ⟨later, end_, rfl⟩
    · obtain ⟨rfl, rfl⟩ := List.append_singleton_inj.mp hEvents
      exact .inr ⟨hOutstanding, hDelivers⟩
    · rw [List.concat_eq_append, ← List.cons_append, ← List.append_assoc] at hEvents
      obtain ⟨rfl, rfl⟩ := List.append_singleton_inj.mp hEvents
      exact .inl ⟨earlier, last, later, rfl, hOutstanding, hDelivers⟩
  · rintro (⟨earlier, last, later, rfl, hOutstanding, hDelivers⟩ | ⟨hOutstanding, hDelivers⟩)
    · exact ⟨earlier, last, later ++ [e], by simp, hOutstanding, hDelivers⟩
    · exact ⟨events, e, [], rfl, hOutstanding, hDelivers⟩

theorem mem_numbers_of_outstanding {id : Nat} {events : List Event} (h : Outstanding id events) :
    id ∈ events.flatMap Event.numbers := by
  obtain ⟨before, after, rfl, -⟩ := h
  simp [Event.numbers]

/-! ## The history of a schedule -/

/-- What happens to requests when a call at a point goes on. -/
def eventsAt (c : Client) : Point → List Event
  | .register _ => [.issued c.nextId]
  | .send _ id => if c.channel = none then [.failed id noChannel] else []
  | .sending _ id r => if (c.run r).writing then [] else [.failed id channelClosed]
  | _ => []

/-- What happens to requests when the reader of a run goes on. -/
def eventsRead (y : Run) : List Event :=
  match y.reader with
  | .reading =>
    match Rpc.readFrame (!y.outputOpen) y.output with
    | .frame body _ => [.frame body]
    | _ => []
  | .draining _ => [.outputEnded]
  | _ => []

/-- What a move lets happen to requests. -/
def eventsBy (c : Client) : Move → List Event
  | .goOn k =>
    match c.calls[k]? with
    | some p => eventsAt c p
    | none => []
  | .expire k =>
    match c.calls[k]? with
    | some (.waiting p id) =>
      if (c.responses.lookup id).isSome then [] else [.failed id (timedOut p.method)]
    | _ => []
  | .read r => eventsRead (c.run r)
  | _ => []

/-- What moves let happen to requests, in their order. -/
def history (x : Setup) (c : Client) (moves : List Move) : List Event :=
  collect x eventsBy c moves

/-! ## The books of a client -/

/-- What a client notes about requests. -/
def books (c : Client) : Nat × List Nat × List (Nat × Response) := (c.nextId, c.pending, c.responses)

/-- An event is noted: the numbers it gives are the next ones and wait, those it ends no longer wait, and
what it delivers to those that wait is kept. -/
structure Notes (c : Client) (e : Event) (d : Client) : Prop where
  numbers : e.numbers = [] ∧ d.nextId = c.nextId ∨ e.numbers = [c.nextId] ∧ d.nextId = c.nextId + 1
  pending : d.pending = (c.pending.filter fun id => !e.ends id) ++ e.numbers
  responses : ∀ id r,
    (id, r) ∈ d.responses ↔ (id, r) ∈ c.responses ∨ id ∈ c.pending ∧ e.delivers id = some r

/-- What some events change in the books of a client: at most one happens at a time. -/
def Keeps (c : Client) (events : List Event) (d : Client) : Prop :=
  events = [] ∧ d.books = c.books ∨ ∃ e, events = [e] ∧ Notes c e d

variable {x : Setup} {c d : Client}

theorem Notes.of_books {e : Event} {d' : Client} (h : Notes c e d) (hBooks : d'.books = d.books) :
    Notes c e d' := by
  simp only [books, Prod.mk.injEq] at hBooks
  obtain ⟨hNext, hPending, hResponses⟩ := hBooks
  exact ⟨hNext ▸ h.numbers, hPending ▸ h.pending, hResponses ▸ h.responses⟩

theorem Keeps.of_books {events : List Event} {d' : Client} (h : Keeps c events d)
    (hBooks : d'.books = d.books) : Keeps c events d' := by
  rcases h with ⟨hEvents, hSame⟩ | ⟨e, hEvents, hNotes⟩
  · exact .inl ⟨hEvents, hBooks.trans hSame⟩
  · exact .inr ⟨e, hEvents, hNotes.of_books hBooks⟩

theorem Keeps.nothing (h : d.books = c.books) : Keeps c [] d := .inl ⟨rfl, h⟩

theorem Keeps.of_nil (h : Keeps c [] d) : d.books = c.books := by
  rcases h with ⟨-, hBooks⟩ | ⟨e, hEvents, -⟩
  · exact hBooks
  · cases hEvents

theorem Keeps.of_singleton {e : Event} (h : Keeps c [e] d) : Notes c e d := by
  rcases h with ⟨hEvents, -⟩ | ⟨_, hEvents, hNotes⟩
  · cases hEvents
  · cases hEvents
    exact hNotes

theorem notes_failed {id : Nat} {e : HostError} (hBooks : d.books = (c.unregister id).books) :
    Notes c (.failed id e) d := by
  simp only [books, unregister, Prod.mk.injEq] at hBooks
  obtain ⟨hNext, hPending, hResponses⟩ := hBooks
  refine ⟨.inl ⟨rfl, hNext⟩, ?_, fun j r => ?_⟩
  · rw [hPending, Event.numbers, List.append_nil]
    refine List.filter_congr fun j _ => ?_
    simp [Event.ends, eq_comm]
  · simp [hResponses, Event.delivers]

/-- A frame takes from those that wait the request that it responds to. -/
theorem notes_frame {body : List UInt8} {id : Nat} {result : Response}
    (hBody : Rpc.Incoming.ofBody body = .response id result) :
    Notes c (.frame body) (c.complete id result) := by
  have hTo : ∀ j r, responseTo j body = some r ↔ j = id ∧ r = result := by
    intro j r
    rw [responseTo_eq_some_iff, hBody, Rpc.Incoming.response.injEq]
    exact ⟨fun ⟨hj, hr⟩ => ⟨hj.symm, hr.symm⟩, fun ⟨hj, hr⟩ => ⟨hj.symm, hr.symm⟩⟩
  have hEnds : ∀ j, Event.ends j (.frame body) = decide (j = id) := by
    intro j
    rw [Bool.eq_iff_iff, decide_eq_true_eq, Event.ends, Option.isSome_iff_exists]
    exact ⟨fun ⟨r, hr⟩ => ((hTo j r).mp hr).1, fun hj => ⟨result, (hTo j result).mpr ⟨hj, rfl⟩⟩⟩
  unfold complete
  split
  · rename_i hMem
    refine ⟨.inl ⟨rfl, rfl⟩, ?_, fun j r => ?_⟩
    · simp [unregister, Event.numbers, hEnds]
    · simp only [List.mem_append, List.mem_singleton, Prod.mk.injEq, Event.delivers, hTo]
      refine or_congr_right ⟨?_, And.right⟩
      rintro ⟨rfl, rfl⟩
      exact ⟨hMem, rfl, rfl⟩
  · rename_i hMem
    refine ⟨.inl ⟨rfl, rfl⟩, ?_, fun j r => ?_⟩
    · rw [Event.numbers, List.append_nil, List.filter_eq_self.mpr]
      intro j hj
      have hOther : j ≠ id := fun h => hMem (h ▸ hj)
      simp [hEnds, hOther]
    · simp only [Event.delivers, hTo]
      exact ⟨.inl, fun h => h.elim (fun h => h) fun ⟨hj, hId, _⟩ => absurd (hId ▸ hj) hMem⟩

theorem notes_passed {body : List UInt8}
    (hBody : ∀ id result, Rpc.Incoming.ofBody body ≠ .response id result) (hBooks : d.books = c.books) :
    Notes c (.frame body) d := by
  have hNone : ∀ id, responseTo id body = none := by
    intro id
    rw [Option.eq_none_iff_forall_ne_some]
    exact fun r hr => hBody id r (responseTo_eq_some_iff.mp hr)
  simp only [books, Prod.mk.injEq] at hBooks
  obtain ⟨hNext, hPending, hResponses⟩ := hBooks
  refine ⟨.inl ⟨rfl, hNext⟩, ?_, fun j r => ?_⟩
  · rw [hPending, Event.numbers, List.append_nil, List.filter_eq_self.mpr]
    exact fun id _ => by simp [Event.ends, hNone]
  · simp [hResponses, Event.delivers, hNone]

theorem notes_outputEnded (c : Client) : Notes c .outputEnded c.drain := by
  refine ⟨.inl ⟨rfl, rfl⟩, ?_, fun j r => ?_⟩
  · simp [drain, Event.ends, Event.numbers]
  · simp only [drain, List.mem_append, List.mem_map, Prod.mk.injEq, Event.delivers, Option.some.injEq]
    refine or_congr_right ⟨?_, ?_⟩
    · rintro ⟨id, hMem, rfl, hr⟩
      exact ⟨hMem, hr⟩
    · rintro ⟨hMem, hr⟩
      exact ⟨j, hMem, rfl, hr⟩

/-! ## What a move does to the books -/

theorem keeps_advances {p q : Point} (h : Advances x c p d q) : Keeps c (eventsAt c p) d := by
  cases h with
  | registered p =>
    refine .inr ⟨_, rfl, .inr ⟨rfl, rfl⟩, ?_, fun j r => ?_⟩
    · have hAll : (c.pending.filter fun id => !Event.ends id (.issued c.nextId)) = c.pending :=
        List.filter_eq_self.mpr fun _ _ => rfl
      rw [hAll]
      rfl
    · simp [register, Event.delivers]
  | unsent p id log hChannel =>
    rw [eventsAt, if_pos hChannel]
    exact .inr ⟨_, rfl, notes_failed rfl⟩
  | sendBegun p id r hChannel =>
    rw [eventsAt, if_neg (by simp [hChannel])]
    exact .nothing rfl
  | sendFailed p id r log hWriting =>
    rw [eventsAt, if_neg (by simp [hWriting])]
    exact .inr ⟨_, rfl, notes_failed rfl⟩
  | sent p id r hWriting hRoom =>
    rw [eventsAt, if_pos hWriting]
    exact .nothing rfl
  | _ => exact .nothing rfl

theorem keeps_reads {r : Nat} (h : Reads x c r (c.run r) d) : Keeps c (eventsRead (c.run r)) d := by
  cases h with
  | response body rest id result hReader hFrame hBody =>
    simp only [eventsRead, hReader, hFrame]
    obtain ⟨hNumbers, hPending, hResponses⟩ :=
      notes_frame (c := c.modifyRun r fun y => { y with output := rest }) hBody
    exact .inr ⟨_, rfl, hNumbers, hPending, hResponses⟩
  | request body rest id method params message hReader hFrame hBody =>
    simp only [eventsRead, hReader, hFrame]
    exact .inr ⟨_, rfl, notes_passed (by simp [hBody]) rfl⟩
  | passed body rest hReader hFrame hBody =>
    simp only [eventsRead, hReader, hFrame]
    exact .inr ⟨_, rfl, notes_passed hBody rfl⟩
  | outputEnded hReader hFrame | failed e log hReader hFrame | tooLarge hReader hFrame =>
    simp only [eventsRead, hReader, hFrame]
    exact .nothing rfl
  | replyLost message hReader | replied message hReader =>
    simp only [eventsRead, hReader]
    exact .nothing rfl
  | drained reason hReader =>
    simp only [eventsRead, hReader]
    obtain ⟨hNumbers, hPending, hResponses⟩ := notes_outputEnded c
    exact .inr ⟨_, rfl, hNumbers, hPending, hResponses⟩
  | left reason hReader =>
    simp only [eventsRead, hReader]
    refine .nothing ?_
    unfold leave
    split <;> rfl

theorem eventsAt_of_none {k : Nat} {p : Point} (h : c.stepPoint x k p = none) : eventsAt c p = [] := by
  cases p with
  | register => cases h
  | send =>
    simp only [stepPoint] at h
    split at h <;> cases h
  | sending p id r =>
    simp only [stepPoint] at h
    split at h
    · cases h
    · rename_i hWriting
      exact if_pos (by simpa using hWriting)
  | _ => rfl

theorem eventsRead_of_none {r : Nat} {y : Run} (hRun : c.runs[r]? = some y)
    (h : c.stepReader x r = none) : eventsRead y = [] := by
  unfold eventsRead
  rcases reader_of_none hRun h with
    hReader | hReader | hReader | ⟨hReader, hFrame⟩ | ⟨message, hReader, -, -⟩
  all_goals simp only [hReader]
  simp only [hFrame]

theorem eventsBy_of_none {m : Move} (h : c.play? x m = none) : eventsBy c m = [] := by
  cases m with
  | goOn k =>
    cases hCall : c.calls[k]? with
    | none => simp only [eventsBy, hCall]
    | some p =>
      simp only [play?, stepCall, hCall] at h
      simp only [eventsBy, hCall]
      exact eventsAt_of_none h
  | expire k =>
    simp only [play?, expire] at h
    simp only [eventsBy]
    split at h
    · rename_i hCall
      rw [hCall]
      split at h
      · exact if_pos ‹_›
      · cases h
    · cases h
    · rename_i hOther _
      split
      · exact absurd ‹_› (hOther _ _)
      · rfl
  | read r =>
    simp only [eventsBy]
    cases hRun : c.runs[r]? with
    | none => rw [run, hRun, Option.getD_none, eventsRead]
    | some y =>
      rw [run_eq hRun]
      exact eventsRead_of_none hRun h
  | _ => rfl

theorem keeps_play (x : Setup) (c : Client) (m : Move) : Keeps c (eventsBy c m) (c.play x m) := by
  have hPlays := plays_play x c m
  generalize c.play x m = d at hPlays ⊢
  cases hPlays with
  | nothing m hNone =>
    rw [eventsBy_of_none hNone]
    exact .nothing rfl
  | called op => exact .nothing rfl
  | @advanced k p q d hCall hAdvances =>
    have hKeeps : Keeps c (eventsAt c p) d := keeps_advances hAdvances
    simp only [eventsBy, hCall]
    exact hKeeps.of_books rfl
  | expired hCall hExpires =>
    cases hExpires with
    | request p id log hResponse =>
      simp only [eventsBy, hCall, hResponse]
      exact .inr ⟨_, rfl, notes_failed rfl⟩
    | process a r =>
      simp only [eventsBy, hCall]
      exact .nothing rfl
  | wrote hRun hWrites =>
    refine .nothing ?_
    cases hWrites <;> rfl
  | read hRun hReads =>
    obtain rfl := run_eq hRun
    exact keeps_reads hReads
  | served | outputClosed | exited => exact .nothing rfl

/-! ## The invariant -/

/-- The books of a client agree with a history. -/
structure Booked (c : Client) (events : List Event) : Prop where
  numbers : events.flatMap Event.numbers = List.range c.nextId
  nodup : c.pending.Nodup
  pending : ∀ id, id ∈ c.pending ↔ Outstanding id events
  responses : ∀ id r, (id, r) ∈ c.responses ↔ Delivered id r events

theorem booked_fresh (listeners : Listeners Nat) : Booked (fresh listeners) [] := by
  refine ⟨rfl, List.nodup_nil, fun id => ?_, fun id r => ?_⟩
  · exact ⟨(fun h => nomatch h), fun ⟨before, after, h, _⟩ => absurd h (by simp)⟩
  · exact ⟨(fun h => nomatch h), fun ⟨earlier, e, later, h, _⟩ => absurd h (by simp)⟩

theorem Booked.notes {events : List Event} {e : Event} (h : Booked c events) (hNotes : Notes c e d) :
    Booked d (events ++ [e]) := by
  have hNew : c.nextId ∉ c.pending := by
    intro hMem
    have hNumber := mem_numbers_of_outstanding ((h.pending _).mp hMem)
    rw [h.numbers, List.mem_range] at hNumber
    exact Nat.lt_irrefl _ hNumber
  refine ⟨?_, ?_, fun id => ?_, fun id r => ?_⟩
  · rw [List.flatMap_append, h.numbers, List.flatMap_singleton]
    rcases hNotes.numbers with ⟨hNumbers, hNext⟩ | ⟨hNumbers, hNext⟩
    · rw [hNumbers, hNext, List.append_nil]
    · rw [hNumbers, hNext, List.range_succ]
  · rw [hNotes.pending]
    rcases hNotes.numbers with ⟨hNumbers, -⟩ | ⟨hNumbers, -⟩
    · rw [hNumbers, List.append_nil]
      exact h.nodup.filter _
    · rw [hNumbers, List.nodup_append]
      refine ⟨h.nodup.filter _, by simp, fun a ha b hb => ?_⟩
      rw [List.mem_singleton.mp hb]
      exact fun hEq => hNew (hEq ▸ (List.mem_filter.mp ha).1)
  · have hNumbers : id ∈ e.numbers ↔ e = .issued id := by
      cases e <;> simp [Event.numbers, eq_comm]
    rw [outstanding_concat, hNotes.pending, List.mem_append, List.mem_filter, h.pending, hNumbers]
    simp
  · rw [hNotes.responses, delivered_concat, h.responses, h.pending]

theorem booked_playAll {events : List Event} (h : Booked c events) (moves : List Move) :
    Booked (c.playAll x moves) (events ++ history x c moves) := by
  induction moves generalizing c events with
  | nil => simpa [history, collect] using h
  | cons m moves ih =>
    rw [history, collect, ← List.append_assoc]
    refine ih ?_
    rcases keeps_play x c m with ⟨hEvents, hBooks⟩ | ⟨e, hEvents, hNotes⟩
    · simp only [books, Prod.mk.injEq] at hBooks
      obtain ⟨hNext, hPending, hResponses⟩ := hBooks
      rw [hEvents, List.append_nil]
      exact ⟨hNext ▸ h.numbers, hPending ▸ h.nodup, hPending ▸ h.pending, hResponses ▸ h.responses⟩
    · rw [hEvents]
      exact h.notes hNotes

/-! ## The calls that wait -/

/-- The request that a call at a point has issued and not finished, and what it is for. -/
def Point.request? : Point → Option (Purpose × Nat)
  | .send p id => some (p, id)
  | .sending p id _ => some (p, id)
  | .waiting p id => some (p, id)
  | _ => none

/-- The request that a call has issued and not finished. -/
def requestOf? (c : Client) (k : Nat) : Option (Purpose × Nat) := c.calls[k]?.bind Point.request?

theorem requestOf?_of_calls {k : Nat} (h : d.calls[k]? = c.calls[k]?) :
    d.requestOf? k = c.requestOf? k := by
  rw [requestOf?, requestOf?, h]

theorem request?_afterRequest (p : Purpose) (r : Response) : (afterRequest p r).request? = none := by
  unfold afterRequest
  split <;> rfl

/-- A call that goes on has no request any more, the one it had, or a new one. -/
theorem request?_advances {p q : Point} (h : Advances x c p d q) :
    q.request? = none ∨ q.request? = p.request? ∨
      (∃ purpose, q.request? = some (purpose, c.nextId)) ∧ d.nextId = c.nextId + 1 := by
  have hNotice : ∀ n r, (afterNotice n r).request? = none := by
    intro n r
    unfold afterNotice
    split <;> rfl
  have hClearing : ∀ a, (afterClearing a).request? = none := by
    intro a
    cases a <;> rfl
  cases h with
  | nothingToClear a | processEnded a => exact .inl (hClearing a)
  | registered p => exact .inr (.inr ⟨⟨p, rfl⟩, rfl⟩)
  | sendBegun | sent => exact .inr (.inl rfl)
  | unsent p | sendFailed p | answered p => exact .inl (request?_afterRequest p _)
  | unnotified n | noticeFailed n | noticeSent n => exact .inl (hNotice n _)
  | _ => exact .inl rfl

theorem requestOf?_play (x : Setup) (c : Client) (m : Move) (k : Nat) :
    (c.play x m).requestOf? k = none ∨ (c.play x m).requestOf? k = c.requestOf? k ∨
      (∃ p, (c.play x m).requestOf? k = some (p, c.nextId)) ∧ m = .goOn k ∧
        (c.play x m).nextId = c.nextId + 1 := by
  have hFollows := follows_play x c m k
  generalize c.play x m = d at hFollows ⊢
  cases hFollows with
  | stayed _ _ hNow => exact .inr (.inl (requestOf?_of_calls hNow))
  | made op d hk hNow =>
    refine .inl ?_
    rw [requestOf?, hNow]
    rfl
  | @advanced p q d hCall hAdvances hNow =>
    rw [requestOf?, hNow, Option.bind_some, requestOf?, hCall, Option.bind_some]
    exact (request?_advances hAdvances).imp_right (Or.imp_right fun h => ⟨h.1, rfl, h.2⟩)
  | expired d hCall hResponse hNow =>
    refine .inl ?_
    rw [requestOf?, hNow, Option.bind_some, request?_afterRequest]

/-- The requests that calls have issued and not finished have numbers that were given, each call another
one. -/
structure Numbered (c : Client) : Prop where
  given : ∀ k p id, c.requestOf? k = some (p, id) → id < c.nextId
  unique : ∀ k k' p p' id, c.requestOf? k = some (p, id) → c.requestOf? k' = some (p', id) → k = k'

theorem nextId_play (x : Setup) (c : Client) (m : Move) : c.nextId ≤ (c.play x m).nextId := by
  rcases keeps_play x c m with ⟨-, hBooks⟩ | ⟨e, -, hNotes⟩
  · exact Nat.le_of_eq (congrArg Prod.fst hBooks).symm
  · rcases hNotes.numbers with ⟨-, hNext⟩ | ⟨-, hNext⟩
    · exact Nat.le_of_eq hNext.symm
    · exact hNext ▸ Nat.le_succ _

theorem Numbered.play {m : Move} (h : Numbered c) : Numbered (c.play x m) := by
  have hNext := nextId_play x c m
  have hKind := requestOf?_play x c m
  refine ⟨fun k p id hk => ?_, fun k k' p p' id hk hk' => ?_⟩
  · rcases hKind k with hNone | hOld | ⟨⟨q, hNew⟩, -, hLater⟩
    · rw [hNone] at hk
      cases hk
    · exact Nat.lt_of_lt_of_le (h.given k p id (hOld ▸ hk)) hNext
    · rw [hNew] at hk
      cases hk
      exact hLater ▸ Nat.lt_succ_self _
  · rcases hKind k with hNone | hOld | ⟨⟨q, hNew⟩, hMove, -⟩
    · rw [hNone] at hk
      cases hk
    · rcases hKind k' with hNone' | hOld' | ⟨⟨q', hNew'⟩, -, -⟩
      · rw [hNone'] at hk'
        cases hk'
      · exact h.unique k k' p p' id (hOld ▸ hk) (hOld' ▸ hk')
      · rw [hNew'] at hk'
        cases hk'
        exact absurd (h.given k p _ (hOld ▸ hk)) (Nat.lt_irrefl _)
    · rcases hKind k' with hNone' | hOld' | ⟨⟨q', hNew'⟩, hMove', -⟩
      · rw [hNone'] at hk'
        cases hk'
      · rw [hNew] at hk
        cases hk
        exact absurd (h.given k' p' _ (hOld' ▸ hk')) (Nat.lt_irrefl _)
      · cases hMove.symm.trans hMove'
        rfl

/-- A failure of a request on the side of the client: it could not be sent, its time is over, or the output
of a server has ended. -/
def OwnFailure (p : Purpose) (id : Nat) (r : Response) : Prop :=
  r = .error noChannel ∨ r = .error channelClosed ∨ r = .error (timedOut p.method) ∨
    r = .error (terminated id)

/-- What was delivered to a request came with a frame, unless the output of a server has ended. -/
theorem Delivered.frame {id : Nat} {r : Response} {events : List Event} (h : Delivered id r events) :
    r = .error (terminated id) ∨
      ∃ earlier body later, events = earlier ++ .frame body :: later ∧ Outstanding id earlier ∧
        responseTo id body = some r := by
  obtain ⟨earlier, e, later, hEvents, hOutstanding, hDelivers⟩ := h
  cases e with
  | issued | failed => cases hDelivers
  | frame body => exact .inr ⟨earlier, body, later, hEvents, hOutstanding, hDelivers⟩
  | outputEnded =>
    cases hDelivers
    exact .inl rfl

end ExtensionHost.Client
