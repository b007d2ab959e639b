import ExtensionHost.Proofs.Client.Correlation
import ExtensionHost.Proofs.Client.Emission
import ExtensionHost.Proofs.Client.Startup

/-!
# The order of a handshake

A start, stops, requests and the reader all put messages on the channel of a run, each when it is its turn.
What keeps them in order is where each call stands: `Vouched` says for every point what must have been said
or heard before a call comes there, and a move keeps this (`Vouched.play`). `greets_inOrder` reads off it what
precedes each message of the first run: the first request, its answer, the notification after it, and at the
end the request to shut down. `Signal.Says` spells out the texts of these messages.
-/

namespace ExtensionHost.Client

variable {x : Setup} {c d : Client} {p q : Point} {r : Nat} {listeners : Listeners Nat}

/-! ## What is said -/

/-- What a call or a reader has to say to a server: it puts a request, a notification or a reply on a
channel, or finds that a request cannot be sent. -/
inductive Signal where
  | request (p : Purpose) (id : Nat)
  | notice (n : Notice)
  | reply (message : String)
  | unsent (p : Purpose) (id : Nat)

/-- The message of a signal, if there is one. -/
def Signal.message? (x : Setup) : Signal → Option String
  | .request p id => some (p.body x id)
  | .notice n => some n.body
  | .reply message => some message
  | .unsent _ _ => none

/-- Whether a signal puts a message on a channel. -/
def Signal.isSent : Signal → Bool
  | .unsent _ _ => false
  | _ => true

/-- What a request begins with, up to its method as it is written. -/
def requestFront (id : Nat) (method : List Char) : List Char :=
  "\x7b\"jsonrpc\":\"2.0\",\"id\":".toList ++ (toString id).toList ++ ",\"method\":".toList ++ method

/-- The text of the message that a signal puts on a channel. -/
def Signal.Says : Signal → String → Prop
  | .request .handshake id, text =>
    requestFront id "\"initialize\"".toList ++ ",\"params\":\x7b".toList <+: text.toList
  | .request .shutdown id, text => text.toList = requestFront id "\"shutdown\"".toList ++ ['\x7d']
  | .request (.call method params) id, text =>
    text.toList = requestFront id (Json.printString method) ++ ",\"params\":".toList ++
      params.printCompact ++ ['\x7d']
  | .notice .initialized, text =>
    text = "\x7b\"jsonrpc\":\"2.0\",\"method\":\"initialized\",\"params\":\x7b\x7d\x7d"
  | .notice .exit, text => text = "\x7b\"jsonrpc\":\"2.0\",\"method\":\"exit\"\x7d"
  | .reply message, text => text = message
  | .unsent _ _, _ => False

/-- The characters of a request: its front, and what stands behind its method. -/
theorem toList_requestBody (id : Nat) (method : String) (params : Option Json) :
    (Rpc.requestBody id method params).toList = requestFront id (Json.printString method) ++
      (match params with
        | some params => ",\"params\":".toList ++ params.printCompact
        | none => []) ++ ['\x7d'] := by
  have hVersion : Rpc.member "jsonrpc" Rpc.version = "\"jsonrpc\":\"2.0\"".toList := by decide
  have hId : Rpc.member "id" (.nat id) = "\"id\":".toList ++ (toString id).toList := rfl
  have hMethod : Rpc.member "method" (.string method) =
      "\"method\":".toList ++ Json.printString method := rfl
  unfold Rpc.requestBody Rpc.ordered requestFront
  rw [String.toList_ofList]
  cases params with
  | none =>
    simp only [Rpc.paramsMember, List.append_nil, List.map_cons, List.map_nil, Json.separated, hVersion, hId,
      hMethod]
    simp
  | some params =>
    have hParams : Rpc.member "params" params = "\"params\":".toList ++ params.printCompact := rfl
    simp only [Rpc.paramsMember, List.cons_append, List.nil_append, List.map_cons, List.map_nil,
      Json.separated, hVersion, hId, hMethod, hParams]
    simp

theorem Signal.says_message? {s : Signal} {text : String} (h : s.message? x = some text) :
    s.Says text := by
  cases s with
  | request p id =>
    obtain rfl : p.body x id = text := Option.some.inj h
    cases p with
    | handshake =>
      have hName : Json.printString "initialize" = "\"initialize\"".toList := by decide
      have hBody := toList_requestBody id "initialize" (some (initializeParams x))
      obtain ⟨rest, hParams⟩ : ∃ rest, (initializeParams x).printCompact = '\x7b' :: rest := by
        unfold initializeParams Json.obj Json.printCompact
        exact ⟨_, rfl⟩
      dsimp only at hBody
      rw [hParams, hName] at hBody
      refine ⟨rest ++ ['\x7d'], Eq.trans ?_ hBody.symm⟩
      simp only [List.append_assoc]
      rfl
    | shutdown =>
      have hName : Json.printString "shutdown" = "\"shutdown\"".toList := by decide
      have hBody := toList_requestBody id "shutdown" none
      rw [hName, List.append_nil] at hBody
      exact hBody
    | call method params =>
      have hBody := toList_requestBody id method (some params)
      rw [← List.append_assoc] at hBody
      exact hBody
  | notice n =>
    have hInitialized : Notice.body .initialized =
        "\x7b\"jsonrpc\":\"2.0\",\"method\":\"initialized\",\"params\":\x7b\x7d\x7d" := by decide
    have hExit : Notice.body .exit = "\x7b\"jsonrpc\":\"2.0\",\"method\":\"exit\"\x7d" := by decide
    cases h
    cases n with
    | initialized => exact hInitialized
    | exit => exact hExit
  | reply message => exact (Option.some.inj h).symm
  | unsent => cases h

/-- Every signal but those of requests that could not be sent puts its message on a channel. -/
theorem says_all (x : Setup) (said : List Signal) :
    List.Forall₂ Signal.Says (said.filter Signal.isSent) (said.filterMap (Signal.message? x)) := by
  induction said with
  | nil => exact .nil
  | cons s said ih =>
    cases hMessage : s.message? x with
    | none =>
      have hUnsent : s.isSent = false := by
        cases s <;> first | rfl | cases hMessage
      rw [List.filter_cons_of_neg (Bool.eq_false_iff.mp hUnsent), List.filterMap_cons_none hMessage]
      exact ih
    | some text =>
      have hSent : s.isSent = true := by
        cases s <;> first | rfl | cases hMessage
      rw [List.filter_cons_of_pos hSent, List.filterMap_cons_some hMessage]
      exact .cons (Signal.says_message? hMessage) ih

/-- What a call at a point says when it goes on. -/
def signalsAt (c : Client) : Point → List Signal
  | .send p id => if c.channel = none then [.unsent p id] else []
  | .sending p id s =>
    if !(c.run s).writing then [.unsent p id]
    else if (c.run s).hasRoom then [.request p id]
    else []
  | .notifying n s => if (c.run s).writing ∧ (c.run s).hasRoom then [.notice n] else []
  | _ => []

/-- What is said with a move. -/
def signalsBy (c : Client) : Move → List Signal
  | .goOn k =>
    match c.calls[k]? with
    | some p => signalsAt c p
    | none => []
  | .read s => (repliedBy (c.run s)).map .reply
  | _ => []

/-- What is said with some moves, in its order. -/
def signals (x : Setup) (c : Client) (moves : List Move) : List Signal := collect x signalsBy c moves

theorem signals_concat (x : Setup) (c : Client) (moves : List Move) (m : Move) :
    signals x c (moves ++ [m]) = signals x c moves ++ signalsBy (c.playAll x moves) m :=
  collect_concat x signalsBy c moves m

/-! ## Channels of runs that are there -/

/-- Channels are those of runs that are there. -/
structure Anchored (c : Client) : Prop where
  calls : ∀ (k : Nat) (p : Point) (r : Nat), c.calls[k]? = some p → p.holdsChannel r = true →
    r < c.runs.length
  channel : ∀ r, c.channel = some r → r < c.runs.length

theorem holdsChannel_afterRequest (p : Purpose) (v : Response) (r : Nat) :
    (afterRequest p v).holdsChannel r = false := by
  unfold afterRequest
  split <;> rfl

theorem holdsChannel_afterNotice (n : Notice) (v : Except HostError Unit) (r : Nat) :
    (afterNotice n v).holdsChannel r = false := by
  unfold afterNotice
  split <;> rfl

/-- A call that goes on holds the channel that it held, that of the client, or that of a new run. -/
theorem holdsChannel_advances (h : Advances x c p d q) (hq : q.holdsChannel r = true) :
    p.holdsChannel r = true ∨ c.channel = some r ∨ r < d.runs.length := by
  cases h with
  | launched =>
    obtain rfl := of_decide_eq_true hq
    exact .inr (.inr (by simp))
  | processKept | processReplaced => exact .inl hq
  | sendBegun p id s hChannel | noticeBegun n s hChannel =>
    obtain rfl := of_decide_eq_true hq
    exact .inr (.inl hChannel)
  | nothingToClear a | processEnded a => cases a <;> cases hq
  | unsent p | sendFailed p | answered p =>
    rw [holdsChannel_afterRequest] at hq
    cases hq
  | unnotified n | noticeFailed n | noticeSent n =>
    rw [holdsChannel_afterNotice] at hq
    cases hq
  | _ => cases hq

theorem channel_advances (h : Advances x c p d q) (hChannel : d.channel = some r) :
    c.channel = some r ∨ p.holdsChannel r = true := by
  cases h with
  | channelLeft => cases hChannel
  | channelOpened s =>
    cases hChannel
    exact .inr (decide_eq_true rfl)
  | _ => exact .inl hChannel

theorem channel_kept_reads {s : Nat} {y : Run} (h : Reads x c s y d) : d.channel = c.channel := by
  cases h with
  | response body rest id result =>
    unfold complete
    split <;> rfl
  | left reason =>
    change (c.leave x reason).channel = c.channel
    unfold leave
    split <;> rfl
  | _ => rfl

theorem Anchored.play (h : Anchored c) (m : Move) : Anchored (c.play x m) := by
  have hRuns := length_runs_play x c m
  refine ⟨fun k q r hCall hHolds => ?_, fun r hChannel => ?_⟩
  · have hFollows := follows_play x c m k
    revert hRuns hFollows hCall
    generalize c.play x m = d
    intro hRuns hCall hFollows
    cases hFollows with
    | stayed _ _ hNow => exact Nat.lt_of_lt_of_le (h.calls k q r (hNow ▸ hCall) hHolds) hRuns
    | made op _ _ hNow =>
      cases hCall.symm.trans hNow
      cases hHolds
    | @advanced p _ d hBefore hAdvances hNow =>
      cases hCall.symm.trans hNow
      rcases holdsChannel_advances hAdvances hHolds with hHeld | hChannel | hNew
      · exact Nat.lt_of_lt_of_le (h.calls k p r hBefore hHeld) hRuns
      · exact Nat.lt_of_lt_of_le (h.channel r hChannel) hRuns
      · exact hNew
    | expired _ _ _ hNow =>
      cases hCall.symm.trans hNow
      rw [holdsChannel_afterRequest] at hHolds
      cases hHolds
  · refine Nat.lt_of_lt_of_le ?_ hRuns
    have hPlays := plays_play x c m
    generalize c.play x m = d at hChannel hPlays
    cases hPlays with
    | @advanced k p q d hCall hAdvances =>
      rcases channel_advances hAdvances hChannel with hKept | hHeld
      · exact h.channel r hKept
      · exact h.calls k p r hCall hHeld
    | read hRun hReads => exact h.channel r (channel_kept_reads hReads ▸ hChannel)
    | expired hCall hExpires => cases hExpires <;> exact h.channel r hChannel
    | wrote hRun hWrites => cases hWrites <;> exact h.channel r hChannel
    | nothing | called | served | outputClosed | exited => exact h.channel r hChannel

theorem anchored_playAll (h : Anchored c) (moves : List Move) : Anchored (c.playAll x moves) := by
  induction moves generalizing c with
  | nil => exact h
  | cons m moves ih => exact ih (h.play m)

theorem anchored_fresh (listeners : Listeners Nat) : Anchored (fresh listeners) :=
  ⟨(fun _ _ _ h => nomatch h), (fun _ h => nomatch h)⟩

/-! ## The only channel -/

/-- With one run at most, what a move puts on its channel is what is said. -/
theorem sentBy_eq (x : Setup) (h : Anchored c) (hOne : c.runs.length ≤ 1) (m : Move) :
    sentBy x 0 c m = (signalsBy c m).filterMap (Signal.message? x) := by
  have hFirst : ∀ {k : Nat} {p : Point} {s : Nat}, c.calls[k]? = some p → p.holdsChannel s = true →
      s = 0 := by
    intro k p s hCall hHolds
    have hRun := h.calls k p s hCall hHolds
    omega
  cases m with
  | goOn k =>
    cases hCall : c.calls[k]? with
    | none => simp only [sentBy, signalsBy, hCall, List.filterMap_nil]
    | some p =>
      simp only [sentBy, signalsBy, hCall]
      cases p with
      | send p id => by_cases hNone : c.channel = none <;> simp [sentAt, signalsAt, hNone, Signal.message?]
      | sending p id s =>
        obtain rfl := hFirst hCall (decide_eq_true rfl)
        by_cases hWriting : (c.run 0).writing = true
        · by_cases hRoom : (c.run 0).hasRoom = true
          · simp [sentAt, signalsAt, hWriting, hRoom, Signal.message?]
          · simp [sentAt, signalsAt, hWriting, hRoom]
        · simp [sentAt, signalsAt, hWriting, Signal.message?]
      | notifying n s =>
        obtain rfl := hFirst hCall (decide_eq_true rfl)
        by_cases hSent : (c.run 0).writing = true ∧ (c.run 0).hasRoom = true
        · simp [sentAt, signalsAt, hSent, Signal.message?]
        · simp [sentAt, signalsAt, hSent]
      | _ => rfl
  | read s =>
    have hReplies : ((repliedBy (c.run s)).map Signal.reply).filterMap (Signal.message? x) =
        repliedBy (c.run s) := by
      rw [List.filterMap_map]
      exact List.filterMap_some
    simp only [sentBy, signalsBy, hReplies]
    split
    · rfl
    · rename_i hs
      rw [run_of_le (by omega)]
      rfl
  | _ => rfl

theorem sent_eq (x : Setup) (h : Anchored c) {moves : List Move}
    (hOne : (c.playAll x moves).runs.length ≤ 1) :
    sent x 0 c moves = (signals x c moves).filterMap (Signal.message? x) := by
  induction moves generalizing c with
  | nil => rfl
  | cons m moves ih =>
    have hNow : c.runs.length ≤ 1 := Nat.le_trans (length_runs_playAll x c (m :: moves)) hOne
    have hLater := ih (h.play m) hOne
    rw [sent, collect, sentBy_eq x h hNow, signals, collect, List.filterMap_append]
    exact congrArg _ hLater

/-- A move leaves the channel of a run alone that is not there yet. -/
theorem wire_play_of_le (x : Setup) (hRun : c.runs.length ≤ r) (m : Move) :
    ((c.play x m).run r).wire = (c.run r).wire := by
  have hOther : ∀ {c : Client} {s : Nat} {f : Run → Run}, c.runs.length ≤ r →
      (c.modifyRun s f).run r = c.run r := by
    intro c s f hc
    rw [run_modifyRun, if_neg fun h => Nat.not_lt.mpr hc h.2]
  have hKilled : ∀ {old : Nat} {f g : Run → Run} {s : Nat},
      (((c.modifyRun old f).modifyRun s g).run r).wire = (c.run r).wire := by
    intro old f g s
    rw [hOther (by rwa [length_runs_modifyRun]), hOther hRun]
  have hPlays := plays_play x c m
  generalize c.play x m = d at hPlays ⊢
  cases hPlays with
  | nothing | called => rfl
  | @advanced k p q d hCall hAdvances =>
    have hWire : (d.run r).wire = (c.run r).wire := by
      cases hAdvances with
      | launched => exact congrArg Run.wire (run_launched c _ r)
      | processTold a s =>
        exact congrArg Run.wire (hOther (c := { c with process := none, clearing := true }) hRun)
      | processKept s | sent p id s | noticeSent n s => exact congrArg Run.wire (hOther hRun)
      | processReplaced s old => exact hKilled
      | _ => rfl
    exact hWire
  | expired hCall hExpires =>
    cases hExpires with
    | request => rfl
    | process a s => rw [hOther hRun]
  | wrote hGet hWrites => cases hWrites <;> exact congrArg Run.wire (hOther hRun)
  | @read s y _ hGet hReads =>
    cases hReads with
    | response => rw [run_complete, hOther hRun]
    | failed e log => exact congrArg Run.wire (hOther (c := { c with log }) hRun)
    | drained => exact congrArg Run.wire (hOther (c := c.drain) hRun)
    | left reason =>
      rw [hOther (by rwa [length_runs_leave]), run_leave]
    | request | replied => exact hKilled
    | _ => rw [hOther hRun]
  | served | outputClosed | exited => rw [hOther hRun]

theorem sentBy_of_le (x : Setup) (h : Anchored c) (hRun : c.runs.length ≤ r) (m : Move) :
    sentBy x r c m = [] := by
  have hApart : ∀ {k : Nat} {p : Point} {s : Nat}, c.calls[k]? = some p → p.holdsChannel s = true →
      s ≠ r := by
    intro k p s hCall hHolds
    exact Nat.ne_of_lt (Nat.lt_of_lt_of_le (h.calls k p s hCall hHolds) hRun)
  cases m with
  | goOn k =>
    cases hCall : c.calls[k]? with
    | none => simp only [sentBy, hCall]
    | some p =>
      simp only [sentBy, hCall]
      cases p with
      | sending p id s | notifying n s =>
        have hOther : s ≠ r := hApart hCall (decide_eq_true rfl)
        simp [sentAt, hOther]
      | _ => rfl
  | read s =>
    simp only [sentBy]
    split
    · rename_i hs
      rw [hs, run_of_le hRun]
      rfl
    · rfl
  | _ => rfl

/-- **What was put on the channel of a run is what its writer has written, and then what is left.** -/
theorem conveyed_fresh (x : Setup) (listeners : Listeners Nat) (r : Nat) (moves : List Move) :
    Conveyed (((fresh listeners).playAll x moves).run r) (sent x r (fresh listeners) moves) := by
  induction moves using List.reverseRecOn with
  | nil => exact ⟨rfl, [], rfl, fun _ => rfl⟩
  | append_singleton moves m ih =>
    have hAnchored := anchored_playAll (x := x) (anchored_fresh listeners) moves
    rw [playAll_concat, sent, collect_concat]
    rcases Nat.lt_or_ge r ((fresh listeners).playAll x moves).runs.length with hRun | hNone
    · exact ih.play hRun
    · rw [sentBy_of_le x hAnchored hNone]
      exact ih.of_wire ((wire_play_of_le x hNone m).trans (wire_accept_nil _).symm)

/-! ## What a point vouches for -/

/-- The first request was sent. -/
def Greeted (said : List Signal) : Prop := ∃ id, .request .handshake id ∈ said

/-- The first request was sent, and a frame has said to it that it went well while it waited. -/
def Welcomed (said : List Signal) (events : List Event) : Prop :=
  ∃ id v, .request .handshake id ∈ said ∧
    ∃ earlier body later, events = earlier ++ .frame body :: later ∧ Outstanding id earlier ∧
      responseTo id body = some (.ok v)

/-- The first request was sent, and the notification after it. -/
def Introduced (said : List Signal) : Prop := Greeted said ∧ .notice .initialized ∈ said

/-- The request to shut down was sent, or could not be sent. -/
def Dismissed (said : List Signal) : Prop :=
  ∃ id, .request .shutdown id ∈ said ∨ .unsent .shutdown id ∈ said

/-- What was said and heard before a call comes to a point. -/
def Point.Vouched (said : List Signal) (events : List Event) : Point → Prop
  | .waiting .handshake id => .request .handshake id ∈ said
  | .waiting .shutdown _ => Dismissed said
  | .notify .initialized => Welcomed said events
  | .notifying .initialized _ => Welcomed said events
  | .notify .exit => Dismissed said
  | .notifying .exit _ => Dismissed said
  | .checkChannel => Introduced said
  | .becomeReady _ => Introduced said
  | _ => True

variable {said : List Signal} {events : List Event}

theorem Welcomed.greeted (h : Welcomed said events) : Greeted said := by
  obtain ⟨id, v, hSaid, -⟩ := h
  exact ⟨id, hSaid⟩

theorem Introduced.more (h : Introduced said) (more : List Signal) : Introduced (said ++ more) := by
  obtain ⟨⟨id, hSaid⟩, hNotice⟩ := h
  exact ⟨⟨id, List.mem_append_left _ hSaid⟩, List.mem_append_left _ hNotice⟩

theorem Dismissed.more (h : Dismissed said) (more : List Signal) : Dismissed (said ++ more) := by
  obtain ⟨id, hSaid⟩ := h
  exact ⟨id, hSaid.imp (List.mem_append_left _) (List.mem_append_left _)⟩

theorem Welcomed.more (h : Welcomed said events) (more : List Signal) (news : List Event) :
    Welcomed (said ++ more) (events ++ news) := by
  obtain ⟨id, v, hSaid, earlier, body, later, rfl, hOutstanding, hResponse⟩ := h
  refine ⟨id, v, List.mem_append_left _ hSaid, earlier, body, later ++ news, ?_, hOutstanding, hResponse⟩
  rw [List.append_assoc, List.cons_append]

theorem Point.Vouched.more (h : p.Vouched said events) (more : List Signal) (news : List Event) :
    p.Vouched (said ++ more) (events ++ news) := by
  cases p with
  | waiting purpose id =>
    cases purpose with
    | handshake => exact List.mem_append_left _ h
    | shutdown => exact Dismissed.more h more
    | call => trivial
  | notify n | notifying n _ =>
    cases n with
    | initialized => exact Welcomed.more h more news
    | exit => exact Dismissed.more h more
  | checkChannel | becomeReady _ => exact Introduced.more h more
  | _ => trivial

/-- A request that failed on the side of the client vouches for what comes after it. -/
theorem vouched_afterFailure {p : Purpose} (e : HostError) (h : p = .shutdown → Dismissed said) :
    (afterRequest p (.error e)).Vouched said events := by
  cases p with
  | shutdown => exact h rfl
  | handshake | call => trivial

/-- **A call that goes on vouches for what it says and hears.** -/
theorem vouched_advances (hBooked : Booked c events) (h : p.Vouched said events)
    (hAdvances : Advances x c p d q) (news : List Event) :
    q.Vouched (said ++ signalsAt c p) (events ++ news) := by
  have hSaid : ∀ {s : Signal}, s ∈ signalsAt c p → s ∈ said ++ signalsAt c p :=
    List.mem_append_right said
  cases hAdvances with
  | unsent p id log hChannel =>
    refine vouched_afterFailure _ ?_
    rintro rfl
    exact ⟨id, .inr (hSaid (by simp [signalsAt, hChannel]))⟩
  | sendFailed p id r log hWriting =>
    refine vouched_afterFailure _ ?_
    rintro rfl
    exact ⟨id, .inr (hSaid (by simp [signalsAt, hWriting]))⟩
  | sent p id r hWriting hRoom =>
    have hNow : Signal.request p id ∈ signalsAt c (.sending p id r) := by
      simp [signalsAt, hWriting, hRoom]
    cases p with
    | handshake => exact hSaid hNow
    | shutdown => exact ⟨id, .inl (hSaid hNow)⟩
    | call => trivial
  | answered p id v log capabilities hResponse =>
    cases p with
    | handshake =>
      cases v with
      | error => trivial
      | ok v =>
        obtain ⟨before, after, hResponses, -⟩ := List.lookup_eq_some_iff.mp hResponse
        have hDelivered := (hBooked.responses id (.ok v)).mp (by simp [hResponses])
        rcases hDelivered.frame with hTerminated | hFrame
        · cases hTerminated
        · exact Welcomed.more ⟨id, v, h, hFrame⟩ _ news
    | shutdown => exact Dismissed.more h _
    | call => trivial
  | noticeBegun n r hChannel => cases n <;> exact h.more _ news
  | unnotified n | noticeFailed n => cases n <;> trivial
  | noticeSent n r log hWriting hRoom =>
    cases n with
    | initialized =>
      have hNow : Signal.notice .initialized ∈ signalsAt c (.notifying .initialized r) := by
        simp [signalsAt, hWriting, hRoom]
      obtain ⟨id, hGreeted⟩ := Welcomed.greeted h
      exact ⟨⟨id, List.mem_append_left _ hGreeted⟩, hSaid hNow⟩
    | exit => trivial
  | channelChecked => exact Introduced.more h _
  | nothingToClear a | processEnded a => cases a <;> trivial
  | _ => trivial

/-- A start that ends well has come to its last step. -/
theorem becomeReady_of_ok {v : Json} {stops : List Nat} (h : Advances x c p d (.over (.ok v)))
    (hErrand : p.errand? = some .start) (hStands : Stands listeners stops c.posture p.stage) :
    p = .becomeReady true := by
  generalize hq : Point.over (.ok v) = q at h
  cases h with
  | becameReady => rfl
  | startPassed hStatus =>
    cases hStands with
    | asked hFirst =>
      simp only [posture, standing] at hFirst
      simp [hFirst] at hStatus
  | statusSet status r =>
    obtain ⟨-, e, rfl⟩ := setStatus_of_start hErrand
    cases hq
  | stopPassed => cases hErrand
  | requestRefused => cases hq
  | nothingToClear a | processEnded a => cases a <;> cases hq
  | unsent p | sendFailed p => cases p <;> cases hq
  | answered p id r =>
    cases p with
    | handshake => cases r <;> cases hq
    | shutdown | call => cases hErrand
  | unnotified n | noticeFailed n | noticeSent n => cases n <;> cases hq
  | _ => cases hq

/-- All calls vouch for what was said and heard before they came where they are, and a start that has ended
well for the first request and the notification after it. -/
structure Vouched (said : List Signal) (events : List Event) (start : Nat) (c : Client) : Prop where
  points : ∀ (k : Nat) (p : Point), c.calls[k]? = some p → p.Vouched said events
  started : ∀ v, c.calls[start]? = some (.over (.ok v)) → Introduced said

/-- **A move keeps what calls vouch for.** -/
theorem Vouched.play {stops : List Nat} {start : Nat} {first : Point} (h : Vouched said events start c)
    (hBooked : Booked c events) (hCourse : Course listeners stops start first c) (m : Move) :
    Vouched (said ++ signalsBy c m) (events ++ eventsBy c m) start (c.play x m) := by
  refine ⟨fun k q hCall => ?_, fun v hCall => ?_⟩
  · have hFollows := follows_play x c m k
    generalize c.play x m = d at hFollows hCall
    cases hFollows with
    | stayed _ _ hNow => exact (h.points k q (hNow ▸ hCall)).more _ _
    | made op _ _ hNow =>
      cases hCall.symm.trans hNow
      trivial
    | @advanced p _ _ hBefore hAdvances hNow =>
      cases hCall.symm.trans hNow
      have hSaid : signalsBy c (.goOn k) = signalsAt c p := by simp only [signalsBy, hBefore]
      rw [hSaid]
      exact vouched_advances hBooked (h.points k p hBefore) hAdvances _
    | @expired p id _ hBefore _ hNow =>
      cases hCall.symm.trans hNow
      refine vouched_afterFailure _ ?_
      rintro rfl
      exact Dismissed.more (h.points k _ hBefore) _
  · have hFollows := follows_play x c m start
    generalize c.play x m = d at hFollows hCall
    cases hFollows with
    | stayed _ _ hNow => exact (h.started v (hNow ▸ hCall)).more _
    | made op _ _ hNow => cases hCall.symm.trans hNow
    | @advanced p _ _ hBefore hAdvances hNow =>
      cases hCall.symm.trans hNow
      cases hCourse.call.symm.trans hBefore
      have hErrand := hCourse.errand.resolve_left hAdvances.not_over
      obtain rfl := becomeReady_of_ok hAdvances hErrand hCourse.stands
      exact Introduced.more (h.points start _ hBefore) _
    | @expired p id _ hBefore _ hNow =>
      have hNext := hCall.symm.trans hNow
      cases hCourse.call.symm.trans hBefore
      have hErrand := hCourse.errand.resolve_left fun ⟨r, hOver⟩ => nomatch hOver
      cases p with
      | handshake => cases hNext
      | shutdown | call => cases hErrand

theorem vouched_playAll {before after : List Move} (hBefore : Move.call .start ∉ before)
    (hAfter : Move.call .start ∉ after) :
    let moves := before ++ .call .start :: after
    Vouched (signals x (fresh listeners) moves) (history x (fresh listeners) moves)
      ((fresh listeners).playAll x before).calls.length ((fresh listeners).playAll x moves) := by
  induction after using List.reverseRecOn with
  | nil =>
    have hFresh : Dormant (fresh listeners) := ⟨rfl, rfl, rfl, fun _ _ h => nomatch h⟩
    obtain ⟨hDormant, -⟩ := hFresh.playAll (x := x) hBefore
    have hCalls : ((fresh listeners).playAll x (before ++ [.call .start])).calls =
        ((fresh listeners).playAll x before).calls ++ [.begin .start] := by
      rw [playAll_concat]
      rfl
    refine ⟨fun k p hCall => ?_, fun v hCall => ?_⟩
    · rw [hCalls] at hCall
      rcases call_made hCall with hOld | ⟨-, rfl⟩
      · rcases hDormant.calls k p hOld with ⟨r, rfl⟩ | ⟨op, rfl, -⟩ <;> trivial
      · trivial
    · rw [hCalls] at hCall
      simp at hCall
  | append_singleton after m ih =>
    have hEarlier : Move.call .start ∉ after := fun h => hAfter (List.mem_append_left _ h)
    have hRunsOn : ∃ p, Course listeners (stopsOf x (fresh listeners) (before ++ .call .start :: after))
        ((fresh listeners).playAll x before).calls.length p
        ((fresh listeners).playAll x (before ++ .call .start :: after)) := course_playAll hBefore hEarlier
    obtain ⟨p, hCourse⟩ := hRunsOn
    have hBooked := booked_playAll (x := x) (booked_fresh listeners) (before ++ .call .start :: after)
    have hNext := (ih hEarlier).play (x := x) hBooked hCourse m
    intro moves
    have hMoves : moves = (before ++ .call .start :: after) ++ [m] := by
      simp only [moves, List.append_assoc, List.cons_append]
    rw [hMoves, playAll_concat, signals_concat, history, collect_concat]
    exact hNext

/-! ## What precedes a message -/

/-- A call beside the start is under way only when the start has ended well. -/
theorem Course.introduced {stops : List Nat} {start k : Nat} {first : Point}
    (h : Course listeners stops start first c) (hVouched : Vouched said events start c)
    (hCall : c.calls[k]? = some p) (hUnderWay : p.UnderWay) (hErrand : p.errand? ≠ some .start) :
    Introduced said := by
  have hOther : k ≠ start := by
    rintro rfl
    cases h.call.symm.trans hCall
    rcases h.errand with ⟨r, hOver⟩ | hStart
    · exact hUnderWay.2 r hOver
    · exact hErrand hStart
  have hRunning := ((h.others k p hOther hCall).late hUnderWay).1
  obtain ⟨v, rfl⟩ : ∃ v, first = .over (.ok v) := by
    unfold Point.stage at hRunning
    split at hRunning <;> cases hRunning
    exact ⟨_, rfl⟩
  exact hVouched.started v h.call

/-- A request or a notification comes from a call that holds a channel for it. -/
def Signal.Comes (c : Client) : Signal → Prop
  | .request p id => ∃ k r : Nat, c.calls[k]? = some (Point.sending p id r)
  | .notice n => ∃ k r : Nat, c.calls[k]? = some (Point.notifying n r)
  | _ => True

theorem comes_of_mem {m : Move} {s : Signal} (h : s ∈ signalsBy c m) : s.Comes c := by
  cases m with
  | goOn k =>
    cases hCall : c.calls[k]? with
    | none => simp [signalsBy, hCall] at h
    | some p =>
      simp only [signalsBy, hCall] at h
      cases p with
      | send p id =>
        simp only [signalsAt] at h
        split at h
        · obtain rfl := List.mem_singleton.mp h
          trivial
        · cases h
      | sending p id r =>
        simp only [signalsAt] at h
        split at h
        · obtain rfl := List.mem_singleton.mp h
          trivial
        split at h
        · obtain rfl := List.mem_singleton.mp h
          exact ⟨k, r, hCall⟩
        · cases h
      | notifying n r =>
        simp only [signalsAt] at h
        split at h
        · obtain rfl := List.mem_singleton.mp h
          exact ⟨k, r, hCall⟩
        · cases h
      | _ => cases h
  | read s =>
    obtain ⟨message, -, rfl⟩ := List.mem_map.mp h
    trivial
  | _ => cases h

theorem underWay_sending (p : Purpose) (id r : Nat) : (Point.sending p id r).UnderWay := ⟨nofun, nofun⟩

theorem underWay_notifying (n : Notice) (r : Nat) : (Point.notifying n r).UnderWay := ⟨nofun, nofun⟩

/-- **The order of a handshake.** A client is started once, and requests, stops, frames and failures come in
any order. What was put on the channel of its run is what its writer has written, and then what is left, and
it says what was said, one message for each signal that could be sent. At every point, whatever move is next:

* a request or a notification comes after the first request, unless it is that itself;
* a request of a caller comes after the notification that the client is initialized;
* this notification comes after the first request and after a frame that said to it, while it waited, that it
  went well;
* the request to shut down comes after the notification that the client is initialized;
* the notification to exit comes after the request to shut down was sent or could not be sent. -/
theorem greets_inOrder (x : Setup) (listeners : Listeners Nat) (before after : List Move) (m : Move)
    (hBefore : Move.call .start ∉ before) (hAfter : Move.call .start ∉ after) :
    let moves := before ++ .call .start :: after
    let c := (fresh listeners).playAll x moves
    let said := signals x (fresh listeners) moves
    let events := history x (fresh listeners) moves
    (∃ left, List.Forall₂ Signal.Says ((said ++ signalsBy c m).filter Signal.isSent)
        (((c.play x m).run 0).written ++ left) ∧
      (((c.play x m).run 0).writing = true → left = ((c.play x m).run 0).channel)) ∧
    (∀ p id, .request p id ∈ signalsBy c m → p = .handshake ∨ Greeted said) ∧
    (∀ n, .notice n ∈ signalsBy c m → Greeted said) ∧
    (∀ method params id, .request (.call method params) id ∈ signalsBy c m →
      .notice .initialized ∈ said) ∧
    (.notice .initialized ∈ signalsBy c m → Welcomed said events) ∧
    (∀ id, .request .shutdown id ∈ signalsBy c m → .notice .initialized ∈ said) ∧
    (.notice .exit ∈ signalsBy c m → Dismissed said) := by
  intro moves c said events
  obtain ⟨p, hCourse⟩ : ∃ p, Course listeners (stopsOf x (fresh listeners) moves)
      ((fresh listeners).playAll x before).calls.length p c := course_playAll hBefore hAfter
  have hVouched : Vouched said events _ c := vouched_playAll hBefore hAfter
  have hAnchored : Anchored c := anchored_playAll (anchored_fresh listeners) moves
  have hOne : c.runs.length ≤ 1 := hCourse.stands.runs_le
  have hMessages : (said ++ signalsBy c m).filterMap (Signal.message? x) =
      sent x 0 (fresh listeners) (moves ++ [m]) := by
    rw [sent, collect_concat, ← sent, sent_eq x (anchored_fresh listeners) hOne]
    simp only [List.filterMap_append, ← sentBy_eq x hAnchored hOne]
    rfl
  have hSays := says_all x (said ++ signalsBy c m)
  obtain ⟨left, hOrder, hLeft⟩ := (conveyed_fresh x listeners 0 (moves ++ [m])).order
  rw [hMessages, hOrder] at hSays
  rw [playAll_concat] at hSays hLeft
  have hLate : ∀ {k : Nat} {q : Point}, c.calls[k]? = some q → q.UnderWay → q.errand? ≠ some .start →
      Introduced said := fun hCall => hCourse.introduced hVouched hCall
  have hRequest : ∀ p id, .request p id ∈ signalsBy c m → p = .handshake ∨ Introduced said := by
    intro p id hSaid
    obtain ⟨k, r, hCall⟩ := comes_of_mem hSaid
    have hUnderWay := underWay_sending p id r
    cases p with
    | handshake => exact .inl rfl
    | shutdown | call => exact .inr (hLate hCall hUnderWay (by simp [Point.errand?, Purpose.errand]))
  have hNotice : ∀ n, .notice n ∈ signalsBy c m → ∃ r, (Point.notifying n r).Vouched said events := by
    intro n hSaid
    obtain ⟨k, r, hCall⟩ := comes_of_mem hSaid
    exact ⟨r, hVouched.points k _ hCall⟩
  refine ⟨⟨left, hSays, hLeft⟩, fun p id hSaid => (hRequest p id hSaid).imp_right And.left, fun n hSaid => ?_,
    fun method params id hSaid => ?_, fun hSaid => ?_, fun id hSaid => ?_, fun hSaid => ?_⟩
  · cases n with
    | initialized =>
      obtain ⟨r, hWelcomed⟩ := hNotice _ hSaid
      exact Welcomed.greeted hWelcomed
    | exit =>
      obtain ⟨k, r, hCall⟩ := comes_of_mem hSaid
      exact (hLate hCall (underWay_notifying .exit r) (by simp [Point.errand?, Notice.errand])).1
  · exact ((hRequest _ id hSaid).resolve_left (by simp)).2
  · obtain ⟨r, hWelcomed⟩ := hNotice _ hSaid
    exact hWelcomed
  · exact ((hRequest _ id hSaid).resolve_left (by simp)).2
  · obtain ⟨r, hDismissed⟩ := hNotice _ hSaid
    exact hDismissed

/-- Whether a call is about to put the notification to exit on the channel of the first run. -/
def Point.isLeaving : Point → Bool
  | .notifying .exit 0 => true
  | _ => false

theorem Point.eq_of_isLeaving {p : Point} (h : p.isLeaving = true) : p = .notifying .exit 0 := by
  unfold isLeaving at h
  split at h
  · rfl
  · cases h

/-- A client is started, a request is sent, and the client is stopped: the request to shut down is answered,
three messages are written, and the notification to exit is next. -/
def stopping : List Move :=
  running.tail ++ [.call .stop] ++ List.replicate 4 (.goOn 2) ++
    [.output 0 (Rpc.frame "\x7b\"id\":2\x7d".toList), .read 0] ++ List.replicate 2 (.goOn 2) ++
      List.replicate 3 (.write 0)

/-- The notification to exit comes after the request to shut down and after the first request. Three messages
were written, and two are left on the channel with it. -/
theorem greets_inOrder_stopping :
    let moves := .call .start :: stopping
    let c := (fresh listener).playAll .plain moves
    let said := signals .plain (fresh listener) moves
    Move.call .start ∉ stopping ∧ .notice .exit ∈ signalsBy c (.goOn 2) ∧ Dismissed said ∧
      Greeted said ∧
      ∃ first left, List.Forall₂ Signal.Says ((said ++ signalsBy c (.goOn 2)).filter Signal.isSent)
          (first :: left) ∧ (Signal.request .handshake 0).Says first ∧
        left = ["\x7b\"jsonrpc\":\"2.0\",\"method\":\"initialized\",\"params\":\x7b\x7d\x7d",
          "\x7b\"jsonrpc\":\"2.0\",\"id\":1,\"method\":\"x\",\"params\":null\x7d",
          "\x7b\"jsonrpc\":\"2.0\",\"id\":2,\"method\":\"shutdown\"\x7d",
          "\x7b\"jsonrpc\":\"2.0\",\"method\":\"exit\"\x7d"] ∧
        ((c.play .plain (.goOn 2)).run 0).written = first :: left.take 2 := by
  intro moves c said
  have hOnce : Move.call .start ∉ stopping := by simp [stopping, running]
  have hNext : c.calls[2]?.any Point.isLeaving = true ∧ (c.run 0).writing = true ∧
      (c.run 0).hasRoom = true := by decide +kernel
  obtain ⟨hPoint, hWriting, hRoom⟩ := hNext
  obtain ⟨p, hCall, hExit⟩ := (Option.any_eq_true _ _).mp hPoint
  obtain rfl := Point.eq_of_isLeaving hExit
  have hSaid : .notice .exit ∈ signalsBy c (.goOn 2) := by
    simp [signalsBy, signalsAt, hCall, hWriting, hRoom]
  obtain ⟨⟨left, hSays, hLeft⟩, -, hGreeted, -, -, -, hDismissed⟩ :=
    greets_inOrder .plain listener [] stopping (.goOn 2) (by simp) hOnce
  let y := (c.play .plain (.goOn 2)).run 0
  have hTexts : y.writing = true ∧
      y.written ++ y.channel = Purpose.body .plain .handshake 0 ::
        ["\x7b\"jsonrpc\":\"2.0\",\"method\":\"initialized\",\"params\":\x7b\x7d\x7d",
          "\x7b\"jsonrpc\":\"2.0\",\"id\":1,\"method\":\"x\",\"params\":null\x7d",
          "\x7b\"jsonrpc\":\"2.0\",\"id\":2,\"method\":\"shutdown\"\x7d",
          "\x7b\"jsonrpc\":\"2.0\",\"method\":\"exit\"\x7d"] ∧ y.written.length = 3 := by
    decide +kernel
  obtain ⟨hWrites, hAll, hThree⟩ := hTexts
  refine ⟨hOnce, hSaid, hDismissed hSaid, hGreeted .exit hSaid, Purpose.body .plain .handshake 0,
    _, ?_, Signal.says_message? (x := .plain) rfl, rfl, ?_⟩
  · rw [← hAll]
    change List.Forall₂ Signal.Says _ (y.written ++ left) at hSays
    rw [hLeft hWrites] at hSays
    exact hSays
  · have hTaken : y.written = (y.written ++ y.channel).take 3 := by
      rw [← hThree, List.take_left]
    rw [hAll] at hTaken
    exact hTaken

end ExtensionHost.Client
