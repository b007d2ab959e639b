import ExtensionHost.Proofs.CommandLine.Footprint
import ExtensionHost.Proofs.Wire.RoundTrips

/-!
# What is shown of references

A command that finds references asks the server of its client and goes on with the answer
(`drive_findReferences`). Whatever that is, the host reports one error or shows one line for each location,
in order (`shows_references`). Lines and columns go over the wire counted from zero, in 32 bits, and are
shown counted from one in 32 bits as well. For the greatest of them there is no such number: it comes back to
zero, or, in a build with checks, the program panics before it shows the location.
-/

namespace ExtensionHost.CommandLine

open Headless

variable {x : Setting} {h : Headless}

/-! ## Numbers from one -/

/-- A number counted from one as it is shown: within 32 bits the greatest one becomes zero. -/
def counted (n : UInt32) : String :=
  if n.toNat + 1 < UInt32.size then toString (n.toNat + 1) else "0"

theorem toString_add_one (n : UInt32) : toString (n + 1).toNat = counted n := by
  rw [counted, UInt32.toNat_add]
  split
  · rename_i hSmall
    rw [UInt32.toNat_one, Nat.mod_eq_of_lt hSmall]
  · rename_i hGreat
    have hGreatest : n.toNat + 1 = UInt32.size :=
      Nat.le_antisymm (Nat.succ_le_of_lt n.toNat_lt) (Nat.le_of_not_lt hGreat)
    rw [UInt32.toNat_one, hGreatest]
    rfl

theorem fromOne_of_wraps (hOverflow : x.overflow = .wraps) (at_ : Coordinate) (n : UInt32) :
    fromOne x at_ n = .ok (counted n) := by
  rw [fromOne, hOverflow]
  exact congrArg Except.ok (toString_add_one n)

theorem fromOne_of_panics {report : Coordinate → List String} (hOverflow : x.overflow = .panics report)
    (at_ : Coordinate) (n : UInt32) :
    fromOne x at_ n = if n.toNat + 1 < UInt32.size then .ok (counted n) else .error (report at_) := by
  rw [fromOne, hOverflow]
  dsimp only
  rw [toString_add_one]

/-! ## Lines -/

/-- The file of a location, or else its address. -/
def placeOf (l : Location) : String := (FileUri.toPath? l.uri).getD l.uri

/-- The line that is shown for a location. -/
def lineOf (l : Location) : String :=
  placeOf l ++ ":" ++ counted l.range.start.line ++ ":" ++ counted l.range.start.character

/-- The line for a location with its line and column exactly one greater than on the wire. -/
def exactLine (l : Location) : String :=
  placeOf l ++ ":" ++ toString (l.range.start.line.toNat + 1) ++ ":" ++
    toString (l.range.start.character.toNat + 1)

/-- Both numbers of a location can be counted from one within 32 bits. -/
def Countable (l : Location) : Prop :=
  l.range.start.line.toNat + 1 < UInt32.size ∧ l.range.start.character.toNat + 1 < UInt32.size

/-- The first number of a location that cannot be counted from one. -/
def uncountable? (l : Location) : Option Coordinate :=
  if l.range.start.line.toNat + 1 < UInt32.size then
    if l.range.start.character.toNat + 1 < UInt32.size then none else some .character
  else some .line

theorem uncountable?_eq_none_iff (l : Location) : uncountable? l = none ↔ Countable l := by
  unfold uncountable? Countable
  split
  · rename_i hLine
    split
    · rename_i hCharacter
      exact iff_of_true rfl ⟨hLine, hCharacter⟩
    · rename_i hCharacter
      exact iff_of_false nofun fun hBoth => hCharacter hBoth.2
  · rename_i hLine
    exact iff_of_false nofun fun hBoth => hLine hBoth.1

theorem displayLocation_of_wraps (hOverflow : x.overflow = .wraps) (l : Location) :
    displayLocation x l = { lines := [⟨.info, lineOf l⟩] } := by
  unfold displayLocation locationText
  rw [fromOne_of_wraps hOverflow, fromOne_of_wraps hOverflow]
  rfl

theorem displayLocation_of_panics {report : Coordinate → List String}
    (hOverflow : x.overflow = .panics report) (l : Location) :
    displayLocation x l =
      match uncountable? l with
      | none => { lines := [⟨.info, lineOf l⟩] }
      | some c => { panic := some (report c) } := by
  unfold displayLocation locationText uncountable?
  rw [fromOne_of_panics hOverflow, fromOne_of_panics hOverflow]
  by_cases hLine : l.range.start.line.toNat + 1 < UInt32.size
  · by_cases hCharacter : l.range.start.character.toNat + 1 < UInt32.size
    · simp only [if_pos hLine, if_pos hCharacter]
      rfl
    · simp only [if_pos hLine, if_neg hCharacter]
      rfl
  · simp only [if_neg hLine]
    rfl

/-- Only a number that can be counted from one is shown as exactly one greater, whatever follows. -/
theorem counted_append_inj (n : UInt32) (rest rest' : List Char) :
    (counted n).toList ++ rest = (toString (n.toNat + 1)).toList ++ rest' ↔
      n.toNat + 1 < UInt32.size ∧ rest = rest' := by
  have hSize := n.toNat_lt
  unfold counted
  split
  · rename_i hSmall
    rw [List.append_cancel_left_eq, and_iff_right hSmall]
  · rename_i hGreat
    have hGreatest : n.toNat + 1 = 4294967296 :=
      Nat.le_antisymm (Nat.succ_le_of_lt n.toNat_lt) (Nat.le_of_not_lt hGreat)
    have hDigits : (toString 4294967296).toList = "4294967296".toList := by decide
    rw [hGreatest, hDigits]
    simp

/-- **The line of a location is exact if and only if both of its numbers can be counted from one.** -/
theorem lineOf_eq_exactLine_iff (l : Location) : lineOf l = exactLine l ↔ Countable l := by
  have hLine := counted_append_inj l.range.start.line (':' :: (counted l.range.start.character).toList)
    (':' :: (toString (l.range.start.character.toNat + 1)).toList)
  have hCharacter := counted_append_inj l.range.start.character [] []
  rw [List.append_nil, List.append_nil, eq_self, and_true] at hCharacter
  rw [List.cons_inj_right, hCharacter] at hLine
  have hChars : lineOf l = exactLine l ↔
      (counted l.range.start.line).toList ++ ':' :: (counted l.range.start.character).toList =
        (toString (l.range.start.line.toNat + 1)).toList ++
          ':' :: (toString (l.range.start.character.toNat + 1)).toList := by
    rw [← String.toList_inj]
    simp only [lineOf, exactLine, String.toList_append, List.append_assoc, List.append_cancel_left_eq]
    rfl
  exact hChars.trans hLine

/-! ## Locations -/

/-- What is shown of locations: a line for each, or, in a build with checks, one for each before the first that
has a number which cannot be counted from one, and then the report of the panic. -/
inductive Shown (overflow : Overflow) (locations : List Location) : List LogLine → Option (List String) → Prop
    where
  | all (hCounted : overflow = .wraps ∨ ∀ l ∈ locations, Countable l) :
      Shown overflow locations (locations.map fun l => ⟨.info, lineOf l⟩) none
  | panicked {before after : List Location} {l : Location} {c : Coordinate}
      {report : Coordinate → List String} (hOverflow : overflow = .panics report)
      (hLocations : locations = before ++ l :: after) (hBefore : ∀ l ∈ before, Countable l)
      (hFirst : uncountable? l = some c) :
      Shown overflow locations (before.map fun l => ⟨.info, lineOf l⟩) (some (report c))

theorem shown_all (x : Setting) (locations : List Location) :
    Shown x.overflow locations (Display.all (displayLocation x) locations).lines
      (Display.all (displayLocation x) locations).panic := by
  cases hOverflow : x.overflow with
  | wraps =>
    have hAll : Display.all (displayLocation x) locations =
        { lines := locations.map fun l => ⟨.info, lineOf l⟩ } := by
      induction locations with
      | nil => rfl
      | cons l rest ih =>
        rw [Display.all, List.foldr_cons, displayLocation_of_wraps hOverflow]
        exact congrArg (Display.then { lines := [⟨.info, lineOf l⟩] }) ih
    rw [hAll]
    exact .all (.inl rfl)
  | panics report =>
    induction locations with
    | nil => exact .all (.inr (List.forall_mem_nil _))
    | cons l rest ih =>
      have hCons : Display.all (displayLocation x) (l :: rest) =
          (displayLocation x l).then (Display.all (displayLocation x) rest) := rfl
      rw [hCons, displayLocation_of_panics hOverflow]
      cases hFirst : uncountable? l with
      | some c => exact .panicked rfl (List.nil_append _).symm (List.forall_mem_nil _) hFirst
      | none =>
        have hCountable := (uncountable?_eq_none_iff l).mp hFirst
        revert ih
        generalize Display.all (displayLocation x) rest = shown
        intro ih
        obtain ⟨lines, panic⟩ := shown
        dsimp only [Display.then] at ih ⊢
        cases ih with
        | all hCounted =>
          have hRest := hCounted.resolve_left Overflow.noConfusion
          exact .all (.inr (List.forall_mem_cons.mpr ⟨hCountable, hRest⟩))
        | @panicked before after l' c _ hReport hLocations hBefore hUncountable =>
          cases hReport
          have hLonger : l :: rest = (l :: before) ++ l' :: after := by
            rw [hLocations]
            rfl
          exact .panicked rfl hLonger (List.forall_mem_cons.mpr ⟨hCountable, hBefore⟩) hUncountable

/-! ## Answers -/

/-- What is shown of a server's answer: one error that it could not be read, or its locations, and a last line
when all of them are shown. -/
inductive Shows (overflow : Overflow) (answer : Json) : List LogLine → Option (List String) → Prop where
  | unreadable {e : HostError} (h : parseLocations answer = .error e) :
      Shows overflow answer [⟨.error, (Session.referencesError (.ofHost e)).message⟩] none
  | located {locations : List Location} {lines : List LogLine}
      (h : parseLocations answer = .ok locations) (hShown : Shown overflow locations lines none) :
      Shows overflow answer (lines ++ [⟨.info, "View sidebar for results."⟩]) none
  | panicked {locations : List Location} {lines : List LogLine} {report : List String}
      (h : parseLocations answer = .ok locations)
      (hShown : Shown overflow locations lines (some report)) :
      Shows overflow answer lines (some report)

/-- What is over with a report or without one. -/
def endOf : Option (List String) → Except (List String) (Except HostError Unit)
  | none => .ok (.ok ())
  | some report => .error report

/-- The host when an operation is over that has put lines into the log and has done nothing else. -/
def concluding (h : Headless) (lines : List LogLine) : Headless :=
  { h with session := { h.session.resumed .references with events := [] }, log := h.log ++ lines }

/-- What is shown when an operation that finds references got its answer. -/
def displayAnswer (x : Setting) (answer : Json) : Display :=
  match parseLocations answer with
  | .error e => { lines := [⟨.error, (Session.referencesError (.ofHost e)).message⟩] }
  | .ok locations =>
    (Display.all (displayLocation x) locations).then { lines := [⟨.info, "View sidebar for results."⟩] }

theorem shows_displayAnswer (x : Setting) (answer : Json) :
    Shows x.overflow answer (displayAnswer x answer).lines (displayAnswer x answer).panic := by
  unfold displayAnswer
  cases hParsed : parseLocations answer with
  | error e => exact .unreadable hParsed
  | ok locations =>
    have hShown := shown_all x locations
    dsimp only
    generalize Display.all (displayLocation x) locations = shown at hShown ⊢
    obtain ⟨lines, panic⟩ := shown
    cases panic with
    | none => exact .located hParsed hShown
    | some report => exact .panicked hParsed hShown

/-- What the session sees of an answer is what is shown of it. -/
theorem all_showReferences (x : Setting) {s : Session} (hEvents : s.events = []) (answer : Json) :
    Display.all (displayEvent x) (s.showReferences (.done answer)).events = displayAnswer x answer := by
  unfold Session.showReferences Session.locationsOf Outcome.settle displayAnswer
  dsimp only
  cases parseLocations answer with
  | error e =>
    change Display.all _ (s.events ++ [_]) = _
    rw [hEvents]
    rfl
  | ok locations =>
    change Display.all _ (s.events ++ [_] ++ [_]) = _
    rw [hEvents]
    rfl

/-- What an answer is shown as is all that the session keeps of it. -/
theorem showReferences_seen (s : Session) (reply : Outcome Json) :
    { s.showReferences reply with events := [] } = { s with events := [] } := by
  unfold Session.showReferences
  split <;> rfl

/-- **An operation that finds references** is over when it got its reply. -/
theorem drive_references (hShown : h.session.events = []) (answer : Json) (limit : Nat) :
    drive x (limit + 1) (h.session.resume x.surroundings ⟨.references, .nothing⟩ (.done answer)) h =
      some (endOf (displayAnswer x answer).panic, concluding h (displayAnswer x answer).lines) := by
  have hResumed : h.session.resume x.surroundings ⟨.references, .nothing⟩ (.done answer) =
      ((h.session.resumed .references).showReferences (.done answer), .ended (.ok ())) := rfl
  have hEvents : (h.session.resumed .references).events = [] := hShown
  rw [hResumed, drive, bind_eq, adopt_eq, all_showReferences x hEvents, showReferences_seen]
  cases (displayAnswer x answer).panic <;> rfl

/-- An operation that waits when there is nothing to show gets its reply and goes on with it. -/
theorem drive_waiting {s : Session} {t : Suspended} (hAll : Display.all (displayEvent x) s.events = {})
    (limit : Nat) :
    drive x (limit + 1) (s, .waiting t) h =
      (replyTo x s.events.getLast? t.wait >>= fun reply => do
        drive x limit ((← get).session.resume x.surroundings t reply) : Action _)
      { h with session := { s with events := [] } } := by
  have hLog : h.log ++ ({} : Display).lines = h.log := List.append_nil h.log
  rw [drive, bind_eq, adopt_eq, hAll, hLog]
  rfl

/-- What the server is asked for: references to the start of what is selected in an editor. -/
def referencesAsked (s : Session) (editor client : Nat) : Event :=
  .request client Request.references
    (Request.referencesParams (s.buffer editor).uri
      (Document.positionAt (s.buffer editor).text (s.buffer editor).selection.start) false)

/-- **A command that finds references** asks the server of the client that is held, and goes on with what
that answers. -/
theorem drive_findReferences (hShown : h.session.events = []) {client : Nat}
    (hAlive : h.session.alive = true) (hSlot : h.session.extension.slot = some client)
    (editor limit : Nat) :
    ∃ before : Headless, h.Adopts ((h.session.record (referencesAsked h.session editor client)).suspend
        .references .nothing).1 before ∧ before.log = h.log ∧
      drive x (limit + 2) (Session.settle x.surroundings
          (h.session.runHandler x.surroundings (.own .findReferences) editor) .nothing) h =
        (requestAsked x (some (referencesAsked h.session editor client)) >>= fun reply => do
          drive x (limit + 1)
            ((← get).session.resume x.surroundings ⟨.references, .nothing⟩ reply)) before := by
  have hAsks : h.session.runHandler x.surroundings (.own .findReferences) editor =
      (h.session.record (referencesAsked h.session editor client), some .references) := by
    unfold Session.runHandler Session.askForReferences
    dsimp only
    rw [if_pos hAlive, hSlot]
    rfl
  have hEvents : (h.session.record (referencesAsked h.session editor client)).events =
      [referencesAsked h.session editor client] := by
    change h.session.events ++ [_] = _
    rw [hShown]
    rfl
  let asked := h.session.record (referencesAsked h.session editor client)
  have hAll : Display.all (displayEvent x) (asked.suspend .references .nothing).1.events = {} := by
    rw [events_suspend, hEvents]
    rfl
  have hLast : (asked.suspend .references .nothing).1.events.getLast? =
      some (referencesAsked h.session editor client) := by
    rw [events_suspend, hEvents]
    rfl
  refine ⟨{ h with session := { (asked.suspend .references .nothing).1 with events := [] } },
    ⟨rfl, rfl⟩, rfl, ?_⟩
  have hWaits := drive_waiting (h := h) (t := ⟨.references, .nothing⟩) hAll (limit + 1)
  rw [hLast] at hWaits
  rw [hAsks]
  exact hWaits

/-! ## What is shown -/

theorem parseLocations_encode (locations : List Location) :
    parseLocations (.array (locations.map Location.encode)) = .ok locations := by
  have hDecoded := Location.inverts.list locations
  dsimp only at hDecoded
  rw [parseLocations, hDecoded]
  rfl

/-- That every location of every answer is shown with its line and column exactly one greater. -/
def ShowsExactly (overflow : Overflow) : Prop :=
  ∀ (x : Setting) (h : Headless) (answer : Json) (limit : Nat) (locations : List Location),
    x.overflow = overflow → h.session.events = [] → parseLocations answer = .ok locations →
      drive x (limit + 1) (h.session.resume x.surroundings ⟨.references, .nothing⟩ (.done answer)) h =
        some (.ok (.ok ()), concluding h
          (locations.map (fun l => ⟨.info, exactLine l⟩) ++ [⟨.info, "View sidebar for results."⟩]))

/-- **Whatever the server answers, references are shown as it says**, and nothing else is done: there is one
error, or one line for each location and one at the end. The line and the column of a location are shown
exactly one greater if and only if both can be counted so within 32 bits. Otherwise the greatest number is
shown as zero, or, in a build with checks, the program panics before it shows the location. -/
theorem shows_references (hShown : h.session.events = []) (answer : Json) (limit : Nat) :
    (∃ lines panic, Shows x.overflow answer lines panic ∧
      drive x (limit + 1) (h.session.resume x.surroundings ⟨.references, .nothing⟩ (.done answer)) h =
        some (endOf panic, concluding h lines)) ∧
      ∀ l, lineOf l = exactLine l ↔ Countable l :=
  ⟨⟨_, _, shows_displayAnswer x answer, drive_references hShown answer limit⟩, lineOf_eq_exactLine_iff⟩

/-- A location at the greatest line and column. -/
def farthest : Location := ⟨"file:///b.ex", .point ⟨4294967295, 4294967295⟩⟩

/-- A location at the first line and column. -/
def nearest : Location := ⟨"file:///a.ex", .point ⟨0, 0⟩⟩

/-- A setting with no programs. -/
def unprovided (overflow : Overflow) : Setting where
  programs := writing ""
  overflow := overflow
  processId := 1
  surroundings := ⟨"/ext", none, false, "/", fun _ => .done ()⟩
  choice := none

/-- A report of a panic. -/
def reporting : Coordinate → List String
  | .line => ["line"]
  | .character => ["character"]

/-- What is shown of the two locations in a build with checks. -/
theorem displayAnswer_farthest :
    displayAnswer (unprovided (.panics reporting)) (.array ([nearest, farthest].map Location.encode)) =
      { lines := [⟨.info, "/a.ex:1:1"⟩], panic := some ["line"] } := by
  have hNearest : uncountable? nearest = none := by decide
  have hFarthest : uncountable? farthest = some .line := by decide
  have hLine : lineOf nearest = "/a.ex:1:1" := by decide +kernel
  have hAll : Display.all (displayLocation (unprovided (.panics reporting))) [nearest, farthest] =
      { lines := [⟨.info, lineOf nearest⟩], panic := some ["line"] } := by
    rw [Display.all, List.foldr_cons, List.foldr_cons, displayLocation_of_panics rfl,
      displayLocation_of_panics rfl, hNearest, hFarthest]
    rfl
  unfold displayAnswer
  rw [parseLocations_encode]
  dsimp only
  rw [hAll, hLine]
  rfl

/-- In a build with checks the first location is shown, and then the program panics. -/
theorem shows_references_farthest :
    ∃ lines panic, Shows (.panics reporting) (.array ([nearest, farthest].map Location.encode)) lines panic ∧
      drive (unprovided (.panics reporting)) 1 (({} : Session).resume
          (unprovided (.panics reporting)).surroundings ⟨.references, .nothing⟩
          (.done (.array ([nearest, farthest].map Location.encode)))) ⟨{}, [], []⟩ =
        some (endOf panic, concluding ⟨{}, [], []⟩ lines) ∧
      lines = [⟨.info, "/a.ex:1:1"⟩] ∧ panic = some ["line"] := by
  obtain ⟨⟨lines, panic, hShows, hDrive⟩, -⟩ := shows_references (x := unprovided (.panics reporting))
    (h := ⟨{}, [], []⟩) rfl (.array ([nearest, farthest].map Location.encode)) 0
  refine ⟨lines, panic, hShows, hDrive, ?_⟩
  have hEnd := (drive_references (x := unprovided (.panics reporting)) (h := ⟨{}, [], []⟩) rfl
    (.array ([nearest, farthest].map Location.encode)) 0).symm.trans hDrive
  rw [displayAnswer_farthest] at hEnd
  obtain ⟨hReport, hLog⟩ := Prod.mk.inj (Option.some.inj hEnd)
  refine ⟨(congrArg Headless.log hLog).symm, ?_⟩
  cases panic with
  | none => cases hReport
  | some report => exact congrArg some (Except.error.inj hReport).symm

/-- A location at the greatest line and column is not shown exactly. -/
theorem not_showsExactly_of (overflow : Overflow) : ¬ ShowsExactly overflow := by
  intro hExact
  have hShown := hExact (unprovided overflow) ⟨{}, [], []⟩ (.array ([farthest].map Location.encode)) 0
    [farthest] rfl rfl (parseLocations_encode [farthest])
  have hAnswer : displayAnswer (unprovided overflow) (.array ([farthest].map Location.encode)) =
      ((displayLocation (unprovided overflow) farthest).then {}).then
        { lines := [⟨.info, "View sidebar for results."⟩] } := by
    unfold displayAnswer
    rw [parseLocations_encode]
    rfl
  rw [drive_references rfl, hAnswer] at hShown
  obtain ⟨hReport, hEnd⟩ := Prod.mk.inj (Option.some.inj hShown)
  cases overflow with
  | wraps =>
    rw [displayLocation_of_wraps rfl] at hEnd
    have hLine : lineOf farthest = exactLine farthest :=
      congrArg LogLine.text (List.cons.inj (congrArg Headless.log hEnd)).1
    exact absurd ((lineOf_eq_exactLine_iff farthest).mp hLine).1 (by decide)
  | panics report =>
    have hFarthest : uncountable? farthest = some .line := by decide
    rw [displayLocation_of_panics rfl, hFarthest] at hReport
    cases hReport

/-- The greatest line and column are not shown one greater, whether a build has checks or not. -/
theorem not_showsExactly : ¬ ShowsExactly .wraps ∧ ¬ ShowsExactly (.panics reporting) :=
  ⟨not_showsExactly_of _, not_showsExactly_of _⟩

end ExtensionHost.CommandLine
