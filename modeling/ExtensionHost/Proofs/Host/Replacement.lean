import ExtensionHost.Proofs.Lifecycle.Alterations
import Mathlib.Data.List.Induction

/-!
# Commands that replace each other

A registration of a command lasts until it is disposed of or until its identifier is registered again. What
was done with a hub is a list of uses: handlers that were registered, and registrations that were disposed
of, in any order and as late as may be. `Live` says of such a list, without the hub, which registration an
identifier has in the end. The entries of the hub are these registrations (`Ledger.mem_entries`): a token is
given once, so that a registration which was replaced, or taken away, is that of no entry ever after.
-/

namespace ExtensionHost

/-- What is done with the commands of a hub. Registrations are numbered in their order. -/
inductive Use where
  | register (id : String) (h : Handler)
  | dispose (number : Nat)

namespace Use

/-- The identifiers of the registrations. -/
def ids (uses : List Use) : List String :=
  uses.filterMap fun
    | .register id _ => some id
    | .dispose _ => none

/-- A registration is the latest of its identifier and was not disposed of. -/
def Live (uses : List Use) (id : String) (number : Nat) (h : Handler) : Prop :=
  ∃ before after, uses = before ++ .register id h :: after ∧ number = (ids before).length ∧
    (∀ h', .register id h' ∉ after) ∧ .dispose number ∉ after

variable {uses : List Use} {id other : String} {number : Nat} {h h' : Handler}

theorem ids_register (uses : List Use) (id : String) (h : Handler) :
    ids (uses ++ [.register id h]) = ids uses ++ [id] :=
  List.filterMap_append

theorem ids_dispose (uses : List Use) (number : Nat) : ids (uses ++ [.dispose number]) = ids uses :=
  List.filterMap_append.trans (List.append_nil _)

theorem not_live_nil : ¬ Live [] id number h := by
  rintro ⟨before, after, hUses, -⟩
  exact absurd hUses (by simp)

theorem Live.getElem?_ids (hLive : Live uses id number h) : (ids uses)[number]? = some id := by
  obtain ⟨before, after, rfl, rfl, -⟩ := hLive
  have hIds : ids (before ++ .register id h :: after) = ids before ++ id :: ids after :=
    List.filterMap_append
  rw [hIds, List.getElem?_append_right (Nat.le_refl _), Nat.sub_self]
  rfl

/-- The last use gives its identifier a registration, or spares the one that it had. -/
theorem live_concat {use : Use} :
    Live (uses ++ [use]) id number h ↔
      (use = .register id h ∧ number = (ids uses).length) ∨
        (Live uses id number h ∧ (∀ h', use ≠ .register id h') ∧ use ≠ .dispose number) := by
  constructor
  · rintro ⟨before, after, hUses, hNumber, hLatest, hKept⟩
    rcases List.eq_nil_or_concat after with rfl | ⟨after, last, rfl⟩
    · obtain ⟨rfl, hLast⟩ := List.append_inj' hUses rfl
      exact .inl ⟨List.singleton_inj.mp hLast, hNumber⟩
    · rw [List.concat_eq_append] at hUses hLatest hKept
      rw [← List.cons_append, ← List.append_assoc] at hUses
      obtain ⟨rfl, hLast⟩ := List.append_inj' hUses rfl
      obtain rfl := List.singleton_inj.mp hLast
      refine .inr ⟨⟨before, after, rfl, hNumber, fun h' hMem => ?_, fun hMem => ?_⟩,
        fun h' hUse => ?_, fun hUse => ?_⟩
      · exact hLatest h' (List.mem_append_left _ hMem)
      · exact hKept (List.mem_append_left _ hMem)
      · exact hLatest h' (hUse ▸ List.mem_append_right _ List.mem_cons_self)
      · exact hKept (hUse ▸ List.mem_append_right _ List.mem_cons_self)
  · rintro (⟨rfl, rfl⟩ | ⟨⟨before, after, rfl, hNumber, hLatest, hKept⟩, hRegister, hDispose⟩)
    · exact ⟨uses, [], rfl, rfl, fun _ => List.not_mem_nil, List.not_mem_nil⟩
    · refine ⟨before, after ++ [use], by simp, hNumber, fun h' hMem => ?_, fun hMem => ?_⟩
      · rcases List.mem_append.mp hMem with hOld | hNew
        · exact hLatest h' hOld
        · exact hRegister h' (List.mem_singleton.mp hNew).symm
      · rcases List.mem_append.mp hMem with hOld | hNew
        · exact hKept hOld
        · exact hDispose (List.mem_singleton.mp hNew).symm

/-- A new registration takes the place of those of its identifier. -/
theorem live_register :
    Live (uses ++ [.register other h']) id number h ↔
      (id = other ∧ h = h' ∧ number = (ids uses).length) ∨ (id ≠ other ∧ Live uses id number h) := by
  rw [live_concat]
  constructor
  · rintro (⟨hSame, hNumber⟩ | ⟨hLive, hRegister, -⟩)
    · cases hSame
      exact .inl ⟨rfl, rfl, hNumber⟩
    · refine .inr ⟨?_, hLive⟩
      rintro rfl
      exact hRegister h' rfl
  · rintro (⟨rfl, rfl, hNumber⟩ | ⟨hOther, hLive⟩)
    · exact .inl ⟨rfl, hNumber⟩
    · exact .inr ⟨hLive, fun h'' hSame => hOther (Use.register.inj hSame).1.symm, nofun⟩

theorem live_dispose {disposed : Nat} :
    Live (uses ++ [.dispose disposed]) id number h ↔ Live uses id number h ∧ number ≠ disposed := by
  rw [live_concat]
  constructor
  · rintro (⟨hSame, -⟩ | ⟨hLive, -, hDispose⟩)
    · cases hSame
    · refine ⟨hLive, ?_⟩
      rintro rfl
      exact hDispose rfl
  · rintro ⟨hLive, hOther⟩
    exact .inr ⟨hLive, nofun, fun hSame => hOther (Use.dispose.inj hSame).symm⟩

end Use

/-! ## A hub and its registrations -/

/-- A session, and the registrations of one of its hubs in the order in which they were given. -/
structure Ledger where
  session : Session
  issued : List Registration := []

namespace Ledger

/-- The commands of a hub. -/
def commands (l : Ledger) (hub : Nat) : Commands Handler := ((l.session.hubs[hub]?).getD {}).commands

/-- Uses a hub. There is nothing to dispose of under a number that no registration has. -/
def use (hub : Nat) (l : Ledger) : Use → Ledger
  | .register id h =>
    let (session, r) := l.session.registerCommand hub id h
    ⟨session, l.issued ++ [r]⟩
  | .dispose number =>
    match l.issued[number]? with
    | some r => { l with session := l.session.dispose r }
    | none => l

/-- Uses a hub several times. -/
def useAll (hub : Nat) (l : Ledger) (uses : List Use) : Ledger := uses.foldl (use hub) l

/-- A new hub of a session. -/
def opened (s : Session) : Ledger := ⟨{ s with hubs := s.hubs ++ [{}] }, []⟩

theorem useAll_concat (hub : Nat) (l : Ledger) (uses : List Use) (last : Use) :
    l.useAll hub (uses ++ [last]) = (l.useAll hub uses).use hub last :=
  List.foldl_concat _ _ _ _

/-- The entries of a hub are the live registrations of its uses, and the token of a registration is its
number. -/
structure Records (l : Ledger) (hub : Nat) (uses : List Use) : Prop where
  hosted : hub < l.session.hubs.length
  sorted : Keyed.Sorted (l.commands hub).entries
  nextToken : (l.commands hub).nextToken = (Use.ids uses).length
  issued : l.issued = (Use.ids uses).mapIdx fun number id => .command hub id number
  mem_entries : ∀ id number h,
    (id, number, h) ∈ (l.commands hub).entries ↔ Use.Live uses id number h

variable {l : Ledger} {hub : Nat} {uses : List Use}

theorem records_opened (s : Session) : (opened s).Records s.hubs.length [] := by
  have hNew : (opened s).commands s.hubs.length = {} := by
    unfold commands opened
    rw [List.getElem?_append_right (Nat.le_refl _), Nat.sub_self]
    rfl
  refine ⟨?_, ?_, ?_, rfl, fun id number h => ?_⟩
  · unfold opened
    rw [List.length_append]
    exact Nat.lt_succ_self _
  · rw [hNew]
    exact List.Pairwise.nil
  · rw [hNew]
    rfl
  · rw [hNew]
    exact ⟨fun hMem => absurd hMem List.not_mem_nil, fun hLive => absurd hLive Use.not_live_nil⟩

theorem commands_register (hHub : hub < l.session.hubs.length) (id : String) (h : Handler) :
    (l.use hub (.register id h)).commands hub = ((l.commands hub).register id h).1 :=
  (Registry.commands_registerCommand (c := l.session.registry) hHub id h hub).trans (if_pos rfl)

theorem Records.register (hRecords : l.Records hub uses) (id : String) (h : Handler) :
    (l.use hub (.register id h)).Records hub (uses ++ [.register id h]) := by
  have hCommands := commands_register hRecords.hosted id h
  refine ⟨?_, ?_, ?_, ?_, fun id' number h' => ?_⟩
  · exact (List.length_modify _ _ _).symm ▸ hRecords.hosted
  · rw [hCommands]
    exact Keyed.sorted_insert id _ hRecords.sorted
  · rw [hCommands, Use.ids_register, List.length_append, ← hRecords.nextToken]
    rfl
  · rw [Use.ids_register, List.mapIdx_concat, ← hRecords.issued, ← hRecords.nextToken]
    rfl
  · rw [hCommands, Use.live_register, ← hRecords.mem_entries]
    refine (Keyed.mem_insert_iff hRecords.sorted).trans ?_
    rw [Prod.mk.injEq, Prod.mk.injEq, hRecords.nextToken]
    tauto

/-- The number of a registration and its identifier are what it takes away. -/
theorem Records.issued_of_getElem? (hRecords : l.Records hub uses) {number : Nat} {r : Registration}
    (hr : l.issued[number]? = some r) :
    ∃ id, (Use.ids uses)[number]? = some id ∧ r = .command hub id number := by
  rw [hRecords.issued, List.getElem?_mapIdx] at hr
  obtain ⟨id, hId, rfl⟩ := Option.map_eq_some_iff.mp hr
  exact ⟨id, hId, rfl⟩

theorem commands_dispose {number : Nat} {id : String}
    (hr : l.issued[number]? = some (.command hub id number)) :
    (l.use hub (.dispose number)).commands hub = (l.commands hub).unregister id number := by
  simp only [use, hr, commands, Session.dispose, List.getElem?_modify]
  cases l.session.hubs[hub]? with
  | none => rfl
  | some x => simp

theorem Records.dispose (hRecords : l.Records hub uses) (number : Nat) :
    (l.use hub (.dispose number)).Records hub (uses ++ [.dispose number]) := by
  cases hr : l.issued[number]? with
  | none =>
    have hSame : l.use hub (.dispose number) = l := by
      simp only [use, hr]
    rw [hRecords.issued, List.getElem?_mapIdx, Option.map_eq_none_iff] at hr
    rw [hSame]
    refine ⟨hRecords.hosted, hRecords.sorted, ?_, ?_, fun id number' h => ?_⟩
    · rw [Use.ids_dispose]
      exact hRecords.nextToken
    · rw [Use.ids_dispose]
      exact hRecords.issued
    · rw [Use.live_dispose, hRecords.mem_entries]
      refine ⟨fun hLive => ⟨hLive, ?_⟩, And.left⟩
      rintro rfl
      rw [hLive.getElem?_ids] at hr
      cases hr
  | some r =>
    obtain ⟨id, hId, rfl⟩ := hRecords.issued_of_getElem? hr
    have hCommands := commands_dispose hr
    have hEntries := Commands.entries_unregister hRecords.sorted id number
    rw [← hCommands] at hEntries
    refine ⟨?_, ?_, ?_, ?_, fun id' number' h => ?_⟩
    · simp only [use, hr, Session.dispose, List.length_modify]
      exact hRecords.hosted
    · rw [hEntries]
      exact Keyed.sorted_filter hRecords.sorted _
    · rw [hCommands, Use.ids_dispose, Commands.nextToken_unregister]
      exact hRecords.nextToken
    · simp only [use, hr, Use.ids_dispose]
      exact hRecords.issued
    · rw [hEntries, List.mem_filter, hRecords.mem_entries, Use.live_dispose, decide_eq_true_eq]
      refine and_congr_right fun hLive => not_congr ⟨And.right, ?_⟩
      rintro rfl
      rw [hLive.getElem?_ids] at hId
      exact ⟨Option.some.inj hId, rfl⟩

/-- A registration that is not live has nothing to take away. -/
theorem Records.use_stale (hRecords : l.Records hub uses) {number : Nat}
    (hStale : ∀ id h, ¬ Use.Live uses id number h) : l.use hub (.dispose number) = l := by
  cases hr : l.issued[number]? with
  | none => simp only [use, hr]
  | some r =>
    obtain ⟨id, -, rfl⟩ := hRecords.issued_of_getElem? hr
    have hSame : (l.commands hub).unregister id number = l.commands hub :=
      Commands.unregister_of_notMem fun h hMem => hStale id h ((hRecords.mem_entries id number h).mp hMem)
    have hHubs : l.session.hubs.modify hub
        (fun x => { x with commands := x.commands.unregister id number }) = l.session.hubs := by
      refine List.ext_getElem? fun i => ?_
      rw [List.getElem?_modify]
      cases hHub : l.session.hubs[i]? with
      | none => rfl
      | some x =>
        by_cases hSelf : hub = i
        · subst hSelf
          rw [commands, hHub, Option.getD_some] at hSame
          simp [hSame]
        · simp [hSelf]
    simp only [use, hr, Session.dispose, hHubs]

theorem records_useAll (s : Session) (uses : List Use) :
    ((opened s).useAll s.hubs.length uses).Records s.hubs.length uses := by
  induction uses using List.reverseRecOn with
  | nil => exact records_opened s
  | append_singleton uses use ih =>
    rw [useAll_concat]
    cases use with
    | register id h => exact ih.register id h
    | dispose number => exact ih.dispose number

theorem Records.handler?_eq_some (hRecords : l.Records hub uses) {id : String} {h : Handler} :
    (l.commands hub).handler? id = some h ↔ ∃ number, Use.Live uses id number h := by
  rw [Commands.handler?_eq_some hRecords.sorted]
  exact exists_congr fun number => hRecords.mem_entries id number h

end Ledger

/-! ## The main statement -/

/-- **A command has the handler of its latest registration.** In a new hub that was used in any way, an
identifier is contained exactly if its latest registration was not disposed of. That registration's handler
runs when the command is invoked; without such a registration the command is not found and nothing changes.
Disposing of a registration that was replaced, or disposed of before, changes nothing. The identifiers that
are listed are those contained, in increasing order. The token of a registration is its number, so that it
has 64 bits as long as there are fewer than `2 ^ 64` registrations. -/
theorem Session.invoke_latest (s : Session) (uses : List Use) :
    let hub := s.hubs.length
    let l := (Ledger.opened s).useAll hub uses
    (∀ id, (l.commands hub).contains id = true ↔ ∃ number h, Use.Live uses id number h) ∧
      (∀ id number h, Use.Live uses id number h → ∀ x editor,
        l.session.invoke x hub id editor = settle x (l.session.runHandler x h editor) .nothing) ∧
      (∀ id, (¬ ∃ number h, Use.Live uses id number h) → ∀ x editor,
        l.session.invoke x hub id editor = (l.session, .ended (.error (Commands.notFound id)))) ∧
      (∀ number, (¬ ∃ id h, Use.Live uses id number h) → l.use hub (.dispose number) = l) ∧
      (l.commands hub).ids.Pairwise (· < ·) ∧
      (∀ id, id ∈ (l.commands hub).ids ↔ (l.commands hub).contains id = true) ∧
      ∀ number r, l.issued[number]? = some r → ∃ id, r = Registration.command hub id number := by
  intro hub l
  have hRecords : l.Records hub uses := Ledger.records_useAll s uses
  have hContains : ∀ id, (l.commands hub).contains id = true ↔ ∃ number h, Use.Live uses id number h := by
    intro id
    rw [Commands.contains_eq_isSome, Option.isSome_iff_exists, exists_comm]
    exact exists_congr fun h => hRecords.handler?_eq_some
  refine ⟨hContains, ?_, ?_, ?_, hRecords.sorted, Commands.mem_ids _, ?_⟩
  · intro id number h hLive x editor
    have hHandler : ((l.session.hubs[hub]?).getD {}).commands.handler? id = some h :=
      hRecords.handler?_eq_some.mpr ⟨number, hLive⟩
    rw [invoke, hHandler]
  · intro id hNone x editor
    have hHandler : ((l.session.hubs[hub]?).getD {}).commands.handler? id = none := by
      rw [Option.eq_none_iff_forall_not_mem]
      intro h hSome
      obtain ⟨number, hLive⟩ := hRecords.handler?_eq_some.mp hSome
      exact hNone ⟨number, h, hLive⟩
    rw [invoke, hHandler]
  · exact fun number hStale => hRecords.use_stale fun id h hLive => hStale ⟨id, h, hLive⟩
  · intro number r hr
    obtain ⟨id, -, hSame⟩ := hRecords.issued_of_getElem? hr
    exact ⟨id, hSame⟩

/-- The first registration is disposed of after it was replaced, the second one twice, with a third one in
between. -/
example :
    let l := (Ledger.opened {}).useAll 1
      [.register "format" (.other 0), .register "format" (.other 1), .register "close" (.other 2),
        .dispose 0, .dispose 1, .register "format" (.other 3), .dispose 1]
    (l.commands 1).entries = [("close", 2, .other 2), ("format", 3, .other 3)] := by
  decide +kernel

end ExtensionHost
