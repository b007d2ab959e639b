import ExtensionHost.Proofs.Lifecycle.Runs
import Mathlib.Data.List.Basic

/-!
# Registries

A handler stands in a registry under its registration: in a hub as a command or as a listener for added
editors, on an editor as a handler that runs before it is saved. The extension keeps the registration of
every handler of its own that stands anywhere, and of no other (`Registry.Attributed`). A registration is
issued once, so what others register later is never among those that the extension keeps. This is
preserved when handlers are added and when registrations are disposed of, and with it that only a command
may restart the server.
-/

namespace ExtensionHost

/-- Whether a handler is one of the extension's. -/
def Handler.isOwn : Handler → Bool
  | .own _ => true
  | .other _ => false

/-- Whether a registration is that of a command. -/
def Registration.isCommand : Registration → Bool
  | .command _ _ _ => true
  | _ => false

/-! ## Adding and taking away -/

theorem Listeners.mem_add {l : Listeners Handler} {h h' : Handler} {number : Nat}
    (hMem : (number, h') ∈ (l.add h).1.entries) :
    (number, h') ∈ l.entries ∨ h' = h ∧ number = (l.add h).2 := by
  rcases List.mem_append.mp hMem with hOld | hNew
  · exact Or.inl hOld
  · cases List.mem_singleton.mp hNew
    exact Or.inr ⟨rfl, rfl⟩

/-- A hub with a number after a registration was disposed of. -/
def Hub.drop (number : Nat) (h : Hub) : Registration → Hub
  | .command hub id token =>
    if hub = number then { h with commands := h.commands.unregister id token } else h
  | .editorAdded hub n =>
    if hub = number then { h with editorAdded := h.editorAdded.remove n } else h
  | _ => h

/-- The handlers on an editor with a number after a registration was disposed of. -/
def Listeners.dropOn (number : Nat) (l : Listeners Handler) : Registration → Listeners Handler
  | .willSave editor n => if editor = number then l.remove n else l
  | _ => l

/-- Entries that stand under other registrations stay. -/
theorem filter_ne_eq_self {α : Type} {entries : List α} {r : Registration} (under : α → Registration)
    (h : ∀ e, r ≠ under e) : entries = entries.filter fun e => r ≠ under e :=
  (List.filter_eq_self.mpr fun e _ => decide_eq_true (h e)).symm

namespace Hub

variable {h : Hub}

theorem commands_drop (number : Nat) (hSorted : Keyed.Sorted h.commands.entries) (r : Registration) :
    (h.drop number r).commands.entries =
      h.commands.entries.filter fun e => r ≠ .command number e.1 e.2.1 := by
  cases r with
  | command hub id token =>
    by_cases hHub : hub = number
    · subst hHub
      simp [drop, Commands.entries_unregister hSorted, eq_comm]
    · simp only [drop, if_neg hHub]
      exact filter_ne_eq_self _ fun e hEq => hHub (Registration.command.inj hEq).1
  | editorAdded hub n =>
    simp only [drop]
    split
    · exact filter_ne_eq_self _ nofun
    · exact filter_ne_eq_self _ nofun
  | willSave | didStop => exact filter_ne_eq_self _ nofun

theorem editorAdded_drop (number : Nat) (r : Registration) :
    (h.drop number r).editorAdded.entries =
      h.editorAdded.entries.filter fun e => r ≠ .editorAdded number e.1 := by
  cases r with
  | editorAdded hub n =>
    by_cases hHub : hub = number
    · subst hHub
      simp [drop, Listeners.remove, eq_comm]
    · simp only [drop, if_neg hHub]
      exact filter_ne_eq_self _ fun e hEq => hHub (Registration.editorAdded.inj hEq).1
  | command hub id token =>
    simp only [drop]
    split
    · exact filter_ne_eq_self _ nofun
    · exact filter_ne_eq_self _ nofun
  | willSave | didStop => exact filter_ne_eq_self _ nofun

@[simp] theorem nextToken_drop (number : Nat) (r : Registration) :
    (h.drop number r).commands.nextToken = h.commands.nextToken := by
  cases r with
  | command hub id token =>
    simp only [drop, Commands.unregister]
    split
    · split
      · split <;> rfl
      · rfl
    · rfl
  | editorAdded hub n =>
    simp only [drop]
    split <;> rfl
  | willSave | didStop => rfl

@[simp] theorem lastNumber_drop (number : Nat) (r : Registration) :
    (h.drop number r).editorAdded.lastNumber = h.editorAdded.lastNumber := by
  cases r with
  | command | editorAdded =>
    simp only [drop]
    split <;> rfl
  | willSave | didStop => rfl

end Hub

namespace Listeners

theorem entries_dropOn (number : Nat) (l : Listeners Handler) (r : Registration) :
    (l.dropOn number r).entries = l.entries.filter fun e => r ≠ .willSave number e.1 := by
  cases r with
  | willSave editor n =>
    by_cases hEditor : editor = number
    · subst hEditor
      simp [dropOn, remove, eq_comm]
    · simp only [dropOn, if_neg hEditor]
      exact filter_ne_eq_self _ fun e hEq => hEditor (Registration.willSave.inj hEq).1
  | command | editorAdded | didStop => exact filter_ne_eq_self _ nofun

@[simp] theorem lastNumber_dropOn (number : Nat) (l : Listeners Handler) (r : Registration) :
    (l.dropOn number r).lastNumber = l.lastNumber := by
  cases r with
  | willSave editor n =>
    simp only [dropOn]
    split <;> rfl
  | command | editorAdded | didStop => rfl

end Listeners

/-- Dropping the entries under one registration and then those under others. -/
theorem filter_ne_notMem {α : Type} (entries : List α) (under : α → Registration) (r : Registration)
    (rs : List Registration) :
    (entries.filter fun e => r ≠ under e).filter (fun e => under e ∉ rs) =
      entries.filter fun e => under e ∉ r :: rs := by
  rw [List.filter_filter]
  refine List.filter_congr fun e _ => ?_
  rw [← Bool.decide_and]
  refine decide_eq_decide.mpr ?_
  rw [List.mem_cons, not_or, and_comm, ne_comm]

/-- Steps that drop the entries under one registration each drop those under all of them. `P` holds of
what the steps are taken from and is kept by them. -/
theorem entries_foldl {σ α : Type} {step : σ → Registration → σ} {P : σ → Prop}
    (entries : σ → List α) (under : α → Registration) (hKept : ∀ s r, P s → P (step s r))
    (hStep : ∀ s r, P s → entries (step s r) = (entries s).filter fun e => r ≠ under e)
    (rs : List Registration) {s : σ} (hs : P s) :
    entries (rs.foldl step s) = (entries s).filter fun e => under e ∉ rs := by
  induction rs generalizing s with
  | nil => exact (List.filter_eq_self.mpr fun _ _ => decide_eq_true (List.not_mem_nil)).symm
  | cons r rs ih =>
    rw [List.foldl_cons, ih (hKept s r hs), hStep s r hs]
    exact filter_ne_notMem (entries s) under r rs

/-- What each of several steps leaves alone, all of them leave alone. -/
theorem foldl_leaves {σ β : Type} {step : σ → Registration → σ} (f : σ → β)
    (hStep : ∀ s r, f (step s r) = f s) (rs : List Registration) (s : σ) :
    f (rs.foldl step s) = f s := by
  induction rs generalizing s with
  | nil => rfl
  | cons r rs ih => exact (ih (step s r)).trans (hStep s r)

theorem Hub.sorted_drop {number : Nat} {h : Hub} (hSorted : Keyed.Sorted h.commands.entries)
    (r : Registration) : Keyed.Sorted (h.drop number r).commands.entries := by
  rw [commands_drop number hSorted]
  exact Keyed.sorted_filter hSorted _

theorem Hub.commands_drops {number : Nat} (rs : List Registration) {h : Hub}
    (hSorted : Keyed.Sorted h.commands.entries) :
    (rs.foldl (Hub.drop number) h).commands.entries =
      h.commands.entries.filter fun e => .command number e.1 e.2.1 ∉ rs :=
  entries_foldl (fun h : Hub => h.commands.entries) _ (fun _ r hs => Hub.sorted_drop hs r)
    (fun _ r hs => Hub.commands_drop number hs r) rs hSorted

theorem Hub.editorAdded_drops {number : Nat} (rs : List Registration) (h : Hub) :
    (rs.foldl (Hub.drop number) h).editorAdded.entries =
      h.editorAdded.entries.filter fun e => .editorAdded number e.1 ∉ rs :=
  entries_foldl (P := fun _ => True) (fun h : Hub => h.editorAdded.entries) _ (fun _ _ _ => trivial)
    (fun _ r _ => Hub.editorAdded_drop number r) rs trivial

theorem Listeners.entries_dropsOn {number : Nat} (rs : List Registration) (l : Listeners Handler) :
    (rs.foldl (Listeners.dropOn number) l).entries =
      l.entries.filter fun e => .willSave number e.1 ∉ rs :=
  entries_foldl (P := fun _ => True) (fun l : Listeners Handler => l.entries) _
    (fun _ _ _ => trivial) (fun l r _ => Listeners.entries_dropOn number l r) rs trivial

@[simp] theorem Hub.nextToken_drops {number : Nat} (rs : List Registration) (h : Hub) :
    (rs.foldl (Hub.drop number) h).commands.nextToken = h.commands.nextToken :=
  foldl_leaves (fun h : Hub => h.commands.nextToken) (fun _ => Hub.nextToken_drop number) rs h

@[simp] theorem Hub.lastNumber_drops {number : Nat} (rs : List Registration) (h : Hub) :
    (rs.foldl (Hub.drop number) h).editorAdded.lastNumber = h.editorAdded.lastNumber :=
  foldl_leaves (fun h : Hub => h.editorAdded.lastNumber) (fun _ => Hub.lastNumber_drop number) rs h

@[simp] theorem Listeners.lastNumber_dropsOn {number : Nat} (rs : List Registration)
    (l : Listeners Handler) :
    (rs.foldl (Listeners.dropOn number) l).lastNumber = l.lastNumber :=
  foldl_leaves Listeners.lastNumber (Listeners.lastNumber_dropOn number) rs l

theorem Hub.drops_empty (number : Nat) (rs : List Registration) :
    rs.foldl (Hub.drop number) {} = {} := by
  refine List.foldl_fixed' (fun r => ?_) rs
  cases r with
  | command | editorAdded =>
    simp only [Hub.drop]
    split <;> rfl
  | willSave | didStop => rfl

theorem Listeners.dropsOn_empty (number : Nat) (rs : List Registration) :
    rs.foldl (Listeners.dropOn number) {} = {} := by
  refine List.foldl_fixed' (fun r => ?_) rs
  cases r with
  | willSave =>
    simp only [Listeners.dropOn]
    split <;> rfl
  | command | editorAdded | didStop => rfl

/-! ## The registries of a session -/

/-- The registries of a session, and the registrations that the extension keeps: those of its
activations, those on editors under the addresses of their documents, and those on clients. -/
structure Registry where
  hubs : List Hub
  willSave : List (Listeners Handler)
  ofActivation : List Registration
  onEditors : Keyed Registration
  onClients : List Registration

/-- The registries of a session. -/
def Session.registry (s : Session) : Registry where
  hubs := s.hubs
  willSave := s.editors.map Editor.willSave
  ofActivation := s.extension.registrations.items
  onEditors := s.extension.editorRegistrations
  onClients := s.extension.clientRegistrations.items

namespace Registry

/-- The commands of the hub with a number. -/
def commands (c : Registry) (hub : Nat) : Commands Handler := ((c.hubs[hub]?).getD {}).commands

/-- The listeners for added editors of the hub with a number. -/
def editorAdded (c : Registry) (hub : Nat) : Listeners Handler :=
  ((c.hubs[hub]?).getD {}).editorAdded

/-- The handlers that run before the editor with a number is saved. -/
def beforeSave (c : Registry) (editor : Nat) : Listeners Handler := (c.willSave[editor]?).getD {}

/-- All registrations that the extension keeps. -/
def kept (c : Registry) : List Registration :=
  c.ofActivation.reverse ++ (c.onEditors.map Prod.snd ++ c.onClients.reverse)

/-- A handler stands under a registration. -/
def Holds (c : Registry) (h : Handler) : Registration → Prop
  | .command hub id token => (id, token, h) ∈ (c.commands hub).entries
  | .editorAdded hub number => (number, h) ∈ (c.editorAdded hub).entries
  | .willSave editor number => (number, h) ∈ (c.beforeSave editor).entries
  | .didStop _ _ => False

/-- A registration was issued by its registry. -/
def Issued (c : Registry) : Registration → Prop
  | .command hub _ token => token < (c.commands hub).nextToken
  | .editorAdded hub number => number ≤ (c.editorAdded hub).lastNumber
  | .willSave editor number => number ≤ (c.beforeSave editor).lastNumber
  | .didStop _ _ => True

/-- The commands of every hub are sorted by their identifiers. -/
def Sorted (c : Registry) : Prop := ∀ hub, Keyed.Sorted (c.commands hub).entries

/-! ### Disposing -/

/-- Disposes of registrations in order. -/
def drops (c : Registry) (rs : List Registration) : Registry :=
  { c with
    hubs := c.hubs.mapIdx fun number h => rs.foldl (Hub.drop number) h
    willSave := c.willSave.mapIdx fun number l => rs.foldl (Listeners.dropOn number) l }

theorem drops_cons (c : Registry) (r : Registration) (rs : List Registration) :
    c.drops (r :: rs) = (c.drops [r]).drops rs := by
  simp only [drops, List.mapIdx_mapIdx]
  rfl

theorem drops_nil (c : Registry) : c.drops [] = c := by
  have hSame : ∀ {α : Type} (l : List α), (l.mapIdx fun _ a => a) = l := by
    intro α l
    apply List.ext_getElem?
    intro i
    rw [List.getElem?_mapIdx, Option.map_id']
  simp only [drops, List.foldl_nil, hSame]

theorem drops_append (c : Registry) (first second : List Registration) :
    (c.drops first).drops second = c.drops (first ++ second) := by
  simp only [drops, List.mapIdx_mapIdx, List.foldl_append]
  rfl

theorem getD_hubs_drops (c : Registry) (rs : List Registration) (hub : Nat) :
    ((c.drops rs).hubs[hub]?).getD {} = rs.foldl (Hub.drop hub) ((c.hubs[hub]?).getD {}) := by
  unfold drops
  rw [List.getElem?_mapIdx]
  cases c.hubs[hub]? with
  | none => exact (Hub.drops_empty hub rs).symm
  | some h => rfl

theorem beforeSave_drops (c : Registry) (rs : List Registration) (editor : Nat) :
    (c.drops rs).beforeSave editor = rs.foldl (Listeners.dropOn editor) (c.beforeSave editor) := by
  unfold beforeSave drops
  rw [List.getElem?_mapIdx]
  cases c.willSave[editor]? with
  | none => exact (Listeners.dropsOn_empty editor rs).symm
  | some l => rfl

theorem commands_drops {c : Registry} (hSorted : c.Sorted) (rs : List Registration) (hub : Nat) :
    ((c.drops rs).commands hub).entries =
      (c.commands hub).entries.filter fun e => .command hub e.1 e.2.1 ∉ rs := by
  unfold commands
  rw [getD_hubs_drops]
  exact Hub.commands_drops rs (hSorted hub)

theorem editorAdded_drops (c : Registry) (rs : List Registration) (hub : Nat) :
    ((c.drops rs).editorAdded hub).entries =
      (c.editorAdded hub).entries.filter fun e => .editorAdded hub e.1 ∉ rs := by
  unfold editorAdded
  rw [getD_hubs_drops]
  exact Hub.editorAdded_drops rs _

theorem Sorted.drops {c : Registry} (h : c.Sorted) (rs : List Registration) :
    (c.drops rs).Sorted := by
  intro hub
  rw [commands_drops h]
  exact Keyed.sorted_filter (h hub) _

/-- What stands after registrations were disposed of is what stood under others. -/
theorem holds_drops {c : Registry} (hSorted : c.Sorted) {rs : List Registration} {h : Handler}
    {r : Registration} : (c.drops rs).Holds h r ↔ c.Holds h r ∧ r ∉ rs := by
  cases r with
  | command hub id token => simp [Holds, commands_drops hSorted]
  | editorAdded hub number => simp [Holds, editorAdded_drops]
  | willSave editor number => simp [Holds, beforeSave_drops, Listeners.entries_dropsOn]
  | didStop client number => simp [Holds]

@[simp] theorem issued_drops {c : Registry} {rs : List Registration} {r : Registration} :
    (c.drops rs).Issued r ↔ c.Issued r := by
  cases r <;> simp [Issued, commands, editorAdded, getD_hubs_drops, beforeSave_drops]

/-! ### Adding -/

/-- A handler was added under a registration that was not issued before. -/
structure Adds (c : Registry) (h : Handler) (r : Registration) (c' : Registry) : Prop where
  unissued : ¬ c.Issued r
  issued : c'.Issued r
  mono : ∀ r', c.Issued r' → c'.Issued r'
  holds : ∀ h' r', c'.Holds h' r' → c.Holds h' r' ∨ h' = h ∧ r' = r
  sorted : c.Sorted → c'.Sorted

/-- What the extension keeps has no part in adding a handler. -/
theorem Adds.keep {c c' : Registry} {h : Handler} {r : Registration} (hAdds : c.Adds h r c')
    (ofActivation : List Registration) (onEditors : Keyed Registration)
    (onClients : List Registration) :
    c.Adds h r { c' with ofActivation, onEditors, onClients } :=
  ⟨hAdds.unissued, hAdds.issued, hAdds.mono, hAdds.holds, hAdds.sorted⟩

section

variable {c c' : Registry}

theorem adds_command {hub : Nat} {id : String} {h : Handler}
    (hCommands : ∀ i, c'.commands i =
      if hub = i then ((c.commands i).register id h).1 else c.commands i)
    (hAdded : c'.editorAdded = c.editorAdded) (hSave : c'.beforeSave = c.beforeSave) :
    c.Adds h (.command hub id (c.commands hub).nextToken) c' where
  unissued := Nat.lt_irrefl _
  issued := by simp [Issued, hCommands, Commands.register]
  mono r' hIssued := by
    cases r' with
    | command hub' id' token =>
      simp only [Issued, hCommands] at hIssued ⊢
      split
      · exact Nat.lt_succ_of_lt hIssued
      · exact hIssued
    | editorAdded | willSave => simpa only [Issued, hAdded, hSave] using hIssued
    | didStop => trivial
  holds h' r' hHolds := by
    cases r' with
    | command hub' id' token =>
      simp only [Holds, hCommands] at hHolds ⊢
      split at hHolds
      · rename_i hSame
        subst hSame
        rcases Keyed.mem_insert hHolds with hNew | hOld
        · cases hNew
          exact Or.inr ⟨rfl, rfl⟩
        · exact Or.inl hOld
      · exact Or.inl hHolds
    | editorAdded | willSave =>
      simp only [Holds, hAdded, hSave] at hHolds ⊢
      exact Or.inl hHolds
    | didStop => exact hHolds.elim
  sorted hSorted i := by
    rw [hCommands]
    split
    · exact Keyed.sorted_insert _ _ (hSorted i)
    · exact hSorted i

theorem adds_editorAdded {hub : Nat} {h : Handler} (hCommands : c'.commands = c.commands)
    (hAdded : ∀ i, c'.editorAdded i =
      if hub = i then ((c.editorAdded i).add h).1 else c.editorAdded i)
    (hSave : c'.beforeSave = c.beforeSave) :
    c.Adds h (.editorAdded hub ((c.editorAdded hub).add h).2) c' where
  unissued := Nat.not_succ_le_self _
  issued := by simp [Issued, hAdded, Listeners.add]
  mono r' hIssued := by
    cases r' with
    | editorAdded hub' number =>
      simp only [Issued, hAdded] at hIssued ⊢
      split
      · exact Nat.le_succ_of_le hIssued
      · exact hIssued
    | command | willSave => simpa only [Issued, hCommands, hSave] using hIssued
    | didStop => trivial
  holds h' r' hHolds := by
    cases r' with
    | editorAdded hub' number =>
      simp only [Holds, hAdded] at hHolds ⊢
      split at hHolds
      · rename_i hSame
        subst hSame
        exact (Listeners.mem_add hHolds).imp_right fun ⟨hSame, hNumber⟩ => ⟨hSame, hNumber ▸ rfl⟩
      · exact Or.inl hHolds
    | command | willSave =>
      simp only [Holds, hCommands, hSave] at hHolds ⊢
      exact Or.inl hHolds
    | didStop => exact hHolds.elim
  sorted hSorted i := by
    rw [hCommands]
    exact hSorted i

theorem adds_willSave {editor : Nat} {h : Handler} (hCommands : c'.commands = c.commands)
    (hAdded : c'.editorAdded = c.editorAdded)
    (hSave : ∀ i, c'.beforeSave i =
      if editor = i then ((c.beforeSave i).add h).1 else c.beforeSave i) :
    c.Adds h (.willSave editor ((c.beforeSave editor).add h).2) c' where
  unissued := Nat.not_succ_le_self _
  issued := by simp [Issued, hSave, Listeners.add]
  mono r' hIssued := by
    cases r' with
    | willSave editor' number =>
      simp only [Issued, hSave] at hIssued ⊢
      split
      · exact Nat.le_succ_of_le hIssued
      · exact hIssued
    | command | editorAdded => simpa only [Issued, hCommands, hAdded] using hIssued
    | didStop => trivial
  holds h' r' hHolds := by
    cases r' with
    | willSave editor' number =>
      simp only [Holds, hSave] at hHolds ⊢
      split at hHolds
      · rename_i hSame
        subst hSame
        exact (Listeners.mem_add hHolds).imp_right fun ⟨hSame, hNumber⟩ => ⟨hSame, hNumber ▸ rfl⟩
      · exact Or.inl hHolds
    | command | editorAdded =>
      simp only [Holds, hCommands, hAdded] at hHolds ⊢
      exact Or.inl hHolds
    | didStop => exact hHolds.elim
  sorted hSorted i := by
    rw [hCommands]
    exact hSorted i

end

/-! ## Whose handler is whose -/

/-- The extension keeps the registration of every handler of its own that stands in a registry, and of
no other. What stands and what is kept was issued, and only a command restarts the server. -/
structure Attributed (c : Registry) : Prop where
  hosted : Session.ownHub < c.hubs.length
  sorted : c.Sorted
  sortedEditors : Keyed.Sorted c.onEditors
  standing : ∀ h r, c.Holds h r → c.Issued r
  issued : ∀ r ∈ c.kept, c.Issued r
  own : ∀ h r, c.Holds h r → (h.isOwn = true ↔ r ∈ c.kept)
  restart : ∀ r, c.Holds (.own .restart) r → r.isCommand = true

section

variable {c c' : Registry}

/-- The extension adds a handler and keeps its registration. -/
theorem Attributed.addOwn (h : c.Attributed) {role : Role} {r : Registration}
    (hAdds : c.Adds (.own role) r c') (hHubs : c'.hubs.length = c.hubs.length)
    (hEditors : Keyed.Sorted c'.onEditors) (hKept : ∀ r', r' ∈ c'.kept ↔ r' ∈ c.kept ∨ r' = r)
    (hRole : role = .restart → r.isCommand = true) : c'.Attributed where
  hosted := hHubs ▸ h.hosted
  sorted := hAdds.sorted h.sorted
  sortedEditors := hEditors
  standing h' r' hHolds := by
    rcases hAdds.holds h' r' hHolds with hOld | ⟨-, rfl⟩
    · exact hAdds.mono r' (h.standing h' r' hOld)
    · exact hAdds.issued
  issued r' hr' := by
    rcases (hKept r').mp hr' with hOld | rfl
    · exact hAdds.mono r' (h.issued r' hOld)
    · exact hAdds.issued
  own h' r' hHolds := by
    rw [hKept]
    rcases hAdds.holds h' r' hHolds with hOld | ⟨rfl, rfl⟩
    · have hNew : r' ≠ r := by
        rintro rfl
        exact hAdds.unissued (h.standing h' r' hOld)
      rw [h.own h' r' hOld]
      exact (or_iff_left hNew).symm
    · exact ⟨fun _ => Or.inr rfl, fun _ => rfl⟩
  restart r' hHolds := by
    rcases hAdds.holds _ r' hHolds with hOld | ⟨hSame, rfl⟩
    · exact h.restart r' hOld
    · exact hRole (Handler.own.inj hSame).symm

/-- Someone else adds a handler. -/
theorem Attributed.addOther (h : c.Attributed) {other : Nat} {r : Registration}
    (hAdds : c.Adds (.other other) r c') (hHubs : c'.hubs.length = c.hubs.length)
    (hEditors : c'.onEditors = c.onEditors) (hKept : c'.kept = c.kept) : c'.Attributed where
  hosted := hHubs ▸ h.hosted
  sorted := hAdds.sorted h.sorted
  sortedEditors := hEditors ▸ h.sortedEditors
  standing h' r' hHolds := by
    rcases hAdds.holds h' r' hHolds with hOld | ⟨-, rfl⟩
    · exact hAdds.mono r' (h.standing h' r' hOld)
    · exact hAdds.issued
  issued r' hr' := hAdds.mono r' (h.issued r' (hKept ▸ hr'))
  own h' r' hHolds := by
    rw [hKept]
    rcases hAdds.holds h' r' hHolds with hOld | ⟨rfl, rfl⟩
    · exact h.own h' r' hOld
    · refine ⟨nofun, fun hMem => ?_⟩
      exact absurd (h.issued r' hMem) hAdds.unissued
  restart r' hHolds := by
    rcases hAdds.holds _ r' hHolds with hOld | ⟨hSame, -⟩
    · exact h.restart r' hOld
    · cases hSame

/-- Registrations are disposed of, and the extension keeps no more than before and all others. -/
theorem Attributed.release (h : c.Attributed) (rs : List Registration)
    (hHubs : c'.hubs = (c.drops rs).hubs) (hSave : c'.willSave = (c.drops rs).willSave)
    (hEditors : Keyed.Sorted c'.onEditors) (hSub : ∀ r ∈ c'.kept, r ∈ c.kept)
    (hKept : ∀ r ∈ c.kept, r ∉ rs → r ∈ c'.kept) : c'.Attributed := by
  have hHolds : ∀ h' r', c'.Holds h' r' → c.Holds h' r' ∧ r' ∉ rs := by
    intro h' r' hHolds
    refine (holds_drops h.sorted).mp ?_
    cases r' with
    | didStop => exact hHolds.elim
    | _ => simpa only [Holds, commands, editorAdded, beforeSave, hHubs, hSave] using hHolds
  have hIssued : ∀ r, c'.Issued r ↔ c.Issued r := by
    intro r
    have hDrops : (c.drops rs).Issued r ↔ c.Issued r := issued_drops
    rw [← hDrops]
    cases r <;> simp only [Issued, commands, editorAdded, beforeSave, hHubs, hSave]
  refine ⟨?_, ?_, hEditors, ?_, ?_, ?_, ?_⟩
  · rw [hHubs]
    exact (List.length_mapIdx (l := c.hubs)).symm ▸ h.hosted
  · intro hub
    unfold commands
    rw [hHubs]
    exact h.sorted.drops rs hub
  · intro h' r' hr'
    exact (hIssued r').mpr (h.standing h' r' (hHolds h' r' hr').1)
  · intro r' hr'
    exact (hIssued r').mpr (h.issued r' (hSub r' hr'))
  · intro h' r' hr'
    obtain ⟨hOld, hOther⟩ := hHolds h' r' hr'
    rw [h.own h' r' hOld]
    exact ⟨fun hMem => hKept r' hMem hOther, hSub r'⟩
  · intro r' hr'
    exact h.restart r' (hHolds _ r' hr').1

end

/-! ### What the extension keeps -/

/-- The registries after a deactivation: all that was kept is disposed of. -/
def cleared (c : Registry) : Registry :=
  { c with ofActivation := [], onEditors := [], onClients := [] }.drops c.kept

/-- The extension disposes of all its registrations on clients. -/
theorem Attributed.releaseClients {c : Registry} (h : c.Attributed) :
    ({ c with onClients := [] }.drops c.onClients.reverse).Attributed := by
  refine h.release c.onClients.reverse rfl rfl h.sortedEditors ?_ ?_
  · intro r hr
    simp only [kept, drops, List.reverse_nil, List.append_nil] at hr ⊢
    grind
  · intro r hr hOther
    simp only [kept, drops, List.reverse_nil, List.append_nil] at hr ⊢
    grind

theorem Attributed.cleared {c : Registry} (h : c.Attributed) : c.cleared.Attributed := by
  refine h.release c.kept rfl rfl List.Pairwise.nil ?_ fun r hr hOther => absurd hr hOther
  intro r hr
  cases hr

/-- The extension keeps the registration of a listener on a client. -/
theorem Attributed.listens {c : Registry} (h : c.Attributed) {r : Registration}
    (hr : r.isDidStop = true) : { c with onClients := c.onClients ++ [r] }.Attributed where
  hosted := h.hosted
  sorted := h.sorted
  sortedEditors := h.sortedEditors
  standing := h.standing
  issued r' hr' := by
    have hKept : r' ∈ c.kept ∨ r' = r := by
      simp only [kept, List.reverse_append] at hr' ⊢
      grind
    rcases hKept with hOld | rfl
    · exact h.issued r' hOld
    · cases r' with
      | didStop => trivial
      | _ => cases hr
  own h' r' hHolds := by
    have hNew : r' ≠ r := by
      rintro rfl
      cases r' with
      | didStop => exact hHolds.elim
      | _ => cases hr
    rw [h.own h' r' hHolds]
    simp only [kept, List.reverse_append]
    grind
  restart := h.restart

theorem mem_kept_add (c : Registry) (r r' : Registration) :
    r' ∈ { c with ofActivation := c.ofActivation ++ [r] }.kept ↔ r' ∈ c.kept ∨ r' = r := by
  simp only [kept, List.reverse_append, List.mem_append, List.reverse_singleton,
    List.mem_singleton]
  tauto

/-- The registrations on editors when one takes the place of the one under an address. -/
theorem mem_insert_onEditors {onEditors : Keyed Registration} (h : Keyed.Sorted onEditors)
    (uri : String) (r r' : Registration) :
    r' ∈ (Keyed.find? uri onEditors).toList ∨ r' ∈ (Keyed.insert uri r onEditors).map Prod.snd ↔
      r' ∈ onEditors.map Prod.snd ∨ r' = r := by
  simp only [List.mem_map, Keyed.mem_insert_iff h, Option.mem_toList]
  constructor
  · rintro (hFound | ⟨p, rfl | ⟨hp, -⟩, rfl⟩)
    · exact Or.inl ⟨_, Keyed.mem_of_find? hFound, rfl⟩
    · exact Or.inr rfl
    · exact Or.inl ⟨p, hp, rfl⟩
  · rintro (⟨⟨key, r'⟩, hp, rfl⟩ | rfl)
    · by_cases hKey : key = uri
      · subst hKey
        exact Or.inl (Keyed.find?_of_mem h hp)
      · exact Or.inr ⟨_, Or.inr ⟨hp, hKey⟩, rfl⟩
    · exact Or.inr ⟨_, Or.inl rfl, rfl⟩

/-- The extension adds a handler that runs before an editor is saved, keeps its registration under the
address of the document and disposes of the one that it kept there. -/
theorem Attributed.watches {c c' : Registry} (h : c.Attributed) (uri : String) {r : Registration}
    (hAdds : c.Adds (.own .formatDocument) r c') (hHubs : c'.hubs.length = c.hubs.length)
    (hActivation : c'.ofActivation = c.ofActivation) (hClients : c'.onClients = c.onClients) :
    ({ c' with onEditors := Keyed.insert uri r c.onEditors }.drops
      (Keyed.find? uri c.onEditors).toList).Attributed := by
  -- In between the extension keeps both registrations under the address.
  let between : Registry := { c' with
    ofActivation := c'.ofActivation ++ (Keyed.find? uri c.onEditors).toList
    onEditors := Keyed.insert uri r c.onEditors }
  have hMem : ∀ r', r' ∈ between.kept ↔
      r' ∈ { c' with onEditors := Keyed.insert uri r c.onEditors }.kept ∨
        r' ∈ (Keyed.find? uri c.onEditors).toList := by
    intro r'
    simp only [between, kept, List.reverse_append, List.mem_append, List.mem_reverse]
    tauto
  have hKept : ∀ r', r' ∈ between.kept ↔ r' ∈ c.kept ∨ r' = r := by
    intro r'
    have hInserted := mem_insert_onEditors h.sortedEditors uri r r'
    rw [hMem]
    simp only [kept, hActivation, hClients, List.mem_append]
    tauto
  have hBetween : between.Attributed := by
    refine h.addOwn (hAdds.keep _ _ _) hHubs ?_ hKept nofun
    exact Keyed.sorted_insert uri r h.sortedEditors
  refine hBetween.release _ rfl rfl hBetween.sortedEditors ?_ ?_
  · exact fun r' hr' => (hMem r').mpr (Or.inl hr')
  · exact fun r' hr' hOther => ((hMem r').mp hr').resolve_right hOther

end Registry

end ExtensionHost
