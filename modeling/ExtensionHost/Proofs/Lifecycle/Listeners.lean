import ExtensionHost.Proofs.Lifecycle.Core

/-!
# Listeners on clients

The extension listens to the client that it starts, and keeps the registration of every listener that it
has (`Core.Tracked`). Whatever disposes of the registrations that it keeps therefore leaves no listener
(`Core.Unheard`), and a client that is made afterwards is the only one that is heard (`Core.HeardFrom`).
-/

namespace ExtensionHost.Core

/-! ## Taking listeners away -/

@[simp] theorem length_dropListener (clients : List ClientRecord) (r : Registration) :
    (dropListener clients r).length = clients.length := by
  cases r <;> simp [dropListener]

@[simp] theorem length_dropListeners (rs : List Registration) (clients : List ClientRecord) :
    (rs.foldl dropListener clients).length = clients.length := by
  induction rs generalizing clients with
  | nil => rfl
  | cons r rs ih => rw [List.foldl_cons, ih, length_dropListener]

theorem mem_entriesAt_drop {clients : List ClientRecord} {r : Registration} {client : Nat}
    {entry : Nat × Unit} :
    entry ∈ entriesAt (dropListener clients r) client ↔
      entry ∈ entriesAt clients client ∧ r ≠ .didStop client entry.1 := by
  cases r with
  | didStop other number =>
    by_cases hClient : other = client
    · subst hClient
      simp only [entriesAt, dropListener, List.getElem?_modify_eq]
      cases clients[other]? with
      | none => simp
      | some record => simpa [Listeners.remove] using fun _ => ne_comm
    · simp [entriesAt, dropListener, hClient]
  | _ => simp [dropListener]

theorem mem_entriesAt_drops {rs : List Registration} {clients : List ClientRecord} {client : Nat}
    {entry : Nat × Unit} :
    entry ∈ entriesAt (rs.foldl dropListener clients) client ↔
      entry ∈ entriesAt clients client ∧ .didStop client entry.1 ∉ rs := by
  induction rs generalizing clients with
  | nil => simp
  | cons r rs ih =>
    rw [List.foldl_cons, ih, mem_entriesAt_drop, List.mem_cons, not_or, and_assoc, ne_comm]

theorem entriesAt_made (clients : List ClientRecord) (client : Nat) :
    entriesAt (clients ++ [({} : ClientRecord)]) client = entriesAt clients client := by
  unfold entriesAt
  rcases Nat.lt_trichotomy client clients.length with h | h | h
  · rw [List.getElem?_append_left h]
  · subst h
    simp
  · rw [List.getElem?_eq_none (by simp; omega), List.getElem?_eq_none (by omega)]

/-! ## Who is heard -/

/-- The extension keeps the registration of every listener that it has on a client. -/
def Tracked (k : Core) : Prop :=
  ∀ client, ∀ entry ∈ k.listeners client,
    .didStop client entry.1 ∈ k.extension.clientRegistrations.items

/-- No listener of the extension is on any client. -/
def Unheard (k : Core) : Prop := ∀ client, k.listeners client = []

/-- One client has exactly one listener of the extension, and no other client has any. -/
def HeardFrom (k : Core) (client : Nat) : Prop :=
  (k.listeners client).length = 1 ∧ ∀ other, other ≠ client → k.listeners other = []

/-- The client that is held, the listeners on it and the phase are as before. -/
structure Keeps (k k' : Core) : Prop where
  slot : k'.extension.slot = k.extension.slot
  phase : k'.extension.phase = k.extension.phase
  listeners : ∀ client ∈ k.extension.slot, k'.listeners client = k.listeners client

theorem Unheard.tracked {k : Core} (hUnheard : k.Unheard) : k.Tracked := by
  intro client entry hEntry
  rw [hUnheard client] at hEntry
  cases hEntry

theorem Tracked.unheard_clear {k : Core} (hTracked : k.Tracked) : k.clear.Unheard := by
  intro client
  refine List.eq_nil_iff_forall_not_mem.mpr ?_
  intro entry hEntry
  obtain ⟨hMem, hKept⟩ := mem_entriesAt_drops.mp hEntry
  exact hKept (List.mem_reverse.mpr (hTracked client entry hMem))

theorem listeners_listen_self (k : Core) {client : Nat} (hClient : client < k.clients.length) :
    ∃ number, (k.listen client).listeners client = k.listeners client ++ [(number, ())] ∧
      .didStop client number ∈ (k.listen client).extension.clientRegistrations.items := by
  refine ⟨(((k.clients[client]?).getD {}).didStop.add ()).2, ?_, ?_⟩
  · simp [listeners, entriesAt, listen, hClient, Listeners.add]
  · simp [listen, Composite.add]

theorem listeners_listen_ne {k : Core} {client other : Nat} (hOther : other ≠ client) :
    (k.listen client).listeners other = k.listeners other := by
  simp [listeners, entriesAt, listen, Ne.symm hOther]

theorem Tracked.heardFrom_enroll {k : Core} (hTracked : k.Tracked) :
    k.enroll.HeardFrom k.clients.length ∧ k.enroll.Tracked := by
  have hMade : ({ k with clients := k.clients ++ [({} : ClientRecord)] } : Core).Tracked := by
    intro client entry hEntry
    refine hTracked client entry ?_
    rw [listeners, entriesAt_made] at hEntry
    exact hEntry
  have hCleared := hMade.unheard_clear
  have hLength : k.clients.length <
      ({ k with clients := k.clients ++ [({} : ClientRecord)] } : Core).clear.clients.length := by
    rw [clear, length_dropListeners, List.length_append]
    exact Nat.lt_succ_self _
  obtain ⟨number, hSelf, hKept⟩ := listeners_listen_self _ hLength
  rw [hCleared] at hSelf
  have hOthers : ∀ other, other ≠ k.clients.length → k.enroll.listeners other = [] := by
    intro other hOther
    rw [enroll, listeners_listen_ne hOther, hCleared]
  refine ⟨⟨?_, hOthers⟩, ?_⟩
  · rw [enroll, hSelf]
    rfl
  · intro client entry hEntry
    by_cases hClient : client = k.clients.length
    · subst hClient
      rw [enroll, hSelf, List.nil_append, List.mem_singleton] at hEntry
      subst hEntry
      exact hKept
    · rw [hOthers client hClient] at hEntry
      cases hEntry

theorem Tracked.retire {k : Core} (hTracked : k.Tracked) : k.retire.Tracked := by
  intro client entry hEntry
  exact hTracked client entry (mem_entriesAt_drops.mp (mem_entriesAt_drops.mp hEntry).1).1

end ExtensionHost.Core
