import ExtensionHost.Error
import ExtensionHost.Keyed

/-!
# Commands

Handlers under the identifiers of commands. A handler that is registered takes the place of the one
before it, and every registration gets a token of its own: taking away a registration that was replaced
changes nothing.
-/

namespace ExtensionHost

/-- Handlers under identifiers, each with the token of its registration. -/
structure Commands (α : Type) where
  nextToken : Nat := 0
  entries : Keyed (Nat × α) := []
  deriving Repr

namespace Commands

variable {α : Type}

/-- Registers a handler and gives the token of the registration. -/
def register (c : Commands α) (id : String) (handler : α) : Commands α × Nat :=
  (⟨c.nextToken + 1, Keyed.insert id (c.nextToken, handler) c.entries⟩, c.nextToken)

/-- Takes the registration with a token away, if it still holds its identifier. -/
def unregister (c : Commands α) (id : String) (token : Nat) : Commands α :=
  match Keyed.find? id c.entries with
  | some (held, _) =>
    if held = token then { c with entries := Keyed.erase id c.entries } else c
  | none => c

/-- The handler of a command. -/
def handler? (c : Commands α) (id : String) : Option α :=
  (Keyed.find? id c.entries).map Prod.snd

/-- Whether a command has a handler. -/
def contains (c : Commands α) (id : String) : Bool := Keyed.contains id c.entries

/-- The identifiers that have a handler, in increasing order. -/
def ids (c : Commands α) : List String := Keyed.keys c.entries

/-- The failure to find a command. -/
def notFound (id : String) : HostError := ⟨.notFound, "Command " ++ id⟩

/-- A registration is taken away by dropping the entry that has its identifier and its token. -/
theorem entries_unregister {c : Commands α} (h : Keyed.Sorted c.entries) (id : String)
    (token : Nat) :
    (c.unregister id token).entries =
      c.entries.filter fun e => ¬ (e.1 = id ∧ e.2.1 = token) := by
  have hSelf : (∀ e ∈ c.entries, e.1 = id → e.2.1 ≠ token) →
      c.entries.filter (fun e => ¬ (e.1 = id ∧ e.2.1 = token)) = c.entries := by
    intro hOther
    refine List.filter_eq_self.mpr fun e he => decide_eq_true ?_
    exact fun ⟨hId, hToken⟩ => hOther e he hId hToken
  unfold unregister
  cases hFound : Keyed.find? id c.entries with
  | none =>
    refine (hSelf ?_).symm
    rintro ⟨id', held⟩ he rfl
    rw [Keyed.find?_of_mem h he] at hFound
    cases hFound
  | some entry =>
    obtain ⟨held, handler⟩ := entry
    have hOnly : ∀ e ∈ c.entries, e.1 = id → e.2.1 = held := by
      rintro ⟨id', e⟩ he rfl
      rw [Keyed.find?_of_mem h he] at hFound
      exact congrArg Prod.fst (Option.some.inj hFound)
    by_cases hHeld : held = token
    · subst hHeld
      simp only [if_pos]
      rw [Keyed.erase_eq_filter h]
      refine List.filter_congr fun e he => decide_eq_decide.mpr ?_
      exact ⟨fun hId hBoth => hId hBoth.1, fun hNot hId => hNot ⟨hId, hOnly e he hId⟩⟩
    · simp only [if_neg hHeld]
      refine (hSelf ?_).symm
      intro e he hId hToken
      exact hHeld ((hOnly e he hId).symm.trans hToken)

theorem nextToken_unregister (c : Commands α) (id : String) (token : Nat) :
    (c.unregister id token).nextToken = c.nextToken := by
  unfold unregister
  split
  · split <;> rfl
  · rfl

/-- A registration that no entry has is taken away without a change. -/
theorem unregister_of_notMem {c : Commands α} {id : String} {token : Nat}
    (h : ∀ handler, (id, token, handler) ∉ c.entries) : c.unregister id token = c := by
  unfold unregister
  cases hFound : Keyed.find? id c.entries with
  | none => rfl
  | some entry =>
    obtain ⟨held, handler⟩ := entry
    refine if_neg ?_
    rintro rfl
    exact h handler (Keyed.mem_of_find? hFound)

theorem handler?_eq_some {c : Commands α} (h : Keyed.Sorted c.entries) {id : String} {handler : α} :
    c.handler? id = some handler ↔ ∃ token, (id, token, handler) ∈ c.entries := by
  unfold handler?
  constructor
  · intro hSome
    obtain ⟨⟨token, _⟩, hFound, rfl⟩ := Option.map_eq_some_iff.mp hSome
    exact ⟨token, Keyed.mem_of_find? hFound⟩
  · rintro ⟨token, hMem⟩
    rw [Keyed.find?_of_mem h hMem]
    rfl

theorem contains_eq_isSome (c : Commands α) (id : String) : c.contains id = (c.handler? id).isSome :=
  Option.isSome_map.symm

theorem mem_ids (c : Commands α) (id : String) : id ∈ c.ids ↔ c.contains id = true :=
  Keyed.mem_keys_iff id c.entries

end Commands

end ExtensionHost
