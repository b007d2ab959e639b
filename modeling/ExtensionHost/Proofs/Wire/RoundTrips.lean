import ExtensionHost.Wire.Answers
import ExtensionHost.Wire.Options
import ExtensionHost.Wire.Position

/-!
# Values on the wire and back

What is sent is an object with a member for each field. What is received may have its members in any
order and others between them, may be an array of the fields, and may leave out fields that have a default.
All of these are decoded to values that are encoded in the one way and decoded again to themselves
(`wire_roundTrips`). One value is not told apart on the wire: initialization options that are null come back
as none (`ClientOptions.decode_encode`).
-/

namespace ExtensionHost

namespace Decoder

variable {α : Type} {encode : α → Json} {decode : Decoder α}

/-! ## Decoders of parts -/

/-- Every value is decoded from its encoding. -/
def Inverts (decode : Decoder α) (encode : α → Json) : Prop := ∀ a, decode (encode a) = .ok a

theorem inverts_word32 : Inverts word32 Json.word32 := by
  intro n
  have hSize : n.toNat < UInt32.size := n.toNat_lt_size
  have hRange : (0 : Int) ≤ n.toNat ∧ (n.toNat : Int).toNat < UInt32.size := by omega
  rw [Json.word32, Json.nat, Json.int, word32, if_pos hRange, Int.toNat_natCast, UInt32.ofNat_toNat]

theorem inverts_string : Inverts string .string := fun _ => rfl

theorem inverts_path : Inverts path .string := fun _ => rfl

theorem inverts_bool : Inverts bool .bool := fun _ => rfl

theorem Inverts.list (h : Inverts decode encode) :
    Inverts (Decoder.list decode) fun as => .array (as.map encode) := by
  intro as
  change (as.map encode).mapM decode = .ok as
  induction as with
  | nil => rfl
  | cons a rest ih =>
    rw [List.map_cons, List.mapM_cons, h a, ih]
    rfl

theorem Inverts.keyed (h : Inverts decode encode) :
    Inverts (Decoder.keyed decode) fun entries => .object (entries.map fun (key, a) => (key, encode a)) := by
  intro entries
  change members decode (entries.map fun (key, a) => (key, encode a)) = .ok entries
  induction entries with
  | nil => rfl
  | cons entry rest ih =>
    rw [List.map_cons, members, h entry.2, ih]
    rfl

/-- A member under a key is decoded, whatever other members there are. -/
theorem Inverts.field? (h : Inverts decode encode) {entries : List (String × Json)} {key : String} {a : α}
    (hFound : Keyed.find? key entries = some (encode a)) :
    Decoder.field? entries key decode = .ok (some a) := by
  rw [Decoder.field?, hFound]
  dsimp only
  rw [h a]
  rfl

/-- A value that may be null is present if it is not null. -/
theorem optional_any (v : Json) : optional any v = .ok (Json.present? (some v)) := by
  cases v <;> rfl

theorem field?_optional_any (entries : List (String × Json)) (key : String) :
    Decoder.field? entries key (optional any) =
      .ok ((Keyed.find? key entries).map fun v => Json.present? (some v)) := by
  unfold Decoder.field?
  cases Keyed.find? key entries with
  | none => rfl
  | some v =>
    dsimp only
    rw [optional_any]
    rfl

theorem exists_present?_of_element {what : String} {items : List Json} {i : Nat} {o : Option Json}
    (h : element what items i (optional any) = .ok o) : ∃ v, o = Json.present? v := by
  unfold element at h
  split at h
  · cases h
  · rw [optional_any] at h
    cases h
    exact ⟨_, rfl⟩

theorem Inverts.optional (h : Inverts decode encode) (hNull : ∀ a, encode a ≠ .null) :
    Inverts (Decoder.optional decode) (Json.ofOption encode) := by
  intro o
  cases o with
  | none => rfl
  | some a =>
    have hValue := h a
    change Decoder.optional decode (encode a) = .ok (some a)
    cases hEncoded : encode a with
    | null => exact absurd hEncoded (hNull a)
    | _ =>
      rw [hEncoded] at hValue
      rw [Decoder.optional, hValue]
      · rfl
      · exact nofun

end Decoder

open Decoder

/-! ## Records -/

section

variable {entries : List (String × Json)}

theorem Position.decode_members {p : Position}
    (hLine : Keyed.find? "line" entries = some (.word32 p.line))
    (hCharacter : Keyed.find? "character" entries = some (.word32 p.character)) :
    decode (.object entries) = .ok p := by
  change ofMembers entries = .ok p
  rw [ofMembers, inverts_word32.field? hLine, inverts_word32.field? hCharacter]
  rfl

theorem Position.inverts : Inverts decode encode := fun _ => decode_members rfl rfl

theorem Range.decode_members {r : Range} (hStart : Keyed.find? "start" entries = some r.start.encode)
    (hStop : Keyed.find? "end" entries = some r.stop.encode) : decode (.object entries) = .ok r := by
  change ofMembers entries = .ok r
  rw [ofMembers, Position.inverts.field? hStart, Position.inverts.field? hStop]
  rfl

theorem Range.inverts : Inverts decode encode := fun _ => decode_members rfl rfl

theorem Location.decode_members {l : Location} (hUri : Keyed.find? "uri" entries = some (.string l.uri))
    (hRange : Keyed.find? "range" entries = some l.range.encode) : decode (.object entries) = .ok l := by
  change ofMembers entries = .ok l
  rw [ofMembers, inverts_string.field? hUri, Range.inverts.field? hRange]
  rfl

theorem Location.inverts : Inverts decode encode := fun _ => decode_members rfl rfl

theorem TextEdit.decode_members {e : TextEdit}
    (hRange : Keyed.find? "range" entries = some e.range.encode)
    (hText : Keyed.find? "newText" entries = some (.string e.newText)) :
    decode (.object entries) = .ok e := by
  change ofMembers entries = .ok e
  rw [ofMembers, Range.inverts.field? hRange, inverts_string.field? hText]
  rfl

theorem TextEdit.inverts : Inverts decode encode := fun _ => decode_members rfl rfl

theorem FormattingOptions.decode_members {o : FormattingOptions}
    (hTab : Keyed.find? "tabSize" entries = some (.word32 o.tabSize))
    (hSpaces : Keyed.find? "insertSpaces" entries = some (.bool o.insertSpaces)) :
    decode (.object entries) = .ok o := by
  change ofMembers entries = .ok o
  rw [ofMembers, inverts_word32.field? hTab, inverts_bool.field? hSpaces]
  rfl

theorem FormattingOptions.inverts : Inverts decode encode := fun _ => decode_members rfl rfl

theorem Transport.inverts : Inverts decode encode := by
  intro t
  cases t <;> rfl

theorem ServerOptions.decode_members {o : ServerOptions}
    (hTransport : Keyed.find? "type" entries = some o.transport.encode)
    (hPath : Keyed.find? "path" entries = some (.string o.path))
    (hArgs : Keyed.find? "args" entries = some (.array (o.args.map .string)))
    (hEnv : Keyed.find? "env" entries =
      some (.object (o.env.map fun (key, value) => (key, .string value)))) :
    decode (.object entries) = .ok o := by
  change ofMembers entries = .ok o
  rw [ofMembers, inverts_string.list.field? hArgs, inverts_string.keyed.field? hEnv,
    inverts_path.field? hPath, Transport.inverts.field? hTransport]
  rfl

theorem ServerOptions.inverts : Inverts decode encode := fun _ => decode_members rfl rfl rfl rfl

/-! ## Options of a client -/

/-- What a client is for as it is told apart on the wire: without initialization options that are null. -/
def ClientOptions.told (o : ClientOptions) : ClientOptions :=
  { o with initializationOptions := Json.present? o.initializationOptions }

theorem ClientOptions.decode_members {o : ClientOptions}
    (hInit : Keyed.find? "initializationOptions" entries = some (.ofOption id o.initializationOptions))
    (hRoot : Keyed.find? "rootPath" entries = some (.ofOption .string o.rootPath))
    (hSyntaxes : Keyed.find? "syntaxes" entries = some (.array (o.syntaxes.map .string))) :
    decode (.object entries) = .ok o.told := by
  have hPath : Inverts (optional path) (Json.ofOption .string) := inverts_path.optional nofun
  have hTold : Json.present? (some (.ofOption id o.initializationOptions)) =
      Json.present? o.initializationOptions := by
    cases o.initializationOptions <;> rfl
  change ofMembers entries = .ok o.told
  rw [ofMembers, field?_optional_any, hInit, hPath.field? hRoot, inverts_string.list.field? hSyntaxes,
    Option.map_some, hTold]
  rfl

theorem ClientOptions.decode_encode (o : ClientOptions) : decode o.encode = .ok o.told :=
  decode_members rfl rfl rfl

/-- Initialization options that were decoded are not null. -/
theorem ClientOptions.told_of_decode {v : Json} {o : ClientOptions} (h : decode v = .ok o) :
    o.told = o := by
  have hPresent : ∀ v, Json.present? (Json.present? v) = Json.present? v := by
    intro v
    simp [Json.present?, Option.filter_filter]
  suffices hInit : ∃ v, o.initializationOptions = Json.present? v by
    obtain ⟨v, hInit⟩ := hInit
    rw [told, hInit, hPresent, ← hInit]
  cases v with
  | object entries =>
    change ofMembers entries = .ok o at h
    simp only [ofMembers, field?_optional_any, bind, Except.bind] at h
    split at h
    · cases h
    · split at h
      · cases h
      · split at h
        · cases h
        · cases h
          cases Keyed.find? "initializationOptions" entries with
          | none => exact ⟨none, rfl⟩
          | some v => exact ⟨some v, rfl⟩
  | array items =>
    change ofItems items = .ok o at h
    simp only [ofItems, bind, Except.bind] at h
    split at h
    · cases h
    · split at h
      · cases h
      · rename_i hElement
        split at h
        · cases h
        · split at h
          · cases h
          · cases h
            exact exists_present?_of_element hElement
  | _ => cases h

/-! ## The main statement -/

/-- What is encoded is decoded again, but for values that get lost, and what was decoded from any value is
decoded again from the one way in which it is encoded. -/
structure RoundTrips {α : Type} (encode : α → Json) (decode : Decoder α) (Lost : α → Prop) : Prop where
  encoded : ∀ a, ¬ Lost a → decode (encode a) = .ok a
  decoded : ∀ v a, decode v = .ok a → decode (encode a) = .ok a
  recoded : ∀ v w, (decode v).map encode = .ok w → (decode w).map encode = .ok w

theorem RoundTrips.of_decoded {α : Type} {encode : α → Json} {decode : Decoder α} {Lost : α → Prop}
    (hEncoded : ∀ a, ¬ Lost a → decode (encode a) = .ok a)
    (hDecoded : ∀ v a, decode v = .ok a → decode (encode a) = .ok a) :
    RoundTrips encode decode Lost where
  encoded := hEncoded
  decoded := hDecoded
  recoded := by
    intro v w h
    cases hValue : decode v with
    | error e =>
      rw [hValue] at h
      cases h
    | ok a =>
      rw [hValue] at h
      cases h
      rw [hDecoded v a hValue]
      rfl

theorem Decoder.Inverts.roundTrips {α : Type} {encode : α → Json} {decode : Decoder α}
    (h : Inverts decode encode) : RoundTrips encode decode fun _ => False :=
  .of_decoded (fun a _ => h a) fun _ a _ => h a

theorem ClientOptions.roundTrips :
    RoundTrips encode decode fun o => o.initializationOptions = some .null := by
  refine .of_decoded ?_ ?_
  · intro o hKept
    have hTold : o.told = o := by
      obtain ⟨syntaxes, init, root⟩ := o
      cases init with
      | none => rfl
      | some v => cases v <;> first | rfl | exact absurd rfl hKept
    rw [decode_encode, hTold]
  · intro v o hDecoded
    rw [decode_encode, told_of_decode hDecoded]

/-- **Values on the wire are decoded as they were encoded**, and values that are decoded, in whatever form
they came, are encoded in one way that is decoded as before. Only initialization options that are null get
lost. So a list of locations or of text edits that a server sends is read as that list. -/
theorem wire_roundTrips :
    RoundTrips Position.encode Position.decode (fun _ => False) ∧
      RoundTrips Range.encode Range.decode (fun _ => False) ∧
      RoundTrips Location.encode Location.decode (fun _ => False) ∧
      RoundTrips TextEdit.encode TextEdit.decode (fun _ => False) ∧
      RoundTrips FormattingOptions.encode FormattingOptions.decode (fun _ => False) ∧
      RoundTrips Transport.encode Transport.decode (fun _ => False) ∧
      RoundTrips ServerOptions.encode ServerOptions.decode (fun _ => False) ∧
      RoundTrips ClientOptions.encode ClientOptions.decode (·.initializationOptions = some .null) ∧
      (∀ o : ClientOptions,
        ClientOptions.decode { o with initializationOptions := some .null }.encode =
          .ok { o with initializationOptions := none }) ∧
      (∀ edits : List TextEdit, parseTextEdits (.array (edits.map TextEdit.encode)) = .ok edits) ∧
      (∀ locations : List Location,
        parseLocations (.array (locations.map Location.encode)) = .ok locations) := by
  refine ⟨Position.inverts.roundTrips, Range.inverts.roundTrips, Location.inverts.roundTrips,
    TextEdit.inverts.roundTrips, FormattingOptions.inverts.roundTrips, Transport.inverts.roundTrips,
    ServerOptions.inverts.roundTrips, ClientOptions.roundTrips, ?_, ?_, ?_⟩
  · intro o
    exact ClientOptions.decode_encode { o with initializationOptions := some .null }
  · intro edits
    rw [parseTextEdits, TextEdit.inverts.list edits]
    · rfl
    · exact nofun
  · intro locations
    rw [parseLocations, Location.inverts.list locations]
    rfl

end

end ExtensionHost
