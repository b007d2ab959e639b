import ExtensionHost.Proofs.Rpc.Framing

/-!
# Streams that go on

The reader of frames asks for more bytes when it cannot decide yet. What it finds without asking it finds
whatever follows, and once the stream has ended it does not ask any more. So the frames that are read while
a stream goes on are those that `readAll` finds in the whole stream: `readAll_of_frame` and
`readAll_of_stop` take one step of this.
-/

namespace ExtensionHost.Rpc

/-! ## More bytes -/

/-- What was found at the front of a stream when more bytes follow. -/
def FrameStep.followedBy (more : List UInt8) : FrameStep → FrameStep
  | .frame body rest => .frame body (rest ++ more)
  | step => step

theorem nextLine?_append_of_some {bytes line rest : List UInt8} (h : nextLine? bytes = some (line, rest))
    (more : List UInt8) : nextLine? (bytes ++ more) = some (line, rest ++ more) := by
  induction bytes generalizing line rest with
  | nil => cases h
  | cons b bytes ih =>
    simp only [List.cons_append, nextLine?] at h ⊢
    split at h
    · cases h
      rw [if_pos ‹_›]
    · obtain ⟨⟨line, rest⟩, hNext, hLine⟩ := Option.map_eq_some_iff.mp h
      cases hLine
      rw [if_neg ‹_›, ih hNext, Option.map_some]

theorem readBody_append {length : Nat} {bytes : List UInt8}
    (h : readBody false length bytes ≠ .incomplete) (closed : Bool) (more : List UInt8) :
    readBody closed length (bytes ++ more) = (readBody false length bytes).followedBy more := by
  unfold readBody at h ⊢
  by_cases hBound : greatestBody < length
  · simp only [if_pos hBound]
    rfl
  by_cases hLong : length ≤ bytes.length
  · have hLonger : length ≤ (bytes ++ more).length := Nat.le_trans hLong (by simp)
    simp only [if_neg hBound, if_pos hLong, if_pos hLonger, FrameStep.followedBy,
      List.take_append_of_le_length hLong, List.drop_append_of_le_length hLong]
  · simp [hBound, hLong] at h

/-- What is found in a header block without asking for more is found whatever follows. -/
theorem readBlock_append {length : Nat} {bytes : List UInt8}
    (h : readBlock false length bytes ≠ .incomplete) (closed : Bool) (more : List UInt8) :
    readBlock closed length (bytes ++ more) = (readBlock false length bytes).followedBy more := by
  induction hSize : bytes.length using Nat.strongRecOn generalizing length bytes with
  | ind size ih =>
    cases hNext : nextLine? bytes with
    | none =>
      rw [readBlock_of_none hNext] at h
      exact absurd rfl h
    | some pair =>
      obtain ⟨line, rest⟩ := pair
      have hLess : rest.length < size := hSize ▸ length_of_nextLine? hNext
      rw [readBlock_of_some hNext] at h ⊢
      rw [readBlock_of_some (nextLine?_append_of_some hNext more)]
      cases hText : lineText line with
      | error e => rfl
      | ok text =>
        simp only [hText] at h ⊢
        by_cases hEmpty : isEmptyLine text
        · by_cases hLength : length = 0
          · simp only [if_pos hEmpty, if_pos hLength] at h ⊢
            exact ih _ hLess h rfl
          · simp only [if_pos hEmpty, if_neg hLength] at h ⊢
            exact readBody_append h closed more
        · simp only [if_neg hEmpty] at h ⊢
          cases hAfter : lengthAfter length text with
          | error e => rfl
          | ok length' =>
            simp only [hAfter] at h ⊢
            exact ih _ hLess h rfl

/-- **What is found without asking for more is found whatever follows.** -/
theorem readFrame_append {bytes : List UInt8} (h : readFrame false bytes ≠ .incomplete) (closed : Bool)
    (more : List UInt8) :
    readFrame closed (bytes ++ more) = (readFrame false bytes).followedBy more :=
  readBlock_append h closed more

/-! ## The end of a stream -/

theorem readLastLine_cases (length : Nat) (line : List UInt8) :
    readLastLine length line = .ended ∨ ∃ e, readLastLine length line = .failed e := by
  unfold readLastLine
  split
  · exact .inl rfl
  · exact .inr ⟨_, rfl⟩

theorem readBody_true_of_incomplete {length : Nat} {bytes : List UInt8}
    (h : readBody false length bytes = .incomplete) :
    readBody true length bytes = .failed .cutShort := by
  unfold readBody at h ⊢
  by_cases hBound : greatestBody < length
  · simp [hBound] at h
  by_cases hLong : length ≤ bytes.length
  · simp [hBound, hLong] at h
  · simp only [if_neg hBound, if_neg hLong, if_true]

theorem readBlock_true_of_incomplete {length : Nat} {bytes : List UInt8}
    (h : readBlock false length bytes = .incomplete) :
    readBlock true length bytes = .ended ∨ ∃ e, readBlock true length bytes = .failed e := by
  induction hSize : bytes.length using Nat.strongRecOn generalizing length bytes with
  | ind size ih =>
    cases hNext : nextLine? bytes with
    | none =>
      rw [readBlock_of_none hNext, if_pos rfl]
      exact readLastLine_cases length bytes
    | some pair =>
      obtain ⟨line, rest⟩ := pair
      have hLess : rest.length < size := hSize ▸ length_of_nextLine? hNext
      rw [readBlock_of_some hNext] at h ⊢
      cases hText : lineText line with
      | error e => simp [hText] at h
      | ok text =>
        simp only [hText] at h ⊢
        by_cases hEmpty : isEmptyLine text
        · by_cases hLength : length = 0
          · simp only [if_pos hEmpty, if_pos hLength] at h ⊢
            exact ih _ hLess h rfl
          · simp only [if_pos hEmpty, if_neg hLength] at h ⊢
            exact .inr ⟨.cutShort, readBody_true_of_incomplete h⟩
        · simp only [if_neg hEmpty] at h ⊢
          cases hAfter : lengthAfter length text with
          | error e => simp [hAfter] at h
          | ok length' =>
            simp only [hAfter] at h ⊢
            exact ih _ hLess h rfl

/-- A stream that has ended where the reader asks for more holds no further frame. -/
theorem readFrame_true_of_incomplete {bytes : List UInt8} (h : readFrame false bytes = .incomplete) :
    readFrame true bytes = .ended ∨ ∃ e, readFrame true bytes = .failed e :=
  readBlock_true_of_incomplete h

/-- The reader does not ask for more once the stream has ended. -/
theorem readFrame_true_ne_incomplete (bytes : List UInt8) : readFrame true bytes ≠ .incomplete := by
  by_cases hAsks : readFrame false bytes = .incomplete
  · rcases readFrame_true_of_incomplete hAsks with hEnded | ⟨e, hFailed⟩
    · simp [hEnded]
    · simp [hFailed]
  · have hSame := readFrame_append hAsks true []
    rw [List.append_nil] at hSame
    rw [hSame]
    cases hStep : readFrame false bytes with
    | incomplete => exact absurd hStep hAsks
    | _ => simp [FrameStep.followedBy]

/-! ## The whole stream -/

variable {isOpen : Bool} {bytes more : List UInt8}

/-- What is found at the front of a stream, whether it goes on or not, is found there in the whole. -/
theorem readFrame_whole (hMore : isOpen = false → more = [])
    (h : readFrame (!isOpen) bytes ≠ .incomplete) :
    readFrame true (bytes ++ more) = (readFrame (!isOpen) bytes).followedBy more := by
  cases isOpen with
  | false =>
    rw [hMore rfl, List.append_nil, Bool.not_false]
    cases readFrame true bytes <;> simp [FrameStep.followedBy]
  | true => exact readFrame_append h true more

theorem readAll_of_frame {body rest : List UInt8} (hMore : isOpen = false → more = [])
    (h : readFrame (!isOpen) bytes = .frame body rest) :
    readAll (bytes ++ more) =
      { readAll (rest ++ more) with bodies := body :: (readAll (rest ++ more)).bodies } := by
  refine readAll_frame ?_
  rw [readFrame_whole hMore (by simp [h]), h]
  rfl

theorem readAll_of_stop {stop : FrameStep} (hMore : isOpen = false → more = [])
    (h : readFrame (!isOpen) bytes = stop) (hFrame : ∀ body rest, stop ≠ .frame body rest)
    (hIncomplete : stop ≠ .incomplete) :
    readAll (bytes ++ more) = ⟨[], stop, bytes ++ more⟩ := by
  refine readAll_stop ?_ hFrame
  rw [readFrame_whole hMore (h ▸ hIncomplete), h]
  cases stop with
  | frame body rest => exact absurd rfl (hFrame body rest)
  | _ => rfl

/-! ## Streams without a header that announces too much -/

/-- What announces too much does so whatever follows. -/
theorem stop_append_of_tooLarge {bytes : List UInt8} (h : (readAll bytes).stop = .tooLarge)
    (more : List UInt8) : (readAll (bytes ++ more)).stop = .tooLarge := by
  induction hSize : bytes.length using Nat.strongRecOn generalizing bytes with
  | ind size ih =>
    have hNone : ∀ {stop}, readFrame true bytes = stop → (∀ body rest, stop ≠ .frame body rest) →
        stop = .tooLarge := by
      intro stop hStep hStop
      rwa [readAll_stop hStep hStop] at h
    cases hStep : readFrame false bytes with
    | incomplete =>
      rcases readFrame_true_of_incomplete hStep with hEnded | ⟨e, hFailed⟩
      · cases hNone hEnded fun _ _ => by simp
      · cases hNone hFailed fun _ _ => by simp
    | frame body rest =>
      have hAsks : readFrame false bytes ≠ .incomplete := by simp [hStep]
      have hFrame := readFrame_append hAsks true
      rw [hStep] at hFrame
      have hRest : (readAll rest).stop = .tooLarge := by
        have hEnd := hFrame []
        rw [List.append_nil, FrameStep.followedBy, List.append_nil] at hEnd
        rwa [readAll_frame hEnd] at h
      rw [readAll_frame (hFrame more)]
      exact ih _ (hSize ▸ length_of_readFrame hStep) hRest rfl
    | tooLarge | ended | failed =>
      have hAsks : readFrame false bytes ≠ .incomplete := by simp [hStep]
      have hStop := readFrame_append hAsks true
      rw [hStep] at hStop
      have hEnd := hStop []
      rw [List.append_nil] at hEnd
      have hSame := hNone hEnd fun _ _ => by simp [FrameStep.followedBy]
      rw [readAll_stop (hStop more) fun _ _ => by simp [FrameStep.followedBy]]
      exact hSame

/-- **Frames that are cut off anywhere** do not announce more than memory is asked for. -/
theorem stop_ne_tooLarge_of_frames {bytes : List UInt8} {messages : List String}
    (hFits : ∀ message ∈ messages, Fits message) (h : bytes <+: frames messages) :
    (readAll bytes).stop ≠ .tooLarge := by
  obtain ⟨more, hMore⟩ := h
  intro hStop
  have hWhole := stop_append_of_tooLarge hStop more
  rw [hMore, readAll_frames hFits] at hWhole
  cases hWhole

end ExtensionHost.Rpc
