import Multiplex.Proofs.Handover

/-!
# Byte strings as frames

A byte string is cut into frames from its front (`Wiring.cut`): it either goes on with a frame whose
payload is a message, or it stops, at its end or at the first offence (`Stop`). `Parses` iterates
this; it has exactly one result for every byte string (`parses_total`, `Parses.unique`).

The reader cuts the same frames out of its buffer, whatever part of a frame it has read before
(`Link.consumes`).
-/

namespace Multiplex

variable {M : Type}

/-- Why no further message can be read from a byte string. -/
inductive Stop where
  /-- It ends between two frames. -/
  | boundary
  /-- It ends inside a length header. -/
  | header
  /-- It ends inside a payload of `length` bytes. -/
  | payload (length : Nat)
  /-- A length header cannot be read, or announces too much. -/
  | badLength (fault : WireError)
  /-- A payload is no message. -/
  | refused (payload : Bytes) (fault : WireError)
  /-- A payload crashes the codec. -/
  | crashed (payload : Bytes) (text : String)
  deriving DecidableEq

/-- The complete payload that reading stops at, if there is one. -/
def Stop.last : Stop → List Bytes
  | .refused bytes _ | .crashed bytes _ => [bytes]
  | _ => []

/-- Where a byte string stops that ends inside a part of a frame. -/
def Part.stop : Part → Stop
  | .boundary => .boundary
  | .header _ => .header
  | .payload length _ _ => .payload length

/-- How a byte string goes on: it stops, or there is the payload of a message and what comes after
it. -/
inductive Cut where
  | stops (stop : Stop)
  | frame (payload rest : Bytes)
  deriving DecidableEq

/-- The length that a header announces, unless it is above the limit for frames. -/
def Wiring.announced (wiring : Wiring M) (header : Bytes) : Except WireError Nat :=
  match wiring.framing.decode header with
  | .error fault => .error fault
  | .ok length =>
    if wiring.config.maxFrameSize < length then
      .error (.lengthOutOfRange length wiring.config.maxFrameSize "max_frame_size")
    else .ok length

/-- What a complete payload makes of a byte string that goes on with `rest`. -/
def Wiring.open (wiring : Wiring M) (payload rest : Bytes) : Cut :=
  match wiring.codec.unpack payload with
  | .message _ => .frame payload rest
  | .refused fault => .stops (.refused payload fault)
  | .crashed text => .stops (.crashed payload text)

/-- How a byte string that begins with a frame, or with nothing, goes on. -/
def Wiring.cut (wiring : Wiring M) (bytes : Bytes) : Cut :=
  if bytes = [] then .stops .boundary
  else if bytes.length < wiring.framing.size then .stops .header
  else
    match wiring.announced (bytes.take wiring.framing.size) with
    | .error fault => .stops (.badLength fault)
    | .ok length =>
      let body := bytes.drop wiring.framing.size
      if body.length < length then .stops (.payload length)
      else wiring.open (body.take length) (body.drop length)

/-- The byte string consists of frames with these payloads, each of them a message, up to where it
stops. -/
inductive Parses (wiring : Wiring M) : Bytes → List Bytes → Stop → Prop
  | stops {bytes : Bytes} {stop : Stop} (cut : wiring.cut bytes = .stops stop) :
      Parses wiring bytes [] stop
  | frame {bytes payload rest : Bytes} {payloads : List Bytes} {stop : Stop}
      (cut : wiring.cut bytes = .frame payload rest) (later : Parses wiring rest payloads stop) :
      Parses wiring bytes (payload :: payloads) stop

variable {wiring : Wiring M} {bytes : Bytes} {payloads : List Bytes} {stop : Stop}

/-- A byte string has one result at most. -/
theorem Parses.unique {payloads' : List Bytes} {stop' : Stop}
    (first : Parses wiring bytes payloads stop) (second : Parses wiring bytes payloads' stop') :
    payloads = payloads' ∧ stop = stop' := by
  induction first generalizing payloads' stop' with
  | stops cut =>
    cases second with
    | stops cut' =>
      rw [cut] at cut'
      cases cut'
      exact ⟨rfl, rfl⟩
    | frame cut' =>
      rw [cut] at cut'
      cases cut'
  | frame cut later ih =>
    cases second with
    | stops cut' =>
      rw [cut] at cut'
      cases cut'
    | frame cut' later' =>
      rw [cut] at cut'
      cases cut'
      obtain ⟨rfl, rfl⟩ := ih later'
      exact ⟨rfl, rfl⟩

theorem Wiring.open_eq_frame {payload payload' rest rest' : Bytes}
    (opens : wiring.open payload rest = .frame payload' rest') :
    payload = payload' ∧ rest = rest' ∧
      ∃ message, wiring.codec.unpack payload = .message message := by
  rw [Wiring.open] at opens
  split at opens
  · next message read =>
    cases opens
    exact ⟨rfl, rfl, message, read⟩
  · cases opens
  · cases opens

/-- What comes after a frame is shorter. -/
theorem Wiring.length_of_cut {payload rest : Bytes} (sized : 0 < wiring.framing.size)
    (cut : wiring.cut bytes = .frame payload rest) : rest.length < bytes.length := by
  rw [Wiring.cut] at cut
  split at cut
  · cases cut
  · split at cut
    · cases cut
    · next long =>
      split at cut
      · cases cut
      · dsimp only at cut
        split at cut
        · cases cut
        · obtain ⟨-, same, -⟩ := Wiring.open_eq_frame cut
          rw [← same, List.length_drop, List.length_drop]
          omega

/-- Every byte string has a result. -/
theorem parses_total (sized : 0 < wiring.framing.size) (bytes : Bytes) :
    ∃ payloads stop, Parses wiring bytes payloads stop := by
  induction length : bytes.length using Nat.strongRecOn generalizing bytes with
  | ind n ih =>
    cases cut : wiring.cut bytes with
    | stops stop => exact ⟨[], stop, .stops cut⟩
    | frame payload rest =>
      obtain ⟨payloads, stop, later⟩ :=
        ih rest.length (length ▸ Wiring.length_of_cut sized cut) rest rfl
      exact ⟨payload :: payloads, stop, .frame cut later⟩

/-! ## Where a byte string is cut -/

/-- A header that announces a payload. -/
structure Wiring.Announces (wiring : Wiring M) (header : Bytes) (length : Nat) : Prop where
  size : header.length = wiring.framing.size
  announced : wiring.announced header = .ok length

theorem Wiring.cut_nil (wiring : Wiring M) : wiring.cut [] = .stops .boundary := by
  rw [Wiring.cut, if_pos rfl]

theorem Wiring.cut_short (some : bytes ≠ []) (short : bytes.length < wiring.framing.size) :
    wiring.cut bytes = .stops .header := by
  rw [Wiring.cut, if_neg some, if_pos short]

variable {header body payload rest : Bytes} {length : Nat} {fault : WireError}

/-- A byte string that begins with a whole header is cut as the header says. -/
theorem Wiring.cut_header (sized : 0 < wiring.framing.size)
    (size : header.length = wiring.framing.size) :
    wiring.cut (header ++ body) =
      match wiring.announced header with
      | .error fault => .stops (.badLength fault)
      | .ok length =>
        if body.length < length then .stops (.payload length)
        else wiring.open (body.take length) (body.drop length) := by
  have some : header ++ body ≠ [] := by
    intro none
    rw [List.append_eq_nil_iff] at none
    rw [none.1, List.length_nil] at size
    omega
  have long : ¬(header ++ body).length < wiring.framing.size := by
    rw [List.length_append, size]
    omega
  rw [Wiring.cut, if_neg some, if_neg long, List.take_left' size, List.drop_left' size]

theorem Wiring.cut_offence (sized : 0 < wiring.framing.size)
    (size : header.length = wiring.framing.size)
    (offends : wiring.announced header = .error fault) :
    wiring.cut (header ++ body) = .stops (.badLength fault) := by
  rw [Wiring.cut_header sized size, offends]

theorem Wiring.Announces.cut_short (announces : wiring.Announces header length)
    (sized : 0 < wiring.framing.size) (short : body.length < length) :
    wiring.cut (header ++ body) = .stops (.payload length) := by
  rw [Wiring.cut_header sized announces.size, announces.announced]
  exact if_pos short

theorem Wiring.Announces.cut_frame (announces : wiring.Announces header payload.length)
    (sized : 0 < wiring.framing.size) :
    wiring.cut (header ++ (payload ++ rest)) = wiring.open payload rest := by
  have long : ¬(payload ++ rest).length < payload.length := by
    rw [List.length_append]
    omega
  rw [Wiring.cut_header sized announces.size, announces.announced]
  dsimp only
  rw [if_neg long, List.take_left, List.drop_left]

/-! ## What the reader makes of its buffer -/

/-- These bytes have been read of the frame that the reader is in. -/
inductive Holds (wiring : Wiring M) : Part → Bytes → Prop
  | boundary : Holds wiring .boundary []
  | header {got : Bytes} (some : got ≠ []) (short : got.length < wiring.framing.size) :
      Holds wiring (.header got) got
  | payload {header got : Bytes} {length missing : Nat} (announces : wiring.Announces header length)
      (count : got.length + missing = length) (positive : 0 < missing) :
      Holds wiring (.payload length missing got) (header ++ got.reverse)

/-- A byte string that ends with what the reader holds stops there. -/
theorem Holds.cut {part : Part} {raw : Bytes} (holds : Holds wiring part raw)
    (sized : 0 < wiring.framing.size) : wiring.cut raw = .stops part.stop := by
  cases holds with
  | boundary => exact wiring.cut_nil
  | header some short => exact Wiring.cut_short some short
  | payload announces count positive =>
    apply announces.cut_short sized
    rw [List.length_reverse]
    omega

namespace Link

/-- What the reader makes of the bytes of a frame that it has: it goes on reading, the header
offends, or a frame is complete. -/
inductive Consumes (wiring : Wiring M) (link : Link M) (bytes : Bytes) : Link M → Prop
  | goesOn {part : Part} {raw rest : Bytes} (holds : Holds wiring part raw)
      (split : raw ++ rest = bytes) :
      Consumes wiring link bytes { link with reader := .running rest part }
  | offends {header rest : Bytes} {fault : WireError} (split : header ++ rest = bytes)
      (size : header.length = wiring.framing.size)
      (offends : wiring.announced header = .error fault) :
      Consumes wiring link bytes (link.failReading (.badLength fault))
  | frame {header payload rest : Bytes} (split : header ++ (payload ++ rest) = bytes)
      (announces : wiring.Announces header payload.length) :
      Consumes wiring link bytes (dispatch wiring link rest payload)

theorem consumes_announce (link : Link M) (rest : Bytes)
    (size : header.length = wiring.framing.size) :
    Consumes wiring link (header ++ rest) (announce wiring link rest header) := by
  unfold announce
  split
  · next fault unread =>
    exact .offends rfl size (by rw [Wiring.announced, unread])
  · next length read =>
    split
    · next large =>
      apply Consumes.offends rfl size
      rw [Wiring.announced, read]
      exact if_pos large
    · next small =>
      have announces : wiring.Announces header length := by
        refine ⟨size, ?_⟩
        rw [Wiring.announced, read]
        exact if_neg small
      split
      · next zero =>
        subst zero
        have split : header ++ ([] ++ rest) = header ++ rest := rfl
        exact .frame split announces
      · next positive =>
        have holds : Holds wiring (.payload length length []) (header ++ [].reverse) :=
          .payload announces (Nat.zero_add length) (Nat.pos_of_ne_zero positive)
        exact .goesOn holds (by simp)

theorem consumes_readHeader (link : Link M) {buffer got : Bytes} (some : buffer ≠ [])
    (short : got.length < wiring.framing.size) :
    Consumes wiring link (got ++ buffer) (readHeader wiring link buffer got) := by
  have split (count : Nat) : got ++ buffer.take count ++ buffer.drop count = got ++ buffer := by
    rw [List.append_assoc, List.take_append_drop]
  have positive : 0 < buffer.length := List.length_pos_of_ne_nil some
  unfold readHeader
  dsimp only
  split
  -- the buffer is used up before the header is complete
  · next less =>
    rw [List.length_append, List.length_take] at less
    have all : buffer.take (wiring.framing.size - got.length) = buffer :=
      List.take_of_length_le (by omega)
    rw [all]
    refine .goesOn (.header ?_ ?_) (List.append_nil _)
    · intro none
      exact some (List.append_eq_nil_iff.1 none).2
    · rw [List.length_append]
      omega
  · next full =>
    rw [← split (wiring.framing.size - got.length)]
    apply consumes_announce
    rw [List.length_append, List.length_take] at full ⊢
    omega

theorem consumes_readPayload (link : Link M) {buffer got : Bytes} {missing : Nat}
    (announces : wiring.Announces header length) (count : got.length + missing = length) :
    Consumes wiring link (header ++ got.reverse ++ buffer)
      (readPayload wiring link buffer length missing got) := by
  unfold readPayload
  dsimp only
  split
  · next full =>
    have enough : missing ≤ buffer.length := by
      rw [List.length_take] at full
      omega
    have whole : (got.reverse ++ buffer.take missing).length = length := by
      rw [List.length_append, List.length_reverse, List.length_take]
      omega
    have split : header ++ (got.reverse ++ buffer.take missing ++ buffer.drop missing) =
        header ++ got.reverse ++ buffer := by
      rw [List.append_assoc, List.append_assoc, List.take_append_drop]
    exact .frame split (whole ▸ announces)
  · next less =>
    rw [List.length_take] at less ⊢
    have all : buffer.take missing = buffer := List.take_of_length_le (by omega)
    rw [all]
    refine .goesOn (.payload announces ?_ (by omega)) ?_
    · rw [List.length_append, List.length_reverse]
      omega
    · rw [List.reverse_append, List.reverse_reverse, List.append_nil, List.append_assoc]

/-- Whatever part of a frame the reader has read before, it makes of its buffer what the bytes of
the frame say. -/
theorem consumes (link : Link M) {buffer raw : Bytes} {part : Part} (some : buffer ≠ [])
    (sized : 0 < wiring.framing.size) (holds : Holds wiring part raw) :
    Consumes wiring link (raw ++ buffer) (consume wiring link buffer part) := by
  cases holds with
  | boundary => exact consumes_readHeader link some sized
  | header _ short => exact consumes_readHeader link some short
  | payload announces count => exact consumes_readPayload link announces count

end Link

end Multiplex
