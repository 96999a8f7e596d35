import Multiplex.Proofs.Correlation
import Multiplex.Proofs.Frames

/-!
# A request is prepared wholly or not at all

A message becomes a request in a few steps, and each of them may fail: the link has to be active,
the message needs a trace number, a key has to be found in it, and it has to be packed and framed.
If all of them succeed the frame is the length header followed by the packed message, and a trace
number that the message came with is still in it. The first that fails gives the error, and nothing
has happened but that a trace number may have been issued, which stays issued.

The codec is any. Of the length headers and of the policy it is only assumed that headers announce
the lengths up to some maximum and that a message without a key is one that cannot be correlated
(`Wiring.Regular`), which is so for all layouts and policies of this library (`Setup.regular`).

Main statement: `preparesWholly`.
-/

namespace Multiplex

variable {M : Type}

/-- A part of a key that is missing cannot be correlated. -/
theorem Policy.component_error {codec : Codec M} {message : M} {id : FieldId} {error : LinkError}
    (missing : component codec message id = .error error) :
    ∃ text source, error = .uncorrelated text source := by
  unfold component at missing
  split at missing
  · cases missing
    exact ⟨_, _, rfl⟩
  · split at missing
    · cases missing
      exact ⟨_, _, rfl⟩
    · cases missing

theorem Policy.components_error {codec : Codec M} {message : M} {ids : List FieldId}
    {error : LinkError} (missing : components codec message ids = .error error) :
    ∃ text source, error = .uncorrelated text source := by
  induction ids with
  | nil => cases missing
  | cons id rest ih =>
    unfold components at missing
    split at missing
    · next own =>
      cases missing
      exact component_error own
    · split at missing
      · next later =>
        cases missing
        exact ih later
      · cases missing

/-- A message in which a policy finds no key cannot be correlated. -/
theorem Policy.key_error {policy : Policy} {codec : Codec M} {message : M} {error : LinkError}
    (missing : policy.key codec message = .error error) :
    ∃ text source, error = .uncorrelated text source := by
  cases policy with
  | field id => exact component_error missing
  | composite ids separator =>
    cases ids with
    | nil =>
      cases missing
      exact ⟨_, _, rfl⟩
    | cons id rest =>
      simp only [key] at missing
      cases found : components codec message (id :: rest) with
      | error fault =>
        rw [found] at missing
        cases missing
        exact components_error found
      | ok texts =>
        rw [found] at missing
        cases missing

/-- Length headers announce the lengths up to `most`, and a message without a key cannot be
correlated. -/
structure Wiring.Regular (wiring : Wiring M) (most : Nat) : Prop where
  announces (length : Nat) : (∃ header, wiring.framing.encode length = .ok header) ↔ length ≤ most
  blames : ∀ {message : M} {error : LinkError}, wiring.key message = .error error →
    ∃ text source, error = .uncorrelated text source

/-- Every layout has its maximum, and every policy blames the message. -/
theorem Setup.regular (setup : Setup M) : setup.wiring.Regular setup.header.maxLength where
  announces _ :=
    ⟨fun ⟨_, encoded⟩ => (Header.announce_eq_ok_iff.1 encoded).1,
      fun small => ⟨_, Header.announce_eq_ok_iff.2 ⟨small, rfl⟩⟩⟩
  blames missing := Policy.key_error missing

namespace Link

/-! ## The steps -/

/-- The message with a trace number, and the counter after it: its own number, or the next one if
its field is empty. -/
inductive Numbered (wiring : Wiring M) (stan : Stan) (message : M) : M → Stan → Prop
  | own {text : String}
      (read : wiring.codec.text message wiring.config.stanField = .ok text)
      (there : text ≠ "") :
      Numbered wiring stan message message stan
  | issued {ready : M}
      (read : wiring.codec.text message wiring.config.stanField = .ok "")
      (set : wiring.codec.set message wiring.config.stanField stan.next.text = .ok ready) :
      Numbered wiring stan message ready stan.next

/-- The message gets no trace number: its field cannot be read, or it is empty and cannot be set. -/
inductive Unnumbered (wiring : Wiring M) (stan : Stan) (message : M) : LinkError → Stan → Prop
  | unreadable {fault : WireError}
      (read : wiring.codec.text message wiring.config.stanField = .error fault) :
      Unnumbered wiring stan message
        (.uncorrelated
          ("getting STAN (field " ++ toString wiring.config.stanField.toNat ++ ")") (some fault))
        stan
  | unsettable {fault : WireError}
      (read : wiring.codec.text message wiring.config.stanField = .ok "")
      (set : wiring.codec.set message wiring.config.stanField stan.next.text = .error fault) :
      Unnumbered wiring stan message
        (.uncorrelated
          ("setting STAN (field " ++ toString wiring.config.stanField.toNat ++ ") to " ++
            stan.next.text) (some fault))
        stan.next

/-- The message has no frame: it cannot be packed, or it is longer than the settings allow or than a
length header can announce. -/
inductive Unframed (wiring : Wiring M) (most : Nat) (message : M) : LinkError → Prop
  | unpackable {fault : WireError} (packed : wiring.codec.pack message = .error fault) :
      Unframed wiring most message (.unencodable fault)
  | oversized {payload : Bytes} (packed : wiring.codec.pack message = .ok payload)
      (large : wiring.config.maxFrameSize < payload.length) :
      Unframed wiring most message
        (.unencodable
          (.lengthOutOfRange payload.length wiring.config.maxFrameSize "max_frame_size"))
  | unannounced {payload : Bytes} {fault : WireError}
      (packed : wiring.codec.pack message = .ok payload)
      (small : payload.length ≤ wiring.config.maxFrameSize) (large : most < payload.length)
      (refused : wiring.framing.encode payload.length = .error fault) :
      Unframed wiring most message (.unencodable fault)

/-- The message can be prepared: with its trace number it is `ready`, it has `key`, and its
`payload` is within both limits. -/
structure Preparable (wiring : Wiring M) (most : Nat) (link : Link M) (message ready : M)
    (key : String) (payload : Bytes) : Prop where
  active : link.phase = .active
  numbered : ∃ stan, Numbered wiring link.stan message ready stan
  keyed : wiring.key ready = .ok key
  packed : wiring.codec.pack ready = .ok payload
  small : payload.length ≤ wiring.config.maxFrameSize
  announced : payload.length ≤ most

/-- The first thing that keeps the message from being prepared, and the error for it. -/
inductive Obstacle (wiring : Wiring M) (most : Nat) (link : Link M) (message : M) :
    LinkError → Prop
  | inactive (phase : link.phase ≠ .active) : Obstacle wiring most link message .closed
  | unnumbered {error : LinkError} {stan : Stan} (active : link.phase = .active)
      (numberless : Unnumbered wiring link.stan message error stan) :
      Obstacle wiring most link message error
  | keyless {ready : M} {stan : Stan} {text : String} {source : Option WireError}
      (active : link.phase = .active) (numbered : Numbered wiring link.stan message ready stan)
      (missing : wiring.key ready = .error (.uncorrelated text source)) :
      Obstacle wiring most link message (.uncorrelated text source)
  | unframed {ready : M} {stan : Stan} {key : String} {error : LinkError}
      (active : link.phase = .active) (numbered : Numbered wiring link.stan message ready stan)
      (keyed : wiring.key ready = .ok key) (frameless : Unframed wiring most ready error) :
      Obstacle wiring most link message error

/-- Preparing the message issues a trace number: the link is active, and the field for the number
can be read and is empty. -/
def issues (wiring : Wiring M) (link : Link M) (message : M) : Bool :=
  link.phase = .active &&
    (wiring.codec.text message wiring.config.stanField).toOption = some ""

/-- A message is prepared wholly, or there is an error and nothing has happened. -/
structure PreparesWholly (wiring : Wiring M) (most : Nat) (link : Link M) (message : M) :
    Prop where
  succeeds_iff : (∃ request, (prepare wiring link message).1 = .ok request) ↔
    ∃ ready key payload, Preparable wiring most link message ready key payload
  /-- The frame of a request is the length header followed by the packed message, which is the given
  one if that came with a trace number. -/
  whole : ∀ {request : Request}, (prepare wiring link message).1 = .ok request →
    ∃ ready payload header, Preparable wiring most link message ready request.key payload ∧
      wiring.framing.encode payload.length = .ok header ∧ request.frame = header ++ payload ∧
      ∀ text, wiring.codec.text message wiring.config.stanField = .ok text → text ≠ "" →
        ready = message
  fails_iff : ∀ error : LinkError,
    (prepare wiring link message).1 = .error error ↔ Obstacle wiring most link message error
  /-- A send whose message cannot be prepared returns the error at once. All else on the link is as
  it was, but that the next trace number may have been issued. -/
  spares : ∀ {error : LinkError}, (prepare wiring link message).1 = .error error →
    link.handle = true → ∀ timeout : Option Nat,
      act? wiring link (.play (.send message timeout)) = some { link with
        stan := if issues wiring link message then link.stan.next else link.stan
        made := link.made + 1
        history := .returned link.made none (.failed error) ::
          ((if issues wiring link message then [.issued link.stan.next.text] else []) ++
            link.history) }

variable {wiring : Wiring M} {most : Nat} {link : Link M} {stan after : Stan} {message ready : M}
  {error : LinkError}

theorem issues_iff : issues wiring link message = true ↔
    link.phase = .active ∧ wiring.codec.text message wiring.config.stanField = .ok "" := by
  rw [issues, Bool.and_eq_true, decide_eq_true_iff, decide_eq_true_iff]
  cases wiring.codec.text message wiring.config.stanField <;> simp [Except.toOption]

/-! ## What each step gives -/

theorem assignStan_eq_ok_iff :
    assignStan wiring stan message = (.ok ready, after) ↔
      Numbered wiring stan message ready after := by
  constructor
  · intro assigned
    unfold assignStan at assigned
    dsimp only at assigned
    split at assigned
    · cases assigned
    · next text read =>
      split at assigned
      · next there =>
        cases assigned
        exact .own read there
      · next empty =>
        rw [Decidable.not_not.1 empty] at read
        split at assigned
        · next set =>
          cases assigned
          exact .issued read set
        · cases assigned
  · intro numbered
    cases numbered with
    | own read there => simp only [assignStan, read, if_pos there]
    | issued read set => simp only [assignStan, read, if_neg (Decidable.not_not.2 rfl), set]

theorem assignStan_eq_error_iff :
    assignStan wiring stan message = (.error error, after) ↔
      Unnumbered wiring stan message error after := by
  constructor
  · intro assigned
    unfold assignStan at assigned
    dsimp only at assigned
    split at assigned
    · next read =>
      cases assigned
      exact .unreadable read
    · next text read =>
      split at assigned
      · cases assigned
      · next empty =>
        rw [Decidable.not_not.1 empty] at read
        split at assigned
        · cases assigned
        · next set =>
          cases assigned
          exact .unsettable read set
  · intro numberless
    cases numberless with
    | unreadable read => simp only [assignStan, read]
    | unsettable read set => simp only [assignStan, read, if_neg (Decidable.not_not.2 rfl), set]

theorem Numbered.keeps (numbered : Numbered wiring stan message ready after) {text : String}
    (read : wiring.codec.text message wiring.config.stanField = .ok text) (there : text ≠ "") :
    ready = message := by
  cases numbered with
  | own => rfl
  | issued empty =>
    rw [read] at empty
    cases empty
    exact absurd rfl there

/-- The counter after the attempt to number a message on an active link. -/
theorem assignStan_snd_eq (active : link.phase = .active) :
    (assignStan wiring link.stan message).2 =
      if issues wiring link message then link.stan.next else link.stan := by
  cases assigned : assignStan wiring link.stan message with
  | mk result after =>
    cases result with
    | ok ready =>
      cases assignStan_eq_ok_iff.1 assigned with
      | own read there =>
        refine (if_neg fun issued => there ?_).symm
        exact Except.ok.inj (read.symm.trans (issues_iff.1 issued).2)
      | issued read set => exact (if_pos (issues_iff.2 ⟨active, read⟩)).symm
    | error error =>
      cases assignStan_eq_error_iff.1 assigned with
      | unreadable read =>
        exact (if_neg fun issued => nomatch read.symm.trans (issues_iff.1 issued).2).symm
      | unsettable read set => exact (if_pos (issues_iff.2 ⟨active, read⟩)).symm

theorem frameOf_eq_error_iff (regular : wiring.Regular most) :
    frameOf wiring message = .error error ↔ Unframed wiring most message error := by
  constructor
  · intro framed
    unfold frameOf at framed
    split at framed
    · next packed =>
      cases framed
      exact .unpackable packed
    · next payload packed =>
      split at framed
      · next large =>
        cases framed
        exact .oversized packed large
      · next small =>
        split at framed
        · next refused =>
          cases framed
          refine .unannounced packed (Nat.le_of_not_lt small) (Nat.lt_of_not_le fun fits => ?_)
            refused
          obtain ⟨header, encoded⟩ := (regular.announces _).2 fits
          rw [refused] at encoded
          cases encoded
        · cases framed
  · intro frameless
    cases frameless with
    | unpackable packed => simp only [frameOf, packed]
    | oversized packed large => simp only [frameOf, packed, if_pos large]
    | unannounced packed small large refused =>
      simp only [frameOf, packed, if_neg (Nat.not_lt.2 small), refused]

theorem frameOf_eq_ok_iff {frame : Bytes} :
    frameOf wiring message = .ok frame ↔ ∃ payload header,
      wiring.codec.pack message = .ok payload ∧ payload.length ≤ wiring.config.maxFrameSize ∧
        wiring.framing.encode payload.length = .ok header ∧ frame = header ++ payload := by
  refine ⟨frameOf_eq_ok, ?_⟩
  rintro ⟨payload, header, packed, small, encoded, rfl⟩
  simp only [frameOf, packed, if_neg (Nat.not_lt.2 small), encoded]

/-! ## All of them together -/

/-- The link after the message has been numbered, or could not be. -/
def numbering (wiring : Wiring M) (link : Link M) (message : M) : Link M :=
  { link with
    stan := if issues wiring link message then link.stan.next else link.stan
    history := (if issues wiring link message then [.issued link.stan.next.text] else []) ++
      link.history }

/-- What preparing a message comes to on an active link. -/
theorem prepare_of_active (active : link.phase = .active) :
    prepare wiring link message =
      match (assignStan wiring link.stan message).1 with
      | .error error => (.error error, numbering wiring link message)
      | .ok ready =>
        match keyedFrame wiring ready with
        | .error error => (.error error, numbering wiring link message)
        | .ok (key, frame) =>
          (.ok ⟨link.exchanges.length, key, frame⟩,
            { numbering wiring link message with
              exchanges := link.exchanges ++ [Exchange.fresh] }.note
                (.prepared ready ⟨link.exchanges.length, key, frame⟩)) := by
  have drawn : (if (assignStan wiring link.stan message).2.last = link.stan.last then link
      else { link with stan := (assignStan wiring link.stan message).2 }.note
        (.issued (assignStan wiring link.stan message).2.text)) =
      numbering wiring link message := by
    rw [assignStan_snd_eq active, numbering]
    cases issues wiring link message with
    | true => exact if_neg (last_next_ne link.stan)
    | false => exact if_pos rfl
  rw [prepare, if_neg (Decidable.not_not.2 active)]
  dsimp only
  rw [drawn]
  rfl

theorem prepare_of_inactive (inactive : link.phase ≠ .active) :
    prepare wiring link message = (.error .closed, link) :=
  if_pos inactive

/-- A message is prepared if nothing stands in the way. -/
theorem Preparable.prepare {key : String} {payload : Bytes} (regular : wiring.Regular most)
    (preparable : Preparable wiring most link message ready key payload) :
    ∃ header, wiring.framing.encode payload.length = .ok header ∧
      (prepare wiring link message).1 =
        .ok ⟨link.exchanges.length, key, header ++ payload⟩ := by
  obtain ⟨active, ⟨after, numbered⟩, keyed, packed, small, announced⟩ := preparable
  obtain ⟨header, encoded⟩ := (regular.announces _).2 announced
  have framed := frameOf_eq_ok_iff.2 ⟨payload, header, packed, small, encoded, rfl⟩
  refine ⟨header, encoded, ?_⟩
  rw [prepare_of_active active, assignStan_eq_ok_iff.2 numbered]
  simp only [keyedFrame, keyed, framed]

/-- What stands in the way gives its error. -/
theorem Obstacle.prepare (regular : wiring.Regular most)
    (obstacle : Obstacle wiring most link message error) :
    (prepare wiring link message).1 = .error error := by
  cases obstacle with
  | inactive phase => rw [prepare_of_inactive phase]
  | unnumbered active numberless =>
    rw [prepare_of_active active, assignStan_eq_error_iff.2 numberless]
  | keyless active numbered missing =>
    rw [prepare_of_active active, assignStan_eq_ok_iff.2 numbered]
    simp only [keyedFrame, missing]
  | unframed active numbered keyed frameless =>
    rw [prepare_of_active active, assignStan_eq_ok_iff.2 numbered]
    simp only [keyedFrame, keyed, (frameOf_eq_error_iff regular).2 frameless]

/-- A message can be prepared, or something stands in the way. -/
theorem preparable_or_obstacle (regular : wiring.Regular most) (link : Link M) (message : M) :
    (∃ ready key payload, Preparable wiring most link message ready key payload) ∨
      ∃ error, Obstacle wiring most link message error := by
  by_cases active : link.phase = .active
  · cases assigned : assignStan wiring link.stan message with
    | mk result after =>
      cases result with
      | error error => exact .inr ⟨error, .unnumbered active (assignStan_eq_error_iff.1 assigned)⟩
      | ok ready =>
        have numbered := assignStan_eq_ok_iff.1 assigned
        cases keyed : wiring.key ready with
        | error error =>
          obtain ⟨text, source, rfl⟩ := regular.blames keyed
          exact .inr ⟨_, .keyless active numbered keyed⟩
        | ok key =>
          cases framed : frameOf wiring ready with
          | error error =>
            exact .inr ⟨error, .unframed active numbered keyed
              ((frameOf_eq_error_iff regular).1 framed)⟩
          | ok frame =>
            obtain ⟨payload, header, packed, small, encoded, -⟩ := frameOf_eq_ok framed
            exact .inl ⟨ready, key, payload, active, ⟨after, numbered⟩, keyed, packed, small,
              (regular.announces _).1 ⟨header, encoded⟩⟩
  · exact .inr ⟨.closed, .inactive active⟩

/-- A message that could not be prepared has left nothing behind but the number it was to get. -/
theorem prepare_snd_of_error (failed : (prepare wiring link message).1 = .error error) :
    (prepare wiring link message).2 = numbering wiring link message := by
  by_cases active : link.phase = .active
  · rw [prepare_of_active active] at failed ⊢
    split
    · rfl
    · next assigned =>
      rw [assigned] at failed
      dsimp only at failed
      split
      · rfl
      · next framed =>
        rw [framed] at failed
        cases failed
  · have quiet : issues wiring link message = false := by
      rw [← Bool.not_eq_true, issues_iff]
      exact fun issued => active issued.1
    rw [prepare_of_inactive active, numbering, quiet]
    rfl

theorem send_of_error {timeout : Option Nat}
    (failed : (prepare wiring link message).1 = .error error) :
    link.send wiring message timeout =
      { numbering wiring link message with made := link.made + 1 }.note
        (.returned link.made none (.failed error)) := by
  have rest := prepare_snd_of_error failed
  cases prepared : prepare wiring link message with
  | mk result after =>
    rw [prepared] at failed rest
    dsimp only at failed rest
    subst rest
    rw [send, prepared, failed]
    rfl

/-- Every message is prepared wholly or not at all, on every link. -/
theorem preparesWholly (regular : wiring.Regular most) (link : Link M) (message : M) :
    PreparesWholly wiring most link message := by
  -- what can be prepared is, and what has an obstacle is not; there is no third case
  have failed_iff (error : LinkError) : (prepare wiring link message).1 = .error error ↔
      Obstacle wiring most link message error := by
    refine ⟨fun failed => ?_, Obstacle.prepare regular⟩
    rcases preparable_or_obstacle regular link message with
      ⟨ready, key, payload, preparable⟩ | ⟨error', obstacle⟩
    · obtain ⟨header, -, prepared⟩ := preparable.prepare regular
      rw [failed] at prepared
      cases prepared
    · rw [obstacle.prepare regular] at failed
      cases failed
      exact obstacle
  have whole {request : Request} (prepared : (prepare wiring link message).1 = .ok request) :
      ∃ ready payload header, Preparable wiring most link message ready request.key payload ∧
        wiring.framing.encode payload.length = .ok header ∧
        request.frame = header ++ payload := by
    rcases preparable_or_obstacle regular link message with
      ⟨ready, key, payload, preparable⟩ | ⟨error, obstacle⟩
    · obtain ⟨header, encoded, prepared'⟩ := preparable.prepare regular
      rw [prepared] at prepared'
      cases prepared'
      exact ⟨ready, payload, header, preparable, encoded, rfl⟩
    · rw [obstacle.prepare regular] at prepared
      cases prepared
  refine ⟨⟨?_, ?_⟩, ?_, failed_iff, ?_⟩
  · rintro ⟨request, prepared⟩
    obtain ⟨ready, payload, header, preparable, -⟩ := whole prepared
    exact ⟨ready, request.key, payload, preparable⟩
  · rintro ⟨ready, key, payload, preparable⟩
    obtain ⟨header, -, prepared⟩ := preparable.prepare regular
    exact ⟨_, prepared⟩
  · intro request prepared
    obtain ⟨ready, payload, header, preparable, encoded, framed⟩ := whole prepared
    refine ⟨ready, payload, header, preparable, encoded, framed, fun text read there => ?_⟩
    obtain ⟨stan, numbered⟩ := preparable.numbered
    exact numbered.keeps read there
  · intro error failed held timeout
    rw [act?, play, withHandle, if_pos held]
    exact congrArg some (send_of_error failed)

/-! ## A message that is too long -/

section Tight

open Rehearsal

/-- Scripted messages, of which only the shortest are allowed. -/
def tightSetup : Setup Scripted :=
  ⟨Scripted.codec [], .vml, .field 11, { maxFrameSize := 13 }⟩

/-- A message without a trace number gets one, and is too long with it. With a longer limit it is
prepared. -/
theorem preparesWholly_tight :
    tightSetup.wiring.Regular 65535 ∧ scriptedWiring.Regular 65535 ∧
      PreparesWholly tightSetup.wiring 65535 fresh (scriptedMessage "") ∧
      PreparesWholly scriptedWiring 65535 fresh (scriptedMessage "") ∧
      issues tightSetup.wiring fresh (scriptedMessage "") = true ∧
      Obstacle tightSetup.wiring 65535 fresh (scriptedMessage "")
        (.unencodable (.lengthOutOfRange 14 13 "max_frame_size")) ∧
      ∃ ready payload, Preparable scriptedWiring 65535 fresh (scriptedMessage "") ready "000001"
        payload := by
  have tight : tightSetup.wiring.Regular 65535 := tightSetup.regular
  have wide : scriptedWiring.Regular 65535 := Setup.regular _
  have large := preparesWholly tight fresh (scriptedMessage "")
  have fits := preparesWholly wide fresh (scriptedMessage "")
  have prepared : (prepare scriptedWiring fresh (scriptedMessage "")).1 =
      .ok ⟨0, "000001", scriptedFrame 49⟩ := by
    rfl
  obtain ⟨ready, payload, -, preparable, -⟩ := fits.whole prepared
  exact ⟨tight, wide, large, fits, by decide +kernel, (large.fails_iff _).1 (by rfl),
    ready, payload, preparable⟩

end Tight

end Link

end Multiplex
