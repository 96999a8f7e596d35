import Multiplex.Proofs.PickUps

/-!
# Composite keys identify their components

A composite key is read back from the front: as long as no character of the separator occurs in a
component, the first such character ends the first component. So two messages have one key exactly
if they agree on every field of the policy (`Policy.key_eq_iff`). That no component contains the
separator as a whole would not be enough: `a` and `:b` are joined by `::` to the same text as `a:`
and `b`.

Whatever rests on keys rests on these fields then: whose reply a send returns, and because of whom it
is refused.

Main statement: `identifying_of_composite`.
-/

namespace Multiplex

variable {M : Type}

/-- The call that returns a message by this event, with its ticket and the message. -/
def Event.replied? : Event M → Option (Nat × Option Ticket × M)
  | .returned number ticket? (.replied message) => some (number, ticket?, message)
  | _ => none

/-- The call that returns a duplicate key by this event, with its ticket and the key. -/
def Event.collided? : Event M → Option (Nat × Option Ticket × String)
  | .returned number ticket? (.failed (.duplicateKey key)) => some (number, ticket?, key)
  | _ => none

theorem Event.eq_of_replied? {event : Event M} {number : Nat} {ticket? : Option Ticket}
    {message : M} (given : event.replied? = some (number, ticket?, message)) :
    event = .returned number ticket? (.replied message) := by
  unfold replied? at given
  split at given
  · cases given
    rfl
  · cases given

theorem Event.eq_of_collided? {event : Event M} {number : Nat} {ticket? : Option Ticket}
    {key : String} (given : event.collided? = some (number, ticket?, key)) :
    event = .returned number ticket? (.failed (.duplicateKey key)) := by
  unfold collided? at given
  split at given
  · cases given
    rfl
  · cases given

namespace Policy

/-- No text of the message in these fields has a character of the separator. -/
def Plain (codec : Codec M) (ids : List FieldId) (separator : String) (message : M) : Prop :=
  ∀ id ∈ ids, ∀ text, codec.text message id = .ok text →
    ∀ c ∈ separator.toList, c ∉ text.toList

/-- Both messages have the same text in each of these fields. -/
def Agree (codec : Codec M) (ids : List FieldId) (message message' : M) : Prop :=
  ∀ id ∈ ids, ∃ text, codec.text message id = .ok text ∧ codec.text message' id = .ok text

variable {codec : Codec M} {ids : List FieldId} {separator : String} {message message' : M}
  {texts texts' : List String}

/-! ## Joined texts are told apart -/

/-- The first occurrence of a character delimits what comes before it. -/
theorem eq_of_append_cons {c : Char} {first first' rest rest' : List Char} (free : c ∉ first)
    (free' : c ∉ first') (same : first ++ c :: rest = first' ++ c :: rest') :
    first = first' ∧ rest = rest' := by
  induction first generalizing first' with
  | nil =>
    cases first' with
    | nil => exact ⟨rfl, (List.cons.inj same).2⟩
    | cons d tail =>
      obtain ⟨rfl, -⟩ := List.cons.inj same
      exact absurd List.mem_cons_self free'
  | cons d tail ih =>
    cases first' with
    | nil =>
      obtain ⟨rfl, -⟩ := List.cons.inj same
      exact absurd List.mem_cons_self free
    | cons d' tail' =>
      obtain ⟨rfl, onward⟩ := List.cons.inj same
      obtain ⟨rfl, rest⟩ := ih (fun member => free (List.mem_cons_of_mem _ member))
        (fun member => free' (List.mem_cons_of_mem _ member)) onward
      exact ⟨rfl, rest⟩

/-- As many texts, without a character of the separator, are joined to the same text only if they are
the same. -/
theorem intercalate_injective (separates : separator ≠ "") (length : texts.length = texts'.length)
    (free : ∀ text ∈ texts, ∀ c ∈ separator.toList, c ∉ text.toList)
    (free' : ∀ text ∈ texts', ∀ c ∈ separator.toList, c ∉ text.toList)
    (same : separator.intercalate texts = separator.intercalate texts') : texts = texts' := by
  obtain ⟨c, others, chars⟩ : ∃ c others, separator.toList = c :: others := by
    refine List.exists_cons_of_ne_nil fun none => separates ?_
    rwa [String.toList_eq_nil_iff] at none
  have inside : c ∈ separator.toList := chars ▸ List.mem_cons_self
  induction texts generalizing texts' with
  | nil => exact (List.length_eq_zero_iff.1 length.symm).symm
  | cons text rest ih =>
    cases texts' with
    | nil => cases length
    | cons text' rest' =>
      have length : rest.length = rest'.length := Nat.succ.inj length
      obtain ⟨own, free⟩ := List.forall_mem_cons.1 free
      obtain ⟨own', free'⟩ := List.forall_mem_cons.1 free'
      cases rest with
      | nil =>
        obtain rfl := List.length_eq_zero_iff.1 length.symm
        rw [String.intercalate_singleton, String.intercalate_singleton] at same
        rw [same]
      | cons next rest =>
        cases rest' with
        | nil => cases length
        | cons next' rest' =>
          rw [String.intercalate_cons_cons, String.intercalate_cons_cons, ← String.toList_inj] at same
          simp only [String.toList_append, chars, List.append_assoc, List.cons_append] at same
          -- what is left after the first separator is joined from the other texts
          obtain ⟨first, left⟩ := eq_of_append_cons (own c inside) (own' c inside) same
          rw [String.toList_inj.1 first,
            ih length free free' (String.toList_inj.1 (List.append_cancel_left left))]

/-! ## Keys of messages -/

theorem component_eq_ok_iff {id : FieldId} {text : String} :
    component codec message id = .ok text ↔ codec.text message id = .ok text ∧ text ≠ "" := by
  unfold component
  split
  · next read => simp [read]
  · next found read =>
    rw [read]
    split
    · next empty =>
      simp only [reduceCtorEq, Except.ok.injEq, false_iff, not_and, Decidable.not_not]
      rintro rfl
      exact empty
    · next there =>
      simp only [Except.ok.injEq, iff_self_and]
      rintro rfl
      exact there

theorem components_eq_ok_iff : components codec message ids = .ok texts ↔
    List.Forall₂ (fun id text => codec.text message id = .ok text ∧ text ≠ "") ids texts := by
  induction ids generalizing texts with
  | nil => cases texts <;> simp [components]
  | cons id rest ih =>
    unfold components
    constructor
    · intro found
      split at found
      · cases found
      · next text own =>
        split at found
        · cases found
        · next others later =>
          cases found
          exact .cons (component_eq_ok_iff.1 own) (ih.1 later)
    · rintro (_ | ⟨own, others⟩)
      rw [component_eq_ok_iff.2 own]
      simp only [ih.2 others]

/-- The components of two messages are the same if the messages agree on the fields, and only
then. -/
theorem agree_iff (found : components codec message ids = .ok texts)
    (found' : components codec message' ids = .ok texts') :
    Agree codec ids message message' ↔ texts = texts' := by
  rw [components_eq_ok_iff] at found found'
  constructor
  · intro agree
    induction found generalizing texts' with
    | nil =>
      cases found'
      rfl
    | cons own _ ih =>
      cases found' with
      | cons own' others' =>
        obtain ⟨first, rest⟩ := List.forall_mem_cons.1 agree
        obtain ⟨text, read, read'⟩ := first
        obtain rfl := Except.ok.inj (own.1.symm.trans read)
        obtain rfl := Except.ok.inj (own'.1.symm.trans read')
        rw [ih others' rest]
  · rintro rfl
    induction found with
    | nil =>
      intro id member
      cases member
    | cons own _ ih =>
      cases found' with
      | cons own' others' => exact List.forall_mem_cons.2 ⟨⟨_, own.1, own'.1⟩, ih others'⟩

/-- A composite key is joined from the texts in the fields of its policy. -/
theorem key_composite_eq_ok {key : String}
    (derived : (composite ids separator).key codec message = .ok key) :
    ∃ texts, components codec message ids = .ok texts ∧ key = separator.intercalate texts := by
  cases ids with
  | nil => cases derived
  | cons id rest =>
    simp only [Policy.key] at derived
    cases found : components codec message (id :: rest) with
    | error error =>
      rw [found] at derived
      cases derived
    | ok texts =>
      rw [found] at derived
      exact ⟨texts, rfl, (Except.ok.inj derived).symm⟩

/-- Texts that a plain message has in the fields have no character of the separator. -/
theorem Plain.free (plain : Plain codec ids separator message)
    (found : components codec message ids = .ok texts) :
    ∀ text ∈ texts, ∀ c ∈ separator.toList, c ∉ text.toList := by
  rw [components_eq_ok_iff] at found
  induction found with
  | nil =>
    intro text member
    cases member
  | cons own _ ih =>
    obtain ⟨first, rest⟩ := List.forall_mem_cons.1 plain
    exact List.forall_mem_cons.2 ⟨first _ own.1, ih rest⟩

/-- The keys of two plain messages are equal exactly if the messages agree on the fields. -/
theorem key_eq_iff (separates : separator ≠ "") {key key' : String}
    (derived : (composite ids separator).key codec message = .ok key)
    (derived' : (composite ids separator).key codec message' = .ok key')
    (plain : Plain codec ids separator message) (plain' : Plain codec ids separator message') :
    key = key' ↔ Agree codec ids message message' := by
  obtain ⟨texts, found, rfl⟩ := key_composite_eq_ok derived
  obtain ⟨texts', found', rfl⟩ := key_composite_eq_ok derived'
  rw [agree_iff found found']
  refine ⟨?_, congrArg _⟩
  have length := (components_eq_ok_iff.1 found).length_eq
  have length' := (components_eq_ok_iff.1 found').length_eq
  exact intercalate_injective separates (length.symm.trans length') (plain.free found)
    (plain'.free found')

end Policy

namespace Link

open Policy

/-- The policy identifies messages by their texts in some fields, as far as these are told apart by
the separator. -/
structure Identifying (setup : Setup M) (ids : List FieldId) (separator : String) : Prop where
  /-- Two messages have one key exactly if they agree on the fields. -/
  keys : ∀ {message message' : M} {key key' : String},
    setup.wiring.key message = .ok key → setup.wiring.key message' = .ok key' →
      Plain setup.codec ids separator message → Plain setup.codec ids separator message' →
        (key = key' ↔ Agree setup.codec ids message message')
  /-- A reply that a send returns agrees with the request, which is the message with its trace
  number. -/
  replies : ∀ {acts before later : List (Act M)} {start final : Link M} {original reply : M}
    {given : Option Nat} {ticket? : Option Ticket},
    follow? setup.wiring fresh acts = some final →
      acts = before ++ .play (.send original given) :: later →
        follow? setup.wiring fresh before = some start → start.handle = true →
          .returned start.made ticket? (.replied reply) ∈ final.history →
            ∃ ready, (assignStan setup.wiring start.stan original).1 = .ok ready ∧
              (Plain setup.codec ids separator ready → Plain setup.codec ids separator reply →
                Agree setup.codec ids ready reply)
  /-- A send that returns a duplicate key was refused while a live request that agrees with it was
  registered. -/
  refusals : ∀ {acts before later : List (Act M)} {start final : Link M} {original : M}
    {given : Option Nat} {ticket? : Option Ticket} {key : String},
    follow? setup.wiring fresh acts = some final →
      acts = before ++ .play (.send original given) :: later →
        follow? setup.wiring fresh before = some start → start.handle = true →
          .returned start.made ticket? (.failed (.duplicateKey key)) ∈ final.history →
            ∃ ready request rival asked,
              (assignStan setup.wiring start.stan original).1 = .ok ready ∧
                (prepare setup.wiring start original).1 = .ok request ∧
                Rivalry setup.wiring acts request rival asked ∧
                (Plain setup.codec ids separator ready →
                  Plain setup.codec ids separator asked → Agree setup.codec ids ready asked)

variable {setup : Setup M} {ids : List FieldId} {separator : String}

/-- Composite keys with a separator identify the messages of every run by the fields of the
policy. -/
theorem identifying_of_composite (policy : setup.policy = .composite ids separator)
    (separates : separator ≠ "") : Identifying setup ids separator := by
  have keys {message message' : M} {key key' : String} (derived : setup.wiring.key message = .ok key)
      (derived' : setup.wiring.key message' = .ok key')
      (plain : Plain setup.codec ids separator message)
      (plain' : Plain setup.codec ids separator message') :
      key = key' ↔ Agree setup.codec ids message message' := by
    rw [Setup.wiring, policy] at derived derived'
    exact key_eq_iff separates derived derived' plain plain'
  refine ⟨keys, ?_, ?_⟩
  · intro acts before later start final original reply given ticket? run split first handle returned
    obtain ⟨request, prepared, -, derived⟩ := key_of_replied run split first handle returned
    obtain ⟨ready, assigned, keyed⟩ := ready_of_prepare setup.regular prepared
    exact ⟨ready, assigned, fun plain plain' => (keys keyed derived plain plain').1 rfl⟩
  · intro acts before later start final original given ticket? key run split first handle returned
    obtain ⟨request, rival, asked, prepared, -, -, rivalry⟩ :=
      refusal_of_returned run split first handle setup.regular returned
    obtain ⟨ready, assigned, keyed⟩ := ready_of_prepare setup.regular prepared
    refine ⟨ready, request, rival, asked, assigned, prepared, rivalry, fun plain plain' => ?_⟩
    obtain ⟨-, -, -, -, named, -, -, sender⟩ := rivalry
    obtain ⟨-, -, -, -, derived, -⟩ := sender
    exact (keys keyed derived plain plain').1 named.symm

/-! ## Two requests with the same components -/

section Paired

/-- Keys are trace numbers and terminals, joined by a colon. -/
def pairedSetup : Setup Message :=
  ⟨Message.codec, .vml, .composite [11, 41] ":", {}⟩

/-- A message with a trace number and a terminal. -/
def pairedMessage : Message :=
  ((Message.ofType "0200").withField 11 "000001").withField 41 "A"

/-- The message is sent twice, and the second request is refused. Then the first frame comes back. -/
def pairedRun : List (Act Message) :=
  [.play (.send pairedMessage none), .turn 0 true, .write, .write, .write, .write,
    .play (.send pairedMessage none), .turn 1 true, .write, .turn 1 false,
    .play (.arrive (.chunk ((frameOf pairedSetup.wiring pairedMessage).toOption.getD []))), .read,
    .read, .read, .turn 0 false]

/-- The link before the second send. -/
def pairedStart : Link Message :=
  (follow? pairedSetup.wiring fresh (pairedRun.take 6)).getD fresh

/-- The link after that run. -/
def pairedLink : Link Message :=
  (follow? pairedSetup.wiring fresh pairedRun).getD fresh

theorem follow?_pairedRun :
    follow? pairedSetup.wiring fresh (pairedRun.take 6) = some pairedStart ∧
      follow? pairedSetup.wiring fresh pairedRun = some pairedLink :=
  ⟨(Option.getD_of_ne_none (Option.isSome_iff_ne_none.1 (by decide +kernel)) fresh).symm,
    (Option.getD_of_ne_none (Option.isSome_iff_ne_none.1 (by decide +kernel)) fresh).symm⟩

theorem replied_pairedLink :
    .returned 0 (some 0) (.replied pairedMessage) ∈ pairedLink.history := by
  have told : (0, some 0, pairedMessage) ∈ pairedLink.history.filterMap Event.replied? := by
    decide +kernel
  obtain ⟨event, member, given⟩ := List.mem_filterMap.1 told
  rwa [Event.eq_of_replied? given] at member

theorem refused_pairedLink :
    .returned 1 (some 1) (.failed (.duplicateKey "000001:A")) ∈ pairedLink.history := by
  have told : (1, some 1, "000001:A") ∈ pairedLink.history.filterMap Event.collided? := by
    decide +kernel
  obtain ⟨event, member, given⟩ := List.mem_filterMap.1 told
  rwa [Event.eq_of_collided? given] at member

theorem plain_pairedMessage : Plain Message.codec [11, 41] ":" pairedMessage := by
  have number : ':' ∉ (pairedMessage.text 11).toList := by decide +kernel
  have terminal : ':' ∉ (pairedMessage.text 41).toList := by decide +kernel
  intro id member text read c inside
  cases read
  obtain rfl : c = ':' := by simpa using inside
  rcases List.mem_cons.1 member with rfl | member
  · exact number
  · rw [List.mem_singleton.1 member]
    exact terminal

theorem identifying_of_composite_paired :
    pairedSetup.policy = .composite [11, 41] ":" ∧ ":" ≠ "" ∧
      Identifying pairedSetup [11, 41] ":" ∧
      Agree Message.codec [11, 41] pairedMessage pairedMessage ∧
      ∃ request rival asked, Rivalry pairedSetup.wiring pairedRun request rival asked := by
  have identifying : Identifying pairedSetup [11, 41] ":" :=
    identifying_of_composite rfl (by decide)
  obtain ⟨start, run⟩ := follow?_pairedRun
  refine ⟨rfl, by decide, identifying, ?_, ?_⟩
  · have split : pairedRun = [] ++ .play (.send pairedMessage none) :: pairedRun.tail := rfl
    obtain ⟨ready, assigned, agree⟩ := identifying.replies run split rfl rfl replied_pairedLink
    cases assigned
    exact agree plain_pairedMessage plain_pairedMessage
  · have split : pairedRun =
        pairedRun.take 6 ++ .play (.send pairedMessage none) :: pairedRun.drop 7 := rfl
    have handle : pairedStart.handle = true := by decide +kernel
    have made : pairedStart.made = 1 := by decide +kernel
    have refused := refused_pairedLink
    rw [← made] at refused
    obtain ⟨-, request, rival, asked, -, -, rivalry, -⟩ :=
      identifying.refusals run split start handle refused
    exact ⟨request, rival, asked, rivalry⟩

end Paired

end Link

end Multiplex
