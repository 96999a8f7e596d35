import Multiplex.Proofs.PickUps
import Multiplex.Proofs.Records
import Multiplex.Proofs.TraceCycle
import Multiplex.Proofs.Wire

/-!
# Trace numbers in flight

A link that numbers all of its requests itself, and correlates them by these numbers, counts from
000001 on and goes round: the number issued as the `i`-th is `i` modulo a million, whatever has
become of the requests before (`counted_of_run`). So two requests have the same number only if whole
rounds lie between them (`rounds_of_keys`), and a request can be refused only because of one that is
still registered after a whole round.

Main statement: `cycling_of_run`.
-/

namespace Multiplex

variable {M : Type}

/-- The trace number that an event issues. -/
def Event.issued? : Event M → Option String
  | .issued stan => some stan
  | _ => none

/-- The trace numbers that have been issued, in order. -/
def issuedNumbers (history : List (Event M)) : List String :=
  (history.filterMap Event.issued?).reverse

theorem issuedNumbers_append (new history : List (Event M)) :
    issuedNumbers (new ++ history) = issuedNumbers history ++ issuedNumbers new := by
  rw [issuedNumbers, List.filterMap_append, List.reverse_append, issuedNumbers, issuedNumbers]

/-- Events that issue nothing. -/
theorem issuedNumbers_of_quiet (events : List (Event M))
    (quiet : ∀ event ∈ events, event.issued? = none) (history : List (Event M)) :
    issuedNumbers (events ++ history) = issuedNumbers history := by
  have none : issuedNumbers events = [] := by
    rw [issuedNumbers, List.reverse_eq_nil_iff, List.filterMap_eq_nil_iff]
    exact quiet
  rw [issuedNumbers_append, none, List.append_nil]

namespace Stan

/-- A trace number fits into a field. -/
theorem length_encode_text (stan : Stan) : (Text.encode stan.text).length ≤ 24 := by
  have most (n : Nat) : (String.utf8EncodeChar (Nat.digitChar n)).length ≤ 4 := by
    rw [String.length_utf8EncodeChar]
    exact Char.utf8Size_le_four _
  rw [text, render, Text.encode_ofList]
  simp only [List.flatMap_cons, List.flatMap_nil, List.length_append, List.length_nil]
  have := most (stan.last / 100000 % 10)
  have := most (stan.last / 10000 % 10)
  have := most (stan.last / 1000 % 10)
  have := most (stan.last / 100 % 10)
  have := most (stan.last / 10 % 10)
  have := most (stan.last % 10)
  omega

theorem text_ne_empty (stan : Stan) : stan.text ≠ "" := by
  intro empty
  have none := congrArg String.toList empty
  rw [text, render, String.toList_ofList] at none
  cases none

end Stan

/-- The message leaves the field for the trace number empty, and a number can be set there and is
what is read afterwards. -/
structure Blank (setup : Setup M) (message : M) : Prop where
  empty : setup.codec.text message setup.config.stanField = .ok ""
  takes : ∀ stan : Stan, ∃ ready,
    setup.codec.set message setup.config.stanField stan.text = .ok ready ∧
      setup.codec.text ready setup.config.stanField = .ok stan.text

namespace Link

/-- How many trace numbers have been issued. -/
def issuedCount (link : Link M) : Nat :=
  (issuedNumbers link.history).length

/-- The numbers issued so far go round, and the counter holds the last one. -/
structure Counted (link : Link M) : Prop where
  last : link.stan.last = link.issuedCount % 1000000
  numbers : ∀ i text, (issuedNumbers link.history)[i]? = some text →
    text = Stan.render ((i + 1) % 1000000)

variable {wiring : Wiring M} {setup : Setup M} {act : Act M}
  {acts before before' later later' more : List (Act M)} {link next start start' final : Link M}
  {original original' asked : M} {given given' : Option Nat} {request rival : Request}
  {ticket holder : Ticket} {key : String}

/-! ## The counter -/

theorem counted_fresh : (fresh : Link M).Counted where
  last := rfl
  numbers i text some := by
    have none : issuedNumbers (fresh : Link M).history = [] := rfl
    rw [none, List.getElem?_nil] at some
    cases some

/-- A number is issued by the counter, and by nothing else. -/
theorem issued_of_change (change : Change wiring act link next) :
    (next.stan = link.stan ∧ issuedNumbers next.history = issuedNumbers link.history) ∨
      (next.stan = link.stan.next ∧
        issuedNumbers next.history = issuedNumbers link.history ++ [link.stan.next.text]) := by
  have quiet (event : Event M) (none : event.issued? = none) :
      issuedNumbers (event :: link.history) = issuedNumbers link.history :=
    issuedNumbers_of_quiet [event] (by simpa using none) _
  cases change with
  | aside only =>
    refine .inl ⟨rfl, issuedNumbers_of_quiet _ (fun event member => ?_) _⟩
    have remark := only event member
    cases event with
    | issued stan => cases remark
    | _ => rfl
  | issue => exact .inr ⟨rfl, issuedNumbers_append [_] _⟩
  | drain | send | reject | enqueue | finish | conclude | undecoded | unclaimed | late | refuse
  | register | sent | fail => exact .inl ⟨rfl, quiet _ rfl⟩
  | claimed | skip =>
    exact .inl ⟨rfl, issuedNumbers_of_quiet [_, _] (by simp [Event.issued?]) _⟩
  | _ => exact .inl ⟨rfl, rfl⟩

theorem Counted.change (change : Change wiring act link next) (counted : link.Counted) :
    next.Counted := by
  obtain ⟨last, numbers⟩ := counted
  rcases issued_of_change change with ⟨stan, same⟩ | ⟨stan, one⟩
  · refine ⟨?_, ?_⟩
    · rw [stan, last, issuedCount, issuedCount, same]
    · rw [same]
      exact numbers
  · have following : link.stan.next.last = (link.issuedCount + 1) % 1000000 := by
      rw [Stan.last_next, last]
      omega
    refine ⟨?_, ?_⟩
    · rw [stan, following, issuedCount, issuedCount, one, List.length_append, List.length_singleton]
    · intro i text some
      rw [one, List.getElem?_append] at some
      split at some
      · exact numbers i text some
      · next beyond =>
        rw [List.getElem?_singleton] at some
        split at some
        · next first =>
          have place : i = link.issuedCount := by
            rw [issuedCount]
            omega
          cases some
          rw [Stan.text, following, place]
        · cases some

/-- In every run the numbers go round. -/
theorem counted_of_run (run : follow? wiring fresh acts = some link) : link.Counted :=
  sound_fresh.follow_keeps (motive := Counted) (fun change _ => Counted.change change) run
    counted_fresh

/-! ## Who takes which number -/

/-- A send issues a number exactly if its message needs one. -/
theorem issued_of_send (timeout : Option Nat) :
    issuedNumbers (link.send wiring original timeout).history = issuedNumbers link.history ++
      if issues wiring link original then [link.stan.next.text] else [] := by
  have numbered : issuedNumbers (numbering wiring link original).history =
      issuedNumbers link.history ++
        if issues wiring link original then [link.stan.next.text] else [] := by
    rw [numbering, issuedNumbers_append]
    split <;> rfl
  cases prepared : prepare wiring link original with
  | mk result after =>
    cases result with
    | error error =>
      have failed : (prepare wiring link original).1 = .error error := by rw [prepared]
      rw [send_of_error failed]
      exact (issuedNumbers_of_quiet [_] (by simp [Event.issued?]) _).trans numbered
    | ok request =>
      have active : link.phase = .active := by
        apply Decidable.not_not.1
        intro inactive
        rw [prepare_of_inactive inactive] at prepared
        cases prepared
      have quiet : issuedNumbers after.history =
          issuedNumbers (numbering wiring link original).history := by
        rw [prepare_of_active active] at prepared
        split at prepared
        · cases prepared
        · split at prepared
          · cases prepared
          · cases prepared
            exact issuedNumbers_of_quiet [_] (by simp [Event.issued?]) _
      rw [send, prepared]
      exact quiet.trans numbered

theorem ticket_of_prepare (prepared : (prepare wiring link original).1 = .ok request) :
    link.phase = .active ∧ request.ticket = link.exchanges.length := by
  have active : link.phase = .active := by
    apply Decidable.not_not.1
    intro inactive
    rw [prepare_of_inactive inactive] at prepared
    cases prepared
  refine ⟨active, ?_⟩
  rw [prepare_of_active active] at prepared
  split at prepared
  · cases prepared
  · split at prepared
    · cases prepared
    · cases prepared
      rfl

/-- With a number in the configured field, that number is the key. -/
theorem key_of_text (policy : setup.policy = .field setup.config.stanField) {stan : Stan}
    {ready : M} (read : setup.codec.text ready setup.config.stanField = .ok stan.text) :
    setup.wiring.key ready = .ok stan.text := by
  rw [Setup.wiring, policy]
  show Policy.component setup.codec ready setup.config.stanField = _
  rw [Policy.component, read]
  exact if_neg stan.text_ne_empty

/-- A message that the link numbers has its number as its key. -/
theorem key_of_blank (policy : setup.policy = .field setup.config.stanField) {stan : Stan}
    (blank : Blank setup original) (assigned : (assignStan setup.wiring stan original).1 = .ok asked)
    (keyed : setup.wiring.key asked = .ok key) : key = stan.next.text := by
  obtain ⟨ready, set, read⟩ := blank.takes stan.next
  have numbered : assignStan setup.wiring stan original = (.ok ready, stan.next) :=
    assignStan_eq_ok_iff.2 (.issued blank.empty set)
  rw [numbered] at assigned
  obtain rfl := Except.ok.inj assigned
  exact Except.ok.inj (keyed.symm.trans (key_of_text policy read))

/-- A send on an active link takes the next number, even if no request comes of it. -/
theorem takes_of_send (run : follow? setup.wiring fresh before = some start)
    (handle : start.handle = true) (active : start.phase = .active)
    (blank : Blank setup original) (given : Option Nat) :
    ∃ sent, act? setup.wiring start (.play (.send original given)) = some sent ∧
      issuedNumbers sent.history = issuedNumbers start.history ++
        [Stan.render ((start.issuedCount + 1) % 1000000)] := by
  have needs : issues setup.wiring start original = true := issues_iff.2 ⟨active, blank.empty⟩
  have next : start.stan.next.text = Stan.render ((start.issuedCount + 1) % 1000000) := by
    rw [Stan.text, Stan.last_next, (counted_of_run run).last]
    congr 1
    omega
  refine ⟨start.send setup.wiring original (given <|> setup.wiring.config.requestTimeout), ?_, ?_⟩
  · rw [act?, play, withHandle, if_pos handle]
  · rw [issued_of_send, needs, if_pos rfl, next]

/-- The key of a request is the number that its send takes. -/
theorem key_of_prepare (policy : setup.policy = .field setup.config.stanField)
    (run : follow? setup.wiring fresh before = some start) (blank : Blank setup original)
    (prepared : (prepare setup.wiring start original).1 = .ok request) :
    request.key = Stan.render ((start.issuedCount + 1) % 1000000) := by
  obtain ⟨asked, assigned, keyed⟩ := ready_of_prepare setup.regular prepared
  rw [key_of_blank policy blank assigned keyed, Stan.text, Stan.last_next,
    (counted_of_run run).last]
  congr 1
  omega

/-! ## Two sends -/

/-- Two positions in a list are the same, or one of them comes first. -/
theorem positions {α : Type} {list before before' later later' : List α} {a b : α}
    (split : list = before ++ a :: later) (split' : list = before' ++ b :: later') :
    (before = before' ∧ a = b) ∨ (∃ more, before' = before ++ a :: more) ∨
      ∃ more, before = before' ++ b :: more := by
  rcases List.append_eq_append_iff.1 (split.symm.trans split') with
    ⟨between, eq, rest⟩ | ⟨between, eq, rest⟩
  · cases between with
    | nil => exact .inl ⟨by rw [eq, List.append_nil], (List.cons.inj rest).1⟩
    | cons c more =>
      obtain ⟨rfl, -⟩ := List.cons.inj rest
      exact .inr (.inl ⟨more, eq⟩)
  · cases between with
    | nil => exact .inl ⟨by rw [eq, List.append_nil], (List.cons.inj rest).1.symm⟩
    | cons c more =>
      obtain ⟨rfl, -⟩ := List.cons.inj rest
      exact .inr (.inr ⟨more, eq⟩)

/-- What a send takes is taken from then on. -/
theorem taken_of_send (first : follow? setup.wiring fresh before = some start)
    (handle : start.handle = true) (blank : Blank setup original)
    (prepared : (prepare setup.wiring start original).1 = .ok request)
    (run : follow? setup.wiring fresh (before ++ .play (.send original given) :: more) =
      some final) :
    request.ticket < final.exchanges.length ∧ start.issuedCount < final.issuedCount := by
  obtain ⟨active, -⟩ := ticket_of_prepare prepared
  obtain ⟨sent, moved, onward⟩ := follow?_cons.1 (follow?_rest first run)
  obtain ⟨sent', moved', issued⟩ := takes_of_send first handle active blank given
  obtain rfl := Option.some.inj (moved.symm.trans moved')
  have sound := (sound_of_run first).after moved
  have grows := Grows.of_follow sound onward
  have waits := mem_calls_of_send (given <|> setup.wiring.config.requestTimeout) prepared
  rw [act?, play, withHandle, if_pos handle] at moved
  cases moved
  constructor
  · exact Nat.lt_of_lt_of_le (sound.owned.waiting waits rfl).2 grows.exchanges.length_le
  · obtain ⟨new, history⟩ := grows.history
    rw [issuedCount, issuedCount, history, issuedNumbers_append, issued]
    simp only [List.length_append, List.length_singleton]
    omega

/-- Between two sends whose requests have the same key there are whole rounds. -/
theorem rounds_of_keys (policy : setup.policy = .field setup.config.stanField)
    (blank : Blank setup original) (blank' : Blank setup original')
    (split : acts = before ++ .play (.send original given) :: later)
    (split' : acts = before' ++ .play (.send original' given') :: later')
    (run : follow? setup.wiring fresh before = some start)
    (run' : follow? setup.wiring fresh before' = some start')
    (handle : start.handle = true) (handle' : start'.handle = true)
    (prepared : (prepare setup.wiring start original).1 = .ok request)
    (prepared' : (prepare setup.wiring start' original').1 = .ok rival)
    (other : rival.ticket ≠ request.ticket) (named : rival.key = request.key) :
    ∃ turns, 0 < turns ∧
      (rival.ticket < request.ticket ∧
          start.issuedCount = start'.issuedCount + turns * 1000000 ∨
        request.ticket < rival.ticket ∧
          start'.issuedCount = start.issuedCount + turns * 1000000) := by
  have key := key_of_prepare policy run blank prepared
  have key' := key_of_prepare policy run' blank' prepared'
  have same : (start'.issuedCount + 1) % 1000000 = (start.issuedCount + 1) % 1000000 := by
    apply Stan.render_injective (Nat.mod_lt _ (by decide)) (Nat.mod_lt _ (by decide))
    rw [← key, ← key', named]
  have rounds {m n : Nat} (fewer : m < n) (same : (m + 1) % 1000000 = (n + 1) % 1000000) :
      ∃ turns, 0 < turns ∧ n = m + turns * 1000000 :=
    ⟨(n - m) / 1000000, by omega, by omega⟩
  have ticket := (ticket_of_prepare prepared).2
  have ticket' := (ticket_of_prepare prepared').2
  -- the send that comes first has taken its ticket and its number before the other one
  rcases positions split split' with ⟨rfl, same'⟩ | ⟨more, rfl⟩ | ⟨more, rfl⟩
  · obtain rfl := Option.some.inj (run.symm.trans run')
    exact absurd (ticket'.trans ticket.symm) other
  · obtain ⟨inside, fewer⟩ := taken_of_send run handle blank prepared run'
    obtain ⟨turns, positive, apart⟩ := rounds fewer same.symm
    exact ⟨turns, positive, .inr ⟨ticket' ▸ inside, apart⟩⟩
  · obtain ⟨inside, fewer⟩ := taken_of_send run' handle' blank' prepared' run
    obtain ⟨turns, positive, apart⟩ := rounds fewer same
    exact ⟨turns, positive, .inl ⟨ticket ▸ inside, apart⟩⟩

/-! ## A fair queue -/

/-- A request that the writer has left out has lost its caller. -/
theorem gone_of_skipped (run : follow? wiring fresh acts = some link)
    (skipped : .skipped ticket key ∈ link.history) :
    link.exchanges.isAbandoned ticket = true := by
  have all : ∀ ticket key, .skipped ticket key ∈ link.history →
      ticket < link.exchanges.length ∧ link.exchanges.isAbandoned ticket = true := by
    refine sound_fresh.follow_keeps (motive := fun link => ∀ ticket key,
      .skipped ticket key ∈ link.history →
        ticket < link.exchanges.length ∧ link.exchanges.isAbandoned ticket = true) ?_ run ?_
    · intro act link next change sound old ticket key member
      have grows := Grows.of_change change sound.owned
      have kept (before : .skipped ticket key ∈ link.history) :
          ticket < next.exchanges.length ∧ next.exchanges.isAbandoned ticket = true := by
        obtain ⟨inside, gone⟩ := old ticket key before
        exact ⟨Nat.lt_of_lt_of_le inside grows.exchanges.length_le,
          grows.exchanges.abandoned _ inside gone⟩
      cases change with
      | aside only => exact kept (only.mem_of_append rfl member)
      | @skip request rest active idle first free gone =>
        rcases List.mem_cons.1 member with new | before
        · cases new
          have queued : request.ticket ∈ link.queue.map Request.ticket := by simp [first]
          have held := sound.owned.poll_of_queued queued
          have inside := Exchanges.lt_length_of_poll held
          exact ⟨Nat.lt_of_lt_of_le inside grows.exchanges.length_le,
            grows.exchanges.abandoned _ inside gone⟩
        · exact kept (by simpa using before)
      | _ => exact kept (by simpa using member)
    · intro ticket key member
      simp [fresh] at member
  exact (all ticket key skipped).2

/-- In a fair run a live entry is that of a request which was made before the one that is picked
up. -/
theorem earlier_of_fair (run : follow? wiring fresh acts = some link)
    (fair : Fair wiring fresh acts) (picked : link.pickUp? act = some request)
    (found : link.table.find? key = some holder)
    (live : link.exchanges.isAbandoned holder = false) : holder < request.ticket := by
  obtain ⟨-, pieces, laid, -⟩ := laid_of_run run
  obtain ⟨-, -, -, rest, first⟩ := pickUp?_eq_some_iff.1 picked
  have registered := (consistent_of_run run).registered_of_slot (Table.mem_of_find? found)
  have kept : ∀ key, .skipped holder key ∉ link.history := by
    intro key skipped
    rw [gone_of_skipped run skipped] at live
    cases live
  -- the writer has begun with it, so it was handed over before whatever is still in the queue
  have written := (laid.begun holder).2 ⟨⟨_, registered⟩, kept⟩
  have queued : request.ticket ∈ link.queue.map Request.ticket := by simp [first]
  have order := (ascending_of_fair run fair).sublist laid.order
  exact (List.pairwise_append.1 order).2.2 holder written request.ticket queued

/-! ## The cycle -/

/-- The request was made on the link `start` by a send of the run. -/
def MadeOn (wiring : Wiring M) (acts : List (Act M)) (start : Link M) (request : Request) : Prop :=
  ∃ before later original given, acts = before ++ .play (.send original given) :: later ∧
    follow? wiring fresh before = some start ∧ (prepare wiring start original).1 = .ok request

/-- The trace numbers of a run go round, and nobody is refused because of a number of the same
round. -/
structure Cycling (setup : Setup M) (acts : List (Act M)) (final : Link M) : Prop where
  /-- The numbers are issued in turn, whatever becomes of the requests. -/
  numbers : ∀ i text, (issuedNumbers final.history)[i]? = some text →
    text = Stan.render ((i + 1) % 1000000)
  /-- A send on an active link takes the next number, even if no request comes of it. A request has
  its number as its key. -/
  takes : ∀ {before later : List (Act M)} {start : Link M} {original : M} {given : Option Nat},
    acts = before ++ .play (.send original given) :: later →
      follow? setup.wiring fresh before = some start → start.handle = true →
        start.phase = .active →
          ∃ sent, act? setup.wiring start (.play (.send original given)) = some sent ∧
            issuedNumbers sent.history = issuedNumbers start.history ++
              [Stan.render ((start.issuedCount + 1) % 1000000)] ∧
            ∀ request, (prepare setup.wiring start original).1 = .ok request →
              request.key = Stan.render ((start.issuedCount + 1) % 1000000)
  /-- A send returns a duplicate key only because of a rival that was registered when its request was
  picked up, and whose caller was waiting. Whole rounds lie between their numbers, and that of the
  rival was issued first if the queue is fair. -/
  refusals : ∀ {before later : List (Act M)} {start : Link M} {original : M} {given : Option Nat}
    {ticket? : Option Ticket} {key : String},
    acts = before ++ .play (.send original given) :: later →
      follow? setup.wiring fresh before = some start → start.handle = true →
        .returned start.made ticket? (.failed (.duplicateKey key)) ∈ final.history →
          ∃ request rival asked start' turns,
            (prepare setup.wiring start original).1 = .ok request ∧
              Rivalry setup.wiring acts request rival asked ∧
              MadeOn setup.wiring acts start' rival ∧ 0 < turns ∧
              (start.issuedCount = start'.issuedCount + turns * 1000000 ∨
                start'.issuedCount = start.issuedCount + turns * 1000000) ∧
              (Fair setup.wiring fresh acts →
                start.issuedCount = start'.issuedCount + turns * 1000000)
  /-- In the first round no send returns a duplicate key, fair queue or not. -/
  spared : final.issuedCount ≤ 1000000 →
    ∀ {before later : List (Act M)} {start : Link M} {original : M} {given : Option Nat}
      {ticket? : Option Ticket} {key : String},
      acts = before ++ .play (.send original given) :: later →
        follow? setup.wiring fresh before = some start → start.handle = true →
          .returned start.made ticket? (.failed (.duplicateKey key)) ∉ final.history

theorem mem_sends (split : acts = before ++ .play (.send original given) :: later) :
    original ∈ sends acts := by
  rw [split, sends, List.filterMap_append]
  exact List.mem_append_right _ List.mem_cons_self

/-- The refusal of a send, with the send of its rival and how many rounds lie between them. -/
theorem rounds_of_returned (policy : setup.policy = .field setup.config.stanField)
    (blank : ∀ message ∈ sends acts, Blank setup message)
    (run : follow? setup.wiring fresh acts = some final)
    (split : acts = before ++ .play (.send original given) :: later)
    (first : follow? setup.wiring fresh before = some start) (handle : start.handle = true)
    {ticket? : Option Ticket}
    (returned : .returned start.made ticket? (.failed (.duplicateKey key)) ∈ final.history) :
    ∃ request rival asked start' turns,
      (prepare setup.wiring start original).1 = .ok request ∧
        Rivalry setup.wiring acts request rival asked ∧
        MadeOn setup.wiring acts start' rival ∧ 0 < turns ∧
        start.issuedCount < final.issuedCount ∧ start'.issuedCount < final.issuedCount ∧
        (start.issuedCount = start'.issuedCount + turns * 1000000 ∨
          start'.issuedCount = start.issuedCount + turns * 1000000) ∧
        (Fair setup.wiring fresh acts →
          start.issuedCount = start'.issuedCount + turns * 1000000) := by
  obtain ⟨request, rival, asked, prepared, -, -, rivalry⟩ :=
    refusal_of_returned run split first handle setup.regular returned
  obtain @⟨earlier, rest, mid, number, handed, timer, whole, path, picked, other, named, filed,
    waits, sender⟩ := id rivalry
  obtain @⟨before', later', start', original', given', split', first', handle', -, -, prepared'⟩ :=
    sender.append (.write :: rest)
  rw [← whole] at split'
  have own := blank _ (mem_sends split)
  have own' := blank _ (mem_sends split')
  obtain ⟨turns, positive, apart⟩ := rounds_of_keys policy own own' split split' first first'
    handle handle' prepared prepared' other named
  have fewer := (taken_of_send first handle own prepared (split ▸ run)).2
  have fewer' := (taken_of_send first' handle' own' prepared' (split' ▸ run)).2
  refine ⟨request, rival, asked, start', turns, prepared, rivalry,
    ⟨before', later', original', given', split', first', prepared'⟩, positive, fewer, fewer',
    apart.imp And.right And.right, fun fair => ?_⟩
  have live := ((consistent_of_run path).sound.owned.waiting waits rfl).1
  have earlier := earlier_of_fair path ((fair_append path).1 (whole ▸ fair)).1 picked filed live
  rcases apart with ⟨-, apart⟩ | ⟨later, -⟩
  · exact apart
  · exact absurd earlier (Nat.lt_asymm later)

/-- If a link numbers all messages of a run, and correlates them by these numbers, its numbers go
round and do not collide within a round. -/
theorem cycling_of_run (policy : setup.policy = .field setup.config.stanField)
    (blank : ∀ message ∈ sends acts, Blank setup message)
    (run : follow? setup.wiring fresh acts = some final) : Cycling setup acts final := by
  refine ⟨(counted_of_run run).numbers, ?_, ?_, ?_⟩
  · intro before later start original given split first handle active
    have own := blank _ (mem_sends split)
    obtain ⟨sent, moved, issued⟩ := takes_of_send first handle active own given
    exact ⟨sent, moved, issued, fun request prepared => key_of_prepare policy first own prepared⟩
  · intro before later start original given ticket? key split first handle returned
    obtain ⟨request, rival, asked, start', turns, prepared, rivalry, made, positive, -, -, apart,
      fair⟩ := rounds_of_returned policy blank run split first handle returned
    exact ⟨request, rival, asked, start', turns, prepared, rivalry, made, positive, apart, fair⟩
  -- a whole round between two numbers needs more numbers than there have been
  · intro few before later start original given ticket? key split first handle returned
    obtain ⟨-, -, -, start', turns, -, -, -, positive, fewer, fewer', apart, -⟩ :=
      rounds_of_returned policy blank run split first handle returned
    rcases apart with apart | apart <;> omega

/-! ## A round of numbers -/

/-- A plain message whose field for the number is empty can be numbered. -/
theorem blank_of_empty (header : Header) (policy : Policy) (config : Config) {message : Message}
    (empty : message.text config.stanField = "") :
    Blank ⟨Message.codec, header, policy, config⟩ message where
  empty := congrArg Except.ok empty
  takes stan := by
    have fits : (Text.encode stan.text).length ≤ Message.maxValueLength :=
      Nat.le_trans stan.length_encode_text (by decide)
    refine ⟨_, Message.set_eq_ok_iff.2 ⟨fits, rfl⟩, ?_⟩
    show Except.ok ((message.withField config.stanField stan.text).text config.stanField) = _
    rw [Message.text, Message.field?_withField, if_pos rfl, Option.getD_some]

section Lapped

/-- Plain messages, with headers and keys as a link has them by default. -/
def plainSetup : Setup Message :=
  ⟨Message.codec, .vml, .field 11, {}⟩

/-- A message without a number is sent. -/
def sendOf (indicator : String) : Act Message :=
  .play (.send (Message.ofType indicator) none)

/-- Why a message cannot be packed whose type indicator is too short. -/
def misfit : LinkError :=
  .unencodable (.badType "02" "expected 4 ascii characters")

theorem blank_ofType (indicator : String) : Blank plainSetup (Message.ofType indicator) :=
  blank_of_empty _ _ _ rfl

/-- The history of a link after some more sends that failed for a misfit. -/
def spentHistory (link : Link Message) : Nat → List (Event Message)
  | 0 => link.history
  | n + 1 =>
    .returned (link.made + n) none (.failed misfit) ::
      .issued (Stan.render ((link.stan.last + (n + 1)) % 1000000)) :: spentHistory link n

/-- The link after some more sends that failed for a misfit, each of which has taken a number. -/
def spent (link : Link Message) (n : Nat) : Link Message :=
  { link with
    stan := ⟨(link.stan.last + n) % 1000000, Nat.le_of_lt_succ (Nat.mod_lt _ (by decide))⟩
    made := link.made + n
    history := spentHistory link n }

theorem spent_zero (link : Link Message) : spent link 0 = link := by
  have same : (spent link 0).stan = link.stan :=
    Stan.eq_of_last (Nat.mod_eq_of_lt (Nat.lt_succ_of_le link.stan.last_le))
  exact congrArg (fun stan => { link with stan }) same

variable {link : Link Message}

theorem stan_next_spent (link : Link Message) (n : Nat) :
    (spent link n).stan.next = (spent link (n + 1)).stan := by
  apply Stan.eq_of_last
  rw [Stan.last_next]
  show ((link.stan.last + n) % 1000000 + 1) % 1000000 = (link.stan.last + (n + 1)) % 1000000
  omega

/-- A send that fails for a misfit takes a number. -/
theorem act?_misfit (handle : link.handle = true) (active : link.phase = .active) (n : Nat) :
    act? plainSetup.wiring (spent link n) (sendOf "02") = some (spent link (n + 1)) := by
  have active' : (spent link n).phase = .active := active
  have blank := blank_ofType "02"
  obtain ⟨ready, set, read⟩ := blank.takes (spent link n).stan.next
  obtain ⟨-, rfl⟩ := Message.set_eq_ok_iff.1 set
  have failed : (prepare plainSetup.wiring (spent link n) (Message.ofType "02")).1 =
      .error misfit :=
    Obstacle.prepare plainSetup.regular
      (.unframed active' (.issued blank.empty set) (key_of_text rfl read) (.unpackable (by rfl)))
  have needs : issues plainSetup.wiring (spent link n) (Message.ofType "02") = true :=
    issues_iff.2 ⟨active', blank.empty⟩
  have handle' : (spent link n).handle = true := handle
  rw [sendOf, act?, play, withHandle, if_pos handle', send_of_error failed, numbering, needs,
    if_pos rfl, if_pos rfl, stan_next_spent]
  rfl

/-- Any number of sends that fail for a misfit take as many numbers. -/
theorem follow?_misfits (handle : link.handle = true) (active : link.phase = .active) (n : Nat) :
    follow? plainSetup.wiring link (List.replicate n (sendOf "02")) = some (spent link n) := by
  induction n with
  | zero => exact congrArg some (spent_zero link).symm
  | succ n ih =>
    rw [List.replicate_succ', follow?_append]
    exact ⟨_, ih, follow?_cons.2 ⟨_, act?_misfit handle active n, rfl⟩⟩

theorem issuedCount_spent (link : Link Message) (n : Nat) :
    (spent link n).issuedCount = link.issuedCount + n := by
  show (issuedNumbers (spentHistory link n)).length = _
  induction n with
  | zero => rfl
  | succ n ih =>
    have one := issuedNumbers_append
      [.returned (link.made + n) none (.failed misfit),
        .issued (Stan.render ((link.stan.last + (n + 1)) % 1000000))] (spentHistory link n)
    rw [List.cons_append, List.cons_append, List.nil_append] at one
    rw [spentHistory, one, List.length_append, ih]
    rfl

/-- No request comes of sends that fail for a misfit, so they take no place in any line. -/
theorem fair_misfits (handle : link.handle = true) (active : link.phase = .active) (n : Nat) :
    Fair plainSetup.wiring link (List.replicate n (sendOf "02")) := by
  induction n with
  | zero => trivial
  | succ n ih =>
    rw [List.replicate_succ', fair_append (follow?_misfits handle active n)]
    refine ⟨ih, ?_, fun next moved => trivial⟩
    intro number favoured
    cases favoured

/-- The first request takes the number 000001, and waits for its reply. -/
def openingRun : List (Act Message) :=
  [sendOf "0200", .turn 0 true, .write, .write, .write, .write]

/-- Then the other numbers of the round are taken by sends of which no request comes, and one more
request takes the number 000001 again. -/
def closingRun : List (Act Message) :=
  [sendOf "0200", .turn 1000000 true, .write, .turn 1000000 false]

/-- All of a round of numbers and the first number of the next. -/
def lappedRun : List (Act Message) :=
  (openingRun ++ List.replicate 999999 (sendOf "02")) ++ closingRun

/-- The link on which the first request waits for its reply. -/
def openingLink : Link Message :=
  (follow? plainSetup.wiring fresh openingRun).getD fresh

/-- The link after the whole run. -/
def lappedLink : Link Message :=
  (follow? plainSetup.wiring (spent openingLink 999999) closingRun).getD fresh

theorem openingLink_eq : (follow? plainSetup.wiring fresh openingRun).isSome = true ∧
    Fair plainSetup.wiring fresh openingRun ∧ openingLink.handle = true ∧
    openingLink.phase = .active ∧ openingLink.made = 1 ∧ openingLink.issuedCount = 1 := by
  decide +kernel

-- the events of the million sends are never computed, only what comes on top of them
theorem lappedLink_eq :
    (follow? plainSetup.wiring (spent openingLink 999999) closingRun).isSome = true ∧
      Fair plainSetup.wiring (spent openingLink 999999) closingRun ∧
      lappedLink.history.head? =
        some (.returned 1000000 (some 1) (.failed (.duplicateKey "000001"))) := by
  decide +kernel

/-- All sends of the run are without a number. -/
theorem blank_of_lappedRun : ∀ message ∈ sends lappedRun, Blank plainSetup message := by
  intro message member
  obtain ⟨act, inside, given⟩ := List.mem_filterMap.1 member
  have sent : ∃ indicator, message = Message.ofType indicator := by
    rcases List.mem_append.1 inside with earlier | closing
    · rcases List.mem_append.1 earlier with opening | spent
      · simp only [openingRun, List.mem_cons, List.not_mem_nil, or_false] at opening
        rcases opening with rfl | rfl | rfl | rfl | rfl | rfl <;> cases given
        exact ⟨_, rfl⟩
      · rw [(List.mem_replicate.1 spent).2] at given
        cases given
        exact ⟨_, rfl⟩
    · simp only [closingRun, List.mem_cons, List.not_mem_nil, or_false] at closing
      rcases closing with rfl | rfl | rfl | rfl <;> cases given
      exact ⟨_, rfl⟩
  obtain ⟨indicator, rfl⟩ := sent
  exact blank_ofType indicator

/-- A request is refused because the first one, made a whole round before, still waits. -/
theorem cycling_of_run_unnumbered :
    plainSetup.policy = .field plainSetup.config.stanField ∧
      (∀ message ∈ sends lappedRun, Blank plainSetup message) ∧
      follow? plainSetup.wiring fresh lappedRun = some lappedLink ∧
      Fair plainSetup.wiring fresh lappedRun ∧ Cycling plainSetup lappedRun lappedLink ∧
      .returned 1000000 (some 1) (.failed (.duplicateKey "000001")) ∈ lappedLink.history ∧
      ∃ start rival, MadeOn plainSetup.wiring lappedRun start rival ∧ start.issuedCount = 0 := by
  obtain ⟨opens, fairly, handle, active, made, count⟩ := openingLink_eq
  obtain ⟨closes, fairly', last⟩ := lappedLink_eq
  have opening : follow? plainSetup.wiring fresh openingRun = some openingLink :=
    (Option.getD_of_ne_none (Option.isSome_iff_ne_none.1 opens) fresh).symm
  have round := follow?_misfits handle active 999999
  have before : follow? plainSetup.wiring fresh
      (openingRun ++ List.replicate 999999 (sendOf "02")) = some (spent openingLink 999999) :=
    follow?_append.2 ⟨openingLink, opening, round⟩
  have closing : follow? plainSetup.wiring (spent openingLink 999999) closingRun =
      some lappedLink :=
    (Option.getD_of_ne_none (Option.isSome_iff_ne_none.1 closes) fresh).symm
  have run : follow? plainSetup.wiring fresh lappedRun = some lappedLink :=
    follow?_append.2 ⟨_, before, closing⟩
  have fair : Fair plainSetup.wiring fresh lappedRun :=
    (fair_append before).2
      ⟨(fair_append opening).2 ⟨fairly, fair_misfits handle active 999999⟩, fairly'⟩
  have returned := List.mem_of_head? last
  have cycling := cycling_of_run rfl blank_of_lappedRun run
  -- the request that is refused was made by the first send of the next round
  have number : (spent openingLink 999999).made = 1000000 := by
    show openingLink.made + 999999 = 1000000
    rw [made]
  obtain ⟨-, rival, -, start, turns, -, -, rivals, positive, -, apart⟩ :=
    cycling.refusals rfl before handle (number ▸ returned)
  have whole := apart fair
  rw [issuedCount_spent, count] at whole
  exact ⟨rfl, blank_of_lappedRun, run, fair, cycling, returned, start, rival, rivals, by omega⟩

end Lapped

end Link

end Multiplex
