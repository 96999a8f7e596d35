import Multiplex.LinkError

/-!
# Exchanges

An exchange joins an entry, on which one outcome can be delivered, to the caller who waits for it.
Between them are two channels that carry at most one value each, one for a reply and one for an
error. The entry owns both senders and the caller both receivers. The entry is consumed by the
delivery, or dropped with no outcome; the caller may stop waiting at any time. What the caller sees
depends on the entry alone, whenever it looks.

Main statements: `poll_resolve`, `poll_fail` and `poll_drop` say what the caller sees after the
entry has been consumed in each of the three ways.
-/

namespace Multiplex

/-- The number of an exchange among those of one link. -/
abbrev Ticket := Nat

/-- What has become of the sender of a channel. -/
inductive Sender (α : Type) where
  | held
  | sent (value : α)
  /-- It is gone and nothing was sent. -/
  | dropped
  deriving DecidableEq, Repr

/-- A channel for at most one value. -/
structure Oneshot (α : Type) where
  sender : Sender α := .held
  /-- The receiver is still there. -/
  receiving : Bool := true
  deriving DecidableEq, Repr

namespace Oneshot

variable {α : Type}

/-- Sends a value, which takes the sender. With no receiver the value is handed back. -/
def send (channel : Oneshot α) (value : α) : Oneshot α × Option α :=
  if channel.receiving then ({ channel with sender := .sent value }, none)
  else ({ channel with sender := .dropped }, some value)

/-- Drops the sender, on which nothing was sent. -/
def hangUp (channel : Oneshot α) : Oneshot α :=
  { channel with sender := .dropped }

/-- Drops the receiver. -/
def close (channel : Oneshot α) : Oneshot α :=
  { channel with receiving := false }

@[simp] theorem receiving_send (channel : Oneshot α) (value : α) :
    (channel.send value).1.receiving = channel.receiving := by
  unfold send
  split <;> rfl

end Oneshot

/-- An entry and its caller, by the channels between them. -/
structure Exchange (M : Type) where
  reply : Oneshot M := {}
  error : Oneshot LinkError := {}
  /-- The caller owns the receivers of both. -/
  together : reply.receiving = error.receiving := by rfl

namespace Exchange

variable {M : Type}

/-- An exchange whose caller waits and whose entry is held. -/
def fresh : Exchange M :=
  {}

/-- The caller has stopped waiting. -/
def isAbandoned (exchange : Exchange M) : Bool :=
  !exchange.reply.receiving

/-- What the caller sees when it looks: nothing yet, or the result of the exchange. A reply comes
before an error, a channel that was hung up is not waited for, and an entry that was dropped reads
as a closed link. -/
def poll (exchange : Exchange M) : Option (Except LinkError M) :=
  match exchange.reply.sender, exchange.error.sender with
  | .sent message, _ => some (.ok message)
  | _, .sent error => some (.error error)
  | .dropped, .dropped => some (.error .closed)
  | .held, _ | _, .held => none

/-! An entry is consumed in two steps, one for each channel, and the caller may look between
them. -/

/-- Sends a message, and hands it back with nobody waiting. -/
def sendReply (exchange : Exchange M) (message : M) : Exchange M × Option M :=
  ({ exchange with
      reply := (exchange.reply.send message).1
      together := by rw [Oneshot.receiving_send, exchange.together] },
    (exchange.reply.send message).2)

/-- Sends an error, and hands it back with nobody waiting. -/
def sendError (exchange : Exchange M) (error : LinkError) : Exchange M × Option LinkError :=
  ({ exchange with
      error := (exchange.error.send error).1
      together := by rw [Oneshot.receiving_send, exchange.together] },
    (exchange.error.send error).2)

/-- Hangs up the channel for a reply. -/
def hangUpReply (exchange : Exchange M) : Exchange M :=
  { exchange with reply := exchange.reply.hangUp, together := exchange.together }

/-- Hangs up the channel for an error. -/
def hangUpError (exchange : Exchange M) : Exchange M :=
  { exchange with error := exchange.error.hangUp, together := exchange.together }

/-- Delivers a reply. With nobody waiting the message is handed back. -/
def resolve (exchange : Exchange M) (message : M) : Exchange M × Option M :=
  let (exchange, returned) := exchange.sendReply message
  (exchange.hangUpError, returned)

/-- Delivers an error, and says whether anybody waited for it. -/
def fail (exchange : Exchange M) (error : LinkError) : Exchange M × Bool :=
  let (exchange, returned) := exchange.sendError error
  (exchange.hangUpReply, returned.isNone)

/-- Drops an entry that no outcome was delivered on. -/
def drop (exchange : Exchange M) : Exchange M :=
  match exchange.poll with
  | none => exchange.hangUpReply.hangUpError
  | some _ => exchange

/-- The caller stops waiting. -/
def leave (exchange : Exchange M) : Exchange M :=
  { exchange with
    reply := exchange.reply.close
    error := exchange.error.close
    together := rfl }

@[simp] theorem poll_fresh : (fresh : Exchange M).poll = none := rfl

variable (exchange : Exchange M)

theorem poll_resolve (message : M) :
    (exchange.resolve message).1.poll =
      some (if exchange.isAbandoned then .error .closed else .ok message) := by
  cases receiving : exchange.reply.receiving <;>
    simp [resolve, sendReply, hangUpError, Oneshot.hangUp, Oneshot.send, isAbandoned, poll,
      receiving]

theorem poll_fail (error : LinkError) :
    (exchange.fail error).1.poll =
      some (.error (if exchange.isAbandoned then .closed else error)) := by
  have receiving := exchange.together
  cases waits : exchange.reply.receiving <;> rw [waits] at receiving <;>
    simp [fail, sendError, hangUpReply, Oneshot.hangUp, Oneshot.send, isAbandoned, poll, waits,
      ← receiving]

theorem poll_drop :
    exchange.drop.poll = if exchange.poll = none then some (.error .closed) else exchange.poll := by
  unfold drop
  cases seen : exchange.poll with
  | none => rfl
  | some result => simp [seen]

@[simp] theorem poll_leave : exchange.leave.poll = exchange.poll := rfl

@[simp] theorem isAbandoned_resolve (message : M) :
    (exchange.resolve message).1.isAbandoned = exchange.isAbandoned := by
  simp [resolve, sendReply, hangUpError, isAbandoned]

@[simp] theorem isAbandoned_fail (error : LinkError) :
    (exchange.fail error).1.isAbandoned = exchange.isAbandoned := rfl

@[simp] theorem isAbandoned_drop : exchange.drop.isAbandoned = exchange.isAbandoned := by
  unfold drop
  split <;> rfl

@[simp] theorem isAbandoned_leave : exchange.leave.isAbandoned = true := rfl

/-- A message is handed back exactly if nobody waits for it. -/
theorem resolve_snd (message : M) :
    (exchange.resolve message).2 = if exchange.isAbandoned then some message else none := by
  cases receiving : exchange.reply.receiving <;>
    simp [resolve, sendReply, Oneshot.send, isAbandoned, receiving]

/-- An error reaches exactly a caller who waits. -/
theorem fail_snd (error : LinkError) : (exchange.fail error).2 = !exchange.isAbandoned := by
  cases receiving : exchange.error.receiving <;>
    simp [fail, sendError, Oneshot.send, isAbandoned, exchange.together, receiving]

end Exchange

/-- The exchanges of one link; a ticket is an index into them. -/
abbrev Exchanges (M : Type) := List (Exchange M)

namespace Exchanges

variable {M : Type}

/-- The caller of a ticket has stopped waiting. -/
def isAbandoned (exchanges : Exchanges M) (ticket : Ticket) : Bool :=
  match exchanges[ticket]? with
  | some exchange => exchange.isAbandoned
  | none => true

/-- What the caller of a ticket sees. -/
def poll (exchanges : Exchanges M) (ticket : Ticket) : Option (Except LinkError M) :=
  match exchanges[ticket]? with
  | some exchange => exchange.poll
  | none => some (.error .closed)

/-- Delivers a reply on a ticket; with nobody waiting the message is handed back. -/
def resolve (exchanges : Exchanges M) (ticket : Ticket) (message : M) : Exchanges M × Option M :=
  match exchanges[ticket]? with
  | some exchange =>
    let (exchange, returned) := exchange.resolve message
    (exchanges.set ticket exchange, returned)
  | none => (exchanges, some message)

/-- Delivers an error on a ticket, and says whether anybody waited for it. -/
def fail (exchanges : Exchanges M) (ticket : Ticket) (error : LinkError) : Exchanges M × Bool :=
  match exchanges[ticket]? with
  | some exchange =>
    let (exchange, delivered) := exchange.fail error
    (exchanges.set ticket exchange, delivered)
  | none => (exchanges, false)

/-- Drops the entry of a ticket. -/
def drop (exchanges : Exchanges M) (ticket : Ticket) : Exchanges M :=
  exchanges.modify ticket Exchange.drop

/-- The caller of a ticket stops waiting. -/
def leave (exchanges : Exchanges M) (ticket : Ticket) : Exchanges M :=
  exchanges.modify ticket Exchange.leave

end Exchanges

end Multiplex
