import Multiplex.LinkError

/-!
# Transports

A transport carries bytes both ways. What arrives is a queue of chunks, which the end of the stream
or a fault may follow. What is written is accepted in full, or up to a limit; past the limit the
transport stalls, fails, takes nothing, or crashes its writer. Flushing and shutting down succeed,
stall, fail or crash the writer.
-/

namespace Multiplex

/-- Something that arrives on a transport. -/
inductive Inbound where
  | chunk (bytes : Bytes)
  | finish
  | fault (error : IoError)
  deriving DecidableEq, Repr

/-- How a transport answers a flush or a shutdown. -/
inductive Answer where
  | done
  | stalled
  | fault (error : IoError)
  /-- The writer crashes, with this text. -/
  | crashes (text : String)
  deriving DecidableEq, Repr

/-- What a write meets once the transport accepts no more bytes. -/
inductive WriteStop where
  | stalled
  | fault (error : IoError)
  /-- The write is accepted with no byte taken. -/
  | nothing
  /-- The writer crashes, with this text. -/
  | crashes (text : String)
  deriving DecidableEq, Repr

/-- The state of a transport. -/
structure Transport where
  /-- What has arrived and not been read. -/
  inbound : List Inbound := []
  /-- How many more bytes are accepted; all of them, if there is no limit. -/
  room : Option Nat := none
  /-- What a write meets when there is no more room. -/
  stop : WriteStop := .stalled
  flush : Answer := .done
  shutdown : Answer := .done
  /-- Every byte accepted so far. -/
  wire : Bytes := []
  /-- The write side has been asked to shut down. -/
  shutdownAsked : Bool := false
  /-- A writer crashed inside this transport; reading from it crashes from then on. -/
  poisoned : Bool := false

namespace Transport

/-- A new transport, which accepts everything. -/
def fresh : Transport := {}

/-- How many of `length` bytes are accepted now. -/
def accepts (transport : Transport) (length : Nat) : Nat :=
  match transport.room with
  | none => length
  | some room => min room length

theorem accepts_le (transport : Transport) (length : Nat) : transport.accepts length ≤ length := by
  unfold accepts
  split
  · exact Nat.le_refl _
  · exact Nat.min_le_right _ _

/-- The transport after it has accepted some bytes. -/
def accept (transport : Transport) (bytes : Bytes) : Transport :=
  { transport with
    wire := transport.wire ++ bytes
    room := transport.room.map (· - bytes.length) }

/-- The transport after something more has arrived. -/
def arrive (transport : Transport) (item : Inbound) : Transport :=
  { transport with inbound := transport.inbound ++ [item] }

end Transport

/-- The bytes and items that have arrived and not been read, as a bound on the reads to come. -/
def Inbound.weight : Inbound → Nat
  | .chunk bytes => 2 * bytes.length + 1
  | .finish | .fault _ => 1

end Multiplex
