import Multiplex.LinkError
import Multiplex.Settings.Numeral

/-!
# Dialling a peer

What becomes of an attempt to reach a peer from a host that has no network. A numeric address is
tried at once and cannot be reached. Any other text has to be looked up first, which takes time and
fails, at the latest for want of a resolver.
-/

namespace Multiplex

/-- The address of a peer. -/
inductive Peer where
  /-- A numeric address with its number of a service. -/
  | numeric (address : String)
  /-- A text that is no numeric address. -/
  | named (address : String)
  deriving DecidableEq, Repr

namespace Peer

/-- The address as it was given. -/
def address : Peer → String
  | numeric address | named address => address

/-- The text behind the last colon. -/
def afterColon? (text : List Char) : Option (List Char) :=
  if text.contains ':' then some (text.reverse.takeWhile (· != ':')).reverse else none

/-- Why a name cannot be looked up. It has to end with a colon and a number of 16 bits. -/
def lookupFault (text : List Char) : IoError :=
  match afterColon? text with
  | none => .described .invalidInput "invalid socket address"
  | some service =>
    match Settings.Numeral.unsigned? service with
    | some n =>
      if n < 65536 then
        .described .other
          "failed to lookup address information: Temporary failure in name resolution"
      else .described .invalidInput "invalid port value"
    | none => .described .invalidInput "invalid port value"

/-- Why a peer cannot be reached within a time. -/
def dialFault (timeout : Nat) : Peer → IoError
  | numeric _ => .system ⟨101⟩
  | named address =>
    if timeout = 0 then .described .timedOut "connect timed out" else lookupFault address.toList

/-- The error that an attempt to reach a peer ends with. -/
def dial (peer : Peer) (timeout : Nat) : LinkError :=
  .connect peer.address (peer.dialFault timeout)

end Peer

end Multiplex
