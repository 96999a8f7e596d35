import Multiplex.SystemError
import Multiplex.WireError

/-!
# Faults of transports and links

`IoError` is a fault that a transport reports; `LinkError` is what a call on a link can end with
instead of its result. Each has one wording, and a link error names the fault below it, if any.
-/

namespace Multiplex

/-- The general kinds of transport faults. -/
inductive IoKind where
  | notFound
  | permissionDenied
  | connectionRefused
  | connectionReset
  | connectionAborted
  | notConnected
  | addrInUse
  | addrNotAvailable
  | brokenPipe
  | alreadyExists
  | wouldBlock
  | invalidInput
  | invalidData
  | timedOut
  | writeZero
  | interrupted
  | unsupported
  | unexpectedEof
  | outOfMemory
  | other
  deriving DecidableEq, Repr

namespace IoKind

/-- The wording of a kind that comes with no text of its own. -/
def message : IoKind → String
  | notFound => "entity not found"
  | permissionDenied => "permission denied"
  | connectionRefused => "connection refused"
  | connectionReset => "connection reset"
  | connectionAborted => "connection aborted"
  | notConnected => "not connected"
  | addrInUse => "address in use"
  | addrNotAvailable => "address not available"
  | brokenPipe => "broken pipe"
  | alreadyExists => "entity already exists"
  | wouldBlock => "operation would block"
  | invalidInput => "invalid input parameter"
  | invalidData => "invalid data"
  | timedOut => "timed out"
  | writeZero => "write zero"
  | interrupted => "operation interrupted"
  | unsupported => "unsupported"
  | unexpectedEof => "unexpected end of file"
  | outOfMemory => "out of memory"
  | other => "other error"

end IoKind

/-- A fault that a transport reports: a kind alone, a kind with a text of its own, or an error of
the operating system. -/
inductive IoError where
  | plain (kind : IoKind)
  | described (kind : IoKind) (text : String)
  | system (error : SystemError)
  deriving DecidableEq, Repr

namespace IoError

/-- The wording of a transport fault. -/
def message : IoError → String
  | plain kind => kind.message
  | described _ text => text
  | system error => error.message

/-- The fault says no more than that the operation was interrupted, and may be tried again. -/
def isInterruption : IoError → Bool
  | plain kind | described kind _ => kind == .interrupted
  | system error => error == .interrupted

end IoError

/-- What a call on a link can end with instead of its result. -/
inductive LinkError where
  /-- The link is draining or closed. -/
  | closed
  /-- The transport could not be established. -/
  | connect (address : String) (source : IoError)
  /-- The request's frame could not be written. -/
  | writeFailed (key : String) (source : IoError)
  /-- The inbound stream broke off or failed inside or before a frame. -/
  | framing (text : String) (source : Option IoError)
  /-- A length header is unreadable or announces too much. -/
  | badLength (source : WireError)
  /-- An inbound payload is no message. -/
  | undecodable (source : WireError)
  /-- A message cannot be written or framed. -/
  | unencodable (source : WireError)
  /-- A field that pairs requests with replies is missing or cannot be read. -/
  | uncorrelated (text : String) (source : Option WireError)
  /-- Another live request holds the key. -/
  | duplicateKey (key : String)
  /-- No reply came before the deadline. -/
  | timedOut (key : String) (millis : Nat)
  /-- The transport could not be shut down. -/
  | io (text : String) (source : IoError)
  deriving DecidableEq, Repr

namespace LinkError

/-- The wording of a link error. -/
def message : LinkError → String
  | closed => "connection closed"
  | connect address source => "connecting to " ++ address ++ ": " ++ source.message
  | writeFailed key source => "write failure for request " ++ key ++ ": " ++ source.message
  | framing text _ => "framing failure: " ++ text
  | badLength source => "framing failure: " ++ source.message
  | undecodable source => "decode failure: " ++ source.message
  | unencodable source => "encode failure: " ++ source.message
  | uncorrelated text _ => "correlation failure: " ++ text
  | duplicateKey key => "correlation key " ++ key ++ " already has a pending request"
  | timedOut key millis => "request " ++ key ++ " timed out after " ++ toString millis ++ "ms"
  | io text source => "I/O error: " ++ text ++ ": " ++ source.message

/-- The wording of the fault below a link error. -/
def sourceMessage? : LinkError → Option String
  | closed | duplicateKey _ | timedOut _ _ => none
  | connect _ source | writeFailed _ source | io _ source => some source.message
  | framing _ source => source.map IoError.message
  | badLength source | undecodable source | unencodable source => some source.message
  | uncorrelated _ source => source.map WireError.message

/-- The error says that the whole link is gone. -/
def isClosed : LinkError → Bool
  | closed => true
  | _ => false

end LinkError

end Multiplex
