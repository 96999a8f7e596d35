import Multiplex.Policy

/-!
# Link settings

The settings of a link, their defaults, and the test that a link can run with them.

Main statement: `fault?_eq_none_iff` (the settings that pass are exactly those with positive sizes
and no zero deadline).
-/

namespace Multiplex

/-- The settings of a link. -/
structure Config where
  /-- How long establishing the transport may take. -/
  connectTimeout : Nat := 5000
  /-- The deadline of every request; without one a request waits until its reply or the end. -/
  requestTimeout : Option Nat := none
  /-- The longest payload accepted in either direction. -/
  maxFrameSize : Nat := 65536
  /-- How many requests may wait for the writer at once. -/
  writeQueueDepth : Nat := 1
  /-- How many unmatched messages are kept; none are kept at zero. -/
  unmatchedQueueDepth : Nat := 64
  /-- The field that gets a trace number when a request leaves it empty. -/
  stanField : FieldId := Policy.stanField
  /-- A failed write ends the link, and not its request alone. -/
  closeOnWriteFailure : Bool := true
  /-- How many bytes are read at once. -/
  readBufferSize : Nat := 8192
  /-- Small segments are sent at once. -/
  nodelay : Bool := true
  deriving DecidableEq, Repr, Inhabited

namespace Config

/-- A setting that no link can run with. -/
inductive Fault where
  | noQueue
  | noFrame
  | noBuffer
  | noTime
  deriving DecidableEq, Repr

/-- The wording of a fault. -/
def Fault.message : Fault → String
  | noQueue => "write_queue_depth must be at least 1"
  | noFrame => "max_frame_size must be positive"
  | noBuffer => "read_buffer_size must be positive"
  | noTime => "request_timeout_ms must be positive when set"

/-- The first setting that no link can run with. -/
def fault? (config : Config) : Option Fault :=
  if config.writeQueueDepth = 0 then some .noQueue
  else if config.maxFrameSize = 0 then some .noFrame
  else if config.readBufferSize = 0 then some .noBuffer
  else if config.requestTimeout = some 0 then some .noTime
  else none

theorem fault?_eq_none_iff {config : Config} :
    config.fault? = none ↔
      0 < config.writeQueueDepth ∧ 0 < config.maxFrameSize ∧ 0 < config.readBufferSize ∧
        config.requestTimeout ≠ some 0 := by
  unfold fault?
  split
  · next h => simp [h]
  · next queue =>
    split
    · next h => simp [h]
    · next frame =>
      split
      · next h => simp [h]
      · next buffer =>
        split
        · next h => simp [h]
        · next time => simp [time]; omega

end Config

end Multiplex
