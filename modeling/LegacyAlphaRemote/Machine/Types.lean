import LegacyAlphaRemote.Core.Bytes

/-!
# The types the native code shares

`remote_types.h` and `remote_types.cpp`: the states of the machine, the commands it hands to the
camera, and the configuration.  A `NativeConfig` is only ever built by its constructor, and
`NativeRuntime` changes nothing in it but the port (`configForPort`), so the durations below are the
durations of every machine the program runs; `configForPort_timing` collects what the proofs need
of them.

Readings of the clock, deadlines and command ids are `int64_t` in the source and integers here:
milliseconds since boot and a counter that grows by one per command do not come near `2 ^ 63`.
-/

namespace LegacyAlpha

/-- `enum RemoteState`: what the remote is doing, as the phone and the screen of the camera are told.
-/
inductive RemoteState
  | Stopped
  | Starting
  | Armed
  | Focusing
  | Countdown
  | Capturing
  | Cooldown
  | Error
  deriving DecidableEq, Repr

/-- `enum CommandType`: what Java is asked to do, mostly with the camera.  The machine sends the first
five, and the last one is the runtime's. -/
inductive CommandType
  | StartAutofocus
  | CancelAutofocus
  | Capture
  | ReleaseShutter
  | RestartPreview
  | UpdateScreen
  deriving DecidableEq, Repr

/-- `struct NativeConfig`, with the values its constructor gives.  The limits are those of the parser
and the server, and the times those of the machine, in milliseconds. -/
structure NativeConfig where
  maxRequestLine : ℕ := 2048
  maxHeaders : ℕ := 8192
  maxBody : ℕ := 4096
  maxClients : ℕ := 4
  idleTimeoutMs : ℤ := 5000
  maxDelayMs : ℤ := 10000
  dedupeRetentionMs : ℤ := 60000
  autofocusLeadMs : ℤ := 1000
  immediateAutofocusLeadMs : ℤ := 500
  webShutterHoldMs : ℤ := 400
  physicalShutterFailsafeMs : ℤ := 800
  cooldownMs : ℤ := 3000
  port : ℤ := 8080
  deriving DecidableEq, Repr

/-- The configuration `NativeRuntime` builds: the defaults, with the port it was given when that is
a port. -/
def configForPort (port : ℤ) : NativeConfig :=
  if port > 0 ∧ port ≤ 65535 then { port := port } else {}

/-- What the scheduling proofs ask of a configuration: no time is negative, and the shutter is held
and the lens is focused for a while.  The program's own configuration does so, with any port. -/
structure NativeConfig.Timing (config : NativeConfig) : Prop where
  focusLead : 0 ≤ config.autofocusLeadMs
  immediateLead : 0 < config.immediateAutofocusLeadMs
  webHold : 0 < config.webShutterHoldMs
  failsafe : 0 < config.physicalShutterFailsafeMs
  cooldown : 0 ≤ config.cooldownMs

theorem configForPort_timing (port : ℤ) : (configForPort port).Timing := by
  unfold configForPort
  split_ifs <;> constructor <;> norm_num

/-- `struct NativeCommand`: a command that is handed to Java, with the id by which its result comes
back. -/
structure NativeCommand where
  id : ℤ := 0
  type : CommandType := .UpdateScreen
  argument : ℤ := 0
  text : Bytes := []
  deriving DecidableEq, Repr

/-- `stateName`: the word for a state in the status that the phone reads and on the screen. -/
def stateName : RemoteState → Bytes
  | .Stopped => bytes "stopped"
  | .Starting => bytes "starting"
  | .Armed => bytes "armed"
  | .Focusing => bytes "focusing"
  | .Countdown => bytes "countdown"
  | .Capturing => bytes "capturing"
  | .Cooldown => bytes "cooldown"
  | .Error => bytes "error"

end LegacyAlpha
