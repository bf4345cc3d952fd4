import LegacyAlphaRemote.Machine.Types

/-!
# The remote state machine

`remote_state_machine.cpp`, function by function.  The C++ object holds a clock and a command sink
it does not own; both are an `Io` here, threaded through every function.  `Io.clock i` is what the
`i`-th `nowMs()` of the call returns and `Io.answers i` what its `i`-th `dispatch` returns, so that
a statement about every `Io` is a statement about every clock and every sink.

A call leaves a trace: the operation with the machine it met, each reading of the clock, each
command handed to the sink with the sink's answer, and what the operation returned with the machine
it left (`step`).  The traces of the calls of a run, one after the other, are what the properties of
whole runs are about.

`nativeLog` writes a log file and changes nothing else, and is left out.
-/

namespace LegacyAlpha

/-- The data members of `RemoteStateMachine`, with the values its constructor gives.  An id of 0 says
that no such command has been sent, and a deadline of 0 that there is none. -/
structure RemoteStateMachine where
  state : RemoteState := .Stopped
  running : Bool := false
  cameraReady : Bool := false
  wifiReady : Bool := false
  clientCount : ℤ := 0
  nextCommandId : ℤ := 1
  focusCommandId : ℤ := 0
  captureCommandId : ℤ := 0
  releaseCommandId : ℤ := 0
  focusDeadlineMs : ℤ := 0
  captureDeadlineMs : ℤ := 0
  releaseDeadlineMs : ℤ := 0
  cooldownDeadlineMs : ℤ := 0
  autofocusRequested : Bool := false
  focusSent : Bool := false
  captureSent : Bool := false
  physicalCapture : Bool := false
  standaloneFocus : Bool := false
  lastRequestId : Bytes := []
  lastError : Bytes := []
  deriving DecidableEq, Repr

/-- The public operations that can change the machine, each with its arguments.  Those that only read
it are left out here. -/
inductive Op
  | Start
  | Stop
  | SetCameraReady (ready : Bool)
  | SetWifiReady (ready : Bool)
  | RequestCapture (requestId : Bytes) (delayMs : ℤ) (autofocus : Bool)
  | CancelCountdown
  | SetFocus (pressed : Bool)
  | PhysicalShutter (pressed : Bool)
  | Tick
  | ReportCommandResult (commandId resultCode : ℤ) (message : Bytes)
  | SetClientCount (count : ℤ)
  deriving DecidableEq, Repr

/-- What can be seen of a call from outside: that it is made and on which machine, each reading of the
clock, each command with the answer of the sink, and what it returns. -/
inductive Event
  | Call (op : Op) (before : RemoteStateMachine)
  | Clock (now : ℤ)
  | Sent (command : NativeCommand) (accepted : Bool)
  | Returned (op : Op) (ok : Bool) (after : RemoteStateMachine)
  deriving DecidableEq, Repr

/-! ## The clock and the sink -/

/-- A clock and a sink, what has been asked of them, and the trace of it. -/
structure Io where
  clock : ℕ → ℤ
  answers : ℕ → Bool
  reads : ℕ := 0
  sends : ℕ := 0
  trace : List Event := []

/-- `clock_.nowMs()`: the next reading of the clock, which is written into the trace. -/
def Io.nowMs (io : Io) : ℤ × Io :=
  (io.clock io.reads,
    { io with reads := io.reads + 1, trace := io.trace ++ [.Clock (io.clock io.reads)] })

/-- `sink_.dispatch(command)`: the next answer of the sink, which is written into the trace with the
command. -/
def Io.dispatch (io : Io) (command : NativeCommand) : Bool × Io :=
  (io.answers io.sends,
    { io with
      sends := io.sends + 1
      trace := io.trace ++ [.Sent command (io.answers io.sends)] })

/-! ## The private functions -/

namespace RemoteStateMachine

/-- `transition`: nothing happens when `next` is the current state, and only a log line besides the
assignment otherwise. -/
def transition (m : RemoteStateMachine) (next : RemoteState) : RemoteStateMachine :=
  { m with state := next }

/-- `clearSchedule`: the ids, the deadlines and the flags of whatever was scheduled are forgotten.  No
command is sent, so that an autofocus or a shutter stays as it is. -/
def clearSchedule (m : RemoteStateMachine) : RemoteStateMachine :=
  { m with
    focusCommandId := 0, captureCommandId := 0, releaseCommandId := 0
    focusDeadlineMs := 0, captureDeadlineMs := 0, releaseDeadlineMs := 0, cooldownDeadlineMs := 0
    autofocusRequested := false, focusSent := false, captureSent := false
    physicalCapture := false, standaloneFocus := false }

/-- `fail`: the error is stored, the schedule is cleared and the machine goes to its state of error,
also when it is not running. -/
def fail (m : RemoteStateMachine) (error : Bytes) : RemoteStateMachine :=
  ({ m with lastError := error }.clearSchedule).transition .Error

/-- `send`: `some id` when the sink accepted the command, in which case the caller may store the id;
`none` when it did not and the machine has failed. -/
def send (m : RemoteStateMachine) (io : Io) (type : CommandType) (argument : ℤ) (text : Bytes) :
    Option ℤ × RemoteStateMachine × Io :=
  let command : NativeCommand := { id := m.nextCommandId, type, argument, text }
  let m := { m with nextCommandId := m.nextCommandId + 1 }
  let (accepted, io) := io.dispatch command
  if accepted then (some command.id, m, io)
  else (none, m.fail (bytes "native command queue full"), io)

/-- `cameraReady_ && wifiReady_ ? STATE_ARMED : STATE_STARTING`: where the machine comes to rest after
a photo or a cancelled request. -/
def restState (m : RemoteStateMachine) : RemoteState :=
  if m.cameraReady && m.wifiReady then .Armed else .Starting

/-- `if (focusSent_) send(COMMAND_CANCEL_AUTOFOCUS, 0, "", NULL)`, the line with which `stop`,
`cancelCountdown` and `physicalShutter` give up a running autofocus.  None of them looks at the
answer of the sink. -/
def cancelFocus (m : RemoteStateMachine) (io : Io) : RemoteStateMachine × Io :=
  if m.focusSent then (m.send io .CancelAutofocus 0 []).2 else (m, io)

/-- `acceptingRequests`: the machine runs, and has both the camera and the network.  It may be busy
all the same. -/
def acceptingRequests (m : RemoteStateMachine) : Bool :=
  m.running && m.cameraReady && m.wifiReady && m.state != .Stopped

/-! ## Starting, stopping and readiness -/

/-- `start`: nothing happens to a machine that runs.  Otherwise the schedule and the last error are
cleared, and the machine is armed if it is ready already. -/
def start (m : RemoteStateMachine) : RemoteStateMachine :=
  if m.running then m
  else
    let m := { m with running := true, lastError := [] }
    let m := m.clearSchedule.transition .Starting
    if m.cameraReady && m.wifiReady then m.transition .Armed else m

/-- `stop`: a running autofocus is cancelled, and the schedule is cleared.  A shutter that is held is
not released. -/
def stop (m : RemoteStateMachine) (io : Io) : RemoteStateMachine × Io :=
  if !m.running && m.state == .Stopped then (m, io)
  else
    let (m, io) := m.cancelFocus io
    ({ m.clearSchedule with running := false }.transition .Stopped, io)

/-- The part `setCameraReady` and `setWifiReady` share, once the flag is stored: `other` is the
readiness the call is not about. -/
def readinessChanged (m : RemoteStateMachine) (ready other : Bool) : RemoteStateMachine :=
  if !m.running then m
  else if !ready then m.clearSchedule.transition .Starting
  else if other && m.state == .Starting then m.transition .Armed
  else m

/-- `setCameraReady`: the flag is stored in any case, and the rest is done only while the machine
runs. -/
def setCameraReady (m : RemoteStateMachine) (ready : Bool) : RemoteStateMachine :=
  readinessChanged { m with cameraReady := ready } ready m.wifiReady

/-- `setWifiReady`, which does with the network what `setCameraReady` does with the camera. -/
def setWifiReady (m : RemoteStateMachine) (ready : Bool) : RemoteStateMachine :=
  readinessChanged { m with wifiReady := ready } ready m.cameraReady

/-- `setClientCount`: the number of phones on the network, where a negative one counts as none. -/
def setClientCount (m : RemoteStateMachine) (count : ℤ) : RemoteStateMachine :=
  { m with clientCount := if count < 0 then 0 else count }

/-! ## Capturing -/

/-- `beginCapture`.  A rejected command returns early, with the machine failed; otherwise the times of
the release and of the end of the cooldown are counted from a reading of the clock of its own. -/
def beginCapture (config : NativeConfig) (m : RemoteStateMachine) (io : Io) (physical : Bool) :
    RemoteStateMachine × Io :=
  let m := { m with physicalCapture := physical, captureSent := true, standaloneFocus := false }
  match m.send io .Capture 0 [] with
  | (none, m, io) => (m, io)
  | (some id, m, io) =>
    let m := { m with captureCommandId := id }
    let (now, io) := io.nowMs
    let hold := if physical then config.physicalShutterFailsafeMs else config.webShutterHoldMs
    let m := { m with
      releaseDeadlineMs := now + hold
      cooldownDeadlineMs := now + config.cooldownMs }
    (m.transition .Capturing, io)

/-! ### The four stages of `tick`

`tick` is one function of four `if` statements in a row.  Each is a function here, and ends in the
next; a rejected command in the first or third returns from `tick`. -/

/-- The last stage: at the end of the cooldown the schedule is cleared, and the machine is ready for
the next photo if the camera and the network still are. -/
def tickCooldown (now : ℤ) (m : RemoteStateMachine) (io : Io) : RemoteStateMachine × Io :=
  if m.state == .Cooldown && now ≥ m.cooldownDeadlineMs then
    let m := m.clearSchedule
    (m.transition m.restState, io)
  else (m, io)

/-- The third stage: the release of the shutter.  Its deadline is cleared before the command is sent,
so that it is sent once, and a rejected command ends the tick. -/
def tickRelease (now : ℤ) (m : RemoteStateMachine) (io : Io) : RemoteStateMachine × Io :=
  if m.state == .Capturing && m.captureSent && m.releaseDeadlineMs > 0
      && now ≥ m.releaseDeadlineMs then
    let m := { m with releaseDeadlineMs := 0 }
    match m.send io .ReleaseShutter 0 [] with
    | (none, m, io) => (m, io)
    | (some id, m, io) => tickCooldown now ({ m with releaseCommandId := id }.transition .Cooldown) io
  else tickCooldown now m io

/-- The second stage: the capture, at its deadline.  It does not ask whether the autofocus belongs to
a request, and `tick` goes on after `beginCapture`, failed or not. -/
def tickCapture (config : NativeConfig) (now : ℤ) (m : RemoteStateMachine) (io : Io) :
    RemoteStateMachine × Io :=
  if (m.state == .Countdown || m.state == .Focusing) && !m.captureSent
      && now ≥ m.captureDeadlineMs then
    let (m, io) := beginCapture config m io false
    tickRelease now m io
  else tickRelease now m io

/-- The first stage: the autofocus of a scheduled request, once its time has come.  It is marked as
sent before it is, and a rejected command ends the tick. -/
def tickFocus (config : NativeConfig) (now : ℤ) (m : RemoteStateMachine) (io : Io) :
    RemoteStateMachine × Io :=
  if (m.state == .Countdown || m.state == .Focusing) && m.autofocusRequested && !m.focusSent
      && now ≥ m.focusDeadlineMs then
    let m := { m with focusSent := true }
    match m.send io .StartAutofocus 0 [] with
    | (none, m, io) => (m, io)
    | (some id, m, io) =>
      tickCapture config now ({ m with focusCommandId := id }.transition .Focusing) io
  else tickCapture config now m io

/-- `tick`: what is due is done, stage after stage, all of it by one reading of the clock.  Only a
capture makes another reading. -/
def tick (config : NativeConfig) (m : RemoteStateMachine) (io : Io) : RemoteStateMachine × Io :=
  if !m.running then (m, io)
  else
    let (now, io) := io.nowMs
    tickFocus config now m io

end RemoteStateMachine

/-! ## The operations that answer -/

/-- What an operation returns, what it leaves in `*error` (callers pass an empty string), and the
machine and the clock and sink afterwards. -/
structure Outcome where
  ok : Bool
  error : Bytes := []
  machine : RemoteStateMachine
  io : Io

namespace RemoteStateMachine

/-- `requestCapture`: the request is refused unless the machine is armed and the delay is in range.
Then it is stored with its deadlines, and a tick is made at once, which carries out what is due
already. -/
def requestCapture (config : NativeConfig) (m : RemoteStateMachine) (io : Io) (requestId : Bytes)
    (delayMs : ℤ) (autofocus : Bool) : Outcome :=
  if !m.acceptingRequests || m.state != .Armed then
    { ok := false, error := bytes "remote is busy", machine := m, io }
  else if delayMs < 0 || delayMs > config.maxDelayMs then
    { ok := false, error := bytes "delay_ms is out of range", machine := m, io }
  else
    let m := m.clearSchedule
    let (now, io) := io.nowMs
    let m := { m with
      lastRequestId := requestId
      lastError := []
      autofocusRequested := autofocus
      captureDeadlineMs := now + delayMs
      focusDeadlineMs := if autofocus then now + delayMs - config.autofocusLeadMs else 0 }
    let m := if delayMs == 0 && autofocus then
        { m with
          captureDeadlineMs := now + config.immediateAutofocusLeadMs
          focusDeadlineMs := now }
      else m
    let m := if autofocus && m.focusDeadlineMs < now then { m with focusDeadlineMs := now } else m
    let next := if delayMs > 0 then .Countdown else if autofocus then .Focusing else .Countdown
    let (m, io) := tick config (m.transition next) io
    { ok := m.state != .Error, machine := m, io }

/-- `cancelCountdown`: a request that waits, and a half-pressed button too, is given up with its
autofocus, unless the capture has been sent. -/
def cancelCountdown (m : RemoteStateMachine) (io : Io) : Outcome :=
  if m.captureSent || (m.state != .Countdown && m.state != .Focusing) then
    { ok := false, error := bytes "countdown cannot be cancelled", machine := m, io }
  else
    let (m, io) := m.cancelFocus io
    let m := m.clearSchedule
    { ok := true, machine := m.transition m.restState, io }

/-- `setFocus`: a press starts an autofocus that belongs to no request, and its release cancels it.
Each is refused when the machine is in no state for it. -/
def setFocus (m : RemoteStateMachine) (io : Io) (pressed : Bool) : Outcome :=
  if pressed then
    if m.state != .Armed then
      { ok := false, error := bytes "remote is busy", machine := m, io }
    else
      let m := { m with standaloneFocus := true, focusSent := true }
      match m.send io .StartAutofocus 0 [] with
      | (none, m, io) => { ok := false, machine := m, io }
      | (some id, m, io) =>
        { ok := true, machine := { m with focusCommandId := id }.transition .Focusing, io }
  else if !m.standaloneFocus || m.state != .Focusing then
    { ok := false, error := bytes "focus is not active", machine := m, io }
  else
    let (_, m, io) := m.send io .CancelAutofocus 0 []
    let m := m.clearSchedule
    { ok := true, machine := m.transition m.restState, io }

/-- The press of the physical shutter once it has passed its checks and given up a request that was
waiting.  It counts as accepted unless the machine has failed. -/
def physicalPress (config : NativeConfig) (m : RemoteStateMachine) (io : Io) : Outcome :=
  let (m, io) :=
    beginCapture config { m with lastRequestId := bytes "physical", lastError := [] } io true
  { ok := m.state != .Error, machine := m, io }

/-- `physicalShutter`.  A press during a countdown or a scheduled autofocus first cancels it, and
goes on whatever the sink answered. -/
def physicalShutter (config : NativeConfig) (m : RemoteStateMachine) (io : Io) (pressed : Bool) :
    Outcome :=
  if !pressed then
    if m.state == .Capturing && m.physicalCapture && m.releaseDeadlineMs > 0 then
      let (now, io) := io.nowMs
      let (m, io) := tick config { m with releaseDeadlineMs := now } io
      { ok := true, machine := m, io }
    else { ok := true, machine := m, io }
  else if !m.running || !m.cameraReady then
    { ok := false, error := bytes "camera is not ready", machine := m, io }
  else if m.state == .Countdown || (m.state == .Focusing && !m.standaloneFocus) then
    let (m, io) := m.cancelFocus io
    physicalPress config m.clearSchedule io
  else if m.state != .Armed && !(m.state == .Focusing && m.standaloneFocus) then
    { ok := false, error := bytes "camera is busy", machine := m, io }
  else physicalPress config m io

/-- `reportCommandResult`: only failures matter, and only of the commands that the machine remembers.
A failed capture is an error, a failed autofocus gives the request up, and a failed release is just
noted. -/
def reportCommandResult (m : RemoteStateMachine) (commandId resultCode : ℤ) (message : Bytes) :
    RemoteStateMachine :=
  if commandId == m.captureCommandId && resultCode != 0 then
    m.fail (if message.isEmpty then bytes "capture failed" else message)
  else
    let m :=
      if commandId == m.focusCommandId && resultCode != 0 && !m.standaloneFocus
          && !m.captureSent then
        ({ m with lastError := if message.isEmpty then bytes "autofocus failed" else message }
          |>.clearSchedule).transition .Armed
      else m
    if commandId == m.releaseCommandId && resultCode != 0 then
      { m with lastError := if message.isEmpty then bytes "shutter release failed" else message }
    else m

/-- `countdownRemainingMs`, with the reading of the clock when it makes one: the time that is left
until the capture, and 0 when no request waits. -/
def countdownRemainingMs (m : RemoteStateMachine) (io : Io) : ℤ × Io :=
  if (m.state != .Countdown && m.state != .Focusing) || m.captureDeadlineMs ≤ 0 then (0, io)
  else
    let (now, io) := io.nowMs
    let remaining := m.captureDeadlineMs - now
    (if remaining > 0 then remaining else 0, io)

/-! ## A call -/

/-- The body of an operation.  The operations that return nothing count as answering `true`. -/
def perform (config : NativeConfig) (m : RemoteStateMachine) (io : Io) : Op → Outcome
  | .Start => { ok := true, machine := m.start, io }
  | .Stop => let (m, io) := m.stop io; { ok := true, machine := m, io }
  | .SetCameraReady ready => { ok := true, machine := m.setCameraReady ready, io }
  | .SetWifiReady ready => { ok := true, machine := m.setWifiReady ready, io }
  | .RequestCapture requestId delayMs autofocus =>
      m.requestCapture config io requestId delayMs autofocus
  | .CancelCountdown => m.cancelCountdown io
  | .SetFocus pressed => m.setFocus io pressed
  | .PhysicalShutter pressed => m.physicalShutter config io pressed
  | .Tick => let (m, io) := m.tick config io; { ok := true, machine := m, io }
  | .ReportCommandResult commandId resultCode message =>
      { ok := true, machine := m.reportCommandResult commandId resultCode message, io }
  | .SetClientCount count => { ok := true, machine := m.setClientCount count, io }

/-- A call as it appears in a trace: the operation, what happened inside, and its return. -/
def step (config : NativeConfig) (m : RemoteStateMachine) (io : Io) (op : Op) : Outcome :=
  let out := perform config m { io with trace := io.trace ++ [.Call op m] } op
  { out with io := { out.io with trace := out.io.trace ++ [.Returned op out.ok out.machine] } }

end RemoteStateMachine

end LegacyAlpha
