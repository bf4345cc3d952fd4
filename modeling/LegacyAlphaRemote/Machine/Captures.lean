import LegacyAlphaRemote.Machine.Operations

/-!
# Captures without their release

A capture stops the preview of the camera, and the release that the machine sends after it starts the
preview again.  Of the commands that were accepted, the last capture or release tells whether a
capture is outstanding (`NativeCommand.outstanding`).

As long as one is, the machine is capturing or has failed (`Attends`).  Every function keeps that but
the report that the camera or the Wi-Fi is not ready any more, after which the machine forgets what
it was about (`Attends.perform`).  Nothing is assumed of the clock.
-/

namespace LegacyAlpha

open RemoteStateMachine

/-- Whether a capture is outstanding after the command, if one was `before`: a capture begins it, a
release ends it, and the other commands do not matter. -/
def NativeCommand.outstanding (before : Bool) (command : NativeCommand) : Bool :=
  match command.type with
  | .Capture => true
  | .ReleaseShutter => false
  | _ => before

/-- Whether a capture is outstanding after the event: commands that were refused do not count. -/
def Event.outstanding (before : Bool) : Event → Bool
  | .Sent command true => command.outstanding before
  | _ => before

/-- Whether a capture is outstanding after all that was seen, if one was `before` the trace. -/
def Io.outstanding (before : Bool) (io : Io) : Bool := io.trace.foldl Event.outstanding before

/-- The machine that holds the camera for ready or not knows of the capture that is outstanding. -/
structure Attends (camera before : Bool) (m : RemoteStateMachine) (io : Io) : Prop where
  cameraReady : m.cameraReady = camera
  outstanding : io.outstanding before = true → m.state = .Capturing ∨ m.state = .Error
  captureSent : m.state = .Capturing → m.captureSent = true
  focusCommandId : m.state = .Error → m.focusCommandId = 0

/-- The machine is told that something is not ready any more, the camera or the network. -/
def Op.Loses (op : Op) : Prop := op = .SetCameraReady false ∨ op = .SetWifiReady false

/-- Whether the machine holds the camera for ready after an operation, if it did before. -/
def Op.camera (before : Bool) : Op → Bool
  | .SetCameraReady ready => ready
  | _ => before

variable {config : NativeConfig} {camera before : Bool} {m m' : RemoteStateMachine} {io io' : Io}

/-! ## The trace -/

lemma Io.outstanding_append {seg : List Event} (h : io'.trace = io.trace ++ seg) (before : Bool) :
    io'.outstanding before = seg.foldl Event.outstanding (io.outstanding before) := by
  rw [Io.outstanding, h, List.foldl_append, ← Io.outstanding]

/-- Only captures and releases count: any other command leaves it as it was. -/
lemma Io.outstanding_dispatch {command : NativeCommand} (hcapture : command.type ≠ .Capture)
    (hrelease : command.type ≠ .ReleaseShutter) (io : Io) (before : Bool) :
    (io.dispatch command).2.outstanding before = io.outstanding before := by
  have htrace : (io.dispatch command).2.trace =
      io.trace ++ [.Sent command (io.answers io.sends)] := rfl
  rw [Io.outstanding_append htrace]
  cases io.answers io.sends with
  | false => rfl
  | true =>
      show command.outstanding (io.outstanding before) = _
      rw [NativeCommand.outstanding]
      split <;> simp_all

lemma Io.outstanding_nowMs (io : Io) (before : Bool) :
    io.nowMs.2.outstanding before = io.outstanding before := by
  have htrace : io.nowMs.2.trace = io.trace ++ [.Clock io.nowMs.1] := rfl
  rw [Io.outstanding_append htrace]
  rfl

/-- A command of the autofocus, sent or refused. -/
lemma send_autofocus_outstanding {type : CommandType}
    (htype : type = .StartAutofocus ∨ type = .CancelAutofocus) (m : RemoteStateMachine) (io : Io)
    (before : Bool) : (m.send io type 0 []).2.2.outstanding before = io.outstanding before := by
  have hdispatch : (m.send io type 0 []).2.2 =
      (io.dispatch { id := m.nextCommandId, type, argument := 0, text := [] }).2 := by
    rw [send]
    dsimp only
    split_ifs <;> rfl
  rw [hdispatch]
  refine Io.outstanding_dispatch ?_ ?_ io before <;> rcases htype with rfl | rfl <;> simp

lemma cancelFocus_outstanding (m : RemoteStateMachine) (io : Io) (before : Bool) :
    (m.cancelFocus io).2.outstanding before = io.outstanding before := by
  rw [cancelFocus]
  split_ifs
  · exact send_autofocus_outstanding (Or.inr rfl) m io before
  · rfl

@[simp] lemma send_cameraReady (m : RemoteStateMachine) (io : Io) (type : CommandType)
    (argument : ℤ) (text : Bytes) : (m.send io type argument text).2.1.cameraReady = m.cameraReady := by
  simp only [send]
  split_ifs <;> rfl

@[simp] lemma cancelFocus_cameraReady (m : RemoteStateMachine) (io : Io) :
    (m.cancelFocus io).1.cameraReady = m.cameraReady := by
  rw [cancelFocus]
  split_ifs
  · exact send_cameraReady m io _ _ _
  · rfl

/-! ## One function after the other -/

namespace Attends

/-- A machine in another state has no capture outstanding. -/
lemma settled (h : Attends camera before m io) (hcapturing : m.state ≠ .Capturing)
    (herror : m.state ≠ .Error) : io.outstanding before = false := by
  rw [← Bool.not_eq_true]
  intro hopen
  rcases h.outstanding hopen with hstate | hstate
  · exact hcapturing hstate
  · exact herror hstate

lemma of_settled (hcamera : m.cameraReady = camera) (hsettled : io.outstanding before = false)
    (hcapturing : m.state ≠ .Capturing) (herror : m.state ≠ .Error) : Attends camera before m io :=
  ⟨hcamera, fun hopen => by simp [hsettled] at hopen, fun hstate => absurd hstate hcapturing,
    fun hstate => absurd hstate herror⟩

/-- A machine that has failed may have a capture outstanding or not: its state of error allows for
both. -/
lemma fail (hcamera : m.cameraReady = camera) (error : Bytes) :
    Attends camera before (m.fail error) io :=
  ⟨hcamera, fun _ => Or.inr rfl, fun hstate => (by cases hstate), fun _ => rfl⟩

/-- The trace goes on with nothing that counts. -/
lemma of_io (h : Attends camera before m io) (hio : io'.outstanding before = io.outstanding before) :
    Attends camera before m io' :=
  ⟨h.cameraReady, fun hopen => h.outstanding (by rw [← hio]; exact hopen), h.captureSent,
    h.focusCommandId⟩

lemma nowMs (h : Attends camera before m io) : Attends camera before m io.nowMs.2 :=
  h.of_io (io.outstanding_nowMs before)

/-- Whatever came before, the machine knows of the capture that it begins. -/
lemma beginCapture (hcamera : m.cameraReady = camera) (io : Io) (physical : Bool) :
    Attends camera before (m.beginCapture config io physical).1
      (m.beginCapture config io physical).2 := by
  rw [RemoteStateMachine.beginCapture]
  dsimp only
  split
  · next h =>
      obtain ⟨rfl, -⟩ := send_rejected h
      refine fail ?_ _
      exact hcamera
  · next h =>
      obtain ⟨rfl, rfl, -⟩ := send_accepted h
      exact ⟨hcamera, fun _ => Or.inl rfl, fun _ => rfl, fun hstate => (by cases hstate)⟩

lemma tickCooldown (h : Attends camera before m io) (now : ℤ) :
    Attends camera before (tickCooldown now m io).1 (tickCooldown now m io).2 := by
  rw [RemoteStateMachine.tickCooldown]
  split_ifs with hdue
  · have hstate : m.state = .Cooldown := by simp_all
    refine of_settled h.cameraReady (h.settled ?_ ?_) ?_ ?_ <;>
      simp only [transition, restState, hstate, ne_eq, reduceCtorEq, not_false_eq_true]
    all_goals split_ifs <;> simp
  · exact h

lemma tickRelease (h : Attends camera before m io) (now : ℤ) :
    Attends camera before (tickRelease now m io).1 (tickRelease now m io).2 := by
  rw [RemoteStateMachine.tickRelease]
  split_ifs with hdue
  · dsimp only
    split
    · next hsend =>
        obtain ⟨rfl, -⟩ := send_rejected hsend
        refine fail ?_ _
        exact h.cameraReady
    · next hsend =>
        obtain ⟨rfl, rfl, hran⟩ := send_accepted hsend
        -- The release settles the capture.
        refine tickCooldown (of_settled ?_ ?_ ?_ ?_) now
        · exact h.cameraReady
        · rw [Io.outstanding_append hran.trace]
          rfl
        · simp [transition]
        · simp [transition]
  · exact h.tickCooldown now

lemma tickCapture (h : Attends camera before m io) (now : ℤ) :
    Attends camera before (tickCapture config now m io).1 (tickCapture config now m io).2 := by
  rw [RemoteStateMachine.tickCapture]
  split_ifs with hdue
  · exact tickRelease (beginCapture h.cameraReady io false) now
  · exact h.tickRelease now

lemma tickFocus (h : Attends camera before m io) (now : ℤ) :
    Attends camera before (tickFocus config now m io).1 (tickFocus config now m io).2 := by
  rw [RemoteStateMachine.tickFocus]
  split_ifs with hdue
  · have hstate : m.state = .Countdown ∨ m.state = .Focusing := by
      simp only [Bool.and_eq_true, Bool.or_eq_true, beq_iff_eq] at hdue
      exact hdue.1.1.1
    have hsettled : io.outstanding before = false := by
      refine h.settled ?_ ?_ <;> rcases hstate with hstate | hstate <;> simp [hstate]
    dsimp only
    split
    · next hsend =>
        obtain ⟨rfl, -⟩ := send_rejected hsend
        refine fail ?_ _
        exact h.cameraReady
    · next hsend =>
        obtain ⟨rfl, rfl, hran⟩ := send_accepted hsend
        refine tickCapture (of_settled ?_ ?_ ?_ ?_) now
        · exact h.cameraReady
        · rw [Io.outstanding_append hran.trace, hsettled]
          rfl
        · simp [transition]
        · simp [transition]
  · exact h.tickCapture now

lemma tick (h : Attends camera before m io) :
    Attends camera before (m.tick config io).1 (m.tick config io).2 := by
  rw [RemoteStateMachine.tick]
  split_ifs
  · exact h
  · exact h.nowMs.tickFocus _

lemma requestCapture (h : Attends camera before m io) (requestId : Bytes) (delayMs : ℤ)
    (autofocus : Bool) :
    Attends camera before (m.requestCapture config io requestId delayMs autofocus).machine
      (m.requestCapture config io requestId delayMs autofocus).io := by
  by_cases hbusy : (!m.acceptingRequests || m.state != .Armed) = true
  · rw [RemoteStateMachine.requestCapture, if_pos hbusy]
    exact h
  by_cases hrange : (delayMs < 0 || delayMs > config.maxDelayMs) = true
  · rw [RemoteStateMachine.requestCapture, if_neg hbusy, if_pos hrange]
    exact h
  · have hstate : m.state = .Armed := by simp_all
    have hsettled : io.nowMs.2.outstanding before = false := by
      rw [io.outstanding_nowMs]
      exact h.settled (by simp [hstate]) (by simp [hstate])
    rw [requestCapture_accepted hbusy hrange]
    refine tick (of_settled ?_ hsettled ?_ ?_)
    · rw [← h.cameraReady, scheduleRequest]
      simp only [transition, clearSchedule]
      split_ifs <;> rfl
    all_goals
      simp only [scheduleRequest, transition]
      split_ifs <;> simp

/-- Back to rest, with the schedule cleared. -/
lemma rest (hcamera : m.cameraReady = camera) (hsettled : io.outstanding before = false) :
    Attends camera before (m.clearSchedule.transition m.clearSchedule.restState) io := by
  refine of_settled hcamera hsettled ?_ ?_ <;> simp only [transition, restState] <;>
    split_ifs <;> simp

lemma cancelCountdown (h : Attends camera before m io) :
    Attends camera before (m.cancelCountdown io).machine (m.cancelCountdown io).io := by
  rw [RemoteStateMachine.cancelCountdown]
  split_ifs with hbusy
  · exact h
  · have hstate : m.state = .Countdown ∨ m.state = .Focusing := by
      by_contra hnot
      simp_all
    refine rest ?_ ?_
    · rw [cancelFocus_cameraReady]
      exact h.cameraReady
    · rw [cancelFocus_outstanding]
      refine h.settled ?_ ?_ <;> rcases hstate with hstate | hstate <;> simp [hstate]

lemma setFocus (h : Attends camera before m io) (pressed : Bool) :
    Attends camera before (m.setFocus io pressed).machine (m.setFocus io pressed).io := by
  rw [RemoteStateMachine.setFocus]
  split_ifs with hpressed hbusy hidle
  · exact h
  · have hstate : m.state = .Armed := by simpa using hbusy
    have hsettled := h.settled (by simp [hstate]) (by simp [hstate])
    dsimp only
    split
    · next hsend =>
        obtain ⟨rfl, -⟩ := send_rejected hsend
        refine fail ?_ _
        exact h.cameraReady
    · next hsend =>
        obtain ⟨rfl, rfl, hran⟩ := send_accepted hsend
        refine of_settled ?_ ?_ (by simp [transition]) (by simp [transition])
        · exact h.cameraReady
        · rw [Io.outstanding_append hran.trace, hsettled]
          rfl
  · exact h
  · have hstate : m.state = .Focusing := by
      by_contra hnot
      simp_all
    refine rest ?_ ?_
    · rw [send_cameraReady]
      exact h.cameraReady
    · rw [send_autofocus_outstanding (Or.inr rfl)]
      exact h.settled (by simp [hstate]) (by simp [hstate])

lemma physicalShutter (h : Attends camera before m io) (pressed : Bool) :
    Attends camera before (m.physicalShutter config io pressed).machine
      (m.physicalShutter config io pressed).io := by
  rw [RemoteStateMachine.physicalShutter]
  split_ifs with hpressed hdue hready hscheduled hbusy
  · refine tick ?_
    exact { h.nowMs with }
  · exact h
  · exact h
  · refine beginCapture ?_ _ true
    exact (cancelFocus_cameraReady m io).trans h.cameraReady
  · exact h
  · refine beginCapture ?_ io true
    exact h.cameraReady

/-- A result of a command leaves the machine capturing, or failed, or it finds no capture
outstanding. -/
lemma reportCommandResult (h : Attends camera before m io) {commandId : ℤ} (hid : commandId ≠ 0)
    (resultCode : ℤ) (message : Bytes) :
    Attends camera before (m.reportCommandResult commandId resultCode message) io := by
  rw [RemoteStateMachine.reportCommandResult]
  by_cases hcapture : (commandId == m.captureCommandId && resultCode != 0) = true
  · rw [if_pos hcapture]
    refine fail ?_ _
    exact h.cameraReady
  rw [if_neg hcapture]
  dsimp only
  by_cases hfocus : (commandId == m.focusCommandId && resultCode != 0 && !m.standaloneFocus
      && !m.captureSent) = true
  · -- A scheduled autofocus has failed before its capture.
    rw [if_pos hfocus]
    simp only [Bool.and_eq_true, beq_iff_eq, Bool.not_eq_true'] at hfocus
    have hsettled : io.outstanding before = false := by
      refine h.settled (fun hstate => ?_) fun hstate => ?_
      · have hsent := h.captureSent hstate
        rw [hfocus.2] at hsent
        cases hsent
      · exact hid (hfocus.1.1.1.trans (h.focusCommandId hstate))
    split_ifs
    all_goals
      refine of_settled ?_ hsettled ?_ ?_
      · exact h.cameraReady
      · simp [transition]
      · simp [transition]
  · rw [if_neg hfocus]
    split_ifs <;> exact { h with }

/-- A report of readiness: the machine forgets what it was about only if something is not ready any
more. -/
lemma readinessChanged (h : Attends camera before m io) (ready other : Bool)
    (hlost : ready = false → io.outstanding before = false) :
    Attends camera before (m.readinessChanged ready other) io := by
  rw [RemoteStateMachine.readinessChanged]
  split_ifs with hrunning hready harmed
  · exact h
  · refine of_settled h.cameraReady (hlost (by simpa using hready)) ?_ ?_ <;> simp [transition]
  · have hstate : m.state = .Starting := by simp_all
    refine of_settled h.cameraReady (h.settled ?_ ?_) ?_ ?_ <;> simp [transition, hstate]
  · exact h

/-- **Every function but `start` and `stop` keeps it**, unless the machine is told that something is
not ready any more while a capture is outstanding. -/
theorem perform (h : Attends camera before m io) {op : Op} (hstart : op ≠ .Start)
    (hstop : op ≠ .Stop)
    (hresult : ∀ resultCode message, op ≠ .ReportCommandResult 0 resultCode message)
    (hlost : op.Loses → io.outstanding before = false) :
    Attends (op.camera camera) before (m.perform config io op).machine
      (m.perform config io op).io := by
  cases op with
  | Start => exact absurd rfl hstart
  | Stop => exact absurd rfl hstop
  | SetCameraReady ready =>
      have hset : Attends ready before { m with cameraReady := ready } io :=
        { h with cameraReady := rfl }
      exact hset.readinessChanged ready _ fun hready => hlost (Or.inl (by rw [hready]))
  | SetWifiReady ready =>
      have hset : Attends camera before { m with wifiReady := ready } io := { h with }
      exact hset.readinessChanged ready _ fun hready => hlost (Or.inr (by rw [hready]))
  | RequestCapture requestId delayMs autofocus => exact h.requestCapture requestId delayMs autofocus
  | CancelCountdown => exact h.cancelCountdown
  | SetFocus pressed => exact h.setFocus pressed
  | PhysicalShutter pressed => exact h.physicalShutter pressed
  | Tick => exact h.tick
  | ReportCommandResult commandId resultCode message =>
      refine h.reportCommandResult (fun hid => ?_) resultCode message
      exact hresult resultCode message (by rw [hid])
  | SetClientCount count => exact { h with }

end Attends

end LegacyAlpha
