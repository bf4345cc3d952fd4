import LegacyAlphaRemote.Machine.Operations

/-!
# A machine that is not running

Only `start` and `stop` change whether the machine runs (`perform_running`).  A machine that does not
run is `Dormant`: it has nothing scheduled and is stopped, or in the error state after a failing
result was reported to it.  No operation but `start` wakes it, none sends a command, and those a
client may ask for are refused and change nothing (`Dormant.refused`).

Nothing is assumed here of the results that are reported: a result may carry any command id, zero
included.
-/

namespace LegacyAlpha

open RemoteStateMachine

variable {config : NativeConfig} {m : RemoteStateMachine} {io : Io}

/-! ## What keeps a machine running -/

namespace RemoteStateMachine

@[simp] lemma clearSchedule_running (m : RemoteStateMachine) :
    m.clearSchedule.running = m.running := rfl

@[simp] lemma send_running (m : RemoteStateMachine) (io : Io) (type : CommandType) (argument : ℤ)
    (text : Bytes) : (m.send io type argument text).2.1.running = m.running := by
  simp only [send]
  split_ifs <;> rfl

@[simp] lemma cancelFocus_running (m : RemoteStateMachine) (io : Io) :
    (m.cancelFocus io).1.running = m.running := by
  rw [cancelFocus]
  split_ifs
  · exact send_running m io _ _ _
  · rfl

@[simp] lemma beginCapture_running (m : RemoteStateMachine) (io : Io) (physical : Bool) :
    (m.beginCapture config io physical).1.running = m.running := by
  have hsend := send_running { m with
    physicalCapture := physical, captureSent := true, standaloneFocus := false } io .Capture 0 []
  rw [beginCapture]
  split
  · next h =>
      rw [h] at hsend
      exact hsend
  · next h =>
      rw [h] at hsend
      exact hsend

@[simp] lemma tickCooldown_running (now : ℤ) (m : RemoteStateMachine) (io : Io) :
    (tickCooldown now m io).1.running = m.running := by
  rw [tickCooldown]
  split_ifs <;> rfl

@[simp] lemma tickRelease_running (now : ℤ) (m : RemoteStateMachine) (io : Io) :
    (tickRelease now m io).1.running = m.running := by
  have hsend := send_running { m with releaseDeadlineMs := 0 } io .ReleaseShutter 0 []
  rw [tickRelease]
  split_ifs
  · dsimp only
    split
    · next h =>
        rw [h] at hsend
        exact hsend
    · next h =>
        rw [h] at hsend
        rw [tickCooldown_running]
        exact hsend
  · exact tickCooldown_running now m io

@[simp] lemma tickCapture_running (now : ℤ) (m : RemoteStateMachine) (io : Io) :
    (tickCapture config now m io).1.running = m.running := by
  rw [tickCapture]
  split_ifs
  · rw [tickRelease_running, beginCapture_running]
  · exact tickRelease_running now m io

@[simp] lemma tickFocus_running (now : ℤ) (m : RemoteStateMachine) (io : Io) :
    (tickFocus config now m io).1.running = m.running := by
  have hsend := send_running { m with focusSent := true } io .StartAutofocus 0 []
  rw [tickFocus]
  split_ifs
  · dsimp only
    split
    · next h =>
        rw [h] at hsend
        exact hsend
    · next h =>
        rw [h] at hsend
        rw [tickCapture_running]
        exact hsend
  · exact tickCapture_running now m io

@[simp] lemma tick_running_eq (m : RemoteStateMachine) (io : Io) :
    (m.tick config io).1.running = m.running := by
  rw [tick]
  split_ifs
  · rfl
  · exact tickFocus_running _ m _

lemma requestCapture_running (m : RemoteStateMachine) (io : Io) (requestId : Bytes) (delayMs : ℤ)
    (autofocus : Bool) :
    (m.requestCapture config io requestId delayMs autofocus).machine.running = m.running := by
  by_cases hbusy : (!m.acceptingRequests || m.state != .Armed) = true
  · rw [requestCapture, if_pos hbusy]
  by_cases hrange : (delayMs < 0 || delayMs > config.maxDelayMs) = true
  · rw [requestCapture, if_neg hbusy, if_pos hrange]
  · have hschedule : (scheduleRequest config m io.nowMs.1 requestId delayMs autofocus).running =
        m.running := by
      simp only [scheduleRequest, transition]
      split_ifs <;> rfl
    rw [requestCapture_accepted hbusy hrange]
    simp only [tick_running_eq, hschedule]

lemma cancelCountdown_running (m : RemoteStateMachine) (io : Io) :
    (m.cancelCountdown io).machine.running = m.running := by
  rw [cancelCountdown]
  split_ifs
  · rfl
  · exact cancelFocus_running m io

lemma setFocus_running (m : RemoteStateMachine) (io : Io) (pressed : Bool) :
    (m.setFocus io pressed).machine.running = m.running := by
  have hsend := send_running { m with standaloneFocus := true, focusSent := true } io
    .StartAutofocus 0 []
  rw [setFocus]
  split_ifs
  · rfl
  · dsimp only
    split
    · next h =>
        rw [h] at hsend
        exact hsend
    · next h =>
        rw [h] at hsend
        exact hsend
  · rfl
  · exact send_running m io _ _ _

lemma physicalShutter_running (m : RemoteStateMachine) (io : Io) (pressed : Bool) :
    (m.physicalShutter config io pressed).machine.running = m.running := by
  rw [physicalShutter]
  split_ifs
  · exact tick_running_eq _ _
  · rfl
  · rfl
  · simp [physicalPress]
  · rfl
  · simp [physicalPress]

/-- **Only `start` and `stop` change whether the machine runs.**  A machine that fails keeps running.
-/
theorem perform_running (m : RemoteStateMachine) (io : Io) {op : Op} (hstart : op ≠ .Start)
    (hstop : op ≠ .Stop) : (m.perform config io op).machine.running = m.running := by
  cases op with
  | Start => exact absurd rfl hstart
  | Stop => exact absurd rfl hstop
  | SetCameraReady ready | SetWifiReady ready =>
      simp only [perform, setCameraReady, setWifiReady, readinessChanged]
      split_ifs <;> rfl
  | RequestCapture requestId delayMs autofocus =>
      exact m.requestCapture_running io requestId delayMs autofocus
  | CancelCountdown => exact m.cancelCountdown_running io
  | SetFocus pressed => exact m.setFocus_running io pressed
  | PhysicalShutter pressed => exact m.physicalShutter_running io pressed
  | Tick => exact m.tick_running_eq io
  | ReportCommandResult commandId resultCode message =>
      simp only [perform, reportCommandResult]
      split_ifs <;> rfl
  | SetClientCount count => rfl

end RemoteStateMachine

/-! ## Dormant machines -/

/-- A machine that does not run and has nothing scheduled, as `stop` leaves it; a later failure shows
in its state only. -/
structure Dormant (m : RemoteStateMachine) : Prop where
  running : m.running = false
  clear : ScheduleClear m
  state : m.state = .Stopped ∨ m.state = .Error

lemma dormant_new : Dormant {} :=
  ⟨rfl, ⟨rfl, rfl, rfl, rfl, rfl, rfl, rfl, rfl, rfl, rfl, rfl, rfl⟩, Or.inl rfl⟩

/-- `stop` puts a running machine to sleep. -/
lemma dormant_stop (hrun : m.running = true) : Dormant (m.stop io).1 := by
  rw [stop, if_neg (by simp [hrun])]
  exact ⟨rfl, { scheduleClear_clearSchedule (m.cancelFocus io).1 with }, Or.inl rfl⟩

/-- `start` wakes any machine, a failed one too. -/
lemma start_running (m : RemoteStateMachine) : m.start.running = true := by
  rw [start]
  by_cases hrun : m.running = true
  · rw [if_pos hrun]
    exact hrun
  · rw [if_neg hrun]
    dsimp only
    split_ifs <;> rfl

namespace Dormant

/-- What a client may ask for is refused, and nothing comes of it. -/
lemma refused (h : Dormant m) (config : NativeConfig) (io : Io) (op : Op)
    (hop : (∃ requestId delayMs autofocus, op = .RequestCapture requestId delayMs autofocus) ∨
      op = .CancelCountdown ∨ ∃ pressed, op = .SetFocus pressed) :
    (m.perform config io op).ok = false ∧ (m.perform config io op).machine = m ∧
      (m.perform config io op).io = io := by
  obtain ⟨hrun, hclear, hstate⟩ := h
  rcases hop with ⟨requestId, delayMs, autofocus, rfl⟩ | rfl | ⟨pressed, rfl⟩
  · simp [perform, requestCapture, acceptingRequests, hrun]
  · rcases hstate with hstate | hstate <;> simp [perform, cancelCountdown, hstate]
  · rcases hstate with hstate | hstate <;> cases pressed <;> simp [perform, setFocus, hstate]

/-- No operation but `start` wakes a dormant machine, whatever it reports or asks for. -/
theorem perform (h : Dormant m) {op : Op} (hop : op ≠ .Start) :
    Dormant (m.perform config io op).machine := by
  obtain ⟨hrun, hclear, hstate⟩ := h
  cases op with
  | Start => exact absurd rfl hop
  | Stop =>
      simp only [RemoteStateMachine.perform, stop]
      split_ifs
      · exact ⟨hrun, hclear, hstate⟩
      · exact ⟨rfl, { scheduleClear_clearSchedule (m.cancelFocus io).1 with }, Or.inl rfl⟩
  | SetCameraReady ready | SetWifiReady ready =>
      simp only [RemoteStateMachine.perform, setCameraReady, setWifiReady, readinessChanged, hrun,
        Bool.not_false, if_true]
      exact ⟨rfl, { hclear with }, hstate⟩
  | RequestCapture requestId delayMs autofocus =>
      rw [(refused ⟨hrun, hclear, hstate⟩ config io _ (Or.inl ⟨_, _, _, rfl⟩)).2.1]
      exact ⟨hrun, hclear, hstate⟩
  | CancelCountdown =>
      rw [(refused ⟨hrun, hclear, hstate⟩ config io _ (Or.inr (Or.inl rfl))).2.1]
      exact ⟨hrun, hclear, hstate⟩
  | SetFocus pressed =>
      rw [(refused ⟨hrun, hclear, hstate⟩ config io _ (Or.inr (Or.inr ⟨_, rfl⟩))).2.1]
      exact ⟨hrun, hclear, hstate⟩
  | PhysicalShutter pressed =>
      have hunchanged : (m.physicalShutter config io pressed).machine = m := by
        rcases hstate with hstate | hstate <;> cases pressed <;> simp [physicalShutter, hrun, hstate]
      rw [RemoteStateMachine.perform, hunchanged]
      exact ⟨hrun, hclear, hstate⟩
  | Tick =>
      simp only [RemoteStateMachine.perform, tick, hrun, Bool.not_false, if_true]
      exact ⟨hrun, hclear, hstate⟩
  | ReportCommandResult commandId resultCode message =>
      -- With no command of its own, the machine takes only a result with id zero for its capture's.
      simp only [RemoteStateMachine.perform, reportCommandResult, hclear.captureCommandId,
        hclear.focusCommandId]
      by_cases hcapture : (commandId == 0 && resultCode != 0) = true
      · rw [if_pos hcapture]
        exact ⟨hrun, { scheduleClear_clearSchedule m with }, Or.inr rfl⟩
      · simp only [hcapture, hclear.releaseCommandId, Bool.false_and, Bool.false_eq_true, if_false]
        exact ⟨hrun, hclear, hstate⟩
  | SetClientCount count => exact ⟨hrun, { hclear with }, hstate⟩

end Dormant

end LegacyAlpha
