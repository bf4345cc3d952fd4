import LegacyAlphaRemote.Machine.Operations

/-!
# The machine and what it is told

Everything an operation learns while it runs is a reading of the clock or an answer of the sink, and
each of these is an event of the trace.  So the events of a call determine the call: with any other
clock and sink that would tell it the same, it does the same (`Interactive`, `perform_interactive`).

`Io.Yields io seg` says that `io` would tell a call just what the events `seg` record, and `Io.after`
is the clock and the sink once they have.
-/

namespace LegacyAlpha

/-! ## Being told something -/

/-- The clock and the sink give what these events record, from the first to the last.  The call and
the return of an operation are none of theirs. -/
def Io.Yields : Io → List Event → Prop
  | _, [] => True
  | io, .Clock now :: seg => io.nowMs.1 = now ∧ io.nowMs.2.Yields seg
  | io, .Sent command accepted :: seg =>
      (io.dispatch command).1 = accepted ∧ (io.dispatch command).2.Yields seg
  | _, .Call _ _ :: _ | _, .Returned _ _ _ :: _ => False

/-- The clock and the sink after these events, each having been read or asked once for every event of
its own. -/
def Io.after : Io → List Event → Io
  | io, [] => io
  | io, .Clock _ :: seg => io.nowMs.2.after seg
  | io, .Sent command _ :: seg => (io.dispatch command).2.after seg
  | io, .Call _ _ :: seg | io, .Returned _ _ _ :: seg => io.after seg

lemma Io.yields_append (seg seg' : List Event) : ∀ io : Io,
    io.Yields (seg ++ seg') ↔ io.Yields seg ∧ (io.after seg).Yields seg' := by
  induction seg with
  | nil => simp [Io.Yields, Io.after]
  | cons e seg ih =>
      intro io
      cases e with
      | Clock now | Sent command accepted => simp [Io.Yields, Io.after, ih, and_assoc]
      | Call op m | Returned op ok m => simp [Io.Yields]

lemma Io.after_append (seg seg' : List Event) : ∀ io : Io,
    io.after (seg ++ seg') = (io.after seg).after seg' := by
  induction seg with
  | nil => exact fun _ => rfl
  | cons e seg ih =>
      intro io
      cases e <;> exact ih _

/-- What was told is what the trace shows. -/
lemma Io.Yields.trace {seg : List Event} : ∀ {io : Io}, io.Yields seg →
    (io.after seg).trace = io.trace ++ seg := by
  induction seg with
  | nil => simp [Io.after]
  | cons e seg ih =>
      intro io h
      cases e with
      | Clock now =>
          obtain ⟨rfl, h⟩ := h
          rw [Io.after, ih h]
          simp [Io.nowMs]
      | Sent command accepted =>
          obtain ⟨rfl, h⟩ := h
          rw [Io.after, ih h]
          simp [Io.dispatch]
      | Call op m | Returned op ok m => exact h.elim

/-! ## Functions that are told things -/

/-- A function of the clock and the sink, with what it returns and what it makes of them, is
determined by the events it leaves. -/
def Interactive {α : Type*} (result : Io → α) (final : Io → Io) : Prop :=
  ∀ io : Io, ∃ seg, io.Yields seg ∧
    ∀ io' : Io, io'.Yields seg → result io' = result io ∧ final io' = io'.after seg

namespace Interactive

variable {α β : Type*}

lemma pure (a : α) : Interactive (fun _ => a) id :=
  fun _ => ⟨[], trivial, fun _ _ => ⟨rfl, rfl⟩⟩

lemma nowMs : Interactive (fun io => io.nowMs.1) fun io => io.nowMs.2 :=
  fun io => ⟨[.Clock io.nowMs.1], ⟨rfl, trivial⟩, fun _ h => ⟨h.1, rfl⟩⟩

lemma dispatch (command : NativeCommand) :
    Interactive (fun io => (io.dispatch command).1) fun io => (io.dispatch command).2 :=
  fun io => ⟨[.Sent command (io.dispatch command).1], ⟨rfl, trivial⟩, fun _ h => ⟨h.1, rfl⟩⟩

/-- One after the other, the second with what the first returned: the rule of sequence, by which the
operations are put together. -/
theorem bind {result : Io → α} {final : Io → Io} {s : α → Io → β} {g : α → Io → Io}
    (h : Interactive result final) (h' : ∀ a, Interactive (s a) (g a)) :
    Interactive (fun io => s (result io) (final io)) fun io => g (result io) (final io) := by
  intro io
  obtain ⟨seg, hseg, hall⟩ := h io
  obtain ⟨seg', hseg', hall'⟩ := h' (result io) (final io)
  have hfinal := (hall io hseg).2
  refine ⟨seg ++ seg', (Io.yields_append seg seg' io).mpr ⟨hseg, hfinal ▸ hseg'⟩, ?_⟩
  intro io' hio'
  obtain ⟨hfirst, hsecond⟩ := (Io.yields_append seg seg' io').mp hio'
  obtain ⟨hresult, hafter⟩ := hall io' hfirst
  obtain ⟨hresult', hafter'⟩ := hall' (io'.after seg) hsecond
  simp only [hresult, hafter]
  exact ⟨hresult', hafter'.trans (Io.after_append seg seg' io').symm⟩

lemma congr {result result' : Io → α} {final final' : Io → Io} (h : Interactive result final)
    (hresult : ∀ io, result' io = result io) (hfinal : ∀ io, final' io = final io) :
    Interactive result' final' := by
  obtain rfl : result' = result := funext hresult
  obtain rfl : final' = final := funext hfinal
  exact h

/-- What is made of the result does not matter. -/
lemma map {result : Io → α} {final : Io → Io} (h : Interactive result final) (make : α → β) :
    Interactive (fun io => make (result io)) final :=
  h.bind fun a => pure (make a)

/-- The events by which a computation has lengthened the trace are those that its clock and sink
yield, so that it gives the same with any other clock and sink that yield them. -/
theorem of_trace {result : Io → α} {final : Io → Io} (h : Interactive result final) {io : Io}
    {seg : List Event} (htrace : (final io).trace = io.trace ++ seg) :
    io.Yields seg ∧ ∀ io', io'.Yields seg → result io' = result io ∧ final io' = io'.after seg := by
  obtain ⟨seg', hyields, hall⟩ := h io
  rw [(hall io hyields).2, hyields.trace] at htrace
  obtain rfl := List.append_cancel_left htrace
  exact ⟨hyields, hall⟩

end Interactive

/-! ## The machine -/

namespace RemoteStateMachine

variable {config : NativeConfig} {m : RemoteStateMachine}

lemma send_interactive (m : RemoteStateMachine) (type : CommandType) :
    Interactive (fun io => ((m.send io type 0 []).1, (m.send io type 0 []).2.1))
      fun io => (m.send io type 0 []).2.2 := by
  refine ((Interactive.dispatch { id := m.nextCommandId, type, argument := 0, text := [] }).map
    fun accepted => if accepted then
        (some m.nextCommandId, { m with nextCommandId := m.nextCommandId + 1 })
      else (none, ({ m with nextCommandId := m.nextCommandId + 1 } : RemoteStateMachine).fail
        (bytes "native command queue full"))).congr ?_ ?_
  · intro io
    simp only [send]
    split_ifs <;> rfl
  · intro io
    simp only [send]
    split_ifs <;> rfl

lemma cancelFocus_interactive (m : RemoteStateMachine) :
    Interactive (fun io => (m.cancelFocus io).1) fun io => (m.cancelFocus io).2 := by
  by_cases hsent : m.focusSent = true
  · refine ((m.send_interactive .CancelAutofocus).map Prod.snd).congr ?_ ?_ <;> intro io <;>
      simp only [cancelFocus, hsent, if_true]
  · refine (Interactive.pure m).congr ?_ ?_ <;> intro io <;>
      simp only [cancelFocus, hsent, Bool.false_eq_true, if_false, id]

lemma beginCapture_interactive (config : NativeConfig) (m : RemoteStateMachine) (physical : Bool) :
    Interactive (fun io => (beginCapture config m io physical).1)
      fun io => (beginCapture config m io physical).2 := by
  have hsend := send_interactive
    { m with physicalCapture := physical, captureSent := true, standaloneFocus := false } .Capture
  refine (hsend.bind (s := fun sent io => match sent with
    | (none, m') => m'
    | (some id, m') => { m' with
        captureCommandId := id
        releaseDeadlineMs := io.nowMs.1 +
          if physical then config.physicalShutterFailsafeMs else config.webShutterHoldMs
        cooldownDeadlineMs := io.nowMs.1 + config.cooldownMs
        state := .Capturing })
    (g := fun sent io => match sent with
    | (none, _) => io
    | (some _, _) => io.nowMs.2) ?_).congr ?_ ?_
  · rintro ⟨_ | id, m'⟩
    · exact Interactive.pure m'
    · exact Interactive.nowMs.map fun now => { m' with
        captureCommandId := id
        releaseDeadlineMs := now +
          if physical then config.physicalShutterFailsafeMs else config.webShutterHoldMs
        cooldownDeadlineMs := now + config.cooldownMs
        state := .Capturing }
  all_goals
    intro io
    rcases hs : ({ m with
        physicalCapture := physical, captureSent := true, standaloneFocus := false } :
      RemoteStateMachine).send io .Capture 0 [] with ⟨_ | id, m', io'⟩ <;>
      simp only [beginCapture, hs, transition]

lemma tickCooldown_interactive (now : ℤ) (m : RemoteStateMachine) :
    Interactive (fun io => (tickCooldown now m io).1) fun io => (tickCooldown now m io).2 := by
  refine (Interactive.pure (tickCooldown now m { clock := 0, answers := fun _ => true }).1).congr
    ?_ ?_ <;> intro io <;> simp only [tickCooldown] <;> split_ifs <;> rfl

lemma tickRelease_interactive (now : ℤ) (m : RemoteStateMachine) :
    Interactive (fun io => (tickRelease now m io).1) fun io => (tickRelease now m io).2 := by
  by_cases hdue : (m.state == .Capturing && m.captureSent && m.releaseDeadlineMs > 0
      && now ≥ m.releaseDeadlineMs) = true
  · have hsend := send_interactive { m with releaseDeadlineMs := 0 } .ReleaseShutter
    refine (hsend.bind (s := fun sent io => match sent with
      | (none, m') => m'
      | (some id, m') =>
        (tickCooldown now ({ m' with releaseCommandId := id }.transition .Cooldown) io).1)
      (g := fun sent io => match sent with
      | (none, _) => io
      | (some id, m') =>
        (tickCooldown now ({ m' with releaseCommandId := id }.transition .Cooldown) io).2)
      ?_).congr ?_ ?_
    · rintro ⟨_ | id, m'⟩
      · exact Interactive.pure m'
      · exact tickCooldown_interactive now _
    all_goals
      intro io
      rcases hs : ({ m with releaseDeadlineMs := 0 } : RemoteStateMachine).send io .ReleaseShutter 0
        [] with ⟨_ | id, m', io'⟩ <;> simp only [tickRelease, if_pos hdue, hs]
  · refine (tickCooldown_interactive now m).congr ?_ ?_ <;> intro io <;>
      simp only [tickRelease, if_neg hdue]

lemma tickCapture_interactive (config : NativeConfig) (now : ℤ) (m : RemoteStateMachine) :
    Interactive (fun io => (tickCapture config now m io).1)
      fun io => (tickCapture config now m io).2 := by
  by_cases hdue : ((m.state == .Countdown || m.state == .Focusing) && !m.captureSent
      && now ≥ m.captureDeadlineMs) = true
  · refine ((beginCapture_interactive config m false).bind
      fun m' => tickRelease_interactive now m').congr ?_ ?_ <;> intro io <;>
      simp only [tickCapture, if_pos hdue]
  · refine (tickRelease_interactive now m).congr ?_ ?_ <;> intro io <;>
      simp only [tickCapture, if_neg hdue]

lemma tickFocus_interactive (config : NativeConfig) (now : ℤ) (m : RemoteStateMachine) :
    Interactive (fun io => (tickFocus config now m io).1)
      fun io => (tickFocus config now m io).2 := by
  by_cases hdue : ((m.state == .Countdown || m.state == .Focusing) && m.autofocusRequested
      && !m.focusSent && now ≥ m.focusDeadlineMs) = true
  · have hsend := send_interactive { m with focusSent := true } .StartAutofocus
    refine (hsend.bind (s := fun sent io => match sent with
      | (none, m') => m'
      | (some id, m') =>
        (tickCapture config now ({ m' with focusCommandId := id }.transition .Focusing) io).1)
      (g := fun sent io => match sent with
      | (none, _) => io
      | (some id, m') =>
        (tickCapture config now ({ m' with focusCommandId := id }.transition .Focusing) io).2)
      ?_).congr ?_ ?_
    · rintro ⟨_ | id, m'⟩
      · exact Interactive.pure m'
      · exact tickCapture_interactive config now _
    all_goals
      intro io
      rcases hs : ({ m with focusSent := true } : RemoteStateMachine).send io .StartAutofocus 0 []
        with ⟨_ | id, m', io'⟩ <;> simp only [tickFocus, if_pos hdue, hs]
  · refine (tickCapture_interactive config now m).congr ?_ ?_ <;> intro io <;>
      simp only [tickFocus, if_neg hdue]

lemma tick_interactive (config : NativeConfig) (m : RemoteStateMachine) :
    Interactive (fun io => (m.tick config io).1) fun io => (m.tick config io).2 := by
  by_cases hrun : (!m.running) = true
  · refine (Interactive.pure m).congr ?_ ?_ <;> intro io <;> simp only [tick, if_pos hrun, id]
  · refine (Interactive.nowMs.bind fun now => tickFocus_interactive config now m).congr ?_ ?_ <;>
      intro io <;> simp only [tick, if_neg hrun]

/-! ### Operations -/

end RemoteStateMachine

/-- What an operation hands back, without the clock and the sink: its answer, the text of its error
and the machine. -/
def Outcome.result (out : Outcome) : Bool × Bytes × RemoteStateMachine :=
  (out.ok, out.error, out.machine)

namespace RemoteStateMachine

lemma requestCapture_interactive (config : NativeConfig) (m : RemoteStateMachine)
    (requestId : Bytes) (delayMs : ℤ) (autofocus : Bool) :
    Interactive (fun io => (m.requestCapture config io requestId delayMs autofocus).result)
      fun io => (m.requestCapture config io requestId delayMs autofocus).io := by
  by_cases hbusy : (!m.acceptingRequests || m.state != .Armed) = true
  · refine (Interactive.pure (false, bytes "remote is busy", m)).congr ?_ ?_ <;> intro io <;>
      simp only [requestCapture, if_pos hbusy, Outcome.result, id]
  by_cases hrange : (delayMs < 0 || delayMs > config.maxDelayMs) = true
  · refine (Interactive.pure (false, bytes "delay_ms is out of range", m)).congr ?_ ?_ <;>
      intro io <;>
      simp only [requestCapture, if_neg hbusy, if_pos hrange, Outcome.result, id]
  · refine (Interactive.nowMs.bind fun now => (tick_interactive config
      (scheduleRequest config m now requestId delayMs autofocus)).map
        fun m' => (m'.state != .Error, ([] : Bytes), m')).congr ?_ ?_ <;> intro io <;>
      simp only [requestCapture_accepted hbusy hrange, Outcome.result]

lemma cancelCountdown_interactive (m : RemoteStateMachine) :
    Interactive (fun io => (m.cancelCountdown io).result) fun io => (m.cancelCountdown io).io := by
  by_cases hrefuse : (m.captureSent || (m.state != .Countdown && m.state != .Focusing)) = true
  · refine (Interactive.pure (false, bytes "countdown cannot be cancelled", m)).congr ?_ ?_ <;>
      intro io <;> simp only [cancelCountdown, if_pos hrefuse, Outcome.result, id]
  · refine (m.cancelFocus_interactive.map fun m' => (true, ([] : Bytes),
      m'.clearSchedule.transition m'.clearSchedule.restState)).congr ?_ ?_ <;> intro io <;>
      simp only [cancelCountdown, if_neg hrefuse, Outcome.result]

lemma setFocus_interactive (m : RemoteStateMachine) (pressed : Bool) :
    Interactive (fun io => (m.setFocus io pressed).result) fun io => (m.setFocus io pressed).io := by
  cases pressed with
  | true =>
      by_cases hbusy : (m.state != .Armed) = true
      · refine (Interactive.pure (false, bytes "remote is busy", m)).congr ?_ ?_ <;> intro io <;>
          simp only [setFocus, if_true, if_pos hbusy, Outcome.result, id]
      · refine ((send_interactive { m with standaloneFocus := true, focusSent := true }
          .StartAutofocus).map fun sent => sent.1.elim (false, ([] : Bytes), sent.2) fun id =>
            (true, [], { sent.2 with focusCommandId := id }.transition .Focusing)).congr ?_ ?_ <;>
          intro io <;>
          rcases hs : ({ m with standaloneFocus := true, focusSent := true } :
            RemoteStateMachine).send io .StartAutofocus 0 [] with ⟨_ | id, m', io'⟩ <;>
          simp only [setFocus, if_true, if_neg hbusy, hs, Outcome.result, Option.elim_none,
            Option.elim_some]
  | false =>
      by_cases hrefuse : (!m.standaloneFocus || m.state != .Focusing) = true
      · refine (Interactive.pure (false, bytes "focus is not active", m)).congr ?_ ?_ <;>
          intro io <;>
          simp only [setFocus, Bool.false_eq_true, if_false, if_pos hrefuse, Outcome.result, id]
      · refine ((m.send_interactive .CancelAutofocus).map fun sent => (true, ([] : Bytes),
          sent.2.clearSchedule.transition sent.2.clearSchedule.restState)).congr ?_ ?_ <;>
          intro io <;>
          simp only [setFocus, Bool.false_eq_true, if_false, if_neg hrefuse, Outcome.result]

lemma physicalPress_interactive (config : NativeConfig) (m : RemoteStateMachine) :
    Interactive (fun io => (m.physicalPress config io).result)
      fun io => (m.physicalPress config io).io :=
  (beginCapture_interactive config { m with lastRequestId := bytes "physical", lastError := [] }
    true).map fun m' => (m'.state != .Error, [], m')

lemma physicalShutter_interactive (config : NativeConfig) (m : RemoteStateMachine)
    (pressed : Bool) :
    Interactive (fun io => (m.physicalShutter config io pressed).result)
      fun io => (m.physicalShutter config io pressed).io := by
  cases pressed with
  | false =>
      by_cases hheld : (m.state == .Capturing && m.physicalCapture && m.releaseDeadlineMs > 0) = true
      · refine (Interactive.nowMs.bind fun now => (tick_interactive config
          { m with releaseDeadlineMs := now }).map fun m' => (true, ([] : Bytes), m')).congr
            ?_ ?_ <;> intro io <;>
          simp only [physicalShutter, Bool.not_false, if_true, if_pos hheld, Outcome.result]
      · refine (Interactive.pure (true, ([] : Bytes), m)).congr ?_ ?_ <;> intro io <;>
          simp only [physicalShutter, Bool.not_false, if_true, if_neg hheld, Outcome.result, id]
  | true =>
      have hpress : ¬ (!true) = true := by simp
      by_cases hready : (!m.running || !m.cameraReady) = true
      · refine (Interactive.pure (false, bytes "camera is not ready", m)).congr ?_ ?_ <;>
          intro io <;> simp only [physicalShutter, if_neg hpress, if_pos hready, Outcome.result, id]
      by_cases hpending :
          (m.state == .Countdown || (m.state == .Focusing && !m.standaloneFocus)) = true
      · refine (m.cancelFocus_interactive.bind fun m' =>
          physicalPress_interactive config m'.clearSchedule).congr ?_ ?_ <;> intro io <;>
          simp only [physicalShutter, if_neg hpress, if_neg hready, if_pos hpending]
      by_cases hbusy :
          (m.state != .Armed && !(m.state == .Focusing && m.standaloneFocus)) = true
      · refine (Interactive.pure (false, bytes "camera is busy", m)).congr ?_ ?_ <;> intro io <;>
          simp only [physicalShutter, if_neg hpress, if_neg hready, if_neg hpending, if_pos hbusy,
            Outcome.result, id]
      · refine (physicalPress_interactive config m).congr ?_ ?_ <;> intro io <;>
          simp only [physicalShutter, if_neg hpress, if_neg hready, if_neg hpending, if_neg hbusy]

lemma stop_interactive (m : RemoteStateMachine) :
    Interactive (fun io => (m.stop io).1) fun io => (m.stop io).2 := by
  by_cases hstopped : (!m.running && m.state == .Stopped) = true
  · refine (Interactive.pure m).congr ?_ ?_ <;> intro io <;>
      simp only [stop, if_pos hstopped, id]
  · refine (m.cancelFocus_interactive.map fun m' =>
      { m'.clearSchedule with running := false }.transition .Stopped).congr ?_ ?_ <;> intro io <;>
      simp only [stop, if_neg hstopped]

/-- **An operation is determined by what its events tell it**: with another clock and sink that give
the same times and the same answers in the same order, it returns the same, leaves the same machine
and records the same events. -/
theorem perform_interactive (config : NativeConfig) (m : RemoteStateMachine) (op : Op) :
    Interactive (fun io => (m.perform config io op).result)
      fun io => (m.perform config io op).io := by
  cases op with
  | Start => exact Interactive.pure (true, [], m.start)
  | Stop => exact m.stop_interactive.map fun m' => (true, [], m')
  | SetCameraReady ready => exact Interactive.pure (true, [], m.setCameraReady ready)
  | SetWifiReady ready => exact Interactive.pure (true, [], m.setWifiReady ready)
  | RequestCapture requestId delayMs autofocus =>
      exact requestCapture_interactive config m requestId delayMs autofocus
  | CancelCountdown => exact m.cancelCountdown_interactive
  | SetFocus pressed => exact m.setFocus_interactive pressed
  | PhysicalShutter pressed => exact physicalShutter_interactive config m pressed
  | Tick => exact (tick_interactive config m).map fun m' => (true, [], m')
  | ReportCommandResult commandId resultCode message =>
      exact Interactive.pure (true, [], m.reportCommandResult commandId resultCode message)
  | SetClientCount count => exact Interactive.pure (true, [], m.setClientCount count)

end RemoteStateMachine

end LegacyAlpha
