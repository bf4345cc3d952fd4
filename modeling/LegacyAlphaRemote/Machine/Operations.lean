import LegacyAlphaRemote.Machine.Refinement

/-!
# Every operation is an effect

The refinement, operation by operation, and its assembly: `step_effect` for a whole call.  The only
thing asked of a call is what the environment of the machine guarantees: a clock that is positive
and does not go back, and, for `reportCommandResult`, an id other than `0`, since every id handed
to a sink is positive.
-/

namespace LegacyAlpha

open RemoteStateMachine

variable {config : NativeConfig} {m : RemoteStateMachine} {io : Io} {p : Phase}

/-- What an operation does to a machine that represents `p`: it makes the events of a step of the
phase, and the machine it leaves represents the next phase. -/
def OpEffect (config : NativeConfig) (m : RemoteStateMachine) (io : Io) (p : Phase) (op : Op)
    (out : Outcome) : Prop :=
  ∃ seg p', Effect config m.nextCommandId p op seg out.ok p' ∧ Rep config out.machine p' ∧
    Ran io out.io seg

lemma OpEffect.quiet {op : Op} {out : Outcome} (hq : Quiet p op out.ok)
    (hm : Rep config out.machine p) (hio : out.io = io) : OpEffect config m io p op out :=
  ⟨[], p, .quiet hq, hm, hio ▸ Ran.refl _⟩

/-! ## What does not belong to the schedule -/

/-- Texts and the client count belong to no phase. -/
lemma Rep.withTexts (hm : Rep config m p) (count : ℤ) (requestId error : Bytes) :
    Rep config { m with clientCount := count, lastRequestId := requestId, lastError := error } p := by
  refine ⟨?_, hm.stopped, { hm.ids with }⟩
  have hready : Ready m →
      Ready { m with clientCount := count, lastRequestId := requestId, lastError := error } :=
    fun h => { h with }
  cases p with
  | Idle s =>
      have hp : RepIdle m s := hm.phase
      exact { hp with clear := { hp.clear with }, ready := fun h => hready (hp.ready h) }
  | Countdown plan =>
      have hp : RepCountdown config m plan := hm.phase
      exact { hp with ready := hready hp.ready }
  | Focusing plan f =>
      have hp : RepFocusing config m plan f := hm.phase
      exact { hp with ready := hready hp.ready }
  | HalfPress f =>
      have hp : RepHalfPress m f := hm.phase
      exact { hp with ready := hready hp.ready }
  | Capturing c f ph r cd =>
      have hp : RepCapturing m c f ph r cd := hm.phase
      exact { hp with ready := hready hp.ready }
  | Cooldown c f r cd =>
      have hp : RepCooldown m c f r cd := hm.phase
      exact { hp with ready := hready hp.ready }

/-- A machine that is doing something is ready. -/
lemma Rep.ready (hm : Rep config m p) (hp : ∀ s, p ≠ .Idle s) : Ready m := by
  cases p with
  | Idle s => exact absurd rfl (hp s)
  | Countdown plan => exact RepWaiting.ready (RepCountdown.toRepWaiting hm.phase)
  | Focusing plan f => exact RepFocusing.ready hm.phase
  | HalfPress f => exact RepHalfPress.ready hm.phase
  | Capturing c f ph r cd => exact RepCapturing.ready hm.phase
  | Cooldown c f r cd => exact RepCooldown.ready hm.phase

/-- A machine that does not run is stopped, and nothing is scheduled. -/
lemma Rep.eq_stopped (hm : Rep config m p) (hrun : m.running = false) : p = .Idle .Stopped := by
  have hstate := hm.stopped.mpr hrun
  cases p with
  | Idle s =>
      have hp : RepIdle m s := hm.phase
      rw [← hstate, hp.state]
  | _ =>
      have hready := (hm.ready (by simp)).running
      rw [hrun] at hready
      cases hready

/-- The states of the idle phases are those in which nothing is scheduled. -/
lemma Rep.state_idle {s : RemoteState} (hm : Rep config m (.Idle s)) : m.state = s :=
  RepIdle.state hm.phase

lemma rep_idle {s : RemoteState} (hs : m.state = s) (hrest : s.resting = true)
    (hclear : ScheduleClear m) (hready : s = .Armed → Ready m)
    (hstopped : s = .Stopped ↔ m.running = false) (hn : 0 < m.nextCommandId) :
    Rep config m (.Idle s) :=
  ⟨⟨hs, hrest, hclear, hready⟩, by rw [hs]; exact hstopped, trackedIds_of_clear hclear hn⟩

/-! ## The lifecycle -/

lemma start_effect (hm : Rep config m p) :
    OpEffect config m io p .Start { ok := true, machine := m.start, io } := by
  by_cases hrun : m.running = true
  · refine OpEffect.quiet trivial ?_ rfl
    simpa [start, hrun] using hm
  · rw [Bool.not_eq_true] at hrun
    obtain rfl := hm.eq_stopped hrun
    have hn := hm.ids.next_pos
    by_cases hready : m.cameraReady = true ∧ m.wifiReady = true
    · refine ⟨[], .Idle .Armed, .lifecycle rfl, ?_, Ran.refl io⟩
      refine rep_idle ?_ rfl ?_ (fun _ => ⟨?_, ?_, ?_⟩) ?_ ?_ <;>
        simp [start, hrun, hready, clearSchedule, transition, hn]
      exact { scheduleClear_clearSchedule m with }
    · refine ⟨[], .Idle .Starting, .lifecycle rfl, ?_, Ran.refl io⟩
      have hstart : m.start
          = ({ m with running := true, lastError := [] } : RemoteStateMachine).clearSchedule.transition
            .Starting := by
        simp only [start, hrun, Bool.false_eq_true, if_false]
        rw [if_neg]
        simpa [clearSchedule, transition] using hready
      rw [hstart]
      refine rep_idle rfl rfl ?_ (by simp) ?_ hn
      · exact ⟨rfl, rfl, rfl, rfl, rfl, rfl, rfl, rfl, rfl, rfl, rfl, rfl⟩
      · simp [clearSchedule, transition]

/-- Giving up a running autofocus: a command or nothing, and the machine as ready as before. -/
lemma cancelFocus_effect (io : Io) (hm : Rep config m p) (hp : ∀ s, p = .Idle s → m.focusSent = false) :
    ∃ seg, CancelEffect m.nextCommandId p.focusId seg ∧ Ran io (m.cancelFocus io).2 seg ∧
      (m.cancelFocus io).1.running = m.running ∧
      (m.cancelFocus io).1.cameraReady = m.cameraReady ∧
      (m.cancelFocus io).1.wifiReady = m.wifiReady ∧
      m.nextCommandId ≤ (m.cancelFocus io).1.nextCommandId := by
  have hfocus : m.focusSent = true ↔ p.focusId ≠ 0 := by
    cases p with
    | Idle s => simp [hp s rfl, Phase.focusId]
    | Countdown plan =>
        have hp : RepCountdown config m plan := hm.phase
        simp [hp.focusSent, Phase.focusId]
    | Focusing plan f =>
        have hp : RepFocusing config m plan f := hm.phase
        simp [hp.focusSent, Phase.focusId, hp.focus_ne]
    | HalfPress f =>
        have hp : RepHalfPress m f := hm.phase
        simp [hp.focusSent, Phase.focusId, hp.focus_ne]
    | Capturing c f ph r cd => exact RepCapturing.focusSent hm.phase
    | Cooldown c f r cd => exact RepCooldown.focusSent hm.phase
  by_cases hsent : m.focusSent = true
  · rcases hs : m.send io .CancelAutofocus 0 [] with ⟨_ | id, m', io'⟩
    · obtain ⟨rfl, hran⟩ := send_rejected hs
      refine ⟨_, .sent false (hfocus.mp hsent), ?_⟩
      simp only [cancelFocus, hsent, hs, if_true]
      exact ⟨hran, rfl, rfl, rfl, by show m.nextCommandId ≤ m.nextCommandId + 1; omega⟩
    · obtain ⟨rfl, rfl, hran⟩ := send_accepted hs
      refine ⟨_, .sent true (hfocus.mp hsent), ?_⟩
      simp only [cancelFocus, hsent, hs, if_true]
      simpa using hran
  · refine ⟨[], .none (by simpa using hfocus.not.mp hsent), ?_⟩
    simp [cancelFocus, hsent, Ran.refl]

lemma Rep.focusSent_idle {s : RemoteState} (hm : Rep config m p) (hp : p = .Idle s) :
    m.focusSent = false := by
  subst hp
  exact ScheduleClear.focusSent (RepIdle.clear hm.phase)

lemma stop_effect (hm : Rep config m p) :
    OpEffect config m io p .Stop { ok := true, machine := (m.stop io).1, io := (m.stop io).2 } := by
  by_cases hstop : m.running = false
  · obtain rfl := hm.eq_stopped hstop
    have hcond : (!m.running && m.state == .Stopped) = true := by
      simp [hstop, hm.state_idle]
    refine OpEffect.quiet rfl ?_ ?_ <;> simp only [stop, if_pos hcond]
    exact hm
  · have hcond : ¬ (!m.running && m.state == .Stopped) = true := by
      simp [hstop]
    obtain ⟨seg, hcancel, hran, -, -, -, hn⟩ :=
      cancelFocus_effect io hm fun s => hm.focusSent_idle
    refine ⟨seg, _, .stop hcancel, ?_, ?_⟩ <;> simp only [stop, if_neg hcond]
    · refine rep_idle rfl rfl ?_ (by simp) (by simp [transition]) (lt_of_lt_of_le hm.ids.next_pos hn)
      exact { scheduleClear_clearSchedule m with }
    · exact hran

/-- `setCameraReady(true)` or `setWifiReady(true)`, once the flag is stored: a machine that waits
for it is armed, any other stays as it is. -/
lemma readinessChanged_true (op : Op) (hlife : op.lifecycle = true) (hquiet : Quiet p op true)
    (hm : Rep config m p) (n : ℤ) (other : Bool)
    (hready : m.running = true → other = true → Ready m) :
    ∃ p', Effect config n p op [] true p' ∧ Rep config (readinessChanged m true other) p' := by
  by_cases hcond : m.running = true ∧ other = true ∧ m.state = .Starting
  · obtain ⟨hrun, hother, hstate⟩ := hcond
    have harmed : readinessChanged m true other = m.transition .Armed := by
      simp [readinessChanged, hrun, hother, hstate]
    cases p with
    | Idle s =>
        have hp : RepIdle m s := hm.phase
        refine ⟨.Idle .Armed, .lifecycle hlife, ?_⟩
        rw [harmed]
        refine rep_idle rfl rfl { hp.clear with } (fun _ => { hready hrun hother with }) ?_
          hm.ids.next_pos
        simp [transition, hrun]
    | Countdown plan => exact absurd (hstate.symm.trans (RepCountdown.state hm.phase)) (by simp)
    | Focusing plan f => exact absurd (hstate.symm.trans (RepFocusing.state hm.phase)) (by simp)
    | HalfPress f => exact absurd (hstate.symm.trans (RepHalfPress.state hm.phase)) (by simp)
    | Capturing c f ph r cd =>
        exact absurd (hstate.symm.trans (RepCapturing.state hm.phase)) (by simp)
    | Cooldown c f r cd => exact absurd (hstate.symm.trans (RepCooldown.state hm.phase)) (by simp)
  · have hsame : readinessChanged m true other = m := by
      simp only [readinessChanged, Bool.not_true, Bool.false_eq_true, if_false]
      split_ifs with h1 h2
      · rfl
      · simp only [Bool.not_eq_true', Bool.not_eq_false] at h1
        simp only [Bool.and_eq_true, beq_iff_eq] at h2
        exact absurd ⟨h1, h2⟩ hcond
      · rfl
    exact ⟨p, .quiet hquiet, by rw [hsame]; exact hm⟩

/-- `setCameraReady(false)` or `setWifiReady(false)`, once the flag is stored. -/
lemma readinessChanged_false (hn : 0 < m.nextCommandId) (other : Bool) (hrun : m.running = true) :
    Rep config (readinessChanged m false other) (.Idle .Starting) := by
  have hcleared : readinessChanged m false other = m.clearSchedule.transition .Starting := by
    simp [readinessChanged, hrun]
  rw [hcleared]
  refine rep_idle rfl rfl { scheduleClear_clearSchedule m with } (by simp) ?_ hn
  simp [transition, clearSchedule, hrun]

/-- Readiness of the camera or the Wi-Fi is a field of its own, and set while the machine does
something. -/
lemma Rep.withReadiness (hm : Rep config m p) (camera wifi : Bool)
    (hcamera : m.cameraReady = true → camera = true) (hwifi : m.wifiReady = true → wifi = true) :
    Rep config { m with cameraReady := camera, wifiReady := wifi } p := by
  refine ⟨?_, hm.stopped, { hm.ids with }⟩
  have hready : Ready m → Ready { m with cameraReady := camera, wifiReady := wifi } :=
    fun h => ⟨h.running, hcamera h.cameraReady, hwifi h.wifiReady⟩
  cases p with
  | Idle s =>
      have hp : RepIdle m s := hm.phase
      exact { hp with clear := { hp.clear with }, ready := fun h => hready (hp.ready h) }
  | Countdown plan =>
      have hp : RepCountdown config m plan := hm.phase
      exact { hp with ready := hready hp.ready }
  | Focusing plan f =>
      have hp : RepFocusing config m plan f := hm.phase
      exact { hp with ready := hready hp.ready }
  | HalfPress f =>
      have hp : RepHalfPress m f := hm.phase
      exact { hp with ready := hready hp.ready }
  | Capturing c f ph r cd =>
      have hp : RepCapturing m c f ph r cd := hm.phase
      exact { hp with ready := hready hp.ready }
  | Cooldown c f r cd =>
      have hp : RepCooldown m c f r cd := hm.phase
      exact { hp with ready := hready hp.ready }

/-- A stopped machine only stores the flag. -/
lemma rep_stopped_withReadiness (hm : Rep config m (.Idle .Stopped)) (camera wifi : Bool) :
    Rep config { m with cameraReady := camera, wifiReady := wifi } (.Idle .Stopped) := by
  have hp : RepIdle m .Stopped := hm.phase
  exact rep_idle hp.state rfl { hp.clear with } (by simp) (by simpa [hp.state] using hm.stopped)
    hm.ids.next_pos

lemma setCameraReady_effect (hm : Rep config m p) (ready : Bool) :
    OpEffect config m io p (.SetCameraReady ready)
      { ok := true, machine := m.setCameraReady ready, io } := by
  cases ready with
  | true =>
      obtain ⟨p', heff, hrep⟩ := readinessChanged_true (.SetCameraReady true) rfl (Or.inl rfl)
        (hm.withReadiness true m.wifiReady (fun _ => rfl) id) m.nextCommandId m.wifiReady
        (fun hrun hother => ⟨hrun, rfl, hother⟩)
      exact ⟨[], p', heff, hrep, Ran.refl io⟩
  | false =>
      by_cases hrun : m.running = true
      · exact ⟨[], _, .cameraLost,
          readinessChanged_false (m := { m with cameraReady := false }) hm.ids.next_pos m.wifiReady
            hrun, Ran.refl io⟩
      · rw [Bool.not_eq_true] at hrun
        obtain rfl := hm.eq_stopped hrun
        refine OpEffect.quiet (Or.inr rfl) ?_ rfl
        have hstored := rep_stopped_withReadiness hm false m.wifiReady
        simpa [setCameraReady, readinessChanged, hrun] using hstored

lemma setWifiReady_effect (hm : Rep config m p) (ready : Bool) :
    OpEffect config m io p (.SetWifiReady ready)
      { ok := true, machine := m.setWifiReady ready, io } := by
  cases ready with
  | true =>
      obtain ⟨p', heff, hrep⟩ := readinessChanged_true (.SetWifiReady true) rfl (Or.inl rfl)
        (hm.withReadiness m.cameraReady true id (fun _ => rfl)) m.nextCommandId m.cameraReady
        (fun hrun hother => ⟨hrun, hother, rfl⟩)
      exact ⟨[], p', heff, hrep, Ran.refl io⟩
  | false =>
      by_cases hrun : m.running = true
      · exact ⟨[], _, .wifiLost,
          readinessChanged_false (m := { m with wifiReady := false }) hm.ids.next_pos m.cameraReady
            hrun, Ran.refl io⟩
      · rw [Bool.not_eq_true] at hrun
        obtain rfl := hm.eq_stopped hrun
        refine OpEffect.quiet (Or.inr rfl) ?_ rfl
        have hstored := rep_stopped_withReadiness hm m.cameraReady false
        simpa [setWifiReady, readinessChanged, hrun] using hstored

/-! ## Ticks and requests -/

lemma tick_running (hrun : m.running = true) :
    m.tick config io = tickFocus config io.nowMs.1 m io.nowMs.2 := by
  simp only [tick, hrun, Bool.not_true, Bool.false_eq_true, if_false]

lemma tick_effect (hc : config.Timing) (hio : io.Legal) (hm : Rep config m p) :
    OpEffect config m io p .Tick
      { ok := true, machine := (m.tick config io).1, io := (m.tick config io).2 } := by
  by_cases hrun : m.running = true
  · have hpos : 0 ≤ io.nowMs.1 := hio.nowMs_pos.le
    obtain ⟨seg, p', heff, hrep, hran⟩ :=
      tickFocus_effect hc (hio.of_ran (Ran.nowMs io)) hio.notBefore hpos hm
    rw [tick_running hrun]
    exact ⟨_, p', .tick heff, hrep, (Ran.nowMs io).trans hran⟩
  · rw [Bool.not_eq_true] at hrun
    obtain rfl := hm.eq_stopped hrun
    refine OpEffect.quiet rfl ?_ ?_ <;> simp only [tick, hrun, Bool.not_false, if_true]
    exact hm

/-- The machine `requestCapture` hands to `tick`, for a request accepted at `now`: the deadlines are
set, and the state is already that of a countdown or of focusing, though nothing has been sent. -/
def scheduleRequest (config : NativeConfig) (m : RemoteStateMachine) (now : ℤ) (requestId : Bytes)
    (delayMs : ℤ) (autofocus : Bool) : RemoteStateMachine :=
  let m := { m.clearSchedule with
    lastRequestId := requestId
    lastError := []
    autofocusRequested := autofocus
    captureDeadlineMs := now + delayMs
    focusDeadlineMs := if autofocus then now + delayMs - config.autofocusLeadMs else 0 }
  let m := if delayMs == 0 && autofocus then
      { m with
        captureDeadlineMs := now + config.immediateAutofocusLeadMs
        focusDeadlineMs := now }
    else m
  let m := if autofocus && m.focusDeadlineMs < now then { m with focusDeadlineMs := now } else m
  m.transition (if delayMs > 0 then .Countdown else if autofocus then .Focusing else .Countdown)

lemma requestCapture_accepted {requestId : Bytes} {delayMs : ℤ} {autofocus : Bool}
    (hfree : ¬ (!m.acceptingRequests || m.state != .Armed) = true)
    (hrange : ¬ (delayMs < 0 || delayMs > config.maxDelayMs) = true) :
    m.requestCapture config io requestId delayMs autofocus =
      let after := tick config (scheduleRequest config m io.nowMs.1 requestId delayMs autofocus)
        io.nowMs.2
      { ok := after.1.state != .Error, machine := after.1, io := after.2 } := by
  rw [requestCapture, if_neg hfree, if_neg hrange]
  rfl

lemma scheduleRequest_nextCommandId (now : ℤ) (requestId : Bytes) (delayMs : ℤ) (autofocus : Bool) :
    (scheduleRequest config m now requestId delayMs autofocus).nextCommandId = m.nextCommandId := by
  simp only [scheduleRequest, transition, clearSchedule]
  split_ifs <;> rfl

/-- The three `if`s of `requestCapture` compute the two due times of the plan. -/
lemma scheduleRequest_waiting {plan : Plan} (hc : config.Timing) (hready : Ready m)
    (hd : 0 ≤ plan.delayMs) :
    RepWaiting config
      (scheduleRequest config m plan.madeAt plan.requestId plan.delayMs plan.autofocus) plan := by
  have hlead := hc.focusLead
  have himm := hc.immediateLead
  obtain ⟨requestId, delayMs, autofocus, now⟩ := plan
  simp only at hd
  rcases hd.eq_or_lt with hzero | hpos
  · obtain rfl := hzero.symm
    cases autofocus <;>
      refine ⟨hd, ⟨?_, ?_, ?_⟩, ?_, ?_, ?_, ?_, ?_, ?_, ?_, ?_, ?_⟩ <;>
        simp [scheduleRequest, transition, clearSchedule, Plan.captureAt, Plan.focusAt,
          hready.running, hready.cameraReady, hready.wifiReady]
  · have hne : delayMs ≠ 0 := by omega
    cases autofocus
    · refine ⟨hd, ⟨?_, ?_, ?_⟩, ?_, ?_, ?_, ?_, ?_, ?_, ?_, ?_, ?_⟩ <;>
        simp [scheduleRequest, transition, clearSchedule, Plan.captureAt,
          hready.running, hready.cameraReady, hready.wifiReady]
    · by_cases hlate : now + delayMs - config.autofocusLeadMs < now
      · refine ⟨hd, ⟨?_, ?_, ?_⟩, ?_, ?_, ?_, ?_, ?_, ?_, ?_, ?_, ?_⟩ <;>
          simp [scheduleRequest, transition, clearSchedule, Plan.captureAt, Plan.focusAt, hne,
            hlate, hready.running, hready.cameraReady, hready.wifiReady]
        omega
      · refine ⟨hd, ⟨?_, ?_, ?_⟩, ?_, ?_, ?_, ?_, ?_, ?_, ?_, ?_, ?_⟩ <;>
          simp [scheduleRequest, transition, clearSchedule, Plan.captureAt, Plan.focusAt, hne,
            hlate, hready.running, hready.cameraReady, hready.wifiReady]
        omega

lemma Rep.eq_armed (hm : Rep config m p) (hstate : m.state = .Armed) : p = .Idle .Armed := by
  cases p with
  | Idle s => rw [← hm.state_idle, hstate]
  | Countdown plan => exact absurd (hstate.symm.trans (RepCountdown.state hm.phase)) (by simp)
  | Focusing plan f => exact absurd (hstate.symm.trans (RepFocusing.state hm.phase)) (by simp)
  | HalfPress f => exact absurd (hstate.symm.trans (RepHalfPress.state hm.phase)) (by simp)
  | Capturing c f ph r cd =>
      exact absurd (hstate.symm.trans (RepCapturing.state hm.phase)) (by simp)
  | Cooldown c f r cd => exact absurd (hstate.symm.trans (RepCooldown.state hm.phase)) (by simp)

/-- The tick inside `requestCapture`, which finds the request just stored, at a clock that has not
gone back since. -/
lemma tick_scheduleRequest (plan : Plan) (hc : config.Timing) (hio : io.Legal) (hready : Ready m)
    (hn : 0 < m.nextCommandId) (hd : 0 ≤ plan.delayMs) (hmade : io.NotBefore plan.madeAt) :
    let m' := scheduleRequest config m plan.madeAt plan.requestId plan.delayMs plan.autofocus
    ∃ now seg p', plan.madeAt ≤ now ∧ TickEffect config m.nextCommandId now (.Countdown plan) seg p' ∧
      Rep config (m'.tick config io).1 p' ∧ Ran io (m'.tick config io).2 (.Clock now :: seg) := by
  intro m'
  have hwait : RepWaiting config m' plan := scheduleRequest_waiting hc hready hd
  have hnext : m'.nextCommandId = m.nextCommandId := scheduleRequest_nextCommandId _ _ _ _
  have hstate : m'.state = if plan.delayMs > 0 then .Countdown
      else if plan.autofocus then .Focusing else .Countdown := rfl
  have hmade' : plan.madeAt ≤ io.nowMs.1 := hmade _ le_rfl
  have hstage : StageEffect config io.nowMs.1 m' io.nowMs.2 (.Countdown plan)
      (tickFocus config io.nowMs.1 m' io.nowMs.2) := by
    by_cases hfocus : plan.delayMs > 0 ∨ plan.autofocus = false
    · have hcount : m'.state = .Countdown := by
        rw [hstate]
        rcases hfocus with h | h <;> simp [h]
      refine tickFocus_effect_countdown hc (hio.of_ran (Ran.nowMs io)) hio.notBefore ?_
      refine ⟨⟨hwait, hcount⟩, by simp [hcount, hwait.ready.running], ?_⟩
      have hf := hwait.focusCommandId
      have hcap := hwait.captureCommandId
      have hrel := hwait.releaseCommandId
      constructor <;> omega
    · -- no delay and an autofocus: the state is already `Focusing`, and the autofocus is due
      obtain ⟨hzero, ha⟩ : ¬ plan.delayMs > 0 ∧ plan.autofocus = true := by simpa using hfocus
      have hfoc : m'.state = .Focusing := by simp [hstate, hzero, ha]
      refine tickFocus_due hc (hio.of_ran (Ran.nowMs io)) hio.notBefore hwait (hnext ▸ hn)
        (Or.inr hfoc) ha ?_
      rw [Plan.focusAt, if_pos (by omega)]
      exact hmade'
  obtain ⟨seg, p', heff, hrep, hran⟩ := hstage
  rw [tick_running hwait.ready.running]
  exact ⟨io.nowMs.1, seg, p', hmade', hnext ▸ heff, hrep, (Ran.nowMs io).trans hran⟩

lemma requestCapture_effect (hc : config.Timing) (hio : io.Legal) (hm : Rep config m p)
    (requestId : Bytes) (delayMs : ℤ) (autofocus : Bool) :
    OpEffect config m io p (.RequestCapture requestId delayMs autofocus)
      (m.requestCapture config io requestId delayMs autofocus) := by
  by_cases hbusy : (!m.acceptingRequests || m.state != .Armed) = true
  · refine OpEffect.quiet ?_ ?_ ?_ <;> simp only [requestCapture, if_pos hbusy]
    · rfl
    · exact hm
  by_cases hrange : (delayMs < 0 || delayMs > config.maxDelayMs) = true
  · refine OpEffect.quiet ?_ ?_ ?_ <;> simp only [requestCapture, if_neg hbusy, if_pos hrange]
    · rfl
    · exact hm
  have hstate : m.state = .Armed := by
    simp only [Bool.or_eq_true, not_or, bne_iff_ne, not_not] at hbusy
    exact hbusy.2
  obtain rfl := hm.eq_armed hstate
  have hready : Ready m := RepIdle.ready hm.phase rfl
  obtain ⟨hd, hd'⟩ : 0 ≤ delayMs ∧ delayMs ≤ config.maxDelayMs := by simpa using hrange
  let plan : Plan := ⟨requestId, delayMs, autofocus, io.nowMs.1⟩
  obtain ⟨now, seg, p', hle, heff, hrep, hran⟩ :=
    tick_scheduleRequest plan hc (hio.of_ran (Ran.nowMs io)) hready hm.ids.next_pos hd
      hio.notBefore
  rw [requestCapture_accepted hbusy hrange]
  refine ⟨_, p', ?_, hrep, (Ran.nowMs io).trans hran⟩
  have hrequest : Effect config m.nextCommandId (.Idle .Armed) (.RequestCapture plan.requestId
      plan.delayMs plan.autofocus) _ _ p' := .request hd hd' hle heff
  rw [← hrep.state] at hrequest
  exact hrequest

/-! ## Giving up -/

lemma Rep.cancellable_iff (hm : Rep config m p) :
    p.cancellable = true ↔
      ¬ (m.captureSent || (m.state != .Countdown && m.state != .Focusing)) = true := by
  cases p with
  | Idle s =>
      have hp : RepIdle m s := hm.phase
      have hrest := hp.resting
      cases s <;> simp_all [Phase.cancellable, hp.state, RemoteState.resting]
  | Countdown plan =>
      have hp : RepCountdown config m plan := hm.phase
      simp [Phase.cancellable, hp.state, hp.captureSent]
  | Focusing plan f =>
      have hp : RepFocusing config m plan f := hm.phase
      simp [Phase.cancellable, hp.state, hp.captureSent]
  | HalfPress f =>
      have hp : RepHalfPress m f := hm.phase
      simp [Phase.cancellable, hp.state, hp.captureSent]
  | Capturing c f ph r cd =>
      have hp : RepCapturing m c f ph r cd := hm.phase
      simp [Phase.cancellable, hp.captureSent]
  | Cooldown c f r cd =>
      have hp : RepCooldown m c f r cd := hm.phase
      simp [Phase.cancellable, hp.captureSent]

lemma cancelCountdown_effect (hm : Rep config m p) :
    OpEffect config m io p .CancelCountdown (m.cancelCountdown io) := by
  by_cases hcan : p.cancellable = true
  · have hready : Ready m := by
      refine hm.ready ?_
      rintro s rfl
      cases hcan
    obtain ⟨seg, hcancel, hran, hrun, hcamera, hwifi, hn⟩ :=
      cancelFocus_effect io hm fun s => hm.focusSent_idle
    have hrep : Rep config ((m.cancelFocus io).1.clearSchedule.transition
        (m.cancelFocus io).1.clearSchedule.restState) (.Idle .Armed) :=
      rep_rest ⟨hrun.trans hready.running, hcamera.trans hready.cameraReady,
        hwifi.trans hready.wifiReady⟩ (lt_of_lt_of_le hm.ids.next_pos hn)
    refine ⟨seg, .Idle .Armed, ?_, ?_, ?_⟩ <;>
      simp only [cancelCountdown, if_neg (hm.cancellable_iff.mp hcan)]
    · exact .cancel hcan hcancel
    · exact hrep
    · exact hran
  · have hcond := not_not.mp (hm.cancellable_iff.not.mp hcan)
    refine OpEffect.quiet ?_ ?_ ?_ <;> simp only [cancelCountdown, if_pos hcond]
    · exact ⟨rfl, by simpa using hcan⟩
    · exact hm

/-! ## The shutter button -/

lemma Rep.eq_halfPress (hm : Rep config m p)
    (h : ¬ (!m.standaloneFocus || m.state != .Focusing) = true) : ∃ f, p = .HalfPress f := by
  obtain ⟨hstand, hstate⟩ : m.standaloneFocus = true ∧ m.state = .Focusing := by simpa using h
  cases p with
  | Idle s =>
      rw [ScheduleClear.standaloneFocus (RepIdle.clear hm.phase)] at hstand
      cases hstand
  | Countdown plan =>
      rw [RepWaiting.standaloneFocus (RepCountdown.toRepWaiting hm.phase)] at hstand
      cases hstand
  | Focusing plan f =>
      rw [RepFocusing.standaloneFocus hm.phase] at hstand
      cases hstand
  | HalfPress f => exact ⟨f, rfl⟩
  | Capturing c f ph r cd =>
      rw [RepCapturing.standaloneFocus hm.phase] at hstand
      cases hstand
  | Cooldown c f r cd =>
      rw [RepCooldown.standaloneFocus hm.phase] at hstand
      cases hstand

lemma setFocus_effect (hm : Rep config m p) (pressed : Bool) :
    OpEffect config m io p (.SetFocus pressed) (m.setFocus io pressed) := by
  have hn := hm.ids.next_pos
  cases pressed with
  | true =>
      by_cases hstate : m.state = .Armed
      · obtain rfl := hm.eq_armed hstate
        have hp : RepIdle m .Armed := hm.phase
        have hready := hp.ready rfl
        rw [setFocus, if_pos rfl, if_neg (by simp [hstate])]
        rcases hs : ({ m with standaloneFocus := true, focusSent := true } :
          RemoteStateMachine).send io .StartAutofocus 0 [] with ⟨_ | id, m', io'⟩
        · simp only [hs]
          obtain ⟨rfl, hran⟩ := send_rejected hs
          refine ⟨_, _, .focusRejected, ?_, hran⟩
          refine rep_fail ?_ ?_ _
          · exact hready.running
          · show 0 < m.nextCommandId + 1
            omega
        · simp only [hs]
          obtain ⟨rfl, rfl, hran⟩ := send_accepted hs
          have hcap := hp.clear.captureCommandId
          have hrel := hp.clear.releaseCommandId
          refine ⟨_, _, .focusPress, ⟨⟨rfl, { hready with }, rfl, by omega, hcap, hrel,
            hp.clear.captureDeadlineMs, hp.clear.autofocusRequested, rfl, hp.clear.captureSent,
            rfl⟩, ?_, ?_⟩, hran⟩
          · simp [transition, hready.running]
          · constructor <;> simp only [transition] <;> omega
      · refine OpEffect.quiet ?_ ?_ ?_ <;> simp only [setFocus, if_pos, bne_iff_ne, ne_eq, hstate,
          not_false_eq_true]
        · rfl
        · exact hm
  | false =>
      by_cases hcond : (!m.standaloneFocus || m.state != .Focusing) = true
      · refine OpEffect.quiet ?_ ?_ ?_ <;>
          simp only [setFocus, Bool.false_eq_true, if_false, if_pos hcond]
        · rfl
        · exact hm
      · obtain ⟨f, rfl⟩ := hm.eq_halfPress hcond
        have hready : Ready m := RepHalfPress.ready hm.phase
        rw [setFocus, if_neg (by simp), if_neg hcond]
        rcases hs : m.send io .CancelAutofocus 0 [] with ⟨_ | id, m', io'⟩ <;> simp only
        · obtain ⟨rfl, hran⟩ := send_rejected hs
          refine ⟨_, _, .focusRelease false, rep_rest { hready with } ?_, hran⟩
          show 0 < m.nextCommandId + 1
          omega
        · obtain ⟨rfl, rfl, hran⟩ := send_accepted hs
          refine ⟨_, _, .focusRelease true, rep_rest { hready with } ?_, hran⟩
          show 0 < m.nextCommandId + 1
          omega

/-- The press itself, from a machine that is ready and tracks no command but an autofocus. -/
lemma physicalPress_effect (focus : ℤ) (hc : config.Timing) (hio : io.Legal) (hready : Ready m)
    (hids : TrackedIds m) (hf : m.focusCommandId = focus)
    (hsent : m.focusSent = true ↔ focus ≠ 0) (hr : m.releaseCommandId = 0) :
    ∃ seg p', CaptureEffect config m.nextCommandId focus true seg p' ∧
      Rep config (m.physicalPress config io).machine p' ∧
      Ran io (m.physicalPress config io).io seg :=
  beginCapture_effect (m := { m with lastRequestId := bytes "physical", lastError := [] })
    hc hio { hready with } { hids with } hf hsent hr true

lemma physicalPress_ok :
    (m.physicalPress config io).ok = ((m.physicalPress config io).machine.state != .Error) := rfl

/-- A press during a countdown or a scheduled autofocus. -/
lemma physicalShutter_scheduled (hc : config.Timing) (hio : io.Legal) (hm : Rep config m p)
    (hsched : p.scheduled = true) :
    OpEffect config m io p (.PhysicalShutter true) (m.physicalShutter config io true) := by
  have hready : Ready m := by
    refine hm.ready ?_
    rintro s rfl
    cases hsched
  have hrefuse : ¬ (!m.running || !m.cameraReady) = true := by
    simp [hready.running, hready.cameraReady]
  have hpending : (m.state == .Countdown || (m.state == .Focusing && !m.standaloneFocus)) = true := by
    cases p with
    | Countdown plan => simp [RepCountdown.state hm.phase]
    | Focusing plan f => simp [RepFocusing.state hm.phase, RepFocusing.standaloneFocus hm.phase]
    | Idle _ | HalfPress _ | Capturing _ _ _ _ _ | Cooldown _ _ _ _ => cases hsched
  obtain ⟨seg, hcancel, hran, hrun, hcamera, hwifi, hn⟩ :=
    cancelFocus_effect io hm fun s => hm.focusSent_idle
  have hn' : 0 < (m.cancelFocus io).1.clearSchedule.nextCommandId :=
    lt_of_lt_of_le hm.ids.next_pos hn
  have hclear := scheduleClear_clearSchedule (m.cancelFocus io).1
  obtain ⟨seg', p', heff, hrep, hran'⟩ := physicalPress_effect (m := (m.cancelFocus io).1.clearSchedule)
    0 hc (hio.of_ran hran)
    ⟨hrun.trans hready.running, hcamera.trans hready.cameraReady, hwifi.trans hready.wifiReady⟩
    (trackedIds_of_clear hclear hn') hclear.focusCommandId (by simp [hclear.focusSent])
    hclear.releaseCommandId
  rw [physicalShutter, if_neg (by simp), if_neg hrefuse, if_pos hpending]
  refine ⟨seg ++ seg', p', ?_, hrep, hran.trans hran'⟩
  rw [physicalPress_ok, hrep.state]
  exact .pressScheduled hsched hcancel heff

/-- A press with nothing scheduled but, perhaps, a half-press. -/
lemma physicalShutter_pressed (hc : config.Timing) (hio : io.Legal) (hm : Rep config m p)
    (hsched : p.scheduled = false) :
    OpEffect config m io p (.PhysicalShutter true) (m.physicalShutter config io true) := by
  have hpending : ¬ (m.state == .Countdown || (m.state == .Focusing && !m.standaloneFocus)) = true := by
    cases p with
    | Idle s =>
        have hrest := RepIdle.resting hm.phase
        cases s <;> simp_all [hm.state_idle, RemoteState.resting]
    | Countdown _ | Focusing _ _ => cases hsched
    | HalfPress f => simp [RepHalfPress.state hm.phase, RepHalfPress.standaloneFocus hm.phase]
    | Capturing c f ph r cd => simp [RepCapturing.state hm.phase]
    | Cooldown c f r cd => simp [RepCooldown.state hm.phase]
  by_cases hpress : p.pressable = true
  · have hready : Ready m := by
      cases p with
      | Idle s =>
          obtain rfl : s = .Armed := by simpa [Phase.pressable] using hpress
          exact RepIdle.ready hm.phase rfl
      | _ => exact hm.ready (by simp)
    have hrefuse : ¬ (!m.running || !m.cameraReady) = true := by
      simp [hready.running, hready.cameraReady]
    have hfree : ¬ (m.state != .Armed && !(m.state == .Focusing && m.standaloneFocus)) = true := by
      cases p with
      | Idle s =>
          have harmed : s = .Armed := by simpa [Phase.pressable] using hpress
          simp [hm.state_idle, harmed]
      | HalfPress f => simp [RepHalfPress.state hm.phase, RepHalfPress.standaloneFocus hm.phase]
      | Countdown _ | Focusing _ _ => cases hsched
      | Capturing _ _ _ _ _ | Cooldown _ _ _ _ => cases hpress
    have hfocus : m.focusCommandId = p.focusId ∧ (m.focusSent = true ↔ p.focusId ≠ 0) ∧
        m.releaseCommandId = 0 := by
      cases p with
      | Idle s =>
          have hclear : ScheduleClear m := RepIdle.clear hm.phase
          exact ⟨hclear.focusCommandId, by simp [hclear.focusSent, Phase.focusId],
            hclear.releaseCommandId⟩
      | HalfPress f =>
          have hp : RepHalfPress m f := hm.phase
          exact ⟨hp.focusCommandId, by simp [hp.focusSent, Phase.focusId, hp.focus_ne],
            hp.releaseCommandId⟩
      | Countdown _ | Focusing _ _ => cases hsched
      | Capturing _ _ _ _ _ | Cooldown _ _ _ _ => cases hpress
    obtain ⟨hf, hsent, hr⟩ := hfocus
    obtain ⟨seg, p', heff, hrep, hran⟩ := physicalPress_effect _ hc hio hready hm.ids hf hsent hr
    rw [physicalShutter, if_neg (by simp), if_neg hrefuse, if_neg hpending, if_neg hfree]
    refine ⟨seg, p', ?_, hrep, hran⟩
    rw [physicalPress_ok, hrep.state]
    exact .press hpress hsched heff
  · have hq : ∀ ok, ok = false → Quiet p (.PhysicalShutter true) ok :=
      fun ok hok _ => ⟨hok, by simpa using hpress⟩
    have hbusy : (m.state != .Armed && !(m.state == .Focusing && m.standaloneFocus)) = true := by
      cases p with
      | Idle s =>
          have hrest := RepIdle.resting hm.phase
          cases s <;> simp_all [Phase.pressable, hm.state_idle, RemoteState.resting]
      | Countdown _ | Focusing _ _ => cases hsched
      | HalfPress f => exact absurd rfl hpress
      | Capturing c f ph r cd => simp [RepCapturing.state hm.phase]
      | Cooldown c f r cd => simp [RepCooldown.state hm.phase]
    by_cases hrefuse : (!m.running || !m.cameraReady) = true
    · refine OpEffect.quiet (hq _ ?_) ?_ ?_ <;>
        simp only [physicalShutter, Bool.not_true, Bool.false_eq_true, if_false, if_pos hrefuse]
      exact hm
    · refine OpEffect.quiet (hq _ ?_) ?_ ?_ <;>
        simp only [physicalShutter, Bool.not_true, Bool.false_eq_true, if_false, if_neg hrefuse,
          if_neg hpending, if_pos hbusy]
      exact hm

/-- The release of the button: the shutter is due for release at once. -/
lemma physicalShutter_released (hc : config.Timing) (hio : io.Legal) (hm : Rep config m p) :
    OpEffect config m io p (.PhysicalShutter false) (m.physicalShutter config io false) := by
  by_cases hcond : (m.state == .Capturing && m.physicalCapture && m.releaseDeadlineMs > 0) = true
  · simp only [Bool.and_eq_true, beq_iff_eq, decide_eq_true_eq] at hcond
    obtain ⟨⟨hstate, hphysical⟩, hpos⟩ := hcond
    cases p with
    | Capturing c f ph r cd =>
        have hp : RepCapturing m c f ph r cd := hm.phase
        obtain rfl : ph = true := hp.physicalCapture.symm.trans hphysical
        have hio' := hio.of_ran (Ran.nowMs io)
        have hm' : Rep config { m with releaseDeadlineMs := io.nowMs.1 }
            (.Capturing c f true io.nowMs.1 cd) :=
          ⟨{ hp with
              ready := { hp.ready with }, releaseDeadlineMs := rfl, release_pos := hio.nowMs_pos },
            hm.stopped, { hm.ids with }⟩
        obtain ⟨seg, p', heff, hrep, hran⟩ := tickFocus_effect hc
          (hio'.of_ran (Ran.nowMs io.nowMs.2)) hio'.notBefore hio'.nowMs_pos.le hm'
        rw [physicalShutter, if_pos (by simp), if_pos (by simp [hstate, hphysical, hpos])]
        simp only
        rw [tick_running (m := { m with releaseDeadlineMs := io.nowMs.1 }) hp.ready.running]
        exact ⟨_, p', .unpress hio.nowMs_le heff, hrep,
          ((Ran.nowMs io).trans (Ran.nowMs io.nowMs.2)).trans hran⟩
    | Idle s =>
        have hclear : ScheduleClear m := RepIdle.clear hm.phase
        rw [hclear.physicalCapture] at hphysical
        cases hphysical
    | Countdown plan => exact absurd (hstate.symm.trans (RepCountdown.state hm.phase)) (by simp)
    | Focusing plan f => exact absurd (hstate.symm.trans (RepFocusing.state hm.phase)) (by simp)
    | HalfPress f => exact absurd (hstate.symm.trans (RepHalfPress.state hm.phase)) (by simp)
    | Cooldown c f r cd => exact absurd (hstate.symm.trans (RepCooldown.state hm.phase)) (by simp)
  · refine OpEffect.quiet (by intro h; cases h) ?_ ?_ <;>
      simp only [physicalShutter, Bool.not_false, if_true, if_neg hcond]
    exact hm

lemma physicalShutter_effect (hc : config.Timing) (hio : io.Legal) (hm : Rep config m p)
    (pressed : Bool) :
    OpEffect config m io p (.PhysicalShutter pressed) (m.physicalShutter config io pressed) := by
  cases pressed with
  | false => exact physicalShutter_released hc hio hm
  | true =>
      cases hsched : p.scheduled with
      | true => exact physicalShutter_scheduled hc hio hm hsched
      | false => exact physicalShutter_pressed hc hio hm hsched

/-! ## Results -/

/-- A result changes the phase when it is a failure of the command the phase waits for; `0` is the
id of no command. -/
lemma reportCommandResult_effect (hm : Rep config m p) {commandId resultCode : ℤ}
    (hop : resultCode ≠ 0 → commandId ≠ 0) (message : Bytes) :
    OpEffect config m io p (.ReportCommandResult commandId resultCode message)
      { ok := true, machine := m.reportCommandResult commandId resultCode message, io } := by
  by_cases hzero : resultCode = 0
  · refine OpEffect.quiet (Or.inl hzero) ?_ rfl
    simpa [reportCommandResult, hzero] using hm
  have hid := hop hzero
  have hcode : (resultCode != 0) = true := by simpa using hzero
  -- a failing release only leaves its text
  have keep : ¬ p.failsOn commandId → ¬ commandId = m.captureCommandId →
      (commandId = m.focusCommandId → m.standaloneFocus = true ∨ m.captureSent = true) →
      OpEffect config m io p (.ReportCommandResult commandId resultCode message)
        { ok := true, machine := m.reportCommandResult commandId resultCode message, io } := by
    intro hfails hcap hfoc
    refine OpEffect.quiet (Or.inr hfails) ?_ rfl
    have hnot : ¬ (commandId == m.focusCommandId && resultCode != 0 && !m.standaloneFocus
        && !m.captureSent) = true := by
      intro h
      simp only [Bool.and_eq_true, beq_iff_eq, Bool.not_eq_true'] at h
      obtain ⟨⟨⟨hf, -⟩, hstand⟩, hsent⟩ := h
      rcases hfoc hf with h | h
      · rw [hstand] at h
        cases h
      · rw [hsent] at h
        cases h
    have hcap' : ¬ (commandId == m.captureCommandId && resultCode != 0) = true := by
      simp [hcap]
    simp only [reportCommandResult, if_neg hcap', if_neg hnot]
    by_cases hrelease : (commandId == m.releaseCommandId && resultCode != 0) = true
    · rw [if_pos hrelease]
      exact hm.withTexts m.clientCount m.lastRequestId _
    · rw [if_neg hrelease]
      exact hm
  have failed : commandId = m.captureCommandId → m.running = true →
      Rep config (m.reportCommandResult commandId resultCode message) (.Idle .Error) := by
    intro hcap hrun
    rw [reportCommandResult, if_pos (by simp [hcap, hcode])]
    exact rep_fail hrun hm.ids.next_pos _
  cases p with
  | Idle s =>
      have hclear : ScheduleClear m := RepIdle.clear hm.phase
      refine keep (by simp [Phase.failsOn]) (by rw [hclear.captureCommandId]; exact hid) ?_
      rw [hclear.focusCommandId]
      exact fun h => absurd h hid
  | Countdown plan =>
      have hp : RepCountdown config m plan := hm.phase
      refine keep (by simp [Phase.failsOn]) (by rw [hp.captureCommandId]; exact hid) ?_
      rw [hp.focusCommandId]
      exact fun h => absurd h hid
  | Focusing plan f =>
      have hp : RepFocusing config m plan f := hm.phase
      have hcap : ¬ commandId = m.captureCommandId := by
        rw [hp.captureCommandId]
        exact hid
      by_cases hf : commandId = f
      · subst hf
        refine ⟨[], _, .focusFailed hzero, ?_, Ran.refl io⟩
        have hfoc : (commandId == m.focusCommandId && resultCode != 0 && !m.standaloneFocus
            && !m.captureSent) = true := by
          simp [hp.focusCommandId, hcode, hp.standaloneFocus, hp.captureSent]
        have hdone : ∀ error : Bytes, Rep config
            (({ m with lastError := error } : RemoteStateMachine).clearSchedule.transition .Armed)
            (.Idle .Armed) := by
          intro error
          refine rep_idle rfl rfl { scheduleClear_clearSchedule m with } (fun _ => ?_) ?_
            hm.ids.next_pos
          · exact { hp.ready with }
          · simp [transition, clearSchedule, hp.ready.running]
        simp only [reportCommandResult, if_pos hfoc]
        rw [if_neg (by simp [hcap]), if_neg (by simp [transition, clearSchedule, hid])]
        exact hdone _
      · refine keep hf hcap ?_
        rw [hp.focusCommandId]
        exact fun h => absurd h hf
  | HalfPress f =>
      have hp : RepHalfPress m f := hm.phase
      exact keep (by simp [Phase.failsOn]) (by rw [hp.captureCommandId]; exact hid)
        (fun _ => Or.inl hp.standaloneFocus)
  | Capturing c f ph r cd =>
      have hp : RepCapturing m c f ph r cd := hm.phase
      by_cases hcap : commandId = c
      · subst hcap
        exact ⟨[], _, .captureFailed hzero, failed hp.captureCommandId.symm hp.ready.running,
          Ran.refl io⟩
      · exact keep hcap (by rw [hp.captureCommandId]; exact hcap) (fun _ => Or.inr hp.captureSent)
  | Cooldown c f r cd =>
      have hp : RepCooldown m c f r cd := hm.phase
      by_cases hcap : commandId = c
      · subst hcap
        exact ⟨[], _, .captureFailedLate hzero, failed hp.captureCommandId.symm hp.ready.running,
          Ran.refl io⟩
      · exact keep hcap (by rw [hp.captureCommandId]; exact hcap) (fun _ => Or.inr hp.captureSent)

/-! ## A whole call -/

/-- What the environment promises about an operation: a failure is reported for a command, and every
command has an id other than `0`. -/
def Op.legal : Op → Prop
  | .ReportCommandResult commandId resultCode _ => resultCode ≠ 0 → commandId ≠ 0
  | _ => True

lemma perform_effect (io : Io) (hc : config.Timing) (hio : io.Legal) (hm : Rep config m p) (op : Op)
    (hop : op.legal) : OpEffect config m io p op (m.perform config io op) := by
  cases op with
  | Start => exact start_effect hm
  | Stop => exact stop_effect hm
  | SetCameraReady ready => exact setCameraReady_effect hm ready
  | SetWifiReady ready => exact setWifiReady_effect hm ready
  | RequestCapture requestId delayMs autofocus =>
      exact requestCapture_effect hc hio hm requestId delayMs autofocus
  | CancelCountdown => exact cancelCountdown_effect hm
  | SetFocus pressed => exact setFocus_effect hm pressed
  | PhysicalShutter pressed => exact physicalShutter_effect hc hio hm pressed
  | Tick => exact tick_effect hc hio hm
  | ReportCommandResult commandId resultCode message =>
      exact reportCommandResult_effect hm hop message
  | SetClientCount count =>
      exact OpEffect.quiet trivial (hm.withTexts _ m.lastRequestId m.lastError) rfl

/-- **A call refines its phase.**  It leaves the operation, the events of an effect, and the return
in the trace, and ends in a machine that represents the phase the effect leads to. -/
theorem step_effect (io : Io) (hc : config.Timing) (hio : io.Legal) (hm : Rep config m p) (op : Op)
    (hop : op.legal) :
    ∃ seg p', Effect config m.nextCommandId p op seg (m.step config io op).ok p' ∧
      Rep config (m.step config io op).machine p' ∧
      (m.step config io op).io.trace = io.trace ++ .Call op m :: seg ++
        [.Returned op (m.step config io op).ok (m.step config io op).machine] ∧
      (∀ now, .Clock now ∈ seg → ∃ i, now = io.clock i) ∧
      ∀ command accepted, .Sent command accepted ∈ seg → ∃ i, accepted = io.answers i := by
  obtain ⟨seg, p', heff, hrep, hran⟩ := perform_effect { io with trace := io.trace ++ [.Call op m] }
    hc ⟨hio.mono, hio.pos⟩ hm op hop
  refine ⟨seg, p', heff, hrep, ?_, fun now hnow => ?_, hran.answered⟩
  · simp only [step, hran.trace]
    simp
  · obtain ⟨i, -, hi⟩ := hran.readings now hnow
    exact ⟨i, hi⟩

/-- The machine as the constructor leaves it. -/
lemma rep_init : Rep config {} (.Idle .Stopped) :=
  rep_idle rfl rfl ⟨rfl, rfl, rfl, rfl, rfl, rfl, rfl, rfl, rfl, rfl, rfl, rfl⟩ (by simp) (by simp)
    (by decide)

end LegacyAlpha
