import LegacyAlphaRemote.Machine.Phase

/-!
# The machine refines its phases

`Rep config m p` says that the fields of `m` hold the phase `p`: which flags are set, which command
ids and deadlines are stored, and that everything else is clear.  `step_effect` is the refinement:
a call on a machine that represents a phase does one of the `Effect`s of that phase, leaves exactly
the events of that effect in the trace, and ends in a machine that represents the phase it leads to.

One lemma per function of the source, callers after callees; no later file unfolds an operation.
-/

namespace LegacyAlpha

open RemoteStateMachine

/-! ## Representation -/

/-- The whole schedule is clear: three command ids and four deadlines zero, five flags false. -/
structure ScheduleClear (m : RemoteStateMachine) : Prop where
  focusCommandId : m.focusCommandId = 0
  captureCommandId : m.captureCommandId = 0
  releaseCommandId : m.releaseCommandId = 0
  focusDeadlineMs : m.focusDeadlineMs = 0
  captureDeadlineMs : m.captureDeadlineMs = 0
  releaseDeadlineMs : m.releaseDeadlineMs = 0
  cooldownDeadlineMs : m.cooldownDeadlineMs = 0
  autofocusRequested : m.autofocusRequested = false
  focusSent : m.focusSent = false
  captureSent : m.captureSent = false
  physicalCapture : m.physicalCapture = false
  standaloneFocus : m.standaloneFocus = false

/-- Running, with the camera and the Wi-Fi ready: the machine of every phase in which something is
scheduled. -/
structure Ready (m : RemoteStateMachine) : Prop where
  running : m.running = true
  cameraReady : m.cameraReady = true
  wifiReady : m.wifiReady = true

/-- The tracked command ids are ids already given out, and differ from each other. -/
structure TrackedIds (m : RemoteStateMachine) : Prop where
  next_pos : 0 < m.nextCommandId
  focus_lt : m.focusCommandId < m.nextCommandId
  capture_lt : m.captureCommandId < m.nextCommandId
  release_lt : m.releaseCommandId < m.nextCommandId
  focus_capture : m.focusCommandId ≠ 0 → m.focusCommandId ≠ m.captureCommandId
  focus_release : m.focusCommandId ≠ 0 → m.focusCommandId ≠ m.releaseCommandId
  capture_release : m.captureCommandId ≠ 0 → m.captureCommandId ≠ m.releaseCommandId

/-- The states in which nothing is scheduled, so that the machine only waits to be asked or to get
ready. -/
def RemoteState.resting : RemoteState → Bool
  | .Stopped | .Starting | .Armed | .Error => true
  | _ => false

structure RepIdle (m : RemoteStateMachine) (s : RemoteState) : Prop where
  state : m.state = s
  resting : s.resting = true
  clear : ScheduleClear m
  ready : s = .Armed → Ready m

/-- A request is stored and nothing has been sent for it: its deadlines are those of the plan, and
there are no ids yet. -/
structure RepWaiting (config : NativeConfig) (m : RemoteStateMachine) (plan : Plan) : Prop where
  delay_nonneg : 0 ≤ plan.delayMs
  ready : Ready m
  focusCommandId : m.focusCommandId = 0
  captureCommandId : m.captureCommandId = 0
  releaseCommandId : m.releaseCommandId = 0
  focusDeadlineMs : plan.autofocus = true → m.focusDeadlineMs = plan.focusAt config
  captureDeadlineMs : m.captureDeadlineMs = plan.captureAt config
  autofocusRequested : m.autofocusRequested = plan.autofocus
  focusSent : m.focusSent = false
  captureSent : m.captureSent = false
  standaloneFocus : m.standaloneFocus = false

structure RepCountdown (config : NativeConfig) (m : RemoteStateMachine) (plan : Plan) : Prop
    extends RepWaiting config m plan where
  state : m.state = .Countdown

structure RepFocusing (config : NativeConfig) (m : RemoteStateMachine) (plan : Plan) (focus : ℤ) :
    Prop where
  state : m.state = .Focusing
  ready : Ready m
  focusCommandId : m.focusCommandId = focus
  focus_ne : focus ≠ 0
  captureCommandId : m.captureCommandId = 0
  releaseCommandId : m.releaseCommandId = 0
  captureDeadlineMs : m.captureDeadlineMs = plan.captureAt config
  autofocus : plan.autofocus = true
  autofocusRequested : m.autofocusRequested = true
  focusSent : m.focusSent = true
  captureSent : m.captureSent = false
  standaloneFocus : m.standaloneFocus = false

structure RepHalfPress (m : RemoteStateMachine) (focus : ℤ) : Prop where
  state : m.state = .Focusing
  ready : Ready m
  focusCommandId : m.focusCommandId = focus
  focus_ne : focus ≠ 0
  captureCommandId : m.captureCommandId = 0
  releaseCommandId : m.releaseCommandId = 0
  captureDeadlineMs : m.captureDeadlineMs = 0
  autofocusRequested : m.autofocusRequested = false
  focusSent : m.focusSent = true
  captureSent : m.captureSent = false
  standaloneFocus : m.standaloneFocus = true

structure RepCapturing (m : RemoteStateMachine) (capture focus : ℤ) (physical : Bool)
    (releaseAt cooldownAt : ℤ) : Prop where
  state : m.state = .Capturing
  ready : Ready m
  focusCommandId : m.focusCommandId = focus
  focusSent : m.focusSent = true ↔ focus ≠ 0
  captureCommandId : m.captureCommandId = capture
  capture_ne : capture ≠ 0
  releaseCommandId : m.releaseCommandId = 0
  releaseDeadlineMs : m.releaseDeadlineMs = releaseAt
  release_pos : 0 < releaseAt
  cooldownDeadlineMs : m.cooldownDeadlineMs = cooldownAt
  captureSent : m.captureSent = true
  physicalCapture : m.physicalCapture = physical
  standaloneFocus : m.standaloneFocus = false

structure RepCooldown (m : RemoteStateMachine) (capture focus release cooldownAt : ℤ) : Prop where
  state : m.state = .Cooldown
  ready : Ready m
  focusCommandId : m.focusCommandId = focus
  focusSent : m.focusSent = true ↔ focus ≠ 0
  captureCommandId : m.captureCommandId = capture
  capture_ne : capture ≠ 0
  releaseCommandId : m.releaseCommandId = release
  release_ne : release ≠ 0
  releaseDeadlineMs : m.releaseDeadlineMs = 0
  cooldownDeadlineMs : m.cooldownDeadlineMs = cooldownAt
  captureSent : m.captureSent = true
  standaloneFocus : m.standaloneFocus = false

/-- The fields that belong to the phase, one description for each phase. -/
def RepPhase (config : NativeConfig) (m : RemoteStateMachine) : Phase → Prop
  | .Idle s => RepIdle m s
  | .Countdown plan => RepCountdown config m plan
  | .Focusing plan focus => RepFocusing config m plan focus
  | .HalfPress focus => RepHalfPress m focus
  | .Capturing capture focus physical releaseAt cooldownAt =>
      RepCapturing m capture focus physical releaseAt cooldownAt
  | .Cooldown capture focus release cooldownAt => RepCooldown m capture focus release cooldownAt

/-- The machine represents the phase: its fields are those of the phase, it is stopped exactly when it
does not run, and its ids have been given out. -/
structure Rep (config : NativeConfig) (m : RemoteStateMachine) (p : Phase) : Prop where
  phase : RepPhase config m p
  stopped : m.state = .Stopped ↔ m.running = false
  ids : TrackedIds m

lemma Rep.state {config : NativeConfig} {m : RemoteStateMachine} {p : Phase}
    (hm : Rep config m p) : m.state = p.state := by
  cases p with
  | Idle s => exact RepIdle.state hm.phase
  | Countdown plan => exact RepCountdown.state hm.phase
  | Focusing plan f => exact RepFocusing.state hm.phase
  | HalfPress f => exact RepHalfPress.state hm.phase
  | Capturing c f ph r cd => exact RepCapturing.state hm.phase
  | Cooldown c f r cd => exact RepCooldown.state hm.phase

/-! ## Runs of the functions

`Ran io io' seg` says what a function did to its clock and sink: it appended `seg` to the trace,
moved on in the two oracles, and whatever `seg` says about the clock was read there.
-/

structure Ran (io io' : Io) (seg : List Event) : Prop where
  clock : io'.clock = io.clock
  answers : io'.answers = io.answers
  trace : io'.trace = io.trace ++ seg
  reads_le : io.reads ≤ io'.reads
  readings : ∀ now, .Clock now ∈ seg → ∃ i, io.reads ≤ i ∧ now = io.clock i
  answered : ∀ command accepted, .Sent command accepted ∈ seg → ∃ i, accepted = io.answers i

lemma Ran.refl (io : Io) : Ran io io [] := ⟨rfl, rfl, by simp, le_rfl, by simp, by simp⟩

lemma Ran.trans {io io' io'' : Io} {seg seg' : List Event} (h : Ran io io' seg)
    (h' : Ran io' io'' seg') : Ran io io'' (seg ++ seg') where
  clock := h'.clock.trans h.clock
  answers := h'.answers.trans h.answers
  trace := by rw [h'.trace, h.trace, List.append_assoc]
  reads_le := h.reads_le.trans h'.reads_le
  readings := by
    intro now hnow
    rcases List.mem_append.mp hnow with hnow | hnow
    · exact h.readings now hnow
    · obtain ⟨i, hi, rfl⟩ := h'.readings now hnow
      exact ⟨i, h.reads_le.trans hi, by rw [h.clock]⟩
  answered := by
    intro command accepted hsent
    rcases List.mem_append.mp hsent with hsent | hsent
    · exact h.answered command accepted hsent
    · obtain ⟨i, rfl⟩ := h'.answered command accepted hsent
      exact ⟨i, by rw [h.answers]⟩

lemma Ran.nowMs (io : Io) : Ran io io.nowMs.2 [.Clock io.nowMs.1] where
  clock := rfl
  answers := rfl
  trace := rfl
  reads_le := Nat.le_succ _
  readings := by
    intro now hnow
    obtain rfl : now = io.nowMs.1 := by simpa using hnow
    exact ⟨io.reads, le_rfl, rfl⟩
  answered := by simp

/-- The clock of a call: its readings are positive and never go back. -/
structure Io.Legal (io : Io) : Prop where
  mono : Monotone io.clock
  pos : 0 < io.clock 0

lemma Io.Legal.of_ran {io io' : Io} {seg : List Event} (h : io.Legal) (hr : Ran io io' seg) :
    io'.Legal := ⟨hr.clock ▸ h.mono, hr.clock ▸ h.pos⟩

/-- No reading still to come is before `now`, whatever has been read already. -/
def Io.NotBefore (io : Io) (now : ℤ) : Prop := ∀ i, io.reads ≤ i → now ≤ io.clock i

lemma Io.NotBefore.of_ran {io io' : Io} {seg : List Event} {now : ℤ} (h : io.NotBefore now)
    (hr : Ran io io' seg) : io'.NotBefore now := by
  intro i hi
  rw [hr.clock]
  exact h i (hr.reads_le.trans hi)

lemma Io.NotBefore.le_of_mem {io io' : Io} {seg : List Event} {now t : ℤ} (h : io.NotBefore now)
    (hr : Ran io io' seg) (ht : .Clock t ∈ seg) : now ≤ t := by
  obtain ⟨i, hi, rfl⟩ := hr.readings t ht
  exact h i hi

lemma Io.Legal.notBefore {io : Io} (h : io.Legal) : io.nowMs.2.NotBefore io.nowMs.1 :=
  fun _ hi => h.mono (Nat.le_of_succ_le hi)

lemma Io.Legal.nowMs_pos {io : Io} (h : io.Legal) : 0 < io.nowMs.1 :=
  lt_of_lt_of_le h.pos (h.mono (Nat.zero_le _))

/-- The next reading is not before the last one. -/
lemma Io.Legal.nowMs_le {io : Io} (h : io.Legal) : io.nowMs.1 ≤ io.nowMs.2.nowMs.1 :=
  h.mono (Nat.le_succ _)

/-- An accepted command: the id is given out and nothing else happens. -/
lemma send_accepted {m m' : RemoteStateMachine} {io io' : Io} {type : CommandType} {id : ℤ}
    (h : m.send io type 0 [] = (some id, m', io')) :
    id = m.nextCommandId ∧ m' = { m with nextCommandId := m.nextCommandId + 1 } ∧
      Ran io io' [.command m.nextCommandId type true] := by
  by_cases ha : io.answers io.sends = true
  · simp only [RemoteStateMachine.send, Io.dispatch, ha, if_true, Prod.mk.injEq,
      Option.some.injEq] at h
    obtain ⟨rfl, rfl, rfl⟩ := h
    exact ⟨rfl, rfl, rfl, rfl, by simp [Event.command], le_rfl, by simp [Event.command],
      by simp [Event.command, ← ha]⟩
  · simp [RemoteStateMachine.send, Io.dispatch, ha] at h

/-- A rejected command: the id is given out and the machine fails. -/
lemma send_rejected {m m' : RemoteStateMachine} {io io' : Io} {type : CommandType}
    (h : m.send io type 0 [] = (none, m', io')) :
    m' = { m with nextCommandId := m.nextCommandId + 1 }.fail
        (bytes "native command queue full") ∧
      Ran io io' [.command m.nextCommandId type false] := by
  by_cases ha : io.answers io.sends = true
  · simp [RemoteStateMachine.send, Io.dispatch, ha] at h
  · rw [Bool.not_eq_true] at ha
    simp only [RemoteStateMachine.send, Io.dispatch, ha, Bool.false_eq_true, if_false,
      Prod.mk.injEq, true_and] at h
    obtain ⟨rfl, rfl⟩ := h
    exact ⟨rfl, rfl, rfl, by simp [Event.command], le_rfl, by simp [Event.command],
      by simp [Event.command, ← ha]⟩

/-! ## Back to an idle state -/

lemma scheduleClear_clearSchedule (m : RemoteStateMachine) : ScheduleClear m.clearSchedule :=
  ⟨rfl, rfl, rfl, rfl, rfl, rfl, rfl, rfl, rfl, rfl, rfl, rfl⟩

lemma trackedIds_of_clear {m : RemoteStateMachine} (hm : ScheduleClear m)
    (hn : 0 < m.nextCommandId) : TrackedIds m where
  next_pos := hn
  focus_lt := by rw [hm.focusCommandId]; exact hn
  capture_lt := by rw [hm.captureCommandId]; exact hn
  release_lt := by rw [hm.releaseCommandId]; exact hn
  focus_capture := fun h => absurd hm.focusCommandId h
  focus_release := fun h => absurd hm.focusCommandId h
  capture_release := fun h => absurd hm.captureCommandId h

variable {config : NativeConfig} {m : RemoteStateMachine} {io : Io} {p : Phase}

lemma rep_fail (hrun : m.running = true) (hn : 0 < m.nextCommandId) (error : Bytes) :
    Rep config (m.fail error) (.Idle .Error) where
  phase := ⟨rfl, rfl, ⟨rfl, rfl, rfl, rfl, rfl, rfl, rfl, rfl, rfl, rfl, rfl, rfl⟩,
    fun h => by cases h⟩
  stopped := by simp [fail, clearSchedule, transition, hrun]
  ids := trackedIds_of_clear ⟨rfl, rfl, rfl, rfl, rfl, rfl, rfl, rfl, rfl, rfl, rfl, rfl⟩ hn

lemma rep_rest (hready : Ready m) (hn : 0 < m.nextCommandId) :
    Rep config (m.clearSchedule.transition m.clearSchedule.restState) (.Idle .Armed) where
  phase := ⟨by simp [transition, restState, clearSchedule, hready.cameraReady, hready.wifiReady],
    rfl, ⟨rfl, rfl, rfl, rfl, rfl, rfl, rfl, rfl, rfl, rfl, rfl, rfl⟩,
    fun _ => ⟨hready.running, hready.cameraReady, hready.wifiReady⟩⟩
  stopped := by
    simp [transition, restState, clearSchedule, hready.cameraReady, hready.wifiReady,
      hready.running]
  ids := trackedIds_of_clear ⟨rfl, rfl, rfl, rfl, rfl, rfl, rfl, rfl, rfl, rfl, rfl, rfl⟩ hn

/-! ## The capture -/

/-- `beginCapture` from any machine that runs, is ready, and tracks no command but an autofocus. -/
lemma beginCapture_effect {focus : ℤ} (hc : config.Timing) (hio : io.Legal) (hready : Ready m)
    (hids : TrackedIds m) (hf : m.focusCommandId = focus)
    (hsent : m.focusSent = true ↔ focus ≠ 0) (hr : m.releaseCommandId = 0) (physical : Bool) :
    ∃ seg p', CaptureEffect config m.nextCommandId focus physical seg p' ∧
      Rep config (beginCapture config m io physical).1 p' ∧
      Ran io (beginCapture config m io physical).2 seg := by
  have hn := hids.next_pos
  rcases hs : ({ m with physicalCapture := physical, captureSent := true, standaloneFocus := false } :
    RemoteStateMachine).send io .Capture 0 [] with ⟨_ | id, m', io'⟩
  · obtain ⟨rfl, hran⟩ := send_rejected hs
    refine ⟨_, _, .rejected, ?_, ?_⟩
    · simp only [beginCapture, hs]
      refine rep_fail ?_ ?_ _
      · exact hready.running
      · show 0 < m.nextCommandId + 1
        omega
    · simpa only [beginCapture, hs] using hran
  · obtain ⟨rfl, rfl, hran⟩ := send_accepted hs
    refine ⟨_, _, .accepted io'.nowMs.1, ?_, ?_⟩
    · simp only [beginCapture, hs]
      have hpos := (hio.of_ran hran).nowMs_pos
      have hhold : 0 < (if physical = true then config.physicalShutterFailsafeMs
          else config.webShutterHoldMs) := by
        split_ifs
        · exact hc.failsafe
        · exact hc.webHold
      refine ⟨⟨rfl, ⟨hready.running, hready.cameraReady, hready.wifiReady⟩, hf, hsent, rfl, ?_, hr,
        rfl, by omega, rfl, rfl, rfl, rfl⟩, ?_, ?_⟩
      · simp only [ne_eq]; omega
      · simp [transition, hready.running]
      · have hlt := hids.focus_lt
        refine ⟨?_, ?_, ?_, ?_, ?_, ?_, ?_⟩ <;> simp only [transition] <;> omega
    · simp only [beginCapture, hs]
      exact hran.trans (Ran.nowMs io')

/-! ## The stages of a tick -/

/-- What a stage of `tick` at time `now` does to a machine that represents `p`. -/
def StageEffect (config : NativeConfig) (now : ℤ) (m : RemoteStateMachine) (io : Io) (p : Phase)
    (after : RemoteStateMachine × Io) : Prop :=
  ∃ seg p', TickEffect config m.nextCommandId now p seg p' ∧ Rep config after.1 p' ∧
    Ran io after.2 seg

lemma tickCooldown_of_ne {now : ℤ} (h : m.state ≠ .Cooldown) :
    tickCooldown now m io = (m, io) := by
  simp [tickCooldown, h]

lemma tickRelease_of_ne {now : ℤ} (h : m.state ≠ .Capturing) :
    tickRelease now m io = tickCooldown now m io := by
  simp [tickRelease, h]

lemma tickCapture_of_ne {now : ℤ} (h : m.state ≠ .Countdown) (h' : m.state ≠ .Focusing) :
    tickCapture config now m io = tickRelease now m io := by
  simp [tickCapture, h, h']

lemma tickFocus_of_ne {now : ℤ} (h : m.state ≠ .Countdown) (h' : m.state ≠ .Focusing) :
    tickFocus config now m io = tickCapture config now m io := by
  simp [tickFocus, h, h']

/-- After a capture at `now` or later the shutter is not yet due for release. -/
lemma tickRelease_of_capturing {now : ℤ} {c f r cd : ℤ} {ph : Bool}
    (hm : RepCapturing m c f ph r cd) (h : now < r) : tickRelease now m io = (m, io) := by
  have hr : ¬ now ≥ m.releaseDeadlineMs := by rw [hm.releaseDeadlineMs]; omega
  simp [tickRelease, tickCooldown, hm.state, hr]

lemma tickCooldown_effect (io : Io) (now : ℤ) {c f r cd : ℤ} (hm : Rep config m (.Cooldown c f r cd)) :
    (cd ≤ now ∧ Rep config (tickCooldown now m io).1 (.Idle .Armed) ∧
        (tickCooldown now m io).2 = io) ∨ (now < cd ∧ tickCooldown now m io = (m, io)) := by
  have hp : RepCooldown m c f r cd := hm.phase
  by_cases hdue : now ≥ m.cooldownDeadlineMs
  · refine Or.inl ⟨hp.cooldownDeadlineMs ▸ hdue, ?_, ?_⟩
    · simpa [tickCooldown, hp.state, hdue] using rep_rest hp.ready hm.ids.next_pos
    · simp [tickCooldown, hp.state, hdue]
  · have hearly : now < cd := by
      rw [← hp.cooldownDeadlineMs]
      omega
    exact Or.inr ⟨hearly, by simp [tickCooldown, hdue]⟩

lemma tickRelease_effect {now c f r cd : ℤ} {ph : Bool}
    (hm : Rep config m (.Capturing c f ph r cd)) :
    StageEffect config now m io (.Capturing c f ph r cd) (tickRelease now m io) := by
  have hp : RepCapturing m c f ph r cd := hm.phase
  have hn := hm.ids.next_pos
  by_cases hdue : now ≥ m.releaseDeadlineMs
  · have hr : r ≤ now := hp.releaseDeadlineMs ▸ hdue
    have hcond : (m.state == .Capturing && m.captureSent && m.releaseDeadlineMs > 0
        && now ≥ m.releaseDeadlineMs) = true := by
      have hpos : 0 < m.releaseDeadlineMs := by rw [hp.releaseDeadlineMs]; exact hp.release_pos
      simp [hp.state, hp.captureSent, hpos, hdue]
    rw [tickRelease, if_pos hcond]
    rcases hs : ({ m with releaseDeadlineMs := 0 } : RemoteStateMachine).send io .ReleaseShutter 0 []
      with ⟨_ | id, m', io'⟩
    · simp only [hs]
      obtain ⟨rfl, hran⟩ := send_rejected hs
      refine ⟨_, _, .releaseRejected hr, ?_, hran⟩
      refine rep_fail ?_ ?_ _
      · exact hp.ready.running
      · show 0 < m.nextCommandId + 1
        omega
    · simp only [hs]
      obtain ⟨rfl, rfl, hran⟩ := send_accepted hs
      have hafter : Rep config (({ m with
          releaseDeadlineMs := 0
          nextCommandId := m.nextCommandId + 1
          releaseCommandId := m.nextCommandId } : RemoteStateMachine).transition .Cooldown)
          (.Cooldown c f m.nextCommandId cd) := by
        have hf := hm.ids.focus_lt
        have hcap := hm.ids.capture_lt
        have hfc := hm.ids.focus_capture
        refine ⟨⟨rfl, ⟨hp.ready.running, hp.ready.cameraReady, hp.ready.wifiReady⟩,
          hp.focusCommandId, hp.focusSent, hp.captureCommandId, hp.capture_ne, rfl, by omega, rfl,
          hp.cooldownDeadlineMs, hp.captureSent, hp.standaloneFocus⟩, ?_, ?_⟩
        · simp [transition, hp.ready.running]
        · refine ⟨?_, ?_, ?_, ?_, ?_, ?_, ?_⟩ <;> simp only [transition] <;> omega
      rcases tickCooldown_effect io' now hafter with
        ⟨hcd, hrep, hio⟩ | ⟨hcd, h⟩
      · exact ⟨_, _, .releaseFinish hr hcd, hrep, by rw [hio]; exact hran⟩
      · exact ⟨_, _, .release hr hcd, by rw [h]; exact hafter, by rw [h]; exact hran⟩
  · have hlt : now < r := by rw [← hp.releaseDeadlineMs]; omega
    rw [tickRelease_of_capturing hp hlt]
    exact ⟨[], _, .rest (not_le.mpr hlt), hm, Ran.refl io⟩

/-- A capture at `now` ends the tick: whatever became of it, nothing more is due. -/
lemma tickRelease_of_capture {io' : Io} {now n focus : ℤ} {seg : List Event} {p' : Phase}
    (hc : config.Timing) (hnow : io.NotBefore now) (hran : Ran io io' seg)
    (hcap : CaptureEffect config n focus false seg p') (hm : Rep config m p') :
    tickRelease now m io' = (m, io') := by
  cases hcap with
  | rejected =>
      have hp : RepIdle m .Error := hm.phase
      rw [tickRelease_of_ne (by simp [hp.state]), tickCooldown_of_ne (by simp [hp.state])]
  | accepted t =>
      have ht : now ≤ t := hnow.le_of_mem hran (by simp)
      have hhold := hc.webHold
      exact tickRelease_of_capturing hm.phase (by simp; omega)

/-- The capture stage, once the capture is due; `focus` is the autofocus command sent before. -/
lemma tickCapture_due {now focus : ℤ} (hc : config.Timing) (hio : io.Legal)
    (hnow : io.NotBefore now) (hstate : m.state = .Countdown ∨ m.state = .Focusing)
    (hready : Ready m) (hids : TrackedIds m) (hf : m.focusCommandId = focus)
    (hsent : m.focusSent = true ↔ focus ≠ 0) (hr : m.releaseCommandId = 0)
    (hcap : m.captureSent = false) (hdue : m.captureDeadlineMs ≤ now) :
    ∃ seg p', CaptureEffect config m.nextCommandId focus false seg p' ∧
      Rep config (tickCapture config now m io).1 p' ∧
      Ran io (tickCapture config now m io).2 seg := by
  have hcond : ((m.state == .Countdown || m.state == .Focusing) && !m.captureSent
      && now ≥ m.captureDeadlineMs) = true := by
    rcases hstate with h | h <;> simp [h, hcap, hdue]
  rw [tickCapture, if_pos hcond]
  obtain ⟨seg, p', heff, hrep, hran⟩ := beginCapture_effect hc hio hready hids hf hsent hr false
  refine ⟨seg, p', heff, ?_, ?_⟩ <;>
    simp only [tickRelease_of_capture hc hnow hran heff hrep]
  · exact hrep
  · exact hran

/-- The capture stage before the capture is due. -/
lemma tickCapture_early {now : ℤ} (hstate : m.state = .Countdown ∨ m.state = .Focusing)
    (hdue : now < m.captureDeadlineMs) : tickCapture config now m io = (m, io) := by
  have hcond : ¬ ((m.state == .Countdown || m.state == .Focusing) && !m.captureSent
      && now ≥ m.captureDeadlineMs) = true := by
    simp [hdue]
  rw [tickCapture, if_neg hcond]
  rcases hstate with h | h <;>
    rw [tickRelease_of_ne (by simp [h]), tickCooldown_of_ne (by simp [h])]

/-- The autofocus is never due after the capture. -/
lemma Plan.focusAt_le_captureAt (hc : config.Timing) {plan : Plan} (ha : plan.autofocus = true)
    (hd : 0 ≤ plan.delayMs) : plan.focusAt config ≤ plan.captureAt config := by
  have hlead := hc.focusLead
  have himm := hc.immediateLead
  by_cases hzero : plan.delayMs = 0
  · rw [Plan.focusAt, Plan.captureAt, if_pos hzero, if_pos ⟨hzero, ha⟩]
    omega
  · rw [Plan.focusAt, Plan.captureAt, if_neg hzero, if_neg fun h => hzero h.1]
    omega

lemma tickCapture_effect_countdown {now : ℤ} {plan : Plan} (hc : config.Timing) (hio : io.Legal)
    (hnow : io.NotBefore now) (hm : Rep config m (.Countdown plan))
    (hfocus : ¬ (plan.autofocus = true ∧ plan.focusAt config ≤ now)) :
    StageEffect config now m io (.Countdown plan) (tickCapture config now m io) := by
  have hp : RepCountdown config m plan := hm.phase
  by_cases hdue : m.captureDeadlineMs ≤ now
  · obtain ⟨seg, p', heff, hrep, hran⟩ := tickCapture_due hc hio hnow (Or.inl hp.state) hp.ready
      hm.ids hp.focusCommandId (by simp [hp.focusSent]) hp.releaseCommandId hp.captureSent hdue
    have hcap : plan.captureAt config ≤ now := hp.captureDeadlineMs ▸ hdue
    have ha : plan.autofocus = false := by
      rw [← Bool.not_eq_true]
      intro ha
      exact hfocus ⟨ha, (Plan.focusAt_le_captureAt hc ha hp.delay_nonneg).trans hcap⟩
    exact ⟨seg, p', .capture ha hcap heff, hrep, hran⟩
  · rw [tickCapture_early (Or.inl hp.state) (by omega)]
    refine ⟨[], _, .rest ?_, hm, Ran.refl io⟩
    rintro (h | h)
    · exact hfocus h
    · exact hdue (hp.captureDeadlineMs ▸ h)

lemma tickCapture_effect_focusing {now f : ℤ} {plan : Plan} (hc : config.Timing) (hio : io.Legal)
    (hnow : io.NotBefore now) (hm : Rep config m (.Focusing plan f)) :
    (plan.captureAt config ≤ now ∧
      ∃ seg p', CaptureEffect config m.nextCommandId f false seg p' ∧
        Rep config (tickCapture config now m io).1 p' ∧
        Ran io (tickCapture config now m io).2 seg) ∨
      (now < plan.captureAt config ∧ tickCapture config now m io = (m, io)) := by
  have hp : RepFocusing config m plan f := hm.phase
  by_cases hdue : m.captureDeadlineMs ≤ now
  · exact Or.inl ⟨hp.captureDeadlineMs ▸ hdue, tickCapture_due hc hio hnow (Or.inr hp.state)
      hp.ready hm.ids hp.focusCommandId (by simp [hp.focusSent, hp.focus_ne]) hp.releaseCommandId
      hp.captureSent hdue⟩
  · rw [← hp.captureDeadlineMs]
    exact Or.inr ⟨by omega, tickCapture_early (Or.inr hp.state) (by omega)⟩

/-- A stored request whose autofocus has just been accepted. -/
lemma rep_focusSent {plan : Plan} (hp : RepWaiting config m plan) (hn : 0 < m.nextCommandId)
    (ha : plan.autofocus = true) :
    Rep config (({ m with
      focusSent := true
      nextCommandId := m.nextCommandId + 1
      focusCommandId := m.nextCommandId } : RemoteStateMachine).transition .Focusing)
      (.Focusing plan m.nextCommandId) := by
  have hcap := hp.captureCommandId
  have hrel := hp.releaseCommandId
  refine ⟨⟨rfl, ⟨hp.ready.running, hp.ready.cameraReady, hp.ready.wifiReady⟩, rfl, by omega, hcap,
    hrel, hp.captureDeadlineMs, ha, hp.autofocusRequested.trans ha, rfl, hp.captureSent,
    hp.standaloneFocus⟩, ?_, ?_⟩
  · simp [transition, hp.ready.running]
  · refine ⟨?_, ?_, ?_, ?_, ?_, ?_, ?_⟩ <;> simp only [transition] <;> omega

/-- The autofocus stage, once the autofocus is due.  `requestCapture` calls `tick` with the state
already `Focusing` when the delay is zero, so the state is one of two. -/
lemma tickFocus_due {now : ℤ} {plan : Plan} (hc : config.Timing) (hio : io.Legal)
    (hnow : io.NotBefore now) (hp : RepWaiting config m plan) (hn : 0 < m.nextCommandId)
    (hstate : m.state = .Countdown ∨ m.state = .Focusing) (ha : plan.autofocus = true)
    (hdue : plan.focusAt config ≤ now) :
    StageEffect config now m io (.Countdown plan) (tickFocus config now m io) := by
  have hcond : ((m.state == .Countdown || m.state == .Focusing) && m.autofocusRequested
      && !m.focusSent && now ≥ m.focusDeadlineMs) = true := by
    rcases hstate with h | h <;>
      simp [h, hp.autofocusRequested, ha, hp.focusSent, hp.focusDeadlineMs ha, hdue]
  rw [tickFocus, if_pos hcond]
  rcases hs : ({ m with focusSent := true } : RemoteStateMachine).send io .StartAutofocus 0 []
    with ⟨_ | id, m', io'⟩
  · simp only [hs]
    obtain ⟨rfl, hran⟩ := send_rejected hs
    refine ⟨_, _, .focusRejected ha hdue, ?_, hran⟩
    refine rep_fail ?_ ?_ _
    · exact hp.ready.running
    · show 0 < m.nextCommandId + 1
      omega
  · simp only [hs]
    obtain ⟨rfl, rfl, hran⟩ := send_accepted hs
    have hafter := rep_focusSent hp hn ha
    rcases tickCapture_effect_focusing hc (hio.of_ran hran) (hnow.of_ran hran) hafter with
      ⟨hcap, seg, p', heff, hrep, hran'⟩ | ⟨hcap, h⟩
    · exact ⟨_, p', .focusCapture ha hdue hcap heff, hrep, hran.trans hran'⟩
    · exact ⟨_, _, .focus ha hdue hcap, by rw [h]; exact hafter, by rw [h]; exact hran⟩

lemma tickFocus_effect_countdown {now : ℤ} {plan : Plan} (hc : config.Timing) (hio : io.Legal)
    (hnow : io.NotBefore now) (hm : Rep config m (.Countdown plan)) :
    StageEffect config now m io (.Countdown plan) (tickFocus config now m io) := by
  have hp : RepCountdown config m plan := hm.phase
  by_cases hdue : plan.autofocus = true ∧ plan.focusAt config ≤ now
  · exact tickFocus_due hc hio hnow hp.toRepWaiting hm.ids.next_pos (Or.inl hp.state) hdue.1 hdue.2
  · have hcond : ¬ ((m.state == .Countdown || m.state == .Focusing) && m.autofocusRequested
        && !m.focusSent && now ≥ m.focusDeadlineMs) = true := by
      intro h
      simp only [hp.autofocusRequested, Bool.and_eq_true, decide_eq_true_eq] at h
      obtain ⟨⟨⟨-, ha⟩, -⟩, hnow⟩ := h
      exact hdue ⟨ha, hp.focusDeadlineMs ha ▸ hnow⟩
    rw [tickFocus, if_neg hcond]
    exact tickCapture_effect_countdown hc hio hnow hm hdue

/-- **A tick**, from any phase, once the clock has been read. -/
lemma tickFocus_effect {now : ℤ} (hc : config.Timing) (hio : io.Legal) (hnow : io.NotBefore now)
    (hpos : 0 ≤ now) (hm : Rep config m p) :
    StageEffect config now m io p (tickFocus config now m io) := by
  have skip : m.focusSent = true → tickFocus config now m io = tickCapture config now m io := by
    intro h
    simp [tickFocus, h]
  cases p with
  | Idle s =>
      have hp : RepIdle m s := hm.phase
      have hne : ∀ s', RemoteState.resting s' = false → m.state ≠ s' := by
        rintro s' hs' rfl
        rw [hp.state, hp.resting] at hs'
        cases hs'
      rw [tickFocus_of_ne (hne _ rfl) (hne _ rfl), tickCapture_of_ne (hne _ rfl) (hne _ rfl),
        tickRelease_of_ne (hne _ rfl), tickCooldown_of_ne (hne _ rfl)]
      exact ⟨[], _, .rest (by simp [Phase.due]), hm, Ran.refl io⟩
  | Countdown plan => exact tickFocus_effect_countdown hc hio hnow hm
  | Focusing plan f =>
      have hp : RepFocusing config m plan f := hm.phase
      rw [skip hp.focusSent]
      rcases tickCapture_effect_focusing hc hio hnow hm with
        ⟨hcap, seg, p', heff, hrep, hran⟩ | ⟨hcap, h⟩
      · exact ⟨seg, p', .captureFocusing hcap heff, hrep, hran⟩
      · rw [h]
        exact ⟨[], _, .rest (not_le.mpr hcap), hm, Ran.refl io⟩
  | HalfPress f =>
      have hp : RepHalfPress m f := hm.phase
      rw [skip hp.focusSent]
      -- the deadline of a capture nobody asked for is 0, and so has passed
      obtain ⟨seg, p', heff, hrep, hran⟩ := tickCapture_due hc hio hnow (Or.inr hp.state) hp.ready
        hm.ids hp.focusCommandId (by simp [hp.focusSent, hp.focus_ne]) hp.releaseCommandId
        hp.captureSent (hp.captureDeadlineMs ▸ hpos)
      exact ⟨seg, p', .captureHalfPress heff, hrep, hran⟩
  | Capturing c f ph r cd =>
      have hp : RepCapturing m c f ph r cd := hm.phase
      rw [tickFocus_of_ne (by simp [hp.state]) (by simp [hp.state]),
        tickCapture_of_ne (by simp [hp.state]) (by simp [hp.state])]
      exact tickRelease_effect hm
  | Cooldown c f r cd =>
      have hp : RepCooldown m c f r cd := hm.phase
      rw [tickFocus_of_ne (by simp [hp.state]) (by simp [hp.state]),
        tickCapture_of_ne (by simp [hp.state]) (by simp [hp.state]),
        tickRelease_of_ne (by simp [hp.state])]
      rcases tickCooldown_effect io now hm with
        ⟨hcd, hrep, h⟩ | ⟨hcd, h⟩
      · exact ⟨[], _, .finish hcd, hrep, by rw [h]; exact Ran.refl io⟩
      · rw [h]
        exact ⟨[], _, .rest (not_le.mpr hcd), hm, Ran.refl io⟩

end LegacyAlpha
