import LegacyAlphaRemote.Machine.Justification

/-!
# Cancelling

A countdown that was cancelled must not come back.  After `cancelCountdown` has answered `true` the
machine rests, and a machine at rest hands nothing over that takes a photo, whatever is done to it,
until a request, a half-press or a press gets past its checks (`Op.Begins`).  The other way round, once
the capture has been handed over there is nothing left to cancel, and `cancelCountdown` changes
nothing.

Neither depends on the clock or on what results are reported, so the runs are free ones.
-/

namespace LegacyAlpha

open RemoteStateMachine TraceLogic

/-! ## Beginning and ending -/

/-- The operation gets past its checks and begins a shot or an autofocus, whatever the sink says to
its commands then. -/
def Op.Begins (config : NativeConfig) (before : RemoteStateMachine) : Op → Prop
  | .RequestCapture _ delayMs _ => before.acceptingRequests = true ∧ before.state = .Armed ∧
      0 ≤ delayMs ∧ delayMs ≤ config.maxDelayMs
  | .SetFocus true => before.state = .Armed
  | .PhysicalShutter true => before.running = true ∧ before.cameraReady = true ∧
      (before.state = .Countdown ∨ before.state = .Focusing ∨ before.state = .Armed)
  | _ => False

def Event.Begins (config : NativeConfig) : Event → Prop
  | .Call op before => op.Begins config before
  | _ => False

/-- An autofocus is started, or the shutter pressed or released: what a cancelled request must not do
any more. -/
def Event.Shoots : Event → Prop
  | .Sent command _ => command.type = .StartAutofocus ∨ command.type = .Capture ∨
      command.type = .ReleaseShutter
  | _ => False

/-- `cancelCountdown` answers `true`, and so tells the phone that there will be no photo. -/
def Event.Cancels : Event → Prop
  | .Returned op ok _ => op = .CancelCountdown ∧ ok = true
  | _ => False

/-- **A successful cancel is final**: nothing is handed over that takes a photo after it, until
something begins.  And a cancel that comes too late, after the capture has been handed over, answers
`false` and changes nothing. -/
structure CancelsFinal (config : NativeConfig) (tr : List Event) (m : RemoteStateMachine) : Prop where
  final : Always (fun past e => e.Shoots → ¬ Latched Event.Cancels (Event.Begins config) past) tr
  late : Latched Event.IsCapture (Event.Begins config) tr → ∀ io, m.cancelCountdown io =
    { ok := false, error := bytes "countdown cannot be cancelled", machine := m, io }

variable {config : NativeConfig} {m m' : RemoteStateMachine} {io io' : Io} {op : Op}
  {tr seg : List Event} {e : Event}

/-! ## Refused operations -/

lemma requestCapture_refused {requestId : Bytes} {delayMs : ℤ} {autofocus : Bool}
    (h : ¬ (Op.RequestCapture requestId delayMs autofocus).Begins config m) (io : Io) :
    (m.requestCapture config io requestId delayMs autofocus).machine = m ∧
      (m.requestCapture config io requestId delayMs autofocus).io = io := by
  by_cases hbusy : (!m.acceptingRequests || m.state != .Armed) = true
  · rw [requestCapture, if_pos hbusy]
    exact ⟨rfl, rfl⟩
  by_cases hrange : (delayMs < 0 || delayMs > config.maxDelayMs) = true
  · rw [requestCapture, if_neg hbusy, if_pos hrange]
    exact ⟨rfl, rfl⟩
  · simp only [Bool.or_eq_true, Bool.not_eq_true', bne_iff_ne, decide_eq_true_eq, not_or,
      Bool.not_eq_false, not_not, gt_iff_lt, not_lt] at hbusy hrange
    exact absurd ⟨hbusy.1, hbusy.2, hrange.1, hrange.2⟩ h

lemma setFocus_refused (h : ¬ (Op.SetFocus true).Begins config m) (io : Io) :
    (m.setFocus io true).machine = m ∧ (m.setFocus io true).io = io := by
  have hrefused : (m.state != .Armed) = true := bne_iff_ne.mpr h
  rw [setFocus, if_pos rfl, if_pos hrefused]
  exact ⟨rfl, rfl⟩

lemma physicalShutter_refused (h : ¬ (Op.PhysicalShutter true).Begins config m) (io : Io) :
    (m.physicalShutter config io true).machine = m ∧
      (m.physicalShutter config io true).io = io := by
  rw [physicalShutter]
  split_ifs with hpress _ hready hsched hbusy
  · cases hpress
  · cases hpress
  · exact ⟨rfl, rfl⟩
  all_goals
    simp only [Bool.or_eq_true, Bool.not_eq_true', not_or, Bool.not_eq_false] at hready
  · refine absurd ⟨hready.1, hready.2, ?_⟩ h
    simp only [Bool.or_eq_true, Bool.and_eq_true, beq_iff_eq] at hsched
    tauto
  · exact ⟨rfl, rfl⟩
  · refine absurd ⟨hready.1, hready.2, ?_⟩ h
    simp only [Bool.and_eq_true, bne_iff_ne, Bool.not_eq_true', not_and, Bool.not_eq_false,
      beq_iff_eq] at hbusy
    by_cases harmed : m.state = .Armed
    · exact Or.inr (Or.inr harmed)
    · exact Or.inr (Or.inl (hbusy harmed).1)

/-! ## A machine at rest -/

lemma resting_ne {s : RemoteState} (hm : m.state.resting = true) (hs : s.resting = false) :
    m.state ≠ s := by
  rintro rfl
  rw [hs] at hm
  cases hm

/-- What a call may leave behind that takes no photo: readings of the clock, and the end of an
autofocus. -/
def Calm (io io' : Io) : Prop :=
  ∃ seg, io'.trace = io.trace ++ seg ∧ ∀ e ∈ seg, e.Inner ∧ ¬ e.Shoots

lemma Calm.refl (io : Io) : Calm io io := ⟨[], by simp, by simp⟩

lemma Calm.nowMs (io : Io) : Calm io io.nowMs.2 := by
  refine ⟨[.Clock io.nowMs.1], rfl, ?_⟩
  simp [Event.Inner, Event.Shoots]

lemma Calm.cancelFocus (m : RemoteStateMachine) (io : Io) : Calm io (m.cancelFocus io).2 := by
  rw [RemoteStateMachine.cancelFocus]
  split_ifs
  · refine ⟨_, send_trace m io .CancelAutofocus, ?_⟩
    simp [Event.Inner, Event.Shoots, Event.command]
  · exact Calm.refl io

/-- A tick has nothing to do when no shot is under way. -/
lemma tick_of_resting (config : NativeConfig) (hm : m.state.resting = true) (io : Io) :
    (m.tick config io).1 = m ∧ Calm io (m.tick config io).2 := by
  have hcountdown := resting_ne hm (s := .Countdown) rfl
  have hfocusing := resting_ne hm (s := .Focusing) rfl
  have hcapturing := resting_ne hm (s := .Capturing) rfl
  have hcooldown := resting_ne hm (s := .Cooldown) rfl
  rw [tick]
  split_ifs
  · exact ⟨rfl, Calm.refl io⟩
  · simp only [tickFocus, tickCapture, tickRelease, tickCooldown, beq_eq_false_iff_ne.mpr hcountdown,
      beq_eq_false_iff_ne.mpr hfocusing, beq_eq_false_iff_ne.mpr hcapturing,
      beq_eq_false_iff_ne.mpr hcooldown, Bool.or_self, Bool.false_and, Bool.false_eq_true, if_false]
    exact ⟨trivial, Calm.nowMs io⟩

/-- **A machine at rest stays at rest** and takes no photo, until an operation gets past its checks. -/
lemma perform_of_resting (hm : m.state.resting = true) (hop : ¬ op.Begins config m) (io : Io) :
    (m.perform config io op).machine.state.resting = true ∧
      Calm io (m.perform config io op).io := by
  have hcountdown := resting_ne hm (s := .Countdown) rfl
  have hfocusing := resting_ne hm (s := .Focusing) rfl
  have hcapturing := resting_ne hm (s := .Capturing) rfl
  cases op with
  | Start =>
      refine ⟨?_, Calm.refl io⟩
      simp only [perform, start]
      split_ifs
      · exact hm
      · rfl
      · rfl
  | Stop =>
      simp only [perform, stop]
      split_ifs
      · exact ⟨hm, Calm.refl io⟩
      · exact ⟨rfl, Calm.cancelFocus m io⟩
  | SetCameraReady ready | SetWifiReady ready =>
      refine ⟨?_, Calm.refl io⟩
      simp only [perform, setCameraReady, setWifiReady, readinessChanged]
      split_ifs
      · exact hm
      · rfl
      · rfl
      · exact hm
  | RequestCapture requestId delayMs autofocus =>
      obtain ⟨hmachine, hio⟩ := requestCapture_refused hop io
      rw [perform, hmachine, hio]
      exact ⟨hm, Calm.refl io⟩
  | CancelCountdown =>
      have hrefused : (m.captureSent || (m.state != .Countdown && m.state != .Focusing)) = true := by
        simp [hcountdown, hfocusing]
      simp only [perform, cancelCountdown, if_pos hrefused]
      exact ⟨hm, Calm.refl io⟩
  | SetFocus pressed =>
      cases pressed with
      | false =>
          have hrefused : (!m.standaloneFocus || m.state != .Focusing) = true := by
            simp [hfocusing]
          simp only [perform, setFocus, Bool.false_eq_true, if_false, if_pos hrefused]
          exact ⟨hm, Calm.refl io⟩
      | true =>
          obtain ⟨hmachine, hio⟩ := setFocus_refused hop io
          rw [perform, hmachine, hio]
          exact ⟨hm, Calm.refl io⟩
  | PhysicalShutter pressed =>
      cases pressed with
      | false =>
          simp only [perform, physicalShutter, Bool.not_false, if_true,
            beq_eq_false_iff_ne.mpr hcapturing, Bool.false_and, Bool.false_eq_true, if_false]
          exact ⟨hm, Calm.refl io⟩
      | true =>
          obtain ⟨hmachine, hio⟩ := physicalShutter_refused hop io
          rw [perform, hmachine, hio]
          exact ⟨hm, Calm.refl io⟩
  | Tick =>
      obtain ⟨hsame, hcalm⟩ := tick_of_resting config hm io
      exact ⟨by simpa only [perform, hsame] using hm, hcalm⟩
  | ReportCommandResult commandId resultCode message =>
      refine ⟨?_, Calm.refl io⟩
      simp only [perform, reportCommandResult]
      split_ifs
      all_goals first
        | exact hm
        | rfl
  | SetClientCount count => exact ⟨hm, Calm.refl io⟩

/-- A successful cancel brings the machine to rest. -/
lemma cancelCountdown_resting (h : (m.cancelCountdown io).ok = true) :
    (m.cancelCountdown io).machine.state.resting = true := by
  rw [cancelCountdown] at h ⊢
  split_ifs at h ⊢
  simp only [transition, restState]
  split_ifs <;> rfl

/-! ## After the capture -/

/-- `cancelCountdown` cancels on this machine: nothing has been captured, and something is counting
down or focusing. -/
def RemoteStateMachine.Cancellable (m : RemoteStateMachine) : Prop :=
  m.captureSent = false ∧ (m.state = .Countdown ∨ m.state = .Focusing)

lemma cancelCountdown_refused (h : ¬ m.Cancellable) (io : Io) : m.cancelCountdown io =
    { ok := false, error := bytes "countdown cannot be cancelled", machine := m, io } := by
  rw [cancelCountdown, if_pos]
  simp only [Bool.or_eq_true, Bool.and_eq_true, bne_iff_ne]
  by_cases hsent : m.captureSent = true
  · exact Or.inl hsent
  · rw [Bool.not_eq_true] at hsent
    exact Or.inr (not_or.mp fun hstate => h ⟨hsent, hstate⟩)

/-- A `Capture` has been handed over, and nothing has begun since, so that the capture is the last
word of its request. -/
def CaptureMade (config : NativeConfig) (io : Io) : Prop :=
  Latched Event.IsCapture (Event.Begins config) io.trace

/-- Once the capture has been handed over there is nothing left to cancel, until something new begins.
-/
def Spent (config : NativeConfig) (m : RemoteStateMachine) (io : Io) : Prop :=
  CaptureMade config io → ¬ m.Cancellable

lemma not_cancellable_of_state (hcountdown : m.state ≠ .Countdown) (hfocusing : m.state ≠ .Focusing) :
    ¬ m.Cancellable := by
  rintro ⟨-, h | h⟩
  · exact hcountdown h
  · exact hfocusing h

lemma not_cancellable_of_resting (hm : m.state.resting = true) : ¬ m.Cancellable :=
  not_cancellable_of_state (resting_ne hm rfl) (resting_ne hm rfl)

lemma captureMade_send {type : CommandType} (htype : type ≠ .Capture) :
    CaptureMade config (m.send io type 0 []).2.2 ↔ CaptureMade config io := by
  rw [CaptureMade, send_trace]
  exact latched_append (by simpa [Event.IsCapture, Event.Begins, Event.command] using htype)

lemma captureMade_nowMs : CaptureMade config io.nowMs.2 ↔ CaptureMade config io :=
  latched_append (by simp [Event.IsCapture, Event.Begins])

namespace Spent

lemma of_not_cancellable (h : ¬ m.Cancellable) (io : Io) : Spent config m io := fun _ => h

lemma of_imp (h : Spent config m io) (hm : m'.Cancellable → m.Cancellable) : Spent config m' io :=
  fun hcaptured hcan => h hcaptured (hm hcan)

lemma nowMs (h : Spent config m io) : Spent config m io.nowMs.2 :=
  fun hcaptured => h (captureMade_nowMs.mp hcaptured)

/-- A refused command makes the machine fail. -/
lemma send_rejected {type : CommandType} (hs : m.send io type 0 [] = (none, m', io')) :
    ¬ m'.Cancellable := by
  obtain ⟨rfl, -⟩ := LegacyAlpha.send_rejected hs
  exact not_cancellable_of_resting rfl

lemma send_accepted {type : CommandType} {id : ℤ} (htype : type ≠ .Capture)
    (hs : m.send io type 0 [] = (some id, m', io')) (h : Spent config m io) :
    Spent config m' io' := by
  intro hcaptured
  have hio : io' = (m.send io type 0 []).2.2 := by rw [hs]
  obtain ⟨-, rfl, -⟩ := LegacyAlpha.send_accepted hs
  rw [hio, captureMade_send htype] at hcaptured
  exact h hcaptured

lemma tickCooldown (h : Spent config m io) (now : ℤ) :
    Spent config (tickCooldown now m io).1 (tickCooldown now m io).2 := by
  rw [RemoteStateMachine.tickCooldown]
  split_ifs
  · refine of_not_cancellable (not_cancellable_of_resting ?_) io
    simp only [transition, restState]
    split_ifs <;> rfl
  · exact h

lemma tickRelease (h : Spent config m io) (now : ℤ) :
    Spent config (tickRelease now m io).1 (tickRelease now m io).2 := by
  rw [RemoteStateMachine.tickRelease]
  split_ifs
  · rcases hs : ({ m with releaseDeadlineMs := 0 } : RemoteStateMachine).send io .ReleaseShutter 0 []
      with ⟨_ | id, m', io'⟩ <;> simp only [hs]
    · exact of_not_cancellable (send_rejected hs) io'
    · have hcooldown : ¬ ({ m' with releaseCommandId := id }.transition .Cooldown).Cancellable :=
        not_cancellable_of_state (by simp [transition]) (by simp [transition])
      exact (of_not_cancellable hcooldown io').tickCooldown now
  · exact h.tickCooldown now

end Spent

/-- The shutter is held, or the machine has failed. -/
lemma beginCapture_not_cancellable (m : RemoteStateMachine) (io : Io) (physical : Bool) :
    ¬ (m.beginCapture config io physical).1.Cancellable := by
  rcases hs : ({ m with physicalCapture := physical, captureSent := true, standaloneFocus := false } :
    RemoteStateMachine).send io .Capture 0 [] with ⟨_ | id, m', io'⟩ <;>
    simp only [beginCapture, hs]
  · exact Spent.send_rejected hs
  · exact not_cancellable_of_state (by simp [transition]) (by simp [transition])

namespace Spent

lemma tickCapture (h : Spent config m io) (now : ℤ) :
    Spent config (tickCapture config now m io).1 (tickCapture config now m io).2 := by
  rw [RemoteStateMachine.tickCapture]
  split_ifs
  · exact (of_not_cancellable (beginCapture_not_cancellable m io false) _).tickRelease now
  · exact h.tickRelease now

lemma tickFocus (h : Spent config m io) (now : ℤ) :
    Spent config (tickFocus config now m io).1 (tickFocus config now m io).2 := by
  rw [RemoteStateMachine.tickFocus]
  split_ifs with hdue
  · rcases hs : ({ m with focusSent := true } : RemoteStateMachine).send io .StartAutofocus 0 []
      with ⟨_ | id, m', io'⟩ <;> simp only [hs]
    · exact of_not_cancellable (send_rejected hs) io'
    · have hsent : Spent config m' io' := send_accepted (by decide) hs (h.of_imp fun hcan => hcan)
      have hfocusing :
          Spent config ({ m' with focusCommandId := id }.transition .Focusing) io' := by
        refine hsent.of_imp fun hcan => ⟨hcan.1, ?_⟩
        obtain ⟨-, rfl, -⟩ := LegacyAlpha.send_accepted hs
        simp only [Bool.and_eq_true, Bool.or_eq_true, beq_iff_eq] at hdue
        exact hdue.1.1.1
      exact hfocusing.tickCapture now
  · exact h.tickCapture now

lemma tick (h : Spent config m io) :
    Spent config (m.tick config io).1 (m.tick config io).2 := by
  rw [RemoteStateMachine.tick]
  split_ifs
  · exact h
  · exact h.nowMs.tickFocus _

lemma requestCapture {requestId : Bytes} {delayMs : ℤ} {autofocus : Bool} (h : Spent config m io)
    (hbegin : (Op.RequestCapture requestId delayMs autofocus).Begins config m →
      ¬ CaptureMade config io) :
    Spent config (m.requestCapture config io requestId delayMs autofocus).machine
      (m.requestCapture config io requestId delayMs autofocus).io := by
  by_cases hop : (Op.RequestCapture requestId delayMs autofocus).Begins config m
  · have hfresh : ¬ CaptureMade config io.nowMs.2 := fun hcap => hbegin hop (captureMade_nowMs.mp hcap)
    obtain ⟨haccepting, harmed, hmin, hmax⟩ := hop
    rw [requestCapture_accepted (by simp [haccepting, harmed])
      (by simpa using And.intro hmin hmax)]
    exact tick fun hcap => absurd hcap hfresh
  · obtain ⟨hmachine, hio⟩ := requestCapture_refused hop io
    rw [hmachine, hio]
    exact h

lemma setFocus {pressed : Bool} (h : Spent config m io)
    (hbegin : (Op.SetFocus pressed).Begins config m → ¬ CaptureMade config io) :
    Spent config (m.setFocus io pressed).machine (m.setFocus io pressed).io := by
  cases pressed with
  | false =>
      simp only [RemoteStateMachine.setFocus, Bool.false_eq_true, if_false]
      split_ifs
      · exact h
      · refine of_not_cancellable (not_cancellable_of_resting ?_) _
        simp only [transition, restState]
        split_ifs <;> rfl
  | true =>
      by_cases hop : (Op.SetFocus true).Begins config m
      · have hfresh := hbegin hop
        have hstate : m.state = .Armed := hop
        have harmed : ¬ (m.state != .Armed) = true := by simp [hstate]
        rw [RemoteStateMachine.setFocus, if_pos rfl, if_neg harmed]
        rcases hs : ({ m with standaloneFocus := true, focusSent := true } :
          RemoteStateMachine).send io .StartAutofocus 0 [] with ⟨_ | id, m', io'⟩ <;> simp only [hs]
        · exact of_not_cancellable (send_rejected hs) io'
        · intro hcap
          have hio : io' = (({ m with standaloneFocus := true, focusSent := true } :
            RemoteStateMachine).send io .StartAutofocus 0 []).2.2 := by rw [hs]
          rw [hio, captureMade_send (by decide)] at hcap
          exact absurd hcap hfresh
      · obtain ⟨hmachine, hio⟩ := setFocus_refused hop io
        rw [hmachine, hio]
        exact h

lemma physicalShutter (h : Spent config m io) (pressed : Bool) :
    Spent config (m.physicalShutter config io pressed).machine
      (m.physicalShutter config io pressed).io := by
  rw [RemoteStateMachine.physicalShutter]
  split_ifs
  · exact tick (h.nowMs.of_imp id)
  · exact h
  · exact h
  · exact of_not_cancellable (beginCapture_not_cancellable _ _ true) _
  · exact h
  · exact of_not_cancellable (beginCapture_not_cancellable _ _ true) _

/-- **Every operation keeps it**, if it begins nothing while a capture is the last thing that was
made. -/
theorem perform (h : Spent config m io) (hbegin : op.Begins config m → ¬ CaptureMade config io) :
    Spent config (m.perform config io op).machine (m.perform config io op).io := by
  cases op with
  | Start =>
      simp only [RemoteStateMachine.perform, start]
      split_ifs
      · exact h
      · exact of_not_cancellable (not_cancellable_of_resting rfl) io
      · exact of_not_cancellable (not_cancellable_of_resting rfl) io
  | Stop =>
      simp only [RemoteStateMachine.perform, stop]
      split_ifs
      · exact h
      · exact of_not_cancellable (not_cancellable_of_resting rfl) _
  | SetCameraReady ready | SetWifiReady ready =>
      simp only [RemoteStateMachine.perform, setCameraReady, setWifiReady, readinessChanged]
      split_ifs
      · exact h
      · exact of_not_cancellable (not_cancellable_of_resting rfl) io
      · exact of_not_cancellable (not_cancellable_of_resting rfl) io
      · exact h
  | RequestCapture requestId delayMs autofocus => exact h.requestCapture hbegin
  | CancelCountdown =>
      simp only [RemoteStateMachine.perform, cancelCountdown]
      split_ifs
      · exact h
      · refine of_not_cancellable (not_cancellable_of_resting ?_) _
        simp only [transition, restState]
        split_ifs <;> rfl
  | SetFocus pressed => exact h.setFocus hbegin
  | PhysicalShutter pressed => exact h.physicalShutter pressed
  | Tick => exact h.tick
  | ReportCommandResult commandId resultCode message =>
      simp only [RemoteStateMachine.perform, reportCommandResult]
      split_ifs
      all_goals first
        | exact of_not_cancellable (not_cancellable_of_resting rfl) io
        | exact h
  | SetClientCount count => exact h

end Spent

/-! ## Runs -/

/-- What a call leaves: a machine that has been cancelled rests, and one that has captured has
nothing left to cancel. -/
structure Concluded (config : NativeConfig) (tr : List Event) (m : RemoteStateMachine) : Prop where
  cancelled : Latched Event.Cancels (Event.Begins config) tr → m.state.resting = true
  captured : Latched Event.IsCapture (Event.Begins config) tr → ¬ m.Cancellable

/-- Inside a call nothing begins and nothing is cancelled. -/
lemma not_cancels_of_inner (he : e.Inner) : ¬ e.Cancels ∧ ¬ e.Begins config := by
  cases e with
  | Sent _ _ | Clock _ => exact ⟨id, id⟩
  | Call _ _ | Returned _ _ _ => cases he

/-- What a call of a concluded machine hands over, and how it leaves the machine. -/
lemma Concluded.step (io : Io) (h : Concluded config io.trace m) (op : Op) :
    Concluded config (m.step config io op).io.trace (m.step config io op).machine ∧
      ∃ seg, (m.step config io op).io.trace = io.trace ++ seg ∧
        AlwaysFrom (fun past e => e.Shoots → ¬ Latched Event.Cancels (Event.Begins config) past)
          io.trace seg := by
  let called : Io := { io with trace := io.trace ++ [.Call op m] }
  have hcalled : ∀ {mark : Event → Prop}, ¬ mark (.Call op m) →
      Latched mark (Event.Begins config) called.trace →
      Latched mark (Event.Begins config) io.trace ∧ ¬ op.Begins config m := by
    intro mark hmark hlatched
    exact (latched_concat.mp hlatched).resolve_left hmark
  obtain ⟨seg, htrace, hinner⟩ := perform_inner config m called op
  have hcancelled : ∀ {s : List Event}, (∀ e ∈ s, e.Inner) →
      Latched Event.Cancels (Event.Begins config) (called.trace ++ s) →
      (m.perform config called op).machine.state.resting = true ∧ ∀ e ∈ seg, ¬ e.Shoots := by
    intro s hs hlatched
    rw [latched_append fun e he => not_cancels_of_inner (hs e he)] at hlatched
    obtain ⟨hbefore, hbegin⟩ := hcalled id hlatched
    obtain ⟨hrest, seg', htrace', hcalm⟩ :=
      perform_of_resting (h.cancelled hbefore) hbegin called
    obtain rfl := List.append_cancel_left (htrace.symm.trans htrace')
    exact ⟨hrest, fun e he => (hcalm e he).2⟩
  have hspent : Spent config (m.perform config called op).machine (m.perform config called op).io := by
    refine Spent.perform (fun hcap => h.captured (hcalled id hcap).1) fun hbegin hcap => ?_
    exact (hcalled id hcap).2 hbegin
  refine ⟨⟨fun hlatched => ?_, fun hlatched => ?_⟩,
    .Call op m :: seg ++ [.Returned op (m.perform config called op).ok
      (m.perform config called op).machine], ?_, ?_⟩
  · rcases latched_concat.mp hlatched with ⟨hop, hok⟩ | ⟨hlatched, -⟩
    · subst hop
      exact cancelCountdown_resting hok
    · rw [htrace] at hlatched
      exact (hcancelled hinner hlatched).1
  · rcases latched_concat.mp hlatched with hmark | ⟨hlatched, -⟩
    · exact absurd hmark id
    · exact hspent hlatched
  · show (m.perform config called op).io.trace ++ _ = _
    simp [htrace, called]
  · rw [alwaysFrom_append, alwaysFrom_cons]
    refine ⟨⟨fun hshoots => absurd hshoots id, ?_⟩, fun hshoots => absurd hshoots id, trivial⟩
    rw [alwaysFrom_iff]
    rintro a e b rfl hshoots hlatched
    refine (hcancelled (fun e' he' => hinner e' ?_) hlatched).2 e (by simp) hshoots
    exact List.mem_append_left _ he'

/-- **A cancelled countdown does not come back**, in every run, whatever the clock says and whatever
is reported: a cancelled machine has nothing scheduled, and only a new request, half-press or press
schedules something. -/
theorem cancelsFinal (h : FreeRun config tr m) : CancelsFinal config tr m := by
  have hrun : Concluded config tr m ∧
      Always (fun past e => e.Shoots → ¬ Latched Event.Cancels (Event.Begins config) past) tr := by
    induction h with
    | init => exact ⟨⟨by simp, by simp⟩, always_nil _⟩
    | @call tr m op clock answers hrun ih =>
        obtain ⟨hconcluded, hfinal⟩ := ih
        obtain ⟨hafter, seg, htrace, hseg⟩ :=
          Concluded.step { clock, answers, trace := tr } hconcluded op
        refine ⟨hafter, ?_⟩
        rw [htrace]
        exact (always_append _ _ _).mpr ⟨hfinal, hseg⟩
  exact ⟨hrun.2, fun hcaptured io => cancelCountdown_refused (hrun.1.captured hcaptured) io⟩

/-- A countdown is cancelled while its autofocus runs; the autofocus answers late, and time goes by. -/
theorem cancelsFinal_autofocus :
    CancelsFinal {} (play {} [] {} (focusingScript ++ [(2100, .CancelCountdown),
        (2200, .ReportCommandResult 1 (-1) []), (9000, .Tick)])).1
      (play {} [] {} (focusingScript ++ [(2100, .CancelCountdown),
        (2200, .ReportCommandResult 1 (-1) []), (9000, .Tick)])).2 :=
  cancelsFinal (Run.play _ .init (by decide)).free

end LegacyAlpha
