import LegacyAlphaRemote.Machine.Operations

/-!
# Whole runs of the machine

A `Run` is any finite sequence of calls on a machine that starts as its constructor leaves it.  Each
call comes with its own clock and its own sink: the clock is positive, does not go back inside the
call and does not start before any reading of the calls before, and the sink answers as it likes.
Results are reported for commands the machine has handed to the sink.

`Run.history` is the refinement of runs: each one is a `History`, the same trace with the phase it
leads to.  The properties of runs are proved by induction over histories.
-/

namespace LegacyAlpha

open RemoteStateMachine

variable {config : NativeConfig} {tr : List Event} {m : RemoteStateMachine} {io : Io}

/-! ## Runs -/

/-- The event is no reading of the clock after `now`, so that a call at `now` may follow it. -/
def Event.NotAfter (now : ℤ) : Event → Prop
  | .Clock t => t ≤ now
  | _ => True

instance (now : ℤ) : DecidablePred (Event.NotAfter now)
  | .Clock t => inferInstanceAs (Decidable (t ≤ now))
  | .Call _ _ | .Sent _ _ | .Returned _ _ _ => inferInstanceAs (Decidable True)

/-- The event hands the command `commandId` to the sink, whatever the sink answers. -/
def Event.Carries (commandId : ℤ) : Event → Prop
  | .Sent command _ => command.id = commandId
  | _ => False

instance (commandId : ℤ) : DecidablePred (Event.Carries commandId)
  | .Sent command _ => inferInstanceAs (Decidable (command.id = commandId))
  | .Call _ _ | .Clock _ | .Returned _ _ _ => inferInstanceAs (Decidable False)

/-- What the environment promises about an operation: a result is reported for a command the sink
was handed. -/
def Op.Allowed (tr : List Event) : Op → Prop
  | .ReportCommandResult commandId _ _ => ∃ e ∈ tr, e.Carries commandId
  | _ => True

instance (tr : List Event) : DecidablePred (Op.Allowed tr)
  | .ReportCommandResult commandId _ _ =>
      inferInstanceAs (Decidable (∃ e ∈ tr, Event.Carries commandId e))
  | .Start | .Stop | .SetCameraReady _ | .SetWifiReady _ | .RequestCapture _ _ _
  | .CancelCountdown | .SetFocus _ | .PhysicalShutter _ | .Tick | .SetClientCount _ =>
      inferInstanceAs (Decidable True)

/-- A run: its events, oldest first, and the machine it leaves.  Each call has a clock and answers of
its own; the clock does not go back from call to call, and a result is reported only for a command
that has been sent. -/
inductive Run (config : NativeConfig) : List Event → RemoteStateMachine → Prop
  | init : Run config [] {}
  | call {tr : List Event} {m : RemoteStateMachine} (op : Op) (clock : ℕ → ℤ)
      (answers : ℕ → Bool) : Run config tr m →
      Monotone clock → 0 < clock 0 → (∀ e ∈ tr, e.NotAfter (clock 0)) → op.Allowed tr →
      Run config (m.step config { clock, answers, trace := tr } op).io.trace
        (m.step config { clock, answers, trace := tr } op).machine

/-- Calls whose environment promises nothing: the clock may go back, and results may be reported
under any id. -/
inductive FreeRun (config : NativeConfig) : List Event → RemoteStateMachine → Prop
  | init : FreeRun config [] {}
  | call {tr : List Event} {m : RemoteStateMachine} (op : Op) (clock : ℕ → ℤ)
      (answers : ℕ → Bool) : FreeRun config tr m →
      FreeRun config (m.step config { clock, answers, trace := tr } op).io.trace
        (m.step config { clock, answers, trace := tr } op).machine

lemma Run.free (h : Run config tr m) : FreeRun config tr m := by
  induction h with
  | init => exact .init
  | call op clock answers _ _ _ _ _ ih => exact .call op clock answers ih

/-! ## What every command keeps

A relation of the machine and the trace that looks at no field but the next command id, and that
readings of the clock and commands keep, is kept by every operation.
-/

structure Threaded (P : RemoteStateMachine → Io → Prop) : Prop where
  of_next : ∀ {m m' : RemoteStateMachine} {io : Io}, P m io →
    m'.nextCommandId = m.nextCommandId → P m' io
  nowMs : ∀ {m : RemoteStateMachine} {io : Io}, P m io → P m io.nowMs.2
  send : ∀ {m : RemoteStateMachine} {io : Io} (type : CommandType), P m io →
    P (m.send io type 0 []).2.1 (m.send io type 0 []).2.2

/-- The same, as long as the commands are for the camera, which all commands of the machine are. -/
structure CameraThreaded (P : RemoteStateMachine → Io → Prop) : Prop where
  of_next : ∀ {m m' : RemoteStateMachine} {io : Io}, P m io →
    m'.nextCommandId = m.nextCommandId → P m' io
  nowMs : ∀ {m : RemoteStateMachine} {io : Io}, P m io → P m io.nowMs.2
  send : ∀ {m : RemoteStateMachine} {io : Io} (type : CommandType), type ≠ .UpdateScreen → P m io →
    P (m.send io type 0 []).2.1 (m.send io type 0 []).2.2

namespace CameraThreaded

variable {P : RemoteStateMachine → Io → Prop}

lemma cancelFocus (hP : CameraThreaded P) (h : P m io) :
    P (m.cancelFocus io).1 (m.cancelFocus io).2 := by
  rw [RemoteStateMachine.cancelFocus]
  split_ifs
  · exact hP.send _ (by decide) h
  · exact h

lemma beginCapture (hP : CameraThreaded P) (h : P m io) (physical : Bool) :
    P (m.beginCapture config io physical).1 (m.beginCapture config io physical).2 := by
  have hsend := hP.send (m := { m with
    physicalCapture := physical, captureSent := true, standaloneFocus := false }) .Capture
    (by decide) (hP.of_next h rfl)
  rcases hs : ({ m with physicalCapture := physical, captureSent := true, standaloneFocus := false } :
    RemoteStateMachine).send io .Capture 0 [] with ⟨_ | id, m', io'⟩ <;>
    rw [hs] at hsend <;> simp only [RemoteStateMachine.beginCapture, hs]
  · exact hsend
  · exact hP.of_next (hP.nowMs hsend) rfl

lemma tickCooldown (hP : CameraThreaded P) (h : P m io) (now : ℤ) :
    P (tickCooldown now m io).1 (tickCooldown now m io).2 := by
  rw [RemoteStateMachine.tickCooldown]
  split_ifs
  · exact hP.of_next h rfl
  · exact h

lemma tickRelease (hP : CameraThreaded P) (h : P m io) (now : ℤ) :
    P (tickRelease now m io).1 (tickRelease now m io).2 := by
  rw [RemoteStateMachine.tickRelease]
  split_ifs
  · have hsend := hP.send (m := { m with releaseDeadlineMs := 0 }) .ReleaseShutter
      (by decide) (hP.of_next h rfl)
    rcases hs : ({ m with releaseDeadlineMs := 0 } : RemoteStateMachine).send io .ReleaseShutter 0 []
      with ⟨_ | id, m', io'⟩ <;> rw [hs] at hsend <;> simp only [hs]
    · exact hsend
    · refine hP.tickCooldown (hP.of_next hsend ?_) now
      rfl
  · exact hP.tickCooldown h now

lemma tickCapture (hP : CameraThreaded P) (h : P m io) (now : ℤ) :
    P (tickCapture config now m io).1 (tickCapture config now m io).2 := by
  rw [RemoteStateMachine.tickCapture]
  split_ifs
  · exact hP.tickRelease (hP.beginCapture h false) now
  · exact hP.tickRelease h now

lemma tickFocus (hP : CameraThreaded P) (h : P m io) (now : ℤ) :
    P (tickFocus config now m io).1 (tickFocus config now m io).2 := by
  rw [RemoteStateMachine.tickFocus]
  split_ifs
  · have hsend := hP.send (m := { m with focusSent := true }) .StartAutofocus
      (by decide) (hP.of_next h rfl)
    rcases hs : ({ m with focusSent := true } : RemoteStateMachine).send io .StartAutofocus 0 []
      with ⟨_ | id, m', io'⟩ <;> rw [hs] at hsend <;> simp only [hs]
    · exact hsend
    · refine hP.tickCapture (hP.of_next hsend ?_) now
      rfl
  · exact hP.tickCapture h now

lemma tick (hP : CameraThreaded P) (h : P m io) : P (m.tick config io).1 (m.tick config io).2 := by
  rw [RemoteStateMachine.tick]
  split_ifs
  · exact h
  · exact hP.tickFocus (hP.nowMs h) _

lemma requestCapture (hP : CameraThreaded P) (h : P m io) (requestId : Bytes) (delayMs : ℤ)
    (autofocus : Bool) :
    P (m.requestCapture config io requestId delayMs autofocus).machine
      (m.requestCapture config io requestId delayMs autofocus).io := by
  by_cases hbusy : (!m.acceptingRequests || m.state != .Armed) = true
  · rw [RemoteStateMachine.requestCapture, if_pos hbusy]
    exact h
  by_cases hrange : (delayMs < 0 || delayMs > config.maxDelayMs) = true
  · rw [RemoteStateMachine.requestCapture, if_neg hbusy, if_pos hrange]
    exact h
  · rw [requestCapture_accepted hbusy hrange]
    exact hP.tick (hP.of_next (hP.nowMs h) (scheduleRequest_nextCommandId _ _ _ _))

lemma cancelCountdown (hP : CameraThreaded P) (h : P m io) :
    P (m.cancelCountdown io).machine (m.cancelCountdown io).io := by
  rw [RemoteStateMachine.cancelCountdown]
  split_ifs
  · exact h
  · exact hP.of_next (hP.cancelFocus h) rfl

lemma setFocus (hP : CameraThreaded P) (h : P m io) (pressed : Bool) :
    P (m.setFocus io pressed).machine (m.setFocus io pressed).io := by
  rw [RemoteStateMachine.setFocus]
  split_ifs
  · exact h
  · have hsend := hP.send (m := { m with standaloneFocus := true, focusSent := true })
      .StartAutofocus (by decide) (hP.of_next h rfl)
    rcases hs : ({ m with standaloneFocus := true, focusSent := true } :
      RemoteStateMachine).send io .StartAutofocus 0 [] with ⟨_ | id, m', io'⟩ <;>
      rw [hs] at hsend <;> simp only [hs]
    · exact hsend
    · exact hP.of_next hsend rfl
  · exact h
  · exact hP.of_next (hP.send .CancelAutofocus (by decide) h) rfl

lemma physicalPress (hP : CameraThreaded P) (h : P m io) :
    P (m.physicalPress config io).machine (m.physicalPress config io).io :=
  hP.beginCapture (m := { m with lastRequestId := bytes "physical", lastError := [] })
    (hP.of_next h rfl) true

lemma physicalShutter (hP : CameraThreaded P) (h : P m io) (pressed : Bool) :
    P (m.physicalShutter config io pressed).machine
      (m.physicalShutter config io pressed).io := by
  rw [RemoteStateMachine.physicalShutter]
  split_ifs
  · exact hP.tick (hP.of_next (hP.nowMs h) rfl)
  · exact h
  · exact h
  · refine hP.physicalPress (hP.of_next (hP.cancelFocus h) ?_)
    rfl
  · exact h
  · exact hP.physicalPress h

lemma reportCommandResult (hP : CameraThreaded P) (h : P m io) (commandId resultCode : ℤ)
    (message : Bytes) : P (m.reportCommandResult commandId resultCode message) io := by
  refine hP.of_next h ?_
  simp only [RemoteStateMachine.reportCommandResult]
  split_ifs <;> rfl

/-- Every operation keeps what is kept by each step of an operation that sends commands for the camera
only. -/
theorem perform (hP : CameraThreaded P) (h : P m io) (op : Op) :
    P (m.perform config io op).machine (m.perform config io op).io := by
  cases op with
  | Start =>
      refine hP.of_next h ?_
      simp only [RemoteStateMachine.perform, start]
      split_ifs <;> rfl
  | Stop =>
      simp only [RemoteStateMachine.perform, stop]
      split_ifs
      · exact h
      · exact hP.of_next (hP.cancelFocus h) rfl
  | SetCameraReady ready | SetWifiReady ready =>
      refine hP.of_next h ?_
      simp only [RemoteStateMachine.perform, setCameraReady, setWifiReady, readinessChanged]
      split_ifs <;> rfl
  | RequestCapture requestId delayMs autofocus =>
      exact hP.requestCapture h requestId delayMs autofocus
  | CancelCountdown => exact hP.cancelCountdown h
  | SetFocus pressed => exact hP.setFocus h pressed
  | PhysicalShutter pressed => exact hP.physicalShutter h pressed
  | Tick => exact hP.tick h
  | ReportCommandResult commandId resultCode message =>
      exact hP.reportCommandResult h commandId resultCode message
  | SetClientCount count => exact hP.of_next h rfl

end CameraThreaded

/-- **Every operation keeps it**: what is threaded through the steps of the operations holds after
each of them. -/
theorem Threaded.perform {P : RemoteStateMachine → Io → Prop} (hP : Threaded P) (h : P m io)
    (op : Op) : P (m.perform config io op).machine (m.perform config io op).io := by
  have hcamera : CameraThreaded P := ⟨hP.of_next, hP.nowMs, fun type _ => hP.send type⟩
  exact hcamera.perform h op

/-- A command takes the next id, whatever becomes of it. -/
lemma send_nextCommandId (m : RemoteStateMachine) (io : Io) (type : CommandType) :
    (m.send io type 0 []).2.1.nextCommandId = m.nextCommandId + 1 := by
  simp only [RemoteStateMachine.send]
  split_ifs <;> rfl

lemma send_trace (m : RemoteStateMachine) (io : Io) (type : CommandType) :
    (m.send io type 0 []).2.2.trace
      = io.trace ++ [.command m.nextCommandId type (io.answers io.sends)] := by
  simp only [RemoteStateMachine.send]
  split_ifs <;> rfl

/-- Inside a call there are only readings of the clock and commands. -/
lemma perform_inner (config : NativeConfig) (m : RemoteStateMachine) (io : Io) (op : Op) :
    ∃ seg, (m.perform config io op).io.trace = io.trace ++ seg ∧ ∀ e ∈ seg, e.Inner := by
  have append : ∀ {io' : Io} {seg : List Event} {e : Event}, e.Inner →
      io'.trace = io.trace ++ seg ∧ (∀ e ∈ seg, e.Inner) →
      ∃ seg', io'.trace ++ [e] = io.trace ++ seg' ∧ ∀ e ∈ seg', e.Inner := by
    intro io' seg e he h
    refine ⟨seg ++ [e], by rw [h.1, List.append_assoc], fun e' he' => ?_⟩
    rcases List.mem_append.mp he' with he' | he'
    · exact h.2 e' he'
    · rw [List.mem_singleton.mp he']
      exact he
  have threaded : Threaded fun _ io' =>
      ∃ seg, io'.trace = io.trace ++ seg ∧ ∀ e ∈ seg, e.Inner := {
    of_next := fun h _ => h
    nowMs := fun ⟨_, h⟩ => append (e := .Clock _) trivial h
    send := fun type ⟨_, h⟩ => by
      rw [send_trace]
      exact append (e := .command _ type _) trivial h }
  exact threaded.perform ⟨[], by simp, by simp⟩ op

/-! ## Readings of the clock -/

/-- The readings of the clock in a trace, in their order. -/
def readings (tr : List Event) : List ℤ :=
  tr.filterMap fun | .Clock now => some now | _ => none

lemma mem_readings {now : ℤ} : now ∈ readings tr ↔ .Clock now ∈ tr := by
  rw [readings, List.mem_filterMap]
  constructor
  · rintro ⟨e, he, hnow⟩
    cases e with
    | Clock _ =>
        obtain rfl := Option.some.inj hnow
        exact he
    | Call _ _ | Sent _ _ | Returned _ _ _ => cases hnow
  · exact fun h => ⟨_, h, rfl⟩

lemma readings_append (tr seg : List Event) : readings (tr ++ seg) = readings tr ++ readings seg :=
  List.filterMap_append

/-! ## Command ids

Ids are given out one by one, so that every command in the trace has a positive id below the next
one.
-/

structure Counted (m : RemoteStateMachine) (io : Io) : Prop where
  next_pos : 0 < m.nextCommandId
  ids : ∀ command accepted, .Sent command accepted ∈ io.trace →
    0 < command.id ∧ command.id < m.nextCommandId

namespace Counted

lemma trace_append {e : Event} (h : Counted m io) (he : ∀ command accepted,
    e ≠ .Sent command accepted) : Counted m { io with trace := io.trace ++ [e] } := by
  refine ⟨h.next_pos, fun command accepted hmem => h.ids command accepted ?_⟩
  rcases List.mem_append.mp hmem with hmem | hmem
  · exact hmem
  · exact absurd (List.mem_singleton.mp hmem).symm (he command accepted)

/-- A command takes the next id, which has not been given out before. -/
lemma send (h : Counted m io) (type : CommandType) :
    Counted (m.send io type 0 []).2.1 (m.send io type 0 []).2.2 := by
  have hpos := h.next_pos
  have hnext := send_nextCommandId m io type
  refine ⟨by omega, fun command accepted hmem => ?_⟩
  rw [send_trace] at hmem
  rw [hnext]
  rcases List.mem_append.mp hmem with hmem | hmem
  · have hid := h.ids command accepted hmem
    omega
  · simp only [Event.command, List.mem_singleton, Event.Sent.injEq] at hmem
    rw [hmem.1]
    exact ⟨hpos, Int.lt_succ _⟩

lemma threaded : Threaded Counted where
  of_next h hn := ⟨hn ▸ h.next_pos, hn ▸ h.ids⟩
  nowMs {m io} h := by
    refine ⟨h.next_pos, fun command accepted hmem => h.ids command accepted ?_⟩
    simpa [Io.nowMs] using hmem
  send type h := h.send type

lemma step (h : Counted m io) (op : Op) :
    Counted (m.step config io op).machine (m.step config io op).io :=
  (threaded.perform (h.trace_append (e := .Call op m) (by simp)) op).trace_append (by simp)

end Counted

/-! ## Histories -/

/-- A run of phases: what every call of a run looks like one level up. -/
inductive History (config : NativeConfig) : List Event → RemoteStateMachine → Phase → Prop
  | init : History config [] {} (.Idle .Stopped)
  | call {tr : List Event} {m m' : RemoteStateMachine} {p p' : Phase} {op : Op} {seg : List Event}
      {ok : Bool} :
      History config tr m p → Rep config m p →
      (∀ command accepted, .Sent command accepted ∈ tr →
        0 < command.id ∧ command.id < m.nextCommandId) →
      op.Allowed tr → Effect config m.nextCommandId p op seg ok p' → Rep config m' p' →
      History config (tr ++ .Call op m :: seg ++ [.Returned op ok m']) m' p'

lemma History.rep {p : Phase} (h : History config tr m p) : Rep config m p := by
  cases h with
  | init => exact rep_init
  | call _ _ _ _ _ hm' => exact hm'

/-- An allowed result is reported for a command with a positive id. -/
lemma Op.Allowed.legal {op : Op} (h : op.Allowed tr)
    (hids : ∀ command accepted, .Sent command accepted ∈ tr → 0 < command.id) : op.legal := by
  cases op with
  | ReportCommandResult commandId resultCode message =>
      obtain ⟨e, he, hcarries⟩ := h
      cases e with
      | Sent command accepted =>
          have hpos := hids command accepted he
          obtain rfl : command.id = commandId := hcarries
          exact fun _ => hpos.ne'
      | Call _ _ | Clock _ | Returned _ _ _ => cases hcarries
  | _ => trivial

/-- **Every run is a history**: the machine it leaves represents the phase that its events lead to,
and all ids were counted up. -/
theorem Run.history (hc : config.Timing) (h : Run config tr m) :
    (∃ p, History config tr m p) ∧ Counted m { clock := 0, answers := fun _ => true, trace := tr } := by
  induction h with
  | init => exact ⟨⟨_, .init⟩, by decide, by simp⟩
  | @call tr m op clock answers hrun hmono hpos hpast hop ih =>
      obtain ⟨⟨p, hist⟩, hcounted⟩ := ih
      let io : Io := { clock, answers, trace := tr }
      have hids := hcounted.ids
      obtain ⟨seg, p', heff, hrep, htrace, -⟩ := step_effect io hc ⟨hmono, hpos⟩ hist.rep op
        (hop.legal fun command accepted hmem => (hids command accepted hmem).1)
      refine ⟨⟨p', ?_⟩, ?_⟩
      · rw [htrace]
        exact .call hist hist.rep hids hop heff hrep
      · have hbefore : Counted m io := ⟨hcounted.next_pos, hids⟩
        have hafter : Counted (m.step config io op).machine (m.step config io op).io :=
          hbefore.step op
        exact ⟨hafter.next_pos, hafter.ids⟩

/-! ## Scripted runs

`play` makes the calls of a script, each with a clock that stands still and a sink that accepts; a
script that is `Playable` makes a run.
-/

/-- The clock stands at `now`, and the sink accepts everything: the world of a call in an example. -/
def Io.still (now : ℤ) (trace : List Event) : Io :=
  { clock := fun _ => now, answers := fun _ => true, trace }

/-- The events and the machine after the calls of a script, each at its time and with everything
accepted. -/
def play (config : NativeConfig) (tr : List Event) (m : RemoteStateMachine) :
    List (ℤ × Op) → List Event × RemoteStateMachine
  | [] => (tr, m)
  | (now, op) :: script =>
      let out := m.step config (Io.still now tr) op
      play config out.io.trace out.machine script

/-- The clock of a script is positive and does not go back, and its operations are allowed. -/
def Playable (config : NativeConfig) (tr : List Event) (m : RemoteStateMachine) :
    List (ℤ × Op) → Prop
  | [] => True
  | (now, op) :: script =>
      let out := m.step config (Io.still now tr) op
      0 < now ∧ (∀ e ∈ tr, e.NotAfter now) ∧ op.Allowed tr ∧
        Playable config out.io.trace out.machine script

instance decidablePlayable (config : NativeConfig) : ∀ (script : List (ℤ × Op)) (tr : List Event)
    (m : RemoteStateMachine), Decidable (Playable config tr m script)
  | [], _, _ => inferInstanceAs (Decidable True)
  | (now, op) :: script, tr, m =>
      have := decidablePlayable config script (m.step config (Io.still now tr) op).io.trace
        (m.step config (Io.still now tr) op).machine
      inferInstanceAs (Decidable (0 < now ∧ (∀ e ∈ tr, e.NotAfter now) ∧ op.Allowed tr ∧
        Playable config (m.step config (Io.still now tr) op).io.trace
          (m.step config (Io.still now tr) op).machine script))

lemma Run.play (script : List (ℤ × Op)) : ∀ {tr : List Event} {m : RemoteStateMachine},
    Run config tr m → Playable config tr m script →
    Run config (play config tr m script).1 (play config tr m script).2 := by
  induction script with
  | nil => exact fun h _ => h
  | cons call script ih =>
      intro tr m h hplay
      obtain ⟨hpos, hpast, hop, hrest⟩ := hplay
      exact ih (h.call call.2 _ _ monotone_const hpos hpast hop) hrest

/-- The shutter button is half-pressed on a machine that is armed, and then `last` happens. -/
def halfPressScript (last : List (ℤ × Op)) : List (ℤ × Op) :=
  [(1, .SetCameraReady true), (1, .SetWifiReady true), (1, .Start), (1000, .SetFocus true)] ++ last

/-! ## What holds between operations -/

/-- **The representation invariant**, field by field: what each state of the machine says about its
other fields. -/
structure RepresentationInvariant (m : RemoteStateMachine) : Prop where
  clear : m.state.resting = true → ScheduleClear m
  ready : m.state = .Armed ∨ m.state = .Focusing ∨ m.state = .Countdown ∨ m.state = .Capturing ∨
    m.state = .Cooldown → Ready m
  stopped : m.state = .Stopped ↔ m.running = false
  countdown : m.state = .Countdown →
    m.focusSent = false ∧ m.captureSent = false ∧ m.standaloneFocus = false
  focusing : m.state = .Focusing →
    m.focusSent = true ∧ m.captureSent = false ∧ m.focusCommandId ≠ 0 ∧
      (m.standaloneFocus ^^ m.autofocusRequested) = true
  capturing : m.state = .Capturing →
    m.captureSent = true ∧ m.captureCommandId ≠ 0 ∧ 0 < m.releaseDeadlineMs ∧
      m.standaloneFocus = false
  cooldown : m.state = .Cooldown →
    m.captureSent = true ∧ m.releaseCommandId ≠ 0 ∧ m.releaseDeadlineMs = 0
  ids : TrackedIds m

lemma Rep.representationInvariant {p : Phase} (hm : Rep config m p) :
    RepresentationInvariant m := by
  cases p with
  | Idle s =>
      have hp : RepIdle m s := hm.phase
      have hrest := hp.resting
      refine ⟨fun _ => hp.clear, ?_, hm.stopped, ?_, ?_, ?_, ?_, hm.ids⟩
      · rintro (h | h | h | h | h)
        · exact hp.ready (hp.state.symm.trans h)
        all_goals
          rw [← hp.state, h] at hrest
          cases hrest
      all_goals
        intro h
        rw [← hp.state, h] at hrest
        cases hrest
  | Countdown plan =>
      have hp : RepCountdown config m plan := hm.phase
      refine ⟨?_, fun _ => hp.ready, hm.stopped, ?_, ?_, ?_, ?_, hm.ids⟩ <;> intro h <;>
        simp [hp.state, RemoteState.resting] at h
      exact ⟨hp.focusSent, hp.captureSent, hp.standaloneFocus⟩
  | Focusing plan f =>
      have hp : RepFocusing config m plan f := hm.phase
      refine ⟨?_, fun _ => hp.ready, hm.stopped, ?_, ?_, ?_, ?_, hm.ids⟩ <;> intro h <;>
        simp [hp.state, RemoteState.resting] at h
      refine ⟨hp.focusSent, hp.captureSent, hp.focusCommandId ▸ hp.focus_ne, ?_⟩
      simp [hp.standaloneFocus, hp.autofocusRequested]
  | HalfPress f =>
      have hp : RepHalfPress m f := hm.phase
      refine ⟨?_, fun _ => hp.ready, hm.stopped, ?_, ?_, ?_, ?_, hm.ids⟩ <;> intro h <;>
        simp [hp.state, RemoteState.resting] at h
      refine ⟨hp.focusSent, hp.captureSent, hp.focusCommandId ▸ hp.focus_ne, ?_⟩
      simp [hp.standaloneFocus, hp.autofocusRequested]
  | Capturing c f ph r cd =>
      have hp : RepCapturing m c f ph r cd := hm.phase
      refine ⟨?_, fun _ => hp.ready, hm.stopped, ?_, ?_, ?_, ?_, hm.ids⟩ <;> intro h <;>
        simp [hp.state, RemoteState.resting] at h
      exact ⟨hp.captureSent, hp.captureCommandId ▸ hp.capture_ne,
        hp.releaseDeadlineMs ▸ hp.release_pos, hp.standaloneFocus⟩
  | Cooldown c f r cd =>
      have hp : RepCooldown m c f r cd := hm.phase
      refine ⟨?_, fun _ => hp.ready, hm.stopped, ?_, ?_, ?_, ?_, hm.ids⟩ <;> intro h <;>
        simp [hp.state, RemoteState.resting] at h
      exact ⟨hp.captureSent, hp.releaseCommandId ▸ hp.release_ne, hp.releaseDeadlineMs⟩

/-- Every machine a run leaves satisfies the invariant, with any port in its configuration: an
instance of the invariant of the phases. -/
theorem reachable_representationInvariant (port : ℤ) (h : Run (configForPort port) tr m) :
    RepresentationInvariant m := by
  obtain ⟨⟨p, hist⟩, -⟩ := h.history (configForPort_timing port)
  exact hist.rep.representationInvariant

/-- A run that has just sent the autofocus of a delayed request, a second before its capture is due.
-/
def focusingScript : List (ℤ × Op) :=
  [(1, .SetCameraReady true), (1, .SetWifiReady true), (1, .Start),
    (1000, .RequestCapture (bytes "a") 2000 true), (2000, .Tick)]

theorem reachable_representationInvariant_focusing :
    (play {} [] {} focusingScript).2.state = .Focusing ∧
      RepresentationInvariant (play {} [] {} focusingScript).2 :=
  ⟨by decide, reachable_representationInvariant 0 (Run.play focusingScript .init (by decide))⟩

end LegacyAlpha
