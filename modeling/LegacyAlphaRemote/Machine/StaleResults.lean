import LegacyAlphaRemote.Machine.Justification

/-!
# Late results

The camera answers commands when it likes, and by then their schedule may be over.  The machine has
only the id of the command to go by: it compares it with the ids of the commands it waits for, and
sets those to zero whenever the schedule is cleared.

Ids are never given out twice (`Numbered`), and the ids the machine waits for are those of commands
that were accepted and whose schedule has not been cleared since (`Awaited`).  So a result for any
other command changes nothing (`staleResultsInert`).  None of it depends on the clock or on the
results being reported honestly, so the runs here are free ones.
-/

namespace LegacyAlpha

open RemoteStateMachine TraceLogic

/-! ## Cleared schedules -/

/-- The schedule is cleared here: the sink refuses a command and the machine fails, a press cuts a
countdown or a scheduled autofocus short, or a call returns with nothing scheduled any more, be it
that the cooldown is over, the countdown cancelled, the focus released, the camera or the Wi-Fi lost,
the machine stopped or failed. -/
def Event.Clears : Event → Prop
  | .Sent _ accepted => accepted = false
  | .Call (.PhysicalShutter true) before => before.running = true ∧ before.cameraReady = true ∧
      (before.state = .Countdown ∨ (before.state = .Focusing ∧ before.standaloneFocus = false))
  | .Returned _ _ after => ScheduleClear after
  | _ => False

/-- The schedule of a command, which the sink took or did not take, has been cleared by now; `since`
is what came after the command. -/
def Cleared (accepted : Bool) (since : List Event) : Prop :=
  accepted = false ∨ ∃ e ∈ since, e.Clears

/-- **Stale results are inert**: ids are positive and given out once, and a result for a command
whose schedule has been cleared, or for the end of an autofocus, leaves the machine as it is. -/
structure StaleResultsInert (tr : List Event) (m : RemoteStateMachine) : Prop where
  positive : ∀ id ∈ sentIds tr, 0 < id
  distinct : (sentIds tr).Nodup
  inert : ∀ past command accepted since, tr = past ++ .Sent command accepted :: since →
    command.type = .CancelAutofocus ∨ Cleared accepted since →
    ∀ resultCode message, m.reportCommandResult command.id resultCode message = m

variable {config : NativeConfig} {m m' : RemoteStateMachine} {io : Io} {op : Op} {tr : List Event}
  {e : Event} {id : ℤ}

@[simp] lemma clears_command (id : ℤ) (type : CommandType) (accepted : Bool) :
    (Event.command id type accepted).Clears ↔ accepted = false := Iff.rfl

@[simp] lemma clears_clock (now : ℤ) : (Event.Clock now).Clears ↔ False := Iff.rfl

@[simp] lemma clears_returned (op : Op) (ok : Bool) (m : RemoteStateMachine) :
    (Event.Returned op ok m).Clears ↔ ScheduleClear m := Iff.rfl

/-! ## Ids are given out once -/

/-- Every id in the trace has been given out, and none of them twice. -/
def Numbered (m : RemoteStateMachine) (io : Io) : Prop :=
  Counted m io ∧ (sentIds io.trace).Nodup

lemma sentIds_append (es fs : List Event) : sentIds (es ++ fs) = sentIds es ++ sentIds fs :=
  List.filterMap_append

lemma Counted.lt_next (h : Counted m io) (hid : id ∈ sentIds io.trace) :
    0 < id ∧ id < m.nextCommandId := by
  obtain ⟨e, he, hcarries⟩ := mem_sentIds.mp hid
  cases e with
  | Sent command accepted =>
      obtain rfl : command.id = id := hcarries
      exact h.ids command accepted he
  | Call _ _ | Clock _ | Returned _ _ _ => cases hcarries

lemma Numbered.trace_append (h : Numbered m io) (he : ∀ command accepted,
    e ≠ .Sent command accepted) : Numbered m { io with trace := io.trace ++ [e] } := by
  refine ⟨h.1.trace_append he, ?_⟩
  have hnone : sentIds [e] = [] := by
    cases e with
    | Sent command accepted => exact absurd rfl (he command accepted)
    | _ => rfl
  simpa only [sentIds_append, hnone, List.append_nil] using h.2

lemma Numbered.threaded : Threaded Numbered where
  of_next h hn := ⟨Counted.threaded.of_next h.1 hn, h.2⟩
  nowMs h := ⟨Counted.threaded.nowMs h.1, (h.trace_append (e := .Clock _) (by simp)).2⟩
  send {m io} type h := by
    refine ⟨h.1.send type, ?_⟩
    have hnew : m.nextCommandId ∉ sentIds io.trace :=
      fun hmem => absurd (h.1.lt_next hmem).2 (lt_irrefl _)
    rw [send_trace, sentIds_append]
    exact h.2.append (List.nodup_singleton _) (by simpa [sentIds, Event.command] using hnew)

lemma Numbered.step (h : Numbered m io) (op : Op) :
    Numbered (m.step config io op).machine (m.step config io op).io :=
  (threaded.perform (h.trace_append (e := .Call op m) (by simp)) op).trace_append (by simp)

/-- **Ids are given out once**: in a free run, every command in the trace has an id of its own, below
the next one to be given out. -/
theorem FreeRun.numbered (h : FreeRun config tr m) :
    Numbered m { clock := 0, answers := fun _ => true, trace := tr } := by
  induction h with
  | init => exact ⟨⟨by decide, by simp⟩, List.nodup_nil⟩
  | @call tr m op clock answers hrun ih =>
      have hbefore : Numbered m { clock, answers, trace := tr } :=
        ⟨⟨ih.1.next_pos, ih.1.ids⟩, ih.2⟩
      have hafter : Numbered _ (m.step config { clock, answers, trace := tr } op).io :=
        hbefore.step op
      exact ⟨⟨hafter.1.next_pos, hafter.1.ids⟩, hafter.2⟩

/-! ## The ids the machine waits for -/

/-- The ids that results are compared with; `0` stands for none, as no command has that id. -/
def RemoteStateMachine.awaited (m : RemoteStateMachine) : List ℤ :=
  [m.captureCommandId, m.focusCommandId, m.releaseCommandId]

/-- A command whose result the machine may wait for, until the schedule is cleared. -/
def awaitedResult : Obligation Event where
  opens e := ∃ command, e = .Sent command true ∧ command.type ≠ .CancelAutofocus
  answers _ e := e.Clears
  due _ := False

/-- The trace has a command of this id whose schedule has not been cleared since. -/
def Waiting (tr : List Event) (id : ℤ) : Prop := ∃ o ∈ awaitedResult.pending tr, o.Carries id

/-- Every id the machine waits for is that of a command whose schedule has not been cleared since. -/
def Awaited (m : RemoteStateMachine) (io : Io) : Prop :=
  ∀ id ∈ m.awaited, id ≠ 0 → Waiting io.trace id

lemma Waiting.append (h : Waiting tr id) (he : ¬ e.Clears) : Waiting (tr ++ [e]) id := by
  obtain ⟨o, ho, hcarries⟩ := h
  refine ⟨o, ?_, hcarries⟩
  rw [Obligation.pending_concat]
  exact Or.inr ⟨ho, he⟩

lemma waiting_command (tr : List Event) {type : CommandType} (htype : type ≠ .CancelAutofocus) :
    Waiting (tr ++ [.command id type true]) id := by
  refine ⟨.command id type true, ?_, rfl⟩
  rw [Obligation.pending_concat]
  exact Or.inl ⟨⟨_, rfl, htype⟩, rfl⟩

namespace Awaited

/-- With nothing scheduled no result is waited for. -/
lemma of_clear (hm : ScheduleClear m) (io : Io) : Awaited m io := by
  intro id hid hne
  simp only [RemoteStateMachine.awaited, hm.captureCommandId, hm.focusCommandId,
    hm.releaseCommandId, List.mem_cons, List.not_mem_nil, or_false, or_self] at hid
  exact absurd hid hne

/-- An operation that leaves these ids as they are, as `setClientCount`, and does not touch the trace,
keeps what is awaited. -/
lemma of_awaited (h : Awaited m io) (hm : m'.awaited = m.awaited) : Awaited m' io := by
  intro id hid
  exact h id (hm ▸ hid)

lemma trace_append (h : Awaited m io) (he : ¬ e.Clears) :
    Awaited m { io with trace := io.trace ++ [e] } :=
  fun id hid hne => (h id hid hne).append he

lemma nowMs (h : Awaited m io) : Awaited m io.nowMs.2 := h.trace_append (by simp)

/-- An accepted command, before the machine stores its id. -/
lemma send_accepted {io' : Io} {type : CommandType}
    (hs : m.send io type 0 [] = (some id, m', io')) (h : Awaited m io) :
    Awaited m' io' ∧ (type ≠ .CancelAutofocus → Waiting io'.trace id) := by
  obtain ⟨rfl, rfl, hran⟩ := LegacyAlpha.send_accepted hs
  refine ⟨fun id hid hne => ?_, fun htype => ?_⟩
  · rw [hran.trace]
    exact (h id hid hne).append (by simp)
  · rw [hran.trace]
    exact waiting_command io.trace htype

/-- A refused command clears the schedule, so that no result is awaited any more. -/
lemma send_rejected {io' : Io} {type : CommandType}
    (hs : m.send io type 0 [] = (none, m', io')) : ScheduleClear m' := by
  obtain ⟨rfl, -⟩ := LegacyAlpha.send_rejected hs
  exact { scheduleClear_clearSchedule m with }

lemma send (h : Awaited m io) (type : CommandType) :
    Awaited (m.send io type 0 []).2.1 (m.send io type 0 []).2.2 := by
  rcases hs : m.send io type 0 [] with ⟨_ | id, m', io'⟩
  · exact of_clear (send_rejected hs) io'
  · exact (send_accepted hs h).1

/-- The machine stores the id of a command. -/
lemma store (h : Awaited m io) (hid : Waiting io.trace id)
    (hm : ∀ i ∈ m'.awaited, i = id ∨ i ∈ m.awaited) : Awaited m' io := by
  intro i hi hne
  rcases hm i hi with rfl | hi
  · exact hid
  · exact h i hi hne

lemma beginCapture (h : Awaited m io) (physical : Bool) :
    Awaited (m.beginCapture config io physical).1 (m.beginCapture config io physical).2 := by
  rcases hs : ({ m with physicalCapture := physical, captureSent := true, standaloneFocus := false } :
    RemoteStateMachine).send io .Capture 0 [] with ⟨_ | id, m', io'⟩ <;>
    simp only [RemoteStateMachine.beginCapture, hs]
  · exact of_clear (send_rejected hs) io'
  · obtain ⟨h', hid⟩ := send_accepted hs (h.of_awaited rfl)
    refine (h'.store (hid (by decide)) fun i hi => ?_).nowMs
    simp only [RemoteStateMachine.awaited, transition, List.mem_cons, List.not_mem_nil,
      or_false] at hi ⊢
    tauto

lemma tickCooldown (h : Awaited m io) (now : ℤ) :
    Awaited (tickCooldown now m io).1 (tickCooldown now m io).2 := by
  rw [RemoteStateMachine.tickCooldown]
  split_ifs
  · exact of_clear { scheduleClear_clearSchedule m with } io
  · exact h

lemma tickRelease (h : Awaited m io) (now : ℤ) :
    Awaited (tickRelease now m io).1 (tickRelease now m io).2 := by
  rw [RemoteStateMachine.tickRelease]
  split_ifs
  · rcases hs : ({ m with releaseDeadlineMs := 0 } : RemoteStateMachine).send io .ReleaseShutter 0 []
      with ⟨_ | id, m', io'⟩ <;> simp only [hs]
    · exact of_clear (send_rejected hs) io'
    · obtain ⟨h', hid⟩ := send_accepted hs (h.of_awaited rfl)
      refine (h'.store (hid (by decide)) fun i hi => ?_).tickCooldown now
      simp only [RemoteStateMachine.awaited, transition, List.mem_cons, List.not_mem_nil,
        or_false] at hi ⊢
      tauto
  · exact h.tickCooldown now

lemma tickCapture (h : Awaited m io) (now : ℤ) :
    Awaited (tickCapture config now m io).1 (tickCapture config now m io).2 := by
  rw [RemoteStateMachine.tickCapture]
  split_ifs
  · exact (h.beginCapture false).tickRelease now
  · exact h.tickRelease now

lemma tickFocus (h : Awaited m io) (now : ℤ) :
    Awaited (tickFocus config now m io).1 (tickFocus config now m io).2 := by
  rw [RemoteStateMachine.tickFocus]
  split_ifs
  · rcases hs : ({ m with focusSent := true } : RemoteStateMachine).send io .StartAutofocus 0 []
      with ⟨_ | id, m', io'⟩ <;> simp only [hs]
    · exact of_clear (send_rejected hs) io'
    · obtain ⟨h', hid⟩ := send_accepted hs (h.of_awaited rfl)
      refine (h'.store (hid (by decide)) fun i hi => ?_).tickCapture now
      simp only [RemoteStateMachine.awaited, transition, List.mem_cons, List.not_mem_nil,
        or_false] at hi ⊢
      tauto
  · exact h.tickCapture now

lemma tick (h : Awaited m io) : Awaited (m.tick config io).1 (m.tick config io).2 := by
  rw [RemoteStateMachine.tick]
  split_ifs
  · exact h
  · exact h.nowMs.tickFocus _

lemma requestCapture (h : Awaited m io) (requestId : Bytes) (delayMs : ℤ) (autofocus : Bool) :
    Awaited (m.requestCapture config io requestId delayMs autofocus).machine
      (m.requestCapture config io requestId delayMs autofocus).io := by
  by_cases hbusy : (!m.acceptingRequests || m.state != .Armed) = true
  · rw [RemoteStateMachine.requestCapture, if_pos hbusy]
    exact h
  by_cases hrange : (delayMs < 0 || delayMs > config.maxDelayMs) = true
  · rw [RemoteStateMachine.requestCapture, if_neg hbusy, if_pos hrange]
    exact h
  · rw [requestCapture_accepted hbusy hrange]
    have hclear : Awaited m.clearSchedule io.nowMs.2 := of_clear (scheduleClear_clearSchedule m) _
    refine (hclear.of_awaited ?_).tick
    simp only [scheduleRequest]
    split_ifs <;> rfl

lemma setFocus (h : Awaited m io) (pressed : Bool) :
    Awaited (m.setFocus io pressed).machine (m.setFocus io pressed).io := by
  rw [RemoteStateMachine.setFocus]
  split_ifs
  · exact h
  · rcases hs : ({ m with standaloneFocus := true, focusSent := true } :
      RemoteStateMachine).send io .StartAutofocus 0 [] with ⟨_ | id, m', io'⟩ <;> simp only [hs]
    · exact of_clear (send_rejected hs) io'
    · obtain ⟨h', hid⟩ := send_accepted hs (h.of_awaited rfl)
      refine h'.store (hid (by decide)) fun i hi => ?_
      simp only [RemoteStateMachine.awaited, transition, List.mem_cons, List.not_mem_nil,
        or_false] at hi ⊢
      tauto
  · exact h
  · exact of_clear
      { scheduleClear_clearSchedule (m.send io .CancelAutofocus 0 []).2.1 with } _

lemma physicalPress (h : Awaited m io) :
    Awaited (m.physicalPress config io).machine (m.physicalPress config io).io :=
  beginCapture (m := { m with lastRequestId := bytes "physical", lastError := [] })
    (h.of_awaited rfl) true

/-- A press clears the schedule it cuts short, so that what was waited for before does not matter
then. -/
lemma physicalShutter (pressed : Bool)
    (h : ¬ (Event.Call (.PhysicalShutter pressed) m).Clears → Awaited m io) :
    Awaited (m.physicalShutter config io pressed).machine
      (m.physicalShutter config io pressed).io := by
  cases pressed with
  | false =>
      rw [RemoteStateMachine.physicalShutter]
      split_ifs
      · exact tick ((h id).nowMs.of_awaited rfl)
      · exact h id
      all_goals contradiction
  | true =>
      rw [RemoteStateMachine.physicalShutter]
      split_ifs with hpress _ hready hsched hbusy
      · cases hpress
      · cases hpress
      · refine h fun hclears => ?_
        simp [hclears.1, hclears.2.1] at hready
      · have hclear : ScheduleClear (m.cancelFocus io).1.clearSchedule :=
          scheduleClear_clearSchedule _
        exact (of_clear hclear _).physicalPress
      · refine h fun hclears => hsched ?_
        simpa using hclears.2.2
      · refine (h fun hclears => hsched ?_).physicalPress
        simpa using hclears.2.2

lemma perform (op : Op) (h : ¬ (Event.Call op m).Clears → Awaited m io) :
    Awaited (m.perform config io op).machine (m.perform config io op).io := by
  cases op with
  | Start =>
      simp only [RemoteStateMachine.perform, start]
      split_ifs
      · exact h id
      · exact of_clear { scheduleClear_clearSchedule m with } io
      · exact of_clear { scheduleClear_clearSchedule m with } io
  | Stop =>
      simp only [RemoteStateMachine.perform, stop]
      split_ifs
      · exact h id
      · exact of_clear { scheduleClear_clearSchedule m with } _
  | SetCameraReady ready | SetWifiReady ready =>
      simp only [RemoteStateMachine.perform, setCameraReady, setWifiReady, readinessChanged]
      split_ifs
      · exact (h id).of_awaited rfl
      · exact of_clear { scheduleClear_clearSchedule m with } io
      · exact (h id).of_awaited rfl
      · exact (h id).of_awaited rfl
  | RequestCapture requestId delayMs autofocus =>
      exact (h id).requestCapture requestId delayMs autofocus
  | CancelCountdown =>
      simp only [RemoteStateMachine.perform, cancelCountdown]
      split_ifs
      · exact h id
      · exact of_clear { scheduleClear_clearSchedule m with } _
  | SetFocus pressed => exact (h id).setFocus pressed
  | PhysicalShutter pressed => exact physicalShutter pressed h
  | Tick => exact (h id).tick
  | ReportCommandResult commandId resultCode message =>
      simp only [RemoteStateMachine.perform, reportCommandResult]
      split_ifs
      -- the machine fails, the autofocus fails, or at most the text of the last error changes
      all_goals first
        | exact of_clear { scheduleClear_clearSchedule m with } io
        | exact (h id).of_awaited rfl
  | SetClientCount count => exact (h id).of_awaited rfl

/-- **Every call keeps it**, also one by which the schedule is cleared: then no id is awaited. -/
theorem step (h : Awaited m io) (op : Op) :
    Awaited (m.step config io op).machine (m.step config io op).io := by
  have hbody : Awaited (m.perform config { io with trace := io.trace ++ [.Call op m] } op).machine
      (m.perform config { io with trace := io.trace ++ [.Call op m] } op).io :=
    perform op fun hcall => h.trace_append hcall
  by_cases hclear : ScheduleClear (m.step config io op).machine
  · exact of_clear hclear _
  · exact hbody.trace_append hclear

end Awaited

lemma FreeRun.awaited (h : FreeRun config tr m) :
    Awaited m { clock := 0, answers := fun _ => true, trace := tr } := by
  induction h with
  | init => exact Awaited.of_clear (by constructor <;> rfl) _
  | @call tr m op clock answers hrun ih =>
      have hbefore : Awaited m { clock, answers, trace := tr } := ih
      exact hbefore.step op

/-! ## Stale results -/

/-- A result the machine does not wait for. -/
lemma reportCommandResult_of_not_awaited (h : id ∉ m.awaited) (resultCode : ℤ) (message : Bytes) :
    m.reportCommandResult id resultCode message = m := by
  simp only [RemoteStateMachine.awaited, List.mem_cons, List.not_mem_nil, or_false, not_or] at h
  obtain ⟨hcapture, hfocus, hrelease⟩ := h
  simp [reportCommandResult, hcapture, hfocus, hrelease]

lemma sentIds_cons_of_carries {o : Event} (h : o.Carries id) (es : List Event) :
    sentIds (o :: es) = id :: sentIds es := by
  cases o with
  | Sent command accepted =>
      obtain rfl : command.id = id := h
      rfl
  | Call _ _ | Clock _ | Returned _ _ _ => cases h

/-- A command is found in the trace by its id. -/
lemma eq_of_carries {past past' since since' : List Event} {o o' : Event}
    (hnodup : (sentIds (past ++ o :: since)).Nodup) (h : past ++ o :: since = past' ++ o' :: since')
    (hid : o.Carries id) (hid' : o'.Carries id) : o = o' ∧ since = since' := by
  have hmem' : ∀ {es fs : List Event}, id ∈ sentIds (es ++ o' :: fs) := by
    intro es fs
    rw [sentIds_append, sentIds_cons_of_carries hid']
    exact List.mem_append_right _ List.mem_cons_self
  rw [sentIds_append, sentIds_cons_of_carries hid, List.nodup_append] at hnodup
  obtain ⟨-, hsince, hpast⟩ := hnodup
  rcases List.append_eq_append_iff.mp h with ⟨l, rfl, hl⟩ | ⟨l, rfl, hl⟩
  · cases l with
    | nil => exact List.cons.inj hl
    | cons x l =>
        obtain ⟨-, rfl⟩ := List.cons.inj hl
        exact absurd hmem' (List.nodup_cons.mp hsince).1
  · cases l with
    | nil =>
        obtain ⟨ho, hs⟩ := List.cons.inj hl
        exact ⟨ho.symm, hs.symm⟩
    | cons x l =>
        obtain ⟨rfl, -⟩ := List.cons.inj hl
        exact absurd rfl (hpast id hmem' id List.mem_cons_self)

/-- A command whose schedule has been cleared is not waited for. -/
lemma not_waiting_of_cleared {past since : List Event} {command : NativeCommand} {accepted : Bool}
    (hnodup : (sentIds tr).Nodup) (htr : tr = past ++ .Sent command accepted :: since)
    (hstale : command.type = .CancelAutofocus ∨ Cleared accepted since) :
    ¬ Waiting tr command.id := by
  rintro ⟨o, ⟨⟨command', rfl, htype⟩, past', since', htr', hlive⟩, hcarries⟩
  subst htr
  obtain ⟨hsame, rfl⟩ := eq_of_carries hnodup htr' rfl hcarries
  obtain ⟨rfl, rfl⟩ := Event.Sent.inj hsame
  rcases hstale with hcancel | haccepted | ⟨e, he, hclears⟩
  · exact htype hcancel
  · cases haccepted
  · exact hlive e he hclears

/-- **Late results are inert.**  Whatever the environment does, ids are positive and given out once,
and a result for a command whose schedule has been cleared since, or for the end of an autofocus,
changes nothing, be it reported now or after any further calls. -/
theorem staleResultsInert (h : FreeRun config tr m) : StaleResultsInert tr m := by
  have hnumbered := h.numbered
  refine ⟨fun id hid => (hnumbered.1.lt_next hid).1, hnumbered.2, ?_⟩
  intro past command accepted since htr hstale resultCode message
  refine reportCommandResult_of_not_awaited (fun hid => ?_) resultCode message
  have hpos : 0 < command.id := (hnumbered.1.ids command accepted (by simp [htr])).1
  exact not_waiting_of_cleared hnumbered.2 htr hstale (h.awaited _ hid hpos.ne')

/-- The result of an autofocus comes after its countdown has been cancelled, and is inert then. -/
theorem staleResultsInert_cancelled :
    (play {} [] {} (focusingScript ++ [(2100, .CancelCountdown)])).2.state = .Armed ∧
      StaleResultsInert (play {} [] {} (focusingScript ++ [(2100, .CancelCountdown)])).1
        (play {} [] {} (focusingScript ++ [(2100, .CancelCountdown)])).2 :=
  ⟨by decide, staleResultsInert (Run.play _ .init (by decide)).free⟩

end LegacyAlpha
