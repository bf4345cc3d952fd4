import LegacyAlphaRemote.Machine.Interaction
import LegacyAlphaRemote.Machine.Obligations
import LegacyAlphaRemote.Machine.Schedule

/-!
# What an operation says when it fails

Four operations return whether they worked and leave a text in `*error`.  A caller would like to know
three things of them (`ReportsFailures`): that a refused command is always reported, with a text, by
a machine that has failed; that a refusal changes nothing; and that success means that every command
was accepted.

None of them reports a refused command.  `send` puts the machine in the error state and leaves no
text, and `cancelCountdown`, the release of the focus and a press during a countdown do not even look
at its answer.  So the three hold of a call exactly when the sink accepts everything the call has to
send (`reportsFailures_iff`), and what that is can be read off the machine and the clock before the
call (`attempts`).
-/

namespace LegacyAlpha

open RemoteStateMachine

/-! ## What a call has to send -/

/-- The command with which `cancelFocus` gives up a running autofocus: none if no autofocus is
running. -/
def RemoteStateMachine.cancelCommands (m : RemoteStateMachine) : List CommandType :=
  if m.focusSent then [.CancelAutofocus] else []

/-- The commands that a call of one of the four operations has to send, in their order. -/
def RemoteStateMachine.attempts (config : NativeConfig) (m : RemoteStateMachine) (clock : ℕ → ℤ) :
    Op → List CommandType
  | .RequestCapture requestId delayMs autofocus =>
      if (m.acceptingRequests && m.state == .Armed) && (0 ≤ delayMs && delayMs ≤ config.maxDelayMs)
      then
        let plan : Plan := ⟨requestId, delayMs, autofocus, clock 0⟩
        (if autofocus && plan.focusAt config ≤ clock 1 then [.StartAutofocus] else []) ++
          if plan.captureAt config ≤ clock 1 then [.Capture] else []
      else []
  | .CancelCountdown =>
      if !m.captureSent && (m.state == .Countdown || m.state == .Focusing) then m.cancelCommands
      else []
  | .SetFocus true => if m.state == .Armed then [.StartAutofocus] else []
  | .SetFocus false =>
      if m.standaloneFocus && m.state == .Focusing then [.CancelAutofocus] else []
  | .PhysicalShutter true =>
      if m.running && m.cameraReady then
        if m.state == .Countdown || (m.state == .Focusing && !m.standaloneFocus) then
          m.cancelCommands ++ [.Capture]
        else if m.state == .Armed || m.state == .Focusing then [.Capture] else []
      else []
  | .PhysicalShutter false =>
      if m.state == .Capturing && m.physicalCapture && m.releaseDeadlineMs > 0 then
        [.ReleaseShutter]
      else []
  | _ => []

/-- The operations that leave a text in `*error`: those with which the phone and the buttons ask for
something. -/
def Op.explains : Op → Bool
  | .RequestCapture _ _ _ | .CancelCountdown | .SetFocus _ | .PhysicalShutter _ => true
  | _ => false

/-- What a caller would like to know of a call on the machine `m`. -/
structure ReportsFailures (m : RemoteStateMachine) (out : Outcome) : Prop where
  rejected : ¬ AllAccepted out.io.trace → out.ok = false ∧ out.error ≠ [] ∧
    out.machine.state = .Error ∧ ScheduleClear out.machine ∧
    out.machine.lastError = bytes "native command queue full"
  refused : out.ok = false → AllAccepted out.io.trace → out.error ≠ [] ∧ out.machine = m
  accepted : out.ok = true → AllAccepted out.io.trace

variable {config : NativeConfig} {m : RemoteStateMachine} {io io' : Io} {p p' : Phase} {op : Op}
  {seg : List Event} {types : List CommandType}

/-! ## Commands and answers -/

lemma commandTypes_append (seg seg' : List Event) :
    commandTypes (seg ++ seg') = commandTypes seg ++ commandTypes seg' :=
  List.filterMap_append

@[simp] lemma commandTypes_nil : commandTypes [] = [] := rfl

@[simp] lemma commandTypes_clock (now : ℤ) (seg : List Event) :
    commandTypes (.Clock now :: seg) = commandTypes seg := rfl

@[simp] lemma commandTypes_command (id : ℤ) (type : CommandType) (accepted : Bool)
    (seg : List Event) :
    commandTypes (.command id type accepted :: seg) = type :: commandTypes seg := rfl

lemma allAccepted_clock (now : ℤ) (seg : List Event) :
    AllAccepted (.Clock now :: seg) ↔ AllAccepted seg := by
  simp [AllAccepted, Event.Refused]

/-- The sink accepts everything exactly when its next answers all say so. -/
lemma Io.Yields.allAccepted_iff : ∀ {io : Io}, io.Yields seg →
    (AllAccepted seg ↔ ∀ i < (commandTypes seg).length, io.answers (io.sends + i) = true) := by
  induction seg with
  | nil => simp [AllAccepted]
  | cons e seg ih =>
      intro io h
      cases e with
      | Clock now =>
          rw [allAccepted_clock, ih h.2]
          exact Iff.rfl
      | Sent command accepted =>
          obtain ⟨rfl, h⟩ := h
          have hrest : AllAccepted (.Sent command (io.dispatch command).1 :: seg) ↔
              io.answers io.sends = true ∧ AllAccepted seg := by
            simp [AllAccepted, Event.Refused, Io.dispatch]
          have hlength : (commandTypes (.Sent command (io.dispatch command).1 :: seg)).length
              = (commandTypes seg).length + 1 := rfl
          rw [hrest, ih h, hlength]
          constructor
          · rintro ⟨hfirst, hlater⟩ i hi
            cases i with
            | zero => exact hfirst
            | succ i =>
                have hnext := hlater i (by omega)
                rwa [show io.sends + (i + 1) = io.sends + 1 + i by omega]
          · intro hall
            refine ⟨hall 0 (by omega), fun i hi => ?_⟩
            have hnext := hall (i + 1) (by omega)
            rwa [show io.sends + (i + 1) = io.sends + 1 + i by omega] at hnext
      | Call op m | Returned op ok m => exact h.elim

/-- These events are of the commands `types`, of all of them when none is refused. -/
structure Attempted (types : List CommandType) (seg : List Event) : Prop where
  commands : commandTypes seg <+: types
  all : AllAccepted seg → commandTypes seg = types

lemma attempted_of_eq (h : commandTypes seg = types) : Attempted types seg :=
  ⟨h ▸ List.prefix_refl _, fun _ => h⟩

lemma allAccepted_call {ok : Bool} {m' : RemoteStateMachine} :
    AllAccepted (.Call op m :: seg ++ [.Returned op ok m']) ↔ AllAccepted seg := by
  constructor
  · intro h e he
    exact h e (by simp [he])
  · intro h e he
    simp only [List.cons_append, List.mem_cons, List.mem_append, List.not_mem_nil, or_false] at he
    rcases he with rfl | he | rfl
    · exact id
    · exact h e he
    · exact id

lemma Attempted.clock (h : Attempted types seg) (now : ℤ) : Attempted types (.Clock now :: seg) :=
  ⟨h.commands, fun hacc => h.all ((allAccepted_clock now seg).mp hacc)⟩

lemma Attempted.allAccepted_iff (h : Attempted types seg) (hio : io.Yields seg) :
    AllAccepted seg ↔ ∀ i < types.length, io.answers (io.sends + i) = true := by
  constructor
  · intro hacc
    rw [← h.all hacc]
    exact hio.allAccepted_iff.mp hacc
  · intro hall
    exact hio.allAccepted_iff.mpr fun i hi => hall i (hi.trans_le h.commands.length_le)

/-! ## The commands of each operation -/

lemma CaptureEffect.commandTypes {n focus : ℤ} {physical : Bool}
    (h : CaptureEffect config n focus physical seg p') :
    LegacyAlpha.commandTypes seg = [.Capture] := by
  cases h <;> rfl

/-- The tick of a request that has just been stored. -/
lemma TickEffect.attempted {n now : ℤ} {plan : Plan}
    (h : TickEffect config n now (.Countdown plan) seg p') :
    Attempted ((if plan.autofocus && plan.focusAt config ≤ now then [.StartAutofocus] else []) ++
      if plan.captureAt config ≤ now then [.Capture] else []) seg := by
  cases h with
  | rest hdue =>
      obtain ⟨hfocus, hcapture⟩ := not_or.mp hdue
      refine attempted_of_eq ?_
      rw [if_neg (by simpa using hfocus), if_neg hcapture]
      rfl
  | focusRejected ha hfocus =>
      rw [if_pos (by simp [ha, hfocus])]
      exact ⟨List.prefix_append _ _, fun hacc => absurd hacc (not_allAccepted_command _ _)⟩
  | focus ha hfocus hcapture =>
      refine attempted_of_eq ?_
      rw [if_pos (by simp [ha, hfocus]), if_neg (not_le.mpr hcapture)]
      rfl
  | focusCapture ha hfocus hcapture hcap =>
      refine attempted_of_eq ?_
      rw [if_pos (by simp [ha, hfocus]), if_pos hcapture, commandTypes_command, hcap.commandTypes]
      rfl
  | capture ha hcapture hcap =>
      refine attempted_of_eq ?_
      rw [if_neg (by simp [ha]), if_pos hcapture, hcap.commandTypes]
      rfl

lemma send_commandTypes (m : RemoteStateMachine) (io : Io) (type : CommandType) :
    ∃ seg, (m.send io type 0 []).2.2.trace = io.trace ++ seg ∧ commandTypes seg = [type] := by
  rcases hs : m.send io type 0 [] with ⟨_ | id, m', io'⟩
  · exact ⟨_, (send_rejected hs).2.trace, rfl⟩
  · exact ⟨_, (send_accepted hs).2.2.trace, rfl⟩

lemma cancelFocus_commandTypes (m : RemoteStateMachine) (io : Io) :
    ∃ seg, (m.cancelFocus io).2.trace = io.trace ++ seg ∧ commandTypes seg = m.cancelCommands := by
  rw [cancelFocus, cancelCommands]
  split_ifs
  · exact send_commandTypes m io .CancelAutofocus
  · exact ⟨[], by simp, rfl⟩

lemma physicalPress_commandTypes (config : NativeConfig) (m : RemoteStateMachine) (io : Io) :
    ∃ seg, (m.physicalPress config io).io.trace = io.trace ++ seg ∧
      commandTypes seg = [.Capture] := by
  rcases hs : ({ m with
      lastRequestId := bytes "physical", lastError := [], physicalCapture := true
      captureSent := true, standaloneFocus := false } :
    RemoteStateMachine).send io .Capture 0 [] with ⟨_ | id, m', io'⟩ <;>
    simp only [physicalPress, beginCapture, hs]
  · exact ⟨_, (send_rejected hs).2.trace, rfl⟩
  · exact ⟨_, ((send_accepted hs).2.2.trans (Ran.nowMs io')).trace, rfl⟩

lemma requestCapture_attempted (hc : config.Timing) (hio : io.Legal) (hreads : io.reads = 0)
    (hm : Rep config m p) (requestId : Bytes) (delayMs : ℤ) (autofocus : Bool) :
    ∃ seg, (m.requestCapture config io requestId delayMs autofocus).io.trace = io.trace ++ seg ∧
      Attempted (m.attempts config io.clock (.RequestCapture requestId delayMs autofocus)) seg := by
  by_cases hbusy : (!m.acceptingRequests || m.state != .Armed) = true
  · have hnone : ¬ ((m.acceptingRequests && m.state == .Armed) = true) := by
      simp only [Bool.or_eq_true, Bool.not_eq_true', bne_iff_ne] at hbusy
      simp only [Bool.and_eq_true, beq_iff_eq, not_and]
      intro haccept
      exact hbusy.resolve_left (by simp [haccept])
    refine ⟨[], by simp [requestCapture, hbusy], attempted_of_eq ?_⟩
    simp [attempts, hnone]
  by_cases hrange : (delayMs < 0 || delayMs > config.maxDelayMs) = true
  · have hnone : ¬ ((0 ≤ delayMs && delayMs ≤ config.maxDelayMs) = true) := by
      simp only [Bool.or_eq_true, decide_eq_true_eq] at hrange
      simp only [Bool.and_eq_true, decide_eq_true_eq]
      omega
    refine ⟨[], by simp [requestCapture, hbusy, hrange], attempted_of_eq ?_⟩
    simp [attempts, hnone]
  obtain ⟨haccept, harmed⟩ : m.acceptingRequests = true ∧ m.state = .Armed := by simpa using hbusy
  obtain ⟨hd, hd'⟩ : 0 ≤ delayMs ∧ delayMs ≤ config.maxDelayMs := by simpa using hrange
  obtain rfl := hm.eq_armed harmed
  have hready : Ready m := RepIdle.ready hm.phase rfl
  let plan : Plan := ⟨requestId, delayMs, autofocus, io.nowMs.1⟩
  obtain ⟨now, seg, p', -, heff, -, hran⟩ :=
    tick_scheduleRequest plan hc (hio.of_ran (Ran.nowMs io)) hready hm.ids.next_pos hd
      hio.notBefore
  have htrace : (m.requestCapture config io requestId delayMs autofocus).io.trace
      = io.trace ++ .Clock io.nowMs.1 :: .Clock now :: seg := by
    rw [requestCapture_accepted hbusy hrange]
    exact ((Ran.nowMs io).trans hran).trace
  -- the second reading is the one the tick has made
  obtain ⟨hyields, -⟩ :=
    (requestCapture_interactive config m requestId delayMs autofocus).of_trace htrace
  have hnow : io.clock 1 = now := by
    rw [← hyields.2.1]
    simp [Io.nowMs, hreads]
  have hmade : io.clock 0 = io.nowMs.1 := by simp [Io.nowMs, hreads]
  refine ⟨_, htrace, ?_⟩
  rw [attempts, if_pos (by simp [haccept, harmed, hd, hd']), hnow, hmade]
  exact (heff.attempted.clock now).clock io.nowMs.1

lemma physicalShutter_released_attempted (hc : config.Timing) (hio : io.Legal)
    (hm : Rep config m p) :
    ∃ seg, (m.physicalShutter config io false).io.trace = io.trace ++ seg ∧
      commandTypes seg = m.attempts config io.clock (.PhysicalShutter false) := by
  by_cases hheld : (m.state == .Capturing && m.physicalCapture && m.releaseDeadlineMs > 0) = true
  · have hstate : m.state = .Capturing := by
      simp only [Bool.and_eq_true, beq_iff_eq] at hheld
      exact hheld.1.1
    cases p with
    | Capturing c f ph r cd =>
        have hp : RepCapturing m c f ph r cd := hm.phase
        have hm' : Rep config { m with releaseDeadlineMs := io.nowMs.1 }
            (.Capturing c f ph io.nowMs.1 cd) :=
          ⟨{ hp with
              ready := { hp.ready with }, releaseDeadlineMs := rfl, release_pos := hio.nowMs_pos },
            hm.stopped, { hm.ids with }⟩
        obtain ⟨seg, p', heff, -, hran⟩ := tick_effect hc (hio.of_ran (Ran.nowMs io)) hm'
        refine ⟨[.Clock io.nowMs.1] ++ seg, ?_, ?_⟩
        · rw [physicalShutter, if_pos (by simp), if_pos hheld]
          exact ((Ran.nowMs io).trans hran).trace
        rw [attempts, if_pos hheld]
        cases heff with
        | quiet hq => cases hq
        | tick htick =>
            cases htick with
            | rest hdue => exact absurd (hio.notBefore.le_of_mem hran (by simp)) hdue
            | releaseRejected _ | release _ _ | releaseFinish _ _ => rfl
    | Idle s =>
        have hrest := RepIdle.resting hm.phase
        rw [← hm.state_idle, hstate] at hrest
        cases hrest
    | _ => exact absurd (hstate.symm.trans hm.state) (by simp [Phase.state])
  · refine ⟨[], ?_, ?_⟩
    · simp only [physicalShutter, Bool.not_false, if_true, if_neg hheld, List.append_nil]
    · rw [attempts, if_neg hheld]
      rfl

lemma physicalShutter_pressed_attempted (config : NativeConfig) (m : RemoteStateMachine) (io : Io) :
    ∃ seg, (m.physicalShutter config io true).io.trace = io.trace ++ seg ∧
      commandTypes seg = m.attempts config io.clock (.PhysicalShutter true) := by
  rw [attempts, physicalShutter, if_neg (by simp)]
  by_cases hready : (!m.running || !m.cameraReady) = true
  · have hnot : ¬ (m.running && m.cameraReady) = true := by
      cases hrun : m.running <;> cases hcamera : m.cameraReady <;> simp [hrun, hcamera] at hready ⊢
    rw [if_pos hready, if_neg hnot]
    exact ⟨[], by simp, rfl⟩
  have hboth : (m.running && m.cameraReady) = true := by
    cases hrun : m.running <;> cases hcamera : m.cameraReady <;> simp [hrun, hcamera] at hready ⊢
  rw [if_neg hready, if_pos hboth]
  by_cases hpending : (m.state == .Countdown || (m.state == .Focusing && !m.standaloneFocus)) = true
  · rw [if_pos hpending, if_pos hpending]
    obtain ⟨seg, htrace, htypes⟩ := cancelFocus_commandTypes m io
    obtain ⟨seg', htrace', htypes'⟩ :=
      physicalPress_commandTypes config (m.cancelFocus io).1.clearSchedule (m.cancelFocus io).2
    refine ⟨seg ++ seg', ?_, ?_⟩
    · rw [htrace', htrace, List.append_assoc]
    · rw [commandTypes_append, htypes, htypes']
  rw [if_neg hpending, if_neg hpending]
  by_cases hbusy : (m.state != .Armed && !(m.state == .Focusing && m.standaloneFocus)) = true
  · have hnot : ¬ (m.state == .Armed || m.state == .Focusing) = true := by
      intro h
      cases hstate : m.state <;> cases hstand : m.standaloneFocus <;>
        simp [hstate, hstand] at h hbusy hpending
    rw [if_pos hbusy, if_neg hnot]
    exact ⟨[], by simp, rfl⟩
  · have hfree : (m.state == .Armed || m.state == .Focusing) = true := by
      cases hstate : m.state <;> cases hstand : m.standaloneFocus <;>
        simp [hstate, hstand] at hbusy hpending ⊢
    rw [if_neg hbusy, if_pos hfree]
    exact physicalPress_commandTypes config m io

lemma setFocus_commandTypes (config : NativeConfig) (m : RemoteStateMachine) (io : Io)
    (pressed : Bool) :
    ∃ seg, (m.setFocus io pressed).io.trace = io.trace ++ seg ∧
      commandTypes seg = m.attempts config io.clock (.SetFocus pressed) := by
  cases pressed with
  | true =>
      by_cases hstate : m.state = .Armed
      · rw [attempts, if_pos (by simp [hstate]), setFocus, if_pos rfl, if_neg (by simp [hstate])]
        rcases hs : ({ m with standaloneFocus := true, focusSent := true } :
          RemoteStateMachine).send io .StartAutofocus 0 [] with ⟨_ | id, m', io'⟩ <;> simp only [hs]
        · exact ⟨_, (send_rejected hs).2.trace, rfl⟩
        · exact ⟨_, (send_accepted hs).2.2.trace, rfl⟩
      · exact ⟨[], by simp [setFocus, hstate], by simp [attempts, hstate]⟩
  | false =>
      by_cases hcond : (!m.standaloneFocus || m.state != .Focusing) = true
      · have hnot : ¬ (m.standaloneFocus && m.state == .Focusing) = true := by
          cases hstand : m.standaloneFocus <;> simp [hstand] at hcond ⊢
          exact hcond
        exact ⟨[], by simp [setFocus, hcond], by simp [attempts, hnot]⟩
      · obtain ⟨hstand, hstate⟩ : m.standaloneFocus = true ∧ m.state = .Focusing := by
          simpa using hcond
        rw [attempts, if_pos (by simp [hstand, hstate]), setFocus, if_neg (by simp), if_neg hcond]
        exact send_commandTypes m io .CancelAutofocus

lemma cancelCountdown_commandTypes (config : NativeConfig) (m : RemoteStateMachine) (io : Io) :
    ∃ seg, (m.cancelCountdown io).io.trace = io.trace ++ seg ∧
      commandTypes seg = m.attempts config io.clock .CancelCountdown := by
  by_cases hrefuse : (m.captureSent || (m.state != .Countdown && m.state != .Focusing)) = true
  · have hnot : ¬ (!m.captureSent && (m.state == .Countdown || m.state == .Focusing)) = true := by
      intro h
      cases hsent : m.captureSent <;> cases hstate : m.state <;>
        simp [hsent, hstate] at h hrefuse
    exact ⟨[], by simp [cancelCountdown, hrefuse], by simp [attempts, hnot]⟩
  · have hfree : (!m.captureSent && (m.state == .Countdown || m.state == .Focusing)) = true := by
      cases hsent : m.captureSent <;> cases hstate : m.state <;> simp [hsent, hstate] at hrefuse ⊢
    rw [attempts, if_pos hfree, cancelCountdown, if_neg hrefuse]
    exact cancelFocus_commandTypes m io

/-- **A call sends what it has to send**, and all of it unless the sink refuses something. -/
theorem perform_attempted (hc : config.Timing) (hio : io.Legal) (hreads : io.reads = 0)
    (hm : Rep config m p) (hop : op.explains = true) :
    ∃ seg, (m.perform config io op).io.trace = io.trace ++ seg ∧
      Attempted (m.attempts config io.clock op) seg := by
  cases op with
  | RequestCapture requestId delayMs autofocus =>
      exact requestCapture_attempted hc hio hreads hm requestId delayMs autofocus
  | CancelCountdown =>
      obtain ⟨seg, htrace, htypes⟩ := cancelCountdown_commandTypes config m io
      exact ⟨seg, htrace, attempted_of_eq htypes⟩
  | SetFocus pressed =>
      obtain ⟨seg, htrace, htypes⟩ := setFocus_commandTypes config m io pressed
      exact ⟨seg, htrace, attempted_of_eq htypes⟩
  | PhysicalShutter pressed =>
      cases pressed with
      | true =>
          obtain ⟨seg, htrace, htypes⟩ := physicalShutter_pressed_attempted config m io
          exact ⟨seg, htrace, attempted_of_eq htypes⟩
      | false =>
          obtain ⟨seg, htrace, htypes⟩ := physicalShutter_released_attempted hc hio hm
          exact ⟨seg, htrace, attempted_of_eq htypes⟩
  | Start | Stop | Tick => cases hop
  | SetCameraReady _ | SetWifiReady _ | SetClientCount _ | ReportCommandResult _ _ _ => cases hop

/-! ## Texts -/

/-- A text in `*error` is that of a call that was refused at once: it answers `false`, changes
nothing, reads no clock and sends no command. -/
theorem perform_error (config : NativeConfig) (m : RemoteStateMachine) (io : Io) (op : Op)
    (herror : (m.perform config io op).error ≠ []) :
    (m.perform config io op).ok = false ∧ (m.perform config io op).machine = m ∧
      (m.perform config io op).io = io := by
  cases op with
  | RequestCapture requestId delayMs autofocus =>
      simp only [perform] at herror ⊢
      by_cases hbusy : (!m.acceptingRequests || m.state != .Armed) = true
      · simp [requestCapture, hbusy]
      by_cases hrange : (delayMs < 0 || delayMs > config.maxDelayMs) = true
      · simp [requestCapture, hbusy, hrange]
      · rw [requestCapture_accepted hbusy hrange] at herror
        exact absurd rfl herror
  | CancelCountdown =>
      simp only [perform, cancelCountdown] at herror ⊢
      split_ifs at herror ⊢
      · exact ⟨rfl, rfl, rfl⟩
      · exact absurd rfl herror
  | SetFocus pressed =>
      simp only [perform, setFocus] at herror ⊢
      split_ifs at herror ⊢
      · exact ⟨rfl, rfl, rfl⟩
      · rcases hs : ({ m with standaloneFocus := true, focusSent := true } :
          RemoteStateMachine).send io .StartAutofocus 0 [] with ⟨_ | id, m', io'⟩ <;>
          rw [hs] at herror <;> exact absurd rfl herror
      · exact ⟨rfl, rfl, rfl⟩
      · exact absurd rfl herror
  | PhysicalShutter pressed =>
      simp only [perform, physicalShutter] at herror ⊢
      split_ifs at herror ⊢
      · exact absurd rfl herror
      · exact absurd rfl herror
      · exact ⟨rfl, rfl, rfl⟩
      · exact absurd rfl herror
      · exact ⟨rfl, rfl, rfl⟩
      · exact absurd rfl herror
  | _ => exact absurd rfl herror

/-- A call that answers `false` without a text was not refused, and has failed. -/
lemma perform_failed (hop : op.explains = true) (hok : (m.perform config io op).ok = false)
    (herror : (m.perform config io op).error = []) :
    m.state ≠ .Error ∧ (m.perform config io op).machine.state = .Error := by
  have hpress : ∀ {m' : RemoteStateMachine} {io' : Io}, (m'.physicalPress config io').ok = false →
      (m'.physicalPress config io').machine.state = .Error := by
    intro m' io' h
    simpa [physicalPress_ok] using h
  -- the texts of the refusals are not empty
  have htext : bytes "remote is busy" ≠ [] ∧ bytes "delay_ms is out of range" ≠ [] ∧
      bytes "countdown cannot be cancelled" ≠ [] ∧ bytes "focus is not active" ≠ [] ∧
      bytes "camera is not ready" ≠ [] ∧ bytes "camera is busy" ≠ [] := by decide
  obtain ⟨hbusyText, hrangeText, hcancelText, hfocusText, hreadyText, hcameraText⟩ := htext
  cases op with
  | RequestCapture requestId delayMs autofocus =>
      simp only [perform] at hok herror ⊢
      by_cases hbusy : (!m.acceptingRequests || m.state != .Armed) = true
      · rw [requestCapture, if_pos hbusy] at herror
        exact absurd herror hbusyText
      by_cases hrange : (delayMs < 0 || delayMs > config.maxDelayMs) = true
      · rw [requestCapture, if_neg hbusy, if_pos hrange] at herror
        exact absurd herror hrangeText
      rw [requestCapture_accepted hbusy hrange] at hok ⊢
      refine ⟨?_, by simpa using hok⟩
      simp only [Bool.or_eq_true, not_or, bne_iff_ne, not_not] at hbusy
      rw [hbusy.2]
      decide
  | CancelCountdown =>
      simp only [perform, cancelCountdown] at hok herror ⊢
      split_ifs at hok herror ⊢
      exact absurd herror hcancelText
  | SetFocus pressed =>
      simp only [perform, setFocus] at hok herror ⊢
      split_ifs at hok herror ⊢ with hpressed hbusy
      · exact absurd herror hbusyText
      · have hstate : m.state = .Armed := by simpa using hbusy
        refine ⟨by rw [hstate]; decide, ?_⟩
        rcases hs : ({ m with standaloneFocus := true, focusSent := true } :
          RemoteStateMachine).send io .StartAutofocus 0 [] with ⟨_ | id, m', io'⟩
        · obtain ⟨rfl, -⟩ := send_rejected hs
          rfl
        · rw [hs] at hok
          cases hok
      · exact absurd herror hfocusText
  | PhysicalShutter pressed =>
      simp only [perform, physicalShutter] at hok herror ⊢
      split_ifs at hok herror ⊢ with hreleased hheld hready hpending hbusy
      · exact absurd herror hreadyText
      · refine ⟨?_, hpress hok⟩
        intro hstate
        simp [hstate] at hpending
      · exact absurd herror hcameraText
      · refine ⟨?_, hpress hok⟩
        intro hstate
        simp [hstate] at hbusy
  | Start | Stop | Tick => cases hop
  | SetCameraReady _ | SetWifiReady _ | SetClientCount _ | ReportCommandResult _ _ _ => cases hop

/-! ## Without a refusal nothing fails -/

lemma CaptureEffect.state_ne_error {n focus : ℤ} {physical : Bool}
    (h : CaptureEffect config n focus physical seg p') (hacc : AllAccepted seg) :
    p'.state ≠ .Error := by
  cases h with
  | rejected => exact absurd hacc (not_allAccepted_command _ _)
  | accepted now => simp [Phase.state]

lemma TickEffect.state_ne_error {n now : ℤ} (h : TickEffect config n now p seg p')
    (hacc : AllAccepted seg) (hp : p.state ≠ .Error) : p'.state ≠ .Error := by
  cases h with
  | rest _ => exact hp
  | focusRejected _ _ | releaseRejected _ => exact absurd hacc (not_allAccepted_command _ _)
  | focusCapture _ _ _ hcap => exact hcap.state_ne_error hacc.of_cons
  | capture _ _ hcap | captureFocusing _ hcap | captureHalfPress hcap =>
      exact hcap.state_ne_error hacc
  | focus _ _ _ | release _ _ | releaseFinish _ _ | finish _ => simp [Phase.state]

lemma Effect.state_ne_error {n : ℤ} {ok : Bool} (h : Effect config n p op seg ok p')
    (hop : op.explains = true) (hacc : AllAccepted seg) (hp : p.state ≠ .Error) :
    p'.state ≠ .Error := by
  cases h with
  | quiet _ => exact hp
  | lifecycle hlife => cases op <;> simp [Op.lifecycle, Op.explains] at hlife hop
  | stop _ | cameraLost | wifiLost | tick _ | captureFailed _ | captureFailedLate _
  | focusFailed _ => cases hop
  | request _ _ _ htick | unpress _ htick =>
      exact htick.state_ne_error hacc.of_cons.of_cons (by simp [Phase.state])
  | focusRejected => exact absurd hacc (not_allAccepted_command _ _)
  | cancel _ _ | focusPress | focusRelease _ => simp [Phase.state]
  | press _ _ hcap => exact hcap.state_ne_error hacc
  | pressScheduled _ _ hcap => exact hcap.state_ne_error hacc.right

/-! ## The contract -/

/-- **A call keeps the contract exactly when the sink accepts everything it has to send.**  What that
is can be told from the machine and the clock alone.  Where a command is refused, the call answers
`true`, or `false` without a text. -/
theorem reportsFailures_iff (port : ℤ) {tr : List Event} (h : Run (configForPort port) tr m)
    (hop : op.explains = true) (clock : ℕ → ℤ) (hmono : Monotone clock) (hpos : 0 < clock 0)
    (answers : ℕ → Bool) :
    ReportsFailures m (m.step (configForPort port) { clock, answers } op) ↔
      ∀ i < (m.attempts (configForPort port) clock op).length, answers i = true := by
  have hc := configForPort_timing port
  obtain ⟨⟨p, hist⟩, -⟩ := h.history hc
  have hm := hist.rep
  let io : Io := { clock, answers, trace := [.Call op m] }
  have hlegal : io.Legal := ⟨hmono, hpos⟩
  obtain ⟨seg, htrace, hattempted⟩ := perform_attempted hc hlegal rfl hm hop
  have hstep : (m.step (configForPort port) { clock, answers } op).io.trace =
      .Call op m :: seg ++ [.Returned op (m.perform (configForPort port) io op).ok
        (m.perform (configForPort port) io op).machine] := by
    show (m.perform (configForPort port) io op).io.trace ++ _ = _
    rw [htrace]
    rfl
  have haccepted : AllAccepted (m.step (configForPort port) { clock, answers } op).io.trace ↔
      AllAccepted seg := by
    rw [hstep]
    exact allAccepted_call
  have hyields := ((perform_interactive (configForPort port) m op).of_trace htrace).1
  have hcondition := hattempted.allAccepted_iff hyields
  simp only [Nat.zero_add, io] at hcondition
  rw [← hcondition]
  constructor
  · -- a refused command leaves no text
    intro hcontract
    by_contra hrefused
    obtain ⟨-, herror, -⟩ := hcontract.rejected (haccepted.not.mpr hrefused)
    obtain ⟨-, -, hio⟩ := perform_error (configForPort port) m io op herror
    have hseg : seg = [] := by
      rw [hio] at htrace
      simpa using htrace
    rw [hseg] at hrefused
    exact hrefused (by simp [AllAccepted])
  · intro hacc
    refine ⟨fun hrejected => absurd (haccepted.mpr hacc) hrejected, fun hok _ => ?_,
      fun _ => haccepted.mpr hacc⟩
    have herror : (m.perform (configForPort port) io op).error ≠ [] := by
      intro hnone
      have hfailed : (m.perform (configForPort port) io op).ok = false := hok
      obtain ⟨hbefore, hafter⟩ := perform_failed hop hfailed hnone
      obtain ⟨seg', p', heff, hrep, hran⟩ := perform_effect io hc hlegal hm op
        (by cases op <;> trivial)
      obtain rfl := List.append_cancel_left (htrace.symm.trans hran.trace)
      rw [hm.state] at hbefore
      rw [hrep.state] at hafter
      exact heff.state_ne_error hop hacc hbefore hafter
    exact ⟨herror, (perform_error (configForPort port) m io op herror).2.1⟩

/-- The focus is released in a half-press while the sink accepts everything. -/
theorem reportsFailures_halfPress :
    ReportsFailures (play {} [] {} (halfPressScript [])).2
      ((play {} [] {} (halfPressScript [])).2.step {} { clock := fun _ => 2000
                                                        answers := fun _ => true }
        (.SetFocus false)) :=
  (reportsFailures_iff 0 (Run.play (halfPressScript []) .init (by decide)) rfl _ monotone_const
    (by norm_num) _).mpr fun _ _ => rfl

/-- The sink refuses to cancel the autofocus of a countdown.  `cancelCountdown` does not look at the
answer, and returns `true`. -/
theorem not_reportsFailures_cancel :
    Run {} (play {} [] {} focusingScript).1 (play {} [] {} focusingScript).2 ∧
      ¬ ReportsFailures (play {} [] {} focusingScript).2
        ((play {} [] {} focusingScript).2.step {} { clock := fun _ => 2500
                                                    answers := fun _ => false }
          .CancelCountdown) := by
  refine ⟨Run.play focusingScript .init (by decide), fun hcontract => ?_⟩
  have hanswer := (hcontract.rejected (by decide)).1
  revert hanswer
  decide

end LegacyAlpha
