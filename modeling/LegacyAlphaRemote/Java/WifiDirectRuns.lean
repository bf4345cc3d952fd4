import LegacyAlphaRemote.Java.WifiDirectController

/-!
# What the controller of the network promises

Two properties of every run, whatever the managers answer and whenever the broadcasts come.

**Readiness.**  The listener is told that the network is ready only after a group has been created in
the session (`ReadyJustified`).  Every handler looks at the controller before it says so, but for the
one for a station that connects; `readyJustified_iff` says that this one must not be called before.

**Requests.**  One group is asked for at a time (`groupRequest`).  What keeps `createGroup` from asking
again is set when a group has been created, so that until then every broadcast of an enabled radio
makes it ask once more; `oneRequest_iff` says that nothing else does.
-/

namespace LegacyAlpha

open TraceLogic

variable {present : Present} {steps past : List WifiStep} {c : WifiDirectController} {s : WifiStep}
  {managers : Managers} {op : WifiOp}

/-! ## Readiness -/

/-- The listener is told that the network is ready. -/
def WifiCall.ready : WifiCall → Bool
  | .OnWifiInfo ready _ _ _ _ _ => ready
  | _ => false

/-- The step begins a session: a start that does something. -/
def WifiStep.Begins (s : WifiStep) : Prop := s.op = .Start ∧ s.before.started = false

/-- In the step the success of a group is received, with its configuration. -/
def WifiStep.CreatesGroup (s : WifiStep) : Prop :=
  ∃ configuration, s.op = .Receive (.GroupSuccess (some configuration))

/-- The success of a group has been received since the last session began. -/
def GroupReceived (steps : List WifiStep) : Prop :=
  Latched WifiStep.CreatesGroup WifiStep.Begins steps

/-- **Readiness means a group**: the listener is told that the network is ready only in a session, after
a group has been created in it. -/
def ReadyJustified (steps : List WifiStep) : Prop :=
  Always (fun past s => s.calls.any WifiCall.ready = true →
    s.after.started = true ∧ GroupReceived (past ++ [s])) steps

/-- No station connects before the success of a group has been received. -/
def StationsLater (steps : List WifiStep) : Prop :=
  Always (fun past s => s.op = .Receive .StationConnected → GroupReceived past) steps

lemma not_ready_of_attempts {calls : List WifiCall} (h : ∀ call ∈ calls, call.Attempts) :
    calls.any WifiCall.ready = false := by
  rw [List.any_eq_false]
  intro call hcall
  have hattempts := h call hcall
  cases call with
  | OnWifiInfo ready _ _ _ _ _ =>
      have hready : ready = false := hattempts
      simp [WifiCall.ready, hready]
  | SetWifiEnabled _ _ | SetDirectEnabled _ _ | StartGo _ _ | RemoveGroup _ =>
      simp [WifiCall.ready]

namespace WifiDirectController

lemma stop_ready (c : WifiDirectController) (present : Present) (managers : Managers) :
    (c.stop present managers).calls.any WifiCall.ready = false := by
  rw [stop]
  split_ifs
  · rfl
  · simp only [List.any_append]
    split_ifs <;> rfl

/-- Who says that the network is ready. -/
lemma step_ready (c : WifiDirectController) (present : Present) (managers : Managers) (op : WifiOp) :
    (c.step present managers op).calls.any WifiCall.ready = true ↔
      (c.started = true ∧ ∃ configuration, op = .Receive (.GroupSuccess (some configuration))) ∨
        op = .Receive .StationConnected ∨
        (op = .Receive .StationDisconnected ∧ c.groupStarted = true) := by
  cases op with
  | Start => simp [step, perform, not_ready_of_attempts (c.start_attempts present managers)]
  | Stop => simp [step, perform, stop_ready]
  | Receive broadcast =>
      cases broadcast with
      | WifiState enabled =>
          cases hany : c.started && enabled <;>
            simp [step, perform, receive, hany,
              not_ready_of_attempts (c.enableDirect_attempts managers 0)]
      | DirectState enabled =>
          cases hany : c.started && enabled <;>
            simp [step, perform, receive, hany,
              not_ready_of_attempts (c.createGroup_attempts managers)]
      | GroupSuccess configuration =>
          cases configuration with
          | none => simp [step, perform, receive, groupCreated, fail, publish, WifiCall.ready]
          | some configuration =>
              cases hstarted : c.started <;>
                simp [step, perform, receive, groupCreated, fail, publish, WifiCall.ready, hstarted]
      | GroupFailure => simp [step, perform, receive, fail, publish, WifiCall.ready]
      | StationConnected => simp [step, perform, receive, publish, WifiCall.ready]
      | StationDisconnected =>
          simp [step, perform, receive, publish, WifiCall.ready, refreshStationCount]

end WifiDirectController

lemma groupReceived_concat (past : List WifiStep) (s : WifiStep) :
    GroupReceived (past ++ [s]) ↔ s.CreatesGroup ∨ (GroupReceived past ∧ ¬ s.Begins) :=
  latched_concat

/-- **The mark of a group is right**, in every session. -/
lemma WifiRun.groupStarted_iff (hrun : WifiRun present steps c) :
    c.started = true → (c.groupStarted = true ↔ GroupReceived steps) := by
  induction hrun with
  | init => simp
  | @step steps c op managers hrun henabled ih =>
      rw [groupReceived_concat]
      cases op with
      | Start =>
          intro _
          cases hstarted : c.started with
          | true =>
              simp [WifiDirectController.step, WifiDirectController.perform,
                WifiDirectController.start_of_started hstarted, WifiStep.CreatesGroup,
                WifiStep.Begins, hstarted, ih hstarted]
          | false =>
              obtain ⟨_, _, _, hstart⟩ := WifiDirectController.start_cases hstarted present managers
              simp [WifiDirectController.step, WifiDirectController.perform, hstart,
                WifiStep.CreatesGroup, WifiStep.Begins, hstarted]
      | Stop =>
          intro hstarted
          have hstopped := c.stop_session present managers
          exact absurd (hstopped.1.symm.trans hstarted) (by simp)
      | Receive broadcast =>
          have hsession := c.receive_session managers broadcast
          intro hafter
          have hstarted : c.started = true := hsession.1.symm.trans hafter
          have hgroup := hsession.2.2.2.2
          simp only [WifiDirectController.step, WifiDirectController.perform, WifiStep.CreatesGroup,
            WifiStep.Begins]
          rw [hgroup, ← ih hstarted, hstarted]
          cases broadcast with
          | GroupSuccess configuration => cases configuration <;> simp
          | WifiState _ | DirectState _ | GroupFailure | StationConnected | StationDisconnected =>
              simp

/-- **When readiness means a group**: exactly when no station connects before the group of its session
has been created.  At a station that connects the network is said to be ready whatever has come
before; at one that leaves the controller looks whether there is a group. -/
theorem readyJustified_iff (hrun : WifiRun present steps c) :
    ReadyJustified steps ↔ StationsLater steps := by
  refine always_congr fun past s rest hsteps => ?_
  obtain ⟨c', hpast, henabled, hs⟩ := hrun.split hsteps
  have hready := c'.step_ready present s.managers s.op
  rw [← hs] at hready
  rw [hready, groupReceived_concat]
  cases hop : s.op with
  | Start | Stop => simp
  | Receive broadcast =>
      rw [hop] at henabled
      have hstarted : c'.started = true := hpast.started_of_registered henabled
      have hafter : s.after.started = true := by
        rw [hs, hop]
        exact (c'.receive_session s.managers broadcast).1.trans hstarted
      have hgroup := hpast.groupStarted_iff hstarted
      simp only [WifiStep.CreatesGroup, WifiStep.Begins, hop, hafter, hstarted, hgroup]
      cases broadcast with
      | GroupSuccess configuration => cases configuration <;> simp
      | WifiState _ | DirectState _ | GroupFailure | StationConnected | StationDisconnected =>
          simp

lemma not_groupReceived (h : ∀ s ∈ steps, ¬ s.CreatesGroup) : ¬ GroupReceived steps := by
  rintro ⟨past, o, rest, rfl, hcreates, -⟩
  exact h o (by simp) hcreates

/-- The managers of a camera that has a configuration, with both radios on. -/
def configured : Managers := { getConfigurations := .ok (some [some { networkId := 3 }]) }

/-- What happens on such a camera when the broadcasts come in this order. -/
def WifiDirectController.taken (c : WifiDirectController) : List WifiOp → List WifiStep
  | [] => []
  | op :: ops =>
    let s := c.step {} configured op
    s :: taken s.after ops

/-- Every session on that camera begins so. -/
lemma wifiRun_start : WifiRun {} (WifiDirectController.taken {} [.Start])
    (({} : WifiDirectController).step {} configured .Start).after :=
  WifiRun.init.step .Start configured trivial

/-- A group is created, and a station connects to it. -/
def stationOps : List WifiOp :=
  [.Start, .Receive (.GroupSuccess (some { networkId := 3 })), .Receive .StationConnected]

/-- The network is ready when the group is there, and stays so for the station. -/
theorem readyJustified_stationOps :
    ReadyJustified (WifiDirectController.taken {} stationOps) ∧
      ((WifiDirectController.taken {} stationOps).map fun s => s.calls.any WifiCall.ready) =
        [false, true, true] := by
  have hrun : WifiRun {} (WifiDirectController.taken {} stationOps) _ :=
    (wifiRun_start.step (.Receive (.GroupSuccess (some { networkId := 3 }))) configured rfl).step
      (.Receive .StationConnected) configured rfl
  refine ⟨(readyJustified_iff hrun).mpr ?_, by decide +kernel⟩
  rw [StationsLater, always_iff_alwaysFrom]
  refine ⟨nofun, nofun, fun _ => ?_, trivial⟩
  exact (groupReceived_concat _ _).mpr (Or.inl ⟨_, rfl⟩)

/-- A station connects to a group of an earlier session, before this one has a group. -/
def earlyStationOps : List WifiOp := [.Start, .Receive .StationConnected]

/-- The listener is told that the network is ready, and no group has been created. -/
theorem not_readyJustified_earlyStationOps :
    (∃ c, WifiRun {} (WifiDirectController.taken {} earlyStationOps) c) ∧
      ¬ ReadyJustified (WifiDirectController.taken {} earlyStationOps) := by
  refine ⟨⟨_, wifiRun_start.step (.Receive .StationConnected) configured rfl⟩,
    fun hjustified => ?_⟩
  have hready := hjustified [_] _ [] rfl (by decide +kernel)
  refine not_groupReceived (fun s hs => ?_) hready.2
  simp only [List.cons_append, List.nil_append, List.mem_cons, List.not_mem_nil, or_false] at hs
  rcases hs with rfl | rfl <;> rintro ⟨_, hop⟩ <;> cases hop

/-! ## Requests -/

/-- A group is asked for, whatever the manager says. -/
def WifiCall.requests : WifiCall → Bool
  | .StartGo _ _ => true
  | _ => false

/-- A group is asked for, and the manager says that it will answer. -/
def WifiCall.granted : WifiCall → Bool
  | .StartGo _ (.ok true) => true
  | _ => false

/-- **One request at a time**: with `startGo` returning true a request is open until the success or the
failure of a group is received or `stop` has run, and none may be open when `startGo` is called. -/
def groupRequest : Obligation WifiStep where
  opens s := s.calls.any WifiCall.granted = true
  answers _ s := (∃ configuration, s.op = .Receive (.GroupSuccess configuration)) ∨
    s.op = .Receive .GroupFailure ∨ s.op = .Stop
  due s := s.calls.any WifiCall.requests = true

/-- The manager has a configuration to create a group with: the last of its list. -/
def Managers.HasConfiguration (managers : Managers) : Prop :=
  ∃ configurations configuration, managers.getConfigurations = .ok (some configurations) ∧
    configurations.getLast? = some (some configuration)

/-- A radio is said to be enabled, and there is what a group needs. -/
def WifiStep.AsksAgain (s : WifiStep) : Prop :=
  ((s.op = .Receive (.WifiState true) ∧ s.managers.isDirectEnabled 0 = .ok true) ∨
      s.op = .Receive (.DirectState true)) ∧
    s.managers.HasConfiguration

/-- No radio is said to be enabled while a request is open, so that nothing makes the controller ask
again. -/
def NoneAsksAgain (steps : List WifiStep) : Prop :=
  Always (fun past s => s.AsksAgain → groupRequest.pending past = ∅) steps

lemma requests_of_granted {calls : List WifiCall} (h : calls.any WifiCall.granted = true) :
    calls.any WifiCall.requests = true := by
  rw [List.any_eq_true] at h ⊢
  obtain ⟨call, hcall, hgranted⟩ := h
  refine ⟨call, hcall, ?_⟩
  cases call with
  | StartGo networkId answer => rfl
  | OnWifiInfo _ _ _ _ _ _ | SetWifiEnabled _ _ | SetDirectEnabled _ _ | RemoveGroup _ =>
      exact absurd hgranted (by simp [WifiCall.granted])

namespace WifiDirectController

/-- When `createGroup` asks for a group: in a session without one, if there is a configuration. -/
lemma createGroup_requests (c : WifiDirectController) (managers : Managers) :
    (c.createGroup managers).any WifiCall.requests = true ↔
      c.started = true ∧ c.groupStarted = false ∧ managers.HasConfiguration := by
  rw [createGroup, Managers.HasConfiguration]
  cases hstarted : c.started with
  | false => simp
  | true =>
  cases hgroup : c.groupStarted with
  | true => simp
  | false =>
  cases managers.getConfigurations with
  | error e => simp [fail, publish, WifiCall.requests]
  | ok configurations =>
  cases configurations with
  | none => simp [fail, publish, WifiCall.requests]
  | some configurations =>
  cases hlast : configurations.getLast? with
  | none => simp [hlast, fail, publish, WifiCall.requests]
  | some configuration =>
      cases configuration with
      | none => simp [hlast, fail, publish, WifiCall.requests]
      | some configuration => simp [hlast, WifiCall.requests]

lemma enableDirect_requests (c : WifiDirectController) (managers : Managers) (n : ℕ) :
    (c.enableDirect managers n).any WifiCall.requests = true ↔
      managers.isDirectEnabled n = .ok true ∧
        c.started = true ∧ c.groupStarted = false ∧ managers.HasConfiguration := by
  rw [enableDirect]
  cases hstarted : c.started with
  | false => simp
  | true =>
  cases managers.isDirectEnabled n with
  | error e => simp [fail, publish, WifiCall.requests]
  | ok enabled =>
      cases enabled with
      | true => simp [createGroup_requests, hstarted, -List.any_eq_true]
      | false =>
          cases managers.setDirectEnabled true with
          | error e => simp [fail, publish, WifiCall.requests]
          | ok accepted => cases accepted <;> simp [fail, publish, WifiCall.requests]

lemma stop_requests (c : WifiDirectController) (present : Present) (managers : Managers) :
    (c.stop present managers).calls.any WifiCall.requests = false := by
  rw [stop]
  split_ifs
  · rfl
  · simp only [List.any_append]
    split_ifs <;> rfl

/-- In a session without a group, a broadcast of an enabled radio asks for one, and nothing else. -/
lemma step_requests (hstarted : c.started = true) (hgroup : c.groupStarted = false)
    (present : Present) (managers : Managers) (op : WifiOp) :
    (c.step present managers op).calls.any WifiCall.requests = true ↔
      (c.step present managers op).AsksAgain := by
  cases op with
  | Start => simp [step, perform, start_of_started hstarted, WifiStep.AsksAgain]
  | Stop => simp [step, perform, stop_requests, WifiStep.AsksAgain]
  | Receive broadcast =>
      cases broadcast with
      | WifiState enabled =>
          cases enabled <;>
            simp [step, perform, receive, hstarted, hgroup, enableDirect_requests,
              WifiStep.AsksAgain, -List.any_eq_true]
      | DirectState enabled =>
          cases enabled <;>
            simp [step, perform, receive, hstarted, hgroup, createGroup_requests,
              WifiStep.AsksAgain, -List.any_eq_true]
      | GroupSuccess configuration =>
          cases configuration <;>
            simp [step, perform, receive, groupCreated, hstarted, fail, publish, WifiCall.requests,
              WifiStep.AsksAgain]
      | GroupFailure | StationConnected | StationDisconnected =>
          simp [step, perform, receive, fail, publish, WifiCall.requests, WifiStep.AsksAgain]

/-- A group is asked for in a session that has none. -/
lemma session_of_requests (present : Present) (managers : Managers)
    (h : (c.step present managers op).calls.any WifiCall.requests = true) :
    (c.step present managers op).after.started = true ∧
      (c.step present managers op).after.groupStarted = false := by
  cases op with
  | Start =>
      cases hstarted : c.started with
      | true => simp [step, perform, start_of_started hstarted] at h
      | false =>
          obtain ⟨_, _, _, hstart⟩ := start_cases hstarted present managers
          simp [step, perform, hstart]
  | Stop => simp [step, perform, stop_requests] at h
  | Receive broadcast =>
      cases broadcast with
      | WifiState enabled =>
          cases hany : c.started && enabled with
          | false => simp [step, perform, receive, hany] at h
          | true =>
              simp only [step, perform, receive, hany, if_true, enableDirect_requests] at h
              exact ⟨h.2.1, h.2.2.1⟩
      | DirectState enabled =>
          cases hany : c.started && enabled with
          | false => simp [step, perform, receive, hany] at h
          | true =>
              simp only [step, perform, receive, hany, if_true, createGroup_requests] at h
              exact ⟨h.1, h.2.1⟩
      | GroupSuccess configuration =>
          cases configuration with
          | none => simp [step, perform, receive, groupCreated, fail, publish, WifiCall.requests] at h
          | some configuration =>
              cases hstarted : c.started <;>
                simp [step, perform, receive, groupCreated, hstarted, fail, publish,
                  WifiCall.requests] at h
      | GroupFailure | StationConnected | StationDisconnected =>
          simp [step, perform, receive, fail, publish, WifiCall.requests] at h

end WifiDirectController

/-- **While a request is open** the controller is in a session and has no group. -/
lemma WifiRun.session_of_pending (hrun : WifiRun present steps c) :
    ∀ o ∈ groupRequest.pending steps, c.started = true ∧ c.groupStarted = false := by
  induction hrun with
  | init => simp
  | @step steps c op managers hrun henabled ih =>
      intro o ho
      rw [groupRequest.pending_concat] at ho
      rcases ho with ⟨hopens, rfl⟩ | ⟨ho, hopen⟩
      · exact WifiDirectController.session_of_requests present managers (requests_of_granted hopens)
      · obtain ⟨hstarted, hgroup⟩ := ih o ho
        cases op with
        | Start =>
            simp [WifiDirectController.step, WifiDirectController.perform,
              WifiDirectController.start_of_started hstarted, hstarted, hgroup]
        | Stop => exact absurd (Or.inr (Or.inr rfl)) hopen
        | Receive broadcast =>
            have hsession := c.receive_session managers broadcast
            refine ⟨hsession.1.trans hstarted, hsession.2.2.2.2.trans ?_⟩
            cases broadcast with
            | GroupSuccess configuration => exact absurd (Or.inl ⟨configuration, rfl⟩) hopen
            | WifiState _ | DirectState _ | GroupFailure | StationConnected | StationDisconnected =>
                simp [hgroup]

/-- **When one group is asked for at a time**: exactly when no radio is said to be enabled while a
request is open.  Until the group is there the controller remembers nothing of the request, so that
each such broadcast makes it ask again. -/
theorem oneRequest_iff (hrun : WifiRun present steps c) :
    groupRequest.Discharged steps ↔ NoneAsksAgain steps := by
  refine always_congr fun past s rest hsteps => ?_
  obtain ⟨c', hpast, -, hs⟩ := hrun.split hsteps
  rcases Set.eq_empty_or_nonempty (groupRequest.pending past) with hnone | ⟨o, ho⟩
  · simp [hnone]
  · obtain ⟨hstarted, hgroup⟩ := hpast.session_of_pending o ho
    have hrequests :=
      WifiDirectController.step_requests hstarted hgroup present s.managers s.op
    rw [← hs] at hrequests
    rw [← hrequests]
    exact Iff.rfl

/-- A group is created, and then the radio is said to be enabled again. -/
def enabledLaterOps : List WifiOp :=
  [.Start, .Receive (.GroupSuccess (some { networkId := 3 })), .Receive (.DirectState true)]

/-- A group is asked for once, although the radio is said to be enabled again. -/
theorem oneRequest_enabledLaterOps :
    groupRequest.Discharged (WifiDirectController.taken {} enabledLaterOps) ∧
      ((WifiDirectController.taken {} enabledLaterOps).map fun s =>
        s.calls.any WifiCall.requests) = [true, false, false] := by
  have hcreated := wifiRun_start.step (.Receive (.GroupSuccess (some { networkId := 3 }))) configured
    rfl
  have hrun : WifiRun {} (WifiDirectController.taken {} enabledLaterOps) _ :=
    hcreated.step (.Receive (.DirectState true)) configured rfl
  refine ⟨(oneRequest_iff hrun).mpr ?_, by decide +kernel⟩
  rw [NoneAsksAgain, always_iff_alwaysFrom]
  refine ⟨fun _ => by simp, fun hagain => ?_, fun _ => ?_, trivial⟩
  · rcases hagain.1 with ⟨hop, -⟩ | hop <;> cases hop
  · rw [Set.eq_empty_iff_forall_notMem]
    intro o ho
    exact absurd (hcreated.session_of_pending o ho).2 (by decide +kernel)

/-- The radio is said to be enabled while the manager creates the group. -/
def enabledAgainOps : List WifiOp := [.Start, .Receive (.DirectState true)]

/-- A second group is asked for before the manager has answered for the first. -/
theorem not_oneRequest_enabledAgainOps :
    (∃ c, WifiRun {} (WifiDirectController.taken {} enabledAgainOps) c) ∧
      ¬ groupRequest.Discharged (WifiDirectController.taken {} enabledAgainOps) := by
  refine ⟨⟨_, wifiRun_start.step (.Receive (.DirectState true)) configured rfl⟩,
    fun hdischarged => ?_⟩
  have hnone := hdischarged [_] _ [] rfl rfl
  have hopen : ({} : WifiDirectController).step {} configured .Start ∈ groupRequest.pending
      [({} : WifiDirectController).step {} configured .Start] :=
    ⟨rfl, [], [], rfl, by simp⟩
  rw [hnone] at hopen
  exact hopen

end LegacyAlpha
