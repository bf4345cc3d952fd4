import LegacyAlphaRemote.Core.Trace
import LegacyAlphaRemote.Java.Addresses

/-!
# The network of the camera

`WifiDirectController.java`: it switches the radios on, asks for a group, and tells its listener
whether there is a network.  All of it runs on the main thread of Java, `start` and `stop` as well as
the receivers of the six broadcasts, which are delivered while they are registered.

The managers of Android and Sony answer for themselves: in every callback each of their methods returns
or throws (`Managers`), and either manager may be missing altogether (`Present`).  What the controller
asks of them and tells its listener is collected in order (`WifiCall`).  The log is left out.
-/

namespace LegacyAlpha

/-! ## The managers -/

/-- `DirectConfiguration`, as far as it is read.  Each of its strings may be null. -/
structure DirectConfiguration where
  networkId : ℤ := 0
  ssid : Option JavaString := none
  preSharedKey : Option JavaString := none
  p2pIfAddress : Option JavaString := none
  deriving DecidableEq, Repr

/-- Which of the two managers there are; the others are null, as the system has no such service. -/
structure Present where
  wifi : Bool := true
  direct : Bool := true
  deriving DecidableEq, Repr

/-- What the methods of the managers return in one callback, or the class of the `RuntimeException`
they throw.  `isDirectEnabled` may be called twice, and of the stations their number is read. -/
structure Managers where
  isWifiEnabled : Except JavaString Bool := .ok true
  isDirectEnabled : ℕ → Except JavaString Bool := fun _ => .ok true
  setWifiEnabled : Bool → Except JavaString Bool := fun _ => .ok true
  setDirectEnabled : Bool → Except JavaString Bool := fun _ => .ok true
  getConfigurations : Except JavaString (Option (List (Option DirectConfiguration))) := .ok none
  startGo : ℤ → Except JavaString Bool := fun _ => .ok true
  removeGroup : Except JavaString Unit := .ok ()
  getStationList : Except JavaString (Option ℕ) := .ok none

/-- What the controller asks of the managers, with what becomes of it, and what it tells its
listener. -/
inductive WifiCall
  | OnWifiInfo (ready : Bool) (ssid password address : JavaString) (stationCount : ℕ)
      (error : JavaString)
  | SetWifiEnabled (enabled : Bool) (answer : Except JavaString Bool)
  | SetDirectEnabled (enabled : Bool) (answer : Except JavaString Bool)
  | StartGo (networkId : ℤ) (answer : Except JavaString Bool)
  | RemoveGroup (answer : Except JavaString Unit)

/-! ## The controller -/

/-- The fields of `WifiDirectController` that change, with their first values. -/
structure WifiDirectController where
  started : Bool := false
  receiversRegistered : Bool := false
  wifiOriginallyEnabled : Bool := false
  directOriginallyEnabled : Bool := false
  groupStarted : Bool := false
  ssid : JavaString := []
  password : JavaString := []
  address : JavaString := defaultAddress
  stationCount : ℕ := 0
  deriving DecidableEq, Repr

/-- The controller after a callback, what it has asked for meanwhile, and the class of the exception it
ends in, if it does. -/
structure WifiReaction where
  controller : WifiDirectController
  calls : List WifiCall := []
  thrown : Option JavaString := none

/-- The broadcasts, with what is read of them: whether the new state is the one of an enabled radio,
and the configuration of a new group, which may be null. -/
inductive Broadcast
  | WifiState (enabled : Bool)
  | DirectState (enabled : Bool)
  | GroupSuccess (configuration : Option DirectConfiguration)
  | GroupFailure
  | StationConnected
  | StationDisconnected
  deriving DecidableEq, Repr

/-- What may happen to the controller: the two calls of the activity, or a broadcast. -/
inductive WifiOp
  | Start
  | Stop
  | Receive (broadcast : Broadcast)
  deriving DecidableEq, Repr

namespace WifiDirectController

/-- `publish`: the listener is told what the controller knows of the network, ready or not. -/
def publish (c : WifiDirectController) (ready : Bool) (error : JavaString) : WifiCall :=
  .OnWifiInfo ready c.ssid c.password c.address c.stationCount error

/-- `fail`: the same with the text of an error, and never ready. -/
def fail (c : WifiDirectController) (message : JavaString) : WifiCall := c.publish false message

/-- `createGroup`.  A configuration that is null throws when it is asked for its id. -/
def createGroup (c : WifiDirectController) (managers : Managers) : List WifiCall :=
  if !c.started || c.groupStarted then []
  else
    match managers.getConfigurations with
    | .error e => [c.fail (java "Wi-Fi Direct group request failed: " ++ e)]
    | .ok configurations =>
      match (configurations.getD []).getLast? with
      | none => [c.fail (java "No saved Sony Wi-Fi Direct configuration")]
      | some none =>
        [c.fail (java "Wi-Fi Direct group request failed: " ++ java "java.lang.NullPointerException")]
      | some (some configuration) =>
        .StartGo configuration.networkId (managers.startGo configuration.networkId) ::
          match managers.startGo configuration.networkId with
          | .error e => [c.fail (java "Wi-Fi Direct group request failed: " ++ e)]
          | .ok false => [c.fail (java "Sony startGo rejected group creation")]
          | .ok true => []

/-- `enableDirect`; `n` calls of `isDirectEnabled` have been made in the same callback.  A group is
created at once if the radio is on, and otherwise when the broadcast says so. -/
def enableDirect (c : WifiDirectController) (managers : Managers) (n : ℕ) : List WifiCall :=
  if !c.started then []
  else
    match managers.isDirectEnabled n with
    | .error e => [c.fail (java "Wi-Fi Direct enable failed: " ++ e)]
    | .ok true => c.createGroup managers
    | .ok false =>
      .SetDirectEnabled true (managers.setDirectEnabled true) ::
        match managers.setDirectEnabled true with
        | .error e => [c.fail (java "Wi-Fi Direct enable failed: " ++ e)]
        | .ok false => [c.fail (java "Unable to enable Sony Wi-Fi Direct")]
        | .ok true => []

/-- `start`.  Without both managers it returns before it has asked which radios are on; an exception
of theirs goes to the caller, and leaves the fields as they were set until then. -/
def start (c : WifiDirectController) (present : Present) (managers : Managers) : WifiReaction :=
  if c.started then { controller := c }
  else
    let c := { c with started := true, groupStarted := false, stationCount := 0 }
    if !present.wifi || !present.direct then
      { controller := c, calls := [c.fail (java "Sony Wi-Fi Direct service unavailable")] }
    else
      match managers.isWifiEnabled with
      | .error e => { controller := c, thrown := some e }
      | .ok wifiEnabled =>
        let c := { c with wifiOriginallyEnabled := wifiEnabled }
        match managers.isDirectEnabled 0 with
        | .error e => { controller := c, thrown := some e }
        | .ok directEnabled =>
          let c := { c with directOriginallyEnabled := directEnabled, receiversRegistered := true }
          if wifiEnabled then { controller := c, calls := c.enableDirect managers 1 }
          else
            let asked := WifiCall.SetWifiEnabled true (managers.setWifiEnabled true)
            match managers.setWifiEnabled true with
            | .error e => { controller := c, calls := [asked], thrown := some e }
            | .ok false =>
              { controller := c, calls := [asked, c.fail (java "Unable to enable Wi-Fi")] }
            | .ok true => { controller := c, calls := [asked] }

/-- `stop`, which catches what the managers throw.  The radios are switched off by what the last
`start` wrote down of them. -/
def stop (c : WifiDirectController) (present : Present) (managers : Managers) : WifiReaction :=
  if !c.started && !c.receiversRegistered then { controller := c }
  else
    let c := { c with started := false }
    { controller := { c with receiversRegistered := false, groupStarted := false, stationCount := 0 }
      calls := [c.publish false (java "stopped")]
        ++ (if present.direct && c.groupStarted then [.RemoveGroup managers.removeGroup] else [])
        ++ (if present.direct && !c.directOriginallyEnabled then
            [.SetDirectEnabled false (managers.setDirectEnabled false)] else [])
        ++ (if present.wifi && !c.wifiOriginallyEnabled then
            [.SetWifiEnabled false (managers.setWifiEnabled false)] else []) }

/-- `refreshStationCount`: no stations are counted where the manager throws or has no list. -/
def refreshStationCount (c : WifiDirectController) (managers : Managers) : WifiDirectController :=
  { c with
    stationCount :=
      match managers.getStationList with
      | .error _ => 0
      | .ok stations => stations.getD 0 }

/-- `groupCreated`: the network is ready with the configuration that the system sends, while the
controller is started. -/
def groupCreated (c : WifiDirectController) (managers : Managers)
    (configuration : Option DirectConfiguration) : WifiReaction :=
  match configuration with
  | none =>
    { controller := c, calls := [c.fail (java "Wi-Fi Direct returned no group configuration")] }
  | some configuration =>
    if !c.started then
      { controller := c, calls := [c.fail (java "Wi-Fi Direct returned no group configuration")] }
    else
      let c := { c with
        groupStarted := true
        ssid := configuration.ssid.getD []
        password := configuration.preSharedKey.getD []
        address := normalizeAddress configuration.p2pIfAddress }
      let c := c.refreshStationCount managers
      { controller := c, calls := [c.publish true []] }

/-- The receivers.  A station that connects makes the network ready, whether a group is there or not;
one that leaves does not. -/
def receive (c : WifiDirectController) (managers : Managers) : Broadcast → WifiReaction
  | .WifiState enabled =>
    { controller := c, calls := if c.started && enabled then c.enableDirect managers 0 else [] }
  | .DirectState enabled =>
    { controller := c, calls := if c.started && enabled then c.createGroup managers else [] }
  | .GroupSuccess configuration => c.groupCreated managers configuration
  | .GroupFailure =>
    { controller := c, calls := [c.fail (java "Wi-Fi Direct group creation failed")] }
  | .StationConnected =>
    let c := c.refreshStationCount managers
    { controller := c, calls := [c.publish true []] }
  | .StationDisconnected =>
    let c := c.refreshStationCount managers
    { controller := c, calls := [c.publish c.groupStarted []] }

/-- What each of them does, with its own arguments. -/
def perform (c : WifiDirectController) (present : Present) (managers : Managers) :
    WifiOp → WifiReaction
  | .Start => c.start present managers
  | .Stop => c.stop present managers
  | .Receive broadcast => c.receive managers broadcast

/-- When it can happen: a broadcast is received by a receiver that is registered. -/
def Enabled (c : WifiDirectController) : WifiOp → Prop
  | .Start | .Stop => True
  | .Receive _ => c.receiversRegistered = true

end WifiDirectController

/-! ## Runs -/

/-- A step as it can be seen from outside, with the answers of the managers in it. -/
structure WifiStep where
  op : WifiOp
  managers : Managers
  before : WifiDirectController
  after : WifiDirectController
  calls : List WifiCall

/-- A step with these managers, from the controller as it is. -/
def WifiDirectController.step (c : WifiDirectController) (present : Present) (managers : Managers)
    (op : WifiOp) : WifiStep :=
  let out := c.perform present managers op
  { op, managers, before := c, after := out.controller, calls := out.calls }

/-- A run of the controller: its steps, oldest first, and where it leads.  The managers answer as they
like in every step. -/
inductive WifiRun (present : Present) : List WifiStep → WifiDirectController → Prop
  | init : WifiRun present [] {}
  | step {steps : List WifiStep} {c : WifiDirectController} (op : WifiOp) (managers : Managers) :
      WifiRun present steps c → c.Enabled op →
      WifiRun present (steps ++ [c.step present managers op]) (c.step present managers op).after

variable {present : Present} {steps past rest : List WifiStep} {c : WifiDirectController}
  {s : WifiStep} {managers : Managers}

/-- A run up to one of its steps. -/
lemma WifiRun.split (hrun : WifiRun present steps c) (hsteps : steps = past ++ s :: rest) :
    ∃ c', WifiRun present past c' ∧ c'.Enabled s.op ∧ s = c'.step present s.managers s.op := by
  induction hrun generalizing rest with
  | init => simp at hsteps
  | @step steps c op managers hrun henabled ih =>
      rcases TraceLogic.concat_eq_append_cons hsteps with ⟨rfl, rfl, -⟩ | ⟨rest, hearlier, -⟩
      · exact ⟨c, hrun, henabled, rfl⟩
      · exact ih hearlier

/-! ## What a callback does -/

/-- The call belongs to an attempt: nothing is given up, and the listener is not told that the network is
ready. -/
def WifiCall.Attempts : WifiCall → Prop
  | .OnWifiInfo ready _ _ _ _ _ => ready = false
  | .SetWifiEnabled enabled _ | .SetDirectEnabled enabled _ => enabled = true
  | .StartGo _ _ => True
  | .RemoveGroup _ => False

namespace WifiDirectController

lemma createGroup_attempts (c : WifiDirectController) (managers : Managers) :
    ∀ call ∈ c.createGroup managers, call.Attempts := by
  rw [createGroup]
  split_ifs
  · simp
  cases managers.getConfigurations with
  | error e => simp [fail, publish, WifiCall.Attempts]
  | ok configurations =>
      dsimp only
      cases (configurations.getD []).getLast? with
      | none => simp [fail, publish, WifiCall.Attempts]
      | some configuration =>
          cases configuration with
          | none => simp [fail, publish, WifiCall.Attempts]
          | some configuration =>
              dsimp only
              cases managers.startGo configuration.networkId with
              | error e => simp [fail, publish, WifiCall.Attempts]
              | ok accepted => cases accepted <;> simp [fail, publish, WifiCall.Attempts]

lemma enableDirect_attempts (c : WifiDirectController) (managers : Managers) (n : ℕ) :
    ∀ call ∈ c.enableDirect managers n, call.Attempts := by
  rw [enableDirect]
  split_ifs
  · simp
  cases managers.isDirectEnabled n with
  | error e => simp [fail, publish, WifiCall.Attempts]
  | ok enabled =>
      cases enabled with
      | true => exact c.createGroup_attempts managers
      | false =>
          dsimp only
          cases managers.setDirectEnabled true with
          | error e => simp [fail, publish, WifiCall.Attempts]
          | ok accepted => cases accepted <;> simp [fail, publish, WifiCall.Attempts]

lemma start_attempts (c : WifiDirectController) (present : Present) (managers : Managers) :
    ∀ call ∈ (c.start present managers).calls, call.Attempts := by
  rw [start]
  split_ifs
  · simp
  · simp [fail, publish, WifiCall.Attempts]
  cases managers.isWifiEnabled with
  | error e => simp
  | ok wifiEnabled =>
      cases managers.isDirectEnabled 0 with
      | error e => simp
      | ok directEnabled =>
          cases wifiEnabled with
          | true => simpa using enableDirect_attempts _ managers 1
          | false =>
              dsimp only
              cases managers.setWifiEnabled true with
              | error e => simp [WifiCall.Attempts]
              | ok accepted => cases accepted <;> simp [fail, publish, WifiCall.Attempts]

/-- What `start` sets when it begins a session. -/
lemma start_cases (h : c.started = false) (present : Present) (managers : Managers) :
    ∃ receiversRegistered wifiOriginallyEnabled directOriginallyEnabled,
      (c.start present managers).controller =
        { c with
          started := true, groupStarted := false, stationCount := 0, receiversRegistered
          wifiOriginallyEnabled, directOriginallyEnabled } := by
  rw [start, h, if_neg Bool.false_ne_true]
  dsimp only
  split_ifs
  · exact ⟨_, _, _, rfl⟩
  cases managers.isWifiEnabled with
  | error e => exact ⟨_, _, _, rfl⟩
  | ok wifiEnabled =>
      cases managers.isDirectEnabled 0 with
      | error e => exact ⟨_, _, _, rfl⟩
      | ok directEnabled =>
          cases wifiEnabled with
          | true => exact ⟨_, _, _, rfl⟩
          | false =>
              cases managers.setWifiEnabled true with
              | error e => exact ⟨_, _, _, rfl⟩
              | ok enabled => cases enabled <;> exact ⟨_, _, _, rfl⟩

/-- A `start` in a session does nothing. -/
lemma start_of_started (h : c.started = true) (present : Present) (managers : Managers) :
    c.start present managers = { controller := c } := by
  rw [start, if_pos h]

/-- After `stop` there is no session, and what was on before it is still recorded. -/
lemma stop_session (c : WifiDirectController) (present : Present) (managers : Managers) :
    (c.stop present managers).controller.started = false ∧
      (c.stop present managers).controller.receiversRegistered = false ∧
      (c.stop present managers).controller.wifiOriginallyEnabled = c.wifiOriginallyEnabled ∧
      (c.stop present managers).controller.directOriginallyEnabled = c.directOriginallyEnabled := by
  rw [stop]
  by_cases hnone : (!c.started && !c.receiversRegistered) = true
  · rw [if_pos hnone]
    simpa using hnone
  · rw [if_neg hnone]
    exact ⟨rfl, rfl, rfl, rfl⟩

/-- A broadcast changes neither the session nor what was switched on before it, and it sets the mark of
a group or leaves it. -/
lemma receive_session (c : WifiDirectController) (managers : Managers) (broadcast : Broadcast) :
    (c.receive managers broadcast).controller.started = c.started ∧
      (c.receive managers broadcast).controller.receiversRegistered = c.receiversRegistered ∧
      (c.receive managers broadcast).controller.wifiOriginallyEnabled = c.wifiOriginallyEnabled ∧
      (c.receive managers broadcast).controller.directOriginallyEnabled =
        c.directOriginallyEnabled ∧
      (c.receive managers broadcast).controller.groupStarted =
        (c.groupStarted || (c.started && match broadcast with
          | .GroupSuccess configuration => configuration.isSome
          | _ => false)) := by
  cases broadcast with
  | GroupSuccess configuration =>
      cases configuration with
      | none => simp [receive, groupCreated]
      | some configuration =>
          cases hstarted : c.started <;> simp [receive, groupCreated, hstarted, refreshStationCount]
  | WifiState _ | DirectState _ | GroupFailure | StationConnected | StationDisconnected =>
      simp [receive, refreshStationCount]

end WifiDirectController

/-- A registered receiver belongs to a session. -/
lemma WifiRun.started_of_registered (hrun : WifiRun present steps c) :
    c.receiversRegistered = true → c.started = true := by
  induction hrun with
  | init => simp
  | @step steps c op managers hrun henabled ih =>
      cases op with
      | Start =>
          intro _
          cases hstarted : c.started with
          | true => simpa [WifiDirectController.step, WifiDirectController.perform,
              WifiDirectController.start_of_started hstarted]
          | false =>
              obtain ⟨_, _, _, hstart⟩ := WifiDirectController.start_cases hstarted present managers
              simp [WifiDirectController.step, WifiDirectController.perform, hstart]
      | Stop =>
          intro hregistered
          have hstopped := c.stop_session present managers
          exact absurd (hstopped.2.1.symm.trans hregistered) (by simp)
      | Receive broadcast =>
          intro _
          exact (c.receive_session managers broadcast).1.trans (ih henabled)

end LegacyAlpha
