import LegacyAlphaRemote.Java.WifiDirectController

/-!
# The radios of the camera

A session switches the radios on that are off, and is to leave both as it found them (`Restores`).  What
`start` found is recorded in the controller, but not before it has looked for both managers: with only
one of them it gives up, and what `stop` restores then is what the fields are created with.

Here the radios are switched when they are asked to be (`Obeys`), by the controller alone while a
session lasts and by anybody otherwise (`RadioRun`).  `restores_iff` says which sessions leave them as
they were: all, if there are both managers, and otherwise those that found the one radio off.
-/

namespace LegacyAlpha

/-- Which radios are on, the one for Wi-Fi and the one for Wi-Fi Direct. -/
structure Radios where
  wifi : Bool
  direct : Bool
  deriving DecidableEq, Repr

/-- The managers answer for these radios, and do what they are asked. -/
structure Managers.Obeys (managers : Managers) (radios : Radios) : Prop where
  isWifiEnabled : managers.isWifiEnabled = .ok radios.wifi
  isDirectEnabled : ∀ n, managers.isDirectEnabled n = .ok radios.direct
  setWifiEnabled : ∀ enabled, managers.setWifiEnabled enabled = .ok true
  setDirectEnabled : ∀ enabled, managers.setDirectEnabled enabled = .ok true

/-- What becomes of the radios: a request that the manager grants switches one, and every other call
leaves them. -/
def WifiCall.switch (radios : Radios) : WifiCall → Radios
  | .SetWifiEnabled enabled (.ok true) => { radios with wifi := enabled }
  | .SetDirectEnabled enabled (.ok true) => { radios with direct := enabled }
  | _ => radios

@[simp] lemma switch_setWifiEnabled (radios : Radios) (enabled : Bool) :
    (WifiCall.SetWifiEnabled enabled (.ok true)).switch radios = { radios with wifi := enabled } :=
  rfl

@[simp] lemma switch_setDirectEnabled (radios : Radios) (enabled : Bool) :
    (WifiCall.SetDirectEnabled enabled (.ok true)).switch radios =
      { radios with direct := enabled } :=
  rfl

@[simp] lemma switch_removeGroup (radios : Radios) (answer : Except JavaString Unit) :
    (WifiCall.RemoveGroup answer).switch radios = radios := rfl

@[simp] lemma switch_publish (radios : Radios) (c : WifiDirectController) (ready : Bool)
    (error : JavaString) : (c.publish ready error).switch radios = radios := rfl

/-- The controller and the radios.  `atStart` is what the radios were when the last session began, which
nobody reads. -/
structure RadioSystem where
  controller : WifiDirectController := {}
  radios : Radios
  atStart : Radios

/-- The controller takes a step, and the radios are switched as it asks.  At a start that does
something they are written down. -/
def RadioSystem.perform (present : Present) (s : RadioSystem) (managers : Managers) (op : WifiOp) :
    RadioSystem :=
  let out := s.controller.perform present managers op
  { controller := out.controller
    radios := out.calls.foldl WifiCall.switch s.radios
    atStart := if op = .Start ∧ s.controller.started = false then s.radios else s.atStart }

/-- The states that are reached from a new controller.  Between the sessions anybody may switch the
radios. -/
inductive RadioRun (present : Present) : RadioSystem → Prop
  | init (radios : Radios) : RadioRun present { radios, atStart := radios }
  | perform {s : RadioSystem} (managers : Managers) (op : WifiOp) :
      RadioRun present s → managers.Obeys s.radios → s.controller.Enabled op →
      RadioRun present (s.perform present managers op)
  | switch {s : RadioSystem} (radios : Radios) :
      RadioRun present s → s.controller.started = false → RadioRun present { s with radios }

/-- **The radios are as they were** when the session began, those that there are. -/
def Restores (present : Present) (s : RadioSystem) : Prop :=
  (present.wifi = true → s.radios.wifi = s.atStart.wifi) ∧
    (present.direct = true → s.radios.direct = s.atStart.direct)

/-- There are both managers, or no radio was on that there is: then the fields that `stop` goes by are
right, although `start` may have returned before it has set them. -/
def CanRestore (present : Present) (s : RadioSystem) : Prop :=
  (present.wifi = true ∧ present.direct = true) ∨
    ((present.wifi = true → s.atStart.wifi = false) ∧
      (present.direct = true → s.atStart.direct = false))

variable {present : Present} {s : RadioSystem} {managers : Managers} {radios : Radios}
  {c : WifiDirectController}

/-! ## Sessions only switch radios on -/

/-- The call switches no radio off. -/
def WifiCall.KeepsOn : WifiCall → Prop
  | .SetWifiEnabled enabled _ | .SetDirectEnabled enabled _ => enabled = true
  | .OnWifiInfo _ _ _ _ _ _ | .StartGo _ _ | .RemoveGroup _ => True

lemma WifiCall.Attempts.keepsOn {call : WifiCall} (h : call.Attempts) : call.KeepsOn := by
  cases call with
  | SetWifiEnabled _ _ | SetDirectEnabled _ _ => exact h
  | OnWifiInfo _ _ _ _ _ _ | StartGo _ _ | RemoveGroup _ => trivial

/-- A radio that is on stays on. -/
lemma foldl_switch_on {calls : List WifiCall} (h : ∀ call ∈ calls, call.KeepsOn) :
    ∀ radios : Radios,
      (radios.wifi = true → (calls.foldl WifiCall.switch radios).wifi = true) ∧
        (radios.direct = true → (calls.foldl WifiCall.switch radios).direct = true) := by
  induction calls with
  | nil => exact fun radios => ⟨id, id⟩
  | cons call calls ih =>
      intro radios
      obtain ⟨hcall, hcalls⟩ := List.forall_mem_cons.mp h
      have hnext : (radios.wifi = true → (call.switch radios).wifi = true) ∧
          (radios.direct = true → (call.switch radios).direct = true) := by
        cases call with
        | SetWifiEnabled enabled answer =>
            have henabled : enabled = true := hcall
            rcases answer with e | _ | _ <;> simp [WifiCall.switch, henabled]
        | SetDirectEnabled enabled answer =>
            have henabled : enabled = true := hcall
            rcases answer with e | _ | _ <;> simp [WifiCall.switch, henabled]
        | OnWifiInfo _ _ _ _ _ _ | StartGo _ _ | RemoveGroup _ => exact ⟨id, id⟩
      have hrest := ih hcalls (call.switch radios)
      exact ⟨fun hwifi => hrest.1 (hnext.1 hwifi), fun hdirect => hrest.2 (hnext.2 hdirect)⟩

lemma receive_keepsOn (c : WifiDirectController) (managers : Managers) (broadcast : Broadcast) :
    ∀ call ∈ (c.receive managers broadcast).calls, call.KeepsOn := by
  intro call hcall
  cases broadcast with
  | WifiState enabled =>
      simp only [WifiDirectController.receive] at hcall
      split_ifs at hcall
      · exact (c.enableDirect_attempts managers 0 call hcall).keepsOn
      · exact absurd hcall List.not_mem_nil
  | DirectState enabled =>
      simp only [WifiDirectController.receive] at hcall
      split_ifs at hcall
      · exact (c.createGroup_attempts managers call hcall).keepsOn
      · exact absurd hcall List.not_mem_nil
  | GroupSuccess configuration =>
      have hinfo : ∃ ready ssid password address stationCount error,
          call = .OnWifiInfo ready ssid password address stationCount error := by
        cases configuration with
        | none =>
            rw [List.mem_singleton.mp hcall]
            exact ⟨_, _, _, _, _, _, rfl⟩
        | some configuration =>
            simp only [WifiDirectController.receive, WifiDirectController.groupCreated] at hcall
            split_ifs at hcall <;>
              exact ⟨_, _, _, _, _, _, List.mem_singleton.mp hcall⟩
      obtain ⟨_, _, _, _, _, _, rfl⟩ := hinfo
      trivial
  | GroupFailure | StationConnected | StationDisconnected =>
      rw [List.mem_singleton.mp hcall]
      trivial

/-! ## What is recorded -/

/-- With both managers a session has recorded what it found, and what was on still is.  With one
nothing is recorded, and no receiver is registered. -/
structure Recorded (present : Present) (s : RadioSystem) : Prop where
  both : present.wifi = true → present.direct = true → s.controller.started = true →
    s.controller.wifiOriginallyEnabled = s.atStart.wifi ∧
      s.controller.directOriginallyEnabled = s.atStart.direct ∧
      (s.atStart.wifi = true → s.radios.wifi = true) ∧
      (s.atStart.direct = true → s.radios.direct = true)
  one : ¬ (present.wifi = true ∧ present.direct = true) →
    s.controller.wifiOriginallyEnabled = false ∧ s.controller.directOriginallyEnabled = false ∧
      s.controller.receiversRegistered = false

/-- What a session records that finds both managers. -/
lemma start_recorded (h : c.started = false) (hwifi : present.wifi = true)
    (hdirect : present.direct = true) (hobeys : managers.Obeys radios) :
    (c.start present managers).controller.wifiOriginallyEnabled = radios.wifi ∧
      (c.start present managers).controller.directOriginallyEnabled = radios.direct := by
  rw [WifiDirectController.start, h, if_neg Bool.false_ne_true, hwifi, hdirect,
    hobeys.isWifiEnabled, hobeys.isDirectEnabled, hobeys.setWifiEnabled]
  cases radios.wifi <;> simp

/-- A session that misses a manager gives up. -/
lemma start_of_missing (h : c.started = false)
    (hmissing : ¬ (present.wifi = true ∧ present.direct = true)) (managers : Managers) :
    (c.start present managers).controller =
      { c with started := true, groupStarted := false, stationCount := 0 } := by
  have hnull : (!present.wifi || !present.direct) = true := by
    cases hwifi : present.wifi <;> cases hdirect : present.direct <;> simp_all
  rw [WifiDirectController.start, h, if_neg Bool.false_ne_true]
  dsimp only
  rw [if_pos hnull]

lemma Recorded.start (h : Recorded present s) (hobeys : managers.Obeys s.radios) :
    Recorded present (s.perform present managers .Start) := by
  cases hstarted : s.controller.started with
  | true =>
      have hsame : s.perform present managers .Start = s := by
        simp [RadioSystem.perform, WifiDirectController.perform,
          WifiDirectController.start_of_started hstarted, hstarted]
      rw [hsame]
      exact h
  | false =>
      refine ⟨fun hwifi hdirect _ => ?_, fun hmissing => ?_⟩
      · have hrecorded := start_recorded hstarted hwifi hdirect hobeys
        have hon := foldl_switch_on (fun call hcall =>
          (s.controller.start_attempts present managers call hcall).keepsOn) s.radios
        simp only [RadioSystem.perform, WifiDirectController.perform, hstarted, and_self, if_true]
        exact ⟨hrecorded.1, hrecorded.2, hon.1, hon.2⟩
      · have hone := h.one hmissing
        simp only [RadioSystem.perform, WifiDirectController.perform,
          start_of_missing hstarted hmissing]
        exact hone

lemma Recorded.receive (h : Recorded present s) (henabled : s.controller.receiversRegistered = true)
    (managers : Managers) (broadcast : Broadcast) :
    Recorded present (s.perform present managers (.Receive broadcast)) := by
  have hsession := s.controller.receive_session managers broadcast
  have hon := foldl_switch_on (receive_keepsOn s.controller managers broadcast) s.radios
  refine ⟨fun hwifi hdirect hafter => ?_, fun hmissing => ?_⟩
  · have hstarted : s.controller.started = true := hsession.1.symm.trans hafter
    obtain ⟨horiginalWifi, horiginalDirect, hwifiOn, hdirectOn⟩ := h.both hwifi hdirect hstarted
    exact ⟨hsession.2.2.1.trans horiginalWifi, hsession.2.2.2.1.trans horiginalDirect,
      fun hfound => hon.1 (hwifiOn hfound), fun hfound => hon.2 (hdirectOn hfound)⟩
  · exact absurd (henabled.symm.trans (h.one hmissing).2.2) (by simp)

lemma Recorded.stop (h : Recorded present s) (managers : Managers) :
    Recorded present (s.perform present managers .Stop) := by
  obtain ⟨hstopped, hregistered, hwifi, hdirect⟩ := s.controller.stop_session present managers
  refine ⟨fun _ _ hafter => absurd (hstopped.symm.trans hafter) (by simp), fun hmissing => ?_⟩
  have hone := h.one hmissing
  exact ⟨hwifi.trans hone.1, hdirect.trans hone.2.1, hregistered⟩

theorem RadioRun.recorded (hrun : RadioRun present s) : Recorded present s := by
  induction hrun with
  | init radios => exact ⟨fun _ _ => nofun, fun _ => ⟨rfl, rfl, rfl⟩⟩
  | perform managers op hrun hobeys henabled ih =>
      cases op with
      | Start => exact ih.start hobeys
      | Stop => exact ih.stop managers
      | Receive broadcast => exact ih.receive henabled managers broadcast
  | switch radios hrun hstopped ih =>
      refine ⟨fun _ _ hstarted => ?_, ih.one⟩
      exact absurd (hstopped.symm.trans hstarted) (by simp)

/-! ## What is restored -/

/-- What `stop` makes of the radios: each that there is goes off unless its field says that it was on.
-/
lemma stop_radios (hstarted : s.controller.started = true) (hobeys : managers.Obeys s.radios) :
    (s.perform present managers .Stop).radios =
      { wifi := if present.wifi && !s.controller.wifiOriginallyEnabled then false else s.radios.wifi
        direct :=
          if present.direct && !s.controller.directOriginallyEnabled then false
          else s.radios.direct } := by
  simp only [RadioSystem.perform, WifiDirectController.perform, WifiDirectController.stop, hstarted,
    hobeys.setWifiEnabled, hobeys.setDirectEnabled]
  cases present.wifi && !s.controller.wifiOriginallyEnabled <;>
    cases present.direct && !s.controller.directOriginallyEnabled <;>
    cases present.direct && s.controller.groupStarted <;>
    simp

/-- **When `stop` leaves the radios as `start` found them**: exactly if there are both managers, or
the radio of the only one was off.  With one manager missing, `start` returns before it has written
down which radios are on, and `stop` goes by what an earlier session, or the constructor, has left. -/
theorem restores_iff (hrun : RadioRun present s) (hstarted : s.controller.started = true)
    (hobeys : managers.Obeys s.radios) :
    Restores present (s.perform present managers .Stop) ↔ CanRestore present s := by
  have hatStart : (s.perform present managers .Stop).atStart = s.atStart := by
    simp [RadioSystem.perform]
  rw [Restores, CanRestore, stop_radios hstarted hobeys, hatStart]
  by_cases hboth : present.wifi = true ∧ present.direct = true
  · obtain ⟨hwifi, hdirect, hwifiOn, hdirectOn⟩ := hrun.recorded.both hboth.1 hboth.2 hstarted
    simp only [hboth.1, hboth.2, hwifi, hdirect]
    cases hfoundWifi : s.atStart.wifi <;> cases hfoundDirect : s.atStart.direct <;>
      simp_all
  · obtain ⟨hwifi, hdirect, -⟩ := hrun.recorded.one hboth
    simp only [hboth, hwifi, hdirect, false_or]
    cases present.wifi <;> cases present.direct <;> simp

/-- Managers that answer for these radios and grant every request. -/
def obedient (radios : Radios) : Managers :=
  { isWifiEnabled := .ok radios.wifi, isDirectEnabled := fun _ => .ok radios.direct }

lemma obedient_obeys (radios : Radios) : (obedient radios).Obeys radios :=
  ⟨rfl, fun _ => rfl, fun _ => rfl, fun _ => rfl⟩

/-- A first session that finds these radios, so that the fields of the controller are still those of
its constructor. -/
def firstSession (present : Present) (radios : Radios) : RadioSystem :=
  RadioSystem.perform present { radios, atStart := radios } (obedient radios) .Start

lemma radioRun_firstSession (present : Present) (radios : Radios) :
    RadioRun present (firstSession present radios) :=
  (RadioRun.init radios).perform (obedient radios) .Start (obedient_obeys radios) trivial

/-- The end of the session, by managers that answer for the radios as they are then. -/
def RadioSystem.stopped (s : RadioSystem) (present : Present) : RadioSystem :=
  s.perform present (obedient s.radios) .Stop

/-- Somebody switches the radios while no session goes on, and another session begins. -/
def RadioSystem.another (s : RadioSystem) (present : Present) (radios : Radios) : RadioSystem :=
  RadioSystem.perform present { s with radios } (obedient radios) .Start

/-- The first session found Wi-Fi off and has left it so.  Then the radios are switched over, and it is
the other one that the second session finds off, switches on and leaves off. -/
theorem restores_secondSession :
    let first := firstSession {} { wifi := false, direct := true }
    let second := (first.stopped {}).another {} { wifi := true, direct := false }
    first.radios = ⟨true, true⟩ ∧ (first.stopped {}).radios = ⟨false, true⟩ ∧
      second.radios = ⟨true, true⟩ ∧ (second.stopped {}).radios = ⟨true, false⟩ ∧
      Restores {} (second.stopped {}) := by
  intro first second
  have hstopped : RadioRun {} (first.stopped {}) :=
    (radioRun_firstSession {} _).perform _ .Stop (obedient_obeys _) trivial
  have hsecond : RadioRun {} second :=
    (hstopped.switch _ rfl).perform _ .Start (obedient_obeys _) trivial
  exact ⟨rfl, rfl, rfl, rfl, (restores_iff hsecond rfl (obedient_obeys _)).mpr (Or.inl ⟨rfl, rfl⟩)⟩

/-- On a camera without Sony's manager Wi-Fi was on, and is off after the session. -/
theorem not_restores_missing_manager :
    let present : Present := { wifi := true, direct := false }
    let s := firstSession present { wifi := true, direct := false }
    RadioRun present (s.stopped present) ∧ (s.stopped present).atStart.wifi = true ∧
      (s.stopped present).radios.wifi = false ∧ ¬ Restores present (s.stopped present) := by
  intro present s
  refine ⟨(radioRun_firstSession present _).perform _ .Stop (obedient_obeys _) trivial, rfl, rfl,
    fun hrestores => ?_⟩
  exact absurd (hrestores.1 rfl) (by decide)

end LegacyAlpha
