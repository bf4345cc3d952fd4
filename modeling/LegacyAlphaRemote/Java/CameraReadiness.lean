import LegacyAlphaRemote.Java.CameraApp
import LegacyAlphaRemote.Machine.Captures

/-!
# Both sides know whether the camera is ready

A capture stops the preview without a word to the machine, which takes the camera for ready all along;
it is the release that starts the preview again.  So machine and camera agree in every run in which
the machine is not told, while a capture is outstanding, that the camera or the Wi-Fi is lost, since
it would forget the release, and in which no release fails to start the preview that the machine
counts on (`CameraRun.readiness_agrees`).
-/

namespace LegacyAlpha

open NativeRuntime

/-! ## Agreement -/

/-- Whether a capture is outstanding after these commands, if one was `before`: its shutter is held,
and the preview does not run. -/
def outstandingAfter (before : Bool) (queue : List Posted) : Bool :=
  queue.foldl (fun before posted => posted.command.outstanding before) before

namespace CameraApp

/-- No command for the camera waits or runs, and nothing is left to be told. -/
def Quiet (s : CameraApp) : Prop :=
  s.idle = true ∧ ∀ posted ∈ s.app.queue, posted.forCamera = false

instance (s : CameraApp) : Decidable s.Quiet :=
  inferInstanceAs (Decidable (_ ∧ ∀ posted ∈ _, _))

/-- **Both sides agree**: when the machine is armed and all is quiet, it takes the camera for ready
exactly when it is. -/
def ReadinessAgrees (s : CameraApp) : Prop :=
  ∀ rt, s.app.native.runtime = some rt → rt.machine.state = .Armed → s.Quiet →
    rt.machine.cameraReady = s.controller.isReady

/-- The commands that are still to be executed: those in the queue but for the first one while its
result is on its way. -/
def waiting (s : CameraApp) : List Posted :=
  if s.result.isSome then s.app.queue.tail else s.app.queue

/-- What the machine will take the camera for once it has been told everything. -/
def told (s : CameraApp) (rt : NativeRuntime) : Bool := s.reports.getLastD rt.machine.cameraReady

/-- The preview is stopped, and the machine takes the camera for ready: it was not told. -/
def dark (s : CameraApp) (rt : NativeRuntime) : Bool := s.told rt && !s.controller.isReady

/-- A capture is outstanding: it waits, or it has stopped the preview, and no release waits behind
it. -/
def outstanding (s : CameraApp) (rt : NativeRuntime) : Bool :=
  outstandingAfter (s.dark rt) s.waiting

/-- The step tells the machine that the Wi-Fi or the camera is not ready any more. -/
def tellsLoss (s : CameraApp) : CameraOp → Bool
  | .Call (.SetWifiState ready _ _ _ _ _) => !ready
  | .Proceed => s.reports.head? == some false
  | _ => false

/-- The step begins a release which the camera will not carry out, and neither a capture nor another
release waits behind it. -/
def failsRelease (s : CameraApp) : CameraOp → Bool
  | .Begin camera =>
    match s.app.queue with
    | [] => false
    | posted :: later =>
      posted.command.type == .ReleaseShutter &&
        ((camera.throws .CancelTakePicture).isSome || (camera.throws .SetPreviewDisplay).isSome ||
          (camera.throws .StartPreview).isSome) &&
        later.all fun posted =>
          posted.command.type != .Capture && posted.command.type != .ReleaseShutter
  | _ => false

/-- The machine keeps track in a step: it is told of no loss while a capture is outstanding, and the
last release does not leave a preview stopped that the machine counts on. -/
def KeepsTrack (s : CameraApp) (op : CameraOp) : Prop :=
  ∀ rt ∈ s.app.native.runtime, (s.tellsLoss op = true → s.outstanding rt = false) ∧
    (s.failsRelease op = true → s.dark rt = false)

instance (s : CameraApp) (op : CameraOp) : Decidable (s.KeepsTrack op) :=
  inferInstanceAs (Decidable (∀ rt ∈ s.app.native.runtime, _ ∧ _))

end CameraApp

/-! ## The library -/

variable {assets : Assets} {target : Target} {config : NativeConfig} {rt : NativeRuntime} {io : Io}
  {camera before : Bool}

/-- A call of the machine by the runtime. -/
lemma Attends.operate (h : Attends camera before rt.machine io) (op : Op) (hstart : op ≠ .Start)
    (hstop : op ≠ .Stop)
    (hresult : ∀ resultCode message, op ≠ .ReportCommandResult 0 resultCode message)
    (hlost : op.Loses → io.outstanding before = false) :
    Attends (op.camera camera) before (operate config rt io op).runtime.machine
      (operate config rt io op).io := by
  have hcalled : Io.outstanding before { io with
      answers := fun i => rt.started && io.answers i, trace := io.trace ++ [.Call op rt.machine] } =
      io.outstanding before := by
    rw [Io.outstanding, List.foldl_append, ← Io.outstanding]
    rfl
  have hbody : Attends (op.camera camera) before (rt.machine.perform config _ op).machine _ :=
    (h.of_io hcalled).perform hstart hstop hresult fun hloses => hcalled.trans (hlost hloses)
  refine hbody.of_io ?_
  rw [NativeRuntime.operate, RemoteStateMachine.step, Io.outstanding, Io.outstanding]
  rw [List.foldl_append]
  rfl

/-- The calls of the machine that need no condition: none of the session, none about the camera, no
result that belongs to no command, and no loss of the Wi-Fi. -/
def Op.Harmless (op : Op) : Prop :=
  op ≠ .Start ∧ op ≠ .Stop ∧ (∀ ready, op ≠ .SetCameraReady ready) ∧
    (∀ resultCode message, op ≠ .ReportCommandResult 0 resultCode message) ∧
    op ≠ .SetWifiReady false

lemma attends_upheld (config : NativeConfig) (camera before : Bool) :
    UpheldBy config Op.Harmless fun rt io => Attends camera before rt.machine io where
  aside h haside := by
    rw [haside.machine]
    exact h
  nowMs h := h.nowMs
  screen h htype := by
    refine h.of_io (Io.outstanding_dispatch ?_ ?_ _ _) <;> rw [htype] <;> simp
  operate := by
    intro rt io op h hop
    obtain ⟨hstart, hstop, hcamera, hresult, hwifi⟩ := hop
    have hkept : Attends (op.camera camera) before
        (NativeRuntime.operate config rt io op).runtime.machine
        (NativeRuntime.operate config rt io op).io :=
      h.operate op hstart hstop hresult fun hloses => (hloses.elim (hcamera false) hwifi).elim
    have hsame : op.camera camera = camera := by
      cases op with
      | SetCameraReady ready => exact absurd rfl (hcamera ready)
      | _ => rfl
    rwa [hsame] at hkept

lemma Attends.updateScreen (assets : Assets) (config : NativeConfig)
    (h : Attends camera before rt.machine io) (force : Bool) :
    Attends camera before (updateScreen assets config rt io force).1.machine
      (updateScreen assets config rt io force).2 :=
  (attends_upheld config camera before).updateScreen h force

/-- With no capture outstanding, the Wi-Fi may be lost. -/
lemma settled_upheld (config : NativeConfig) (camera before : Bool) :
    UpheldBy config (fun op => (∃ count, op = .SetClientCount count) ∨ op = .SetWifiReady false)
      fun rt io => Attends camera before rt.machine io ∧ io.outstanding before = false where
  aside h haside := by
    rw [haside.machine]
    exact h
  nowMs {rt io} h := ⟨h.1.nowMs, (io.outstanding_nowMs before).trans h.2⟩
  screen {rt io command} h htype := by
    have hsame : (io.dispatch command).2.outstanding before = io.outstanding before := by
      refine Io.outstanding_dispatch ?_ ?_ io before <;> rw [htype] <;> simp
    exact ⟨h.1.of_io hsame, hsame.trans h.2⟩
  operate := by
    intro rt io op h hop
    have hattends : Attends camera before (NativeRuntime.operate config rt io op).runtime.machine
        (NativeRuntime.operate config rt io op).io := by
      rcases hop with ⟨count, rfl⟩ | rfl
      · exact h.1.operate (.SetClientCount count) (by simp) (by simp) (by simp) fun _ => h.2
      · exact h.1.operate (.SetWifiReady false) (by simp) (by simp) (by simp) fun _ => h.2
    obtain ⟨m, htrace⟩ : ∃ m, (NativeRuntime.operate config rt io op).io.trace =
        io.trace ++ [.Call op rt.machine, .Returned op true m] := by
      rcases hop with ⟨count, rfl⟩ | rfl <;> exact ⟨_, List.append_assoc _ _ _⟩
    refine ⟨hattends, ?_⟩
    rw [Io.outstanding_append htrace, h.2]
    rfl

/-- An operation of the runtime that is none of the session, nor a report of the camera, with no
capture outstanding if it reports that the Wi-Fi is lost. -/
lemma Attends.call (h : Attends camera before rt.machine io) {op : RuntimeOp}
    (hop : op.Elsewhere ∨ ∃ commandId resultCode message, commandId ≠ 0 ∧
      op = .ReportCommandResult commandId resultCode message)
    (hwifi : ∀ ssid password address stationCount error,
      op = .SetWifiState false ssid password address stationCount error →
        io.outstanding before = false) :
    Attends camera before (rt.perform assets target config io op).runtime.machine
      (rt.perform assets target config io op).io := by
  by_cases hlost : ∃ ssid password address stationCount error,
      op = .SetWifiState false ssid password address stationCount error
  · obtain ⟨ssid, password, address, stationCount, error, rfl⟩ := hlost
    have hsettled := hwifi ssid password address stationCount error rfl
    refine ((settled_upheld config camera before).perform ⟨h, hsettled⟩ (by simp) (by simp) ?_
      (by simp)).1
    rintro inner (rfl | rfl)
    · exact Or.inl ⟨stationCount, rfl⟩
    · exact Or.inr rfl
  · refine (attends_upheld config camera before).perform h ?_ ?_ ?_ ?_
    · rintro random serverStarts rfl
      rcases hop with hop | ⟨_, _, _, _, hop⟩
      · exact hop
      · cases hop
    · rintro rfl
      rcases hop with hop | ⟨_, _, _, _, hop⟩
      · exact hop
      · cases hop
    · intro inner hinner
      cases op with
      | Start _ _ | Stop | SetCameraReady _ => rcases hop with hop | ⟨_, _, _, _, hop⟩ <;> cases hop
      | SetWifiState ready ssid password address stationCount error =>
          rcases hinner with rfl | rfl
          · simp [Op.Harmless]
          · cases ready with
            | false => exact absurd ⟨ssid, password, address, stationCount, error, rfl⟩ hlost
            | true => simp [Op.Harmless]
      | ReportCommandResult commandId resultCode message =>
          obtain rfl : inner = .ReportCommandResult commandId resultCode message := hinner
          have hid : commandId ≠ 0 := by
            rcases hop with hop | ⟨_, _, _, hid, hop⟩
            · exact hop.elim
            · cases hop
              exact hid
          simp [Op.Harmless, hid]
      | PhysicalFocus _ | PhysicalShutter _ | ServerTick =>
          rw [show inner = _ from hinner]
          simp [Op.Harmless]
      | HandleRequest _ _ => rcases hinner with ⟨_, _, _, rfl⟩ | rfl | ⟨_, rfl⟩ <;> simp [Op.Harmless]
      | SetPreview _ _ _ _ _ | ServerError _ => exact hinner.elim
    · intro data width height source error _
      rw [(rt.setPreview_session data width height source error).1]
      exact h

/-- A report of the camera, with no capture outstanding if the camera is lost. -/
lemma Attends.report (h : Attends camera before rt.machine io) (ready : Bool)
    (hlost : ready = false → io.outstanding before = false) :
    Attends ready before (rt.perform assets target config io (.SetCameraReady ready)).runtime.machine
      (rt.perform assets target config io (.SetCameraReady ready)).io := by
  have hoperate : Attends ready before
      (NativeRuntime.operate config rt io (.SetCameraReady ready)).runtime.machine
      (NativeRuntime.operate config rt io (.SetCameraReady ready)).io := by
    refine h.operate (.SetCameraReady ready) (by simp) (by simp) (by simp) fun hloses => hlost ?_
    rcases hloses with hloses | hloses
    · simpa using hloses
    · cases hloses
  exact hoperate.updateScreen assets config true

/-- A new runtime, once it is started. -/
lemma attends_start (assets : Assets) (config : NativeConfig) (clock : ℕ → ℤ) (answers : ℕ → Bool)
    (random : ℕ) :
    Attends false false
      ((NativeRuntime.new config).start assets config { clock, answers } random true).runtime.machine
      ((NativeRuntime.new config).start assets config { clock, answers } random true).io := by
  have hoperate : Attends false false
      { (NativeRuntime.operate config ((NativeRuntime.new config).renew random) { clock, answers }
        .Start).runtime with started := true }.machine
      (NativeRuntime.operate config ((NativeRuntime.new config).renew random) { clock, answers }
        .Start).io :=
    Attends.of_settled rfl rfl (fun hstate => by cases hstate) fun hstate => by cases hstate
  exact hoperate.updateScreen assets config true

/-! ## The queue -/

lemma NativeCommand.outstanding_mono {command : NativeCommand} {before' : Bool}
    (h : before = true → before' = true) (hopen : command.outstanding before = true) :
    command.outstanding before' = true := by
  rw [NativeCommand.outstanding] at hopen ⊢
  split at hopen
  · rfl
  · cases hopen
  · exact h hopen

lemma outstandingAfter_mono {queue : List Posted} {before' : Bool}
    (h : before = true → before' = true) (hopen : outstandingAfter before queue = true) :
    outstandingAfter before' queue = true := by
  induction queue generalizing before before' with
  | nil => exact h hopen
  | cons posted queue ih => exact ih (NativeCommand.outstanding_mono h) hopen

lemma outstandingAfter_append (before : Bool) (queue new : List Posted) :
    outstandingAfter before (queue ++ new) =
      outstandingAfter (outstandingAfter before queue) new :=
  List.foldl_append

/-- An update of the screen is neither a capture nor a release. -/
lemma Posted.outstanding_screen {posted : Posted} (h : posted.forCamera = false) (before : Bool) :
    posted.command.outstanding before = before := by
  have htype : posted.command.type = .UpdateScreen := by simpa [Posted.forCamera] using h
  simp [NativeCommand.outstanding, htype]

lemma outstandingAfter_screen {queue : List Posted} (h : ∀ posted ∈ queue, posted.forCamera = false)
    (before : Bool) : outstandingAfter before queue = before := by
  induction queue with
  | nil => rfl
  | cons posted queue ih =>
      obtain ⟨hposted, hqueue⟩ := List.forall_mem_cons.mp h
      have hkept := ih hqueue
      rwa [outstandingAfter, List.foldl_cons, Posted.outstanding_screen hposted]

/-- Behind a capture or a release, what was before does not matter. -/
lemma outstandingAfter_of_later {queue : List Posted}
    (h : ¬ queue.all (fun posted =>
      posted.command.type != .Capture && posted.command.type != .ReleaseShutter) = true)
    (before before' : Bool) : outstandingAfter before queue = outstandingAfter before' queue := by
  induction queue generalizing before before' with
  | nil => exact absurd rfl h
  | cons posted queue ih =>
      show outstandingAfter (posted.command.outstanding before) queue =
        outstandingAfter (posted.command.outstanding before') queue
      by_cases hqueue : queue.all (fun posted =>
          posted.command.type != .Capture && posted.command.type != .ReleaseShutter) = true
      · congr 1
        cases htype : posted.command.type <;> simp_all [NativeCommand.outstanding]
      · exact ih hqueue _ _

/-- What is posted are the commands that were accepted. -/
lemma exists_post (queue : List Posted) (activity session : ℕ) (io : Io) : ∃ new,
    App.post queue (some activity) session io.trace = queue ++ new ∧
      ∀ before, outstandingAfter before new = io.outstanding before := by
  refine ⟨_, rfl, fun before => ?_⟩
  rw [outstandingAfter, List.foldl_filterMap, Io.outstanding]
  congr 1
  funext before e
  cases e with
  | Sent command accepted => cases accepted <;> rfl
  | Call _ _ | Clock _ | Returned _ _ _ => rfl

lemma App.call_of_none {app : App} (h : app.native.runtime = none) (clock : ℕ → ℤ)
    (answers : ℕ → Bool) (op : RuntimeOp) :
    app.call assets target config { clock, answers } op = app := by
  obtain ⟨⟨runtime, activity⟩, activities, queue, sessions⟩ := app
  obtain rfl : runtime = none := h
  cases activity <;> simp [App.call, Native.call, App.post]

/-- A call of the library: the runtime goes on, and its commands are posted. -/
lemma App.exists_call (assets : Assets) (target : Target) (config : NativeConfig) {app : App}
    (hrt : app.native.runtime = some rt) {activity : ℕ}
    (hactivity : app.native.activity = some activity) (io : Io) (op : RuntimeOp) : ∃ new,
    app.call assets target config io op =
      { app with
        native :=
          { app.native with
            runtime :=
              some (rt.perform assets target config (app.native.dispatchToJava io) op).runtime }
        queue := app.queue ++ new } ∧
      ∀ before, outstandingAfter before new =
        (rt.perform assets target config (app.native.dispatchToJava io) op).io.outstanding before := by
  obtain ⟨new, hpost, hnew⟩ := exists_post app.queue activity app.sessions
    (rt.perform assets target config (app.native.dispatchToJava io) op).io
  refine ⟨new, ?_, hnew⟩
  rw [App.call, Native.call, hrt]
  dsimp only
  rw [hactivity, hpost]

/-- A session begins with a new runtime, whose commands are posted. -/
lemma App.exists_onResume (assets : Assets) (config : NativeConfig) {app : App}
    (hnone : app.native.runtime = none) (clock : ℕ → ℤ) (answers : ℕ → Bool) (random : ℕ) :
    ∃ rt io new, app.onResume assets config { clock, answers } 0 random true =
      { native := ⟨some rt, some 0⟩
        activities := Function.update app.activities 0 ⟨true, true⟩
        queue := app.queue ++ new
        sessions := app.sessions + 1 } ∧
      Attends false false rt.machine io ∧
      ∀ before, outstandingAfter before new = io.outstanding before := by
  obtain ⟨new, hpost, hnew⟩ := exists_post app.queue 0 (app.sessions + 1)
    ((NativeRuntime.new config).start assets config { clock, answers } random true).io
  refine ⟨_, _, new, ?_, attends_start assets config clock answers random, hnew⟩
  rw [← hpost, App.onResume, Native.nativeStart, hnone]
  rfl

/-! ## What a step preserves -/

/-- A later step has a clock and answers of its own. -/
lemma Attends.fresh {m : RemoteStateMachine} (h : Attends camera before m io) (clock : ℕ → ℤ)
    (answers : ℕ → Bool) : Attends camera (io.outstanding before) m { clock, answers } :=
  ⟨h.cameraReady, h.outstanding, h.captureSent, h.focusCommandId⟩

lemma Attends.mono {m : RemoteStateMachine} {clock : ℕ → ℤ} {answers : ℕ → Bool}
    (h : Attends camera before m { clock, answers }) {before' : Bool}
    (hbefore : before' = true → before = true) : Attends camera before' m { clock, answers } :=
  ⟨h.cameraReady, fun hopen => h.outstanding (hbefore hopen), h.captureSent, h.focusCommandId⟩

namespace CameraApp

/-- The machine will know of every preview that is started, and it knows of the capture that is
outstanding, if one is. -/
structure Tracks (s : CameraApp) : Prop where
  showing : s.controller.Showing
  executing : s.result.isSome = true → s.app.queue ≠ []
  session : ∀ rt, s.app.native.runtime = some rt →
    s.activity = ⟨true, true⟩ ∧ s.app.native.activity = some 0
  knows : ∀ rt, s.app.native.runtime = some rt → s.controller.isReady = true → s.told rt = true
  available : ∀ rt, s.app.native.runtime = some rt → s.told rt = true → s.controller.Available
  attends : ∀ rt, s.app.native.runtime = some rt → ∀ clock answers,
    Attends rt.machine.cameraReady (s.outstanding rt) rt.machine { clock, answers }

variable {s s' : CameraApp}

lemma idle_inv (h : s.idle = true) : s.reports = [] ∧ s.result = none := by
  simpa [idle] using h

/-- When all is quiet, what the machine does not know of would be a capture outstanding. -/
theorem Tracks.agrees (h : s.Tracks) : s.ReadinessAgrees := by
  rintro rt hrt harmed ⟨hidle, hqueue⟩
  obtain ⟨hreports, hresult⟩ := idle_inv hidle
  have htold : s.told rt = rt.machine.cameraReady := by rw [told, hreports]; rfl
  have hsettled : s.outstanding rt = false :=
    (h.attends rt hrt (fun _ => 0) fun _ => true).settled (by simp [harmed]) (by simp [harmed])
  have hwaiting : s.waiting = s.app.queue := by rw [waiting, hresult]; rfl
  rw [outstanding, hwaiting, outstandingAfter_screen hqueue, dark, htold] at hsettled
  have hknows := h.knows rt hrt
  rw [htold] at hknows
  cases hready : s.controller.isReady with
  | true => exact hknows hready
  | false => simpa [hready] using hsettled

/-- Without a runtime there is nothing to track. -/
lemma Tracks.of_none (hshowing : s.controller.Showing)
    (hexecuting : s.result.isSome = true → s.app.queue ≠ [])
    (hnone : s.app.native.runtime = none) : s.Tracks := by
  refine ⟨hshowing, hexecuting, ?_, ?_, ?_, ?_⟩ <;> intro rt hrt <;> rw [hnone] at hrt <;> cases hrt

/-- The runtime goes on, the commands that it has sent wait behind the others, and the camera stays
as it is. -/
lemma Tracks.of_call (h : s.Tracks) (hrt : s.app.native.runtime = some rt) {rt' : NativeRuntime}
    {new : List Posted} (hcontroller : s'.controller = s.controller)
    (hactivities : s'.app.activities = s.app.activities)
    (hnative : s'.app.native = { s.app.native with runtime := some rt' })
    (hqueue : s'.app.queue = s.app.queue ++ new) (hresult : s'.result = s.result)
    (htold : s'.told rt' = s.told rt)
    (hattends : Attends camera (s.outstanding rt) rt'.machine io)
    (hnew : ∀ before, outstandingAfter before new = io.outstanding before) : s'.Tracks := by
  have honly : ∀ rt₁, s'.app.native.runtime = some rt₁ → rt₁ = rt' := by
    intro rt₁ hrt₁
    rw [hnative] at hrt₁
    exact (Option.some.inj hrt₁).symm
  have hwaiting : s'.waiting = s.waiting ++ new := by
    rw [waiting, waiting, hresult, hqueue]
    split_ifs with hexecuted
    · exact List.tail_append_of_ne_nil (h.executing hexecuted)
    · rfl
  have houtstanding : s'.outstanding rt' = io.outstanding (s.outstanding rt) := by
    rw [← hnew, outstanding, hwaiting, outstandingAfter_append, dark, htold, hcontroller]
    rfl
  refine ⟨by rw [hcontroller]; exact h.showing, ?_, ?_, ?_, ?_, ?_⟩
  · intro hexecuted hnil
    rw [hqueue] at hnil
    rw [hresult] at hexecuted
    exact h.executing hexecuted (List.append_eq_nil_iff.mp hnil).1
  · intro rt₁ _
    rw [activity, hactivities, hnative]
    exact h.session rt hrt
  · intro rt₁ hrt₁ hready
    rw [honly rt₁ hrt₁, htold]
    rw [hcontroller] at hready
    exact h.knows rt hrt hready
  · intro rt₁ hrt₁ hbelieved
    rw [honly rt₁ hrt₁, htold] at hbelieved
    rw [hcontroller]
    exact h.available rt hrt hbelieved
  · intro rt₁ hrt₁ clock answers
    rw [honly rt₁ hrt₁, houtstanding, hattends.cameraReady]
    exact hattends.fresh clock answers

/-- The library is called, while a callback may be running. -/
lemma Tracks.call (h : s.Tracks) {op : RuntimeOp}
    (hop : op.Elsewhere ∨ ∃ commandId resultCode message, commandId ≠ 0 ∧
      op = .ReportCommandResult commandId resultCode message)
    (hwifi : ∀ ssid password address stationCount error,
      op = .SetWifiState false ssid password address stationCount error →
        ∀ rt, s.app.native.runtime = some rt → s.outstanding rt = false)
    (clock : ℕ → ℤ) (answers : ℕ → Bool) :
    ({ s with app := s.app.call assets target config { clock, answers } op } : CameraApp).Tracks := by
  cases hrt : s.app.native.runtime with
  | none =>
      rw [App.call_of_none hrt]
      exact h
  | some rt =>
      obtain ⟨new, hcall, hnew⟩ := App.exists_call assets target config hrt (h.session rt hrt).2
        { clock, answers } op
      have hattends : Attends rt.machine.cameraReady (s.outstanding rt)
          (rt.perform assets target config (s.app.native.dispatchToJava { clock, answers })
            op).runtime.machine _ :=
        (h.attends rt hrt clock _).call hop
          fun ssid password address stationCount error heq =>
            hwifi ssid password address stationCount error heq rt hrt
      rw [hcall]
      refine h.of_call hrt rfl rfl rfl rfl rfl ?_ hattends hnew
      rw [told, told, hattends.cameraReady]

/-- The callback that runs tells the library whether the camera is ready. -/
lemma Tracks.report (h : s.Tracks) {ready : Bool} {reports : List Bool}
    (hreports : s.reports = ready :: reports)
    (hlost : ready = false → ∀ rt, s.app.native.runtime = some rt → s.outstanding rt = false)
    (clock : ℕ → ℤ) (answers : ℕ → Bool) :
    ({ s with
      app := s.app.call assets target config { clock, answers } (.SetCameraReady ready)
      reports } : CameraApp).Tracks := by
  cases hrt : s.app.native.runtime with
  | none =>
      rw [App.call_of_none hrt]
      exact Tracks.of_none h.showing h.executing hrt
  | some rt =>
      obtain ⟨new, hcall, hnew⟩ := App.exists_call assets target config hrt (h.session rt hrt).2
        { clock, answers } (.SetCameraReady ready)
      have hattends : Attends ready (s.outstanding rt)
          (rt.perform assets target config (s.app.native.dispatchToJava { clock, answers })
            (.SetCameraReady ready)).runtime.machine _ :=
        (h.attends rt hrt clock _).report ready fun hready => hlost hready rt hrt
      rw [hcall]
      refine h.of_call hrt rfl rfl rfl rfl rfl ?_ hattends hnew
      rw [told, told, hattends.cameraReady, hreports, List.getLastD_cons]

/-- The command that was executed leaves the queue. -/
lemma Tracks.finish (h : s.Tracks) (hresult : s.result.isSome = true) :
    ({ s with app := { s.app with queue := s.app.queue.tail }, result := none } :
      CameraApp).Tracks := by
  have hwaiting : ({ s with app := { s.app with queue := s.app.queue.tail }, result := none } :
      CameraApp).waiting = s.waiting := by
    rw [waiting, waiting, if_pos hresult]
    rfl
  refine ⟨h.showing, fun hnone => (by cases hnone), h.session, h.knows, h.available, ?_⟩
  intro rt hrt clock answers
  rw [outstanding, hwaiting]
  exact h.attends rt hrt clock answers

lemma Tracks.proceed (h : s.Tracks) (hpositive : QueuePositive s.app)
    (hlost : s.reports.head? = some false →
      ∀ rt, s.app.native.runtime = some rt → s.outstanding rt = false)
    (clock : ℕ → ℤ) (answers : ℕ → Bool) :
    (s.proceed assets target config { clock, answers }).Tracks := by
  rw [CameraApp.proceed]
  cases hreports : s.reports with
  | cons ready reports =>
      rw [hreports] at hlost
      exact h.report hreports (fun hready => hlost (by rw [hready]; rfl)) clock answers
  | nil =>
      cases hresult : s.result with
      | none => exact h
      | some result =>
          obtain ⟨resultCode, message⟩ := result
          have hfinished := h.finish (by rw [hresult]; rfl)
          rw [hreports] at hfinished
          dsimp only
          rw [App.run]
          cases hreported : s.app.result resultCode message with
          | none => exact hfinished
          | some reported =>
              obtain ⟨posted, code, text⟩ := reported
              obtain ⟨hposted, htype⟩ := App.mem_of_result hreported
              have hid := (hpositive.queue posted hposted htype).ne'
              exact hfinished.call (Or.inr ⟨posted.command.id, code, text, hid, rfl⟩)
                (by simp) clock answers

/-! ### Callbacks -/

lemma told_of_idle (h : s.idle = true) (rt : NativeRuntime) :
    s.told rt = rt.machine.cameraReady := by
  rw [told, (idle_inv h).1]
  rfl

lemma waiting_of_idle (h : s.idle = true) : s.waiting = s.app.queue := by
  rw [waiting, (idle_inv h).2]
  rfl

lemma Tracks.told_forward (h : s.Tracks) (hrt : s.app.native.runtime = some rt) (out : Reaction) :
    (s.forward out).told rt = out.readies.getLastD rt.machine.cameraReady := by
  rw [told, forward, (h.session rt hrt).1]
  rfl

/-- A callback changes only the camera, and the machine misses nothing if no capture is outstanding
that was not before. -/
lemma Tracks.of_callback (h : s.Tracks) (happ : s'.app = s.app)
    (hshowing : s'.controller.Showing)
    (hexecuting : s'.result.isSome = true → s.app.queue ≠ [])
    (hknows : ∀ rt, s.app.native.runtime = some rt → s'.controller.isReady = true →
      s'.told rt = true)
    (havailable : ∀ rt, s.app.native.runtime = some rt → s'.told rt = true →
      s'.controller.Available)
    (hopen : ∀ rt, s.app.native.runtime = some rt → s'.outstanding rt = true →
      s.outstanding rt = true) : s'.Tracks := by
  refine ⟨hshowing, ?_, ?_, ?_, ?_, ?_⟩
  · rw [happ]
    exact hexecuting
  · rw [activity, happ]
    exact h.session
  · rw [happ]
    exact hknows
  · rw [happ]
    exact havailable
  · rw [happ]
    exact fun rt hrt clock answers => (h.attends rt hrt clock answers).mono (hopen rt hrt)

/-- The camera stays as ready as it was, or becomes ready and says so. -/
lemma Tracks.steady (h : s.Tracks) (hidle : s.idle = true) (hrt : s.app.native.runtime = some rt)
    {c : SonyCameraController} {out : Reaction} (hout : c.Steady out)
    (hready : c.isReady = s.controller.isReady)
    (havailable : s.controller.Available → c.Available) :
    (out.controller.isReady = true → (s.forward out).told rt = true) ∧
      ((s.forward out).told rt = true → out.controller.Available) ∧
      ((s.forward out).dark rt = true → s.dark rt = true) := by
  have hknows := h.knows rt hrt
  have hable := h.available rt hrt
  rw [told_of_idle hidle] at hknows hable
  rw [dark, dark, told_of_idle hidle, h.told_forward hrt]
  rcases hout.readies with ⟨hreadies, hsame⟩ | ⟨hreadies, hstarted⟩
  · -- The listener is told nothing.
    rw [hreadies, hsame, hready]
    refine ⟨hknows, fun htold => hout.available.mpr (havailable (hable htold)), ?_⟩
    show (rt.machine.cameraReady && !out.controller.isReady) = true → _
    rw [hsame, hready]
    exact id
  · rw [hreadies]
    refine ⟨fun _ => rfl, fun _ => ?_, fun hdark => ?_⟩
    · rw [hout.showing.isReady] at hstarted
      exact hout.showing hstarted
    · rw [show (s.forward out).controller = out.controller from rfl, hstarted] at hdark
      cases hdark

/-- The commands that wait are the same. -/
lemma outstanding_forward (s : CameraApp) {out : Reaction} (hresult : out.result? = none)
    (rt : NativeRuntime) :
    (s.forward out).outstanding rt = outstandingAfter ((s.forward out).dark rt) s.app.queue := by
  rw [outstanding, waiting, show (s.forward out).result = none from hresult]
  rfl

lemma Tracks.surfaceCreated (h : s.Tracks) (hidle : s.idle = true) (camera : Camera) :
    (s.forward (s.controller.surfaceCreated camera)).Tracks := by
  have hable : s.controller.Available →
      ({ s.controller with surfaceAvailable := true } : SonyCameraController).Available :=
    fun havailable => ⟨havailable.1, havailable.2.1, rfl⟩
  have hout := SonyCameraController.startPreview_steady
    (c := { s.controller with surfaceAvailable := true })
    (fun hstarted => hable (h.showing hstarted)) camera
  have hnone : (s.controller.surfaceCreated camera).result? = none :=
    SonyCameraController.startPreview_result _ camera
  refine h.of_callback rfl hout.showing (fun hresult => ?_) ?_ ?_ ?_
  · rw [show (s.forward (s.controller.surfaceCreated camera)).result = none from hnone] at hresult
    cases hresult
  · exact fun rt hrt => (h.steady hidle hrt hout rfl hable).1
  · exact fun rt hrt => (h.steady hidle hrt hout rfl hable).2.1
  · intro rt hrt hopen
    rw [outstanding_forward s hnone] at hopen
    rw [outstanding, waiting_of_idle hidle]
    exact outstandingAfter_mono (h.steady hidle hrt hout rfl hable).2.2 hopen

/-- The machine will take the camera for lost, which it is. -/
lemma Tracks.surfaceDestroyed (h : s.Tracks) (hidle : s.idle = true) :
    (s.forward s.controller.surfaceDestroyed).Tracks := by
  have hlost : s.controller.surfaceDestroyed.controller.isReady = false := by
    simp [SonyCameraController.surfaceDestroyed, SonyCameraController.isReady]
  have htold : ∀ rt, s.app.native.runtime = some rt →
      (s.forward s.controller.surfaceDestroyed).told rt = false := by
    intro rt hrt
    rw [h.told_forward hrt]
    rfl
  refine h.of_callback rfl (fun hstarted => by cases hstarted) (fun hresult => by cases hresult)
    ?_ ?_ ?_
  · intro rt _ hready
    rw [show (s.forward s.controller.surfaceDestroyed).controller =
      s.controller.surfaceDestroyed.controller from rfl, hlost] at hready
    cases hready
  · intro rt hrt hbelieved
    rw [htold rt hrt] at hbelieved
    cases hbelieved
  · intro rt hrt hopen
    rw [outstanding_forward s rfl, dark, htold rt hrt] at hopen
    rw [outstanding, waiting_of_idle hidle]
    exact outstandingAfter_mono (fun hdark => by cases hdark) hopen

/-- What was outstanding before the next command. -/
lemma outstanding_of_idle (hidle : s.idle = true) {posted : Posted} {rest : List Posted}
    (hqueue : s.app.queue = posted :: rest) (rt : NativeRuntime) :
    s.outstanding rt = outstandingAfter (posted.command.outstanding (s.dark rt)) rest := by
  rw [outstanding, waiting_of_idle hidle, hqueue]
  rfl

/-- What is outstanding once it is executed. -/
lemma outstanding_execute {posted : Posted} {rest : List Posted}
    (hqueue : s.app.queue = posted :: rest) (camera : Camera) (rt : NativeRuntime) :
    (s.execute posted camera).outstanding rt =
      outstandingAfter ((s.execute posted camera).dark rt) rest := by
  have hresult : (s.execute posted camera).result.isSome = true :=
    SonyCameraController.executeCommand_result s.controller camera _ _
  rw [outstanding, waiting, if_pos hresult]
  show outstandingAfter _ s.app.queue.tail = _
  rw [hqueue]
  rfl

/-- A capture is outstanding until its release, whether or not it succeeds. -/
lemma Tracks.capture (h : s.Tracks) (hidle : s.idle = true) {posted : Posted} {rest : List Posted}
    (hqueue : s.app.queue = posted :: rest) (htype : posted.command.type = .Capture)
    (camera : Camera) : (s.execute posted camera).Tracks := by
  have hout : s.controller.Silent (s.controller.executeCommand camera posted.command.id
      posted.command.type) := by
    rw [htype]
    exact SonyCameraController.executeCommand_capture h.showing camera _
  have htold : ∀ rt, s.app.native.runtime = some rt →
      (s.execute posted camera).told rt = s.told rt := by
    intro rt hrt
    rw [execute, h.told_forward hrt, hout.readies, told_of_idle hidle]
    rfl
  refine h.of_callback rfl hout.showing (fun _ => by rw [hqueue]; simp) ?_ ?_ ?_
  · intro rt hrt hready
    rw [htold rt hrt]
    exact h.knows rt hrt (hout.isReady hready)
  · intro rt hrt hbelieved
    rw [htold rt hrt] at hbelieved
    exact hout.available.mpr (h.available rt hrt hbelieved)
  · intro rt _ hopen
    rw [outstanding_execute hqueue] at hopen
    rw [outstanding_of_idle hidle hqueue]
    refine outstandingAfter_mono (fun _ => ?_) hopen
    simp [NativeCommand.outstanding, htype]

/-- The other commands do not stop the preview.  A release starts it, or the camera does not carry
it out. -/
lemma Tracks.execute (h : s.Tracks) (hidle : s.idle = true) {posted : Posted} {rest : List Posted}
    (hqueue : s.app.queue = posted :: rest) (hcapture : posted.command.type ≠ .Capture)
    {camera : Camera} (hkeeps : s.KeepsTrack (.Begin camera)) :
    (s.execute posted camera).Tracks := by
  have hout : s.controller.Steady (s.controller.executeCommand camera posted.command.id
      posted.command.type) :=
    SonyCameraController.executeCommand_steady h.showing camera _ hcapture
  refine h.of_callback rfl hout.showing (fun _ => by rw [hqueue]; simp) ?_ ?_ ?_
  · exact fun rt hrt => (h.steady hidle hrt hout rfl id).1
  · exact fun rt hrt => (h.steady hidle hrt hout rfl id).2.1
  · intro rt hrt hopen
    rw [outstanding_execute hqueue] at hopen
    rw [outstanding_of_idle hidle hqueue]
    by_cases hlater : rest.all (fun posted =>
        posted.command.type != .Capture && posted.command.type != .ReleaseShutter) = true
    · refine outstandingAfter_mono (fun hdark => ?_) hopen
      have hdarkened := (h.steady hidle hrt hout rfl id).2.2 hdark
      by_cases htype : posted.command.type = .ReleaseShutter
      · -- It would have started the preview, had the camera carried it out.
        have hreturns := mt ((hkeeps rt hrt).2) (by simp [hdarkened])
        simp only [failsRelease, hqueue, htype, beq_self_eq_true, hlater, Bool.true_and,
          Bool.and_true, Bool.not_eq_true, Bool.or_eq_false_iff, Option.isSome_eq_false_iff,
          Option.isNone_iff_eq_none] at hreturns
        obtain ⟨⟨hcancel, hdisplay⟩, hstart⟩ := hreturns
        have hbelieved : s.told rt = true := by
          rw [dark, Bool.and_eq_true] at hdarkened
          exact hdarkened.1
        have hready : (s.execute posted camera).controller.isReady = true := by
          rw [CameraApp.execute, htype]
          exact SonyCameraController.executeCommand_release (h.available rt hrt hbelieved) hcancel
            hdisplay hstart posted.command.id
        rw [dark, hready] at hdark
        simp at hdark
      · rw [NativeCommand.outstanding]
        split
        · exact absurd ‹_› hcapture
        · exact absurd ‹_› htype
        · exact hdarkened
    · rw [← hopen]
      exact outstandingAfter_of_later hlater _ _

/-- The main thread begins a command, and the controller has executed it before the library hears of
it. -/
lemma Tracks.begin (h : s.Tracks) (hidle : s.idle = true) {camera : Camera}
    (hkeeps : s.KeepsTrack (.Begin camera)) : (s.begin camera).Tracks := by
  rw [CameraApp.begin]
  cases hqueue : s.app.queue with
  | nil => exact h
  | cons posted rest =>
      dsimp only
      by_cases hskip : (!posted.forCamera || !s.activity.resumed) = true
      · -- It is not for the camera.
        rw [if_pos hskip]
        refine h.of_callback rfl h.showing (fun _ => by rw [hqueue]; simp) h.knows h.available ?_
        intro rt hrt hopen
        have hscreen : posted.forCamera = false := by
          simpa [(h.session rt hrt).1] using hskip
        have hsame : outstandingAfter (s.dark rt) s.app.queue.tail = true := hopen
        rw [hqueue] at hsame
        rwa [outstanding_of_idle hidle hqueue, Posted.outstanding_screen hscreen]
      · rw [if_neg hskip]
        by_cases htype : posted.command.type = .Capture
        · exact h.capture hidle hqueue htype camera
        · exact h.execute hidle hqueue htype hkeeps

/-! ### Sessions -/

/-- A new session: the library learns first whether the camera is ready. -/
lemma Tracks.onResume (h : s.Tracks) (hpaused : s.activity.resumed = false)
    (hqueue : ∀ posted ∈ s.app.queue, posted.forCamera = false) (clock : ℕ → ℤ)
    (answers : ℕ → Bool) (random : ℕ) (serverStarts : Bool) (camera : Camera) :
    (s.onResume assets config { clock, answers } random serverStarts camera).Tracks := by
  have hshowing := SonyCameraController.start_showing h.showing camera
  have hnone : s.app.native.runtime = none := by
    rw [Option.eq_none_iff_forall_ne_some]
    intro rt hrt
    rw [(h.session rt hrt).1] at hpaused
    cases hpaused
  cases serverStarts with
  | false =>
      refine Tracks.of_none hshowing (fun hresult => by cases hresult) ?_
      simp [CameraApp.onResume, App.onResume, Native.nativeStart, hnone, NativeRuntime.start,
        NativeRuntime.new]
  | true =>
      obtain ⟨rt, io, new, happ, hstarted, hnew⟩ :=
        App.exists_onResume assets config hnone clock answers random
      rw [CameraApp.onResume, happ]
      simp only [Function.update_self, if_true]
      refine ⟨hshowing, fun hresult => (by cases hresult), ?_, ?_, ?_, ?_⟩ <;> rintro rt₁ ⟨⟩
      · exact ⟨by simp [CameraApp.activity], rfl⟩
      · exact id
      · intro hready
        have hready : (s.controller.start camera).controller.isReady = true := hready
        rw [hshowing.isReady] at hready
        exact hshowing hready
      · -- Nothing is outstanding: the library will know of the preview if it is started.
        intro clock' answers'
        have hsettled : ({
            app :=
              { native := ⟨some rt, some 0⟩
                activities := Function.update s.app.activities 0 ⟨true, true⟩
                queue := s.app.queue ++ new, sessions := s.app.sessions + 1 }
            controller := (s.controller.start camera).controller
            reports := [(s.controller.start camera).controller.isReady] } :
              CameraApp).outstanding rt = io.outstanding false := by
          show outstandingAfter (_ && !_) (s.app.queue ++ new) = _
          rw [outstandingAfter_append, outstandingAfter_screen hqueue, ← hnew]
          exact congrArg (outstandingAfter · new) (Bool.and_not_self _)
        rw [hsettled, hstarted.cameraReady]
        exact hstarted.fresh clock' answers'

lemma Tracks.onPause (h : s.Tracks) (io : Io) (camera : Camera) :
    (s.onPause config io camera).Tracks := by
  refine Tracks.of_none (SonyCameraController.stop_showing h.showing camera)
    (fun hresult => by cases hresult) ?_
  show (s.app.onPause config io 0).native.runtime = none
  rw [App.onPause]
  dsimp only
  split_ifs with hstarted
  · rw [Native.nativeStop]
    cases s.app.native.runtime <;> rfl
  · rw [Option.eq_none_iff_forall_ne_some]
    intro rt hrt
    have hactivity : s.app.activities 0 = ⟨true, true⟩ := (h.session rt hrt).1
    rw [hactivity] at hstarted
    exact hstarted rfl

/-- **A step**: whatever happens, the machine keeps track of the camera, if the step does what is
asked of it. -/
theorem Tracks.perform (h : s.Tracks) (hpositive : QueuePositive s.app) {op : CameraOp}
    (henabled : s.Enabled op) (hkeeps : s.KeepsTrack op) (clock : ℕ → ℤ) (answers : ℕ → Bool) :
    (s.perform assets target config { clock, answers } op).Tracks := by
  cases op with
  | OnResume random serverStarts camera =>
      exact h.onResume henabled.2.1 henabled.2.2 clock answers random serverStarts camera
  | OnPause camera => exact h.onPause _ camera
  | SurfaceCreated camera => exact h.surfaceCreated henabled.1 camera
  | SurfaceDestroyed => exact h.surfaceDestroyed henabled.1
  | Begin camera => exact h.begin henabled.1 hkeeps
  | Proceed =>
      refine h.proceed hpositive (fun hlost rt hrt => (hkeeps rt hrt).1 ?_) clock answers
      simpa [tellsLoss] using hlost
  | Call op =>
      refine h.call (Or.inl henabled) ?_ clock answers
      rintro ssid password address stationCount error rfl rt hrt
      exact (hkeeps rt hrt).1 rfl

end CameraApp

/-! ## Runs -/

namespace CameraRun

variable {allowed : CameraApp → CameraOp → Prop} {s : CameraApp}

/-- The machine keeps track in a run all of whose steps do what is asked of them. -/
theorem tracks (h : CameraRun assets target config CameraApp.KeepsTrack s) : s.Tracks := by
  induction h with
  | init =>
      exact CameraApp.Tracks.of_none (fun hstarted => by cases hstarted)
        (fun hresult => by cases hresult) rfl
  | step op clock answers hrun henabled hkeeps ih =>
      obtain ⟨steps, happ⟩ := hrun.appRun
      exact ih.perform happ.queuePositive henabled hkeeps clock answers

/-- **When both sides agree**: in every run in which the machine is told of no loss while a capture is
outstanding, and no release fails that the machine counts on. -/
theorem readiness_agrees (h : CameraRun assets target config CameraApp.KeepsTrack s) :
    s.ReadinessAgrees :=
  h.tracks.agrees

end CameraRun

/-- The camera gets its surface and the Wi-Fi its group, and the shutter is pressed; then the main
thread comes to the capture. -/
def captured : List (CameraOp × ℤ) :=
  [(.OnResume 123456 true {}, 1000), (.Proceed, 1001), (.SurfaceCreated {}, 1100), (.Proceed, 1101),
    (.Call (.SetWifiState true (bytes "camera") (bytes "secret") (bytes "192.168.122.1") 1 []),
      1200),
    (.Call (.PhysicalShutter true), 1300), (.Begin {}, 1310), (.Proceed, 1311), (.Begin {}, 1320),
    (.Proceed, 1321), (.Begin {}, 1330), (.Proceed, 1331), (.Begin {}, 1340), (.Proceed, 1341),
    (.Begin {}, 1350), (.Proceed, 1351)]

/-- The shutter is released by hand, the preview is restarted, and the machine is armed again after
the cooldown. -/
def released : CameraApp :=
  CameraApp.after {} .armeabi {} {} (captured ++
    [(.Call (.PhysicalShutter false), 1500), (.Begin {}, 1510), (.Proceed, 1511), (.Begin {}, 1520),
      (.Proceed, 1521), (.Begin {}, 1530), (.Proceed, 1531), (.Proceed, 1532),
      (.Call .ServerTick, 9000)])

theorem readiness_agrees_released :
    released.Quiet ∧
      (∃ rt ∈ released.app.native.runtime, rt.machine.state = .Armed ∧
        rt.machine.cameraReady = true) ∧
      released.ReadinessAgrees :=
  ⟨by decide +kernel, by decide +kernel,
    CameraRun.readiness_agrees (CameraRun.init.after (by decide +kernel))⟩

/-- The Wi-Fi is lost and comes back before the shutter is released: the machine is armed while the
preview is stopped. -/
def reunited : CameraApp :=
  CameraApp.after {} .armeabi {} {} (captured ++
    [(.Call (.SetWifiState false [] [] [] 0 []), 1500),
      (.Call (.SetWifiState true (bytes "camera") (bytes "secret") (bytes "192.168.122.1") 1 []),
        1600)])

/-- The machine is armed and takes the camera for ready, which has no preview and gets none. -/
theorem not_readiness_agrees_reunited :
    CameraRun {} .armeabi {} (fun _ _ => True) reunited ∧ ¬ reunited.ReadinessAgrees := by
  refine ⟨CameraRun.init.after (by decide +kernel), fun hagrees => ?_⟩
  obtain ⟨rt, hrt, harmed, hready⟩ : ∃ rt ∈ reunited.app.native.runtime,
      rt.machine.state = .Armed ∧ rt.machine.cameraReady = true := by decide +kernel
  have hsame := hagrees rt hrt harmed (by decide +kernel)
  rw [hready, show reunited.controller.isReady = false by decide +kernel] at hsame
  cases hsame

end LegacyAlpha
