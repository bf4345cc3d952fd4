import LegacyAlphaRemote.Java.SonyCameraController
import LegacyAlphaRemote.Runtime.MainThread

/-!
# The app with its camera

`LegacyAlphaRemoteActivity.java` and its camera, with the native library and the queue of the main
thread between them (`CameraApp`).  A callback on the main thread first changes the camera, and then
makes its calls of the library one by one; the server thread and everything else that calls the
library may come in between.

It is the app of `Runtime/MainThread.lean`, with a camera that decides on the results of the commands:
every run of it is one of that app (`CameraRun.appRun`).
-/

namespace LegacyAlpha

/-! ## The app and its camera -/

/-- An activity, which has the number zero, and its camera.  While a callback runs, `reports` is what
it still has to tell the library about the readiness of the camera, and `result` the result of the
command it has executed, which it reports last; the command stays on the queue until then. -/
structure CameraApp where
  app : App := {}
  controller : SonyCameraController := {}
  reports : List Bool := []
  result : Option (ℤ × Bytes) := none

/-- What may happen: a callback of Android, with the answers of the camera; the main thread begins the
next command of its queue; the callback that runs makes its next call of the library; or the library
is called otherwise. -/
inductive CameraOp
  | OnResume (random : ℕ) (serverStarts : Bool) (camera : Camera)
  | OnPause (camera : Camera)
  | SurfaceCreated (camera : Camera)
  | SurfaceDestroyed
  | Begin (camera : Camera)
  | Proceed
  | Call (op : RuntimeOp)

/-- The calls that are made neither by `onResume` and `onPause` nor by the listener of the camera. -/
def RuntimeOp.Elsewhere : RuntimeOp → Prop
  | .Start _ _ | .Stop | .SetCameraReady _ | .ReportCommandResult _ _ _ => False
  | _ => True

/-- A command for the camera; the others only change what is on the screen. -/
def Posted.forCamera (posted : Posted) : Bool := posted.command.type != .UpdateScreen

namespace CameraApp

/-- The activity of the app, the one activity there is in these runs. -/
def activity (s : CameraApp) : Activity := s.app.activities 0

/-- No callback runs, so that the main thread is free for the next one. -/
def idle (s : CameraApp) : Bool := s.reports.isEmpty && s.result.isNone

/-- `onCameraReadyChanged` and `onCameraCommandResult`, which tell the library what the controller
reports, but only if the library was started. -/
def forward (s : CameraApp) (out : Reaction) : CameraApp :=
  { s with
    controller := out.controller
    reports := if s.activity.nativeStarted then out.readies else []
    result := out.result? }

/-- `onResume`.  What the camera says before the library is started is not passed on. -/
def onResume (assets : Assets) (config : NativeConfig) (s : CameraApp) (io : Io) (random : ℕ)
    (serverStarts : Bool) (camera : Camera) : CameraApp :=
  let controller := (s.controller.start camera).controller
  let app := s.app.onResume assets config io 0 random serverStarts
  { app, controller
    reports := if (app.activities 0).nativeStarted then [controller.isReady] else [] }

/-- `onPause`.  What the camera says after the library is stopped is not passed on. -/
def onPause (config : NativeConfig) (s : CameraApp) (io : Io) (camera : Camera) : CameraApp :=
  { app := s.app.onPause config io 0, controller := (s.controller.stop camera).controller }

/-- `executeCommand`, which ends in a result at once, be it that the camera has thrown. -/
def execute (s : CameraApp) (posted : Posted) (camera : Camera) : CameraApp :=
  s.forward (s.controller.executeCommand camera posted.command.id posted.command.type)

/-- The beginning of `run`, for the next command: it is executed, unless it is for the screen or the
activity is paused. -/
def begin (s : CameraApp) (camera : Camera) : CameraApp :=
  match s.app.queue with
  | [] => s
  | posted :: _ =>
    if !posted.forCamera || !s.activity.resumed then { s with result := some (0, []) }
    else s.execute posted camera

/-- The next call that the callback makes.  With the result of its command, it ends. -/
def proceed (assets : Assets) (target : Target) (config : NativeConfig) (s : CameraApp) (io : Io) :
    CameraApp :=
  match s.reports, s.result with
  | ready :: reports, _ =>
    { s with app := s.app.call assets target config io (.SetCameraReady ready), reports }
  | [], some (resultCode, message) =>
    { s with app := s.app.run assets target config io resultCode message, result := none }
  | [], none => s

/-- What each of them does.  A callback of the controller leaves its reports and its result behind,
and `Proceed` tells the library of them one by one. -/
def perform (assets : Assets) (target : Target) (config : NativeConfig) (s : CameraApp) (io : Io) :
    CameraOp → CameraApp
  | .OnResume random serverStarts camera =>
      s.onResume assets config io random serverStarts camera
  | .OnPause camera => s.onPause config io camera
  | .SurfaceCreated camera => s.forward (s.controller.surfaceCreated camera)
  | .SurfaceDestroyed => s.forward s.controller.surfaceDestroyed
  | .Begin camera => s.begin camera
  | .Proceed => s.proceed assets target config io
  | .Call op => { s with app := s.app.call assets target config io op }

/-- When it can happen.  One callback runs at a time.  The controller hears of the surface between its
`start` and its `stop`.  Sessions do not mix: an activity is resumed when no command of an earlier
session is left. -/
def Enabled (s : CameraApp) : CameraOp → Prop
  | .OnResume _ _ _ =>
      s.idle = true ∧ s.activity.resumed = false ∧ ∀ posted ∈ s.app.queue, posted.forCamera = false
  | .OnPause _ => s.idle = true ∧ s.activity.resumed = true
  | .SurfaceCreated _ | .SurfaceDestroyed => s.idle = true ∧ s.controller.active = true
  | .Begin _ => s.idle = true ∧ s.app.queue ≠ []
  | .Proceed => s.idle = false
  | .Call op => op.Elsewhere

end CameraApp

/-- A run of the app from when it is created, all of whose steps are `allowed`.  Every step has a
clock and answers of its own. -/
inductive CameraRun (assets : Assets) (target : Target) (config : NativeConfig)
    (allowed : CameraApp → CameraOp → Prop) : CameraApp → Prop
  | init : CameraRun assets target config allowed {}
  | step {s : CameraApp} (op : CameraOp) (clock : ℕ → ℤ) (answers : ℕ → Bool) :
      CameraRun assets target config allowed s → s.Enabled op → allowed s op →
      CameraRun assets target config allowed
        (s.perform assets target config { clock, answers } op)

variable {assets : Assets} {target : Target} {config : NativeConfig}
  {allowed : CameraApp → CameraOp → Prop} {s : CameraApp}

namespace CameraRun

/-- The run of the app without its camera, which is one of those of `AppRun`: a callback in progress
calls the library, and the result of a command is what the camera has decided. -/
theorem appRun (h : CameraRun assets target config allowed s) :
    ∃ steps, AppRun assets target config steps s.app := by
  induction h with
  | init => exact ⟨[], .init⟩
  | @step s op clock answers _ henabled _ ih =>
      obtain ⟨steps, hrun⟩ := ih
      cases op with
      | OnResume random serverStarts camera =>
          exact ⟨_, hrun.step (.OnResume 0 random serverStarts) clock answers (by simp)⟩
      | OnPause camera => exact ⟨_, hrun.step (.OnPause 0) clock answers (by simp)⟩
      | SurfaceCreated camera | SurfaceDestroyed => exact ⟨steps, hrun⟩
      | Begin camera =>
          refine ⟨steps, ?_⟩
          rw [show (s.perform assets target config { clock, answers } (.Begin camera)).app = s.app by
            simp only [CameraApp.perform, CameraApp.begin, CameraApp.execute, CameraApp.forward]
            split
            · rfl
            · split_ifs <;> rfl]
          exact hrun
      | Proceed =>
          simp only [CameraApp.perform, CameraApp.proceed]
          split
          · next ready reports _ =>
              refine ⟨_, hrun.step (.Call (.SetCameraReady ready)) clock answers ?_⟩
              rintro other ⟨⟩
              trivial
          · next resultCode message _ _ =>
              exact ⟨_, hrun.step (.Run resultCode message) clock answers (by simp)⟩
          · exact ⟨steps, hrun⟩
      | Call op =>
          refine ⟨_, hrun.step (.Call op) clock answers ?_⟩
          rintro other ⟨⟩
          cases op <;> trivial

end CameraRun

/-! ## Given happenings -/

instance : DecidablePred RuntimeOp.Elsewhere := fun op =>
  match op with
  | .Start _ _ | .Stop | .SetCameraReady _ | .ReportCommandResult _ _ _ => isFalse id
  | .SetWifiState _ _ _ _ _ _ | .PhysicalFocus _ | .PhysicalShutter _ | .SetPreview _ _ _ _ _
  | .HandleRequest _ _ | .ServerTick | .ServerError _ => isTrue trivial

namespace CameraApp

instance (s : CameraApp) (op : CameraOp) : Decidable (s.Enabled op) :=
  match op with
  | .OnResume _ _ _ => inferInstanceAs (Decidable (_ ∧ _ ∧ ∀ posted ∈ _, _))
  | .OnPause _ | .SurfaceCreated _ | .SurfaceDestroyed => inferInstanceAs (Decidable (_ ∧ _))
  | .Begin _ => inferInstanceAs (Decidable (_ ∧ _ ≠ _))
  | .Proceed => inferInstanceAs (Decidable (_ = _))
  | .Call op => inferInstanceAs (Decidable op.Elsewhere)

/-- The app after these happenings, each at its time, with a Java that accepts every command. -/
def after (assets : Assets) (target : Target) (config : NativeConfig) (s : CameraApp) :
    List (CameraOp × ℤ) → CameraApp
  | [] => s
  | (op, now) :: ops =>
    after assets target config
      (s.perform assets target config { clock := fun _ => now, answers := fun _ => true } op) ops

/-- Each of them can happen when its turn comes, and is allowed. -/
def Follow (assets : Assets) (target : Target) (config : NativeConfig)
    (allowed : CameraApp → CameraOp → Prop) (s : CameraApp) : List (CameraOp × ℤ) → Prop
  | [] => True
  | (op, now) :: ops =>
    s.Enabled op ∧ allowed s op ∧ Follow assets target config allowed
      (s.perform assets target config { clock := fun _ => now, answers := fun _ => true } op) ops

instance decidableFollow [∀ s op, Decidable (allowed s op)] :
    ∀ (ops : List (CameraOp × ℤ)) (s : CameraApp),
      Decidable (s.Follow assets target config allowed ops)
  | [], _ => isTrue trivial
  | (op, now) :: ops, s =>
    have : Decidable (Follow assets target config allowed (s.perform assets target config
        { clock := fun _ => now, answers := fun _ => true } op) ops) := decidableFollow ops _
    inferInstanceAs (Decidable (_ ∧ _ ∧ _))

end CameraApp

lemma CameraRun.after (h : CameraRun assets target config allowed s) {ops : List (CameraOp × ℤ)}
    (hops : s.Follow assets target config allowed ops) :
    CameraRun assets target config allowed (s.after assets target config ops) := by
  induction ops generalizing s with
  | nil => exact h
  | cons op ops ih => exact ih (h.step op.1 _ _ hops.1 hops.2.1) hops.2.2

end LegacyAlpha
