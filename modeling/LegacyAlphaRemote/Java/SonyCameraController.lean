import LegacyAlphaRemote.Http.Response
import LegacyAlphaRemote.Machine.Types

/-!
# The camera

`SonyCameraController.java`, as far as it decides whether the camera is ready: starting and stopping,
the surface of the preview, and the commands that the native side sends.  All of it runs on the main
thread of Java.

Sony's classes answer for themselves: in every callback each of their methods returns or throws
(`Camera`).  What the controller tells its listener and posts to its handler is collected in order
(`ControllerCall`).  The timers that it posts ask for a picture of the live view later, which changes
nothing here; taking that picture and converting it is left out, and so is the log.
-/

namespace LegacyAlpha

/-- What is known of an exception: the name of its class, its text, and whether it is an
`IOException`. -/
structure Thrown where
  name : Bytes
  text : Bytes
  isIOException : Bool := false
  deriving DecidableEq, Repr

/-- The methods of Sony's and Android's classes that the controller calls, each of which may throw. -/
inductive CameraMethod
  | Open
  | SetJpegListener
  | AutoFocus
  | CancelAutoFocus
  | TakePicture
  | CancelTakePicture
  | SetPreviewDisplay
  | StartPreview
  | Release
  deriving DecidableEq, Repr

/-- What becomes of the methods in one callback, none of which is called twice, and the time. -/
structure Camera where
  throws : CameraMethod → Option Thrown := fun _ => none
  uptimeMillis : ℤ := 0

/-- The two runnables that ask for a picture of the live view: the one of `scheduleFallback` and that
of `requestPendingFallback`. -/
inductive FallbackTimer
  | Scheduled (generation : ℤ)
  | Pending (generation : ℤ)
  deriving DecidableEq, Repr

/-- What the controller asks of its listener and of its handler, in the order of its calls. -/
inductive ControllerCall
  | OnCameraReadyChanged (ready : Bool)
  | OnCameraCommandResult (commandId : ℤ) (type : CommandType) (resultCode : ℤ) (message : Bytes)
  | OnCameraError (message : Bytes)
  | PostDelayed (timer : FallbackTimer) (delayMs : ℤ)
  | RemoveCallbacks
  deriving DecidableEq, Repr

/-- The fields of `SonyCameraController`: `cameraOpen` says that `cameraEx` is not null, and
`previewWorker` that there is one. -/
structure SonyCameraController where
  cameraOpen : Bool := false
  previewWorker : Bool := false
  active : Bool := false
  surfaceAvailable : Bool := false
  previewStarted : Bool := false
  captureGeneration : ℤ := 0
  fallbackGeneration : ℤ := 0
  fallbackDeadlineMs : ℤ := 0
  deriving DecidableEq, Repr

/-- The controller after a callback, and what it has asked for meanwhile. -/
structure Reaction where
  controller : SonyCameraController
  calls : List ControllerCall := []
  deriving DecidableEq, Repr

/-- The same for what may end in an exception; what was done before it is done. -/
structure Attempt extends Reaction where
  thrown : Option Thrown := none
  deriving DecidableEq, Repr

/-- The constants of `NativeBridge`, by which the library names a command to Java. -/
def CommandType.number : CommandType → ℕ
  | .StartAutofocus => 1
  | .CancelAutofocus => 2
  | .Capture => 3
  | .ReleaseShutter => 4
  | .RestartPreview => 5
  | .UpdateScreen => 6

/-- `JPEG_TIMEOUT_MS`: how long a JPEG is waited for. -/
def jpegTimeoutMs : ℤ := 5000

/-- `reportError`: the listener is told what was tried and what the exception says. -/
def reportError (operation : Bytes) (throwable : Thrown) : ControllerCall :=
  .OnCameraError (operation ++ bytes ": " ++ throwable.text)

namespace SonyCameraController

/-- `isReady`: the session goes on, with a camera that shows its preview. -/
def isReady (c : SonyCameraController) : Bool := c.active && c.cameraOpen && c.previewStarted

/-! ## The preview -/

/-- `startPreview`: nothing happens without a camera and a surface, or to a preview that runs.  The
listener is told that the camera is ready, or of the exception. -/
def startPreview (c : SonyCameraController) (camera : Camera) : Reaction :=
  if !c.active || !c.cameraOpen || !c.surfaceAvailable || c.previewStarted then { controller := c }
  else
    match (camera.throws .SetPreviewDisplay).or (camera.throws .StartPreview) with
    | none =>
      { controller := { c with previewStarted := true }, calls := [.OnCameraReadyChanged true] }
    | some e =>
      let operation :=
        if e.isIOException then bytes "Preview display failed" else bytes "Preview start failed"
      { controller := c, calls := [reportError operation e] }

/-- `requestPendingFallback`: a fallback that waited for the preview gets another timer, for what is
left of its time.  It must be that of the newest capture. -/
def requestPendingFallback (c : SonyCameraController) (camera : Camera) : List ControllerCall :=
  let generation := c.fallbackGeneration
  if generation == 0 || generation != c.captureGeneration then []
  else
    let delay := c.fallbackDeadlineMs - camera.uptimeMillis
    [.PostDelayed (.Pending generation) (if delay < 0 then 0 else delay)]

/-- `restartPreviewIfRequired`: a preview that cannot be started ends the command with an exception,
after its error has been reported. -/
def restartPreviewIfRequired (c : SonyCameraController) (camera : Camera) : Attempt :=
  if c.previewStarted then { controller := c }
  else
    let out := c.startPreview camera
    if !out.controller.previewStarted then
      { out with
        thrown := some ⟨bytes "java.lang.IllegalStateException",
          bytes "java.lang.IllegalStateException: preview unavailable", false⟩ }
    else { out with calls := out.calls ++ out.controller.requestPendingFallback camera }

/-- `surfaceCreated`: the preview can be shown now, and is started if the rest is there. -/
def surfaceCreated (c : SonyCameraController) (camera : Camera) : Reaction :=
  { c with surfaceAvailable := true }.startPreview camera

/-- `surfaceDestroyed`: the listener is told that the camera is not ready, whether it was or not. -/
def surfaceDestroyed (c : SonyCameraController) : Reaction :=
  { controller := { c with surfaceAvailable := false, previewStarted := false }
    calls := [.OnCameraReadyChanged false] }

/-! ## Starting and stopping -/

/-- `start`.  The session is active also when the camera could not be opened, and then the preview is
not started. -/
def start (c : SonyCameraController) (camera : Camera) : Reaction :=
  if c.active then { controller := c }
  else
    let c := { c with active := true, previewStarted := false, previewWorker := true }
    match (camera.throws .Open).or (camera.throws .SetJpegListener) with
    | some e =>
      { controller := { c with cameraOpen := false }
        calls := [reportError (bytes "Camera open failed") e] }
    | none =>
      let c := { c with cameraOpen := true }
      if c.surfaceAvailable then c.startPreview camera else { controller := c }

/-- What `stop` does with a camera that is open, step by step; each may fail. -/
def release (camera : Camera) : List ControllerCall :=
  [(bytes "Cancel autofocus during release failed", CameraMethod.CancelAutoFocus),
    (bytes "Cancel shutter during release failed", .CancelTakePicture),
    (bytes "Remove JPEG listener failed", .SetJpegListener),
    (bytes "Camera release failed", .Release)].filterMap fun (operation, method) =>
      (camera.throws method).map (reportError operation)

/-- `stop`: everything is given up, the handler's callbacks first, and the camera is released last.
The number of captures goes on, so that nothing that comes late is taken for something new; an `int`
goes on at its least value after its greatest. -/
def stop (c : SonyCameraController) (camera : Camera) : Reaction :=
  if !c.active && !c.cameraOpen then { controller := c }
  else
    { controller :=
        { c with
          active := false, captureGeneration := (c.captureGeneration + 1).bmod (2 ^ 32)
          fallbackGeneration := 0, fallbackDeadlineMs := 0, cameraOpen := false
          previewStarted := false, previewWorker := false }
      calls := [.RemoveCallbacks, .OnCameraReadyChanged false] ++
        if c.cameraOpen then release camera else [] }

/-! ## Commands -/

/-- `scheduleFallback`: the fallback of this capture is pending, with a deadline and a timer for it.
-/
def scheduleFallback (c : SonyCameraController) (camera : Camera) (generation : ℤ) : Reaction :=
  { controller :=
      { c with
        fallbackGeneration := generation
        fallbackDeadlineMs := camera.uptimeMillis + jpegTimeoutMs }
    calls := [.PostDelayed (.Scheduled generation) jpegTimeoutMs] }

/-- The `switch` of `executeCommand`, for the commands of the camera.  A capture stops the preview,
and the release of the shutter is what starts it again. -/
def attempt (c : SonyCameraController) (camera : Camera) : CommandType → Attempt
  | .StartAutofocus => { controller := c, thrown := camera.throws .AutoFocus }
  | .CancelAutofocus => { controller := c, thrown := camera.throws .CancelAutoFocus }
  | .Capture =>
    match camera.throws .TakePicture with
    | some e => { controller := c, thrown := some e }
    | none =>
      let generation := (c.captureGeneration + 1).bmod (2 ^ 32)
      { { c with previewStarted := false, captureGeneration := generation }.scheduleFallback camera
          generation with }
  | .ReleaseShutter =>
    match camera.throws .CancelTakePicture with
    | some e => { controller := c, thrown := some e }
    | none => c.restartPreviewIfRequired camera
  | .RestartPreview => c.restartPreviewIfRequired camera
  | .UpdateScreen => { controller := c }

/-- `executeCommand`: a command ends in one result, be it refused, carried out or ended by an
exception. -/
def executeCommand (c : SonyCameraController) (camera : Camera) (commandId : ℤ)
    (type : CommandType) : Reaction :=
  if !c.cameraOpen || !c.active then
    { controller := c
      calls := [.OnCameraCommandResult commandId type (-1) (bytes "camera unavailable")] }
  else if type = .UpdateScreen then
    { controller := c
      calls := [.OnCameraCommandResult commandId type (-2) (bytes "unknown camera command")] }
  else
    let out := c.attempt camera type
    match out.thrown with
    | none =>
      { controller := out.controller
        calls := out.calls ++ [.OnCameraCommandResult commandId type 0 (bytes "ok")] }
    | some e =>
      let operation := bytes "Camera command failed type=" ++ formatNat type.number
      { controller := out.controller
        calls := out.calls ++
          [reportError operation e, .OnCameraCommandResult commandId type (-1) e.name] }

end SonyCameraController

/-! ## What the listener learns -/

/-- A change of the readiness, if this is one. -/
def ControllerCall.ready? : ControllerCall → Option Bool
  | .OnCameraReadyChanged ready => some ready
  | _ => none

/-- The result of a command, if this is one. -/
def ControllerCall.result? : ControllerCall → Option (ℤ × Bytes)
  | .OnCameraCommandResult _ _ resultCode message => some (resultCode, message)
  | _ => none

/-- The changes of the readiness that the listener is told of, in their order. -/
def Reaction.readies (out : Reaction) : List Bool := out.calls.filterMap ControllerCall.ready?

/-- The result that the listener is told, of which there is one at most. -/
def Reaction.result? (out : Reaction) : Option (ℤ × Bytes) :=
  out.calls.findSome? ControllerCall.result?

namespace SonyCameraController

/-- The preview can be started: there is a session, a camera and a surface. -/
def Available (c : SonyCameraController) : Prop :=
  c.active = true ∧ c.cameraOpen = true ∧ c.surfaceAvailable = true

/-- A preview that was started could be, so that a running preview has all it needs. -/
def Showing (c : SonyCameraController) : Prop := c.previewStarted = true → c.Available

/-- The camera goes on as it was, or its preview has been started and the listener told. -/
structure Steady (c : SonyCameraController) (out : Reaction) : Prop where
  showing : out.controller.Showing
  available : out.controller.Available ↔ c.Available
  readies : (out.readies = [] ∧ out.controller.isReady = c.isReady) ∨
    (out.readies = [true] ∧ out.controller.isReady = true)

/-- The listener is told nothing, and the preview is stopped at most. -/
structure Silent (c : SonyCameraController) (out : Reaction) : Prop where
  showing : out.controller.Showing
  available : out.controller.Available ↔ c.Available
  readies : out.readies = []
  isReady : out.controller.isReady = true → c.isReady = true

variable {c : SonyCameraController} {camera : Camera}

lemma readies_append (c : SonyCameraController) (asked : List ControllerCall)
    {calls : List ControllerCall} (hcalls : calls.filterMap ControllerCall.ready? = []) :
    Reaction.readies ⟨c, asked ++ calls⟩ = Reaction.readies ⟨c, asked⟩ := by
  simp [Reaction.readies, hcalls]

lemma Showing.isReady (h : c.Showing) : c.isReady = c.previewStarted := by
  rw [SonyCameraController.isReady]
  cases hstarted : c.previewStarted with
  | false => simp
  | true => simp [(h hstarted).1, (h hstarted).2.1]

lemma Steady.refl (h : c.Showing) {calls : List ControllerCall}
    (hcalls : calls.filterMap ControllerCall.ready? = []) : c.Steady ⟨c, calls⟩ :=
  ⟨h, Iff.rfl, Or.inl ⟨hcalls, rfl⟩⟩

/-- More is asked for, but nothing about the readiness. -/
lemma Steady.append {out : Reaction} (h : c.Steady out) {calls : List ControllerCall}
    (hcalls : calls.filterMap ControllerCall.ready? = []) :
    c.Steady ⟨out.controller, out.calls ++ calls⟩ := by
  refine ⟨h.showing, h.available, ?_⟩
  rw [readies_append out.controller out.calls hcalls]
  exact h.readies

lemma Silent.refl (h : c.Showing) {calls : List ControllerCall}
    (hcalls : calls.filterMap ControllerCall.ready? = []) : c.Silent ⟨c, calls⟩ :=
  ⟨h, Iff.rfl, hcalls, id⟩

lemma Silent.append {out : Reaction} (h : c.Silent out) {calls : List ControllerCall}
    (hcalls : calls.filterMap ControllerCall.ready? = []) :
    c.Silent ⟨out.controller, out.calls ++ calls⟩ := by
  refine ⟨h.showing, h.available, ?_, h.isReady⟩
  rw [readies_append out.controller out.calls hcalls]
  exact h.readies

lemma startPreview_steady (h : c.Showing) (camera : Camera) : c.Steady (c.startPreview camera) := by
  rw [startPreview]
  split_ifs with hcannot
  · exact Steady.refl h rfl
  simp only [Bool.or_eq_true, Bool.not_eq_true', not_or, Bool.not_eq_false, and_assoc] at hcannot
  obtain ⟨hactive, hopen, hsurface, -⟩ := hcannot
  cases (camera.throws .SetPreviewDisplay).or (camera.throws .StartPreview) with
  | none =>
      refine ⟨fun _ => ⟨hactive, hopen, hsurface⟩, Iff.rfl, Or.inr ⟨rfl, ?_⟩⟩
      simp [SonyCameraController.isReady, hactive, hopen]
  | some e => exact Steady.refl h rfl

/-- It has nothing to do with a command. -/
lemma startPreview_result (c : SonyCameraController) (camera : Camera) :
    (c.startPreview camera).result? = none := by
  rw [startPreview]
  split_ifs
  · rfl
  · cases (camera.throws .SetPreviewDisplay).or (camera.throws .StartPreview) <;> rfl

lemma restartPreviewIfRequired_steady (h : c.Showing) (camera : Camera) :
    c.Steady (c.restartPreviewIfRequired camera).toReaction := by
  have hstart := startPreview_steady h camera
  rw [restartPreviewIfRequired]
  dsimp only
  split_ifs
  · exact Steady.refl h rfl
  · exact hstart
  · refine hstart.append ?_
    rw [requestPendingFallback]
    dsimp only
    split_ifs <;> rfl

/-- Every command but a capture tells the listener of each change of the readiness. -/
lemma attempt_steady (h : c.Showing) (camera : Camera) {type : CommandType}
    (htype : type ≠ .Capture) : c.Steady (c.attempt camera type).toReaction := by
  cases type with
  | Capture => exact absurd rfl htype
  | StartAutofocus | CancelAutofocus | UpdateScreen => exact Steady.refl h rfl
  | RestartPreview => exact restartPreviewIfRequired_steady h camera
  | ReleaseShutter =>
      rw [attempt]
      cases camera.throws .CancelTakePicture with
      | none => exact restartPreviewIfRequired_steady h camera
      | some e => exact Steady.refl h rfl

lemma executeCommand_steady (h : c.Showing) (camera : Camera) (commandId : ℤ) {type : CommandType}
    (htype : type ≠ .Capture) : c.Steady (c.executeCommand camera commandId type) := by
  have hattempt := attempt_steady h camera htype
  rw [executeCommand]
  split_ifs
  · exact Steady.refl h rfl
  · exact Steady.refl h rfl
  · dsimp only
    cases (c.attempt camera type).thrown with
    | none => exact hattempt.append rfl
    | some e => exact hattempt.append rfl

lemma attempt_capture (h : c.Showing) (camera : Camera) :
    c.Silent (c.attempt camera .Capture).toReaction := by
  rw [attempt]
  cases camera.throws .TakePicture with
  | some e => exact Silent.refl h rfl
  | none =>
      refine ⟨fun hstarted => (by cases hstarted), Iff.rfl, rfl, fun hready => ?_⟩
      simp [SonyCameraController.isReady, scheduleFallback] at hready

/-- A capture tells the listener nothing, whether or not it stops the preview. -/
lemma executeCommand_capture (h : c.Showing) (camera : Camera) (commandId : ℤ) :
    c.Silent (c.executeCommand camera commandId .Capture) := by
  have hattempt := attempt_capture h camera
  rw [executeCommand]
  split_ifs with hclosed hscreen
  · exact Silent.refl h rfl
  · exact hscreen.elim
  · dsimp only
    cases (c.attempt camera .Capture).thrown with
    | none => exact hattempt.append rfl
    | some e => exact hattempt.append rfl

/-- A release restarts the preview, if nothing is thrown. -/
lemma executeCommand_release (h : c.Available) (hcancel : camera.throws .CancelTakePicture = none)
    (hdisplay : camera.throws .SetPreviewDisplay = none)
    (hstart : camera.throws .StartPreview = none) (commandId : ℤ) :
    (c.executeCommand camera commandId .ReleaseShutter).controller.isReady = true := by
  obtain ⟨hactive, hopen, hsurface⟩ := h
  cases hstarted : c.previewStarted with
  | true =>
      simp [executeCommand, hactive, hopen, attempt, hcancel, restartPreviewIfRequired, hstarted,
        SonyCameraController.isReady]
  | false =>
      simp [executeCommand, hactive, hopen, attempt, hcancel, restartPreviewIfRequired, hstarted,
        startPreview, hsurface, hdisplay, hstart, SonyCameraController.isReady]

/-- Every command has exactly one result, also when the camera throws. -/
lemma executeCommand_result (c : SonyCameraController) (camera : Camera) (commandId : ℤ)
    (type : CommandType) : (c.executeCommand camera commandId type).result?.isSome = true := by
  have hlast : ∀ (out : SonyCameraController) (calls : List ControllerCall) (code : ℤ)
      (message : Bytes), .OnCameraCommandResult commandId type code message ∈ calls →
      (Reaction.result? ⟨out, calls⟩).isSome = true := by
    intro out calls code message hmem
    rw [Reaction.result?, List.findSome?_isSome_iff]
    exact ⟨_, hmem, rfl⟩
  rw [executeCommand]
  split_ifs
  · exact hlast _ _ (-1) _ List.mem_cons_self
  · exact hlast _ _ (-2) _ List.mem_cons_self
  · dsimp only
    cases (c.attempt camera type).thrown with
    | none => exact hlast _ _ 0 (bytes "ok") (by simp)
    | some e => exact hlast _ _ (-1) e.name (by simp)

lemma start_showing (h : c.Showing) (camera : Camera) : (c.start camera).controller.Showing := by
  rw [start]
  split_ifs
  · exact h
  dsimp only
  cases (camera.throws .Open).or (camera.throws .SetJpegListener) with
  | some e => exact fun hstarted => by cases hstarted
  | none =>
      dsimp only
      split_ifs
      · refine (startPreview_steady ?_ camera).showing
        exact fun hstarted => by cases hstarted
      · exact fun hstarted => by cases hstarted

lemma stop_showing (h : c.Showing) (camera : Camera) : (c.stop camera).controller.Showing := by
  rw [stop]
  by_cases hstopped : (!c.active && !c.cameraOpen) = true
  · rw [if_pos hstopped]
    exact h
  · rw [if_neg hstopped]
    exact fun hstarted => by cases hstarted

end SonyCameraController

end LegacyAlpha
