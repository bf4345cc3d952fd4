import LegacyAlphaRemote.Java.FallbackRuns

/-!
# The camera, opened and released

`SonyCameraController.java` once more, for what it does with the camera itself: the methods of
`CameraEx` and of the `Camera` behind it that it calls, in order, with those that throw
(`SonyCameraController.hardware`).  Left out is `getNormalCamera`, which only hands that `Camera` over.
A camera that is open belongs to the app alone, and so does its shutter while a picture is taken.

`FallbackRun.cameraSessions` says that the calls of every run make up sessions.  A session begins with
`open`.  It ends with autofocus and shutter cancelled and the camera released, whatever throws then
and wherever the commands of the native side were left off; nothing is called outside of a session,
however late a timer fires or a frame comes.  There is one exception: a camera whose listener cannot
be set is forgotten, and never released.
-/

namespace LegacyAlpha

/-! ## The calls -/

/-- A method of Sony's camera, or of the `Camera` that comes with a frame. -/
inductive HardwareMethod
  | Of (method : CameraMethod)
  | SetOneShotPreviewCallback
  | GetParameters
  deriving DecidableEq, Repr

/-- A call of a method of the camera, which returns or throws. -/
structure HardwareCall where
  method : HardwareMethod
  failed : Bool
  deriving DecidableEq, Repr

/-- A call of a camera that answers like this, with what becomes of it. -/
def Camera.call (camera : Camera) (method : CameraMethod) : HardwareCall :=
  ⟨.Of method, (camera.throws method).isSome⟩

/-- Calls in a `try`: none is made after one that throws. -/
def untilFailed : List HardwareCall → List HardwareCall
  | [] => []
  | call :: calls => call :: if call.failed then [] else untilFailed calls

namespace SonyCameraController

/-- The calls of `startPreview`: two in one `try`, unless the preview cannot or need not be started.
-/
def startPreviewHardware (c : SonyCameraController) (camera : Camera) : List HardwareCall :=
  if !c.active || !c.cameraOpen || !c.surfaceAvailable || c.previewStarted then []
  else untilFailed [camera.call .SetPreviewDisplay, camera.call .StartPreview]

/-- The calls of `restartPreviewIfRequired`, which are those of `startPreview` or none. -/
def restartPreviewHardware (c : SonyCameraController) (camera : Camera) : List HardwareCall :=
  if c.previewStarted then [] else c.startPreviewHardware camera

/-- The calls of `start`: the camera is opened and gets its listener, and the preview is started if
both have succeeded. -/
def startHardware (c : SonyCameraController) (camera : Camera) : List HardwareCall :=
  if c.active then []
  else
    untilFailed [camera.call .Open, camera.call .SetJpegListener] ++
      if ((camera.throws .Open).or (camera.throws .SetJpegListener)).isSome then []
      else
        { c with active := true, previewStarted := false, cameraOpen := true }.startPreviewHardware
          camera

/-- The calls of `stop`, each in a `try` of its own, so that all of them are made whatever they throw.
-/
def stopHardware (c : SonyCameraController) (camera : Camera) : List HardwareCall :=
  if !c.cameraOpen then []
  else [camera.call .CancelAutoFocus, camera.call .CancelTakePicture, camera.call .SetJpegListener,
    camera.call .Release]

/-- The calls of `executeCommand`, none of them without an open camera.  The release of the shutter
restarts the preview after it. -/
def executeHardware (c : SonyCameraController) (camera : Camera) (type : CommandType) :
    List HardwareCall :=
  if !c.cameraOpen || !c.active then []
  else
    match type with
    | .StartAutofocus => [camera.call .AutoFocus]
    | .CancelAutofocus => [camera.call .CancelAutoFocus]
    | .Capture => [camera.call .TakePicture]
    | .ReleaseShutter =>
      camera.call .CancelTakePicture ::
        if (camera.throws .CancelTakePicture).isSome then [] else c.restartPreviewHardware camera
    | .RestartPreview => c.restartPreviewHardware camera
    | .UpdateScreen => []

/-- The calls of a timer that fires, in `requestLiveViewFallback`: a frame is asked for while the
preview runs. -/
def timerHardware (c : SonyCameraController) (thrown : Option Thrown) (timer : FallbackTimer) :
    List HardwareCall :=
  if c.active && c.fallbackGeneration == timer.generation && c.previewStarted && c.cameraOpen then
    [⟨.SetOneShotPreviewCallback, thrown.isSome⟩]
  else []

/-- The calls of `onPreviewFrame`, which asks for the parameters twice if nothing throws before.  A
frame that is too late makes none. -/
def frameHardware (c : SonyCameraController) (thrown : Option FrameFailure) (generation : ℤ) :
    List HardwareCall :=
  if c.fallbackGeneration != generation then []
  else
    match thrown with
    | some .GetParameters => [⟨.GetParameters, true⟩]
    | some .GetPreviewSize => [⟨.GetParameters, false⟩]
    | some .GetParametersAgain => [⟨.GetParameters, false⟩, ⟨.GetParameters, true⟩]
    | some .Later | none => [⟨.GetParameters, false⟩, ⟨.GetParameters, false⟩]

/-- The calls that are made when this happens.  A JPEG is handled without the camera. -/
def hardware (c : SonyCameraController) : FallbackOp → List HardwareCall
  | .Start camera => c.startHardware camera
  | .Stop camera => c.stopHardware camera
  | .ExecuteCommand camera _ type => c.executeHardware camera type
  | .SurfaceCreated camera => { c with surfaceAvailable := true }.startPreviewHardware camera
  | .SurfaceDestroyed => []
  | .Timer timer thrown => c.timerHardware thrown timer
  | .Frame generation thrown _ => c.frameHardware thrown generation
  | .Jpeg _ _ _ => []

end SonyCameraController

/-- The calls of a run, in the order in which they are made. -/
def hardwareCalls (steps : List FallbackStep) : List HardwareCall :=
  steps.flatMap fun s => s.before.hardware s.op

/-! ## Sessions -/

/-- A call that is made of a camera that is open, and leaves it open. -/
def HardwareCall.InUse (call : HardwareCall) : Prop :=
  call.method ≠ .Of .Open ∧ call.method ≠ .Of .SetJpegListener ∧ call.method ≠ .Of .Release

/-- The camera is open, with its listener: how a session begins. -/
def opening : List HardwareCall := [⟨.Of .Open, false⟩, ⟨.Of .SetJpegListener, false⟩]

/-- The camera is given back: the four calls of `stop`, each of which may throw. -/
structure IsClosing (calls : List HardwareCall) : Prop where
  methods : calls.map HardwareCall.method =
    [.Of .CancelAutoFocus, .Of .CancelTakePicture, .Of .SetJpegListener, .Of .Release]

/-- A session that goes on: the camera was opened, and since then it has been used only. -/
def UnderWay (calls : List HardwareCall) : Prop :=
  ∃ uses, calls = opening ++ uses ∧ ∀ call ∈ uses, call.InUse

/-- A session that is over: the camera could not be opened, was opened and forgotten, or was used and
given back. -/
inductive Finished : List HardwareCall → Prop
  | refused : Finished [⟨.Of .Open, true⟩]
  | forgotten : Finished [⟨.Of .Open, false⟩, ⟨.Of .SetJpegListener, true⟩]
  | released {calls closing : List HardwareCall} : UnderWay calls → IsClosing closing →
      Finished (calls ++ closing)

/-- What a callback does with the camera, which is open before and after it or not. -/
def Handles (openBefore openAfter : Bool) (calls : List HardwareCall) : Prop :=
  match openBefore, openAfter with
  | false, false => calls = [] ∨ Finished calls
  | false, true => UnderWay calls
  | true, true => ∀ call ∈ calls, call.InUse
  | true, false => IsClosing calls

variable {c : SonyCameraController} {steps : List FallbackStep} {sys : FallbackSystem}

lemma handles_nil (isOpen : Bool) : Handles isOpen isOpen [] := by
  cases isOpen with
  | false => exact Or.inl rfl
  | true => exact fun call hcall => nomatch hcall

namespace SonyCameraController

lemma startPreviewHardware_inUse (c : SonyCameraController) (camera : Camera) :
    ∀ call ∈ c.startPreviewHardware camera, call.InUse := by
  intro call hcall
  rw [startPreviewHardware] at hcall
  split_ifs at hcall
  · cases hcall
  · simp only [untilFailed] at hcall
    split_ifs at hcall <;> simp only [List.mem_cons, List.not_mem_nil, or_false] at hcall
    · rw [hcall]
      simp [HardwareCall.InUse, Camera.call]
    · rcases hcall with rfl | rfl <;> simp [HardwareCall.InUse, Camera.call]
    · rcases hcall with rfl | rfl <;> simp [HardwareCall.InUse, Camera.call]

lemma startPreviewHardware_closed (camera : Camera) (hclosed : c.cameraOpen = false) :
    c.startPreviewHardware camera = [] := by
  simp [startPreviewHardware, hclosed]

lemma startPreview_cameraOpen (c : SonyCameraController) (camera : Camera) :
    (c.startPreview camera).controller.cameraOpen = c.cameraOpen := by
  rw [startPreview]
  split_ifs
  · rfl
  · cases (camera.throws .SetPreviewDisplay).or (camera.throws .StartPreview) <;> rfl

lemma start_cameraOpen (camera : Camera) (hactive : c.active = false) :
    (c.start camera).controller.cameraOpen =
      ((camera.throws .Open).or (camera.throws .SetJpegListener)).isNone := by
  rw [start, hactive, if_neg Bool.false_ne_true]
  cases (camera.throws .Open).or (camera.throws .SetJpegListener) with
  | some e => rfl
  | none =>
      dsimp only
      split_ifs
      · rw [startPreview_cameraOpen]
        rfl
      · rfl

lemma start_handles (camera : Camera) (hsession : c.cameraOpen = true → c.active = true) :
    Handles c.cameraOpen (c.start camera).controller.cameraOpen (c.startHardware camera) := by
  cases hactive : c.active with
  | true =>
      rw [start, startHardware, hactive]
      exact handles_nil c.cameraOpen
  | false =>
      have hclosed : c.cameraOpen = false := by
        rw [← Bool.not_eq_true]
        intro hopen
        simp [hsession hopen] at hactive
      rw [hclosed, start_cameraOpen camera hactive, startHardware, hactive, if_neg Bool.false_ne_true]
      cases hopen : camera.throws .Open with
      | some e =>
          have hcalls : untilFailed [camera.call .Open, camera.call .SetJpegListener] =
              [⟨.Of .Open, true⟩] := by
            simp [untilFailed, Camera.call, hopen]
          rw [hcalls]
          exact Or.inr .refused
      | none =>
          cases hlistener : camera.throws .SetJpegListener with
          | some e =>
              have hcalls : untilFailed [camera.call .Open, camera.call .SetJpegListener] =
                  [⟨.Of .Open, false⟩, ⟨.Of .SetJpegListener, true⟩] := by
                simp [untilFailed, Camera.call, hopen, hlistener]
              rw [hcalls]
              exact Or.inr .forgotten
          | none =>
              have hcalls : untilFailed [camera.call .Open, camera.call .SetJpegListener] =
                  opening := by
                simp [untilFailed, Camera.call, hopen, hlistener, opening]
              rw [hcalls]
              exact ⟨_, rfl, startPreviewHardware_inUse _ camera⟩

lemma stop_handles (c : SonyCameraController) (camera : Camera) :
    Handles c.cameraOpen (c.stop camera).controller.cameraOpen (c.stopHardware camera) := by
  rw [stop, stopHardware]
  cases hopen : c.cameraOpen with
  | false =>
      cases c.active <;> simp [Handles, hopen]
  | true =>
      simp only [Bool.not_true, Bool.and_false, Bool.false_eq_true, if_false]
      exact ⟨rfl⟩

lemma frameHardware_inUse (c : SonyCameraController) (thrown : Option FrameFailure) (generation : ℤ) :
    ∀ call ∈ c.frameHardware thrown generation, call.InUse := by
  have hparameters : ∀ call ∈ c.frameHardware thrown generation, call.method = .GetParameters := by
    unfold frameHardware
    split_ifs
    · simp
    · rcases thrown with _ | _ | _ | _ | _ <;> simp
  intro call hcall
  simp [HardwareCall.InUse, hparameters call hcall]

lemma restartPreviewIfRequired_cameraOpen (c : SonyCameraController) (camera : Camera) :
    (c.restartPreviewIfRequired camera).controller.cameraOpen = c.cameraOpen := by
  rw [restartPreviewIfRequired]
  dsimp only
  split_ifs
  · rfl
  · exact c.startPreview_cameraOpen camera
  · exact c.startPreview_cameraOpen camera

lemma attempt_cameraOpen (c : SonyCameraController) (camera : Camera) (type : CommandType) :
    (c.attempt camera type).controller.cameraOpen = c.cameraOpen := by
  cases type with
  | StartAutofocus | CancelAutofocus | UpdateScreen => rfl
  | Capture =>
      rw [attempt]
      cases camera.throws .TakePicture <;> rfl
  | ReleaseShutter =>
      rw [attempt]
      cases camera.throws .CancelTakePicture with
      | none => exact c.restartPreviewIfRequired_cameraOpen camera
      | some e => rfl
  | RestartPreview => exact c.restartPreviewIfRequired_cameraOpen camera

lemma restartPreviewHardware_inUse (c : SonyCameraController) (camera : Camera) :
    ∀ call ∈ c.restartPreviewHardware camera, call.InUse := by
  intro call hcall
  rw [restartPreviewHardware] at hcall
  split_ifs at hcall
  · cases hcall
  · exact c.startPreviewHardware_inUse camera call hcall

lemma executeCommand_cameraOpen (c : SonyCameraController) (camera : Camera) (commandId : ℤ)
    (type : CommandType) :
    (c.executeCommand camera commandId type).controller.cameraOpen = c.cameraOpen := by
  rw [executeCommand]
  dsimp only
  split_ifs
  · rfl
  · rfl
  · cases (c.attempt camera type).thrown <;> exact c.attempt_cameraOpen camera type

lemma executeHardware_inUse (c : SonyCameraController) (camera : Camera) (type : CommandType) :
    ∀ call ∈ c.executeHardware camera type, call.InUse := by
  intro call hcall
  unfold executeHardware at hcall
  by_cases hclosed : (!c.cameraOpen || !c.active) = true
  · rw [if_pos hclosed] at hcall
    cases hcall
  rw [if_neg hclosed] at hcall
  have hrestart := c.restartPreviewHardware_inUse camera
  have hone : ∀ method : CameraMethod, method ≠ .Open → method ≠ .SetJpegListener →
      method ≠ .Release → (camera.call method).InUse := by
    rintro method hopen hlistener hrelease
    simp [HardwareCall.InUse, Camera.call, hopen, hlistener, hrelease]
  cases type with
  | StartAutofocus | CancelAutofocus | Capture =>
      rw [List.mem_singleton.mp hcall]
      exact hone _ (by simp) (by simp) (by simp)
  | ReleaseShutter =>
      rcases List.mem_cons.mp hcall with rfl | hcall
      · exact hone _ (by simp) (by simp) (by simp)
      · split_ifs at hcall
        · cases hcall
        · exact hrestart call hcall
  | RestartPreview => exact hrestart call hcall
  | UpdateScreen => cases hcall

lemma executeCommand_handles (c : SonyCameraController) (camera : Camera) (commandId : ℤ)
    (type : CommandType) :
    Handles c.cameraOpen (c.executeCommand camera commandId type).controller.cameraOpen
      (c.executeHardware camera type) := by
  rw [executeCommand_cameraOpen]
  cases hopen : c.cameraOpen with
  | true => exact c.executeHardware_inUse camera type
  | false =>
      refine Or.inl ?_
      unfold executeHardware
      rw [hopen]
      rfl

/-- **What a callback does with the camera.**  A frame is taken for one that is waited for only while
the camera is open. -/
lemma perform_handles (c : SonyCameraController) (op : FallbackOp)
    (hsession : c.cameraOpen = true → c.active = true)
    (hframe : ∀ generation thrown busy, op = .Frame generation thrown busy →
      c.fallbackGeneration = generation → c.cameraOpen = true) :
    Handles c.cameraOpen (c.perform op).controller.cameraOpen (c.hardware op) := by
  cases op with
  | Start camera => exact start_handles camera hsession
  | Stop camera => exact c.stop_handles camera
  | ExecuteCommand camera commandId type => exact c.executeCommand_handles camera commandId type
  | SurfaceCreated camera =>
      have hkept : (c.surfaceCreated camera).controller.cameraOpen = c.cameraOpen := by
        rw [surfaceCreated, startPreview_cameraOpen]
      show Handles c.cameraOpen (c.surfaceCreated camera).controller.cameraOpen _
      rw [hkept]
      cases hopen : c.cameraOpen with
      | true => exact startPreviewHardware_inUse _ camera
      | false => exact Or.inl (startPreviewHardware_closed camera hopen)
  | SurfaceDestroyed => exact handles_nil c.cameraOpen
  | Timer timer thrown =>
      have hkept : (c.runTimer thrown timer).controller.cameraOpen = c.cameraOpen := by
        rw [runTimer_eq]
        unfold requestLiveViewFallback
        split_ifs
        · rfl
        · cases thrown <;> rfl
        · rfl
      show Handles c.cameraOpen (c.runTimer thrown timer).controller.cameraOpen _
      rw [hkept, hardware, timerHardware]
      split_ifs with hdue
      · have hopen : c.cameraOpen = true := by
          simp only [Bool.and_eq_true] at hdue
          exact hdue.2
        rw [hopen]
        intro call hcall
        rw [List.mem_singleton.mp hcall]
        simp [HardwareCall.InUse]
      · exact handles_nil c.cameraOpen
  | Frame generation thrown busy =>
      have hkept : (c.onPreviewFrame thrown busy generation).controller.cameraOpen = c.cameraOpen := by
        unfold onPreviewFrame
        split_ifs
        · rfl
        · cases thrown <;> rfl
      show Handles c.cameraOpen (c.onPreviewFrame thrown busy generation).controller.cameraOpen _
      rw [hkept]
      by_cases hcurrent : c.fallbackGeneration = generation
      · rw [hframe generation thrown busy rfl hcurrent]
        exact c.frameHardware_inUse thrown generation
      · have hnone : c.frameHardware thrown generation = [] := if_pos (by simpa using hcurrent)
        rw [hardware, hnone]
        exact handles_nil c.cameraOpen
  | Jpeg number data busy =>
      have hkept : (c.handleCapturedJpeg data busy).controller.cameraOpen = c.cameraOpen := by
        rw [handleCapturedJpeg]
        split_ifs <;> rfl
      show Handles c.cameraOpen (c.handleCapturedJpeg data busy).controller.cameraOpen _
      rw [hkept]
      exact handles_nil c.cameraOpen

end SonyCameraController

/-! ## Runs -/

/-- The camera is open during a session of the controller only, and whenever a picture of the live view
is waited for. -/
structure Attended (c : SonyCameraController) : Prop where
  session : c.cameraOpen = true → c.active = true
  waiting : c.fallbackGeneration ≠ 0 → c.cameraOpen = true

namespace Attended

/-- While the controller is not active, only `start` makes a difference. -/
lemma of_inactive (h : Attended c) (hactive : c.active = false) (op : FallbackOp) :
    Attended (c.perform op).controller := by
  have hclosed : c.cameraOpen = false := by
    rw [← Bool.not_eq_true]
    intro hopen
    simp [h.session hopen] at hactive
  have hnone : c.fallbackGeneration = 0 := by
    by_contra hpending
    simp [h.waiting hpending] at hclosed
  have hsame : ∀ c' : SonyCameraController, c'.cameraOpen = false → c'.fallbackGeneration = 0 →
      Attended c' := by
    intro c' hclosed' hnone'
    exact ⟨fun hopen => by simp [hclosed'] at hopen, fun hpending => absurd hnone' hpending⟩
  cases op with
  | Start camera =>
      refine ⟨fun _ => ?_, fun hpending => absurd ?_ hpending⟩
      · show (c.start camera).controller.active = true
        rw [SonyCameraController.start, hactive, if_neg Bool.false_ne_true]
        dsimp only
        split
        · rfl
        · split_ifs
          · exact ((SonyCameraController.startPreview_keeps _ camera).session rfl).1
          · rfl
      · exact (c.start_keeps camera).fallbackGeneration.trans hnone
  | Stop camera =>
      have hstop : (c.stop camera).controller = c := by
        simp [SonyCameraController.stop, hactive, hclosed]
      exact hstop.symm ▸ h
  | ExecuteCommand camera commandId type =>
      have hexecute : (c.executeCommand camera commandId type).controller = c := by
        simp [SonyCameraController.executeCommand, hclosed]
      exact hexecute.symm ▸ h
  | SurfaceCreated camera =>
      refine hsame _ ?_ ?_
      · exact (SonyCameraController.startPreview_cameraOpen _ camera).trans hclosed
      · exact (SonyCameraController.startPreview_keeps { c with surfaceAvailable := true }
          camera).fallbackGeneration.trans hnone
  | SurfaceDestroyed => exact hsame _ hclosed hnone
  | Timer timer thrown =>
      have htimer : c.runTimer thrown timer = { controller := c } := by
        rw [SonyCameraController.runTimer_eq]
        simp [hactive]
      show Attended (c.runTimer thrown timer).controller
      rw [htimer]
      exact h
  | Frame generation thrown busy =>
      refine hsame _ ?_ ?_
      · simp only [SonyCameraController.perform, SonyCameraController.onPreviewFrame]
        split_ifs
        · exact hclosed
        · cases thrown <;> exact hclosed
      · simp only [SonyCameraController.perform, SonyCameraController.onPreviewFrame]
        split_ifs
        · exact hnone
        · cases thrown <;> rfl
  | Jpeg number data busy =>
      have hjpeg : c.handleCapturedJpeg data busy = { controller := c } := by
        simp [SonyCameraController.handleCapturedJpeg, hactive]
      show Attended (c.handleCapturedJpeg data busy).controller
      rw [hjpeg]
      exact h

/-- The invariant is kept whatever happens. -/
lemma perform (h : Attended c) (op : FallbackOp) : Attended (c.perform op).controller := by
  cases hactive : c.active with
  | false => exact h.of_inactive hactive op
  | true =>
      have heffect := c.perform_effect op
      generalize c.perform op = out at heffect ⊢
      cases heffect with
      | keeps hdirect hkeeps =>
          obtain ⟨hactive', hopen⟩ := hkeeps.session hactive
          refine ⟨fun _ => hactive', fun hpending => hopen.trans (h.waiting ?_)⟩
          rwa [← hkeeps.fallbackGeneration]
      | captures _ hopen _ => exact ⟨fun _ => hactive, fun _ => hopen⟩
      | stops _ _ => exact ⟨fun hopen => Bool.noConfusion hopen, fun hpending => absurd rfl hpending⟩
      | stopped hstopped _ => simp [hactive] at hstopped
      | waits _ | asks _ | late _ | unheard _ => exact h
      | fails _ | frame _ _ | jpeg _ _ => exact ⟨h.session, fun hpending => absurd rfl hpending⟩

end Attended

/-- The invariant holds in every state of every run. -/
lemma FallbackRun.attended (hrun : FallbackRun steps sys) : Attended sys.controller := by
  induction hrun with
  | init => exact ⟨fun hopen => Bool.noConfusion hopen, fun hpending => absurd rfl hpending⟩
  | step op _ _ ih => exact ih.perform op

lemma hardwareCalls_concat (steps : List FallbackStep) (s : FallbackStep) :
    hardwareCalls (steps ++ [s]) = hardwareCalls steps ++ s.before.hardware s.op := by
  simp [hardwareCalls]

/-- **The calls of the camera make up sessions**, of which all but the last are over, and the last one
too unless the camera is open. -/
theorem FallbackRun.cameraSessions (hrun : FallbackRun steps sys)
    (hbound : steps.countP FallbackStep.advances < 2 ^ 32) :
    ∃ (sessions : List (List HardwareCall)) (last : List HardwareCall),
      hardwareCalls steps = sessions.flatten ++ last ∧
      (∀ session ∈ sessions, Finished session) ∧
      if sys.controller.cameraOpen = true then UnderWay last else last = [] := by
  induction hrun with
  | init => exact ⟨[], [], rfl, by simp, rfl⟩
  | @step steps sys op hrun henabled ih =>
      have hfewer : steps.countP FallbackStep.advances < 2 ^ 32 := by
        rw [countP_advances_concat] at hbound
        omega
      obtain ⟨sessions, last, hcalls, hover, hlast⟩ := ih hfewer
      have hattended := hrun.attended
      have hhandles := sys.controller.perform_handles op hattended.session (by
        rintro generation thrown busy rfl hcurrent
        refine hattended.waiting fun hzero => ?_
        have hmem := hrun.countsUp.frames generation henabled
        exact hrun.countsUp.ne_zero hfewer (hcurrent.symm.trans hzero ▸ hmem))
      have hafter : (sys.next op).controller = (sys.controller.perform op).controller := rfl
      rw [hardwareCalls_concat, hcalls, hafter]
      show ∃ (sessions' : List (List HardwareCall)) (last' : List HardwareCall),
        sessions.flatten ++ last ++ sys.controller.hardware op = sessions'.flatten ++ last' ∧ _
      generalize sys.controller.hardware op = calls at hhandles ⊢
      cases hopen : sys.controller.cameraOpen <;>
        cases hopen' : (sys.controller.perform op).controller.cameraOpen <;>
        rw [hopen] at hlast hhandles <;> rw [hopen'] at hhandles
      · simp only [Bool.false_eq_true, if_false] at hlast ⊢
        subst hlast
        rcases hhandles with rfl | hfinished
        · exact ⟨sessions, [], by simp, hover, rfl⟩
        · refine ⟨sessions ++ [calls], [], by simp, ?_, rfl⟩
          intro session hsession
          rcases List.mem_append.mp hsession with hold | hnew
          · exact hover session hold
          · rw [List.mem_singleton.mp hnew]
            exact hfinished
      · simp only [Bool.false_eq_true, if_false, if_true] at hlast ⊢
        subst hlast
        exact ⟨sessions, calls, by simp, hover, hhandles⟩
      · simp only [Bool.false_eq_true, if_false, if_true] at hlast ⊢
        refine ⟨sessions ++ [last ++ calls], [], by simp, ?_, rfl⟩
        intro session hsession
        rcases List.mem_append.mp hsession with hold | hnew
        · exact hover session hold
        · rw [List.mem_singleton.mp hnew]
          exact .released hlast hhandles
      · simp only [if_true] at hlast ⊢
        obtain ⟨uses, rfl, huses⟩ := hlast
        refine ⟨sessions, opening ++ uses ++ calls, by simp, hover, uses ++ calls, by simp, ?_⟩
        intro call hcall
        rcases List.mem_append.mp hcall with hold | hnew
        · exact huses call hold
        · exact hhandles call hnew

/-- A camera whose listener cannot be set, so that `start` fails after it has opened it. -/
def deaf : Camera where
  throws
    | .SetJpegListener => some ⟨bytes "java.lang.RuntimeException", bytes "no listener", false⟩
    | _ => none

/-- A session that fails, which leaves its camera open, and one that is stopped while a picture is
taken. -/
def forgottenOps : List FallbackOp :=
  [.Start deaf, .Stop deaf, .Start {}, .SurfaceCreated {}, .ExecuteCommand {} 1 .Capture, .Stop {}]

/-- Two cameras are opened, and one is released: `start` forgets the first without giving it back. -/
theorem cameraSessions_forgottenOps :
    (∃ (sessions : List (List HardwareCall)) (last : List HardwareCall),
      hardwareCalls (({} : FallbackSystem).steps forgottenOps) = sessions.flatten ++ last ∧
        (∀ session ∈ sessions, Finished session) ∧
        if (({} : FallbackSystem).nexts forgottenOps).controller.cameraOpen = true then UnderWay last
        else last = []) ∧
      ((hardwareCalls (({} : FallbackSystem).steps forgottenOps)).map HardwareCall.method).count
        (.Of .Open) = 2 ∧
      ((hardwareCalls (({} : FallbackSystem).steps forgottenOps)).map HardwareCall.method).count
        (.Of .Release) = 1 := by
  have hrun := fallbackRun_steps forgottenOps (by decide +kernel)
  exact ⟨hrun.cameraSessions (by decide +kernel), by decide +kernel, by decide +kernel⟩

end LegacyAlpha
