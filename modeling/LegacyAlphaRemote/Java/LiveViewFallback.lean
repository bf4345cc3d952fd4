import LegacyAlphaRemote.Core.Trace
import LegacyAlphaRemote.Java.SonyCameraController

/-!
# The picture of the live view

`SonyCameraController.java`, as far as it decides which pictures are handed to the worker: the JPEG of
a capture, or, when none has come in time, one frame of the live view instead.  The callbacks do not
know what they belong to, but for the number of the capture that the timers and the one-shot callback
carry with them; `captureGeneration` and `fallbackGeneration` are what they are compared with.

A run (`FallbackRun`) lets everything happen in any order: a timer that is posted fires once and
whenever it likes, a frame may come for every request that has ever been made, as often as it likes,
and so may the JPEG of every capture.  What the worker makes of a picture is left out, and so is the
log.
-/

namespace LegacyAlpha

open TraceLogic

/-- What the controller asks of the camera for the live view, what it hands to the worker, and the
errors it tells the listener instead of a picture. -/
inductive PreviewCall
  | SetOneShotPreviewCallback (generation : ℤ)
  | QueueLiveView (generation : ℤ)
  | QueueJpeg (data : Bytes)
  | OnCameraPreview (source error : Bytes)
  deriving DecidableEq, Repr

/-- The controller after a callback, and what it has asked for meanwhile, of the camera and of the
worker. -/
structure FallbackReaction extends Reaction where
  previews : List PreviewCall := []
  deriving DecidableEq, Repr

/-- Where `onPreviewFrame` throws.  It asks the camera for its parameters twice, once for the size of the
frame and once for its format. -/
inductive FrameFailure
  | GetParameters
  | GetPreviewSize
  | GetParametersAgain
  | Later
  deriving DecidableEq, Repr

/-- What may happen to the controller.  Where Sony's classes are called in the callback of a timer or of
a frame, they may throw; the worker may be busy.  `Jpeg` is the JPEG of the capture with this number,
which the controller is not told; `data` may be null. -/
inductive FallbackOp
  | Start (camera : Camera)
  | Stop (camera : Camera)
  | ExecuteCommand (camera : Camera) (commandId : ℤ) (type : CommandType)
  | SurfaceCreated (camera : Camera)
  | SurfaceDestroyed
  | Timer (timer : FallbackTimer) (thrown : Option Thrown)
  | Frame (generation : ℤ) (thrown : Option FrameFailure) (busy : Bool)
  | Jpeg (number : ℕ) (data : Option Bytes) (busy : Bool)

/-- The number of the capture that the runnable was made for, which it compares with the pending one.
-/
def FallbackTimer.generation : FallbackTimer → ℤ
  | .Scheduled generation | .Pending generation => generation

@[simp] lemma FallbackTimer.generation_scheduled (generation : ℤ) :
    (Scheduled generation).generation = generation := rfl

@[simp] lemma FallbackTimer.generation_pending (generation : ℤ) :
    (Pending generation).generation = generation := rfl

namespace SonyCameraController

/-- Both fields of the fallback, as every handler resets them: nothing is pending any more. -/
def clearFallback (c : SonyCameraController) : SonyCameraController :=
  { c with fallbackGeneration := 0, fallbackDeadlineMs := 0 }

/-- `submitPreviewTask`: a task is handed to the worker.  Without a worker nothing comes of it, and a
busy one refuses it with an error. -/
def submitPreviewTask (c : SonyCameraController) (busy : Bool) (task : PreviewCall)
    (source : Bytes) : List PreviewCall :=
  if !c.previewWorker then []
  else if busy then [.OnCameraPreview source (bytes "Preview worker busy")]
  else [task]

/-- `requestLiveViewFallback`: the next frame of the preview is asked for.  If the camera throws, the
fallback is given up. -/
def requestLiveViewFallback (c : SonyCameraController) (thrown : Option Thrown) (generation : ℤ) :
    FallbackReaction :=
  if !c.cameraOpen || !c.previewStarted then { controller := c }
  else
    match thrown with
    | none => { controller := c, previews := [.SetOneShotPreviewCallback generation] }
    | some e =>
      { controller := c.clearFallback
        previews :=
          [.SetOneShotPreviewCallback generation,
            .OnCameraPreview (bytes "live_view_fallback")
              (bytes "Fallback request failed: " ++ e.text)] }

/-- The `run` of the two runnables, of `scheduleFallback` and of `requestPendingFallback`.  Both
compare the number of the capture, and ask for nothing while the preview is stopped. -/
def runTimer (c : SonyCameraController) (thrown : Option Thrown) : FallbackTimer → FallbackReaction
  | .Scheduled generation =>
    if !c.active || c.fallbackGeneration != generation then { controller := c }
    else if c.previewStarted then c.requestLiveViewFallback thrown generation
    else { controller := c }
  | .Pending generation =>
    if c.active && c.previewStarted && c.fallbackGeneration == generation then
      c.requestLiveViewFallback thrown generation
    else { controller := c }

/-- `onPreviewFrame` and `queueLiveView`, for a frame that was asked for with this number.  An
exception ends the callback, and the fallback is cleared before it in any case. -/
def onPreviewFrame (c : SonyCameraController) (thrown : Option FrameFailure) (busy : Bool)
    (generation : ℤ) : FallbackReaction :=
  if c.fallbackGeneration != generation then { controller := c }
  else
    match thrown with
    | some _ => { controller := c.clearFallback }
    | none =>
      { controller := c.clearFallback
        previews :=
          c.submitPreviewTask busy (.QueueLiveView generation) (bytes "live_view_fallback") }

/-- `handleCapturedJpeg` and `queueJpeg`: the fallback is cleared, whichever capture the picture is
of, and the picture is queued if it is not empty. -/
def handleCapturedJpeg (c : SonyCameraController) (data : Option Bytes) (busy : Bool) :
    FallbackReaction :=
  if !c.active then { controller := c }
  else if data.getD [] = [] then
    { controller := c.clearFallback
      previews :=
        [.OnCameraPreview (bytes "captured_jpeg") (bytes "Camera returned an empty JPEG")] }
  else
    { controller := c.clearFallback
      previews := c.submitPreviewTask busy (.QueueJpeg (data.getD [])) (bytes "captured_jpeg") }

/-- What each callback does, with its own arguments. -/
def perform (c : SonyCameraController) : FallbackOp → FallbackReaction
  | .Start camera => { c.start camera with }
  | .Stop camera => { c.stop camera with }
  | .ExecuteCommand camera commandId type => { c.executeCommand camera commandId type with }
  | .SurfaceCreated camera => { c.surfaceCreated camera with }
  | .SurfaceDestroyed => { c.surfaceDestroyed with }
  | .Timer timer thrown => c.runTimer thrown timer
  | .Frame generation thrown busy => c.onPreviewFrame thrown busy generation
  | .Jpeg _ data busy => c.handleCapturedJpeg data busy

end SonyCameraController

/-! ## Runs -/

/-- The capture that a timer is posted for, which is how every capture ends. -/
def ControllerCall.scheduled? : ControllerCall → Option ℤ
  | .PostDelayed (.Scheduled generation) _ => some generation
  | _ => none

/-- The capture that a frame of the live view is asked for, if one is. -/
def PreviewCall.asked? : PreviewCall → Option ℤ
  | .SetOneShotPreviewCallback generation => some generation
  | _ => none

/-- The capture that a frame of the live view is handed to the worker for. -/
def PreviewCall.queued? : PreviewCall → Option ℤ
  | .QueueLiveView generation => some generation
  | _ => none

/-- The timers that are posted, after one more call to the handler.  `removeCallbacksAndMessages`
takes all of them away. -/
def ControllerCall.post (timers : List FallbackTimer) : ControllerCall → List FallbackTimer
  | .PostDelayed timer _ => timers ++ [timer]
  | .RemoveCallbacks => []
  | _ => timers

/-- The controller and what may still come back to it: the timers that are posted, the requests for a
frame that were ever made, and how many captures there have been. -/
structure FallbackSystem where
  controller : SonyCameraController := {}
  timers : List FallbackTimer := []
  frames : List ℤ := []
  captures : ℕ := 0
  deriving DecidableEq, Repr

/-- A step as it can be seen from outside; `captures` counts the captures up to it. -/
structure FallbackStep where
  op : FallbackOp
  before : SonyCameraController
  after : SonyCameraController
  calls : List ControllerCall
  previews : List PreviewCall
  captures : ℕ

namespace FallbackStep

/-- The number that the capture of the step has got, if it is one. -/
def captured? (s : FallbackStep) : Option ℤ := s.calls.findSome? ControllerCall.scheduled?

/-- The captures whose frames are queued in the step, one at most. -/
def queued (s : FallbackStep) : List ℤ := s.previews.filterMap PreviewCall.queued?

/-- The captures that a frame is asked for in the step, one at most. -/
def asked (s : FallbackStep) : List ℤ := s.previews.filterMap PreviewCall.asked?

end FallbackStep

namespace FallbackSystem

/-- When it can happen: a timer is posted, a frame has been asked for, and a JPEG belongs to a
capture. -/
def Enabled (sys : FallbackSystem) : FallbackOp → Prop
  | .Timer timer _ => timer ∈ sys.timers
  | .Frame generation _ _ => generation ∈ sys.frames
  | .Jpeg number _ _ => 0 < number ∧ number ≤ sys.captures
  | _ => True

instance (sys : FallbackSystem) : DecidablePred sys.Enabled
  | .Timer timer _ => inferInstanceAs (Decidable (timer ∈ sys.timers))
  | .Frame generation _ _ => inferInstanceAs (Decidable (generation ∈ sys.frames))
  | .Jpeg number _ _ => inferInstanceAs (Decidable (0 < number ∧ number ≤ sys.captures))
  | .Start _ | .Stop _ | .ExecuteCommand _ _ _ | .SurfaceCreated _ | .SurfaceDestroyed =>
    inferInstanceAs (Decidable True)

/-- The timers without the one that fires, which fires once. -/
def waiting (sys : FallbackSystem) : FallbackOp → List FallbackTimer
  | .Timer timer _ => sys.timers.erase timer
  | _ => sys.timers

/-- The step that the controller makes when this happens, as it is seen from outside. -/
def step (sys : FallbackSystem) (op : FallbackOp) : FallbackStep :=
  let out := sys.controller.perform op
  { op, before := sys.controller, after := out.controller, calls := out.calls
    previews := out.previews
    captures := sys.captures + (out.calls.filterMap ControllerCall.scheduled?).length }

/-- The system after the step: a timer that fired is gone, those posted are waiting, and a frame that
was asked for can come. -/
def next (sys : FallbackSystem) (op : FallbackOp) : FallbackSystem :=
  { controller := (sys.step op).after
    timers := (sys.step op).calls.foldl ControllerCall.post (sys.waiting op)
    frames := sys.frames ++ (sys.step op).asked
    captures := (sys.step op).captures }

/-- The steps of a run in which this happens in this order. -/
def steps (sys : FallbackSystem) : List FallbackOp → List FallbackStep
  | [] => []
  | op :: ops => sys.step op :: (sys.next op).steps ops

/-- The system to which these steps lead. -/
def nexts (sys : FallbackSystem) (ops : List FallbackOp) : FallbackSystem := ops.foldl next sys

/-- All of it can happen, each when its turn comes. -/
def AllEnabled (sys : FallbackSystem) : List FallbackOp → Prop
  | [] => True
  | op :: ops => sys.Enabled op ∧ (sys.next op).AllEnabled ops

instance decidableAllEnabled : ∀ (sys : FallbackSystem) (ops : List FallbackOp),
    Decidable (sys.AllEnabled ops)
  | _, [] => inferInstanceAs (Decidable True)
  | sys, op :: ops =>
    have := decidableAllEnabled (sys.next op) ops
    inferInstanceAs (Decidable (sys.Enabled op ∧ (sys.next op).AllEnabled ops))

end FallbackSystem

/-- A run of the controller: its steps, oldest first, and where it leads. -/
inductive FallbackRun : List FallbackStep → FallbackSystem → Prop
  | init : FallbackRun [] {}
  | step {steps : List FallbackStep} {sys : FallbackSystem} (op : FallbackOp) :
      FallbackRun steps sys → sys.Enabled op → FallbackRun (steps ++ [sys.step op]) (sys.next op)

variable {steps past rest : List FallbackStep} {sys : FallbackSystem} {s : FallbackStep}

/-- A run goes on with whatever can happen next. -/
lemma FallbackRun.extend (hrun : FallbackRun steps sys) (ops : List FallbackOp)
    (henabled : sys.AllEnabled ops) : FallbackRun (steps ++ sys.steps ops) (sys.nexts ops) := by
  induction ops generalizing steps sys with
  | nil => simpa [FallbackSystem.steps, FallbackSystem.nexts] using hrun
  | cons op ops ih =>
      have hstep := hrun.step op henabled.1
      simpa [FallbackSystem.steps, FallbackSystem.nexts] using ih hstep henabled.2

lemma fallbackRun_steps (ops : List FallbackOp) (henabled : ({} : FallbackSystem).AllEnabled ops) :
    FallbackRun (({} : FallbackSystem).steps ops) (({} : FallbackSystem).nexts ops) :=
  FallbackRun.init.extend ops henabled

/-- A run up to one of its steps. -/
lemma FallbackRun.split (hrun : FallbackRun steps sys) (hsteps : steps = past ++ s :: rest) :
    ∃ sys', FallbackRun past sys' ∧ sys'.Enabled s.op ∧ s = sys'.step s.op := by
  induction hrun generalizing rest with
  | init => simp at hsteps
  | @step steps sys op hrun henabled ih =>
      rcases concat_eq_append_cons hsteps with ⟨rfl, rfl, -⟩ | ⟨rest, hearlier, -⟩
      · exact ⟨sys, hrun, henabled, rfl⟩
      · exact ih hearlier

/-! ## What a callback does -/

/-- A timer asks for a frame when it fires: its capture is the pending one, and the preview is
running. -/
def SonyCameraController.Due (c : SonyCameraController) (timer : FallbackTimer) : Prop :=
  c.active = true ∧ c.cameraOpen = true ∧ c.previewStarted = true ∧
    c.fallbackGeneration = timer.generation

/-- The callbacks that come to the controller with nothing but a request; the others come for
something that was asked for or started before. -/
def FallbackOp.Direct : FallbackOp → Prop
  | .Start _ | .ExecuteCommand _ _ _ | .SurfaceCreated _ | .SurfaceDestroyed => True
  | .Stop _ | .Timer _ _ | .Frame _ _ _ | .Jpeg _ _ _ => False

namespace SonyCameraController

/-- The numbers are left alone, and so is a session; no capture is scheduled, and a timer is posted at
most for the capture that is waited for. -/
structure Keeps (c : SonyCameraController) (out : Reaction) : Prop where
  captureGeneration : out.controller.captureGeneration = c.captureGeneration
  fallbackGeneration : out.controller.fallbackGeneration = c.fallbackGeneration
  session : c.active = true →
    out.controller.active = true ∧ out.controller.cameraOpen = c.cameraOpen
  posted : ∀ timer delayMs, ControllerCall.PostDelayed timer delayMs ∈ out.calls →
    timer = .Pending c.fallbackGeneration ∧ c.fallbackGeneration ≠ 0

/-- What a callback can do: `Keeps`, a capture, a stop, or one of the three callbacks that compare
numbers, each of which does nothing unless what it finds is right. -/
inductive Effect (c : SonyCameraController) : FallbackOp → FallbackReaction → Prop
  | keeps {op : FallbackOp} {out : Reaction} : op.Direct → c.Keeps out → Effect c op { out with }
  | captures {camera : Camera} {commandId delayMs deadline : ℤ} {result : ControllerCall} :
      c.active = true → c.cameraOpen = true → result.result?.isSome = true →
      Effect c (.ExecuteCommand camera commandId .Capture)
        { controller :=
            { c with
              previewStarted := false, captureGeneration := (c.captureGeneration + 1).bmod (2 ^ 32)
              fallbackGeneration := (c.captureGeneration + 1).bmod (2 ^ 32)
              fallbackDeadlineMs := deadline }
          calls := [.PostDelayed (.Scheduled ((c.captureGeneration + 1).bmod (2 ^ 32))) delayMs,
            result] }
  | stopped {camera : Camera} : c.active = false → c.cameraOpen = false →
      Effect c (.Stop camera) { controller := c }
  | stops {camera : Camera} {calls : List ControllerCall} : (c.active || c.cameraOpen) = true →
      (∀ timer delayMs, ControllerCall.PostDelayed timer delayMs ∉ calls) →
      Effect c (.Stop camera)
        { controller :=
            { c with
              active := false, captureGeneration := (c.captureGeneration + 1).bmod (2 ^ 32)
              fallbackGeneration := 0, fallbackDeadlineMs := 0, cameraOpen := false
              previewStarted := false, previewWorker := false }
          calls }
  | waits {timer : FallbackTimer} {thrown : Option Thrown} : ¬ c.Due timer →
      Effect c (.Timer timer thrown) { controller := c }
  | asks {timer : FallbackTimer} : c.Due timer →
      Effect c (.Timer timer none)
        { controller := c, previews := [.SetOneShotPreviewCallback timer.generation] }
  | fails {timer : FallbackTimer} {e : Thrown} {source error : Bytes} : c.Due timer →
      Effect c (.Timer timer (some e))
        { controller := c.clearFallback
          previews :=
            [.SetOneShotPreviewCallback timer.generation, .OnCameraPreview source error] }
  | late {generation : ℤ} {thrown : Option FrameFailure} {busy : Bool} : c.fallbackGeneration ≠ generation →
      Effect c (.Frame generation thrown busy) { controller := c }
  | frame {generation : ℤ} {thrown : Option FrameFailure} {busy : Bool} {previews : List PreviewCall} :
      c.fallbackGeneration = generation →
      (previews = [] ∨ (∃ source error, previews = [.OnCameraPreview source error]) ∨
        previews = [.QueueLiveView generation]) →
      Effect c (.Frame generation thrown busy) { controller := c.clearFallback, previews }
  | unheard {number : ℕ} {data : Option Bytes} {busy : Bool} : c.active = false →
      Effect c (.Jpeg number data busy) { controller := c }
  | jpeg {number : ℕ} {data : Option Bytes} {busy : Bool} {previews : List PreviewCall} :
      c.active = true →
      (previews = [] ∨ (∃ source error, previews = [.OnCameraPreview source error]) ∨
        ∃ data, previews = [.QueueJpeg data]) →
      Effect c (.Jpeg number data busy) { controller := c.clearFallback, previews }

variable {c : SonyCameraController}

lemma Keeps.refl (c : SonyCameraController) {calls : List ControllerCall}
    (hcalls : ∀ timer delayMs, ControllerCall.PostDelayed timer delayMs ∉ calls) :
    c.Keeps ⟨c, calls⟩ :=
  ⟨rfl, rfl, fun hactive => ⟨hactive, rfl⟩, fun timer delayMs hmem => absurd hmem (hcalls timer delayMs)⟩

/-- Nothing more is posted by calls that post nothing. -/
lemma Keeps.append {out : Reaction} (h : c.Keeps out) {calls : List ControllerCall}
    (hcalls : ∀ timer delayMs, ControllerCall.PostDelayed timer delayMs ∉ calls) :
    c.Keeps ⟨out.controller, out.calls ++ calls⟩ := by
  refine ⟨h.captureGeneration, h.fallbackGeneration, h.session, fun timer delayMs hmem => ?_⟩
  rcases List.mem_append.mp hmem with hmem | hmem
  · exact h.posted timer delayMs hmem
  · exact absurd hmem (hcalls timer delayMs)

lemma submitPreviewTask_cases (c : SonyCameraController) (busy : Bool) (task : PreviewCall)
    (source : Bytes) :
    c.submitPreviewTask busy task source = [] ∨
      (∃ source' error, c.submitPreviewTask busy task source = [.OnCameraPreview source' error]) ∨
      c.submitPreviewTask busy task source = [task] := by
  rw [submitPreviewTask]
  split_ifs
  · exact Or.inl rfl
  · exact Or.inr (Or.inl ⟨_, _, rfl⟩)
  · exact Or.inr (Or.inr rfl)

lemma startPreview_keeps (c : SonyCameraController) (camera : Camera) :
    c.Keeps (c.startPreview camera) := by
  rw [startPreview]
  split_ifs
  · exact Keeps.refl c (by simp)
  · cases (camera.throws .SetPreviewDisplay).or (camera.throws .StartPreview) with
    | none => exact ⟨rfl, rfl, fun hactive => ⟨hactive, rfl⟩, by simp⟩
    | some e => exact Keeps.refl c (by simp [reportError])

lemma requestPendingFallback_posted (c : SonyCameraController) (camera : Camera) :
    ∀ timer delayMs, ControllerCall.PostDelayed timer delayMs ∈ c.requestPendingFallback camera →
      timer = .Pending c.fallbackGeneration ∧ c.fallbackGeneration ≠ 0 := by
  intro timer delayMs hmem
  rw [requestPendingFallback] at hmem
  by_cases hnone :
      (c.fallbackGeneration == 0 || c.fallbackGeneration != c.captureGeneration) = true
  · simp [hnone] at hmem
  · rw [if_neg hnone, List.mem_singleton] at hmem
    refine ⟨(ControllerCall.PostDelayed.inj hmem).1, fun hzero => hnone ?_⟩
    simp [hzero]

lemma restartPreviewIfRequired_keeps (c : SonyCameraController) (camera : Camera) :
    c.Keeps (c.restartPreviewIfRequired camera).toReaction := by
  have hstart := c.startPreview_keeps camera
  rw [restartPreviewIfRequired]
  dsimp only
  split_ifs
  · exact Keeps.refl c (by simp)
  · exact hstart
  · refine ⟨hstart.captureGeneration, hstart.fallbackGeneration, hstart.session,
      fun timer delayMs hmem => ?_⟩
    rcases List.mem_append.mp hmem with hmem | hmem
    · exact hstart.posted timer delayMs hmem
    · have hposted := requestPendingFallback_posted _ camera timer delayMs hmem
      rwa [hstart.fallbackGeneration] at hposted

lemma attempt_keeps (c : SonyCameraController) (camera : Camera) {type : CommandType}
    (htype : type ≠ .Capture) : c.Keeps (c.attempt camera type).toReaction := by
  cases type with
  | Capture => exact absurd rfl htype
  | StartAutofocus | CancelAutofocus | UpdateScreen => exact Keeps.refl c (by simp)
  | RestartPreview => exact c.restartPreviewIfRequired_keeps camera
  | ReleaseShutter =>
      rw [attempt]
      cases camera.throws .CancelTakePicture with
      | none => exact c.restartPreviewIfRequired_keeps camera
      | some e => exact Keeps.refl c (by simp)

lemma executeCommand_effect (c : SonyCameraController) (camera : Camera) (commandId : ℤ)
    (type : CommandType) :
    c.Effect (.ExecuteCommand camera commandId type)
      { c.executeCommand camera commandId type with } := by
  rw [executeCommand]
  split_ifs with hclosed hscreen
  · exact .keeps trivial (Keeps.refl c (by simp))
  · exact .keeps trivial (Keeps.refl c (by simp))
  · by_cases hkeeps : type = .Capture → (camera.throws .TakePicture).isSome = true
    · have hattempt : c.Keeps (c.attempt camera type).toReaction := by
        by_cases htype : type = .Capture
        · obtain ⟨e, he⟩ := Option.isSome_iff_exists.mp (hkeeps htype)
          rw [htype, attempt, he]
          exact Keeps.refl c (by simp)
        · exact c.attempt_keeps camera htype
      dsimp only
      cases (c.attempt camera type).thrown with
      | none => exact .keeps trivial (hattempt.append (by simp))
      | some e => exact .keeps trivial (hattempt.append (by simp [reportError]))
    · obtain ⟨rfl, hthrows⟩ := Classical.not_imp.mp hkeeps
      rw [Bool.not_eq_true, Option.isSome_eq_false_iff, Option.isNone_iff_eq_none] at hthrows
      simp only [Bool.or_eq_true, Bool.not_eq_true', not_or, Bool.not_eq_false] at hclosed
      simp only [attempt, hthrows]
      exact .captures hclosed.2 hclosed.1 rfl

lemma start_keeps (c : SonyCameraController) (camera : Camera) : c.Keeps (c.start camera) := by
  rw [start]
  by_cases hactive : c.active = true
  · rw [if_pos hactive]
    exact Keeps.refl c (by simp)
  · rw [if_neg hactive]
    dsimp only
    cases (camera.throws .Open).or (camera.throws .SetJpegListener) with
    | some e => exact ⟨rfl, rfl, fun h => absurd h hactive, by simp [reportError]⟩
    | none =>
        dsimp only
        split_ifs
        · have hstart := startPreview_keeps { c with
            active := true, previewStarted := false, previewWorker := true, cameraOpen := true } camera
          exact ⟨hstart.captureGeneration, hstart.fallbackGeneration, fun h => absurd h hactive,
            hstart.posted⟩
        · exact ⟨rfl, rfl, fun h => absurd h hactive, by simp⟩

lemma stop_effect (c : SonyCameraController) (camera : Camera) :
    c.Effect (.Stop camera) { c.stop camera with } := by
  rw [stop]
  by_cases hstopped : (!c.active && !c.cameraOpen) = true
  · rw [if_pos hstopped]
    rw [Bool.and_eq_true, Bool.not_eq_true', Bool.not_eq_true'] at hstopped
    exact .stopped hstopped.1 hstopped.2
  · rw [if_neg hstopped]
    refine .stops ?_ ?_
    · cases hactive : c.active <;> cases hopen : c.cameraOpen <;> simp [hactive, hopen] at hstopped ⊢
    · intro timer delayMs hmem
      split_ifs at hmem <;> simp [release, reportError] at hmem

/-- A timer that fires, of either kind: the two conditions of the source are one. -/
lemma runTimer_eq (c : SonyCameraController) (thrown : Option Thrown) (timer : FallbackTimer) :
    c.runTimer thrown timer =
      if c.active = true ∧ c.previewStarted = true ∧ c.fallbackGeneration = timer.generation then
        c.requestLiveViewFallback thrown timer.generation
      else { controller := c } := by
  cases timer with
  | Scheduled generation | Pending generation =>
      simp only [runTimer, FallbackTimer.generation_scheduled, FallbackTimer.generation_pending]
      cases hactive : c.active <;> cases hstarted : c.previewStarted <;>
        by_cases hgeneration : c.fallbackGeneration = generation <;> simp [hgeneration]

lemma runTimer_effect (c : SonyCameraController) (timer : FallbackTimer) (thrown : Option Thrown) :
    c.Effect (.Timer timer thrown) (c.runTimer thrown timer) := by
  rw [runTimer_eq]
  split_ifs with hcurrent
  · obtain ⟨hactive, hstarted, hgeneration⟩ := hcurrent
    unfold requestLiveViewFallback
    cases hopen : c.cameraOpen with
    | false => exact .waits fun hdue => absurd (hopen.symm.trans hdue.2.1) (by simp)
    | true =>
        rw [if_neg (by simp [hstarted])]
        have hdue : c.Due timer := ⟨hactive, hopen, hstarted, hgeneration⟩
        cases thrown with
        | none => exact .asks hdue
        | some e => exact .fails hdue
  · exact .waits fun hdue => hcurrent ⟨hdue.1, hdue.2.2⟩

/-- **What a callback does**, with the fallback, the number of captures and the handler, and what must
have been before. -/
theorem perform_effect (c : SonyCameraController) (op : FallbackOp) : c.Effect op (c.perform op) := by
  cases op with
  | Start camera => exact .keeps trivial (c.start_keeps camera)
  | Stop camera => exact c.stop_effect camera
  | ExecuteCommand camera commandId type => exact c.executeCommand_effect camera commandId type
  | SurfaceCreated camera =>
      have hstart := startPreview_keeps { c with surfaceAvailable := true } camera
      exact .keeps trivial
        ⟨hstart.captureGeneration, hstart.fallbackGeneration, hstart.session, hstart.posted⟩
  | SurfaceDestroyed => exact .keeps trivial ⟨rfl, rfl, fun h => ⟨h, rfl⟩, by simp [surfaceDestroyed]⟩
  | Timer timer thrown => exact c.runTimer_effect timer thrown
  | Frame generation thrown busy =>
      simp only [perform, onPreviewFrame]
      by_cases hgeneration : c.fallbackGeneration = generation
      · rw [if_neg (by simp [hgeneration])]
        cases thrown with
        | none => exact .frame hgeneration (c.submitPreviewTask_cases busy _ _)
        | some e => exact .frame hgeneration (Or.inl rfl)
      · rw [if_pos (by simp [hgeneration])]
        exact .late hgeneration
  | Jpeg number data busy =>
      simp only [perform, handleCapturedJpeg]
      cases hactive : c.active with
      | false => exact .unheard hactive
      | true =>
          rw [if_neg (by simp)]
          split_ifs with hempty
          · exact .jpeg hactive (Or.inr (Or.inl ⟨_, _, rfl⟩))
          · refine .jpeg hactive ((c.submitPreviewTask_cases busy _ _).imp_right (Or.imp_right ?_))
            exact fun hqueued => ⟨_, hqueued⟩

end SonyCameraController

end LegacyAlpha
