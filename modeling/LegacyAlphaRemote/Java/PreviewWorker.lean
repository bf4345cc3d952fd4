import LegacyAlphaRemote.Core.Executor
import LegacyAlphaRemote.Java.LiveViewFallback
import LegacyAlphaRemote.Java.PreviewTask

/-!
# The worker

`SonyCameraController.java` with its `ThreadPoolExecutor`: every `start` makes an executor with one
thread and room for one more task, the callbacks of the camera hand it the tasks, and `stop` shuts it
down.  The thread of an executor that was shut down goes on with the task it has, so that there may be
several threads at a time, one for each session of the camera that there was.

A run (`PreviewRun`) lets the main thread and all of these threads take their steps in any order.  What
the main thread does is a run of `FallbackSystem` (`PreviewPath.fallbackRun`), in which the worker is busy
when it is.
-/

namespace LegacyAlpha

/-! ## Tasks -/

/-- A frame of the live view, with its size and its format, as the camera hands it over. -/
structure LiveFrame where
  data : Bytes := []
  width : ℤ := 0
  height : ℤ := 0
  format : ℤ := 0
  deriving DecidableEq, Repr

/-- The task that is handed to the worker, if this is one; the frame is the one of the callback. -/
def PreviewCall.task? (frame : LiveFrame) : PreviewCall → Option PreviewTask
  | .QueueLiveView _ => some (.LiveView frame.data frame.width frame.height frame.format)
  | .QueueJpeg data => some (.Jpeg data (bytes "captured_jpeg"))
  | .SetOneShotPreviewCallback _ | .OnCameraPreview _ _ => none

/-- The worker was busy in this callback, or it was not; the other callbacks have nothing for it. -/
def FallbackOp.busy? : FallbackOp → Option Bool
  | .Frame _ _ busy | .Jpeg _ _ busy => some busy
  | _ => none

/-! ## The system -/

/-- The controller, the executor it has, and those it has had, oldest first. -/
structure PreviewSystem where
  fallback : FallbackSystem := {}
  current : Option (Executor PreviewTask) := none
  retired : List (Executor PreviewTask) := []
  deriving DecidableEq, Repr

/-- A callback on the main thread, or a step of the thread of one of the executors, which are counted
from zero: it takes the next task, or the one that it has comes to its end. -/
inductive PreviewOp
  | Controller (op : FallbackOp) (frame : LiveFrame)
  | Take (session : ℕ)
  | Finish (session : ℕ) (bitmaps : Bitmaps)

/-- A task that was carried out, and what it did from its beginning to its end. -/
structure Delivery where
  task : PreviewTask
  calls : List TaskCall
  deriving DecidableEq, Repr

/-- A step as it can be seen from outside: the callback, the task that an executor accepts in it, and
the task that one of them has carried out. -/
structure PreviewStep where
  fallback? : Option FallbackStep := none
  submitted? : Option (ℕ × PreviewTask) := none
  delivered? : Option (ℕ × Delivery) := none

namespace PreviewSystem

/-- The executor with this number, if there is one.  Those of the sessions before come first, and the
one of the session that goes on has the next number. -/
def worker (sys : PreviewSystem) (session : ℕ) : Option (Executor PreviewTask) :=
  if session = sys.retired.length then sys.current else sys.retired[session]?

/-- The executor with this number is `e` from now on, and all the others stay as they are. -/
def setWorker (sys : PreviewSystem) (session : ℕ) (e : Executor PreviewTask) : PreviewSystem :=
  if session = sys.retired.length then { sys with current := some e }
  else { sys with retired := sys.retired.set session e }

/-- A task would be rejected: the session's executor runs one already, and another one waits in its
queue. -/
def busy (sys : PreviewSystem) : Bool := sys.current.any fun e => !e.accepts

/-- The tasks that are handed over in a callback, one at most. -/
def tasks (sys : PreviewSystem) (op : FallbackOp) (frame : LiveFrame) : List PreviewTask :=
  (sys.fallback.step op).previews.filterMap (PreviewCall.task? frame)

/-- The executor is shut down by `shutdownNow` and kept with those before it, as its thread may still
have a task.  The next session makes another one. -/
def retire (sys : PreviewSystem) : PreviewSystem :=
  { sys with current := none, retired := sys.retired ++ (sys.current.map Executor.shutdownNow).toList }

/-- A callback on the main thread.  What it hands over goes to the executor that was there before;
`start` makes a new one with a queue of one task, and `stop` shuts it down, each unless it returns at
once. -/
def control (sys : PreviewSystem) (op : FallbackOp) (frame : LiveFrame) : PreviewSystem :=
  let next :=
    { sys with
      fallback := sys.fallback.next op
      current := sys.current.map fun e => (sys.tasks op frame).foldl Executor.execute e }
  match op with
  | .Start _ =>
    if sys.fallback.controller.active then next else { next with current := some { capacity := 1 } }
  | .Stop _ =>
    if !sys.fallback.controller.active && !sys.fallback.controller.cameraOpen then next
    else next.retire
  | _ => next

/-- When it can happen: the worker is as busy as the callback finds it, and a thread has what it
takes. -/
def Enabled (sys : PreviewSystem) : PreviewOp → Prop
  | .Controller op _ => sys.fallback.Enabled op ∧ ∀ busy, op.busy? = some busy → busy = sys.busy
  | .Take session => ((sys.worker session).bind Executor.take).isSome = true
  | .Finish session _ => ((sys.worker session).bind Executor.finish).isSome = true

instance (sys : PreviewSystem) : DecidablePred sys.Enabled
  | .Controller op _ =>
    inferInstanceAs
      (Decidable (sys.fallback.Enabled op ∧ ∀ busy, op.busy? = some busy → busy = sys.busy))
  | .Take session =>
    inferInstanceAs (Decidable (((sys.worker session).bind Executor.take).isSome = true))
  | .Finish session _ =>
    inferInstanceAs (Decidable (((sys.worker session).bind Executor.finish).isSome = true))

/-- The system after it: the main thread goes through a callback, or the thread of one executor takes
a task or finishes with one. -/
def next (sys : PreviewSystem) : PreviewOp → PreviewSystem
  | .Controller op frame => sys.control op frame
  | .Take session => (((sys.worker session).bind Executor.take).map (sys.setWorker session)).getD sys
  | .Finish session _ =>
    (((sys.worker session).bind Executor.finish).map fun (_, e) => sys.setWorker session e).getD sys

/-- What can be seen of it: the step of the controller, with the task that its executor accepts, or
the task that a thread has carried out, with all it did. -/
def step (sys : PreviewSystem) : PreviewOp → PreviewStep
  | .Controller op frame =>
    { fallback? := some (sys.fallback.step op)
      submitted? := (sys.tasks op frame).head?.map fun task => (sys.retired.length, task) }
  | .Take _ => {}
  | .Finish session bitmaps =>
    { delivered? := ((sys.worker session).bind Executor.finish).map fun (task, _) =>
        (session, { task, calls := (task.run bitmaps).getD [] }) }

/-- The steps of a run in which this happens in this order. -/
def steps (sys : PreviewSystem) : List PreviewOp → List PreviewStep
  | [] => []
  | op :: ops => sys.step op :: (sys.next op).steps ops

/-- The system to which these steps lead. -/
def nexts (sys : PreviewSystem) (ops : List PreviewOp) : PreviewSystem := ops.foldl next sys

/-- All of it can happen, each when its turn comes. -/
def AllEnabled (sys : PreviewSystem) : List PreviewOp → Prop
  | [] => True
  | op :: ops => sys.Enabled op ∧ (sys.next op).AllEnabled ops

instance decidableAllEnabled : ∀ (sys : PreviewSystem) (ops : List PreviewOp),
    Decidable (sys.AllEnabled ops)
  | _, [] => inferInstanceAs (Decidable True)
  | sys, op :: ops =>
    have := decidableAllEnabled (sys.next op) ops
    inferInstanceAs (Decidable (sys.Enabled op ∧ (sys.next op).AllEnabled ops))

end PreviewSystem

/-- Where the system gets from a state, and the steps on the way, oldest first. -/
inductive PreviewPath (start : PreviewSystem) : List PreviewStep → PreviewSystem → Prop
  | refl : PreviewPath start [] start
  | step {steps : List PreviewStep} {sys : PreviewSystem} (op : PreviewOp) :
      PreviewPath start steps sys → sys.Enabled op →
        PreviewPath start (steps ++ [sys.step op]) (sys.next op)

/-- A run of the system from its beginning. -/
abbrev PreviewRun : List PreviewStep → PreviewSystem → Prop := PreviewPath {}

/-- The tasks that the executor with this number has accepted, in order. -/
def submittedTo (session : ℕ) (steps : List PreviewStep) : List PreviewTask :=
  (steps.filterMap PreviewStep.submitted?).filterMap fun submitted =>
    if submitted.1 = session then some submitted.2 else none

/-- The tasks that the executor with this number has carried out, in order. -/
def deliveredBy (session : ℕ) (steps : List PreviewStep) : List Delivery :=
  (steps.filterMap PreviewStep.delivered?).filterMap fun delivered =>
    if delivered.1 = session then some delivered.2 else none

/-! ## The main thread -/

namespace SonyCameraController

variable {c : SonyCameraController} {camera : Camera}

lemma startPreview_session (c : SonyCameraController) (camera : Camera) :
    (c.startPreview camera).controller.active = c.active ∧
      (c.startPreview camera).controller.previewWorker = c.previewWorker := by
  rw [startPreview]
  split_ifs
  · simp
  · cases (camera.throws .SetPreviewDisplay).or (camera.throws .StartPreview) <;> simp

lemma attempt_session (c : SonyCameraController) (camera : Camera) (type : CommandType) :
    (c.attempt camera type).controller.active = c.active ∧
      (c.attempt camera type).controller.previewWorker = c.previewWorker := by
  have hrestart : (c.restartPreviewIfRequired camera).controller.active = c.active ∧
      (c.restartPreviewIfRequired camera).controller.previewWorker = c.previewWorker := by
    rw [restartPreviewIfRequired]
    dsimp only
    split_ifs
    · simp
    · exact c.startPreview_session camera
    · exact c.startPreview_session camera
  cases type with
  | StartAutofocus | CancelAutofocus | UpdateScreen => simp [attempt]
  | RestartPreview => exact hrestart
  | Capture =>
      rw [attempt]
      cases camera.throws .TakePicture <;> simp [scheduleFallback]
  | ReleaseShutter =>
      rw [attempt]
      cases camera.throws .CancelTakePicture with
      | none => exact hrestart
      | some e => simp

/-- The worker comes and goes with the session. -/
lemma perform_session (c : SonyCameraController) (op : FallbackOp)
    (hworker : c.previewWorker = c.active) :
    (c.perform op).controller.previewWorker = (c.perform op).controller.active ∧
      (c.perform op).controller.active = match op with
        | .Start _ => true
        | .Stop _ => false
        | _ => c.active := by
  cases op with
  | Start camera =>
      rw [perform, start]
      by_cases hactive : c.active = true
      · rw [if_pos hactive]
        simp [hworker, hactive]
      · rw [if_neg hactive]
        dsimp only
        cases (camera.throws .Open).or (camera.throws .SetJpegListener) with
        | some e => simp
        | none =>
            dsimp only
            split_ifs
            · have hsession := startPreview_session { c with
                active := true, previewStarted := false, previewWorker := true
                cameraOpen := true } camera
              rw [hsession.1, hsession.2]
              simp
            · simp
  | Stop camera =>
      rw [perform, stop]
      by_cases hstopped : (!c.active && !c.cameraOpen) = true
      · rw [if_pos hstopped]
        rw [Bool.and_eq_true, Bool.not_eq_true', Bool.not_eq_true'] at hstopped
        simp [hworker, hstopped.1]
      · rw [if_neg hstopped]
        simp
  | ExecuteCommand camera commandId type =>
      simp only [perform, executeCommand]
      split_ifs
      · exact ⟨hworker, rfl⟩
      · exact ⟨hworker, rfl⟩
      · have hattempt := c.attempt_session camera type
        cases (c.attempt camera type).thrown <;> simp [hattempt, hworker]
  | SurfaceCreated camera =>
      have hsession := startPreview_session { c with surfaceAvailable := true } camera
      rw [perform, surfaceCreated]
      exact ⟨hsession.2.trans (hworker.trans hsession.1.symm), hsession.1⟩
  | SurfaceDestroyed => simp [perform, surfaceDestroyed, hworker]
  | Timer timer thrown =>
      simp only [perform, runTimer_eq, requestLiveViewFallback]
      split_ifs
      · simp [hworker]
      · cases thrown <;> simp [clearFallback, hworker]
      · simp [hworker]
  | Frame generation thrown busy =>
      simp only [perform, onPreviewFrame]
      split_ifs
      · simp [hworker]
      · cases thrown <;> simp [clearFallback, hworker]
  | Jpeg number data busy =>
      simp only [perform, handleCapturedJpeg]
      split_ifs <;> simp [clearFallback, hworker]

/-- **What is handed over** in a callback: one task at most, and only to a worker that is there and not
busy. -/
lemma perform_tasks (c : SonyCameraController) (op : FallbackOp) (frame : LiveFrame) :
    (c.perform op).previews.filterMap (PreviewCall.task? frame) = [] ∨
      ∃ task, (c.perform op).previews.filterMap (PreviewCall.task? frame) = [task] ∧
        c.previewWorker = true ∧ op.busy? = some false := by
  have hsubmit : ∀ (busy : Bool) (call : PreviewCall) (source : Bytes),
      (c.submitPreviewTask busy call source).filterMap (PreviewCall.task? frame) = [] ∨
        ∃ task, (c.submitPreviewTask busy call source).filterMap (PreviewCall.task? frame) = [task] ∧
          c.previewWorker = true ∧ some busy = some false := by
    intro busy call source
    rw [submitPreviewTask]
    split_ifs with hnone hbusy
    · exact Or.inl rfl
    · exact Or.inl rfl
    · cases htask : call.task? frame with
      | none => simp [htask]
      | some task =>
          refine Or.inr ⟨task, by simp [htask], ?_, ?_⟩
          · simpa using hnone
          · simpa using hbusy
  cases op with
  | Start _ | Stop _ | ExecuteCommand _ _ _ | SurfaceCreated _ | SurfaceDestroyed => simp [perform]
  | Timer timer thrown =>
      simp only [perform, runTimer_eq, requestLiveViewFallback]
      split_ifs
      · simp
      · cases thrown <;> simp [PreviewCall.task?]
      · simp
  | Frame generation thrown busy =>
      simp only [perform, onPreviewFrame]
      split_ifs
      · simp
      · cases thrown with
        | some e => simp
        | none => exact hsubmit busy _ _
  | Jpeg number data busy =>
      simp only [perform, handleCapturedJpeg]
      split_ifs
      · simp
      · simp [PreviewCall.task?]
      · exact hsubmit busy _ _

end SonyCameraController

/-! ## The accounts -/

namespace PreviewSystem

variable {sys : PreviewSystem} {e e' : Executor PreviewTask}

/-- An executor that is there is changed. -/
lemma worker_setWorker {session : ℕ} (hworker : sys.worker session = some e) (e' : Executor PreviewTask)
    (session' : ℕ) :
    (sys.setWorker session e').worker session' =
      if session' = session then some e' else sys.worker session' := by
  rw [worker] at hworker
  by_cases hcurrent : session = sys.retired.length
  · subst hcurrent
    simp only [setWorker, if_true, worker]
    split_ifs <;> rfl
  · rw [if_neg hcurrent] at hworker
    obtain ⟨hlt, -⟩ := List.getElem?_eq_some_iff.mp hworker
    simp only [setWorker, if_neg hcurrent, worker, List.length_set, List.getElem?_set]
    by_cases hsame : session' = session
    · rw [if_pos hsame, if_neg (by omega), if_pos hsame.symm, if_pos (by omega)]
    · rw [if_neg hsame, if_neg (Ne.symm hsame)]

lemma retired_setWorker (sys : PreviewSystem) (session : ℕ) (e : Executor PreviewTask) :
    (sys.setWorker session e).retired.length = sys.retired.length := by
  rw [setWorker]
  split_ifs <;> simp

lemma fallback_setWorker (sys : PreviewSystem) (session : ℕ) (e : Executor PreviewTask) :
    (sys.setWorker session e).fallback = sys.fallback := by
  rw [setWorker]
  split_ifs <;> rfl

/-- The executor of the session that goes on is another one. -/
lemma worker_current (sys : PreviewSystem) (e : Executor PreviewTask) (session : ℕ) :
    PreviewSystem.worker { sys with current := some e } session =
      if session = sys.retired.length then some e else sys.worker session := by
  simp only [worker]
  split_ifs <;> rfl

/-- What a thread does when it takes a task: its executor has one for it, and no other one is
touched. -/
lemma next_take {session : ℕ} (henabled : sys.Enabled (.Take session)) :
    ∃ e e', sys.worker session = some e ∧ e.take = some e' ∧
      sys.next (.Take session) = sys.setWorker session e' := by
  obtain ⟨e', htakes⟩ := Option.isSome_iff_exists.mp henabled
  obtain ⟨e, hworker, htake⟩ := Option.bind_eq_some_iff.mp htakes
  refine ⟨e, e', hworker, htake, ?_⟩
  rw [next, htakes, Option.map_some, Option.getD_some]

/-- What a thread does when it comes to the end of its task: that is what is delivered, and no other
executor is touched. -/
lemma next_finish {session : ℕ} {bitmaps : Bitmaps} (henabled : sys.Enabled (.Finish session bitmaps)) :
    ∃ e task e', sys.worker session = some e ∧ e.finish = some (task, e') ∧
      sys.next (.Finish session bitmaps) = sys.setWorker session e' ∧
      (sys.step (.Finish session bitmaps)).delivered? =
        some (session, { task, calls := (task.run bitmaps).getD [] }) := by
  obtain ⟨⟨task, e'⟩, hfinishes⟩ := Option.isSome_iff_exists.mp henabled
  obtain ⟨e, hworker, hfinish⟩ := Option.bind_eq_some_iff.mp hfinishes
  refine ⟨e, task, e', hworker, hfinish, ?_, ?_⟩
  · rw [next, hfinishes, Option.map_some, Option.getD_some]
  · rw [step, hfinishes, Option.map_some]

end PreviewSystem

/-- The account of an executor: what it has accepted, and what it has carried out. -/
structure Account (submitted : List PreviewTask) (delivered : List Delivery)
    (e : Executor PreviewTask) : Prop where
  sound : e.Sound
  capacity : e.capacity = 1
  accepted : e.accepted = submitted
  finished : e.finished = delivered.map Delivery.task
  tasks : ∀ d ∈ delivered, ∃ bitmaps, TaskSound bitmaps (d.task.encoded bitmaps) d.task.source d.calls

/-- The accounts of all executors; the last of them is open, and the others are shut down. -/
structure Books (steps : List PreviewStep) (sys : PreviewSystem) : Prop where
  shut : ∀ session e, sys.worker session = some e →
    e.isShutdown = decide (session < sys.retired.length)
  account : ∀ session e, sys.worker session = some e →
    Account (submittedTo session steps) (deliveredBy session steps) e
  unused : ∀ session, sys.worker session = none →
    submittedTo session steps = [] ∧ deliveredBy session steps = []

/-- There is an open executor as long as the camera is in use. -/
structure Accounts (steps : List PreviewStep) (sys : PreviewSystem) : Prop extends Books steps sys where
  session : sys.fallback.controller.previewWorker = sys.fallback.controller.active
  current : sys.current.isSome = sys.fallback.controller.active

section Accounts

variable {steps rest : List PreviewStep} {sys sys' : PreviewSystem} {session : ℕ}
  {e e' : Executor PreviewTask}
  {submitted : List PreviewTask} {delivered : List Delivery} {task : PreviewTask}

lemma submittedTo_concat (session : ℕ) (steps : List PreviewStep) (s : PreviewStep) :
    submittedTo session (steps ++ [s]) = submittedTo session steps ++
      (s.submitted?.toList.filterMap fun submitted =>
        if submitted.1 = session then some submitted.2 else none) := by
  cases h : s.submitted? <;> simp [submittedTo, h]

lemma deliveredBy_concat (session : ℕ) (steps : List PreviewStep) (s : PreviewStep) :
    deliveredBy session (steps ++ [s]) = deliveredBy session steps ++
      (s.delivered?.toList.filterMap fun delivered =>
        if delivered.1 = session then some delivered.2 else none) := by
  cases h : s.delivered? <;> simp [deliveredBy, h]

/-- A task is accepted, and from then on it is accounted for. -/
lemma Account.execute (h : Account submitted delivered e) (haccepts : e.accepts = true)
    (task : PreviewTask) : Account (submitted ++ [task]) delivered (e.execute task) where
  sound := h.sound.execute task
  capacity := by rw [Executor.capacity_execute, h.capacity]
  accepted := by rw [Executor.accepted_execute haccepts, h.accepted]
  finished := by rw [Executor.finished_execute, h.finished]
  tasks := h.tasks

/-- The thread takes a task, which is still neither carried out nor dropped. -/
lemma Account.take (h : Account submitted delivered e) (htake : e.take = some e') :
    Account submitted delivered e' := by
  obtain ⟨hcapacity, -, haccepted, hfinished, -⟩ := Executor.take_keeps htake
  constructor
  · exact h.sound.take htake
  · rw [hcapacity, h.capacity]
  · rw [haccepted, h.accepted]
  · rw [hfinished, h.finished]
  · exact h.tasks

/-- A task is carried out, and counts as delivered instead of running. -/
lemma Account.finish (h : Account submitted delivered e) (hfinish : e.finish = some (task, e'))
    (bitmaps : Bitmaps) :
    Account submitted (delivered ++ [{ task, calls := (task.run bitmaps).getD [] }]) e' := by
  obtain ⟨hcapacity, -, haccepted, hfinished, -⟩ := Executor.finish_keeps hfinish
  constructor
  · exact h.sound.finish hfinish
  · rw [hcapacity, h.capacity]
  · rw [haccepted, h.accepted]
  · rw [hfinished, h.finished]
    simp
  · intro d hd
    rcases List.mem_append.mp hd with hd | hd
    · exact h.tasks d hd
    · obtain rfl := List.mem_singleton.mp hd
      obtain ⟨calls, hrun, hsound⟩ := task.run_sound bitmaps
      exact ⟨bitmaps, by simpa [hrun] using hsound⟩

lemma Account.shutdownNow (h : Account submitted delivered e) :
    Account submitted delivered e.shutdownNow where
  sound := h.sound.shutdownNow
  capacity := h.capacity
  accepted := h.accepted
  finished := h.finished
  tasks := h.tasks

/-- A new executor has accepted nothing, and all of it is accounted for. -/
lemma account_new : Account [] [] { capacity := 1 } where
  sound := Executor.sound_new 1
  capacity := rfl
  accepted := rfl
  finished := rfl
  tasks := by simp

/-! ## Steps -/

/-- A step in which no task is accepted and none is carried out. -/
lemma Books.quiet (h : Books steps sys) {s : PreviewStep} (hsubmitted : s.submitted? = none)
    (hdelivered : s.delivered? = none) : Books (steps ++ [s]) sys where
  shut := h.shut
  account := by
    intro session e hworker
    simpa [submittedTo_concat, deliveredBy_concat, hsubmitted, hdelivered] using
      h.account session e hworker
  unused := by
    intro session hworker
    simpa [submittedTo_concat, deliveredBy_concat, hsubmitted, hdelivered] using
      h.unused session hworker

/-- What the main thread remembers is not in the books. -/
lemma Books.fallback (h : Books steps sys) (fallback : FallbackSystem) :
    Books steps { sys with fallback } where
  shut := h.shut
  account := h.account
  unused := h.unused

/-- The executor in use accepts a task. -/
lemma Books.submit (h : Books steps sys) (hcurrent : sys.current = some e) (haccepts : e.accepts = true)
    {s : PreviewStep} (hsubmitted : s.submitted? = some (sys.retired.length, task))
    (hdelivered : s.delivered? = none) :
    Books (steps ++ [s]) { sys with current := some (e.execute task) } := by
  have hworker : sys.worker sys.retired.length = some e := by rw [PreviewSystem.worker, if_pos rfl, hcurrent]
  constructor
  · intro session e' he'
    rw [PreviewSystem.worker_current] at he'
    split_ifs at he' with hsession
    · obtain rfl := Option.some.inj he'
      rw [Executor.isShutdown_execute, hsession]
      exact h.shut _ _ hworker
    · exact h.shut session e' he'
  · intro session e' he'
    rw [PreviewSystem.worker_current] at he'
    rw [submittedTo_concat, deliveredBy_concat, hsubmitted, hdelivered]
    split_ifs at he' with hsession
    · obtain rfl := Option.some.inj he'
      simpa [hsession] using (h.account _ _ hworker).execute haccepts task
    · simpa [Ne.symm hsession] using h.account session e' he'
  · intro session he'
    rw [PreviewSystem.worker_current] at he'
    rw [submittedTo_concat, deliveredBy_concat, hsubmitted, hdelivered]
    split_ifs at he' with hsession
    simpa [Ne.symm hsession] using h.unused session he'

/-- A new executor takes the place of none. -/
lemma Books.open (h : Books steps sys) (hcurrent : sys.current = none) :
    Books steps { sys with current := some { capacity := 1 } } := by
  have hnone : sys.worker sys.retired.length = none := by rw [PreviewSystem.worker, if_pos rfl, hcurrent]
  constructor
  · intro session e he
    rw [PreviewSystem.worker_current] at he
    split_ifs at he with hsession
    · obtain rfl := Option.some.inj he
      simp [hsession]
    · exact h.shut session e he
  · intro session e he
    rw [PreviewSystem.worker_current] at he
    split_ifs at he with hsession
    · obtain rfl := Option.some.inj he
      obtain ⟨hsubmitted, hdelivered⟩ := h.unused session (by rw [hsession, hnone])
      rw [hsubmitted, hdelivered]
      exact account_new
    · exact h.account session e he
  · intro session he
    rw [PreviewSystem.worker_current] at he
    split_ifs at he
    exact h.unused session he

/-- The executor in use is shut down. -/
lemma Books.retire (h : Books steps sys) : Books steps sys.retire := by
  cases hcurrent : sys.current with
  | none =>
      have hsame : sys.retire = sys := by
        rw [PreviewSystem.retire, hcurrent, Option.map_none, Option.toList_none, List.append_nil,
          ← hcurrent]
      rwa [hsame]
  | some e =>
      have hworker : sys.worker sys.retired.length = some e := by
        rw [PreviewSystem.worker, if_pos rfl, hcurrent]
      have hlength : sys.retire.retired.length = sys.retired.length + 1 := by
        simp [PreviewSystem.retire, hcurrent]
      have hnext : ∀ session, sys.retire.worker session =
          if session = sys.retired.length then some e.shutdownNow
          else if session = sys.retired.length + 1 then none else sys.worker session := by
        intro session
        simp only [PreviewSystem.worker, hlength]
        by_cases hlast : session = sys.retired.length
        · rw [if_pos hlast, if_neg (by omega), hlast]
          simp [PreviewSystem.retire, hcurrent]
        · rw [if_neg hlast, if_neg hlast]
          by_cases hbeyond : session = sys.retired.length + 1
          · rw [if_pos hbeyond, if_pos hbeyond]
            rfl
          · rw [if_neg hbeyond, if_neg hbeyond]
            simp only [PreviewSystem.retire, hcurrent, Option.map_some, Option.toList_some,
              List.getElem?_append]
            split_ifs with hlt
            · rfl
            · rw [List.getElem?_eq_none (by simp; omega), List.getElem?_eq_none (by omega)]
      constructor
      · intro session e' he'
        rw [hnext] at he'
        rw [hlength]
        split_ifs at he' with hlast hbeyond
        · obtain rfl := Option.some.inj he'
          simp [Executor.shutdownNow, hlast]
        · rw [h.shut session e' he']
          have hcount : session < sys.retired.length + 1 ↔ session < sys.retired.length := by omega
          simp [hcount]
      · intro session e' he'
        rw [hnext] at he'
        split_ifs at he' with hlast
        · obtain rfl := Option.some.inj he'
          rw [hlast]
          exact (h.account _ _ hworker).shutdownNow
        · exact h.account session e' he'
      · intro session he'
        rw [hnext] at he'
        split_ifs at he' with hlast hbeyond
        · apply h.unused session
          rw [PreviewSystem.worker, if_neg hlast, List.getElem?_eq_none (by omega)]
        · exact h.unused session he'

/-- A thread takes its step, which concerns the executor it belongs to and no other one. -/
lemma Books.thread (h : Books steps sys) (hworker : sys.worker session = some e)
    (hshut : e'.isShutdown = e.isShutdown) {s : PreviewStep} (hsubmitted : s.submitted? = none)
    (hothers : ∀ session', session' ≠ session →
      deliveredBy session' (steps ++ [s]) = deliveredBy session' steps)
    (haccount : Account (submittedTo session steps) (deliveredBy session (steps ++ [s])) e') :
    Books (steps ++ [s]) (sys.setWorker session e') := by
  have hsubmittedTo : ∀ session', submittedTo session' (steps ++ [s]) = submittedTo session' steps := by
    intro session'
    simp [submittedTo_concat, hsubmitted]
  constructor
  · intro session' e'' he''
    rw [PreviewSystem.worker_setWorker hworker] at he''
    rw [PreviewSystem.retired_setWorker]
    split_ifs at he'' with hsame
    · obtain rfl := Option.some.inj he''
      rw [hshut, hsame]
      exact h.shut session e hworker
    · exact h.shut session' e'' he''
  · intro session' e'' he''
    rw [PreviewSystem.worker_setWorker hworker] at he''
    rw [hsubmittedTo]
    split_ifs at he'' with hsame
    · obtain rfl := Option.some.inj he''
      rwa [hsame]
    · rw [hothers session' hsame]
      exact h.account session' e'' he''
  · intro session' he''
    rw [PreviewSystem.worker_setWorker hworker] at he''
    rw [hsubmittedTo]
    split_ifs at he'' with hsame
    rw [hothers session' hsame]
    exact h.unused session' he''

/-- A task that is handed over is accepted. -/
lemma Accounts.tasks (h : Accounts steps sys) {op : FallbackOp} (frame : LiveFrame)
    (henabled : sys.Enabled (.Controller op frame)) :
    sys.tasks op frame = [] ∨
      ∃ task e, sys.tasks op frame = [task] ∧ sys.current = some e ∧ e.accepts = true := by
  rcases sys.fallback.controller.perform_tasks op frame with hnone | ⟨task, htask, hworker, hbusy⟩
  · exact Or.inl hnone
  · have hcurrent := h.current
    rw [← h.session, hworker, Option.isSome_iff_exists] at hcurrent
    obtain ⟨e, he⟩ := hcurrent
    have hfree := henabled.2 false hbusy
    rw [PreviewSystem.busy, he, Option.any_some] at hfree
    exact Or.inr ⟨task, e, htask, he, by simpa using hfree.symm⟩

/-- A callback, up to what it does to the executor as a whole. -/
lemma Accounts.handOver (h : Accounts steps sys) {op : FallbackOp} {frame : LiveFrame}
    (henabled : sys.Enabled (.Controller op frame)) (fallback : FallbackSystem) :
    Books (steps ++ [sys.step (.Controller op frame)])
      { sys with
        fallback
        current := sys.current.map fun e => (sys.tasks op frame).foldl Executor.execute e } := by
  rcases h.tasks frame henabled with hnone | ⟨task, e, htask, hcurrent, haccepts⟩
  · have hsubmitted : (sys.step (.Controller op frame)).submitted? = none := by
      simp [PreviewSystem.step, hnone]
    rw [hnone]
    simpa using (h.toBooks.quiet hsubmitted rfl).fallback fallback
  · have hsubmitted : (sys.step (.Controller op frame)).submitted? = some (sys.retired.length, task) := by
      simp [PreviewSystem.step, htask]
    rw [htask, hcurrent]
    exact (h.toBooks.submit hcurrent haccepts hsubmitted rfl).fallback fallback

/-- **One callback** keeps the accounts: what is handed over is accepted by the executor that is there
and free, and a stop drops what waits. -/
lemma Accounts.control (h : Accounts steps sys) {op : FallbackOp} {frame : LiveFrame}
    (henabled : sys.Enabled (.Controller op frame)) :
    Accounts (steps ++ [sys.step (.Controller op frame)]) (sys.control op frame) := by
  have hbooks := h.handOver henabled (sys.fallback.next op)
  obtain ⟨hworker, hactive⟩ := sys.fallback.controller.perform_session op h.session
  have hcurrent := h.current
  cases op with
  | Start camera =>
      rw [PreviewSystem.control]
      dsimp only
      split_ifs with hbefore
      · refine ⟨hbooks, hworker, ?_⟩
        rw [Option.isSome_map, hcurrent, hbefore]
        exact hactive.symm
      · rw [Bool.not_eq_true] at hbefore
        rw [hbefore, Option.isSome_eq_false_iff, Option.isNone_iff_eq_none] at hcurrent
        refine ⟨hbooks.open ?_, hworker, hactive.symm⟩
        rw [hcurrent, Option.map_none]
  | Stop camera =>
      rw [PreviewSystem.control]
      split_ifs with hstopped
      · rw [Bool.and_eq_true, Bool.not_eq_true', Bool.not_eq_true'] at hstopped
        refine ⟨hbooks, hworker, ?_⟩
        rw [Option.isSome_map, hcurrent, hstopped.1]
        exact hactive.symm
      · exact ⟨hbooks.retire, hworker, hactive.symm⟩
  | ExecuteCommand _ _ _ | SurfaceCreated _ | SurfaceDestroyed | Timer _ _ | Frame _ _ _ | Jpeg _ _ _ =>
      exact ⟨hbooks, hworker, (Option.isSome_map.trans hcurrent).trans hactive.symm⟩

/-- **One step of a thread** keeps the accounts, whichever executor it belongs to, one that was shut
down before too. -/
lemma Accounts.setWorker (h : Accounts steps sys) (hworker : sys.worker session = some e)
    {s : PreviewStep} (hbooks : Books (steps ++ [s]) (sys.setWorker session e')) :
    Accounts (steps ++ [s]) (sys.setWorker session e') := by
  refine ⟨hbooks, ?_, ?_⟩
  · rw [PreviewSystem.fallback_setWorker]
    exact h.session
  · rw [PreviewSystem.fallback_setWorker, ← h.current, PreviewSystem.setWorker]
    split_ifs with hcurrent
    · rw [PreviewSystem.worker, if_pos hcurrent] at hworker
      rw [hworker]
      rfl
    · rfl

lemma Accounts.step (h : Accounts steps sys) (op : PreviewOp) (henabled : sys.Enabled op) :
    Accounts (steps ++ [sys.step op]) (sys.next op) := by
  cases op with
  | Controller op frame => exact h.control henabled
  | Take session =>
      obtain ⟨e, e', hworker, htake, hnext⟩ := PreviewSystem.next_take henabled
      have hdelivered : ∀ session', deliveredBy session' (steps ++ [sys.step (.Take session)]) =
          deliveredBy session' steps := by
        intro session'
        simp [deliveredBy_concat, PreviewSystem.step]
      rw [hnext]
      apply h.setWorker hworker
      apply h.toBooks.thread hworker (Executor.take_keeps htake).2.1 rfl
      · intro session' _
        exact hdelivered session'
      · rw [hdelivered]
        exact (h.account session e hworker).take htake
  | Finish session bitmaps =>
      obtain ⟨e, task, e', hworker, hfinish, hnext, hstep⟩ := PreviewSystem.next_finish henabled
      rw [hnext]
      apply h.setWorker hworker
      apply h.toBooks.thread hworker (Executor.finish_keeps hfinish).2.1 rfl
      · intro session' hother
        simp [deliveredBy_concat, hstep, Ne.symm hother]
      · rw [deliveredBy_concat, hstep]
        simpa using (h.account session e hworker).finish hfinish bitmaps

/-- A run goes on from where another one ends. -/
lemma PreviewPath.append {sys'' : PreviewSystem} (hpath : PreviewPath sys'' steps sys)
    (hrest : PreviewPath sys rest sys') : PreviewPath sys'' (steps ++ rest) sys' := by
  induction hrest with
  | refl => rwa [List.append_nil]
  | step op _ henabled ih =>
      rw [← List.append_assoc]
      exact ih.step op henabled

lemma PreviewPath.extend (hpath : PreviewPath sys' steps sys) (ops : List PreviewOp)
    (henabled : sys.AllEnabled ops) : PreviewPath sys' (steps ++ sys.steps ops) (sys.nexts ops) := by
  induction ops generalizing steps sys with
  | nil => simpa [PreviewSystem.steps, PreviewSystem.nexts] using hpath
  | cons op ops ih =>
      have hstep := hpath.step op henabled.1
      simpa [PreviewSystem.steps, PreviewSystem.nexts] using ih hstep henabled.2

lemma previewPath_steps (sys : PreviewSystem) (ops : List PreviewOp)
    (henabled : sys.AllEnabled ops) : PreviewPath sys (sys.steps ops) (sys.nexts ops) :=
  PreviewPath.refl.extend ops henabled

theorem PreviewPath.accounts (hrun : PreviewRun steps sys) : Accounts steps sys := by
  induction hrun with
  | refl =>
      refine ⟨⟨?_, ?_, ?_⟩, rfl, rfl⟩
      · intro session e hworker
        simp [PreviewSystem.worker] at hworker
      · intro session e hworker
        simp [PreviewSystem.worker] at hworker
      · intro session hworker
        exact ⟨rfl, rfl⟩
  | step op hrun henabled ih => exact ih.step op henabled

/-- **The main thread** does not notice what the threads of the executors do, but for their being
busy: it goes through a run of its own. -/
theorem PreviewPath.fallbackRun (hrun : PreviewRun steps sys) :
    FallbackRun (steps.filterMap PreviewStep.fallback?) sys.fallback := by
  induction hrun with
  | refl => exact .init
  | @step steps sys op hrun henabled ih =>
      rw [List.filterMap_append]
      cases op with
      | Controller op frame =>
          have hnext : (sys.next (.Controller op frame)).fallback = sys.fallback.next op := by
            simp only [PreviewSystem.next, PreviewSystem.control]
            cases op with
            | Start camera =>
                dsimp only
                split_ifs <;> rfl
            | Stop camera =>
                dsimp only
                split_ifs <;> rfl
            | _ => rfl
          rw [hnext]
          exact ih.step op henabled.1
      | Take session =>
          obtain ⟨e, e', -, -, hnext⟩ := PreviewSystem.next_take henabled
          rw [hnext, PreviewSystem.fallback_setWorker]
          simpa [PreviewSystem.step] using ih
      | Finish session bitmaps =>
          obtain ⟨e, task, e', -, -, hnext, -⟩ := PreviewSystem.next_finish henabled
          rw [hnext, PreviewSystem.fallback_setWorker]
          simpa [PreviewSystem.step] using ih

/-! ## What becomes of a task -/

/-- What has become of the tasks of a session whose executor is `e`: those that it has carried out, each
with one publication, then those that are `outstanding`, then those that it has `dropped`.  While the
session goes on two may be outstanding and none is dropped; when it is over, the one that runs is all
that is left, and the one that waited was dropped. -/
structure Delivers (session : ℕ) (steps : List PreviewStep) (sys : PreviewSystem)
    (e : Executor PreviewTask) : Prop where
  accepted : submittedTo session steps =
    (deliveredBy session steps).map Delivery.task ++ e.outstanding ++ e.dropped
  published : ∀ d ∈ deliveredBy session steps,
    ∃ bitmaps, TaskSound bitmaps (d.task.encoded bitmaps) d.task.source d.calls
  current : sys.retired.length ≤ session → e.outstanding.length ≤ 2 ∧ e.dropped = []
  stopped : session < sys.retired.length →
    e.outstanding = e.running.toList ∧ e.queue = [] ∧ e.dropped.length ≤ 1

/-- **Delivery**: in every run, the executor of a session carries out what it has accepted in that order,
each task once and with one publication, and what it has not carried out is what it still holds and what
it has dropped (`Delivers`).  A session that has no executor has never accepted a task. -/
theorem PreviewPath.delivers (hrun : PreviewRun steps sys) (session : ℕ) :
    (∀ e, sys.worker session = some e → Delivers session steps sys e) ∧
      (sys.worker session = none →
        submittedTo session steps = [] ∧ deliveredBy session steps = []) := by
  have haccounts := hrun.accounts
  refine ⟨fun e hworker => ?_, haccounts.unused session⟩
  have haccount := haccounts.account session e hworker
  have hshut := haccounts.shut session e hworker
  have houtstanding := haccount.sound.length_outstanding_le
  have hdropped := haccount.sound.dropped_le
  rw [haccount.capacity] at houtstanding hdropped
  refine ⟨?_, haccount.tasks, ?_, ?_⟩
  · rw [← haccount.accepted, haccount.sound.accepted, haccount.finished]
  · intro hopen
    rw [decide_eq_false (by omega)] at hshut
    exact ⟨by simpa [hshut] using houtstanding, haccount.sound.open_dropped hshut⟩
  · intro hover
    rw [decide_eq_true hover] at hshut
    have hqueue := haccount.sound.shut_queue hshut
    exact ⟨by rw [Executor.outstanding, hqueue, List.append_nil], hqueue, hdropped⟩

/-- Android's classes for the smallest of pictures, on which every call succeeds. -/
def smallBitmaps : Bitmaps where
  decodeBounds _ := .ok ⟨1, 1, by norm_num, by norm_num⟩
  decode _ _ := .ok (some ⟨1, 1, by norm_num, by norm_num, by norm_num, by norm_num⟩)
  createScaledBitmap _ _ _ := none
  compress _ _ := .ok (some [0xff, 0xd8])
  compressToJpeg _ _ _ := .ok (some [0xff, 0xd8])

/-- A capture whose JPEG comes three times, and a stop: by then the first picture has been published, the
thread is at work on the second, and the third waits. -/
def threeJpegs : List PreviewOp :=
  let callback (op : FallbackOp) : PreviewOp := .Controller op {}
  [callback (.Start {}), callback (.SurfaceCreated {}), callback (.ExecuteCommand {} 1 .Capture),
    callback (.Jpeg 1 (some [1]) false), .Finish 0 smallBitmaps,
    callback (.Jpeg 1 (some [2]) false), .Take 0, callback (.Jpeg 1 (some [3]) false),
    callback (.Stop {})]

theorem delivers_threeJpegs :
    let steps := ({} : PreviewSystem).steps threeJpegs
    let sys := ({} : PreviewSystem).nexts threeJpegs
    submittedTo 0 steps =
        [.Jpeg [1] (bytes "captured_jpeg"), .Jpeg [2] (bytes "captured_jpeg"),
          .Jpeg [3] (bytes "captured_jpeg")] ∧
      ∃ e, sys.worker 0 = some e ∧ Delivers 0 steps sys e ∧
        (deliveredBy 0 steps).map Delivery.task = [.Jpeg [1] (bytes "captured_jpeg")] ∧
        e.outstanding = [.Jpeg [2] (bytes "captured_jpeg")] ∧
        e.dropped = [.Jpeg [3] (bytes "captured_jpeg")] := by
  intro steps sys
  have hrun : PreviewRun steps sys := previewPath_steps {} threeJpegs (by decide +kernel)
  have hworker : (sys.worker 0).any (fun e =>
      decide (e.outstanding = [.Jpeg [2] (bytes "captured_jpeg")]) &&
        decide (e.dropped = [.Jpeg [3] (bytes "captured_jpeg")])) = true := by decide +kernel
  obtain ⟨e, he, hleft⟩ := (Option.any_eq_true _ _).mp hworker
  rw [Bool.and_eq_true, decide_eq_true_eq, decide_eq_true_eq] at hleft
  exact ⟨by decide +kernel, e, he, (hrun.delivers 0).1 e he, by decide +kernel, hleft⟩

/-! ## After a stop -/

/-- A callback leaves the executors alone that are shut down. -/
lemma PreviewSystem.worker_control (sys : PreviewSystem) (op : FallbackOp) (frame : LiveFrame)
    (hover : session < sys.retired.length) :
    (sys.control op frame).worker session = sys.worker session ∧
      session < (sys.control op frame).retired.length := by
  have hsame : ∀ sys' : PreviewSystem, sys'.retired = sys.retired →
      sys'.worker session = sys.worker session ∧ session < sys'.retired.length := by
    intro sys' hretired
    rw [worker, worker, hretired, if_neg hover.ne, if_neg hover.ne]
    exact ⟨rfl, hover⟩
  have hretire : ∀ sys' : PreviewSystem, sys'.retired = sys.retired →
      sys'.retire.worker session = sys.worker session ∧ session < sys'.retire.retired.length := by
    intro sys' hretired
    have hlength : sys.retired.length ≤ sys'.retire.retired.length := by
      simp [retire, hretired]
    refine ⟨?_, by omega⟩
    rw [worker, worker, if_neg (by omega), if_neg hover.ne, retire, hretired,
      List.getElem?_append_left hover]
  cases op with
  | Start camera =>
      rw [control]
      dsimp only
      split_ifs
      · exact hsame _ rfl
      · exact hsame _ rfl
  | Stop camera =>
      rw [control]
      split_ifs
      · exact hsame _ rfl
      · exact hretire _ rfl
  | ExecuteCommand _ _ _ | SurfaceCreated _ | SurfaceDestroyed | Timer _ _ | Frame _ _ _ | Jpeg _ _ _ =>
      exact hsame _ rfl

/-- What an executor that was shut down does in the `rest` of a run: it accepts nothing, and of what it
had `left` it has carried out a part, the other part being the task that runs. -/
structure Lapses (session : ℕ) (left : List PreviewTask) (rest : List PreviewStep)
    (sys : PreviewSystem) : Prop where
  ended : session < sys.retired.length
  submitted : submittedTo session rest = []
  worked : ∃ e, sys.worker session = some e ∧
    (deliveredBy session rest).map Delivery.task ++ e.running.toList = left

lemma Lapses.step {left : List PreviewTask} (h : Lapses session left rest sys)
    (haccounts : Accounts steps sys) (op : PreviewOp) (henabled : sys.Enabled op) :
    Lapses session left (rest ++ [sys.step op]) (sys.next op) := by
  obtain ⟨e, hworker, hleft⟩ := h.worked
  have hshut := haccounts.shut session e hworker
  rw [decide_eq_true h.ended] at hshut
  have hqueue := (haccounts.account session e hworker).sound.shut_queue hshut
  cases op with
  | Controller op frame =>
      obtain ⟨hsame, hover⟩ := sys.worker_control op frame h.ended
      refine ⟨hover, ?_, e, hsame.trans hworker, ?_⟩
      · rw [submittedTo_concat, h.submitted]
        cases (sys.tasks op frame).head? <;> simp [PreviewSystem.step, h.ended.ne']
      · simpa [deliveredBy_concat, PreviewSystem.step] using hleft
  | Take session' =>
      obtain ⟨e'', e', hworker', htake, hnext⟩ := PreviewSystem.next_take henabled
      have hother : session ≠ session' := by
        rintro rfl
        obtain rfl := Option.some.inj (hworker.symm.trans hworker')
        simp [Executor.take, hqueue] at htake
      rw [hnext]
      refine ⟨?_, ?_, e, ?_, ?_⟩
      · rw [PreviewSystem.retired_setWorker]
        exact h.ended
      · simpa [submittedTo_concat, PreviewSystem.step] using h.submitted
      · rw [PreviewSystem.worker_setWorker hworker', if_neg hother, hworker]
      · simpa [deliveredBy_concat, PreviewSystem.step] using hleft
  | Finish session' bitmaps =>
      obtain ⟨e'', task, e', hworker', hfinish, hnext, hstep⟩ := PreviewSystem.next_finish henabled
      have hsubmitted : submittedTo session (rest ++ [sys.step (.Finish session' bitmaps)]) = [] := by
        simpa [submittedTo_concat, PreviewSystem.step] using h.submitted
      rw [hnext]
      by_cases hsame : session = session'
      · subst hsame
        obtain rfl := Option.some.inj (hworker.symm.trans hworker')
        have hrunning : e.running = some task ∧ e'.running = none := by
          rw [Executor.finish, Option.map_eq_some_iff] at hfinish
          obtain ⟨task', hrunning, hpair⟩ := hfinish
          obtain ⟨rfl, rfl⟩ := Prod.mk.inj hpair
          exact ⟨hrunning, rfl⟩
        refine ⟨?_, hsubmitted, e', ?_, ?_⟩
        · rw [PreviewSystem.retired_setWorker]
          exact h.ended
        · rw [PreviewSystem.worker_setWorker hworker', if_pos rfl]
        · -- The task has gone from what runs to what is carried out.
          rw [hrunning.1, Option.toList_some] at hleft
          rw [deliveredBy_concat, hstep, hrunning.2]
          simpa using hleft
      · refine ⟨?_, hsubmitted, e, ?_, ?_⟩
        · rw [PreviewSystem.retired_setWorker]
          exact h.ended
        · rw [PreviewSystem.worker_setWorker hworker', if_neg hsame, hworker]
        · simpa [deliveredBy_concat, hstep, Ne.symm hsame] using hleft

/-- **After a stop** no task of the session is accepted any more, and the only task of it that may still
be carried out is the one that the thread was working on: what is delivered in the `rest` of the run is a
beginning of the list of that one task, if there was one, and it is published once as ever. -/
theorem PreviewPath.stale (hpath : PreviewPath sys rest sys') (hrun : PreviewRun steps sys)
    (hover : session < sys.retired.length) :
    submittedTo session rest = [] ∧
      ∃ e, sys.worker session = some e ∧
        (deliveredBy session rest).map Delivery.task <+: e.running.toList ∧
        ∀ d ∈ deliveredBy session rest,
          ∃ bitmaps, TaskSound bitmaps (d.task.encoded bitmaps) d.task.source d.calls := by
  cases hworker : sys.worker session with
  | none =>
      rw [PreviewSystem.worker, if_neg hover.ne, List.getElem?_eq_none_iff] at hworker
      omega
  | some e =>
      have hlapses : Lapses session e.running.toList rest sys' := by
        induction hpath with
        | refl => exact ⟨hover, rfl, e, hworker, rfl⟩
        | step op hpath henabled ih => exact ih.step (hrun.append hpath).accounts op henabled
      obtain ⟨e', hworker', hleft⟩ := hlapses.worked
      refine ⟨hlapses.submitted, e, rfl, ⟨_, hleft⟩, fun d hd => ?_⟩
      have haccount := (hrun.append hpath).accounts.account session e' hworker'
      refine haccount.tasks d ?_
      simp only [deliveredBy, List.filterMap_append, List.mem_append]
      exact Or.inr hd

theorem stale_threeJpegs :
    let sys := ({} : PreviewSystem).nexts threeJpegs
    let rest := sys.steps [.Finish 0 smallBitmaps]
    submittedTo 0 rest = [] ∧
      (deliveredBy 0 rest).map Delivery.task = [.Jpeg [2] (bytes "captured_jpeg")] ∧
      ∃ e, sys.worker 0 = some e ∧
        (deliveredBy 0 rest).map Delivery.task <+: e.running.toList := by
  intro sys rest
  have hpath : PreviewPath sys rest (sys.nexts [.Finish 0 smallBitmaps]) :=
    previewPath_steps sys [.Finish 0 smallBitmaps] (by decide +kernel)
  have hrun := previewPath_steps {} threeJpegs (by decide +kernel)
  have hover : 0 < sys.retired.length := by decide +kernel
  obtain ⟨hsubmitted, e, hworker, hprefix, -⟩ := hpath.stale hrun hover
  exact ⟨hsubmitted, by decide +kernel, e, hworker, hprefix⟩

end Accounts

end LegacyAlpha
