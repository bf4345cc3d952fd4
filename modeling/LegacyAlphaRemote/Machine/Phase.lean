import LegacyAlphaRemote.Machine.RemoteStateMachine

/-!
# What the machine is for

The machine carries one shot at a time from the request to the end of its cooldown.  This file says
that without flags and deadlines: a `Phase` is what is going on, with the data of it, and `Effect`
lists what each operation can do to a phase and which events can be seen meanwhile.

It is an abstract model, not a translation of the source.  It leaves out what the histories of
commands do not depend on (texts, client counts, readiness while nothing is scheduled), and a phase
holds the accepted request itself (`Plan`) where the machine only keeps deadlines computed from it.
`Machine/Refinement.lean` proves that every call of the real machine is an `Effect`.

One constructor is not what anybody would have specified: `TickEffect.captureHalfPress`, a tick that
turns a half-pressed shutter button into a photo.  The machine does that, and the model keeps it.
-/

namespace LegacyAlpha

/-! ## Requests and phases -/

/-- A capture request the machine has accepted, with the clock at that moment. -/
structure Plan where
  requestId : Bytes
  delayMs : ℤ
  autofocus : Bool
  madeAt : ℤ
  deriving DecidableEq, Repr

/-- When the capture is due: after the delay, or, for an immediate request with autofocus, after the
time that the autofocus is given. -/
def Plan.captureAt (config : NativeConfig) (plan : Plan) : ℤ :=
  if plan.delayMs = 0 ∧ plan.autofocus = true then plan.madeAt + config.immediateAutofocusLeadMs
  else plan.madeAt + plan.delayMs

/-- When the autofocus is due, for a request that asks for one: some time before the capture, and
never before the request itself. -/
def Plan.focusAt (config : NativeConfig) (plan : Plan) : ℤ :=
  if plan.delayMs = 0 then plan.madeAt
  else max plan.madeAt (plan.madeAt + plan.delayMs - config.autofocusLeadMs)

/-- What is going on.  Command ids are those of the commands sent for it; a `focus` of `0` says that
no autofocus command was sent. -/
inductive Phase
  /-- nothing is scheduled -/
  | Idle (state : RemoteState)
  /-- a request is waiting and nothing has been sent for it -/
  | Countdown (plan : Plan)
  /-- a request is waiting and its autofocus runs -/
  | Focusing (plan : Plan) (focus : ℤ)
  /-- the shutter button is held half-pressed -/
  | HalfPress (focus : ℤ)
  /-- the shutter is held -/
  | Capturing (capture focus : ℤ) (physical : Bool) (releaseAt cooldownAt : ℤ)
  /-- the shutter has been released -/
  | Cooldown (capture focus release : ℤ) (cooldownAt : ℤ)
  deriving DecidableEq, Repr

namespace Phase

/-- The state of the machine in this phase.  A half-pressed button and the autofocus of a request look
the same from outside. -/
def state : Phase → RemoteState
  | Idle state => state
  | Countdown _ => .Countdown
  | Focusing _ _ | HalfPress _ => .Focusing
  | Capturing _ _ _ _ _ => .Capturing
  | Cooldown _ _ _ _ => .Cooldown

/-- The autofocus command sent in this phase, or `0` if there was none.  It is remembered until the
cooldown is over. -/
def focusId : Phase → ℤ
  | Idle _ | Countdown _ => 0
  | Focusing _ focus | HalfPress focus | Capturing _ focus _ _ _ | Cooldown _ focus _ _ => focus

/-- A request is waiting for its capture, with or without its autofocus sent. -/
def scheduled : Phase → Bool
  | Countdown _ | Focusing _ _ => true
  | _ => false

/-- `cancelCountdown` cancels in this phase: nothing has been captured yet, and something waits or is
half-pressed. -/
def cancellable : Phase → Bool
  | Countdown _ | Focusing _ _ | HalfPress _ => true
  | _ => false

/-- A press of the physical shutter takes a photo in this phase: the machine is armed, or has
something that the press gives up. -/
def pressable : Phase → Bool
  | Idle state => state == .Armed
  | Countdown _ | Focusing _ _ | HalfPress _ => true
  | _ => false

/-- A tick at `now` has something to do.  A half-pressed button has no deadline, so that any tick
finds its capture due. -/
def due (config : NativeConfig) (now : ℤ) : Phase → Prop
  | Idle _ => False
  | Countdown plan =>
      (plan.autofocus = true ∧ plan.focusAt config ≤ now) ∨ plan.captureAt config ≤ now
  | Focusing plan _ => plan.captureAt config ≤ now
  | HalfPress _ => True
  | Capturing _ _ _ releaseAt _ => releaseAt ≤ now
  | Cooldown _ _ _ cooldownAt => cooldownAt ≤ now

/-- A failing result of this command changes the phase: that of an autofocus whose request waits, or
that of a capture until the end of its cooldown. -/
def failsOn (commandId : ℤ) : Phase → Prop
  | Focusing _ focus => commandId = focus
  | Capturing capture _ _ _ _ | Cooldown capture _ _ _ => commandId = capture
  | _ => False

end Phase

/-! ## What a call can do -/

/-- A command of the machine as the sink sees it: none of them has an argument or a text. -/
def Event.command (id : ℤ) (type : CommandType) (accepted : Bool) : Event :=
  .Sent { id, type, argument := 0, text := [] } accepted

/-- The shutter is pressed: the sink refuses, and the machine fails, or the shutter is held for a
time counted from the next reading of the clock. -/
inductive CaptureEffect (config : NativeConfig) (n focus : ℤ) (physical : Bool) :
    List Event → Phase → Prop
  | rejected : CaptureEffect config n focus physical [.command n .Capture false] (.Idle .Error)
  | accepted (now : ℤ) : CaptureEffect config n focus physical
      [.command n .Capture true, .Clock now]
      (.Capturing n focus physical
        (now + if physical then config.physicalShutterFailsafeMs else config.webShutterHoldMs)
        (now + config.cooldownMs))

/-- The autofocus, when one was sent, is cancelled; what the sink answers to that makes no difference.
-/
inductive CancelEffect (n focus : ℤ) : List Event → Prop
  | none : focus = 0 → CancelEffect n focus []
  | sent (accepted : Bool) : focus ≠ 0 →
      CancelEffect n focus [.command n .CancelAutofocus accepted]

/-- What a tick at time `now` does; `n` is the next command id.  Only the sink leaves a choice. -/
inductive TickEffect (config : NativeConfig) (n now : ℤ) : Phase → List Event → Phase → Prop
  | rest {p} : ¬ p.due config now → TickEffect config n now p [] p
  | focusRejected {plan} : plan.autofocus = true → plan.focusAt config ≤ now →
      TickEffect config n now (.Countdown plan) [.command n .StartAutofocus false] (.Idle .Error)
  | focus {plan} : plan.autofocus = true → plan.focusAt config ≤ now →
      now < plan.captureAt config →
      TickEffect config n now (.Countdown plan) [.command n .StartAutofocus true] (.Focusing plan n)
  | focusCapture {plan seg p} : plan.autofocus = true → plan.focusAt config ≤ now →
      plan.captureAt config ≤ now → CaptureEffect config (n + 1) n false seg p →
      TickEffect config n now (.Countdown plan) (.command n .StartAutofocus true :: seg) p
  | capture {plan seg p} : plan.autofocus = false → plan.captureAt config ≤ now →
      CaptureEffect config n 0 false seg p → TickEffect config n now (.Countdown plan) seg p
  | captureFocusing {plan f seg p} : plan.captureAt config ≤ now →
      CaptureEffect config n f false seg p → TickEffect config n now (.Focusing plan f) seg p
  | captureHalfPress {f seg p} : CaptureEffect config n f false seg p →
      TickEffect config n now (.HalfPress f) seg p
  | releaseRejected {c f ph r cd} : r ≤ now →
      TickEffect config n now (.Capturing c f ph r cd) [.command n .ReleaseShutter false]
        (.Idle .Error)
  | release {c f ph r cd} : r ≤ now → now < cd →
      TickEffect config n now (.Capturing c f ph r cd) [.command n .ReleaseShutter true]
        (.Cooldown c f n cd)
  | releaseFinish {c f ph r cd} : r ≤ now → cd ≤ now →
      TickEffect config n now (.Capturing c f ph r cd) [.command n .ReleaseShutter true]
        (.Idle .Armed)
  | finish {c f r cd} : cd ≤ now → TickEffect config n now (.Cooldown c f r cd) [] (.Idle .Armed)

/-- The calls that do nothing to a phase: the operation is refused, does not apply, or has nothing
to do with the schedule. -/
def Quiet (p : Phase) : Op → Bool → Prop
  | .Start, _ | .SetClientCount _, _ => True
  | .Stop, _ | .Tick, _ => p = .Idle .Stopped
  | .SetCameraReady ready, _ | .SetWifiReady ready, _ => ready = true ∨ p = .Idle .Stopped
  | .RequestCapture _ _ _, ok | .SetFocus _, ok => ok = false
  | .CancelCountdown, ok => ok = false ∧ p.cancellable = false
  | .PhysicalShutter pressed, ok => pressed = true → ok = false ∧ p.pressable = false
  | .ReportCommandResult commandId resultCode _, _ => resultCode = 0 ∨ ¬ p.failsOn commandId

/-- The operations that move the machine between its idle states, from whatever phase it is in. -/
def Op.lifecycle : Op → Bool
  | .Start | .Stop | .SetCameraReady _ | .SetWifiReady _ => true
  | _ => false

/-- **What an operation can do to a phase**: the events of the call between its beginning and its
return, its answer, and the phase it leaves. -/
inductive Effect (config : NativeConfig) (n : ℤ) : Phase → Op → List Event → Bool → Phase → Prop
  | quiet {p op ok} : Quiet p op ok → Effect config n p op [] ok p
  | lifecycle {s s' op} : op.lifecycle = true → Effect config n (.Idle s) op [] true (.Idle s')
  | stop {p seg} : CancelEffect n p.focusId seg → Effect config n p .Stop seg true (.Idle .Stopped)
  | cameraLost {p} : Effect config n p (.SetCameraReady false) [] true (.Idle .Starting)
  | wifiLost {p} : Effect config n p (.SetWifiReady false) [] true (.Idle .Starting)
  | request {plan now seg p} : 0 ≤ plan.delayMs → plan.delayMs ≤ config.maxDelayMs →
      plan.madeAt ≤ now →
      TickEffect config n now (.Countdown plan) seg p →
      Effect config n (.Idle .Armed)
        (.RequestCapture plan.requestId plan.delayMs plan.autofocus)
        (.Clock plan.madeAt :: .Clock now :: seg) (p.state != .Error) p
  | cancel {p seg} : p.cancellable = true → CancelEffect n p.focusId seg →
      Effect config n p .CancelCountdown seg true (.Idle .Armed)
  | focusRejected : Effect config n (.Idle .Armed) (.SetFocus true)
      [.command n .StartAutofocus false] false (.Idle .Error)
  | focusPress : Effect config n (.Idle .Armed) (.SetFocus true)
      [.command n .StartAutofocus true] true (.HalfPress n)
  | focusRelease {f} (accepted : Bool) : Effect config n (.HalfPress f) (.SetFocus false)
      [.command n .CancelAutofocus accepted] true (.Idle .Armed)
  | press {p seg p'} : p.pressable = true → p.scheduled = false →
      CaptureEffect config n p.focusId true seg p' →
      Effect config n p (.PhysicalShutter true) seg (p'.state != .Error) p'
  | pressScheduled {p seg seg' k p'} : p.scheduled = true → CancelEffect n p.focusId seg →
      CaptureEffect config k 0 true seg' p' →
      Effect config n p (.PhysicalShutter true) (seg ++ seg') (p'.state != .Error) p'
  | unpress {c f r cd pressed now seg p} : pressed ≤ now →
      TickEffect config n now (.Capturing c f true pressed cd) seg p →
      Effect config n (.Capturing c f true r cd) (.PhysicalShutter false)
        (.Clock pressed :: .Clock now :: seg) true p
  | tick {p now seg p'} : TickEffect config n now p seg p' →
      Effect config n p .Tick (.Clock now :: seg) true p'
  | captureFailed {c f ph r cd code message} : code ≠ 0 →
      Effect config n (.Capturing c f ph r cd) (.ReportCommandResult c code message) [] true
        (.Idle .Error)
  | captureFailedLate {c f r cd code message} : code ≠ 0 →
      Effect config n (.Cooldown c f r cd) (.ReportCommandResult c code message) [] true
        (.Idle .Error)
  | focusFailed {plan f code message} : code ≠ 0 →
      Effect config n (.Focusing plan f) (.ReportCommandResult f code message) [] true
        (.Idle .Armed)

/-! ## Inside a call -/

/-- What happens inside a call: readings of the clock and commands, but no other call. -/
def Event.Inner : Event → Prop
  | .Clock _ | .Sent _ _ => True
  | .Call _ _ | .Returned _ _ _ => False

variable {config : NativeConfig} {n : ℤ} {p p' : Phase} {seg : List Event}

lemma CaptureEffect.inner {focus : ℤ} {physical : Bool}
    (h : CaptureEffect config n focus physical seg p') : ∀ e ∈ seg, e.Inner := by
  cases h <;> simp [Event.Inner, Event.command]

lemma CancelEffect.inner {focus : ℤ} (h : CancelEffect n focus seg) : ∀ e ∈ seg, e.Inner := by
  cases h <;> simp [Event.Inner, Event.command]

lemma TickEffect.inner {now : ℤ} (h : TickEffect config n now p seg p') :
    ∀ e ∈ seg, e.Inner := by
  cases h with
  | focusCapture _ _ _ hcap =>
      intro e he
      rcases List.mem_cons.mp he with rfl | he
      · trivial
      · exact hcap.inner e he
  | capture _ _ hcap | captureFocusing _ hcap | captureHalfPress hcap => exact hcap.inner
  | _ => simp [Event.Inner, Event.command]

lemma Effect.inner {op : Op} {ok : Bool} (h : Effect config n p op seg ok p') :
    ∀ e ∈ seg, e.Inner := by
  cases h with
  | stop hcancel | cancel _ hcancel => exact hcancel.inner
  | tick htick =>
      intro e he
      rcases List.mem_cons.mp he with rfl | he
      · trivial
      · exact htick.inner e he
  | request _ _ _ htick | unpress _ htick =>
      intro e he
      simp only [List.mem_cons] at he
      rcases he with rfl | rfl | he
      · trivial
      · trivial
      · exact htick.inner e he
  | press _ _ hcap => exact hcap.inner
  | pressScheduled _ hcancel hcap =>
      intro e he
      rcases List.mem_append.mp he with he | he
      · exact hcancel.inner e he
      · exact hcap.inner e he
  | _ => simp [Event.Inner, Event.command]

end LegacyAlpha
