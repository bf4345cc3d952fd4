import LegacyAlphaRemote.Machine.StaleResults
import LegacyAlphaRemote.Runtime.Calls
import LegacyAlphaRemote.Runtime.Native

/-!
# The main thread of Java

`LegacyAlphaRemoteActivity.java`.  A command that the native side dispatches is posted to the main
thread, and runs there when its turn comes.  By then the session that sent it may be over, and another
may have begun, with a runtime of its own that gives out the same ids again; the result goes to the
runtime that exists (`App`).

`resultsStay_iff` says what becomes of the failing result of a command of an earlier session: it
changes nothing exactly when its id is none that the machine of the present session waits for.
-/

namespace LegacyAlpha

open NativeRuntime

/-! ## The app -/

/-- The fields of an activity that are looked at when a command runs. -/
structure Activity where
  resumed : Bool := false
  nativeStarted : Bool := false
  deriving DecidableEq, Repr

/-- A command on the queue of the main thread: the activity that posted it, and the session whose
runtime sent it, which nothing in the code knows. -/
structure Posted where
  activity : ℕ
  session : ℕ
  command : NativeCommand
  deriving DecidableEq, Repr

/-- The native library, the activities, and the queue of the main thread.  Sessions are numbered: the
runtime belongs to the last of them. -/
structure App where
  native : Native := {}
  activities : ℕ → Activity := fun _ => {}
  queue : List Posted := []
  sessions : ℕ := 0

/-- What may happen: an activity is resumed or paused, the main thread runs the next command, or the
library is called otherwise, by the server thread or by a callback of Java.  When a command is
executed the camera decides on its result. -/
inductive AppOp
  | OnResume (activity random : ℕ) (serverStarts : Bool)
  | OnPause (activity : ℕ)
  | Run (resultCode : ℤ) (message : Bytes)
  | Call (op : RuntimeOp)
  deriving DecidableEq, Repr

/-- The calls that are neither made by `nativeStart` and `nativeStop` nor by `run`. -/
def RuntimeOp.Other : RuntimeOp → Prop
  | .Start _ _ | .Stop | .ReportCommandResult _ _ _ => False
  | _ => True

namespace App

/-- `dispatchNativeCommand`, for each command that was handed over: it is posted on the queue, with
the activity that it was called for.  A refused command is none. -/
def post (queue : List Posted) (activity : Option ℕ) (session : ℕ) (trace : List Event) :
    List Posted :=
  match activity with
  | none => queue
  | some activity => queue ++ trace.filterMap fun
    | .Sent command true => some { activity, session, command }
    | _ => none

/-- `onResume`: the activity starts the library, and remembers whether that has succeeded.  A runtime
that is there already stays, with its session. -/
def onResume (assets : Assets) (config : NativeConfig) (app : App) (io : Io)
    (activity random : ℕ) (serverStarts : Bool) : App :=
  let sessions := if app.native.runtime.isSome then app.sessions else app.sessions + 1
  let out := app.native.nativeStart assets config io activity random serverStarts
  { native := out.native
    activities := Function.update app.activities activity { resumed := true, nativeStarted := out.ok }
    queue := post app.queue (some activity) sessions out.io.trace
    sessions }

/-- `onPause`: an activity that has started the library stops it, even if another one has started it
since. -/
def onPause (config : NativeConfig) (app : App) (io : Io) (activity : ℕ) : App :=
  let activities := Function.update app.activities activity {}
  if (app.activities activity).nativeStarted then
    let out := app.native.nativeStop config io
    { app with
      native := out.native, activities
      queue := post app.queue app.native.activity app.sessions out.io.trace }
  else { app with activities }

/-- Any other call of the library, whose commands are posted for the activity that the library knows.
-/
def call (assets : Assets) (target : Target) (config : NativeConfig) (app : App) (io : Io)
    (op : RuntimeOp) : App :=
  let out := app.native.call assets target config io op
  { app with
    native := out.native, queue := post app.queue app.native.activity app.sessions out.io.trace }

/-- The result that `run` reports for the next command.  An activity that is not resumed reports that
it is paused; one that is executes the command, and reports what came of it if it has started the
library. -/
def result (app : App) (resultCode : ℤ) (message : Bytes) : Option (Posted × ℤ × Bytes) :=
  match app.queue with
  | [] => none
  | posted :: _ =>
    if posted.command.type = .UpdateScreen then none
    else if !(app.activities posted.activity).resumed then
      some (posted, -1, bytes "activity paused")
    else if (app.activities posted.activity).nativeStarted then some (posted, resultCode, message)
    else none

/-- `run`, for the next command: it is taken from the queue, and its result is reported to the runtime
that is there now. -/
def run (assets : Assets) (target : Target) (config : NativeConfig) (app : App) (io : Io)
    (resultCode : ℤ) (message : Bytes) : App :=
  let popped := { app with queue := app.queue.tail }
  match app.result resultCode message with
  | none => popped
  | some (posted, resultCode, message) =>
    popped.call assets target config io
      (.ReportCommandResult posted.command.id resultCode message)

/-- What each of them does to the app. -/
def perform (assets : Assets) (target : Target) (config : NativeConfig) (app : App) (io : Io) :
    AppOp → App
  | .OnResume activity random serverStarts =>
      app.onResume assets config io activity random serverStarts
  | .OnPause activity => app.onPause config io activity
  | .Run resultCode message => app.run assets target config io resultCode message
  | .Call op => app.call assets target config io op

end App

/-- A step of the app: what happened, and the app before and after it. -/
structure AppStep where
  op : AppOp
  before : App
  after : App

/-- A step with this clock and these answers of Java, from the app as it is. -/
def App.step (assets : Assets) (target : Target) (config : NativeConfig) (app : App) (op : AppOp)
    (clock : ℕ → ℤ) (answers : ℕ → Bool) : AppStep :=
  { op, before := app, after := app.perform assets target config { clock, answers } op }

/-- A run of the app, with any number of activities, resumed and paused in any order, and the queue
run whenever it comes to it. -/
inductive AppRun (assets : Assets) (target : Target) (config : NativeConfig) :
    List AppStep → App → Prop
  | init : AppRun assets target config [] {}
  | step {steps : List AppStep} {app : App} (op : AppOp) (clock : ℕ → ℤ) (answers : ℕ → Bool) :
      AppRun assets target config steps app → (∀ other, op = .Call other → other.Other) →
      AppRun assets target config (steps ++ [app.step assets target config op clock answers])
        (app.step assets target config op clock answers).after

namespace AppRun

/-- The steps of these happenings, each at its time, with a Java that accepts every command. -/
def taken (assets : Assets) (target : Target) (config : NativeConfig) (app : App) :
    List (AppOp × ℤ) → List AppStep
  | [] => []
  | (op, now) :: ops =>
    let s := app.step assets target config op (fun _ => now) fun _ => true
    s :: taken assets target config s.after ops

lemma append_taken {assets : Assets} {target : Target} {config : NativeConfig}
    (ops : List (AppOp × ℤ)) : ∀ {steps : List AppStep} {app : App},
    AppRun assets target config steps app →
    (∀ call ∈ ops, ∀ other, call.1 = .Call other → other.Other) →
    ∃ app', AppRun assets target config (steps ++ taken assets target config app ops) app' := by
  induction ops with
  | nil => exact fun {steps app} h _ => ⟨app, by simpa [taken] using h⟩
  | cons call ops ih =>
      intro steps app h hother
      obtain ⟨hcall, hops⟩ := List.forall_mem_cons.mp hother
      obtain ⟨app', h'⟩ := ih (h.step call.1 (fun _ => call.2) (fun _ => true) hcall) hops
      exact ⟨app', by simpa [taken] using h'⟩

end AppRun

/-! ## Results that cross over -/

/-- The failing result of a command of an earlier session, and the runtime it is reported to. -/
def AppStep.stale (s : AppStep) : Option (NativeRuntime × ℤ × Bytes) :=
  match s.op, s.before.native.runtime with
  | .Run resultCode message, some rt =>
    match s.before.result resultCode message with
    | none => none
    | some (posted, resultCode, message) =>
      if resultCode ≠ 0 ∧ posted.session < s.before.sessions then
        some (rt, posted.command.id, message)
      else none
  | _, _ => none

/-- **Results do not cross sessions**: the machine of a later session is left as it is. -/
def ResultsStay (steps : List AppStep) : Prop :=
  ∀ s ∈ steps, ∀ rt commandId message, s.stale = some (rt, commandId, message) →
    s.after.native.runtime.map (·.machine) = some rt.machine

/-- The machine takes a failing result for that of a command of its own: of its capture, of its
scheduled autofocus before the capture, or of its release, whose error it then shows. -/
def RemoteStateMachine.Heeds (m : RemoteStateMachine) (commandId : ℤ) (message : Bytes) : Prop :=
  commandId = m.captureCommandId ∨
    (commandId = m.focusCommandId ∧ m.standaloneFocus = false ∧ m.captureSent = false) ∨
    (commandId = m.releaseCommandId ∧
      m.lastError ≠ if message.isEmpty then bytes "shutter release failed" else message)

/-- A failing result of an earlier session is taken for one of the present session. -/
def AppStep.Mistaken (s : AppStep) : Prop :=
  ∃ rt commandId message, s.stale = some (rt, commandId, message) ∧ rt.machine.Heeds commandId message

instance (m : RemoteStateMachine) (commandId : ℤ) (message : Bytes) :
    Decidable (m.Heeds commandId message) :=
  inferInstanceAs (Decidable (_ ∨ _))

instance (s : AppStep) : Decidable s.Mistaken :=
  match h : s.stale with
  | none => isFalse fun ⟨_, _, _, hstale, _⟩ => nomatch h.symm.trans hstale
  | some (rt, commandId, message) =>
      decidable_of_iff (rt.machine.Heeds commandId message)
        ⟨fun hheeds => ⟨rt, commandId, message, h, hheeds⟩, fun ⟨_, _, _, hstale, hheeds⟩ => by
          obtain ⟨rfl, hrest⟩ := Prod.mk.inj (Option.some.inj (h.symm.trans hstale))
          obtain ⟨rfl, rfl⟩ := Prod.mk.inj hrest
          exact hheeds⟩

variable {assets : Assets} {target : Target} {config : NativeConfig} {rt : NativeRuntime} {io : Io}
  {m : RemoteStateMachine} {app : App} {steps : List AppStep}

/-- What a failing result changes: nothing, unless the machine waits for this command or shows another
error. -/
lemma reportCommandResult_eq_iff {commandId resultCode : ℤ} (hid : commandId ≠ 0)
    (hcode : resultCode ≠ 0) (message : Bytes) :
    m.reportCommandResult commandId resultCode message = m ↔ ¬ m.Heeds commandId message := by
  rw [RemoteStateMachine.Heeds]
  by_cases hcapture : commandId = m.captureCommandId
  · -- The machine fails, and waits for no capture any more.
    refine iff_of_false (fun hsame => ?_) (not_not_intro (Or.inl hcapture))
    have hcleared : (m.reportCommandResult commandId resultCode message).captureCommandId = 0 := by
      simp [RemoteStateMachine.reportCommandResult, hcapture, hcode, RemoteStateMachine.fail,
        RemoteStateMachine.clearSchedule, RemoteStateMachine.transition]
    rw [hsame] at hcleared
    exact hid (hcapture.trans hcleared)
  by_cases hfocus : commandId = m.focusCommandId ∧ m.standaloneFocus = false ∧ m.captureSent = false
  · -- The request is given up.
    refine iff_of_false (fun hsame => ?_) (not_not_intro (Or.inr (Or.inl hfocus)))
    obtain ⟨rfl, hstandalone, hsent⟩ := hfocus
    have hcleared : (m.reportCommandResult m.focusCommandId resultCode message).focusCommandId = 0 := by
      simp [RemoteStateMachine.reportCommandResult, hcapture, hcode, hstandalone, hsent, hid,
        RemoteStateMachine.clearSchedule, RemoteStateMachine.transition]
    rw [hsame] at hcleared
    exact hid hcleared
  have hkept : m.reportCommandResult commandId resultCode message =
      if commandId = m.releaseCommandId then
        { m with lastError :=
            if message.isEmpty then bytes "shutter release failed" else message }
      else m := by
    have hnot : ¬ (commandId == m.focusCommandId && resultCode != 0 && !m.standaloneFocus
        && !m.captureSent) = true := by
      simpa [hcode, and_assoc] using hfocus
    rw [RemoteStateMachine.reportCommandResult, if_neg (by simp [hcapture])]
    dsimp only
    rw [if_neg hnot]
    simp [hcode]
  rw [hkept]
  generalize (if message.isEmpty = true then bytes "shutter release failed" else message) = error
  simp only [hcapture, hfocus, false_or, not_and, not_not]
  by_cases hrelease : commandId = m.releaseCommandId
  · rw [if_pos hrelease]
    exact ⟨fun hsame _ => (congrArg RemoteStateMachine.lastError hsame).symm,
      fun herror => by rw [← herror hrelease]⟩
  · rw [if_neg hrelease]
    exact iff_of_true rfl fun hreleased => absurd hreleased hrelease

/-! ## The ids on the queue -/

/-- The machine gives out positive ids, and every command for the camera has one. -/
def Positive (m : RemoteStateMachine) (io : Io) : Prop :=
  0 < m.nextCommandId ∧ ∀ command accepted, .Sent command accepted ∈ io.trace →
    command.type ≠ .UpdateScreen → 0 < command.id

lemma Positive.trace_append {e : Event} (h : Positive m io)
    (he : ∀ command accepted, e = .Sent command accepted → command.type ≠ .UpdateScreen →
      0 < command.id) : Positive m { io with trace := io.trace ++ [e] } := by
  refine ⟨h.1, fun command accepted hsent htype => ?_⟩
  rcases List.mem_append.mp hsent with hold | hnew
  · exact h.2 command accepted hold htype
  · exact he command accepted (List.mem_singleton.mp hnew).symm htype

lemma Positive.threaded : Threaded Positive where
  of_next h hn := ⟨hn ▸ h.1, h.2⟩
  nowMs h := h.trace_append (by simp)
  send {m io} type h := by
    have hnext := send_nextCommandId m io type
    have hpos := h.1
    refine ⟨by omega, fun command accepted hsent htype => ?_⟩
    rw [send_trace] at hsent
    rcases List.mem_append.mp hsent with hold | hnew
    · exact h.2 command accepted hold htype
    · simp only [Event.command, List.mem_singleton, Event.Sent.injEq] at hnew
      rw [hnew.1]
      exact hpos

lemma positive_operate (h : Positive rt.machine io) (op : Op) :
    Positive (operate config rt io op).runtime.machine (operate config rt io op).io := by
  have hcall : Positive rt.machine { io with
      answers := fun i => rt.started && io.answers i, trace := io.trace ++ [.Call op rt.machine] } :=
    h.trace_append (by simp)
  have hbody : Positive (rt.machine.perform config _ op).machine _ :=
    Positive.threaded.perform hcall op
  exact hbody.trace_append (by simp)

lemma positive_upheld (config : NativeConfig) :
    Upheld config fun rt io => Positive rt.machine io where
  aside h haside := by
    rw [haside.machine]
    exact h
  nowMs h := h.trace_append (by simp)
  screen h htype := h.trace_append (by
    rintro command accepted hsent hcamera
    obtain ⟨rfl, -⟩ := Event.Sent.inj hsent
    exact absurd htype hcamera)
  operate h _ _ := positive_operate h _

lemma positive_updateScreen (h : Positive rt.machine io) (force : Bool) :
    Positive (updateScreen assets config rt io force).1.machine
      (updateScreen assets config rt io force).2 :=
  (positive_upheld config).updateScreen h force

lemma positive_start (assets : Assets) (config : NativeConfig) (h : Positive rt.machine io)
    (random : ℕ) (serverStarts : Bool) :
    Positive (rt.start assets config io random serverStarts).runtime.machine
      (rt.start assets config io random serverStarts).io := by
  rw [NativeRuntime.start]
  by_cases hstarted : rt.started = true
  · rw [if_pos hstarted]
    exact h
  · rw [if_neg hstarted]
    have hrenewed : Positive (rt.renew random).machine io := h
    have hbegun : Positive (operate config (rt.renew random) io .Start).runtime.machine
        (operate config (rt.renew random) io .Start).io := positive_operate hrenewed .Start
    cases serverStarts with
    | false => exact positive_operate hbegun .Stop
    | true =>
        have hopened : Positive { (operate config (rt.renew random) io .Start).runtime with
            started := true }.machine (operate config (rt.renew random) io .Start).io := hbegun
        exact positive_updateScreen hopened true

lemma positive_stop (h : Positive rt.machine io) :
    Positive (rt.stop config io).runtime.machine (rt.stop config io).io := by
  rw [NativeRuntime.stop]
  by_cases hstarted : rt.started = true
  · rw [if_neg (by simp [hstarted])]
    have hclosed : Positive { rt with started := false }.machine io := h
    exact positive_operate hclosed .Stop
  · rw [if_pos (by simpa using hstarted)]
    exact h

lemma positive_perform (assets : Assets) (target : Target) (config : NativeConfig)
    (h : Positive rt.machine io) (op : RuntimeOp) :
    Positive (rt.perform assets target config io op).runtime.machine
      (rt.perform assets target config io op).io := by
  by_cases hstart : ∃ random serverStarts, op = .Start random serverStarts
  · obtain ⟨random, serverStarts, rfl⟩ := hstart
    exact positive_start assets config h random serverStarts
  by_cases hstop : op = .Stop
  · subst hstop
    exact positive_stop h
  · refine (positive_upheld config).perform h
      (fun random serverStarts heq => hstart ⟨random, serverStarts, heq⟩) hstop ?_
    intro data width height source error _
    rw [(rt.setPreview_session data width height source error).1]
    exact h

/-- The runtime of the library gives out positive ids, and so have the commands that were sent. -/
structure Native.Positive (native : Native) (trace : List Event) : Prop where
  next : ∀ rt, native.runtime = some rt → 0 < rt.machine.nextCommandId
  sent : ∀ command accepted, .Sent command accepted ∈ trace → command.type ≠ .UpdateScreen →
    0 < command.id

/-- Where nothing was sent, the ids in the trace are positive. -/
lemma Native.Positive.quiet {native : Native}
    (hnext : ∀ rt, native.runtime = some rt → 0 < rt.machine.nextCommandId) (hio : io.trace = []) :
    native.Positive io.trace :=
  ⟨hnext, fun _ _ hsent => by simp [hio] at hsent⟩

lemma Native.Positive.runtime {native : Native} {trace : List Event} (h : native.Positive trace)
    (hrt : native.runtime = some rt) (hio : io.trace = trace) : LegacyAlpha.Positive rt.machine io :=
  ⟨h.next rt hrt, by rw [hio]; exact h.sent⟩

lemma positive_call (assets : Assets) (target : Target) (config : NativeConfig) {native : Native}
    (h : native.Positive io.trace) (op : RuntimeOp) :
    (native.call assets target config io op).native.Positive
      (native.call assets target config io op).io.trace := by
  obtain ⟨runtime, activity⟩ := native
  cases runtime with
  | none => exact h
  | some rt =>
      have hbefore : Positive rt.machine (Native.dispatchToJava ⟨some rt, activity⟩ io) :=
        h.runtime rfl rfl
      obtain ⟨hnext, hsent⟩ := positive_perform assets target config hbefore op
      refine ⟨fun rt' hrt' => ?_, hsent⟩
      obtain rfl := Option.some.inj hrt'
      exact hnext

lemma positive_nativeStart (assets : Assets) (config : NativeConfig) {native : Native}
    (h : native.Positive io.trace)
    (activity random : ℕ) (serverStarts : Bool) :
    (native.nativeStart assets config io activity random serverStarts).native.Positive
      (native.nativeStart assets config io activity random serverStarts).io.trace := by
  have hnew : Positive (NativeRuntime.new config).machine io := ⟨one_pos, h.sent⟩
  obtain ⟨hnext, hsent⟩ := positive_start assets config hnew random serverStarts
  rw [Native.nativeStart]
  dsimp only
  split_ifs
  · exact h
  · exact ⟨fun rt hrt => (nomatch hrt), hsent⟩
  · refine ⟨fun rt hrt => ?_, hsent⟩
    obtain rfl := Option.some.inj hrt
    exact hnext

lemma positive_nativeStop (config : NativeConfig) {native : Native} (h : native.Positive io.trace) :
    (native.nativeStop config io).native.Positive (native.nativeStop config io).io.trace := by
  obtain ⟨runtime, activity⟩ := native
  cases runtime with
  | none => exact ⟨fun rt hrt => (nomatch hrt), h.sent⟩
  | some rt =>
      have hbefore : Positive rt.machine (Native.dispatchToJava ⟨some rt, activity⟩ io) :=
        h.runtime rfl rfl
      exact ⟨fun rt hrt => (nomatch hrt), (positive_stop hbefore).2⟩

/-- Every command for the camera on the queue has a positive id, and the runtime goes on giving them
out. -/
structure QueuePositive (app : App) : Prop where
  next : ∀ rt, app.native.runtime = some rt → 0 < rt.machine.nextCommandId
  queue : ∀ posted ∈ app.queue, posted.command.type ≠ .UpdateScreen → 0 < posted.command.id

/-- Commands with positive ids are posted, and the queue has none but such, apart from those for the
screen. -/
lemma positive_post {queue : List Posted} {trace : List Event}
    (hqueue : ∀ posted ∈ queue, posted.command.type ≠ .UpdateScreen → 0 < posted.command.id)
    (htrace : ∀ command accepted, .Sent command accepted ∈ trace → command.type ≠ .UpdateScreen →
      0 < command.id) (activity : Option ℕ) (session : ℕ) :
    ∀ posted ∈ App.post queue activity session trace, posted.command.type ≠ .UpdateScreen →
      0 < posted.command.id := by
  cases activity with
  | none => exact hqueue
  | some activity =>
      intro posted hposted htype
      rcases List.mem_append.mp hposted with hold | hnew
      · exact hqueue posted hold htype
      · obtain ⟨e, he, hpost⟩ := List.mem_filterMap.mp hnew
        cases e with
        | Sent command accepted =>
            cases accepted with
            | true =>
                obtain rfl := Option.some.inj hpost
                exact htrace command true he htype
            | false => cases hpost
        | Call _ _ | Clock _ | Returned _ _ _ => cases hpost

lemma QueuePositive.call (h : QueuePositive app) (hio : io.trace = []) (op : RuntimeOp) :
    QueuePositive (app.call assets target config io op) := by
  obtain ⟨hnext, hsent⟩ :=
    positive_call assets target config (Native.Positive.quiet h.next hio) op
  exact ⟨hnext, positive_post h.queue hsent _ _⟩

lemma QueuePositive.onResume (h : QueuePositive app) (hio : io.trace = []) (activity random : ℕ)
    (serverStarts : Bool) :
    QueuePositive (app.onResume assets config io activity random serverStarts) := by
  obtain ⟨hnext, hsent⟩ := positive_nativeStart assets config (Native.Positive.quiet h.next hio)
    activity random serverStarts
  exact ⟨hnext, positive_post h.queue hsent (some activity) _⟩

lemma QueuePositive.onPause (h : QueuePositive app) (hio : io.trace = []) (activity : ℕ) :
    QueuePositive (app.onPause config io activity) := by
  obtain ⟨hnext, hsent⟩ := positive_nativeStop config (Native.Positive.quiet h.next hio)
  rw [App.onPause]
  dsimp only
  split_ifs
  · exact ⟨hnext, positive_post h.queue hsent _ _⟩
  · exact ⟨h.next, h.queue⟩

lemma QueuePositive.run (h : QueuePositive app) (hio : io.trace = []) (resultCode : ℤ)
    (message : Bytes) : QueuePositive (app.run assets target config io resultCode message) := by
  have hpopped : QueuePositive { app with queue := app.queue.tail } :=
    ⟨h.next, fun posted hposted => h.queue posted (List.mem_of_mem_tail hposted)⟩
  rw [App.run]
  cases app.result resultCode message with
  | none => exact hpopped
  | some result => exact hpopped.call hio _

lemma AppRun.queuePositive (h : AppRun assets target config steps app) : QueuePositive app := by
  induction h with
  | init => exact ⟨fun rt hrt => (nomatch hrt), fun posted hposted => (nomatch hposted)⟩
  | step op clock answers hrun hother ih =>
      cases op with
      | OnResume activity random serverStarts => exact ih.onResume rfl activity random serverStarts
      | OnPause activity => exact ih.onPause rfl activity
      | Run resultCode message => exact ih.run rfl resultCode message
      | Call op => exact ih.call rfl op

/-! ## Results -/

/-- A result that is reported is that of a command for the camera on the queue. -/
lemma App.mem_of_result {resultCode : ℤ} {message : Bytes} {posted : Posted} {code : ℤ}
    {text : Bytes} (h : app.result resultCode message = some (posted, code, text)) :
    posted ∈ app.queue ∧ posted.command.type ≠ .UpdateScreen := by
  rw [App.result] at h
  cases hqueue : app.queue with
  | nil =>
      rw [hqueue] at h
      cases h
  | cons next queue =>
      rw [hqueue] at h
      dsimp only at h
      split_ifs at h with htype hresumed hstarted
      · obtain ⟨rfl, -⟩ := Prod.mk.inj (Option.some.inj h)
        exact ⟨List.mem_cons_self, htype⟩
      · obtain ⟨rfl, -⟩ := Prod.mk.inj (Option.some.inj h)
        exact ⟨List.mem_cons_self, htype⟩

/-- A reported result reaches the machine, which nothing else in the call changes. -/
lemma machine_report (rt : NativeRuntime) (io : Io) (commandId resultCode : ℤ) (message : Bytes) :
    (rt.perform assets target config io
        (.ReportCommandResult commandId resultCode message)).runtime.machine =
      rt.machine.reportCommandResult commandId resultCode message := by
  obtain ⟨screen, hscreen⟩ := updateScreen_runtime assets config
    (operate config rt io (.ReportCommandResult commandId resultCode message)).runtime
    (operate config rt io (.ReportCommandResult commandId resultCode message)).io true
  exact congrArg NativeRuntime.machine hscreen

/-- Where a stale result comes from: from a command of an earlier session that runs now, and fails. -/
lemma AppStep.stale_inv {s : AppStep} {commandId : ℤ} {message : Bytes}
    (h : s.stale = some (rt, commandId, message)) :
    ∃ code text posted resultCode, s.op = .Run code text ∧ s.before.native.runtime = some rt ∧
      s.before.result code text = some (posted, resultCode, message) ∧ resultCode ≠ 0 ∧
      posted.session < s.before.sessions ∧ posted.command.id = commandId := by
  obtain ⟨op, before, after⟩ := s
  rw [AppStep.stale] at h
  cases op with
  | OnResume _ _ _ | OnPause _ | Call _ => cases h
  | Run code text =>
      cases hrt : before.native.runtime with
      | none => simp [hrt] at h
      | some rt' =>
          cases hresult : before.result code text with
          | none => simp [hrt, hresult] at h
          | some result =>
              obtain ⟨posted, resultCode, message'⟩ := result
              simp only [hrt, hresult] at h
              split_ifs at h with hfailing
              obtain ⟨rfl, hrest⟩ := Prod.mk.inj (Option.some.inj h)
              obtain ⟨rfl, rfl⟩ := Prod.mk.inj hrest
              exact ⟨code, text, posted, resultCode, rfl, rfl, hresult, hfailing.1, hfailing.2, rfl⟩

/-- **A step**: what the failing result of an earlier session changes. -/
lemma machine_stale_iff (h : QueuePositive app) (op : AppOp) (clock : ℕ → ℤ) (answers : ℕ → Bool)
    {commandId : ℤ} {message : Bytes}
    (hstale : (app.step assets target config op clock answers).stale =
      some (rt, commandId, message)) :
    (app.step assets target config op clock answers).after.native.runtime.map (·.machine) =
        some rt.machine ↔ ¬ rt.machine.Heeds commandId message := by
  obtain ⟨code, text, posted, resultCode, hop, hrt, hresult, hcode, -, rfl⟩ := AppStep.stale_inv hstale
  obtain rfl : op = .Run code text := hop
  have hresult : app.result code text = some (posted, resultCode, message) := hresult
  obtain ⟨hposted, htype⟩ := App.mem_of_result hresult
  have hafter : (app.step assets target config (.Run code text) clock answers).after.native.runtime =
      some (rt.perform assets target config (app.native.dispatchToJava { clock, answers })
        (.ReportCommandResult posted.command.id resultCode message)).runtime := by
    show (app.run assets target config _ code text).native.runtime = _
    rw [App.run, hresult]
    show (app.native.call assets target config _ _).native.runtime = _
    rw [Native.call, show app.native.runtime = some rt from hrt]
  rw [hafter, Option.map_some, machine_report, Option.some.injEq]
  exact reportCommandResult_eq_iff (h.queue posted hposted htype).ne' hcode message

/-- Every step of a run is taken by an app whose queue is in order. -/
lemma AppRun.exists_step (h : AppRun assets target config steps app) {s : AppStep} (hs : s ∈ steps) :
    ∃ app op clock answers, QueuePositive app ∧ s = app.step assets target config op clock answers := by
  induction h with
  | init => cases hs
  | @step steps app op clock answers hrun hother ih =>
      rcases List.mem_append.mp hs with hold | hnew
      · exact ih hold
      · exact ⟨app, op, clock, answers, hrun.queuePositive, List.mem_singleton.mp hnew⟩

/-- **When results stay in their sessions**: in every run, exactly when no failing result of an
earlier session is taken for one of the present session.  A new runtime counts its commands from one
again, and looks at nothing but the number of a result. -/
theorem resultsStay_iff (h : AppRun assets target config steps app) :
    ResultsStay steps ↔ ∀ s ∈ steps, ¬ s.Mistaken := by
  constructor
  · rintro hstay s hs ⟨rt, commandId, message, hstale, hheeds⟩
    obtain ⟨app', op, clock, answers, hqueue, rfl⟩ := h.exists_step hs
    exact (machine_stale_iff hqueue op clock answers hstale).mp (hstay _ hs _ _ _ hstale) hheeds
  · intro hnone s hs rt commandId message hstale
    obtain ⟨app', op, clock, answers, hqueue, rfl⟩ := h.exists_step hs
    refine (machine_stale_iff hqueue op clock answers hstale).mpr fun hheeds => ?_
    exact hnone _ hs ⟨rt, commandId, message, hstale, hheeds⟩

/-- The focus key is pressed in the session of the first activity; before the command runs, the
activity is paused and another one resumed. -/
def relaunched : List (AppOp × ℤ) :=
  [(.OnResume 0 123456 true, 1000), (.Call (.SetCameraReady true), 1100),
    (.Call (.SetWifiState true (bytes "camera") (bytes "secret") (bytes "192.168.122.1") 1 []), 1200),
    (.Run 0 (bytes "ok"), 1250), (.Run 0 (bytes "ok"), 1260), (.Run 0 (bytes "ok"), 1270),
    (.Call (.PhysicalFocus true), 1300), (.OnPause 0, 1400), (.OnResume 1 654321 true, 1500),
    (.Call (.SetCameraReady true), 1600),
    (.Call (.SetWifiState true (bytes "camera") (bytes "secret") (bytes "192.168.122.1") 1 []), 1700)]

/-- The command runs before the new session sends one, so that its id names none of the new commands
yet. -/
def lateSteps : List AppStep :=
  AppRun.taken {} .armeabi {} {} (relaunched ++
    [(.Run 0 (bytes "ok"), 1800), (.Call (.PhysicalShutter true), 1900)])

theorem resultsStay_lateSteps : ResultsStay lateSteps := by
  obtain ⟨app, hrun⟩ : ∃ app, AppRun {} .armeabi {} lateSteps app :=
    AppRun.append_taken (relaunched ++
      [(.Run 0 (bytes "ok"), 1800), (.Call (.PhysicalShutter true), 1900)]) AppRun.init
      (by simp [relaunched, RuntimeOp.Other])
  exact (resultsStay_iff hrun).mpr (by decide +kernel)

/-- The shutter is pressed in the new session before the command runs, so that two commands have its
id. -/
def crossedSteps : List AppStep :=
  AppRun.taken {} .armeabi {} {} (relaunched ++
    [(.Call (.PhysicalShutter true), 1800), (.Run 0 (bytes "ok"), 1900)])

/-- Both commands have the number one, and the failure of the old one is taken for that of the new. -/
theorem not_resultsStay_crossedSteps :
    (∃ app, AppRun {} .armeabi {} crossedSteps app) ∧ ¬ ResultsStay crossedSteps := by
  constructor
  · exact AppRun.append_taken (relaunched ++
      [(.Call (.PhysicalShutter true), 1800), (.Run 0 (bytes "ok"), 1900)]) AppRun.init
      (by simp [relaunched, RuntimeOp.Other])
  · intro hstay
    obtain ⟨s, hs, hstale, hchanged⟩ : ∃ s ∈ crossedSteps, s.stale.isSome = true ∧
        s.after.native.runtime.map (·.machine) ≠ s.stale.map (·.1.machine) := by
      decide +kernel
    obtain ⟨⟨rt, commandId, message⟩, hsome⟩ := Option.isSome_iff_exists.mp hstale
    rw [hsome] at hchanged
    exact hchanged (hstay s hs rt commandId message hsome)

end LegacyAlpha
