import LegacyAlphaRemote.Runtime.Calls
import LegacyAlphaRemote.Runtime.Listener

/-!
# Errors of the listener

When the server thread cannot open its listener, it tries again a second later and tells the runtime
meanwhile (`onServerError`), which shows the error as long as neither the machine nor the network has
one (`NativeRuntime.errorSource`).  A success is known to the thread only, and but for another error of
the server or a new session nothing takes the old one back.

`ErrorRun` is the listener and the runtime of `ListenerRun`, with the calls of `onServerError` that the
thread really makes.  `errorsCurrent_of_run` says when the listener is open and a failure to open it is
not shown: when it is opened only while no such failure is remembered.
`not_errorsCurrent_retried` is the simplest other case, a second attempt.
-/

namespace LegacyAlpha

open NativeRuntime

/-! ## What is shown -/

/-- The three errors a runtime knows, in the order in which it shows them. -/
inductive ErrorSource
  | Machine
  | Network
  | Server
  deriving DecidableEq, Repr

/-- The source of the error that `statusJson` and `screenText` show, if they show one: that of the machine
comes before that of the network, and that of the server comes last. -/
def NativeRuntime.errorSource (rt : NativeRuntime) : ErrorSource :=
  if !rt.machine.lastError.isEmpty then .Machine
  else if !rt.wifiError.isEmpty then .Network
  else .Server

/-- What `run` reports when it could not open its listener, with the port. -/
def bindError (config : NativeConfig) : Bytes :=
  bytes "HTTP listener could not bind on port " ++ formatInt config.port

/-- What `run` reports when `poll` fails. -/
def pollError : Bytes := bytes "HTTP poll failed"

/-! ## The thread and its reports -/

/-- The runtime and the listener, and whether the thread is about to report that it could not open
it. -/
structure ErrorSystem where
  server : ListenerSystem
  reporting : Bool := false

namespace ErrorSystem

/-- An operation of the runtime, which is none of the reports of the thread. -/
def operate (assets : Assets) (target : Target) (config : NativeConfig) (s : ErrorSystem)
    (op : RuntimeOp) (clock : ℕ → ℤ) (answers : ℕ → Bool) : ErrorSystem :=
  { s with server := s.server.operate assets target config op clock answers }

/-- A step of the thread, when it has nothing to report.  After an attempt that fails it has. -/
def serve (aton : Bytes → Option UInt32) (s : ErrorSystem) (answer : ListenerAnswer) :
    ErrorSystem :=
  { server := s.server.serve aton answer
    reporting :=
      match s.server.stage with
      | .Opening _ _ => !answer.opened
      | _ => false }

/-- The report of a failure to open the listener, which the runtime remembers. -/
def report (assets : Assets) (target : Target) (config : NativeConfig) (s : ErrorSystem)
    (clock : ℕ → ℤ) (answers : ℕ → Bool) : ErrorSystem :=
  { s.operate assets target config (.ServerError (bindError config)) clock answers with
    reporting := false }

/-- The step opens the listener: the thread is in `openListener`, and it succeeds. -/
def Opens (s : ErrorSystem) (answer : ListenerAnswer) : Prop :=
  (∃ nowMs address, s.server.stage = .Opening nowMs address) ∧ answer.opened = true

end ErrorSystem

/-- The states that are reached when the listener is opened only in states that are allowed.  The
runtime hears of errors of the server from the thread alone: of a failure to open the listener, which
the thread reports before its next step, and of failures of `poll`, outside of the listener step. -/
inductive ErrorRun (aton : Bytes → Option UInt32) (assets : Assets) (target : Target)
    (config : NativeConfig) (allowed : ErrorSystem → Prop) : ErrorSystem → Prop
  | init : ErrorRun aton assets target config allowed { server := { runtime := .new config } }
  | operate {s : ErrorSystem} (op : RuntimeOp) (clock : ℕ → ℤ) (answers : ℕ → Bool) :
      ErrorRun aton assets target config allowed s → (∀ error, op ≠ .ServerError error) →
      ErrorRun aton assets target config allowed (s.operate assets target config op clock answers)
  | serve {s : ErrorSystem} (answer : ListenerAnswer) :
      ErrorRun aton assets target config allowed s → s.reporting = false →
      (s.Opens answer → allowed s) →
      ErrorRun aton assets target config allowed (s.serve aton answer)
  | report {s : ErrorSystem} (clock : ℕ → ℤ) (answers : ℕ → Bool) :
      ErrorRun aton assets target config allowed s → s.reporting = true →
      ErrorRun aton assets target config allowed (s.report assets target config clock answers)
  | pollFails {s : ErrorSystem} (clock : ℕ → ℤ) (answers : ℕ → Bool) :
      ErrorRun aton assets target config allowed s → s.reporting = false →
      (s.server.stage = .Loop ∨ s.server.stage = .Ended) →
      ErrorRun aton assets target config allowed
        (s.operate assets target config (.ServerError pollError) clock answers)

/-- **Listener errors are current**: with the listener open, no failure to open it is shown. -/
def ErrorsCurrent (config : NativeConfig) (s : ErrorSystem) : Prop :=
  s.server.listener.isSome = true → s.server.runtime.errorSource = .Server →
    s.server.runtime.serverError ≠ bindError config

/-- No failure to open the listener is remembered. -/
def NoBindError (config : NativeConfig) (s : ErrorSystem) : Prop :=
  s.server.runtime.serverError ≠ bindError config

variable {aton : Bytes → Option UInt32} {assets : Assets} {target : Target} {config : NativeConfig}
  {allowed : ErrorSystem → Prop} {s : ErrorSystem} {op : RuntimeOp}

/-- Without the reports these are runs of the listener. -/
theorem ErrorRun.listenerRun (hrun : ErrorRun aton assets target config allowed s) :
    ListenerRun aton assets target config (fun _ => True) s.server := by
  induction hrun with
  | init => exact .init
  | operate op clock answers hrun hop ih => exact ih.operate op clock answers trivial
  | serve answer hrun hreporting hallowed ih => exact ih.serve answer
  | report clock answers hrun hreporting ih => exact ih.operate _ clock answers trivial
  | pollFails clock answers hrun hreporting hstage ih => exact ih.operate _ clock answers trivial

/-! ## Who sets the error of the server -/

/-- But for `start`, which clears it, only `onServerError` sets it. -/
lemma serverError_perform (rt : NativeRuntime) (io : Io)
    (hop : ∀ error, op ≠ .ServerError error) :
    (rt.perform assets target config io op).runtime.serverError = rt.serverError ∨
      (rt.perform assets target config io op).runtime.serverError = [] := by
  have hscreen : ∀ (rt : NativeRuntime) (io : Io) (force : Bool),
      (updateScreen assets config rt io force).1.serverError = rt.serverError := by
    intro rt io force
    obtain ⟨screen, hscreen⟩ := updateScreen_runtime assets config rt io force
    rw [hscreen]
  by_cases hstart : ∃ random serverStarts, op = .Start random serverStarts
  · obtain ⟨random, serverStarts, rfl⟩ := hstart
    rw [NativeRuntime.perform, NativeRuntime.start]
    split_ifs
    · exact Or.inl rfl
    · exact Or.inr rfl
    · exact Or.inr (hscreen _ _ true)
  by_cases hstop : op = .Stop
  · subst hstop
    rw [NativeRuntime.perform, NativeRuntime.stop]
    split_ifs <;> exact Or.inl rfl
  have hparts : Parts assets config op (rt, io) ((rt.perform assets target config io op).runtime,
      (rt.perform assets target config io op).io) :=
    parts_perform rt io (fun random serverStarts h => hstart ⟨random, serverStarts, h⟩) hstop
  refine Or.inl (hparts.keeps (P := fun rt' _ => rt'.serverError = rt.serverError)
    (fun hpart hs => ?_) rfl)
  cases hpart with
  | read rt io => exact hs
  | operate hinner rt io => exact hs
  | screen rt io force => exact (hscreen rt io force).trans hs
  | @set rt _ hsets io =>
      cases op with
      | HandleRequest _ _ =>
          obtain ⟨_, _, _, rfl⟩ := hsets
          exact hs
      | SetWifiState _ _ _ _ _ _ =>
          obtain rfl := hsets
          exact hs
      | SetPreview data width height source error =>
          obtain rfl := hsets
          exact (setPreview_texts rt data width height source error).2.trans hs
      | ServerError error => exact absurd rfl (hop error)
      | _ => exact hsets.elim

lemma bindError_ne_nil (config : NativeConfig) : bindError config ≠ [] := by
  simp [bindError, bytes]

lemma pollError_ne_bindError (config : NativeConfig) : pollError ≠ bindError config := by
  intro h
  have hsixth : some (byte 'p') = some (byte 'l') := congrArg (fun text => text[5]?) h
  exact absurd hsixth (by decide)

lemma NoBindError.operate (h : NoBindError config s) (hop : ∀ error, op ≠ .ServerError error)
    (clock : ℕ → ℤ) (answers : ℕ → Bool) :
    NoBindError config (s.operate assets target config op clock answers) := by
  rcases serverError_perform s.server.runtime { clock, answers } hop with hsame | hnil
  · exact fun herror => h (hsame.symm.trans herror)
  · exact fun herror => bindError_ne_nil config (hnil.symm.trans herror).symm

/-- What `onServerError` is told is remembered, and nothing is shown of it before that. -/
lemma serverError_report (assets : Assets) (target : Target) (config : NativeConfig)
    (rt : NativeRuntime) (io : Io) (error : Bytes) :
    (rt.perform assets target config io (.ServerError error)).runtime.serverError = error := by
  obtain ⟨screen, hscreen⟩ :=
    updateScreen_runtime assets config { rt with serverError := error } io true
  rw [NativeRuntime.perform, onServerError]
  dsimp only
  rw [hscreen]

/-! ## The open listener -/

/-- With the listener open there is no failure, neither remembered nor to be reported. -/
structure ErrorsSettled (config : NativeConfig) (s : ErrorSystem) : Prop where
  remembered : s.server.listener.isSome = true → NoBindError config s
  reporting : s.reporting = true → s.server.listener = none

lemma ErrorsSettled.serve (h : ErrorsSettled config s)
    (hnone : ∀ nowMs address, s.server.stage = .Opening nowMs address → s.server.listener = none)
    (answer : ListenerAnswer) (hallowed : s.Opens answer → NoBindError config s) :
    ErrorsSettled config (s.serve aton answer) := by
  rw [ErrorSystem.serve, ListenerSystem.serve]
  cases hstage : s.server.stage with
  | Loop =>
      dsimp only
      split_ifs
      · exact ⟨by simp, by simp⟩
      · exact ⟨by simp, by simp⟩
      · exact ⟨h.remembered, by simp⟩
      · exact ⟨h.remembered, by simp⟩
  | Asking nowMs => exact ⟨h.remembered, by simp⟩
  | Opening nowMs address =>
      dsimp only
      split_ifs with hopened
      · have hclean : NoBindError config s := hallowed ⟨⟨nowMs, address, hstage⟩, hopened⟩
        exact ⟨fun _ => hclean, by simp [hopened]⟩
      · exact ⟨h.remembered, fun _ => hnone nowMs address hstage⟩
  | Ended => exact ⟨h.remembered, by simp⟩

theorem ErrorRun.settled (hrun : ErrorRun aton assets target config (NoBindError config) s) :
    ErrorsSettled config s := by
  induction hrun with
  | init => exact ⟨by simp, by simp⟩
  | operate op clock answers hrun hop ih =>
      exact ⟨fun hopen => (ih.remembered hopen).operate hop clock answers, ih.reporting⟩
  | serve answer hrun hreporting hallowed ih =>
      exact ih.serve hrun.listenerRun.listener_eq_none.2 answer hallowed
  | @report s clock answers hrun hreporting ih =>
      refine ⟨fun hopen => ?_, nofun⟩
      have hnone : s.server.listener = none := ih.reporting hreporting
      have hopen : s.server.listener.isSome = true := hopen
      rw [hnone] at hopen
      exact absurd hopen (by simp)
  | @pollFails s clock answers hrun hreporting hstage ih =>
      refine ⟨fun _ herror => ?_, fun hreport => ?_⟩
      · have hpoll : (s.operate assets target config (.ServerError pollError) clock
            answers).server.runtime.serverError = pollError :=
          serverError_report assets target config _ _ pollError
        exact pollError_ne_bindError config (hpoll.symm.trans herror)
      · exact absurd (hreporting.symm.trans hreport) (by simp)

/-- **Listener errors are current** in every run that opens the listener only while no failure to open
it is remembered.  And where no other error hides it, they are not after another step that opens it,
as the runtime does not hear of a success. -/
theorem errorsCurrent_of_run (hrun : ErrorRun aton assets target config (NoBindError config) s) :
    ErrorsCurrent config s ∧ ∀ answer, s.Opens answer → s.server.runtime.errorSource = .Server →
      (ErrorsCurrent config (s.serve aton answer) ↔ NoBindError config s) := by
  refine ⟨fun hopen _ => hrun.settled.remembered hopen, fun answer hopens hsource => ?_⟩
  obtain ⟨⟨nowMs, address, hstage⟩, hopened⟩ := hopens
  have hserve : (s.serve aton answer).server =
      { s.server with listener := some (bindAddress aton address), stage := .Ended } := by
    rw [ErrorSystem.serve, ListenerSystem.serve, hstage]
    simp [hopened]
  rw [ErrorsCurrent, hserve, NoBindError]
  simp [hsource]

/-! ## A second attempt -/

/-- An operation at the beginning of time, with a Java that accepts every command. -/
def ErrorSystem.perform (s : ErrorSystem) (op : RuntimeOp) : ErrorSystem :=
  s.operate {} .armeabi (configForPort 8080) op (fun _ => 0) fun _ => true

/-- The three steps in which the thread tries to open its listener, from the top of its loop on. -/
def ErrorSystem.attempt (s : ErrorSystem) (nowMs : ℤ) (opened : Bool) : ErrorSystem :=
  ((s.serve dottedQuad { nowMs }).serve dottedQuad {}).serve dottedQuad { opened }

/-- The camera and the network are ready, and the thread has failed to open its listener at the start of
the session, and has reported that. -/
def refused : ErrorSystem :=
  (({ server := readyToListen } : ErrorSystem).attempt 0 false).report {} .armeabi (configForPort 8080)
    (fun _ => 0) fun _ => true

/-- After that failure it succeeds a second later, in the same session. -/
def retried : ErrorSystem := refused.attempt 1000 true

/-- After that failure the session is stopped, and another one opens the listener a second later. -/
def restarted : ErrorSystem :=
  (((((refused.perform .Stop).serve dottedQuad { stopping := true }).perform
    (.Start 654321 true)).perform (.SetCameraReady true)).perform
    (groupAt "192.168.122.1")).attempt 1000 true

lemma ErrorRun.perform (hrun : ErrorRun dottedQuad {} .armeabi (configForPort 8080) allowed s)
    (op : RuntimeOp) (hop : ∀ error, op ≠ .ServerError error) :
    ErrorRun dottedQuad {} .armeabi (configForPort 8080) allowed (s.perform op) :=
  hrun.operate op _ _ hop

/-- An attempt from the beginning of a turn, when the listener may be opened there. -/
lemma ErrorRun.attempt (hrun : ErrorRun dottedQuad {} .armeabi (configForPort 8080) allowed s)
    (hreporting : s.reporting = false) (hstage : s.server.stage = .Loop) (nowMs : ℤ) (opened : Bool)
    (hallowed : opened = true → allowed ((s.serve dottedQuad { nowMs }).serve dottedQuad {})) :
    ErrorRun dottedQuad {} .armeabi (configForPort 8080) allowed (s.attempt nowMs opened) := by
  have hasking : (s.serve dottedQuad { nowMs }).reporting = false := by
    rw [ErrorSystem.serve, hstage]
  have hnotOpening : ∀ now address,
      (s.serve dottedQuad { nowMs }).server.stage ≠ .Opening now address := by
    intro now address
    rw [ErrorSystem.serve, ListenerSystem.serve, hstage]
    dsimp only
    split_ifs <;> simp
  have hopening : ((s.serve dottedQuad { nowMs }).serve dottedQuad {}).reporting = false := by
    rw [ErrorSystem.serve]
    cases hnext : (s.serve dottedQuad { nowMs }).server.stage with
    | Opening now address => exact absurd hnext (hnotOpening now address)
    | Loop | Asking _ | Ended => rfl
  refine ((hrun.serve { nowMs } hreporting ?_).serve {} hasking ?_).serve { opened } hopening ?_
  · rintro ⟨⟨now, address, hopens⟩, -⟩
    exact absurd (hstage.symm.trans hopens) (by simp)
  · rintro ⟨⟨now, address, hopens⟩, -⟩
    exact absurd hopens (hnotOpening now address)
  · exact fun hopens => hallowed hopens.2

/-- The first attempt fails, and is no step that opens the listener. -/
lemma errorRun_refused (allowed : ErrorSystem → Prop) :
    ErrorRun dottedQuad {} .armeabi (configForPort 8080) allowed refused := by
  have hready : ErrorRun dottedQuad {} .armeabi (configForPort 8080) allowed
      { server := readyToListen } :=
    ((ErrorRun.init.operate _ _ _ (by simp)).operate _ _ _ (by simp)).operate _ _ _ (by simp [groupAt])
  exact (hready.attempt rfl rfl 0 false (by simp)).report _ _ (by decide +kernel)

/-- A session after the failed one has nothing to show once its listener is open. -/
theorem errorsCurrent_restarted :
    refused.server.runtime.shownError = bindError (configForPort 8080) ∧
      ErrorsCurrent (configForPort 8080) restarted ∧
      restarted.server.listener = dottedQuad (bytes "192.168.122.1") ∧
      restarted.server.runtime.shownError = [] := by
  have hnotOpening : ∀ answer, ¬ (refused.perform .Stop).Opens answer := by
    rintro answer ⟨⟨now, address, hopens⟩, -⟩
    have hloop : (refused.perform .Stop).server.stage = .Loop := by decide +kernel
    exact absurd (hloop.symm.trans hopens) (by simp)
  have hstopped := ((errorRun_refused (NoBindError (configForPort 8080))).perform .Stop (by simp)).serve
    { stopping := true } (by decide +kernel) fun hopens => absurd hopens (hnotOpening _)
  have hready := ((hstopped.perform (.Start 654321 true) (by simp)).perform (.SetCameraReady true)
    (by simp)).perform (groupAt "192.168.122.1") (by simp [groupAt])
  have hrun : ErrorRun dottedQuad {} .armeabi (configForPort 8080)
      (NoBindError (configForPort 8080)) restarted := by
    refine hready.attempt (by decide +kernel) (by decide +kernel) 1000 true fun _ => ?_
    rw [NoBindError]
    decide +kernel
  exact ⟨by decide +kernel, (errorsCurrent_of_run hrun).1, by decide +kernel, by decide +kernel⟩

/-- After a second one the failure of the first is still shown, by the status and on the screen. -/
theorem not_errorsCurrent_retried :
    ErrorRun dottedQuad {} .armeabi (configForPort 8080) (fun _ => True) retried ∧
      ¬ ErrorsCurrent (configForPort 8080) retried ∧
      retried.server.listener = dottedQuad (bytes "192.168.122.1") ∧
      bytes "\"last_error\":\"HTTP listener could not bind on port 8080\"" <:+:
        (retried.server.runtime.statusJson { clock := fun _ => 1000, answers := fun _ => true }).1 ∧
      bytes "Error: HTTP listener could not bind on port 8080" <:+
        (retried.server.runtime.screenText {} (configForPort 8080)
          { clock := fun _ => 1000, answers := fun _ => true }).1 := by
  have hretried : ErrorRun dottedQuad {} .armeabi (configForPort 8080) (fun _ => True) retried :=
    (errorRun_refused _).attempt (by decide +kernel) (by decide +kernel) 1000 true fun _ => trivial
  have herror : retried.server.runtime.serverError = bindError (configForPort 8080) := by
    decide +kernel
  refine ⟨hretried, fun hcurrent => ?_, by decide +kernel, by decide +kernel, by decide +kernel⟩
  exact hcurrent (by decide +kernel) (by decide +kernel) herror

end LegacyAlpha
