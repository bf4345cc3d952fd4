import LegacyAlphaRemote.Machine.Dormant
import LegacyAlphaRemote.Runtime.NativeRuntime

/-!
# What a request can do

The parts of the runtime that decide who may do what are its session (`started`, `pin`) and whether
its machine runs.  Everything but `start` and `stop` keeps them (`Keeps`).

A request does more than keep them: when the machine is dormant it leaves the machine alone and sends
nothing to the camera (`Serves`), and so does every request whose PIN is refused
(`inert_of_refused`).  `handleRequest` is followed once, branch by branch, for both.
-/

namespace LegacyAlpha

/-- The event hands a command to the camera, which an update of the screen does not. -/
def Event.CameraCommand : Event → Prop
  | .Sent command _ => command.type ≠ .UpdateScreen
  | _ => False

/-- The machine is left as it was, and no command went to the camera. -/
structure Inert (rt : NativeRuntime) (io : Io) (rt' : NativeRuntime) (io' : Io) : Prop where
  machine : rt'.machine = rt.machine
  commands : ∀ e ∈ io'.trace, e.CameraCommand → e ∈ io.trace

/-- The session goes on, or there is still none; the PIN and whether the machine runs stay as they
are. -/
structure Keeps (rt rt' : NativeRuntime) : Prop where
  started : rt'.started = rt.started
  pin : rt'.pin = rt.pin
  running : rt'.machine.running = rt.machine.running
  dormant : Dormant rt.machine → Dormant rt'.machine

/-- The session goes on, or there is none and nothing comes of it. -/
structure Serves (rt : NativeRuntime) (io : Io) (rt' : NativeRuntime) (io' : Io) : Prop extends
    Keeps rt rt' where
  inert : Dormant rt.machine → Inert rt io rt' io'

variable {assets : Assets} {target : Target} {config : NativeConfig} {rt rt₁ rt₂ : NativeRuntime}
  {io io₁ io₂ : Io}

lemma Inert.refl (rt : NativeRuntime) (io : Io) : Inert rt io rt io :=
  ⟨rfl, fun _ he _ => he⟩

lemma Inert.trans (h : Inert rt io rt₁ io₁) (h' : Inert rt₁ io₁ rt₂ io₂) :
    Inert rt io rt₂ io₂ :=
  ⟨h'.machine.trans h.machine, fun e he hcamera => h.commands e (h'.commands e he hcamera) hcamera⟩

/-- Reading the clock is inert: it sends nothing, and changes nothing but how often the clock was
read. -/
lemma Inert.nowMs (rt : NativeRuntime) (io : Io) : Inert rt io rt io.nowMs.2 := by
  refine ⟨rfl, fun e he hcamera => ?_⟩
  rcases List.mem_append.mp he with hold | hnew
  · exact hold
  · rw [List.mem_singleton.mp hnew] at hcamera
    exact hcamera.elim

/-- So is an update of the screen. -/
lemma Inert.dispatch {command : NativeCommand} (htype : command.type = .UpdateScreen)
    (hmachine : rt₁.machine = rt.machine) : Inert rt io rt₁ (io.dispatch command).2 := by
  refine ⟨hmachine, fun e he hcamera => ?_⟩
  rcases List.mem_append.mp he with hold | hnew
  · exact hold
  · rw [List.mem_singleton.mp hnew] at hcamera
    exact absurd htype hcamera

lemma Keeps.trans (h : Keeps rt rt₁) (h' : Keeps rt₁ rt₂) : Keeps rt rt₂ where
  started := h'.started.trans h.started
  pin := h'.pin.trans h.pin
  running := h'.running.trans h.running
  dormant hdormant := h'.dormant (h.dormant hdormant)

/-- What keeps the session and the machine keeps all. -/
lemma keeps_of_eq (hstarted : rt₁.started = rt.started) (hpin : rt₁.pin = rt.pin)
    (hmachine : rt₁.machine = rt.machine) : Keeps rt rt₁ := by
  refine ⟨hstarted, hpin, by rw [hmachine], fun hdormant => ?_⟩
  rw [hmachine]
  exact hdormant

lemma Serves.trans (h : Serves rt io rt₁ io₁) (h' : Serves rt₁ io₁ rt₂ io₂) :
    Serves rt io rt₂ io₂ where
  toKeeps := h.toKeeps.trans h'.toKeeps
  inert hdormant := (h.inert hdormant).trans (h'.inert (h.dormant hdormant))

/-- What is always inert serves, when it keeps the session. -/
lemma Inert.serves (h : Inert rt io rt₁ io₁) (hstarted : rt₁.started = rt.started)
    (hpin : rt₁.pin = rt.pin) : Serves rt io rt₁ io₁ where
  toKeeps := keeps_of_eq hstarted hpin h.machine
  inert _ := h

namespace NativeRuntime

/-! ## The parts of a request -/

lemma inert_countdownRemainingMs (rt : NativeRuntime) (io : Io) :
    Inert rt io rt (rt.machine.countdownRemainingMs io).2 := by
  rw [RemoteStateMachine.countdownRemainingMs]
  split_ifs
  · exact Inert.refl rt io
  · exact Inert.nowMs rt io

lemma inert_screenText (assets : Assets) (config : NativeConfig) (rt : NativeRuntime) (io : Io) :
    Inert rt io rt (rt.screenText assets config io).2 := by
  rw [screenText]
  dsimp only
  split_ifs
  · exact (rt.inert_countdownRemainingMs io).trans (rt.inert_countdownRemainingMs _)
  · exact rt.inert_countdownRemainingMs io

/-- An update of the screen does nothing, only reads the clock, or sends the new text. -/
lemma updateScreen_cases (assets : Assets) (config : NativeConfig) (rt : NativeRuntime) (io : Io)
    (force : Bool) :
    updateScreen assets config rt io force = (rt, io) ∨
      updateScreen assets config rt io force = (rt, (rt.screenText assets config io).2) ∨
      ∃ screen command, command.type = .UpdateScreen ∧
        updateScreen assets config rt io force =
          ({ rt with previousScreen := screen },
            ((rt.screenText assets config io).2.dispatch command).2) := by
  rw [updateScreen]
  by_cases hstarted : (!rt.started) = true
  · rw [if_pos hstarted]
    exact Or.inl rfl
  · rw [if_neg hstarted]
    generalize rt.screenText assets config io = text
    by_cases hsame : (!force && text.1 == rt.previousScreen) = true
    · exact Or.inr (Or.inl (if_pos hsame))
    · exact Or.inr (Or.inr ⟨text.1, _, rfl, if_neg hsame⟩)

lemma inert_updateScreen (rt : NativeRuntime) (io : Io) (force : Bool) :
    Inert rt io (updateScreen assets config rt io force).1
      (updateScreen assets config rt io force).2 := by
  rcases updateScreen_cases assets config rt io force with h | h | ⟨screen, command, htype, h⟩
  · rw [h]
    exact Inert.refl rt io
  · rw [h]
    dsimp only
    exact inert_screenText assets config rt io
  · rw [h]
    dsimp only
    exact (inert_screenText assets config rt io).trans (Inert.dispatch htype rfl)

/-- An update of the screen changes the text shown and nothing else. -/
lemma updateScreen_runtime (assets : Assets) (config : NativeConfig) (rt : NativeRuntime) (io : Io)
    (force : Bool) : ∃ screen,
      (updateScreen assets config rt io force).1 = { rt with previousScreen := screen } := by
  rcases updateScreen_cases assets config rt io force with h | h | ⟨screen, command, -, h⟩
  · exact ⟨rt.previousScreen, by rw [h]⟩
  · exact ⟨rt.previousScreen, by rw [h]⟩
  · exact ⟨screen, by rw [h]⟩

lemma serves_updateScreen (rt : NativeRuntime) (io : Io) (force : Bool) :
    Serves rt io (updateScreen assets config rt io force).1
      (updateScreen assets config rt io force).2 := by
  obtain ⟨screen, hscreen⟩ := updateScreen_runtime assets config rt io force
  exact (rt.inert_updateScreen io force).serves (by rw [hscreen]) (by rw [hscreen])

/-- A call of the machine other than `start` and `stop` keeps the session. -/
lemma keeps_operate (config : NativeConfig) (rt : NativeRuntime) (io : Io) {op : Op}
    (hstart : op ≠ .Start) (hstop : op ≠ .Stop) :
    Keeps rt (operate config rt io op).runtime where
  started := rfl
  pin := rfl
  running := RemoteStateMachine.perform_running _ _ hstart hstop
  dormant hdormant := hdormant.perform hstart

/-- The operations of the machine that a client can ask for: those that a request can call. -/
def ClientOp (op : Op) : Prop :=
  (∃ requestId delayMs autofocus, op = .RequestCapture requestId delayMs autofocus) ∨
    op = .CancelCountdown ∨ ∃ pressed, op = .SetFocus pressed

lemma serves_operate (config : NativeConfig) (rt : NativeRuntime) (io : Io) {op : Op}
    (hop : ClientOp op) :
    Serves rt io (operate config rt io op).runtime (operate config rt io op).io where
  toKeeps := by
    rcases hop with ⟨_, _, _, rfl⟩ | rfl | ⟨_, rfl⟩ <;>
      exact keeps_operate config rt io (by simp) (by simp)
  inert hdormant := by
    obtain ⟨-, hmachine, hio⟩ := hdormant.refused config
      { io with
        answers := fun i => rt.started && io.answers i
        trace := io.trace ++ [.Call op rt.machine] } op hop
    refine ⟨hmachine, fun e he hcamera => ?_⟩
    -- The call and its return are all that the trace shows.
    simp only [operate, RemoteStateMachine.step, hio, List.mem_append, List.mem_singleton] at he
    rcases he with (hold | rfl) | rfl
    · exact hold
    · exact hcamera.elim
    · exact hcamera.elim

/-- A `GET` request leaves the runtime alone. -/
lemma handleGet_runtime (assets : Assets) (rt : NativeRuntime) (io : Io) (request : HttpRequest) :
    (handleGet assets rt io request).runtime = rt := by
  rw [handleGet]
  split_ifs <;> rfl

lemma inert_handleGet (rt : NativeRuntime) (io : Io) (request : HttpRequest) :
    Inert rt io (handleGet assets rt io request).runtime (handleGet assets rt io request).io := by
  rw [handleGet_runtime, handleGet]
  by_cases hstatus : (request.path == bytes "/api/v1/status") = true
  · split_ifs
    · exact Inert.refl rt io
    · exact Inert.refl rt io
    · exact Inert.refl rt io
    · dsimp only [statusJson]
      exact rt.inert_countdownRemainingMs io
  · rw [if_neg hstatus]
    split_ifs <;> exact Inert.refl rt io

lemma serves_handleGet (rt : NativeRuntime) (io : Io) (request : HttpRequest) :
    Serves rt io (handleGet assets rt io request).runtime (handleGet assets rt io request).io :=
  (rt.inert_handleGet io request).serves (by rw [handleGet_runtime]) (by rw [handleGet_runtime])

/-! ### Captures -/

/-- A request that is remembered gets the remembered answer. -/
lemma handleCapture_of_found {now : ℤ} {capture : CaptureRequest} {old : Entry}
    (hfind : (rt.deduplicator.find capture.requestId now).1 = some old) :
    handleCapture assets config rt io now capture =
      { response := jsonResponse old.status old.body
        runtime := { rt with deduplicator := rt.deduplicator.prune now }
        io } := by
  have hpair : rt.deduplicator.find capture.requestId now =
      (some old, rt.deduplicator.prune now) := Prod.ext hfind rfl
  rw [handleCapture, hpair]

/-- The runtime with this answer to a capture request remembered, and otherwise as it is. -/
def remember (rt : NativeRuntime) (capture : CaptureRequest) (status : ℕ) (body : Bytes) (now : ℤ) :
    NativeRuntime :=
  { rt with deduplicator := rt.deduplicator.remember capture.requestId status body now }

/-- A request that is not remembered is decided, and the answer remembered. -/
lemma handleCapture_of_missing (assets : Assets) (config : NativeConfig) (io : Io) {now : ℤ}
    {capture : CaptureRequest} (hfind : (rt.deduplicator.find capture.requestId now).1 = none) :
    ∃ status body rt' io', decideCapture config
        { rt with deduplicator := rt.deduplicator.prune now } io capture =
          ((status, body), rt', io') ∧
      handleCapture assets config rt io now capture =
        { response := jsonResponse status body
          runtime := (updateScreen assets config (rt'.remember capture status body now) io' true).1
          io := (updateScreen assets config (rt'.remember capture status body now) io' true).2 } := by
  have hpair : rt.deduplicator.find capture.requestId now =
      (none, rt.deduplicator.prune now) := Prod.ext hfind rfl
  rcases hdecide : decideCapture config
      { rt with deduplicator := rt.deduplicator.prune now } io capture with ⟨⟨status, body⟩, rt', io'⟩
  refine ⟨status, body, rt', io', rfl, ?_⟩
  rw [handleCapture, hpair]
  dsimp only
  rw [hdecide]
  rfl

lemma serves_decideCapture (config : NativeConfig) (rt : NativeRuntime) (io : Io)
    (capture : CaptureRequest) :
    Serves rt io (decideCapture config rt io capture).2.1
      (decideCapture config rt io capture).2.2 := by
  rw [decideCapture]
  by_cases hrange : (capture.delayMs < 0 || capture.delayMs > config.maxDelayMs) = true
  · rw [if_pos hrange]
    exact (Inert.refl rt io).serves rfl rfl
  · have hoperate := serves_operate config rt io
      (Or.inl ⟨capture.requestId, capture.delayMs, capture.autofocus, rfl⟩)
    rw [if_neg hrange]
    dsimp only
    split_ifs <;> exact hoperate

lemma serves_handleCapture (rt : NativeRuntime) (io : Io) (now : ℤ) (capture : CaptureRequest) :
    Serves rt io (handleCapture assets config rt io now capture).runtime
      (handleCapture assets config rt io now capture).io := by
  have hforget : Serves rt io { rt with deduplicator := rt.deduplicator.prune now } io :=
    Inert.serves ⟨rfl, fun _ he _ => he⟩ rfl rfl
  cases hfind : (rt.deduplicator.find capture.requestId now).1 with
  | some old =>
      rw [handleCapture_of_found hfind]
      exact hforget
  | none =>
      obtain ⟨status, body, rt', io', hdecide, hhandle⟩ :=
        handleCapture_of_missing assets config io hfind
      have hserves := serves_decideCapture config
        { rt with deduplicator := rt.deduplicator.prune now } io capture
      rw [hdecide] at hserves
      rw [hhandle]
      have hremember : Serves rt' io' (rt'.remember capture status body now) io' :=
        Inert.serves ⟨rfl, fun _ he _ => he⟩ rfl rfl
      exact ((hforget.trans hserves).trans hremember).trans (serves_updateScreen _ _ _)

/-! ### Cancelling and focusing -/

lemma serves_handleCancel (rt : NativeRuntime) (io : Io) (request : HttpRequest) :
    Serves rt io (handleCancel assets config rt io request).runtime
      (handleCancel assets config rt io request).io := by
  have hoperate := serves_operate config rt io (Or.inr (Or.inl rfl))
  rw [handleCancel]
  split_ifs
  · exact (Inert.refl rt io).serves rfl rfl
  · dsimp only
    split_ifs
    · exact hoperate
    · exact hoperate.trans (serves_updateScreen _ _ _)

lemma serves_handleFocus (rt : NativeRuntime) (io : Io) (request : HttpRequest) :
    Serves rt io (handleFocus assets config rt io request).runtime
      (handleFocus assets config rt io request).io := by
  rw [handleFocus]
  cases parseFocusJson request.body with
  | none => exact (Inert.refl rt io).serves rfl rfl
  | some pressed =>
      have hoperate := serves_operate config rt io (Or.inr (Or.inr ⟨pressed, rfl⟩))
      dsimp only
      split_ifs
      · exact hoperate
      · exact hoperate.trans (serves_updateScreen _ _ _)

/-! ## Requests -/

lemma inert_limiters (rt : NativeRuntime) (io : Io) (mutationLimiter statusLimiter : RateLimiter) :
    Inert rt io { rt with mutationLimiter, statusLimiter } io.nowMs.2 :=
  (Inert.nowMs rt io).trans ⟨rfl, fun _ he _ => he⟩

lemma inert_handlePost_of_refused {request : HttpRequest}
    (hpin : rt.authenticate request.pin = false) (io : Io) (now : ℤ) :
    Inert rt io (handlePost assets target config rt io now request).runtime
      (handlePost assets target config rt io now request).io := by
  rw [handlePost, hpin]
  exact Inert.refl rt io

lemma serves_handlePost (rt : NativeRuntime) (io : Io) (now : ℤ) (request : HttpRequest) :
    Serves rt io (handlePost assets target config rt io now request).runtime
      (handlePost assets target config rt io now request).io := by
  have hrefl : Serves rt io rt io := (Inert.refl rt io).serves rfl rfl
  rw [handlePost]
  split_ifs
  · exact hrefl
  · exact hrefl
  · cases parseCaptureJson target request.body with
    | none => exact hrefl
    | some capture => exact rt.serves_handleCapture io now capture
  · exact rt.serves_handleCancel io request
  · exact rt.serves_handleFocus io request
  · exact hrefl

/-- The request is a `GET` that the status limiter allows, at this time and from this address. -/
def AllowedGet (rt : NativeRuntime) (now : ℤ) (request : HttpRequest) (remoteAddress : Bytes) :
    Prop :=
  request.method = bytes "GET" ∧ (rt.statusLimiter.allow remoteAddress now).1 = true

/-- The request is a `POST` that the mutation limiter allows, at this time and from this address. -/
def AllowedPost (rt : NativeRuntime) (now : ℤ) (request : HttpRequest) (remoteAddress : Bytes) :
    Prop :=
  request.method = bytes "POST" ∧ (rt.mutationLimiter.allow remoteAddress now).1 = true

/-- How a request gets past its limiter, or does not. -/
lemma handleRequest_cases (assets : Assets) (target : Target) (config : NativeConfig)
    (rt : NativeRuntime) (io : Io) (request : HttpRequest) (remoteAddress : Bytes) :
    (¬ rt.AllowedGet io.nowMs.1 request remoteAddress ∧
      ¬ rt.AllowedPost io.nowMs.1 request remoteAddress ∧
      ∃ mutationLimiter statusLimiter status message,
        handleRequest assets target config rt io request remoteAddress =
          { response := jsonError status message
            runtime := { rt with mutationLimiter, statusLimiter }, io := io.nowMs.2 }) ∨
    (rt.AllowedGet io.nowMs.1 request remoteAddress ∧
      handleRequest assets target config rt io request remoteAddress =
        handleGet assets
          { rt with statusLimiter := (rt.statusLimiter.allow remoteAddress io.nowMs.1).2 }
          io.nowMs.2 request) ∨
    (rt.AllowedPost io.nowMs.1 request remoteAddress ∧
      handleRequest assets target config rt io request remoteAddress =
        handlePost assets target config
          { rt with mutationLimiter := (rt.mutationLimiter.allow remoteAddress io.nowMs.1).2 }
          io.nowMs.2 io.nowMs.1 request) := by
  rw [handleRequest]
  simp only [AllowedGet, AllowedPost]
  by_cases hget : request.method = bytes "GET"
  · have hpost : request.method ≠ bytes "POST" := by
      rw [hget]
      decide
    rw [if_pos (beq_iff_eq.mpr hget)]
    rcases rt.statusLimiter.allow remoteAddress io.nowMs.1 with ⟨_ | _, statusLimiter⟩
    · exact Or.inl ⟨fun h => Bool.false_ne_true h.2, fun h => hpost h.1,
        rt.mutationLimiter, statusLimiter, _, _, rfl⟩
    · exact Or.inr (Or.inl ⟨⟨hget, rfl⟩, rfl⟩)
  · rw [if_neg (fun h => hget (beq_iff_eq.mp h))]
    by_cases hpost : request.method = bytes "POST"
    · rw [if_neg (by simp [hpost])]
      rcases rt.mutationLimiter.allow remoteAddress io.nowMs.1 with ⟨_ | _, mutationLimiter⟩
      · exact Or.inl ⟨fun h => hget h.1, fun h => Bool.false_ne_true h.2,
          mutationLimiter, rt.statusLimiter, _, _, rfl⟩
      · exact Or.inr (Or.inr ⟨⟨hpost, rfl⟩, rfl⟩)
    · rw [if_pos (by simp [hpost])]
      exact Or.inl ⟨fun h => hget h.1, fun h => hpost h.1,
        rt.mutationLimiter, rt.statusLimiter, _, _, rfl⟩

/-- **What a request does**: it keeps the session, and when the machine is dormant it leaves it
alone. -/
theorem serves_handleRequest (assets : Assets) (target : Target) (config : NativeConfig)
    (rt : NativeRuntime) (io : Io) (request : HttpRequest) (remoteAddress : Bytes) :
    Serves rt io (handleRequest assets target config rt io request remoteAddress).runtime
      (handleRequest assets target config rt io request remoteAddress).io := by
  have hlimited (mutationLimiter statusLimiter : RateLimiter) :
      Serves rt io { rt with mutationLimiter, statusLimiter } io.nowMs.2 :=
    (rt.inert_limiters io mutationLimiter statusLimiter).serves rfl rfl
  rcases handleRequest_cases assets target config rt io request remoteAddress with
    ⟨-, -, mutationLimiter, statusLimiter, _, _, h⟩ | ⟨-, h⟩ | ⟨-, h⟩
  · rw [h]
    exact hlimited mutationLimiter statusLimiter
  · rw [h]
    exact (hlimited rt.mutationLimiter _).trans (serves_handleGet _ _ request)
  · rw [h]
    exact (hlimited _ rt.statusLimiter).trans (serves_handlePost _ _ _ request)

/-- **A request whose PIN is refused** leaves the machine alone and sends nothing to the camera. -/
theorem inert_of_refused (assets : Assets) (target : Target) (config : NativeConfig)
    {request : HttpRequest} (hpin : rt.authenticate request.pin = false) (io : Io)
    (remoteAddress : Bytes) :
    Inert rt io (handleRequest assets target config rt io request remoteAddress).runtime
      (handleRequest assets target config rt io request remoteAddress).io := by
  rcases handleRequest_cases assets target config rt io request remoteAddress with
    ⟨-, -, mutationLimiter, statusLimiter, _, _, h⟩ | ⟨-, h⟩ | ⟨-, h⟩
  · rw [h]
    exact rt.inert_limiters io mutationLimiter statusLimiter
  · rw [h]
    exact (rt.inert_limiters io rt.mutationLimiter _).trans (inert_handleGet _ _ request)
  · rw [h]
    refine (rt.inert_limiters io _ rt.statusLimiter).trans (inert_handlePost_of_refused ?_ _ _)
    exact hpin

end NativeRuntime

end LegacyAlpha
