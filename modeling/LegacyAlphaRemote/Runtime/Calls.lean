import LegacyAlphaRemote.Runtime.Requests

/-!
# What an operation of the runtime is made of

Besides `start` and `stop`, an operation of the runtime does four things, in some order: it reads the
clock, updates the screen, calls its machine, and sets what is its own.  Which functions of the machine
it calls is `RuntimeOp.Calls`, and what it sets `RuntimeOp.Sets`; each of the four is a `Part`.

**Parts.**  `parts_perform` takes an operation apart.  So what every part keeps, the operation keeps.

**Keeping.**  What is kept by the functions of the machine, by an update of the screen, and by changes
of what belongs neither to the machine nor to the session nor to the preview, every operation keeps
(`Upheld.perform`); what only some functions of the machine keep, the operations do that call no
others (`UpheldBy.perform`).
-/

namespace LegacyAlpha

open NativeRuntime

/-- What has changed belongs neither to the machine, nor to the session, nor to the preview. -/
structure Aside (rt rt' : NativeRuntime) : Prop where
  machine : rt'.machine = rt.machine
  started : rt'.started = rt.started
  pin : rt'.pin = rt.pin
  previewJpeg : rt'.previewJpeg = rt.previewJpeg
  previewVersion : rt'.previewVersion = rt.previewVersion

/-- A relation between the runtime and its clock and Java that each part of an operation keeps. -/
structure Upheld (config : NativeConfig) (P : NativeRuntime → Io → Prop) : Prop where
  aside : ∀ {rt rt' : NativeRuntime} {io : Io}, P rt io → Aside rt rt' → P rt' io
  nowMs : ∀ {rt : NativeRuntime} {io : Io}, P rt io → P rt io.nowMs.2
  screen : ∀ {rt : NativeRuntime} {io : Io} {command : NativeCommand}, P rt io →
    command.type = .UpdateScreen → P rt (io.dispatch command).2
  operate : ∀ {rt : NativeRuntime} {io : Io} {op : Op}, P rt io → op ≠ .Start → op ≠ .Stop →
    P (operate config rt io op).runtime (operate config rt io op).io

/-- The same, as long as the machine is called with these functions only. -/
structure UpheldBy (config : NativeConfig) (allowed : Op → Prop) (P : NativeRuntime → Io → Prop) :
    Prop where
  aside : ∀ {rt rt' : NativeRuntime} {io : Io}, P rt io → Aside rt rt' → P rt' io
  nowMs : ∀ {rt : NativeRuntime} {io : Io}, P rt io → P rt io.nowMs.2
  screen : ∀ {rt : NativeRuntime} {io : Io} {command : NativeCommand}, P rt io →
    command.type = .UpdateScreen → P rt (io.dispatch command).2
  operate : ∀ {rt : NativeRuntime} {io : Io} {op : Op}, P rt io → allowed op →
    P (operate config rt io op).runtime (operate config rt io op).io

/-- The functions of the machine that an operation of the runtime calls, with the arguments it hands
on. -/
def RuntimeOp.Calls : RuntimeOp → Op → Prop
  | .Start _ _, op => op = .Start ∨ op = .Stop
  | .Stop, op => op = .Stop
  | .SetCameraReady ready, op => op = .SetCameraReady ready
  | .SetWifiState ready _ _ _ stationCount _, op =>
      op = .SetClientCount stationCount ∨ op = .SetWifiReady ready
  | .ReportCommandResult commandId resultCode message, op =>
      op = .ReportCommandResult commandId resultCode message
  | .PhysicalFocus pressed, op => op = .SetFocus pressed
  | .PhysicalShutter pressed, op => op = .PhysicalShutter pressed
  | .HandleRequest _ _, op => ClientOp op
  | .ServerTick, op => op = .Tick
  | .SetPreview _ _ _ _ _, _ | .ServerError _, _ => False

/-- `setPreview` leaves the machine and the session as they are. -/
lemma NativeRuntime.setPreview_session (rt : NativeRuntime) (data : Bytes) (width height : ℤ)
    (source error : Bytes) :
    (setPreview rt data width height source error).machine = rt.machine ∧
      (setPreview rt data width height source error).started = rt.started ∧
      (setPreview rt data width height source error).pin = rt.pin := by
  rw [setPreview]
  split_ifs <;> exact ⟨rfl, rfl, rfl⟩

/-- So it does with the text on the screen and with the error of the listener. -/
lemma NativeRuntime.setPreview_texts (rt : NativeRuntime) (data : Bytes) (width height : ℤ)
    (source error : Bytes) :
    (setPreview rt data width height source error).previousScreen = rt.previousScreen ∧
      (setPreview rt data width height source error).serverError = rt.serverError := by
  rw [setPreview]
  split_ifs <;> exact ⟨rfl, rfl⟩

/-- What an operation of the runtime sets besides: of a request the memory and the limiters, and never
the PIN. -/
def RuntimeOp.Sets (rt rt' : NativeRuntime) : RuntimeOp → Prop
  | .SetWifiState _ ssid password address _ error =>
      rt' = { rt with
        ssid, password
        address := if address.isEmpty then rt.address else address
        wifiError := if error == bytes "stopped" then [] else error }
  | .SetPreview data width height source error =>
      rt' = rt.setPreview data width height source error
  | .HandleRequest _ _ => ∃ deduplicator mutationLimiter statusLimiter,
      rt' = { rt with deduplicator, mutationLimiter, statusLimiter }
  | .ServerError error => rt' = { rt with serverError := error }
  | _ => False

/-- A part of an operation: a reading of the clock, a call of the machine, an update of the screen, or
a change of other fields. -/
inductive Part (assets : Assets) (config : NativeConfig) (op : RuntimeOp) :
    NativeRuntime × Io → NativeRuntime × Io → Prop
  | read (rt : NativeRuntime) (io : Io) : Part assets config op (rt, io) (rt, io.nowMs.2)
  | operate {inner : Op} (h : op.Calls inner) (rt : NativeRuntime) (io : Io) :
      Part assets config op (rt, io)
        ((operate config rt io inner).runtime, (operate config rt io inner).io)
  | screen (rt : NativeRuntime) (io : Io) (force : Bool) :
      Part assets config op (rt, io) (updateScreen assets config rt io force)
  | set {rt rt' : NativeRuntime} (h : op.Sets rt rt') (io : Io) :
      Part assets config op (rt, io) (rt', io)

/-- Some parts one after another, as an operation is made of them. -/
abbrev Parts (assets : Assets) (config : NativeConfig) (op : RuntimeOp) :
    NativeRuntime × Io → NativeRuntime × Io → Prop :=
  Relation.ReflTransGen (Part assets config op)

/-! ## Parts -/

namespace Parts

variable {assets : Assets} {target : Target} {config : NativeConfig} {op : RuntimeOp}

lemma operateAndShow {inner : Op} (h : op.Calls inner) (rt : NativeRuntime) (io : Io) :
    Parts assets config op (rt, io)
      ((operateAndShow assets config rt io inner).runtime,
        (operateAndShow assets config rt io inner).io) :=
  (Relation.ReflTransGen.single (.operate h rt io)).tail (.screen _ _ true)

lemma countdownRemainingMs (rt : NativeRuntime) (io : Io) :
    Parts assets config op (rt, io) (rt, (rt.machine.countdownRemainingMs io).2) := by
  rw [RemoteStateMachine.countdownRemainingMs]
  split_ifs
  · exact .refl
  · exact .single (.read rt io)

lemma onServerTick (rt : NativeRuntime) (io : Io) :
    Parts assets config .ServerTick (rt, io)
      ((onServerTick assets config rt io).runtime, (onServerTick assets config rt io).io) := by
  rw [NativeRuntime.onServerTick]
  split_ifs
  · exact .refl
  · have htick : RuntimeOp.ServerTick.Calls .Tick := rfl
    exact (Relation.ReflTransGen.single (.operate htick rt io)).tail (.screen _ _ false)

section Requests

variable {request : HttpRequest} {remoteAddress : Bytes}

lemma client {inner : Op} (h : ClientOp inner) (rt : NativeRuntime) (io : Io) :
    Parts assets config (.HandleRequest request remoteAddress) (rt, io)
      ((NativeRuntime.operate config rt io inner).runtime,
        (NativeRuntime.operate config rt io inner).io) := by
  have hcalls : (RuntimeOp.HandleRequest request remoteAddress).Calls inner := h
  exact .single (.operate hcalls rt io)

lemma memory (rt : NativeRuntime) (io : Io) (deduplicator : RequestDeduplicator)
    (mutationLimiter statusLimiter : RateLimiter) :
    Parts assets config (.HandleRequest request remoteAddress) (rt, io)
      ({ rt with deduplicator, mutationLimiter, statusLimiter }, io) := by
  have hsets : (RuntimeOp.HandleRequest request remoteAddress).Sets rt
      { rt with deduplicator, mutationLimiter, statusLimiter } := ⟨_, _, _, rfl⟩
  exact .single (.set hsets io)

lemma handleGet (rt : NativeRuntime) (io : Io) (request' : HttpRequest) :
    Parts assets config (.HandleRequest request remoteAddress) (rt, io)
      ((handleGet assets rt io request').runtime, (handleGet assets rt io request').io) := by
  rw [handleGet_runtime, NativeRuntime.handleGet]
  split_ifs
  · exact .refl
  · exact .refl
  · exact .refl
  · exact countdownRemainingMs rt io
  all_goals exact .refl

lemma decideCapture (rt : NativeRuntime) (io : Io) (capture : CaptureRequest) :
    Parts assets config (.HandleRequest request remoteAddress) (rt, io)
      ((decideCapture config rt io capture).2.1, (decideCapture config rt io capture).2.2) := by
  have hop : ClientOp (.RequestCapture capture.requestId capture.delayMs capture.autofocus) :=
    Or.inl ⟨_, _, _, rfl⟩
  rw [NativeRuntime.decideCapture]
  split_ifs
  · exact .refl
  · dsimp only
    split_ifs <;> exact client hop rt io

lemma handleCapture (rt : NativeRuntime) (io : Io) (now : ℤ) (capture : CaptureRequest) :
    Parts assets config (.HandleRequest request remoteAddress) (rt, io)
      ((handleCapture assets config rt io now capture).runtime,
        (handleCapture assets config rt io now capture).io) := by
  cases hfind : (rt.deduplicator.find capture.requestId now).1 with
  | some old =>
      rw [handleCapture_of_found hfind]
      exact memory rt io _ _ _
  | none =>
      obtain ⟨status, body, rt', io', hdecide, hhandle⟩ :=
        handleCapture_of_missing assets config io hfind
      have hpruned : Parts assets config (.HandleRequest request remoteAddress) (rt, io)
          ({ rt with deduplicator := rt.deduplicator.prune now }, io) := memory rt io _ _ _
      have hdecided : Parts assets config (.HandleRequest request remoteAddress)
          ({ rt with deduplicator := rt.deduplicator.prune now }, io) _ := decideCapture _ io capture
      rw [hdecide] at hdecided
      rw [hhandle]
      have hremembered : Parts assets config (.HandleRequest request remoteAddress) (rt', io')
          (rt'.remember capture status body now, io') := memory rt' io' _ _ _
      exact ((hpruned.trans hdecided).trans hremembered).tail (.screen _ _ true)

lemma handleCancel (rt : NativeRuntime) (io : Io) (request' : HttpRequest) :
    Parts assets config (.HandleRequest request remoteAddress) (rt, io)
      ((handleCancel assets config rt io request').runtime,
        (handleCancel assets config rt io request').io) := by
  have hop : ClientOp .CancelCountdown := Or.inr (Or.inl rfl)
  rw [NativeRuntime.handleCancel]
  split_ifs
  · exact .refl
  · dsimp only
    split_ifs
    · exact client hop rt io
    · exact (client hop rt io).tail (.screen _ _ true)

lemma handleFocus (rt : NativeRuntime) (io : Io) (request' : HttpRequest) :
    Parts assets config (.HandleRequest request remoteAddress) (rt, io)
      ((handleFocus assets config rt io request').runtime,
        (handleFocus assets config rt io request').io) := by
  rw [NativeRuntime.handleFocus]
  cases parseFocusJson request'.body with
  | none => exact .refl
  | some pressed =>
      have hop : ClientOp (.SetFocus pressed) := Or.inr (Or.inr ⟨pressed, rfl⟩)
      dsimp only
      split_ifs
      · exact client hop rt io
      · exact (client hop rt io).tail (.screen _ _ true)

lemma handlePost (rt : NativeRuntime) (io : Io) (now : ℤ) (request' : HttpRequest) :
    Parts assets config (.HandleRequest request remoteAddress) (rt, io)
      ((handlePost assets target config rt io now request').runtime,
        (handlePost assets target config rt io now request').io) := by
  rw [NativeRuntime.handlePost]
  split_ifs
  · exact .refl
  · exact .refl
  · cases parseCaptureJson target request'.body with
    | none => exact .refl
    | some capture => exact handleCapture rt io now capture
  · exact handleCancel rt io request'
  · exact handleFocus rt io request'
  · exact .refl

lemma handleRequest (rt : NativeRuntime) (io : Io) :
    Parts assets config (.HandleRequest request remoteAddress) (rt, io)
      ((handleRequest assets target config rt io request remoteAddress).runtime,
        (handleRequest assets target config rt io request remoteAddress).io) := by
  have hlimited : ∀ mutationLimiter statusLimiter,
      Parts assets config (.HandleRequest request remoteAddress) (rt, io)
        ({ rt with mutationLimiter, statusLimiter }, io.nowMs.2) := fun _ _ =>
    (Relation.ReflTransGen.single (.read rt io)).trans (memory rt io.nowMs.2 _ _ _)
  rcases handleRequest_cases assets target config rt io request remoteAddress with
    ⟨-, -, mutationLimiter, statusLimiter, _, _, hr⟩ | ⟨-, hr⟩ | ⟨-, hr⟩ <;> rw [hr]
  · exact hlimited mutationLimiter statusLimiter
  · exact (hlimited rt.mutationLimiter _).trans (handleGet _ _ request)
  · exact (hlimited _ rt.statusLimiter).trans (handlePost _ _ _ request)

end Requests

end Parts

/-- **Every operation but `start` and `stop` is made of parts**: so what every part keeps, an
operation keeps, and no later proof goes through the handlers again. -/
theorem parts_perform {assets : Assets} {target : Target} {config : NativeConfig}
    (rt : NativeRuntime) (io : Io) {op : RuntimeOp}
    (hstart : ∀ random serverStarts, op ≠ .Start random serverStarts) (hstop : op ≠ .Stop) :
    Parts assets config op (rt, io) ((rt.perform assets target config io op).runtime,
      (rt.perform assets target config io op).io) := by
  cases op with
  | Start random serverStarts => exact absurd rfl (hstart random serverStarts)
  | Stop => exact absurd rfl hstop
  | SetCameraReady ready =>
      have hcalls : (RuntimeOp.SetCameraReady ready).Calls (.SetCameraReady ready) := rfl
      exact Parts.operateAndShow hcalls rt io
  | ReportCommandResult commandId resultCode message =>
      have hcalls : (RuntimeOp.ReportCommandResult commandId resultCode message).Calls
        (.ReportCommandResult commandId resultCode message) := rfl
      exact Parts.operateAndShow hcalls rt io
  | PhysicalFocus pressed =>
      have hcalls : (RuntimeOp.PhysicalFocus pressed).Calls (.SetFocus pressed) := rfl
      exact Parts.operateAndShow hcalls rt io
  | PhysicalShutter pressed =>
      have hcalls : (RuntimeOp.PhysicalShutter pressed).Calls (.PhysicalShutter pressed) := rfl
      exact Parts.operateAndShow hcalls rt io
  | SetWifiState ready ssid password address stationCount error =>
      let op := RuntimeOp.SetWifiState ready ssid password address stationCount error
      have hsets : op.Sets rt _ := rfl
      have hcount : op.Calls (.SetClientCount stationCount) := Or.inl rfl
      have hready : op.Calls (.SetWifiReady ready) := Or.inr rfl
      exact ((Relation.ReflTransGen.single (.set hsets io)).tail (.operate hcount _ io)).trans
        (Parts.operateAndShow hready _ _)
  | SetPreview data width height source error =>
      have hsets : (RuntimeOp.SetPreview data width height source error).Sets rt _ := rfl
      exact .single (.set hsets io)
  | HandleRequest _ _ => exact Parts.handleRequest rt io
  | ServerTick => exact Parts.onServerTick rt io
  | ServerError error =>
      have hsets : (RuntimeOp.ServerError error).Sets rt { rt with serverError := error } := rfl
      exact (Relation.ReflTransGen.single (.set hsets io)).tail (.screen _ _ true)

/-- **What every part keeps, the operation keeps**, by induction over its parts. -/
theorem Parts.keeps {assets : Assets} {config : NativeConfig} {op : RuntimeOp}
    {P : NativeRuntime → Io → Prop} {s s' : NativeRuntime × Io} (hparts : Parts assets config op s s')
    (hpart : ∀ {s s' : NativeRuntime × Io}, Part assets config op s s' → P s.1 s.2 → P s'.1 s'.2)
    (h : P s.1 s.2) : P s'.1 s'.2 := by
  induction hparts with
  | refl => exact h
  | tail _ hlast ih => exact hpart hlast ih

/-- But for `setPreview`, what is set belongs neither to the machine nor to the session nor to the
preview. -/
lemma RuntimeOp.Sets.aside {op : RuntimeOp} {rt rt' : NativeRuntime} (h : op.Sets rt rt')
    (hpreview : ∀ data width height source error, op ≠ .SetPreview data width height source error) :
    Aside rt rt' := by
  cases op with
  | SetPreview data width height source error =>
      exact absurd rfl (hpreview data width height source error)
  | HandleRequest _ _ =>
      obtain ⟨_, _, _, rfl⟩ := h
      exact ⟨rfl, rfl, rfl, rfl, rfl⟩
  | SetWifiState _ _ _ _ _ _ | ServerError _ =>
      obtain rfl := h
      exact ⟨rfl, rfl, rfl, rfl, rfl⟩
  | _ => exact h.elim

/-! ## Keeping -/

namespace UpheldBy

variable {assets : Assets} {target : Target} {config : NativeConfig}
  {allowed : Op → Prop} {P : NativeRuntime → Io → Prop} {rt : NativeRuntime} {io : Io}

lemma countdownRemainingMs (hP : UpheldBy config allowed P) (h : P rt io) :
    P rt (rt.machine.countdownRemainingMs io).2 := by
  rw [RemoteStateMachine.countdownRemainingMs]
  split_ifs
  · exact h
  · exact hP.nowMs h

lemma screenText (hP : UpheldBy config allowed P) (h : P rt io) :
    P rt (rt.screenText assets config io).2 := by
  rw [NativeRuntime.screenText]
  dsimp only
  split_ifs
  · exact hP.countdownRemainingMs (hP.countdownRemainingMs h)
  · exact hP.countdownRemainingMs h

lemma updateScreen (hP : UpheldBy config allowed P) (h : P rt io) (force : Bool) :
    P (updateScreen assets config rt io force).1 (updateScreen assets config rt io force).2 := by
  have htext : P rt (rt.screenText assets config io).2 := hP.screenText h
  rcases updateScreen_cases assets config rt io force with hs | hs | ⟨screen, command, htype, hs⟩ <;>
    rw [hs] <;> dsimp only
  · exact h
  · exact htext
  · have hshown : P { rt with previousScreen := screen } (rt.screenText assets config io).2 :=
      hP.aside htext ⟨rfl, rfl, rfl, rfl, rfl⟩
    exact hP.screen hshown htype

/-- **Every operation but `start` and `stop` keeps it** whose calls of the machine do, if `setPreview`
does. -/
theorem perform (hP : UpheldBy config allowed P) (h : P rt io) {op : RuntimeOp}
    (hstart : ∀ random serverStarts, op ≠ .Start random serverStarts) (hstop : op ≠ .Stop)
    (hcalls : ∀ inner, op.Calls inner → allowed inner)
    (hpreview : ∀ data width height source error, op = .SetPreview data width height source error →
      P (setPreview rt data width height source error) io) :
    P (rt.perform assets target config io op).runtime
      (rt.perform assets target config io op).io := by
  by_cases hset : ∃ data width height source error, op = .SetPreview data width height source error
  · obtain ⟨data, width, height, source, error, rfl⟩ := hset
    exact hpreview data width height source error rfl
  have hparts : Parts assets config op (rt, io) ((rt.perform assets target config io op).runtime,
      (rt.perform assets target config io op).io) := parts_perform rt io hstart hstop
  refine hparts.keeps (fun hpart hs => ?_) h
  cases hpart with
  | read rt io => exact hP.nowMs hs
  | operate hinner rt io => exact hP.operate hs (hcalls _ hinner)
  | screen rt io force => exact hP.updateScreen hs force
  | set hsets io =>
      refine hP.aside hs (hsets.aside ?_)
      rintro data width height source error rfl
      exact hset ⟨data, width, height, source, error, rfl⟩

end UpheldBy

namespace Upheld

variable {assets : Assets} {target : Target} {config : NativeConfig}
  {P : NativeRuntime → Io → Prop} {rt : NativeRuntime} {io : Io}

/-- What every function of the machine but `start` and `stop` keeps. -/
lemma by_any (hP : Upheld config P) : UpheldBy config (fun op => op ≠ .Start ∧ op ≠ .Stop) P :=
  ⟨hP.aside, hP.nowMs, hP.screen, fun h hop => hP.operate h hop.1 hop.2⟩

lemma updateScreen (hP : Upheld config P) (h : P rt io) (force : Bool) :
    P (updateScreen assets config rt io force).1 (updateScreen assets config rt io force).2 :=
  hP.by_any.updateScreen h force

/-- **Every operation but `start` and `stop` keeps it**, if `setPreview` does, which is the one that
changes the preview. -/
theorem perform (hP : Upheld config P) (h : P rt io) {op : RuntimeOp}
    (hstart : ∀ random serverStarts, op ≠ .Start random serverStarts) (hstop : op ≠ .Stop)
    (hpreview : ∀ data width height source error, op = .SetPreview data width height source error →
      P (setPreview rt data width height source error) io) :
    P (rt.perform assets target config io op).runtime
      (rt.perform assets target config io op).io := by
  refine hP.by_any.perform h hstart hstop (fun inner hinner => ?_) hpreview
  -- Neither function of the machine is called by another operation.
  cases op with
  | Start random serverStarts => exact absurd rfl (hstart random serverStarts)
  | Stop => exact absurd rfl hstop
  | SetWifiState _ _ _ _ _ _ => rcases hinner with rfl | rfl <;> simp
  | HandleRequest _ _ => rcases hinner with ⟨_, _, _, rfl⟩ | rfl | ⟨_, rfl⟩ <;> simp
  | SetPreview _ _ _ _ _ | ServerError _ => exact hinner.elim
  | SetCameraReady _ | ReportCommandResult _ _ _ | PhysicalFocus _ | PhysicalShutter _
  | ServerTick =>
      rw [show inner = _ from hinner]
      simp

end Upheld

end LegacyAlpha
