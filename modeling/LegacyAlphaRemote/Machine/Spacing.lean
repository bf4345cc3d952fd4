import LegacyAlphaRemote.Machine.Obligations

/-!
# Captures keep their distance

Two captures in a row, with neither `stop` nor the loss of the camera or the Wi-Fi in between, have
exactly one release between them and lie at least a cooldown apart.

The trace does not say when a command was sent, only in what order the commands and the readings of
the clock came, so the distance is stated for every `Timeline`: any times for the events of the trace
that never go back and agree with the readings.

`Awaits` is the invariant: what the events since the last capture must be for the machine to be in
its phase.  A capture is only ever sent from a phase in which the last one is over (`Recovered`).
-/

namespace LegacyAlpha

open RemoteStateMachine TraceLogic

/-! ## Spacing -/

/-- One of the operations is called that clear the schedule whatever is going on. -/
def Event.Drops : Event → Prop
  | .Call op _ => op.drops = true
  | _ => False

/-- How often the shutter is released, counting the releases that the sink accepts. -/
def releases (es : List Event) : ℕ :=
  es.countP fun
    | .Sent command accepted => command.type == .ReleaseShutter && accepted
    | _ => false

/-- Times for the events of a trace: they never go back, and a reading of the clock has its own. -/
structure Timeline (tr : List Event) (time : ℕ → ℤ) : Prop where
  mono : Monotone time
  reading : ∀ i now, tr[i]? = some (.Clock now) → time i = now

/-- **Captures keep their distance**: between two accepted captures in a row, with nothing that
clears the schedule in between, the shutter is released once, and a cooldown goes by. -/
def CapturesSpaced (config : NativeConfig) (tr : List Event) : Prop :=
  ∀ early first between second late, tr = early ++ first :: (between ++ second :: late) →
    first.Accepts .Capture → second.Accepts .Capture →
    (∀ e ∈ between, ¬ e.Accepts .Capture ∧ ¬ e.Drops) →
    releases between = 1 ∧ ∀ time, Timeline tr time →
      time early.length + config.cooldownMs ≤ time (early.length + 1 + between.length)

/-! ## Since the last capture -/

/-- The last capture is over: the shutter was released once, and the clock was read a cooldown after
the reading that followed the capture. -/
def Recovered (config : NativeConfig) (since : List Event) : Prop :=
  releases since = 1 ∧ ∃ held rest now, since = .Clock held :: rest ∧ .Clock now ∈ rest ∧
    held + config.cooldownMs ≤ now

/-- What has come since the last capture, by phase.  While a photo is being taken, the reading that
followed the capture tells when its cooldown ends; once the machine is armed again, all of it is over.
-/
def Awaits (config : NativeConfig) : Phase → List Event → Prop
  | .Capturing _ _ _ _ cooldownAt, since => releases since = 0 ∧
      ∃ held rest, since = .Clock held :: rest ∧ cooldownAt = held + config.cooldownMs
  | .Cooldown _ _ _ cooldownAt, since => releases since = 1 ∧
      ∃ held rest, since = .Clock held :: rest ∧ cooldownAt = held + config.cooldownMs
  | .Idle .Error, _ => True
  | .Idle .Armed, since | .Countdown _, since | .Focusing _ _, since | .HalfPress _, since =>
      Recovered config since
  | .Idle _, _ => False

/-- What has come since the last capture satisfies `Q`, unless there was no capture or the schedule
has been dropped since. -/
abbrev SinceCapture (tr : List Event) (Q : List Event → Prop) : Prop :=
  Watched (Event.Accepts .Capture) Event.Drops tr Q

/-- The events `seg` come after `tr`: a capture among them finds the last one over, and at their end
what has come since the last capture satisfies `Q`. -/
structure Spaces (config : NativeConfig) (tr seg : List Event) (Q : List Event → Prop) : Prop where
  captures : AlwaysFrom (fun past e => e.Accepts .Capture → SinceCapture past (Recovered config)) tr
    seg
  since : SinceCapture (tr ++ seg) Q

variable {config : NativeConfig} {m : RemoteStateMachine} {p p' : Phase} {op : Op} {ok : Bool}
  {n : ℤ} {tr seg seg' since rest : List Event} {Q Q' : List Event → Prop}

lemma releases_append (es fs : List Event) : releases (es ++ fs) = releases es + releases fs :=
  List.countP_append

@[simp] lemma releases_nil : releases [] = 0 := rfl

@[simp] lemma releases_clock (now : ℤ) (es : List Event) :
    releases (.Clock now :: es) = releases es := by
  simp [releases]

@[simp] lemma releases_call (op : Op) (m : RemoteStateMachine) (es : List Event) :
    releases (.Call op m :: es) = releases es := by
  simp [releases]

@[simp] lemma releases_returned (op : Op) (ok : Bool) (m : RemoteStateMachine) (es : List Event) :
    releases (.Returned op ok m :: es) = releases es := by
  simp [releases]

@[simp] lemma releases_command (id : ℤ) (type : CommandType) (accepted : Bool) (es : List Event) :
    releases (.command id type accepted :: es) =
      releases es + if type = .ReleaseShutter ∧ accepted = true then 1 else 0 := by
  cases type <;> cases accepted <;> simp [releases, Event.command]

@[simp] lemma drops_command (id : ℤ) (type : CommandType) (accepted : Bool) :
    (Event.command id type accepted).Drops ↔ False := Iff.rfl

@[simp] lemma drops_call (op : Op) (m : RemoteStateMachine) :
    (Event.Call op m).Drops ↔ op.drops = true := Iff.rfl

@[simp] lemma drops_clock (now : ℤ) : (Event.Clock now).Drops ↔ False := Iff.rfl

@[simp] lemma drops_returned (op : Op) (ok : Bool) (m : RemoteStateMachine) :
    (Event.Returned op ok m).Drops ↔ False := Iff.rfl

lemma Recovered.append (h : Recovered config since) (hseg : releases seg = 0) :
    Recovered config (since ++ seg) := by
  obtain ⟨hrel, held, rest, now, rfl, hnow, hle⟩ := h
  refine ⟨by rw [releases_append, hrel, hseg], held, rest ++ seg, now, rfl, ?_, hle⟩
  exact List.mem_append_left _ hnow

/-- Events among which there is no release change nothing. -/
lemma Awaits.append (h : Awaits config p since) (hseg : releases seg = 0) :
    Awaits config p (since ++ seg) := by
  cases p with
  | Countdown _ | Focusing _ _ | HalfPress _ => exact Recovered.append h hseg
  | Capturing _ _ _ _ _ | Cooldown _ _ _ _ =>
      obtain ⟨hrel, held, rest, rfl, hcd⟩ := h
      exact ⟨by rw [releases_append, hrel, hseg], held, rest ++ seg, rfl, hcd⟩
  | Idle s =>
      cases s with
      | Armed => exact Recovered.append h hseg
      | Error => trivial
      | _ => exact h.elim

/-- Pressing the shutter is only possible when the last capture is over. -/
lemma Awaits.recovered_of_pressable (h : Awaits config p since) (hp : p.pressable = true) :
    Recovered config since := by
  cases p with
  | Countdown _ | Focusing _ _ | HalfPress _ => exact h
  | Capturing _ _ _ _ _ | Cooldown _ _ _ _ => cases hp
  | Idle s =>
      obtain rfl : s = .Armed := by simpa [Phase.pressable] using hp
      exact h

/-! ## Events of a call -/

/-- Events that are neither a capture nor a drop.  The spacing of captures does not depend on them. -/
def Passive (seg : List Event) : Prop := ∀ e ∈ seg, ¬ e.Accepts .Capture ∧ ¬ e.Drops

lemma spaces_passive (h : SinceCapture tr Q) (hseg : Passive seg)
    (hQ : ∀ since, Q since → Q' (since ++ seg)) : Spaces config tr seg Q' where
  captures := AlwaysFrom.of_forall_mem fun _ e he hcap => absurd hcap (hseg e he).1
  since := h.append hseg hQ

lemma Spaces.append {s t : List Event} (h : Spaces config tr s Q)
    (h' : Spaces config (tr ++ s) t Q') : Spaces config tr (s ++ t) Q' where
  captures := (alwaysFrom_append _ _ _ _).mpr ⟨h.captures, h'.captures⟩
  since := by rw [← List.append_assoc]; exact h'.since

lemma spaces_capture {focus : ℤ} {physical : Bool}
    (heff : CaptureEffect config n focus physical seg p')
    (h : SinceCapture tr (Recovered config)) : Spaces config tr seg (Awaits config p') := by
  cases heff with
  | rejected =>
      refine spaces_passive h ?_ fun _ _ => trivial
      simp [Passive]
  | accepted now =>
      have hcommand : (Event.command n .Capture true).Accepts .Capture := ⟨rfl, rfl⟩
      refine ⟨⟨fun _ => h, by simp⟩, watched_mark tr hcommand (by simp) ?_⟩
      exact ⟨rfl, now, [], rfl, rfl⟩

/-- A tick: the reading of the clock and what follows. -/
lemma spaces_tick {now : ℤ} (heff : TickEffect config n now p seg p')
    (h : SinceCapture tr (Awaits config p)) :
    Spaces config tr (.Clock now :: seg) (Awaits config p') := by
  have clock : (∀ since, Awaits config p since → Recovered config since) →
      SinceCapture (tr ++ [.Clock now]) (Recovered config) := by
    intro hrec
    exact h.append (by simp) fun since hs => (hrec since hs).append (by simp)
  -- the clock has now been read after the cooldown
  have elapsed : ∀ {held : ℤ} {rest extra : List Event}, held + config.cooldownMs ≤ now →
      releases (.Clock held :: rest) + releases extra = 1 →
      Recovered config (.Clock held :: rest ++ .Clock now :: extra) := by
    intro held rest extra hle hrel
    refine ⟨?_, held, rest ++ .Clock now :: extra, now, rfl, by simp, hle⟩
    rw [releases_append, releases_clock now]
    exact hrel
  cases heff with
  | rest _ =>
      refine spaces_passive h (by simp [Passive]) fun since hs => ?_
      exact hs.append (by simp)
  | focusRejected _ _ | releaseRejected _ =>
      exact spaces_passive h (by simp [Passive]) fun _ _ => trivial
  | focus _ _ _ =>
      refine spaces_passive h (by simp [Passive]) fun since hs => ?_
      exact Recovered.append hs (by simp)
  | focusCapture _ _ _ hcap =>
      refine Spaces.append (s := [.Clock now]) (spaces_passive h (by simp [Passive])
        fun since hs => Recovered.append hs (by simp)) ?_
      refine Spaces.append (s := [.command n .StartAutofocus true]) (Q := Recovered config)
        (spaces_passive (clock fun _ => id) (by simp [Passive])
          fun since hs => Recovered.append hs (by simp)) ?_
      refine spaces_capture hcap ?_
      exact (clock fun _ => id).append (by simp) fun since hs => Recovered.append hs (by simp)
  | capture _ _ hcap | captureFocusing _ hcap | captureHalfPress hcap =>
      refine Spaces.append (s := [.Clock now]) (spaces_passive h (by simp [Passive])
        fun since hs => Recovered.append hs (by simp)) ?_
      exact spaces_capture hcap (clock fun _ => id)
  | release _ _ =>
      refine spaces_passive h (by simp [Passive]) fun since hs => ?_
      obtain ⟨hrel, held, rest, rfl, hcd⟩ := hs
      refine ⟨?_, held, _, rfl, hcd⟩
      rw [releases_append, hrel]
      simp
  | releaseFinish _ hcd =>
      refine spaces_passive h (by simp [Passive]) fun since hs => ?_
      obtain ⟨hrel, held, rest, rfl, rfl⟩ := hs
      refine elapsed hcd ?_
      rw [hrel]
      simp
  | finish hcd =>
      refine spaces_passive h (by simp [Passive]) fun since hs => ?_
      obtain ⟨hrel, held, rest, rfl, rfl⟩ := hs
      exact elapsed hcd (by rw [hrel]; rfl)

lemma passive_cancel {focus : ℤ} (heff : CancelEffect n focus seg) : Passive seg := by
  cases heff <;> simp [Passive]

lemma CancelEffect.releases_eq {focus : ℤ} (heff : CancelEffect n focus seg) :
    releases seg = 0 := by
  cases heff <;> simp

/-- A call that clears the schedule sends no capture. -/
lemma Effect.not_capture_of_drops (heff : Effect config n p op seg ok p')
    (hdrop : op.drops = true) : ∀ e ∈ seg, ¬ e.Accepts .Capture := by
  cases heff with
  | quiet _ | lifecycle _ | cameraLost | wifiLost => simp
  | stop hcancel => exact fun e he => (passive_cancel hcancel e he).1
  | _ => cases hdrop

/-- What happens inside a call that clears nothing. -/
lemma spaces_effect (heff : Effect config n p op seg ok p') (hdrop : op.drops = false)
    (hlife : op.lifecycle = true → p.state = .Armed ∨ p.state = .Error → p'.state = p.state)
    (h : SinceCapture tr (Awaits config p)) : Spaces config tr seg (Awaits config p') := by
  have same : SinceCapture tr (fun _ => True) := fun _ _ => trivial
  cases heff with
  | quiet _ => exact spaces_passive h (by simp [Passive]) fun since hs => hs.append rfl
  | @lifecycle s s' _ hop =>
      refine spaces_passive h (by simp [Passive]) fun since hs => ?_
      cases s with
      | Armed =>
          obtain rfl : s' = .Armed := hlife hop (Or.inl rfl)
          exact hs.append rfl
      | Error =>
          obtain rfl : s' = .Error := hlife hop (Or.inr rfl)
          exact hs.append rfl
      | _ => exact hs.elim
  | stop _ | cameraLost | wifiLost => cases hdrop
  | @request plan now rest _ _ _ _ htick =>
      refine Spaces.append (s := [.Clock plan.madeAt]) (Q := Awaits config (.Countdown plan))
        (spaces_passive h (by simp [Passive]) fun since hs => Recovered.append hs (by simp)) ?_
      refine spaces_tick htick ?_
      exact h.append (by simp) fun since hs => Recovered.append hs (by simp)
  | cancel hcan hcancel =>
      refine spaces_passive h (passive_cancel hcancel) fun since hs => ?_
      refine Recovered.append (hs.recovered_of_pressable ?_) hcancel.releases_eq
      cases p <;> first | rfl | cases hcan
  | focusRejected => exact spaces_passive same (by simp [Passive]) fun _ _ => trivial
  | focusPress | focusRelease _ =>
      exact spaces_passive h (by simp [Passive]) fun since hs => Recovered.append hs (by simp)
  | press hpress _ hcap =>
      exact spaces_capture hcap fun since hs => (h since hs).recovered_of_pressable hpress
  | pressScheduled hsched hcancel hcap =>
      have hpress : p.pressable = true := by cases p <;> first | rfl | cases hsched
      have recovered : ∀ since, Awaits config p since → Recovered config (since ++ _) :=
        fun since hs => (hs.recovered_of_pressable hpress).append hcancel.releases_eq
      exact (spaces_passive h (passive_cancel hcancel) recovered).append
        (spaces_capture hcap (h.append (passive_cancel hcancel) recovered))
  | @unpress c f r cd pressed now rest _ _ htick =>
      refine Spaces.append (s := [.Clock pressed])
        (Q := Awaits config (.Capturing c f true pressed cd))
        (spaces_passive h (by simp [Passive]) fun since hs => hs.append (by simp)) ?_
      refine spaces_tick htick ?_
      exact h.append (by simp) fun since hs => hs.append (by simp)
  | tick htick => exact spaces_tick htick h
  | captureFailed _ | captureFailedLate _ =>
      exact spaces_passive same (by simp [Passive]) fun _ _ => trivial
  | focusFailed _ => exact spaces_passive h (by simp [Passive]) fun since hs => hs.append rfl

/-- A whole call, with its record at the beginning and at the end. -/
lemma spaces_call (m m' : RemoteStateMachine) (heff : Effect config n p op seg ok p')
    (hlife : op.lifecycle = true → op.drops = false →
      p.state = .Armed ∨ p.state = .Error → p'.state = p.state)
    (h : SinceCapture tr (Awaits config p)) :
    Spaces config tr (.Call op m :: seg ++ [.Returned op ok m']) (Awaits config p') := by
  cases hdrop : op.drops with
  | true =>
      have hnone : ∀ e ∈ seg ++ [Event.Returned op ok m'], ¬ e.Accepts .Capture := by
        intro e he
        rcases List.mem_append.mp he with he | he
        · exact heff.not_capture_of_drops hdrop e he
        · rw [List.mem_singleton.mp he]
          exact id
      refine ⟨AlwaysFrom.of_forall_mem fun _ e he hcap => ?_, ?_⟩
      · rcases List.mem_cons.mp he with rfl | he
        · exact absurd hcap (by simp)
        · exact absurd hcap (hnone e he)
      · exact watched_reset tr (by simpa using hdrop) (by simp) hnone _
  | false =>
      have called : Passive [.Call op m] := by simp [Passive, hdrop]
      have returned : Passive [.Returned op ok m'] := by simp [Passive]
      have hcall : Spaces config tr [.Call op m] (Awaits config p) :=
        spaces_passive h called fun since hs => hs.append (by simp)
      have hbody := spaces_effect heff hdrop (fun hop => hlife hop hdrop) hcall.since
      have hreturn : Spaces config _ _ (Awaits config p') :=
        spaces_passive hbody.since returned fun since hs => hs.append (by simp)
      rw [List.append_assoc] at hreturn
      exact (hcall.append hbody).append hreturn

/-! ## Runs -/

/-- Becoming ready, or being started again, does nothing to a machine that is armed or has failed. -/
lemma lifecycle_state (hm : Rep config m p) (io : Io) (hop : op.lifecycle = true)
    (hdrop : op.drops = false) (hstate : m.state = .Armed ∨ m.state = .Error) :
    (m.perform config io op).machine.state = m.state := by
  have hrun : m.running = true := by
    rw [← Bool.not_eq_false, ← hm.stopped.not]
    rcases hstate with h | h <;> simp [h]
  have hstarting : (m.state == .Starting) = false := by
    rcases hstate with h | h <;> simp [h]
  cases op with
  | Start => simp [perform, start, hrun]
  | SetCameraReady ready | SetWifiReady ready =>
      cases ready with
      | true => simp [perform, setCameraReady, setWifiReady, readinessChanged, hrun, hstarting]
      | false => cases hdrop
  | Stop => cases hdrop
  | _ => cases hop

lemma Run.spaces (hc : config.Timing) (h : Run config tr m) :
    ∃ p, Rep config m p ∧ Spaces config [] tr (Awaits config p) := by
  induction h with
  | init => exact ⟨_, rep_init, trivial, watched_nil _ _ _⟩
  | @call tr m op clock answers hrun hmono hpos _ hop ih =>
      obtain ⟨p, hm, hspaces⟩ := ih
      have hids := (hrun.history hc).2.ids
      let io : Io := { clock, answers, trace := tr }
      obtain ⟨seg, p', heff, hm', htrace, -⟩ := step_effect io hc ⟨hmono, hpos⟩ hm op
        (hop.legal fun command accepted hmem => (hids command accepted hmem).1)
      refine ⟨p', hm', ?_⟩
      rw [htrace, List.append_assoc]
      refine hspaces.append (spaces_call m _ heff (fun hlife hdrop hstate => ?_) hspaces.since)
      rw [← hm'.state, ← hm.state] at *
      exact lifecycle_state hm _ hlife hdrop hstate

/-- The readings that a recovered capture leaves lie between it and the next one. -/
lemma Recovered.elapsed {early late : List Event} {first second : Event} {time : ℕ → ℤ}
    (h : Recovered config since)
    (htime : Timeline (early ++ first :: (since ++ second :: late)) time) :
    time early.length + config.cooldownMs ≤ time (early.length + 1 + since.length) := by
  obtain ⟨-, held, rest, now, rfl, hnow, hle⟩ := h
  obtain ⟨a, b, rfl⟩ := List.append_of_mem hnow
  have hheld : time (early.length + 1) = held := by
    refine htime.reading _ _ ?_
    rw [List.getElem?_append_right (by omega)]
    simp
  have hread : time (early.length + 1 + (a.length + 1)) = now := by
    refine htime.reading _ _ ?_
    rw [List.getElem?_append_right (by omega),
      show early.length + 1 + (a.length + 1) - early.length = a.length + 1 + 1 by omega,
      List.getElem?_cons_succ, List.cons_append, List.getElem?_cons_succ, List.append_assoc,
      List.getElem?_append_right le_rfl]
    simp
  calc time early.length + config.cooldownMs
      ≤ time (early.length + 1) + config.cooldownMs := by
        have hstep := htime.mono (Nat.le_add_right early.length 1)
        omega
    _ ≤ now := by rw [hheld]; exact hle
    _ = time (early.length + 1 + (a.length + 1)) := hread.symm
    _ ≤ time (early.length + 1 + (.Clock held :: (a ++ .Clock now :: b)).length) := by
        refine htime.mono ?_
        simp only [List.length_cons, List.length_append]
        omega

/-- **Captures keep their distance**, in every run of the program's own configuration.  Along a run
the phase tells what has come since the last capture, and a capture is sent from phases only in which
the last one is over. -/
theorem captures_spaced (port : ℤ) (h : Run (configForPort port) tr m) :
    CapturesSpaced (configForPort port) tr := by
  obtain ⟨p, -, hspaces⟩ := h.spaces (configForPort_timing port)
  rintro early first between second late rfl hfirst hsecond hbetween
  have hrecovered : Recovered (configForPort port) between := by
    refine ((always_iff_alwaysFrom _ _).mpr hspaces.captures) (early ++ first :: between) second late
      (by simp) hsecond between ⟨early, first, rfl, hfirst, hbetween⟩
  exact ⟨hrecovered.1, fun time htime => hrecovered.elapsed htime⟩

/-- Two photos, the second asked for as soon as the cooldown of the first is over. -/
def twoPhotosScript : List (ℤ × Op) :=
  photoScript [(1400, .Tick), (4000, .Tick), (4000, .PhysicalShutter true)]

theorem captures_spaced_twoPhotos :
    releases (play {} [] {} twoPhotosScript).1 = 1 ∧
      (play {} [] {} twoPhotosScript).2.state = .Capturing ∧
      CapturesSpaced {} (play {} [] {} twoPhotosScript).1 :=
  ⟨by decide, by decide, captures_spaced 0 (Run.play twoPhotosScript .init (by decide))⟩

end LegacyAlpha
