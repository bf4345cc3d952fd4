import LegacyAlphaRemote.Core.Trace
import LegacyAlphaRemote.Machine.Runs

/-!
# What the machine owes the camera

Two commands begin something that another command has to end: `Capture` holds the shutter until
`ReleaseShutter`, and `StartAutofocus` runs until `CancelAutofocus` or until the capture uses it.
A command whose failure is reported has begun nothing.  Both are an `Obligation` on the trace
(`commandObligation`): it has to be met by the return of the call in which the machine leaves the
state that goes with it, and before another such command.

The machine does not always meet them.  `stop`, `setCameraReady(false)` and `setWifiReady(false)`
clear the schedule, and only `stop` looks at anything first, namely at the autofocus.  The theorems
of this file say that nothing else goes wrong.
-/

namespace LegacyAlpha

open RemoteStateMachine TraceLogic

/-! ## Obligations of commands -/

/-- The sink accepts a command of this type, so that Java will carry it out. -/
def Event.Accepts (type : CommandType) : Event → Prop
  | .Sent command accepted => command.type = type ∧ accepted = true
  | _ => False

/-- A failing result of this command is reported, which is a call of the machine. -/
def Event.ReportsFailure (commandId : ℤ) : Event → Prop
  | .Call (.ReportCommandResult id resultCode _) _ => id = commandId ∧ resultCode ≠ 0
  | _ => False

instance (commandId : ℤ) : DecidablePred (Event.ReportsFailure commandId)
  | .Call (.ReportCommandResult id resultCode _) _ =>
      inferInstanceAs (Decidable (id = commandId ∧ resultCode ≠ 0))
  | .Call .Start _ | .Call .Stop _ | .Call (.SetCameraReady _) _ | .Call (.SetWifiReady _) _
  | .Call (.RequestCapture _ _ _) _ | .Call .CancelCountdown _ | .Call (.SetFocus _) _
  | .Call (.PhysicalShutter _) _ | .Call .Tick _ | .Call (.SetClientCount _) _
  | .Clock _ | .Sent _ _ | .Returned _ _ _ => inferInstanceAs (Decidable False)

/-- A call ends with the machine in another state than `state`, so that what belongs to that state
should be over. -/
def Event.EndsOutside (state : RemoteState) : Event → Prop
  | .Returned _ _ after => after.state ≠ state
  | _ => False

/-- An accepted command of type `opening` has to be followed by one of the types `closing`, or to
fail, before the machine ends a call outside `state` and before the next command of its type. -/
def commandObligation (opening : CommandType) (closing : List CommandType) (state : RemoteState) :
    Obligation Event where
  opens e := e.Accepts opening
  answers o e := (∃ type ∈ closing, e.Accepts type) ∨
    ∃ command accepted, o = .Sent command accepted ∧ e.ReportsFailure command.id
  due e := e.Accepts opening ∨ e.EndsOutside state

/-- The shutter is held from the capture until it is released or the capture is reported to have
failed, and one of these is due before the machine leaves its state. -/
def shutterHeld : Obligation Event :=
  commandObligation .Capture [.ReleaseShutter] .Capturing

/-- The autofocus runs until it is cancelled, the capture uses it or it is reported to have failed,
and one of these is due before the machine leaves its state. -/
def autofocusRunning : Obligation Event :=
  commandObligation .StartAutofocus [.CancelAutofocus, .Capture] .Focusing

/-- The sink refuses a command, so that nothing comes of it. -/
def Event.Refused : Event → Prop
  | .Sent _ accepted => accepted = false
  | _ => False

instance : DecidablePred Event.Refused
  | .Sent _ accepted => inferInstanceAs (Decidable (accepted = false))
  | .Call _ _ | .Clock _ | .Returned _ _ _ => inferInstanceAs (Decidable False)

/-- The sink accepts every command: the runs in which all that is sent also happens. -/
def AllAccepted (tr : List Event) : Prop := ∀ e ∈ tr, ¬ e.Refused

instance (tr : List Event) : Decidable (AllAccepted tr) :=
  inferInstanceAs (Decidable (∀ e ∈ tr, ¬ e.Refused))

lemma AllAccepted.of_append {tr seg : List Event} (h : AllAccepted (tr ++ seg)) : AllAccepted tr :=
  fun e he => h e (List.mem_append_left _ he)

lemma AllAccepted.of_cons {e : Event} {tr : List Event} (h : AllAccepted (e :: tr)) :
    AllAccepted tr :=
  fun e' he => h e' (List.mem_cons_of_mem _ he)

lemma AllAccepted.right {tr seg : List Event} (h : AllAccepted (tr ++ seg)) : AllAccepted seg :=
  fun e he => h e (List.mem_append_right _ he)

lemma not_allAccepted_command (id : ℤ) (type : CommandType) :
    ¬ AllAccepted [.command id type false] :=
  fun h => h _ (List.mem_singleton.mpr rfl) rfl

/-! ### Reading the events of a call -/

@[simp] lemma accepts_command (t type : CommandType) (id : ℤ) (accepted : Bool) :
    (Event.command id type accepted).Accepts t ↔ type = t ∧ accepted = true := Iff.rfl

@[simp] lemma accepts_call (t : CommandType) (op : Op) (m : RemoteStateMachine) :
    (Event.Call op m).Accepts t ↔ False := Iff.rfl

@[simp] lemma accepts_clock (t : CommandType) (now : ℤ) :
    (Event.Clock now).Accepts t ↔ False := Iff.rfl

@[simp] lemma accepts_returned (t : CommandType) (op : Op) (ok : Bool) (m : RemoteStateMachine) :
    (Event.Returned op ok m).Accepts t ↔ False := Iff.rfl

@[simp] lemma reportsFailure_command (c : ℤ) (type : CommandType) (id : ℤ) (accepted : Bool) :
    (Event.command id type accepted).ReportsFailure c ↔ False := Iff.rfl

@[simp] lemma reportsFailure_call (c : ℤ) (op : Op) (m : RemoteStateMachine) :
    (Event.Call op m).ReportsFailure c ↔
      ∃ code message, op = .ReportCommandResult c code message ∧ code ≠ 0 := by
  cases op <;> simp [Event.ReportsFailure, and_assoc, eq_comm]

@[simp] lemma reportsFailure_clock (c now : ℤ) :
    (Event.Clock now).ReportsFailure c ↔ False := Iff.rfl

@[simp] lemma reportsFailure_returned (c : ℤ) (op : Op) (ok : Bool) (m : RemoteStateMachine) :
    (Event.Returned op ok m).ReportsFailure c ↔ False := Iff.rfl

@[simp] lemma endsOutside_command (s : RemoteState) (type : CommandType) (id : ℤ)
    (accepted : Bool) : (Event.command id type accepted).EndsOutside s ↔ False := Iff.rfl

@[simp] lemma endsOutside_call (s : RemoteState) (op : Op) (m : RemoteStateMachine) :
    (Event.Call op m).EndsOutside s ↔ False := Iff.rfl

@[simp] lemma endsOutside_clock (s : RemoteState) (now : ℤ) :
    (Event.Clock now).EndsOutside s ↔ False := Iff.rfl

@[simp] lemma endsOutside_returned (s : RemoteState) (op : Op) (ok : Bool)
    (m : RemoteStateMachine) : (Event.Returned op ok m).EndsOutside s ↔ m.state ≠ s := Iff.rfl

lemma commandObligation_answers (opening : CommandType) (closing : List CommandType)
    (state : RemoteState) (c : ℤ) (type : CommandType) (accepted : Bool) (e : Event) :
    (commandObligation opening closing state).answers (.command c type accepted) e ↔
      (∃ type ∈ closing, e.Accepts type) ∨ e.ReportsFailure c := by
  constructor
  · rintro (h | ⟨command, accepted', h, hfail⟩)
    · exact Or.inl h
    · obtain ⟨rfl, -⟩ := Event.Sent.inj h
      exact Or.inr hfail
  · rintro (h | h)
    · exact Or.inl h
    · exact Or.inr ⟨_, _, rfl, h⟩

/-! ## The shutter -/

@[simp] lemma shutterHeld_opens (e : Event) : shutterHeld.opens e ↔ e.Accepts .Capture := Iff.rfl

@[simp] lemma shutterHeld_due (e : Event) :
    shutterHeld.due e ↔ e.Accepts .Capture ∨ e.EndsOutside .Capturing := Iff.rfl

@[simp] lemma shutterHeld_answers (c : ℤ) (type : CommandType) (accepted : Bool) (e : Event) :
    shutterHeld.answers (.command c type accepted) e ↔
      e.Accepts .ReleaseShutter ∨ e.ReportsFailure c := by
  rw [shutterHeld, commandObligation_answers]
  simp

/-- The operations that clear the schedule whatever is going on: the end of the session, and the loss
of the camera or of the network. -/
def Op.drops : Op → Bool
  | .Stop | .SetCameraReady false | .SetWifiReady false => true
  | _ => false

/-- One of these operations is called in the state `state`, where it forgets what is going on. -/
def Event.DropsIn (state : RemoteState) : Event → Prop
  | .Call op before => op.drops = true ∧ before.state = state
  | _ => False

instance (state : RemoteState) : DecidablePred (Event.DropsIn state)
  | .Call op before => inferInstanceAs (Decidable (op.drops = true ∧ before.state = state))
  | .Clock _ | .Sent _ _ | .Returned _ _ _ => inferInstanceAs (Decidable False)

/-- The capture that holds the shutter in this phase, as the set of open obligations: one at most. -/
def Phase.heldShutter : Phase → Set Event
  | Capturing c _ _ _ _ => {Event.command c .Capture true}
  | _ => ∅

lemma Phase.heldShutter_of_ne {p : Phase} (h : p.state ≠ .Capturing) : p.heldShutter = ∅ := by
  cases p with
  | Capturing c f ph r cd => exact absurd rfl h
  | _ => rfl

variable {config : NativeConfig} {n : ℤ} {p p' : Phase} {op : Op} {seg tr : List Event} {ok : Bool}
  {m m' : RemoteStateMachine}

lemma carriesShutter_capture {focus : ℤ} {physical : Bool}
    (heff : CaptureEffect config n focus physical seg p')
    (hacc : AllAccepted seg) :
    shutterHeld.Carries ∅ seg p'.heldShutter := by
  cases heff with
  | rejected => exact absurd hacc (not_allAccepted_command _ _)
  | accepted now => simp [Obligation.Carries, Phase.heldShutter]

lemma carriesShutter_cancel {focus : ℤ} (heff : CancelEffect n focus seg) :
    shutterHeld.Carries ∅ seg ∅ := by
  cases heff <;> simp [Obligation.Carries]

lemma carriesShutter_tick {now : ℤ} (heff : TickEffect config n now p seg p')
    (hacc : AllAccepted seg) :
    shutterHeld.Carries p.heldShutter seg p'.heldShutter := by
  cases heff with
  | rest _ => simp [Obligation.Carries]
  | focusRejected _ _ => exact absurd hacc (not_allAccepted_command _ _)
  | focus _ _ _ => simp [Obligation.Carries, Phase.heldShutter]
  | focusCapture _ _ _ hcap =>
      have hrest := carriesShutter_capture hcap hacc.of_cons
      simpa [Obligation.Carries, Phase.heldShutter] using hrest
  | capture _ _ hcap | captureFocusing _ hcap | captureHalfPress hcap =>
      exact carriesShutter_capture hcap hacc
  | releaseRejected _ => exact absurd hacc (not_allAccepted_command _ _)
  | release _ _ | releaseFinish _ _ | finish _ => simp [Obligation.Carries, Phase.heldShutter]

lemma carriesShutter_clock {now : ℤ} {p' : Phase} {seg : List Event}
    (h : shutterHeld.Carries p.heldShutter seg p'.heldShutter) :
    shutterHeld.Carries p.heldShutter (.Clock now :: seg) p'.heldShutter := by
  refine Obligation.Carries.append (s := [.Clock now]) ?_ h
  cases p <;> simp [Obligation.Carries, Phase.heldShutter]

/-- **A call that does not clear the schedule under a held shutter** leaves held what its phase
says. -/
lemma carriesShutter_call (hm : m.state = p.state) (hm' : m'.state = p'.state)
    (heff : Effect config n p op seg ok p') (hacc : AllAccepted seg)
    (hdrop : op.drops = true → p.state ≠ .Capturing) :
    shutterHeld.Carries p.heldShutter (.Call op m :: seg ++ [.Returned op ok m'])
      p'.heldShutter := by
  have returned : shutterHeld.Carries p'.heldShutter [.Returned op ok m'] p'.heldShutter := by
    cases p' <;> simp [Obligation.Carries, Phase.heldShutter, hm', Phase.state]
  have around : (∀ c, ¬ Event.ReportsFailure c (.Call op m)) →
      shutterHeld.Carries p.heldShutter seg p'.heldShutter →
      shutterHeld.Carries p.heldShutter (.Call op m :: seg ++ [.Returned op ok m'])
        p'.heldShutter := by
    intro hop h
    refine Obligation.Carries.append (s := .Call op m :: seg) ?_ returned
    refine Obligation.Carries.append (s := [.Call op m]) ?_ h
    cases p <;> simp [Obligation.Carries, Phase.heldShutter, -reportsFailure_call, hop]
  have nothing : ∀ {q : Phase}, q.heldShutter = ∅ → shutterHeld.Carries q.heldShutter [] ∅ :=
    fun hq => ⟨trivial, hq⟩
  -- the operations that drop the schedule find nothing held
  have dropped : op.drops = true → p.heldShutter = ∅ :=
    fun h => Phase.heldShutter_of_ne (hdrop h)
  cases heff with
  | quiet hq =>
      by_cases hreport : ∃ c, Event.ReportsFailure c (.Call op m)
      · obtain ⟨c, hc⟩ := hreport
        obtain ⟨code, message, rfl, hcode⟩ := (reportsFailure_call c op m).mp hc
        have hfails : ¬ p.failsOn c := hq.resolve_left hcode
        refine Obligation.Carries.append (s := [.Call _ m]) ?_ returned
        cases p with
        | Capturing c' f ph r cd =>
            have hne : c ≠ c' := hfails
            simp [Obligation.Carries, Phase.heldShutter, hne]
        | _ => simp [Obligation.Carries, Phase.heldShutter]
      · exact around (by simpa using hreport) ⟨trivial, rfl⟩
  | lifecycle hlife =>
      refine around ?_ ⟨trivial, rfl⟩
      cases op <;> simp [Op.lifecycle] at hlife ⊢
  | stop hcancel =>
      refine around (by simp) ?_
      rw [dropped rfl]
      exact carriesShutter_cancel hcancel
  | cameraLost | wifiLost => exact around (by simp) (nothing (dropped rfl))
  | request _ _ _ htick =>
      have hrest := carriesShutter_tick htick hacc.of_cons.of_cons
      refine around (by simp) ?_
      exact carriesShutter_clock (carriesShutter_clock hrest)
  | cancel hcan hcancel =>
      have hp : p.heldShutter = ∅ := by cases p <;> first | rfl | cases hcan
      refine around (by simp) ?_
      rw [hp]
      exact carriesShutter_cancel hcancel
  | focusRejected => exact absurd hacc (not_allAccepted_command _ _)
  | focusPress | focusRelease accepted =>
      refine around (by simp) ?_
      simp [Obligation.Carries, Phase.heldShutter]
  | press hpress _ hcap =>
      have hp : p.heldShutter = ∅ := by cases p <;> first | rfl | cases hpress
      refine around (by simp) ?_
      rw [hp]
      exact carriesShutter_capture hcap hacc
  | pressScheduled hsched hcancel hcap =>
      have hp : p.heldShutter = ∅ := by cases p <;> first | rfl | cases hsched
      refine around (by simp) ?_
      rw [hp]
      exact (carriesShutter_cancel hcancel).append
        (carriesShutter_capture hcap hacc.right)
  | unpress _ htick =>
      have hrest := carriesShutter_tick htick hacc.of_cons.of_cons
      refine around (by simp) ?_
      exact carriesShutter_clock (carriesShutter_clock hrest)
  | tick htick =>
      exact around (by simp) (carriesShutter_clock (carriesShutter_tick htick hacc.of_cons))
  | captureFailed hcode =>
      refine Obligation.Carries.append (s := [.Call _ m]) ?_ returned
      simp [Obligation.Carries, Phase.heldShutter, hcode]
  | captureFailedLate hcode | focusFailed hcode =>
      refine Obligation.Carries.append (s := [.Call _ m]) ?_ returned
      simp [Obligation.Carries, Phase.heldShutter]

/-- The shutter is still held when the schedule has been cleared under it. -/
lemma not_settles_shutter_dropped (hm : Rep config m p) (hm' : m'.state = p'.state)
    (heff : Effect config n p op seg ok p') (hdrop : op.drops = true)
    (hcap : p.state = .Capturing) :
    ¬ shutterHeld.Settles p.heldShutter (.Call op m :: seg ++ [.Returned op ok m']) := by
  cases p with
  | Capturing c f ph r cd =>
      cases heff with
      | stop hcancel => cases hcancel <;> simp [Phase.heldShutter, hm', Phase.state]
      | cameraLost | wifiLost => simp [Phase.heldShutter, hm', Phase.state]
      | quiet hq =>
          cases op with
          | Stop => cases hq
          | SetCameraReady ready | SetWifiReady ready =>
              rcases hq with rfl | hq
              · cases hdrop
              · cases hq
          | _ => cases hdrop
      | _ => cases hdrop
  | Idle s =>
      have hrest := RepIdle.resting hm.phase
      obtain rfl : s = .Capturing := hcap
      cases hrest
  | _ => cases hcap

/-! ### Runs -/

/-- What is true of no event inside a call is true of no event of the call but its two ends. -/
lemma forall_mem_call {Q : Event → Prop} (hinner : ∀ e ∈ seg, e.Inner)
    (hQ : ∀ e, e.Inner → Q e) (hreturned : Q (.Returned op ok m')) :
    (∀ e ∈ tr ++ (.Call op m :: seg ++ [.Returned op ok m']), Q e) ↔
      (∀ e ∈ tr, Q e) ∧ Q (.Call op m) := by
  constructor
  · intro h
    exact ⟨fun e he => h e (List.mem_append_left _ he), h _ (by simp)⟩
  · rintro ⟨htr, hcall⟩ e he
    simp only [List.cons_append, List.mem_append, List.mem_cons, List.not_mem_nil, or_false] at he
    rcases he with he | rfl | he | rfl
    · exact htr e he
    · exact hcall
    · exact hQ e (hinner e he)
    · exact hreturned

lemma not_dropsIn_of_inner {state : RemoteState} {e : Event} (he : e.Inner) :
    ¬ e.DropsIn state := by
  cases e with
  | Call _ _ | Returned _ _ _ => cases he
  | Clock _ | Sent _ _ => exact id

/-- The shutter of a history: it is always released in time exactly when nothing drops the schedule
while it is held, and what is open then is the capture of the phase. -/
lemma History.shutter (h : History config tr m p) (hacc : AllAccepted tr) :
    (shutterHeld.Discharged tr ↔ ∀ e ∈ tr, ¬ e.DropsIn .Capturing) ∧
      ((∀ e ∈ tr, ¬ e.DropsIn .Capturing) → shutterHeld.pending tr = p.heldShutter) := by
  induction h with
  | init => simp [Phase.heldShutter]
  | @call tr m m' p p' op seg ok hist hm hids hop heff hm' ih =>
      rw [List.append_assoc] at hacc ⊢
      obtain ⟨hdis, hpend⟩ := ih hacc.of_append
      have hseg : AllAccepted seg := hacc.right.of_cons.of_append
      rw [Obligation.discharged_append, hdis,
        forall_mem_call heff.inner (fun e => not_dropsIn_of_inner) id]
      by_cases hnever : ∀ e ∈ tr, ¬ e.DropsIn .Capturing
      · rw [hpend hnever]
        by_cases hdrop : Event.DropsIn .Capturing (.Call op m)
        · have hnot := not_settles_shutter_dropped hm hm'.state heff hdrop.1
            (hm.state.symm.trans hdrop.2)
          exact ⟨⟨fun h => absurd h.2 hnot, fun h => absurd hdrop h.2⟩,
            fun h => absurd hdrop h.2⟩
        · have hcarry := carriesShutter_call hm.state hm'.state heff hseg
            fun h h' => hdrop ⟨h, hm.state.trans h'⟩
          refine ⟨⟨fun h => ⟨h.1, hdrop⟩, fun h => ⟨h.1, hcarry.1⟩⟩, fun _ => ?_⟩
          rw [Obligation.pending_append, hpend hnever]
          exact hcarry.2
      · exact ⟨⟨fun h => absurd h.1 hnever, fun h => absurd h.1 hnever⟩,
          fun h => absurd h.1 hnever⟩

/-- **The shutter is released in time exactly when** neither `stop` nor the loss of the camera or the
Wi-Fi comes while the machine is capturing.  These three clear the deadline of the release without
sending it. -/
theorem shutter_released_iff (port : ℤ) (h : Run (configForPort port) tr m)
    (hacc : AllAccepted tr) :
    shutterHeld.Discharged tr ↔ ∀ e ∈ tr, ¬ e.DropsIn .Capturing := by
  obtain ⟨⟨p, hist⟩, -⟩ := h.history (configForPort_timing port)
  exact (hist.shutter hacc).1

/-- A photo at 1000 ms without autofocus, with `last` once the shutter is held. -/
def photoScript (last : List (ℤ × Op)) : List (ℤ × Op) :=
  [(1, .SetCameraReady true), (1, .SetWifiReady true), (1, .Start),
    (1000, .RequestCapture (bytes "a") 0 false)] ++ last

theorem shutter_released_by_tick :
    shutterHeld.Discharged (play {} [] {} (photoScript [(1400, .Tick)])).1 :=
  (shutter_released_iff 0 (Run.play _ .init (by decide)) (by decide)).mpr (by decide)

/-- The server is stopped while the shutter is held: nothing releases it, although every command is
accepted. -/
theorem shutter_not_released_by_stop :
    Run {} (play {} [] {} (photoScript [(1100, .Stop)])).1
        (play {} [] {} (photoScript [(1100, .Stop)])).2 ∧
      AllAccepted (play {} [] {} (photoScript [(1100, .Stop)])).1 ∧
      ¬ shutterHeld.Discharged (play {} [] {} (photoScript [(1100, .Stop)])).1 := by
  have hrun : Run (configForPort 0) (play {} [] {} (photoScript [(1100, .Stop)])).1 _ :=
    Run.play _ .init (by decide)
  have hacc : AllAccepted (play {} [] {} (photoScript [(1100, .Stop)])).1 := by decide
  refine ⟨hrun, hacc, fun hdis => ?_⟩
  obtain ⟨⟨p, hist⟩, -⟩ := hrun.history (configForPort_timing 0)
  have hnever := (hist.shutter hacc).1.mp hdis
  revert hnever
  decide

end LegacyAlpha
