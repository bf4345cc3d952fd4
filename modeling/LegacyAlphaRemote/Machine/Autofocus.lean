import LegacyAlphaRemote.Machine.Obligations

/-!
# The autofocus is given back

`autofocusRunning` asks that an autofocus is cancelled, or used by a capture, before the machine
ends a call outside `Focusing` and before the next autofocus.  `stop`, `cancelCountdown`,
`setFocus(false)` and `physicalShutter` do cancel it, and a tick captures; only the loss of the
camera or the Wi-Fi forgets it.

A half-press goes on when its autofocus fails, so that there the phase does not say what is open:
`FocusOpen p o` relates a phase to the autofocus that is still open, and the failing results in the
trace decide which it is (`History.autofocus`).
-/

namespace LegacyAlpha

open RemoteStateMachine TraceLogic

variable {config : NativeConfig} {n : ℤ} {p p' : Phase} {op : Op} {seg tr : List Event} {ok : Bool}
  {m m' : RemoteStateMachine} {o : Option ℤ}

@[simp] lemma autofocusRunning_opens (e : Event) :
    autofocusRunning.opens e ↔ e.Accepts .StartAutofocus := Iff.rfl

@[simp] lemma autofocusRunning_due (e : Event) :
    autofocusRunning.due e ↔ e.Accepts .StartAutofocus ∨ e.EndsOutside .Focusing := Iff.rfl

@[simp] lemma autofocusRunning_answers (c : ℤ) (type : CommandType) (accepted : Bool) (e : Event) :
    autofocusRunning.answers (.command c type accepted) e ↔
      (e.Accepts .CancelAutofocus ∨ e.Accepts .Capture) ∨ e.ReportsFailure c := by
  rw [autofocusRunning, commandObligation_answers]
  simp

/-! ## What is open -/

/-- The autofocus command of a phase in the state `Focusing`, which is the one that still runs for
nothing but the lens. -/
def Phase.running : Phase → Option ℤ
  | Focusing _ f | HalfPress f => some f
  | _ => none

/-- The open autofocus commands, at most one, as a set of obligations. -/
def openFocus : Option ℤ → Set Event
  | none => ∅
  | some f => {Event.command f .StartAutofocus true}

/-- Either the autofocus of the phase is open, or the phase is a half-press and nothing is. -/
def FocusOpen (p : Phase) (o : Option ℤ) : Prop :=
  o = p.running ∨ (o = none ∧ ∃ f, p = .HalfPress f)

lemma FocusOpen.eq_none (h : FocusOpen p o) (hp : p.running = none) : o = none := by
  rcases h with h | ⟨h, -⟩
  · exact h.trans hp
  · exact h

lemma FocusOpen.running_eq {f : ℤ} (h : FocusOpen p (some f)) : p.running = some f := by
  rcases h with h | ⟨h, -⟩
  · exact h.symm
  · cases h

lemma Phase.state_of_running {f : ℤ} (h : p.running = some f) : p.state = .Focusing := by
  cases p <;> first | rfl | cases h

lemma Rep.focusCommandId {f : ℤ} (hm : Rep config m p) (h : p.running = some f) :
    m.focusCommandId = f ∧ f ≠ 0 ∧ p.focusId = f := by
  cases p with
  | Focusing plan f' =>
      obtain rfl := Option.some.inj h
      exact ⟨RepFocusing.focusCommandId hm.phase, RepFocusing.focus_ne hm.phase, rfl⟩
  | HalfPress f' =>
      obtain rfl := Option.some.inj h
      exact ⟨RepHalfPress.focusCommandId hm.phase, RepHalfPress.focus_ne hm.phase, rfl⟩
  | _ => cases h

lemma Rep.running_of_focusing (hm : Rep config m p) (h : m.state = .Focusing) :
    ∃ f, p.running = some f := by
  rw [hm.state] at h
  cases p with
  | Focusing plan f | HalfPress f => exact ⟨f, rfl⟩
  | Idle s =>
      have hrest := RepIdle.resting hm.phase
      obtain rfl : s = .Focusing := h
      cases hrest
  | _ => cases h

/-! ## The parts of a call -/

/-- What a part of a call leaves open: the same as before, while the phase stays the same, or the
autofocus of the new phase, which is then the command `n`. -/
def LeavesFocus (n : ℤ) (p p' : Phase) (o : Option ℤ) (es : List Event) : Prop :=
  ∃ o', autofocusRunning.Carries (openFocus o) es (openFocus o') ∧
    ((p' = p ∧ o' = o) ∨ (o' = p'.running ∧ ∀ f, o' = some f → f = n))

lemma leavesFocus_none {es : List Event} (hp : p'.running = none)
    (h : autofocusRunning.Carries (openFocus o) es ∅) : LeavesFocus n p p' o es :=
  ⟨none, h, Or.inr ⟨hp.symm, by simp⟩⟩

lemma CaptureEffect.running {focus : ℤ} {physical : Bool}
    (h : CaptureEffect config n focus physical seg p') : p'.running = none := by
  cases h <;> rfl

lemma carriesFocus_capture {focus : ℤ} {physical : Bool}
    (heff : CaptureEffect config n focus physical seg p') (hacc : AllAccepted seg)
    (o : Option ℤ) : autofocusRunning.Carries (openFocus o) seg ∅ := by
  cases heff with
  | rejected => exact absurd hacc (not_allAccepted_command _ _)
  | accepted now => cases o <;> simp [Obligation.Carries, openFocus]

lemma carriesFocus_cancel {focus : ℤ} (heff : CancelEffect n focus seg) (hacc : AllAccepted seg)
    (h : focus = 0 → o = none) : autofocusRunning.Carries (openFocus o) seg ∅ := by
  cases heff with
  | none hzero =>
      rw [h hzero]
      exact ⟨trivial, rfl⟩
  | sent accepted _ =>
      cases accepted with
      | false => exact absurd hacc (not_allAccepted_command _ _)
      | true => cases o <;> simp [Obligation.Carries, openFocus]

lemma leavesFocus_tick {now : ℤ} (heff : TickEffect config n now p seg p') (hacc : AllAccepted seg)
    (hopen : FocusOpen p o) : LeavesFocus n p p' o seg := by
  cases heff with
  | rest _ => exact ⟨o, ⟨trivial, rfl⟩, Or.inl ⟨rfl, rfl⟩⟩
  | focusRejected _ _ | releaseRejected _ => exact absurd hacc (not_allAccepted_command _ _)
  | focus _ _ _ =>
      obtain rfl := hopen.eq_none rfl
      refine ⟨some n, ?_, Or.inr ⟨rfl, by simp⟩⟩
      simp [Obligation.Carries, openFocus]
  | focusCapture _ _ _ hcap =>
      obtain rfl := hopen.eq_none rfl
      refine leavesFocus_none hcap.running ?_
      refine Obligation.Carries.append (s := [.command n .StartAutofocus true])
        (b := openFocus (some n)) ?_ (carriesFocus_capture hcap hacc.of_cons _)
      simp [Obligation.Carries, openFocus]
  | capture _ _ hcap | captureFocusing _ hcap | captureHalfPress hcap =>
      exact leavesFocus_none hcap.running (carriesFocus_capture hcap hacc o)
  | release _ _ | releaseFinish _ _ | finish _ =>
      obtain rfl := hopen.eq_none rfl
      refine leavesFocus_none rfl ?_
      simp [Obligation.Carries, openFocus]

lemma carriesFocus_clock (now : ℤ) (o : Option ℤ) :
    autofocusRunning.Carries (openFocus o) [.Clock now] (openFocus o) := by
  cases o <;> simp [Obligation.Carries, openFocus]

lemma LeavesFocus.clock {now : ℤ} (h : LeavesFocus n p p' o seg) :
    LeavesFocus n p p' o (.Clock now :: seg) := by
  obtain ⟨o', hcarry, ho'⟩ := h
  exact ⟨o', Obligation.Carries.append (s := [.Clock now]) (carriesFocus_clock now o) hcarry, ho'⟩

/-! ## A call -/

/-- The operations that report a loss of readiness, and clear the schedule without a word to the
camera. -/
def Op.losesReadiness : Op → Bool
  | .SetCameraReady false | .SetWifiReady false => true
  | _ => false

/-- **A call that neither loses readiness under an open autofocus nor reports its failure.** -/
lemma leavesFocus_call (hm : Rep config m p) (hm' : m'.state = p'.state)
    (heff : Effect config n p op seg ok p') (hacc : AllAccepted seg) (hopen : FocusOpen p o)
    (hlost : op.losesReadiness = true → o = none)
    (hfail : ∀ c, Event.ReportsFailure c (.Call op m) → o ≠ some c) :
    LeavesFocus n p p' o (.Call op m :: seg ++ [.Returned op ok m']) := by
  have call : autofocusRunning.Carries (openFocus o) [.Call op m] (openFocus o) := by
    cases o with
    | none => simp [Obligation.Carries, openFocus]
    | some f =>
        have hnot : ¬ Event.ReportsFailure f (.Call op m) := fun h => hfail f h rfl
        simp [Obligation.Carries, openFocus, -reportsFailure_call, hnot]
  have returned : ∀ o', ((p' = p ∧ o' = o) ∨ (o' = p'.running ∧ ∀ f, o' = some f → f = n)) →
      autofocusRunning.Carries (openFocus o') [.Returned op ok m'] (openFocus o') := by
    intro o' ho'
    cases o' with
    | none => simp [Obligation.Carries, openFocus]
    | some f =>
        have hrunning : p'.running = some f := by
          rcases ho' with ⟨rfl, rfl⟩ | ⟨h, -⟩
          · exact hopen.running_eq
          · exact h.symm
        have hstate : m'.state = .Focusing := hm'.trans (Phase.state_of_running hrunning)
        simp [Obligation.Carries, openFocus, hstate]
  suffices h : LeavesFocus n p p' o seg by
    obtain ⟨o', hcarry, ho'⟩ := h
    exact ⟨o', Obligation.Carries.append (s := .Call op m :: seg)
      (Obligation.Carries.append (s := [.Call op m]) call hcarry) (returned o' ho'), ho'⟩
  have cancelled : p.focusId = 0 → o = none := by
    intro hzero
    cases o with
    | none => rfl
    | some f =>
        obtain ⟨-, hne, hid⟩ := hm.focusCommandId hopen.running_eq
        exact absurd (hid.symm.trans hzero) hne
  cases heff with
  | quiet _ => exact ⟨o, ⟨trivial, rfl⟩, Or.inl ⟨rfl, rfl⟩⟩
  | lifecycle _ =>
      obtain rfl := hopen.eq_none rfl
      exact leavesFocus_none rfl ⟨trivial, rfl⟩
  | stop hcancel | cancel _ hcancel =>
      exact leavesFocus_none rfl (carriesFocus_cancel hcancel hacc cancelled)
  | cameraLost | wifiLost =>
      obtain rfl := hlost rfl
      exact leavesFocus_none rfl ⟨trivial, rfl⟩
  | @request plan now seg p' _ _ _ htick =>
      obtain rfl := hopen.eq_none rfl
      have hrest := leavesFocus_tick htick hacc.of_cons.of_cons (o := none) (Or.inl rfl)
      obtain ⟨o', hcarry, ho'⟩ := hrest.clock.clock
      refine ⟨o', hcarry, ?_⟩
      rcases ho' with ⟨rfl, rfl⟩ | ho'
      · exact Or.inr ⟨rfl, by simp⟩
      · exact Or.inr ho'
  | focusRejected => exact absurd hacc (not_allAccepted_command _ _)
  | focusPress =>
      obtain rfl := hopen.eq_none rfl
      refine ⟨some n, ?_, Or.inr ⟨rfl, by simp⟩⟩
      simp [Obligation.Carries, openFocus]
  | focusRelease accepted =>
      refine leavesFocus_none rfl ?_
      cases accepted with
      | false => exact absurd hacc (not_allAccepted_command _ _)
      | true => cases o <;> simp [Obligation.Carries, openFocus]
  | press _ _ hcap => exact leavesFocus_none hcap.running (carriesFocus_capture hcap hacc o)
  | pressScheduled _ hcancel hcap =>
      refine leavesFocus_none hcap.running ?_
      exact (carriesFocus_cancel hcancel hacc.of_append cancelled).append
        (carriesFocus_capture hcap hacc.right none)
  | unpress _ htick =>
      obtain rfl := hopen.eq_none rfl
      have hrest := leavesFocus_tick htick hacc.of_cons.of_cons (o := none) (Or.inl rfl)
      obtain ⟨o', hcarry, ho'⟩ := hrest.clock.clock
      refine ⟨o', hcarry, ?_⟩
      rcases ho' with ⟨rfl, rfl⟩ | ho'
      · exact Or.inr ⟨rfl, by simp⟩
      · exact Or.inr ho'
  | tick htick => exact (leavesFocus_tick htick hacc.of_cons hopen).clock
  | captureFailed _ | captureFailedLate _ =>
      obtain rfl := hopen.eq_none rfl
      exact leavesFocus_none rfl ⟨trivial, rfl⟩
  | @focusFailed plan f code message hcode =>
      refine leavesFocus_none rfl ?_
      rcases hopen with rfl | ⟨rfl, -⟩
      · exact absurd rfl (hfail f (by simpa using hcode))
      · exact ⟨trivial, rfl⟩

/-- A failing result of the open autofocus closes it, and the machine goes on in a half-press or has
nothing running. -/
lemma carriesFocus_failed (m' : RemoteStateMachine) {f : ℤ} (heff : Effect config n p op seg ok p')
    (hopen : FocusOpen p (some f)) (hfail : Event.ReportsFailure f (.Call op m)) :
    autofocusRunning.Carries (openFocus (some f)) (.Call op m :: seg ++ [.Returned op ok m'])
        (openFocus none) ∧ (p' = .HalfPress f ∨ p'.running = none) := by
  obtain ⟨code, message, rfl, hcode⟩ := (reportsFailure_call f op m).mp hfail
  have hrunning := hopen.running_eq
  cases heff with
  | quiet hq =>
      refine ⟨by simp [Obligation.Carries, openFocus, hcode], ?_⟩
      cases p with
      | Focusing plan f' =>
          obtain rfl := Option.some.inj hrunning
          exact absurd rfl (hq.resolve_left hcode)
      | HalfPress f' =>
          obtain rfl := Option.some.inj hrunning
          exact Or.inl rfl
      | _ => cases hrunning
  | focusFailed _ => exact ⟨by simp [Obligation.Carries, openFocus, hcode], Or.inr rfl⟩
  | captureFailed _ | captureFailedLate _ => cases hrunning
  | lifecycle hlife => cases hlife

/-- The autofocus is still open when readiness is lost under it. -/
lemma not_settles_focus_lost {f : ℤ} (hm' : m'.state = p'.state)
    (heff : Effect config n p op seg ok p') (hopen : FocusOpen p (some f))
    (hlost : op.losesReadiness = true) :
    ¬ autofocusRunning.Settles (openFocus (some f))
      (.Call op m :: seg ++ [.Returned op ok m']) := by
  have hrunning := hopen.running_eq
  cases heff with
  | cameraLost | wifiLost => simp [openFocus, hm', Phase.state]
  | quiet hq =>
      cases op with
      | SetCameraReady ready | SetWifiReady ready =>
          rcases hq with rfl | rfl
          · cases hlost
          · cases hrunning
      | _ => cases hlost
  | lifecycle _ => cases hrunning
  | _ => cases hlost

/-! ## Runs -/

/-- Readiness is lost in the state `Focusing`, and no failing result has been reported for the
autofocus that runs there. -/
def LosesFocus (past : List Event) : Event → Prop
  | .Call op before => op.losesReadiness = true ∧ before.state = .Focusing ∧
      ∀ e ∈ past, ¬ e.ReportsFailure before.focusCommandId
  | _ => False

instance (past : List Event) : DecidablePred (LosesFocus past)
  | .Call op before => inferInstanceAs (Decidable (op.losesReadiness = true ∧
      before.state = .Focusing ∧ ∀ e ∈ past, ¬ e.ReportsFailure before.focusCommandId))
  | .Clock _ | .Sent _ _ | .Returned _ _ _ => inferInstanceAs (Decidable False)

lemma not_losesFocus_of_inner {past : List Event} {e : Event} (he : e.Inner) :
    ¬ LosesFocus past e := by
  cases e with
  | Call _ _ | Returned _ _ _ => cases he
  | Clock _ | Sent _ _ => exact id

lemma alwaysFrom_call (hinner : ∀ e ∈ seg, e.Inner) :
    AlwaysFrom (fun past e => ¬ LosesFocus past e) tr (.Call op m :: seg ++ [.Returned op ok m']) ↔
      ¬ LosesFocus tr (.Call op m) := by
  rw [List.cons_append, alwaysFrom_cons]
  refine and_iff_left (AlwaysFrom.of_forall_mem fun past e he => ?_)
  rcases List.mem_append.mp he with he | he
  · exact not_losesFocus_of_inner (hinner e he)
  · rw [List.mem_singleton.mp he]
    exact id

/-- A call adds the failing result it reports, if it reports one. -/
lemma exists_reportsFailure_call (hinner : ∀ e ∈ seg, e.Inner) (c : ℤ) :
    (∃ e ∈ tr ++ (.Call op m :: seg ++ [.Returned op ok m']), e.ReportsFailure c) ↔
      (∃ e ∈ tr, e.ReportsFailure c) ∨ Event.ReportsFailure c (.Call op m) := by
  constructor
  · rintro ⟨e, he, hfail⟩
    simp only [List.cons_append, List.mem_append, List.mem_cons, List.not_mem_nil, or_false] at he
    rcases he with he | rfl | he | rfl
    · exact Or.inl ⟨e, he, hfail⟩
    · exact Or.inr hfail
    · cases e with
      | Call _ _ => exact absurd (hinner _ he) id
      | Clock _ | Sent _ _ | Returned _ _ _ => cases hfail
    · cases hfail
  · rintro (⟨e, he, hfail⟩ | hfail)
    · exact ⟨e, List.mem_append_left _ he, hfail⟩
    · exact ⟨_, by simp, hfail⟩

/-- Results are reported for commands that have been sent. -/
lemma History.reported (h : History config tr m p) {c : ℤ} :
    (∃ e ∈ tr, e.ReportsFailure c) → ∃ e ∈ tr, e.Carries c := by
  induction h with
  | init => simp
  | @call tr m m' p p' op seg ok hist hm hids hop heff hm' ih =>
      rw [List.append_assoc, exists_reportsFailure_call heff.inner]
      intro hreported
      have hbefore : ∃ e ∈ tr, e.Carries c := by
        rcases hreported with h | h
        · exact ih h
        · obtain ⟨code, message, rfl, -⟩ := (reportsFailure_call c op m).mp h
          exact hop
      obtain ⟨e, he, hc⟩ := hbefore
      exact ⟨e, List.mem_append_left _ he, hc⟩

/-- No failing result is reported for the command that is sent next. -/
lemma not_reported_next (hist : History config tr m p) (hop : op.Allowed tr)
    (hids : ∀ command accepted, .Sent command accepted ∈ tr →
      0 < command.id ∧ command.id < m.nextCommandId) :
    ¬ ((∃ e ∈ tr, e.ReportsFailure m.nextCommandId) ∨
      Event.ReportsFailure m.nextCommandId (.Call op m)) := by
  intro hreported
  have hcarried : ∃ e ∈ tr, e.Carries m.nextCommandId := by
    rcases hreported with h | h
    · exact hist.reported h
    · obtain ⟨code, message, rfl, -⟩ := (reportsFailure_call _ op m).mp h
      exact hop
  obtain ⟨e, he, hc⟩ := hcarried
  cases e with
  | Sent command accepted =>
      have hlt := (hids command accepted he).2
      have heq : command.id = m.nextCommandId := hc
      omega
  | Call _ _ | Clock _ | Returned _ _ _ => cases hc

/-- What is open after a history: the autofocus that the phase knows, or none when the camera has
reported that it failed. -/
def FocusHistory (tr : List Event) (p : Phase) : Prop :=
  ∃ o, autofocusRunning.pending tr = openFocus o ∧ FocusOpen p o ∧
    ∀ f, p.running = some f → (o = none ↔ ∃ e ∈ tr, e.ReportsFailure f)

/-- The autofocus of a history: it is always given back exactly when no call loses it, and what is
open then is known. -/
lemma History.autofocus (h : History config tr m p) (hacc : AllAccepted tr) :
    (autofocusRunning.Discharged tr ↔ Always (fun past e => ¬ LosesFocus past e) tr) ∧
      (autofocusRunning.Discharged tr → FocusHistory tr p) := by
  induction h with
  | init =>
      refine ⟨by simp, fun _ => ⟨none, ?_, Or.inl rfl, by simp [Phase.running]⟩⟩
      simp [openFocus]
  | @call tr m m' p p' op seg ok hist hm hids hop heff hm' ih =>
      rw [List.append_assoc] at hacc ⊢
      obtain ⟨hdis, hhist⟩ := ih hacc.of_append
      have hseg : AllAccepted seg := hacc.right.of_cons.of_append
      rw [Obligation.discharged_append, always_append, ← hdis, alwaysFrom_call heff.inner]
      by_cases hbefore : autofocusRunning.Discharged tr
      swap
      · exact ⟨⟨fun h => absurd h.1 hbefore, fun h => absurd h.1 hbefore⟩,
          fun h => absurd h.1 hbefore⟩
      obtain ⟨o, hpend, hopen, hfailed⟩ := hhist hbefore
      rw [hpend]
      by_cases hlost : LosesFocus tr (.Call op m)
      · obtain ⟨f, hf⟩ := hm.running_of_focusing hlost.2.1
        obtain ⟨hid, -, -⟩ := hm.focusCommandId hf
        have hopen' : FocusOpen p (some f) := Or.inl hf.symm
        have ho : o = some f := by
          rcases hopen with h | ⟨h, -⟩
          · exact h.trans hf
          · obtain ⟨e, he, hfail⟩ := (hfailed f hf).mp h
            exact absurd (hid ▸ hfail) (hlost.2.2 e he)
        have hnot := not_settles_focus_lost (m := m) hm'.state heff hopen' hlost.1
        rw [ho]
        exact ⟨⟨fun h => absurd h.2 hnot, fun h => absurd hlost h.2⟩, fun h => absurd h.2 hnot⟩
      · by_cases hfail : ∃ f, o = some f ∧ Event.ReportsFailure f (.Call op m)
        · obtain ⟨f, rfl, hfail⟩ := hfail
          obtain ⟨hcarry, hp'⟩ := carriesFocus_failed m' heff hopen hfail
          refine ⟨⟨fun h => ⟨h.1, hlost⟩, fun h => ⟨h.1, hcarry.1⟩⟩, fun _ => ⟨none, ?_, ?_, ?_⟩⟩
          · rw [Obligation.pending_append, hpend]
            exact hcarry.2
          · exact hp'.elim (fun h => Or.inr ⟨rfl, f, h⟩) fun h => Or.inl h.symm
          · intro f' hf'
            rw [exists_reportsFailure_call heff.inner]
            rcases hp' with rfl | h
            · obtain rfl := Option.some.inj hf'
              simp only [hfail, or_true]
            · rw [h] at hf'
              cases hf'
        · have hkept : op.losesReadiness = true → o = none := by
            intro h
            cases o with
            | none => rfl
            | some f =>
                have hf := hopen.running_eq
                refine absurd ⟨h, hm.state.trans (Phase.state_of_running hf), fun e he hr => ?_⟩ hlost
                rw [(hm.focusCommandId hf).1] at hr
                cases (hfailed f hf).mpr ⟨e, he, hr⟩
          obtain ⟨o', hcarry, ho'⟩ := leavesFocus_call hm hm'.state heff hseg hopen hkept
            fun c hc ho => hfail ⟨c, ho, hc⟩
          refine ⟨⟨fun h => ⟨h.1, hlost⟩, fun h => ⟨h.1, hcarry.1⟩⟩, fun _ => ⟨o', ?_, ?_, ?_⟩⟩
          · rw [Obligation.pending_append, hpend]
            exact hcarry.2
          · rcases ho' with ⟨rfl, rfl⟩ | ⟨h, -⟩
            · exact hopen
            · exact Or.inl h
          · intro f hf
            rw [exists_reportsFailure_call heff.inner]
            rcases ho' with ⟨rfl, rfl⟩ | ⟨h, hnext⟩
            · rw [hfailed f hf]
              refine (or_iff_left_of_imp fun hr => ?_).symm
              by_contra hnone
              refine hfail ⟨f, ?_, hr⟩
              rcases hopen with h | ⟨h, -⟩
              · exact h.trans hf
              · exact absurd ((hfailed f hf).mp h) hnone
            · have ho : o' = some f := h.trans hf
              obtain rfl : f = m.nextCommandId := hnext f ho
              simp only [ho, reduceCtorEq, false_iff]
              exact not_reported_next hist hop hids

/-- **The autofocus is given back in time exactly when** no loss of the camera or the Wi-Fi comes
while the machine is focusing, except in a half-press whose autofocus has been reported failed.  The
loss clears the schedule, and with it the flag by which the machine knows that the lens is still
driven. -/
theorem autofocus_given_back_iff (port : ℤ) (h : Run (configForPort port) tr m)
    (hacc : AllAccepted tr) :
    autofocusRunning.Discharged tr ↔ Always (fun past e => ¬ LosesFocus past e) tr := by
  obtain ⟨⟨p, hist⟩, -⟩ := h.history (configForPort_timing port)
  exact (hist.autofocus hacc).1

theorem autofocus_given_back_by_stop :
    autofocusRunning.Discharged (play {} [] {} (halfPressScript [(1100, .Stop)])).1 :=
  (autofocus_given_back_iff 0 (Run.play _ .init (by decide)) (by decide)).mpr
    ((always_iff_alwaysFrom _ _).mpr (by decide))

/-- The camera is lost while the button is half-pressed: nothing cancels the autofocus, although every
command is accepted. -/
theorem autofocus_not_given_back_by_setCameraReady :
    Run {} (play {} [] {} (halfPressScript [(1100, .SetCameraReady false)])).1
        (play {} [] {} (halfPressScript [(1100, .SetCameraReady false)])).2 ∧
      AllAccepted (play {} [] {} (halfPressScript [(1100, .SetCameraReady false)])).1 ∧
      ¬ autofocusRunning.Discharged
        (play {} [] {} (halfPressScript [(1100, .SetCameraReady false)])).1 := by
  have hrun : Run (configForPort 0)
      (play {} [] {} (halfPressScript [(1100, .SetCameraReady false)])).1 _ :=
    Run.play _ .init (by decide)
  have hacc : AllAccepted (play {} [] {} (halfPressScript [(1100, .SetCameraReady false)])).1 := by
    decide
  refine ⟨hrun, hacc, fun hdis => ?_⟩
  obtain ⟨⟨p, hist⟩, -⟩ := hrun.history (configForPort_timing 0)
  have hnever := (always_iff_alwaysFrom _ _).mp ((hist.autofocus hacc).1.mp hdis)
  revert hnever
  decide

end LegacyAlpha
