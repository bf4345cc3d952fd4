import LegacyAlphaRemote.Machine.Obligations

/-!
# Every capture is asked for

A `Capture` is justified by the press of the physical shutter that is running, or by a request that
is still live: accepted, its time come, and not cancelled, pre-empted, failed or dropped since.
`CapturesJustified` says that each `Capture` of a trace has exactly one such justification and that
no two share one.

The machine breaks this in one way: a tick in a half-press takes a photo, since the deadline of a
capture that nobody has asked for is `0` and has always passed.  `capturesJustified_iff` says that
it breaks it in no other way.
-/

namespace LegacyAlpha

open RemoteStateMachine TraceLogic

variable {config : NativeConfig} {n : ℤ} {p p' : Phase} {op : Op} {seg tr : List Event} {ok : Bool}
  {m m' : RemoteStateMachine}

/-! ## Requests -/

/-- The request `plan` was accepted in the call that is event number `j`, and `since` has happened
since.  A request that is refused does not read the clock, so an accepted one shows as its call and
the reading that becomes `madeAt`. -/
def Requested (past : List Event) (j : ℕ) (plan : Plan) (since : List Event) : Prop :=
  ∃ x before, past = x ++ .Call (.RequestCapture plan.requestId plan.delayMs plan.autofocus) before
    :: .Clock plan.madeAt :: since ∧ x.length = j

/-- What ends a request, `since` having happened since it was accepted: its capture, any refused
command (the machine fails), the operations that drop it, a press of the shutter, a failing result of
a command sent for it, and a successful cancellation. -/
def Ends (since : List Event) : Event → Prop
  | .Sent command accepted => command.type = .Capture ∨ accepted = false
  | .Call op before => op.drops = true ∨ op = .PhysicalShutter true ∨
      ∃ c, Event.ReportsFailure c (.Call op before) ∧ ∃ e ∈ since, e.Carries c
  | .Returned op ok _ => op = .CancelCountdown ∧ ok = true
  | .Clock _ => False

/-- An accepted request that nothing has ended: no capture, no cancellation, no failure, no stop, and
no press that takes its place. -/
def Live (past : List Event) (j : ℕ) (plan : Plan) (since : List Event) : Prop :=
  Requested past j plan since ∧ Always (fun before e => ¬ Ends before e) since

/-- The last reading of the clock, if there is one. -/
def lastReading (past : List Event) : Option ℤ :=
  (past.filterMap fun | .Clock now => some now | _ => none).getLast?

/-- A `Capture` is handed to the sink, which may refuse it. -/
def Event.IsCapture : Event → Prop
  | .Sent command _ => command.type = .Capture
  | _ => False

/-- **What justifies a capture** after the events `past`: the press that is running and has not
captured, or a live request whose time has come.  Event number `j` is the call that made it. -/
def JustifiedBy (config : NativeConfig) (past : List Event) (j : ℕ) : Prop :=
  (∃ x before inside, past = x ++ .Call (.PhysicalShutter true) before :: inside ∧ x.length = j ∧
    ∀ e ∈ inside, e.Inner ∧ ¬ e.IsCapture) ∨
  ∃ plan since now, Live past j plan since ∧ lastReading past = some now ∧
    plan.captureAt config ≤ now

/-- A user asks for a capture, on the phone or with the button, be it granted or not. -/
def Event.AsksForCapture : Event → Prop
  | .Call (.RequestCapture _ _ _) _ | .Call (.PhysicalShutter true) _ => True
  | _ => False

/-- **Every capture is asked for**, by one request or press, by which no other capture is, and by
nothing else. -/
structure CapturesJustified (config : NativeConfig) (tr : List Event) : Prop where
  justified : Always (fun past e => e.IsCapture → ∃! j, JustifiedBy config past j) tr
  once : ∀ past e between e' future, tr = past ++ e :: between ++ e' :: future →
    e.IsCapture → e'.IsCapture →
    ∀ j, JustifiedBy config past j → ¬ JustifiedBy config (past ++ e :: between) j
  asked : (∀ e ∈ tr, ¬ e.AsksForCapture) → ∀ e ∈ tr, ¬ e.IsCapture

/-! ## Events that end no request, and events that end any -/

def Harmless (e : Event) : Prop := ∀ since, ¬ Ends since e

def Fatal (e : Event) : Prop := ∀ since, Ends since e

lemma harmless_clock (now : ℤ) : Harmless (.Clock now) := fun _ => id

lemma harmless_command {type : CommandType} (id : ℤ) (h : type ≠ .Capture) :
    Harmless (.command id type true) := by
  rintro since (h' | h')
  · exact h h'
  · cases h'

lemma harmless_returned (m : RemoteStateMachine) (h : ¬ (op = .CancelCountdown ∧ ok = true)) :
    Harmless (.Returned op ok m) := fun _ => h

lemma harmless_call (m : RemoteStateMachine) (hdrop : op.drops = false)
    (hpress : op ≠ .PhysicalShutter true)
    (hreport : ∀ c, ¬ Event.ReportsFailure c (.Call op m)) : Harmless (.Call op m) := by
  rintro since (h | h | ⟨c, h, -⟩)
  · rw [hdrop] at h
    cases h
  · exact hpress h
  · exact hreport c h

lemma fatal_capture (id : ℤ) (accepted : Bool) : Fatal (.command id .Capture accepted) :=
  fun _ => Or.inl rfl

lemma fatal_refused (id : ℤ) (type : CommandType) : Fatal (.command id type false) :=
  fun _ => Or.inr rfl

lemma fatal_press (m : RemoteStateMachine) : Fatal (.Call (.PhysicalShutter true) m) :=
  fun _ => Or.inr (Or.inl rfl)

lemma fatal_drop (m : RemoteStateMachine) (h : op.drops = true) : Fatal (.Call op m) :=
  fun _ => Or.inl h

lemma alwaysFrom_of_harmless {es : List Event} (h : ∀ e ∈ es, Harmless e) (since : List Event) :
    AlwaysFrom (fun before e => ¬ Ends before e) since es :=
  AlwaysFrom.of_forall_mem fun before e he => h e he before

lemma not_alwaysFrom_of_fatal {es : List Event} (h : ∃ e ∈ es, Fatal e) (since : List Event) :
    ¬ AlwaysFrom (fun before e => ¬ Ends before e) since es := by
  obtain ⟨e, he, hfatal⟩ := h
  obtain ⟨a, b, rfl⟩ := List.append_of_mem he
  intro halways
  exact (alwaysFrom_iff _ _ _).mp halways a e b rfl (hfatal _)

/-! ## What a call does to the live requests -/

lemma append_call_inj {x y b c : List Event} {o o' : Op} {mx my : RemoteStateMachine}
    (hb : ∀ e ∈ b, e.Inner) (hc : ∀ e ∈ c, e.Inner)
    (h : x ++ .Call o mx :: b = y ++ .Call o' my :: c) : x = y ∧ o = o' ∧ b = c := by
  rcases List.append_eq_append_iff.mp h with ⟨d, rfl, hd⟩ | ⟨d, rfl, hd⟩
  · cases d with
    | nil =>
        obtain ⟨he, rfl⟩ := List.cons.inj hd
        obtain ⟨rfl, -⟩ := Event.Call.inj he
        exact ⟨by simp, rfl, rfl⟩
    | cons e d =>
        obtain ⟨-, rfl⟩ := List.cons.inj hd
        exact absurd (hb (.Call o' my) (by simp)) id
  · cases d with
    | nil =>
        obtain ⟨he, rfl⟩ := List.cons.inj hd
        obtain ⟨rfl, -⟩ := Event.Call.inj he
        exact ⟨by simp, rfl, rfl⟩
    | cons e d =>
        obtain ⟨-, rfl⟩ := List.cons.inj hd
        exact absurd (hc (.Call o mx) (by simp)) id

/-- The requests accepted before a call or in it. -/
lemma requested_call {rest : List Event} (hrest : ∀ o b, .Call o b ∉ rest) (j : ℕ) (plan : Plan)
    (since : List Event) :
    Requested (tr ++ .Call op m :: rest) j plan since ↔
      (∃ s, Requested tr j plan s ∧ since = s ++ .Call op m :: rest) ∨
      (op = .RequestCapture plan.requestId plan.delayMs plan.autofocus ∧
        rest = .Clock plan.madeAt :: since ∧ j = tr.length) := by
  constructor
  · rintro ⟨x, before, h, rfl⟩
    rcases List.append_eq_append_iff.mp h with ⟨d, rfl, hd⟩ | ⟨d, rfl, hd⟩
    · cases d with
      | nil =>
          obtain ⟨he, rfl⟩ := List.cons.inj hd
          obtain ⟨rfl, -⟩ := Event.Call.inj he
          exact Or.inr ⟨rfl, rfl, by simp⟩
      | cons e d =>
          obtain ⟨-, rfl⟩ := List.cons.inj hd
          exact absurd (List.mem_append_right d List.mem_cons_self) (hrest _ _)
    · cases d with
      | nil =>
          obtain ⟨he, rfl⟩ := List.cons.inj hd
          obtain ⟨rfl, -⟩ := Event.Call.inj he
          exact Or.inr ⟨rfl, rfl, by simp⟩
      | cons e d =>
          obtain ⟨rfl, hd'⟩ := List.cons.inj hd
          cases d with
          | nil => cases (List.cons.inj hd').1
          | cons e d =>
              obtain ⟨rfl, rfl⟩ := List.cons.inj hd'
              exact Or.inl ⟨d, ⟨x, before, rfl, rfl⟩, rfl⟩
  · rintro (⟨s, ⟨x, before, rfl, rfl⟩, rfl⟩ | ⟨rfl, rfl, rfl⟩)
    · exact ⟨x, before, by simp, rfl⟩
    · exact ⟨tr, m, rfl, rfl⟩

/-- The live requests after a call: those that survive it, and the one accepted in it. -/
lemma live_call {rest : List Event} (hrest : ∀ o b, .Call o b ∉ rest) (j : ℕ) (plan : Plan)
    (since : List Event) :
    Live (tr ++ .Call op m :: rest) j plan since ↔
      (∃ s, Live tr j plan s ∧ since = s ++ .Call op m :: rest ∧
        AlwaysFrom (fun before e => ¬ Ends before e) s (.Call op m :: rest)) ∨
      (op = .RequestCapture plan.requestId plan.delayMs plan.autofocus ∧
        rest = .Clock plan.madeAt :: since ∧ j = tr.length ∧
        Always (fun before e => ¬ Ends before e) since) := by
  rw [Live, requested_call hrest]
  constructor
  · rintro ⟨⟨s, hs, rfl⟩ | ⟨hop, hclock, hj⟩, hlive⟩
    · obtain ⟨hlive, hfrom⟩ := (always_append _ _ _).mp hlive
      exact Or.inl ⟨s, ⟨hs, hlive⟩, rfl, hfrom⟩
    · exact Or.inr ⟨hop, hclock, hj, hlive⟩
  · rintro (⟨s, ⟨hs, hlive⟩, rfl, hfrom⟩ | ⟨hop, hclock, hj, hlive⟩)
    · exact ⟨Or.inl ⟨s, hs, rfl⟩, (always_append _ _ _).mpr ⟨hlive, hfrom⟩⟩
    · exact ⟨Or.inr ⟨hop, hclock, hj⟩, hlive⟩

/-- The ids of the commands in a list of events, in the order in which they were sent. -/
def sentIds (es : List Event) : List ℤ :=
  es.filterMap fun | .Sent command _ => some command.id | _ => none

lemma mem_sentIds {es : List Event} {c : ℤ} : c ∈ sentIds es ↔ ∃ e ∈ es, e.Carries c := by
  rw [sentIds, List.mem_filterMap]
  refine exists_congr fun e => and_congr_right fun _ => ?_
  cases e <;> simp [Event.Carries]

/-- The request a phase waits for, with the ids of the commands sent for it. -/
def Phase.request : Phase → Option (Plan × List ℤ)
  | Countdown plan => some (plan, [])
  | Focusing plan f => some (plan, [f])
  | _ => none

/-- **The live requests of a trace are those of the phase**: the one it waits for, or none. -/
def Tracks (tr : List Event) (p : Phase) : Prop :=
  match p.request with
  | none => ∀ j plan since, ¬ Live tr j plan since
  | some (plan, ids) => ∃ j since, sentIds since = ids ∧
      ∀ j' plan' since', Live tr j' plan' since' ↔ j' = j ∧ plan' = plan ∧ since' = since

lemma tracks_none (hp : p.request = none) : Tracks tr p ↔ ∀ j plan since, ¬ Live tr j plan since := by
  simp only [Tracks, hp]

lemma tracks_some {plan : Plan} {ids : List ℤ} (hp : p.request = some (plan, ids)) :
    Tracks tr p ↔ ∃ j since, sentIds since = ids ∧
      ∀ j' plan' since', Live tr j' plan' since' ↔ j' = j ∧ plan' = plan ∧ since' = since := by
  simp only [Tracks, hp]

section Call

variable {rest : List Event}

/-- A call that accepts no request and ends whatever is live leaves nothing live. -/
lemma not_live_of_fatal (hrest : ∀ o b, .Call o b ∉ rest) (hnew : ∀ now s, rest = .Clock now :: s →
      ∀ id d a, op ≠ .RequestCapture id d a)
    (hfatal : ∃ e ∈ .Call op m :: rest, Fatal e) (j : ℕ) (plan : Plan) (since : List Event) :
    ¬ Live (tr ++ .Call op m :: rest) j plan since := by
  rw [live_call hrest]
  rintro (⟨s, -, -, hfrom⟩ | ⟨hop, hclock, -, -⟩)
  · exact not_alwaysFrom_of_fatal hfatal s hfrom
  · exact hnew _ _ hclock _ _ _ hop

/-- When nothing is live, a call that accepts no request leaves nothing live. -/
lemma not_live_of_none (hrest : ∀ o b, .Call o b ∉ rest) (hnew : ∀ now s, rest = .Clock now :: s →
      ∀ id d a, op ≠ .RequestCapture id d a)
    (hnone : ∀ j plan since, ¬ Live tr j plan since) (j : ℕ) (plan : Plan) (since : List Event) :
    ¬ Live (tr ++ .Call op m :: rest) j plan since := by
  rw [live_call hrest]
  rintro (⟨s, hlive, -, -⟩ | ⟨hop, hclock, -, -⟩)
  · exact hnone _ _ _ hlive
  · exact hnew _ _ hclock _ _ _ hop

/-- A call that accepts no request and ends nothing keeps what is live. -/
lemma live_of_harmless (hrest : ∀ o b, .Call o b ∉ rest) (hnew : ∀ now s, rest = .Clock now :: s →
      ∀ id d a, op ≠ .RequestCapture id d a) {j : ℕ} {plan : Plan} {since : List Event}
    (honly : ∀ j' plan' since', Live tr j' plan' since' ↔ j' = j ∧ plan' = plan ∧ since' = since)
    (hcall : ¬ Ends since (.Call op m)) (hharmless : ∀ e ∈ rest, Harmless e) (j' : ℕ) (plan' : Plan)
    (since' : List Event) :
    Live (tr ++ .Call op m :: rest) j' plan' since' ↔
      j' = j ∧ plan' = plan ∧ since' = since ++ .Call op m :: rest := by
  rw [live_call hrest]
  constructor
  · rintro (⟨s, hlive, rfl, -⟩ | ⟨hop, hclock, -, -⟩)
    · obtain ⟨rfl, rfl, rfl⟩ := (honly _ _ _).mp hlive
      exact ⟨rfl, rfl, rfl⟩
    · exact absurd hop (hnew _ _ hclock _ _ _)
  · rintro ⟨rfl, rfl, rfl⟩
    exact Or.inl ⟨since, (honly _ _ _).mpr ⟨rfl, rfl, rfl⟩, rfl, hcall,
      alwaysFrom_of_harmless hharmless _⟩

end Call

/-! ## Phases follow the requests -/

lemma CaptureEffect.request {focus : ℤ} {physical : Bool}
    (h : CaptureEffect config n focus physical seg p') : p'.request = none := by
  cases h <;> rfl

lemma CaptureEffect.fatal {focus : ℤ} {physical : Bool}
    (h : CaptureEffect config n focus physical seg p') : ∃ e ∈ seg, Fatal e := by
  cases h with
  | rejected => exact ⟨_, by simp, fatal_capture n false⟩
  | accepted now => exact ⟨_, by simp, fatal_capture n true⟩

lemma TickEffect.request_none {now : ℤ} (h : TickEffect config n now p seg p')
    (hp : p.request = none) : p'.request = none := by
  cases h with
  | rest _ => exact hp
  | capture _ _ hcap | captureFocusing _ hcap | captureHalfPress hcap | focusCapture _ _ _ hcap =>
      exact hcap.request
  | focus _ _ _ => cases hp
  | _ => rfl

/-- A tick ends the request it acts on, or goes on with it. -/
lemma TickEffect.request_some {now : ℤ} {plan : Plan} {ids : List ℤ}
    (h : TickEffect config n now p seg p') (hp : p.request = some (plan, ids)) :
    (p'.request = none ∧ ∃ e ∈ seg, Fatal e) ∨
      (p'.request = some (plan, ids ++ sentIds seg) ∧ ∀ e ∈ seg, Harmless e) := by
  cases h with
  | rest _ => exact Or.inr ⟨by simpa [sentIds] using hp, by simp⟩
  | focusRejected _ _ => exact Or.inl ⟨rfl, _, List.mem_cons_self, fatal_refused n _⟩
  | focus _ _ _ =>
      refine Or.inr ⟨?_, ?_⟩
      · simp only [Phase.request, Option.some.injEq, Prod.mk.injEq] at hp
        obtain ⟨rfl, rfl⟩ := hp
        simp [Phase.request, sentIds, Event.command]
      · intro e he
        rw [List.mem_singleton.mp he]
        exact harmless_command n (by simp)
  | focusCapture _ _ _ hcap =>
      obtain ⟨e, he, hfatal⟩ := hcap.fatal
      exact Or.inl ⟨hcap.request, e, List.mem_cons_of_mem _ he, hfatal⟩
  | capture _ _ hcap | captureFocusing _ hcap => exact Or.inl ⟨hcap.request, hcap.fatal⟩
  | captureHalfPress _ | releaseRejected _ | release _ _ | releaseFinish _ _ | finish _ => cases hp

/-- A call that does nothing ends no request. -/
lemma Quiet.not_ends (m m' : RemoteStateMachine) {plan : Plan} {ids : List ℤ} {since : List Event}
    (hq : Quiet p op ok) (hp : p.request = some (plan, ids)) (hids : sentIds since = ids) :
    ¬ Ends since (.Call op m) ∧ Harmless (.Returned op ok m') := by
  have hidle : ∀ s, p ≠ .Idle s := by
    rintro s rfl
    cases hp
  have hscheduled : p.scheduled = true ∧ p.pressable = true ∧ p.cancellable = true := by
    cases p <;> first | exact ⟨rfl, rfl, rfl⟩ | cases hp
  refine ⟨?_, harmless_returned m' ?_⟩
  · rintro (hdrop | rfl | ⟨c, hfail, hsent⟩)
    · cases op with
      | Stop => exact hidle _ hq
      | SetCameraReady ready | SetWifiReady ready =>
          rcases hq with rfl | hq
          · cases hdrop
          · exact hidle _ hq
      | _ => cases hdrop
    · have hnot := (hq rfl).2
      rw [hscheduled.2.1] at hnot
      cases hnot
    · obtain ⟨code, message, rfl, hcode⟩ := (reportsFailure_call c op m).mp hfail
      have hnot : ¬ p.failsOn c := hq.resolve_left hcode
      rw [← mem_sentIds, hids] at hsent
      cases p with
      | Countdown plan' =>
          obtain ⟨-, rfl⟩ := Prod.mk.inj (Option.some.inj hp)
          cases hsent
      | Focusing plan' f =>
          obtain ⟨-, rfl⟩ := Prod.mk.inj (Option.some.inj hp)
          exact hnot (List.mem_singleton.mp hsent)
      | _ => cases hp
  · rintro ⟨rfl, rfl⟩
    have hnot := hq.2
    rw [hscheduled.2.2] at hnot
    cases hnot

lemma not_mem_call_returned (op : Op) (ok : Bool) (m' : RemoteStateMachine)
    (hinner : ∀ e ∈ seg, e.Inner) (o : Op) (b : RemoteStateMachine) :
    .Call o b ∉ seg ++ [.Returned op ok m'] := by
  intro h
  rcases List.mem_append.mp h with h | h
  · exact hinner _ h
  · cases List.mem_singleton.mp h

/-- After an accepted request its own events decide whether it is live. -/
lemma live_request {plan : Plan} (hnone : ∀ j plan since, ¬ Live tr j plan since) {s : List Event}
    (hs : ∀ o b, .Call o b ∉ s) (j' : ℕ) (plan' : Plan) (since' : List Event) :
    Live (tr ++ .Call (.RequestCapture plan.requestId plan.delayMs plan.autofocus) m ::
        .Clock plan.madeAt :: s) j' plan' since' ↔
      (j' = tr.length ∧ plan' = plan ∧ since' = s) ∧
        Always (fun before e => ¬ Ends before e) s := by
  rw [live_call (by simpa using hs)]
  constructor
  · rintro (⟨s', hlive, -, -⟩ | ⟨hop, hclock, rfl, halways⟩)
    · exact absurd hlive (hnone _ _ _)
    · obtain ⟨hmade, rfl⟩ := List.cons.inj hclock
      have hplan : plan' = plan := by
        obtain ⟨requestId, delayMs, autofocus, madeAt⟩ := plan
        obtain ⟨requestId', delayMs', autofocus', madeAt'⟩ := plan'
        simp_all
      exact ⟨⟨rfl, hplan, rfl⟩, halways⟩
  · rintro ⟨⟨rfl, rfl, rfl⟩, halways⟩
    exact Or.inr ⟨rfl, rfl, rfl, halways⟩

/-- An accepted request is live until its first tick ends it. -/
lemma tracks_request {s : RemoteState} {plan : Plan} {now : ℤ} (hp : Tracks tr (.Idle s))
    (htick : TickEffect config n now (.Countdown plan) seg p') :
    Tracks (tr ++ .Call (.RequestCapture plan.requestId plan.delayMs plan.autofocus) m ::
      (.Clock plan.madeAt :: .Clock now :: seg ++
        [.Returned (.RequestCapture plan.requestId plan.delayMs plan.autofocus) ok m'])) p' := by
  have hnone := (tracks_none (p := .Idle s) rfl).mp hp
  have hs : ∀ o b, .Call o b ∉ .Clock now :: (seg ++ [.Returned
      (.RequestCapture plan.requestId plan.delayMs plan.autofocus) ok m']) := by
    intro o b h
    rcases List.mem_cons.mp h with h | h
    · cases h
    · exact not_mem_call_returned _ _ _ htick.inner o b h
  rcases htick.request_some rfl with ⟨hafter, e, he, hfatal⟩ | ⟨hafter, hharmless⟩
  · rw [tracks_none hafter]
    intro j' plan' since' hlive
    obtain ⟨-, halways⟩ := (live_request hnone hs _ _ _).mp hlive
    rw [always_iff_alwaysFrom] at halways
    exact not_alwaysFrom_of_fatal ⟨e, by simp [he], hfatal⟩ [] halways
  · refine (tracks_some hafter).mpr ⟨tr.length, .Clock now :: (seg ++ [.Returned
      (.RequestCapture plan.requestId plan.delayMs plan.autofocus) ok m']), ?_,
      fun j' plan' since' => ?_⟩
    · simp [sentIds]
    · refine (live_request hnone hs _ _ _).trans (and_iff_left ?_)
      rw [always_iff_alwaysFrom]
      refine alwaysFrom_of_harmless (fun e he => ?_) []
      simp only [List.mem_cons, List.mem_append, List.not_mem_nil, or_false] at he
      rcases he with rfl | he | rfl
      · exact harmless_clock now
      · exact hharmless e he
      · exact harmless_returned m' (by simp)

/-- **Every call keeps the phase and the live request together.** -/
lemma tracks_call (hp : Tracks tr p) (heff : Effect config n p op seg ok p') :
    Tracks (tr ++ .Call op m :: (seg ++ [.Returned op ok m'])) p' := by
  have hrest := not_mem_call_returned op ok m' heff.inner
  -- nothing was live before
  have none_before : (∀ now s, seg ++ [.Returned op ok m'] = .Clock now :: s →
      ∀ id d a, op ≠ .RequestCapture id d a) → p.request = none → p'.request = none →
      Tracks (tr ++ .Call op m :: (seg ++ [.Returned op ok m'])) p' := by
    intro hnew hbefore hafter
    rw [tracks_none hafter]
    exact not_live_of_none hrest hnew ((tracks_none hbefore).mp hp)
  -- whatever was live is ended
  have ended : (∀ now s, seg ++ [.Returned op ok m'] = .Clock now :: s →
      ∀ id d a, op ≠ .RequestCapture id d a) →
      (∃ e ∈ .Call op m :: (seg ++ [.Returned op ok m']), Fatal e) → p'.request = none →
      Tracks (tr ++ .Call op m :: (seg ++ [.Returned op ok m'])) p' := by
    intro hnew hfatal hafter
    rw [tracks_none hafter]
    exact not_live_of_fatal hrest hnew hfatal
  cases heff with
  | quiet hq =>
      have hnew : ∀ now s, [] ++ [Event.Returned op ok m'] = .Clock now :: s →
          ∀ id d a, op ≠ .RequestCapture id d a := by
        intro now s h
        cases (List.cons.inj h).1
      rcases hreq : p.request with _ | ⟨plan, ids⟩
      · exact none_before hnew hreq hreq
      · obtain ⟨j, since, hids, honly⟩ := (tracks_some hreq).mp hp
        obtain ⟨hcall, hreturned⟩ := hq.not_ends m m' hreq hids
        refine (tracks_some hreq).mpr ⟨j, _, ?_, live_of_harmless hrest hnew honly hcall ?_⟩
        · simpa [sentIds] using hids
        · intro e he
          rw [List.mem_singleton.mp he]
          exact hreturned
  | lifecycle hlife =>
      refine none_before ?_ rfl rfl
      intro now s h
      cases (List.cons.inj h).1
  | stop _ | cameraLost | wifiLost =>
      exact ended (by simp) ⟨_, List.mem_cons_self, fatal_drop m rfl⟩ rfl
  | @request plan now seg p' _ _ _ htick => exact tracks_request hp htick
  | cancel _ _ =>
      refine ended (by simp) ⟨.Returned .CancelCountdown true m', by simp, ?_⟩ rfl
      exact fun _ => ⟨rfl, rfl⟩
  | focusRejected | focusPress | focusRelease _ => exact none_before (by simp) rfl rfl
  | press _ _ hcap =>
      exact ended (by simp) ⟨_, List.mem_cons_self, fatal_press m⟩ hcap.request
  | pressScheduled _ _ hcap =>
      exact ended (by simp) ⟨_, List.mem_cons_self, fatal_press m⟩ hcap.request
  | unpress _ htick => exact none_before (by simp) rfl (htick.request_none rfl)
  | @tick p now seg p' htick =>
      rcases hreq : p.request with _ | ⟨plan, ids⟩
      · exact none_before (by simp) hreq (htick.request_none hreq)
      · rcases htick.request_some hreq with ⟨hafter, e, he, hfatal⟩ | ⟨hafter, hharmless⟩
        · refine ended (by simp) ⟨e, ?_, hfatal⟩ hafter
          simp [he]
        · obtain ⟨j, since, hids, honly⟩ := (tracks_some hreq).mp hp
          refine (tracks_some hafter).mpr ⟨j, _, ?_, live_of_harmless hrest (by simp) honly ?_ ?_⟩
          · simp [sentIds, ← hids]
          · exact harmless_call m rfl (by simp) (by simp) since
          · intro e he
            simp only [List.cons_append, List.mem_cons, List.mem_append, List.not_mem_nil,
              or_false] at he
            rcases he with rfl | he | rfl
            · exact harmless_clock now
            · exact hharmless e he
            · exact harmless_returned m' (by simp)
  | captureFailed _ | captureFailedLate _ => exact none_before (by simp) rfl rfl
  | @focusFailed plan f code message hcode =>
      obtain ⟨j, since, hids, honly⟩ := (tracks_some (p := .Focusing plan f) rfl).mp hp
      rw [tracks_none rfl]
      intro j' plan' since' hlive
      rcases (live_call hrest _ _ _).mp hlive with ⟨s, hs, -, hfrom⟩ | ⟨hop, -⟩
      · obtain ⟨-, -, rfl⟩ := (honly _ _ _).mp hs
        refine hfrom.1 (Or.inr (Or.inr ⟨f, ?_, ?_⟩))
        · simpa using hcode
        · rw [← mem_sentIds, hids]
          exact List.mem_singleton_self f
      · cases hop

/-! ## The captures of a call -/

lemma lastReading_clock (past : List Event) (now : ℤ) {es : List Event}
    (hes : ∀ e ∈ es, ∀ t, e ≠ .Clock t) : lastReading (past ++ .Clock now :: es) = some now := by
  have hnone : es.filterMap (fun | .Clock t => some t | _ => none) = ([] : List ℤ) := by
    refine List.filterMap_eq_nil_iff.mpr fun e he => ?_
    cases e with
    | Clock t => exact absurd rfl (hes _ he t)
    | Call _ _ | Sent _ _ | Returned _ _ _ => rfl
  rw [lastReading, List.filterMap_append, List.filterMap_cons, hnone]
  simp

lemma CaptureEffect.capture_head {focus : ℤ} {physical : Bool} {a b : List Event} {e : Event}
    (h : CaptureEffect config n focus physical seg p') (hseg : seg = a ++ e :: b)
    (he : e.IsCapture) : a = [] := by
  cases h with
  | rejected =>
      cases a with
      | nil => rfl
      | cons x a =>
          have htail := (List.cons.inj hseg).2
          simp at htail
  | accepted now =>
      cases a with
      | nil => rfl
      | cons x a =>
          have htail := (List.cons.inj hseg).2
          cases a with
          | nil =>
              obtain ⟨rfl, -⟩ := List.cons.inj htail
              cases he
          | cons y a => simp at htail

lemma CancelEffect.not_capture {focus : ℤ} (h : CancelEffect n focus seg) :
    ∀ e ∈ seg, ¬ e.IsCapture := by
  cases h <;> simp [Event.IsCapture, Event.command]

/-- A capture after a reading of the clock. -/
lemma split_clock {t : ℤ} {a b : List Event} {e : Event} (h : .Clock t :: seg = a ++ e :: b)
    (he : e.IsCapture) : ∃ a', a = .Clock t :: a' ∧ seg = a' ++ e :: b := by
  cases a with
  | nil =>
      obtain ⟨rfl, -⟩ := List.cons.inj h
      cases he
  | cons x a =>
      obtain ⟨rfl, htail⟩ := List.cons.inj h
      exact ⟨a, rfl, htail⟩

/-- A capture is no other command, so that it is not among the events of sending one. -/
lemma command_ne_split {id : ℤ} {type : CommandType} {accepted : Bool} {a b : List Event} {e : Event}
    (htype : type ≠ .Capture) (he : e.IsCapture) :
    [Event.command id type accepted] ≠ a ++ e :: b := by
  intro h
  cases a with
  | nil =>
      obtain ⟨rfl, -⟩ := List.cons.inj h
      exact htype he
  | cons x a => simp at h

/-- A tick captures for the request of its phase, which is due, and has sent nothing but an
autofocus before; or the phase is a half-press. -/
lemma TickEffect.capture_split {now : ℤ} {a b : List Event} {e : Event}
    (h : TickEffect config n now p seg p') (hseg : seg = a ++ e :: b) (he : e.IsCapture) :
    (∃ f, p = .HalfPress f) ∨ ∃ plan ids, p.request = some (plan, ids) ∧
      plan.captureAt config ≤ now ∧ ∀ x ∈ a, Harmless x ∧ ∀ t, x ≠ .Clock t := by
  cases h with
  | rest _ | finish _ => simp at hseg
  | focusRejected _ _ | focus _ _ _ | releaseRejected _ | release _ _ | releaseFinish _ _ =>
      exact absurd hseg (command_ne_split (by simp) he)
  | focusCapture _ _ hdue hcap =>
      refine Or.inr ⟨_, _, rfl, hdue, ?_⟩
      cases a with
      | nil => simp
      | cons x a =>
          obtain ⟨rfl, htail⟩ := List.cons.inj hseg
          obtain rfl := hcap.capture_head htail he
          intro x hx
          rw [List.mem_singleton.mp hx]
          exact ⟨harmless_command n (by simp), by simp [Event.command]⟩
  | capture _ hdue hcap | captureFocusing hdue hcap =>
      obtain rfl := hcap.capture_head hseg he
      exact Or.inr ⟨_, _, rfl, hdue, by simp⟩
  | captureHalfPress _ => exact Or.inl ⟨_, rfl⟩

section Justified

variable {a : List Event}

/-- The running call is no press: a live request is the one justification. -/
lemma existsUnique_justifiedBy_live {j : ℕ} {plan : Plan} {since : List Event} (now : ℤ)
    (hinner : ∀ e ∈ a, e.Inner) (hop : op ≠ .PhysicalShutter true)
    (honly : ∀ j' plan' since', Live (tr ++ .Call op m :: a) j' plan' since' ↔
      j' = j ∧ plan' = plan ∧ since' = since)
    (hread : lastReading (tr ++ .Call op m :: a) = some now) (hdue : plan.captureAt config ≤ now) :
    ∃! j, JustifiedBy config (tr ++ .Call op m :: a) j := by
  refine ⟨j, Or.inr ⟨plan, since, now, (honly _ _ _).mpr ⟨rfl, rfl, rfl⟩, hread, hdue⟩, ?_⟩
  rintro j' (⟨x, before, inside, hpast, rfl, hinside⟩ | ⟨plan', since', now', hlive, -, -⟩)
  · obtain ⟨-, rfl, -⟩ := append_call_inj hinner (fun e he => (hinside e he).1) hpast
    exact absurd rfl hop
  · exact ((honly _ _ _).mp hlive).1

/-- The running press is the one justification. -/
lemma existsUnique_justifiedBy_press (hinner : ∀ e ∈ a, e.Inner ∧ ¬ e.IsCapture) :
    ∃! j, JustifiedBy config (tr ++ .Call (.PhysicalShutter true) m :: a) j := by
  refine ⟨tr.length, Or.inl ⟨tr, m, a, rfl, rfl, hinner⟩, ?_⟩
  rintro j' (⟨x, before, inside, hpast, rfl, hinside⟩ | ⟨plan', since', now', hlive, -, -⟩)
  · obtain ⟨rfl, -, -⟩ := append_call_inj (fun e he => (hinner e he).1)
      (fun e he => (hinside e he).1) hpast
    rfl
  · refine absurd hlive (not_live_of_fatal ?_ ?_ ⟨_, List.mem_cons_self, fatal_press m⟩ _ _ _)
    · exact fun o b h => (hinner _ h).1
    · simp

/-- Nothing justifies a capture in a call that is no press when nothing is live. -/
lemma not_justifiedBy_of_none (hinner : ∀ e ∈ a, e.Inner) (hop : op ≠ .PhysicalShutter true)
    (hnone : ∀ j plan since, ¬ Live (tr ++ .Call op m :: a) j plan since) (j : ℕ) :
    ¬ JustifiedBy config (tr ++ .Call op m :: a) j := by
  rintro (⟨x, before, inside, hpast, rfl, hinside⟩ | ⟨plan', since', now', hlive, -, -⟩)
  · obtain ⟨-, rfl, -⟩ := append_call_inj hinner (fun e he => (hinside e he).1) hpast
    exact hop rfl
  · exact hnone _ _ _ hlive

end Justified

/-- **Every capture of a call is justified**, unless the call is a tick in a half-press. -/
lemma justified_call (hp : Tracks tr p) (heff : Effect config n p op seg ok p')
    (hhalf : ∀ f, p = .HalfPress f → op ≠ .Tick) {a b : List Event} {e : Event}
    (hseg : seg = a ++ e :: b) (he : e.IsCapture) :
    ∃! j, JustifiedBy config (tr ++ .Call op m :: a) j := by
  have hinner : ∀ x ∈ a, x.Inner := by
    intro x hx
    exact heff.inner x (by rw [hseg]; exact List.mem_append_left _ hx)
  have hnocall : ∀ o b, .Call o b ∉ a := fun o b h => hinner _ h
  cases heff with
  | quiet _ | lifecycle _ | cameraLost | wifiLost | captureFailed _ | captureFailedLate _
  | focusFailed _ => simp at hseg
  | stop hcancel | cancel _ hcancel =>
      exact absurd he (hcancel.not_capture e (by rw [hseg]; simp))
  | focusRejected | focusPress | focusRelease _ => exact absurd hseg (command_ne_split (by simp) he)
  | @request plan now seg p' _ _ _ htick =>
      obtain ⟨a', rfl, hseg'⟩ := split_clock hseg he
      obtain ⟨a, rfl, hrest⟩ := split_clock hseg' he
      rcases htick.capture_split hrest he with ⟨f, hf⟩ | ⟨plan', ids, hreq, hdue, hbefore⟩
      · cases hf
      · obtain ⟨rfl, -⟩ := Prod.mk.inj (Option.some.inj hreq)
        have hnone := (tracks_none (p := .Idle .Armed) rfl).mp hp
        refine existsUnique_justifiedBy_live now hinner (by simp)
          (fun j' plan' since' => (live_request hnone ?_ _ _ _).trans (and_iff_left ?_)) ?_ hdue
        · exact fun o b h => hinner (.Call o b) (List.mem_cons_of_mem _ h)
        · rw [always_iff_alwaysFrom]
          refine alwaysFrom_of_harmless (fun x hx => ?_) []
          rcases List.mem_cons.mp hx with rfl | hx
          · exact harmless_clock now
          · exact (hbefore x hx).1
        · have hread := lastReading_clock (tr ++ [.Call (.RequestCapture plan.requestId plan.delayMs
            plan.autofocus) m, .Clock plan.madeAt]) now fun x hx => (hbefore x hx).2
          simpa using hread
  | press _ _ hcap =>
      obtain rfl := hcap.capture_head hseg he
      exact existsUnique_justifiedBy_press (by simp)
  | @pressScheduled p seg seg' k p' _ hcancel hcap =>
      have hsplit : a = seg := by
        rcases List.append_eq_append_iff.mp hseg with ⟨d, rfl, hd⟩ | ⟨d, rfl, hd⟩
        · rw [hcap.capture_head hd he, List.append_nil]
        · cases d with
          | nil => exact (List.append_nil a).symm
          | cons x d =>
              obtain ⟨rfl, -⟩ := List.cons.inj hd
              exact absurd he (hcancel.not_capture e (by simp))
      subst hsplit
      exact existsUnique_justifiedBy_press fun x hx => ⟨hinner x hx, hcancel.not_capture x hx⟩
  | @unpress c f r cd pressed now seg p' _ htick =>
      obtain ⟨a', rfl, hseg'⟩ := split_clock hseg he
      obtain ⟨a, rfl, hrest⟩ := split_clock hseg' he
      rcases htick.capture_split hrest he with ⟨f, hf⟩ | ⟨plan', ids, hreq, -⟩
      · cases hf
      · cases hreq
  | @tick p now seg p' htick =>
      obtain ⟨a, rfl, hrest⟩ := split_clock hseg he
      rcases htick.capture_split hrest he with ⟨f, hf⟩ | ⟨plan, ids, hreq, hdue, hbefore⟩
      · exact absurd rfl (hhalf f hf)
      · obtain ⟨j, since, -, honly⟩ := (tracks_some hreq).mp hp
        refine existsUnique_justifiedBy_live now hinner (by simp)
          (live_of_harmless hnocall (by simp) honly ?_ ?_) ?_ hdue
        · exact harmless_call m rfl (by simp) (by simp) since
        · intro x hx
          rcases List.mem_cons.mp hx with rfl | hx
          · exact harmless_clock now
          · exact (hbefore x hx).1
        · have hread := lastReading_clock (tr ++ [.Call .Tick m]) now fun x hx => (hbefore x hx).2
          simpa using hread

/-- A tick in a half-press captures for nobody. -/
lemma not_justified_halfPress {f : ℤ} (hp : Tracks tr (.HalfPress f))
    (heff : Effect config n (.HalfPress f) .Tick seg ok p') :
    ∃ a e b, seg = a ++ e :: b ∧ e.IsCapture ∧
      ∀ j, ¬ JustifiedBy config (tr ++ .Call .Tick m :: a) j := by
  cases heff with
  | quiet hq => cases hq
  | @tick p now seg p' htick =>
      have hnone := (tracks_none (p := .HalfPress f) rfl).mp hp
      have hnot : ∀ j, ¬ JustifiedBy config (tr ++ .Call .Tick m :: [.Clock now]) j :=
        not_justifiedBy_of_none (by simp [Event.Inner]) (by simp)
          (not_live_of_none (by simp) (by simp) hnone)
      cases htick with
      | rest hdue => exact absurd trivial hdue
      | captureHalfPress hcap =>
          cases hcap with
          | rejected => exact ⟨[.Clock now], _, [], rfl, rfl, hnot⟩
          | accepted t => exact ⟨[.Clock now], _, [.Clock t], rfl, rfl, hnot⟩

/-! ## Runs -/

/-- No two captures have the same justification: the first one ends it. -/
lemma not_justifiedBy_twice {past between : List Event} {e : Event} (he : e.IsCapture) {j : ℕ}
    (h : JustifiedBy config past j) : ¬ JustifiedBy config (past ++ e :: between) j := by
  have hends : ∀ since, Ends since e := by
    intro since
    cases e with
    | Sent command accepted => exact Or.inl he
    | Call _ _ | Clock _ | Returned _ _ _ => cases he
  rintro (⟨x', before', inside', h', hj', hinside'⟩ | ⟨plan', since', now', ⟨⟨x', before', h', hj'⟩,
    hlive'⟩, -, -⟩) <;>
  rcases h with ⟨x, before, inside, rfl, hj, -⟩ | ⟨plan, since, now, ⟨⟨x, before, rfl, hj⟩, -⟩, -, -⟩
  all_goals
    simp only [List.append_assoc, List.cons_append] at h'
    obtain ⟨rfl, htail⟩ := List.append_inj h' (hj.trans hj'.symm)
    obtain ⟨hcall, htail⟩ := List.cons.inj htail
  · subst htail
    exact (hinside' e (by simp)).2 he
  · cases hcall
  · cases hcall
  · obtain ⟨-, rfl⟩ := List.cons.inj htail
    exact hlive' since e between rfl (hends _)

lemma JustifiedBy.asked {past : List Event} {j : ℕ} (h : JustifiedBy config past j) :
    ∃ e ∈ past, e.AsksForCapture := by
  rcases h with ⟨x, before, inside, rfl, -, -⟩ | ⟨plan, since, now, ⟨⟨x, before, rfl, -⟩, -⟩, -, -⟩
  · exact ⟨.Call (.PhysicalShutter true) before, by simp, trivial⟩
  · exact ⟨_, List.mem_append_right _ List.mem_cons_self, trivial⟩

/-- Justifying each capture is all there is to it. -/
lemma capturesJustified_iff_always : CapturesJustified config tr ↔
    Always (fun past e => e.IsCapture → ∃! j, JustifiedBy config past j) tr := by
  refine ⟨fun h => h.justified, fun h => ⟨h, ?_, ?_⟩⟩
  · intro past e between e' future _ he _ j hj
    exact not_justifiedBy_twice he hj
  · intro hnone e he hcapture
    obtain ⟨past, future, rfl⟩ := List.append_of_mem he
    obtain ⟨j, hj, -⟩ := h past e future rfl hcapture
    obtain ⟨e', he', hasks⟩ := hj.asked
    exact hnone e' (List.mem_append_left _ he') hasks

lemma History.tracks (h : History config tr m p) : Tracks tr p := by
  induction h with
  | init =>
      rw [tracks_none rfl]
      rintro j plan since ⟨⟨x, before, hpast, -⟩, -⟩
      simp at hpast
  | call hist hm hids hop heff hm' ih =>
      rw [List.append_assoc]
      exact tracks_call ih heff

/-- A tick comes in a half-press, where `tick` takes the autofocus of the button for that of a request
whose capture is overdue. -/
def Event.TicksHalfPress : Event → Prop
  | .Call op before => op = .Tick ∧ before.state = .Focusing ∧ before.standaloneFocus = true
  | _ => False

instance : DecidablePred Event.TicksHalfPress
  | .Call op before => inferInstanceAs (Decidable (op = .Tick ∧ before.state = .Focusing ∧
      before.standaloneFocus = true))
  | .Clock _ | .Sent _ _ | .Returned _ _ _ => inferInstanceAs (Decidable False)

lemma Rep.halfPress_iff (hm : Rep config m p) :
    (m.state = .Focusing ∧ m.standaloneFocus = true) ↔ ∃ f, p = .HalfPress f := by
  constructor
  · rintro ⟨hstate, hstand⟩
    exact hm.eq_halfPress (by simp [hstate, hstand])
  · rintro ⟨f, rfl⟩
    exact ⟨hm.state, RepHalfPress.standaloneFocus hm.phase⟩

/-- The captures of a call are inside it. -/
lemma split_call {a b : List Event} {e : Event}
    (h : .Call op m :: (seg ++ [.Returned op ok m']) = a ++ e :: b) (he : e.IsCapture) :
    ∃ a' b', a = .Call op m :: a' ∧ seg = a' ++ e :: b' := by
  cases a with
  | nil =>
      obtain ⟨rfl, -⟩ := List.cons.inj h
      cases he
  | cons x a =>
      obtain ⟨rfl, htail⟩ := List.cons.inj h
      rcases List.append_eq_append_iff.mp htail with ⟨d, rfl, hd⟩ | ⟨d, rfl, hd⟩
      · cases d with
        | nil =>
            obtain ⟨rfl, -⟩ := List.cons.inj hd
            cases he
        | cons y d => simp at hd
      · cases d with
        | nil =>
            obtain ⟨rfl, -⟩ := List.cons.inj hd
            cases he
        | cons y d =>
            obtain ⟨rfl, -⟩ := List.cons.inj hd
            exact ⟨a, d, rfl, rfl⟩

/-- Every capture of a history is justified exactly when no tick comes in a half-press. -/
lemma History.justified (h : History config tr m p) :
    Always (fun past e => e.IsCapture → ∃! j, JustifiedBy config past j) tr ↔
      ∀ e ∈ tr, ¬ e.TicksHalfPress := by
  induction h with
  | init => simp
  | @call tr m m' p p' op seg ok hist hm hids hop heff hm' ih =>
      rw [List.append_assoc, always_append, ih, List.cons_append, ← List.cons_append,
        forall_mem_call heff.inner (Q := fun e => ¬ e.TicksHalfPress) ?_ id]
      · refine and_congr_right fun _ => ?_
        rw [alwaysFrom_iff]
        constructor
        · rintro hcaptures ⟨rfl, hhalf⟩
          obtain ⟨f, rfl⟩ := hm.halfPress_iff.mp hhalf
          obtain ⟨a, e, b, rfl, he, hnot⟩ := not_justified_halfPress (m := m) hist.tracks heff
          obtain ⟨j, hj, -⟩ := hcaptures (.Call .Tick m :: a) e
            (b ++ [.Returned .Tick ok m']) (by simp) he
          exact hnot j hj
        · intro hnot a e b hsplit he
          obtain ⟨a, b, rfl, hseg⟩ := split_call hsplit he
          refine justified_call hist.tracks heff (fun f hf htick => hnot ?_) hseg he
          exact ⟨htick, hm.halfPress_iff.mpr ⟨f, hf⟩⟩
      · intro e he
        cases e with
        | Call _ _ | Returned _ _ _ => cases he
        | Clock _ | Sent _ _ => exact id

/-- **Every capture is asked for exactly when** the machine is never ticked in a half-press.  There
`tick` takes the photo at once, as the capture deadline of no request is long over; everywhere else
the phase knows the request its capture belongs to. -/
theorem capturesJustified_iff (port : ℤ) (h : Run (configForPort port) tr m) :
    CapturesJustified (configForPort port) tr ↔ ∀ e ∈ tr, ¬ e.TicksHalfPress := by
  obtain ⟨⟨p, hist⟩, -⟩ := h.history (configForPort_timing port)
  rw [capturesJustified_iff_always]
  exact hist.justified

/-- A photo in two seconds, with its autofocus, taken by the last tick of the script. -/
def countdownScript : List (ℤ × Op) :=
  [(1, .SetCameraReady true), (1, .SetWifiReady true), (1, .Start),
    (1000, .RequestCapture (bytes "a") 2000 true), (2000, .Tick), (3000, .Tick)]

theorem capturesJustified_countdown :
    CapturesJustified {} (play {} [] {} countdownScript).1 :=
  (capturesJustified_iff 0 (Run.play countdownScript .init (by decide))).mpr (by decide)

/-- The button is half-pressed and the machine is ticked once: it takes a photo, which nobody has
asked for. -/
theorem not_capturesJustified_halfPress :
    Run {} (play {} [] {} (halfPressScript [(1100, .Tick)])).1
        (play {} [] {} (halfPressScript [(1100, .Tick)])).2 ∧
      ¬ CapturesJustified {} (play {} [] {} (halfPressScript [(1100, .Tick)])).1 := by
  have hrun : Run (configForPort 0) (play {} [] {} (halfPressScript [(1100, .Tick)])).1 _ :=
    Run.play _ .init (by decide)
  refine ⟨hrun, fun hjustified => ?_⟩
  obtain ⟨⟨p, hist⟩, -⟩ := hrun.history (configForPort_timing 0)
  have hnever := hist.justified.mp (capturesJustified_iff_always.mp hjustified)
  revert hnever
  decide

end LegacyAlpha
