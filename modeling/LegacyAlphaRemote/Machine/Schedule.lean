import LegacyAlphaRemote.Core.Trace
import LegacyAlphaRemote.Machine.Runs

/-!
# The schedule of a request

From an accepted request on, with a sink that accepts every command and a clock that stands still
during each call, everything is determined by when the ticks come.  A `Moment` is what one call of
that continuation shows; `Scheduled` says which moment sends which command and when the machine is
armed again, for ticks at any times.

`Progress` is the invariant: what the moments so far must have been for the machine to be in its
phase.
-/

namespace LegacyAlpha

open RemoteStateMachine TraceLogic

/-! ## Moments -/

/-- A call: when it was made, what it answered, the commands it sent and the state it left. -/
structure Moment where
  now : ℤ
  op : Op
  ok : Bool
  sent : List CommandType
  after : RemoteState
  deriving DecidableEq, Repr

/-- The types of the commands in a trace, in the order in which they were sent. -/
def commandTypes (tr : List Event) : List CommandType :=
  tr.filterMap fun | .Sent command _ => some command.type | _ => none

/-- The call of `op` at `now`, by a sink that accepts everything and with a clock that stands still
during the call. -/
def moment (config : NativeConfig) (m : RemoteStateMachine) (now : ℤ) (op : Op) : Moment :=
  let out := m.step config (Io.still now []) op
  { now, op, ok := out.ok, sent := commandTypes out.io.trace, after := out.machine.state }

/-- The calls of a script, each made at its own time on the machine that the ones before it left. -/
def moments (config : NativeConfig) (m : RemoteStateMachine) : List (ℤ × Op) → List Moment
  | [] => []
  | (now, op) :: script =>
      moment config m now op ::
        moments config (m.step config (Io.still now []) op).machine script

/-- The call runs `tick`: it is a tick, or a request that was accepted. -/
def Moment.Ticks (x : Moment) : Prop :=
  x.op = .Tick ∨ (∃ requestId delayMs autofocus, x.op = .RequestCapture requestId delayMs autofocus) ∧
    x.ok = true

/-- The calls that may follow the request: ticks, successful results, refused requests, and changes
of the client count. -/
def Moment.Follows (x : Moment) : Prop :=
  match x.op with
  | .Tick | .SetClientCount _ => True
  | .ReportCommandResult _ resultCode _ => resultCode = 0
  | .RequestCapture _ _ _ => x.ok = false
  | _ => False

instance (x : Moment) : Decidable x.Follows := by
  unfold Moment.Follows
  split <;> infer_instance

/-! ## The schedule -/

/-- A tick has come at `due` or later, so that what was due then has been done. -/
def Ticked (due : ℤ) (past : List Moment) : Prop := ∃ y ∈ past, y.Ticks ∧ due ≤ y.now

/-- `x` is the first tick at `due` or later, which is where something due at that time is done. -/
def FirstTick (due : ℤ) (past : List Moment) (x : Moment) : Prop :=
  (x.Ticks ∧ due ≤ x.now) ∧ ¬ Ticked due past

/-- The capture was sent at `at'`, from where the times of the release and of the cooldown are
counted. -/
def CapturedAt (at' : ℤ) (past : List Moment) : Prop :=
  ∃ y ∈ past, .Capture ∈ y.sent ∧ y.now = at'

/-- A tick has come at `due` or later that released the shutter or came after the one that did. -/
def Rested (due : ℤ) (past : List Moment) : Prop :=
  ∃ before r since, past = before ++ r :: since ∧ .ReleaseShutter ∈ r.sent ∧ Ticked due (r :: since)

/-- The commands of a request, in their order: the autofocus if it was asked for, the capture, and the
release of the shutter. -/
def Plan.commands (plan : Plan) : List CommandType :=
  (if plan.autofocus then [.StartAutofocus] else []) ++ [.Capture, .ReleaseShutter]

/-- What moment `x` shows, when the moments before it were `past`: each command is sent by the first
tick that comes at its time or later, and by no other, and the machine is armed again once a tick has
come after the cooldown, at the release or after it. -/
structure OnTime (config : NativeConfig) (plan : Plan) (past : List Moment) (x : Moment) : Prop where
  autofocus : .StartAutofocus ∈ x.sent ↔
    plan.autofocus = true ∧ FirstTick (plan.focusAt config) past x
  capture : .Capture ∈ x.sent ↔ FirstTick (plan.captureAt config) past x
  release : .ReleaseShutter ∈ x.sent ↔
    ∃ c, CapturedAt c past ∧ FirstTick (c + config.webShutterHoldMs) past x
  armed : x.after = .Armed ↔
    ∃ c, CapturedAt c past ∧ Rested (c + config.cooldownMs) (past ++ [x])

/-- **The whole schedule**: the commands come in their order, as far as they have come, and each at
its time. -/
structure Scheduled (config : NativeConfig) (plan : Plan) (ms : List Moment) : Prop where
  order : ms.flatMap Moment.sent <+: plan.commands
  onTime : Always (OnTime config plan) ms

/-! ## Looking back from the next moment -/

variable {config : NativeConfig} {plan : Plan} {past : List Moment} {x : Moment} {p p' : Phase}

@[simp] lemma ticked_nil (due : ℤ) : ¬ Ticked due [] := by simp [Ticked]

lemma ticked_concat (due : ℤ) :
    Ticked due (past ++ [x]) ↔ Ticked due past ∨ (x.Ticks ∧ due ≤ x.now) := by
  simp [Ticked, or_and_right, exists_or]

lemma capturedAt_concat (c : ℤ) :
    CapturedAt c (past ++ [x]) ↔ CapturedAt c past ∨ (.Capture ∈ x.sent ∧ x.now = c) := by
  simp [CapturedAt, or_and_right, exists_or]

lemma rested_concat (due : ℤ) : Rested due (past ++ [x]) ↔
    Rested due past ∨ ((∃ y ∈ past ++ [x], .ReleaseShutter ∈ y.sent) ∧ x.Ticks ∧ due ≤ x.now) := by
  constructor
  · rintro ⟨before, r, since, h, hr, y, hy, hticks, hdue⟩
    rcases concat_eq_append_cons h with ⟨rfl, rfl, rfl⟩ | ⟨since, rfl, rfl⟩
    · rw [List.mem_singleton.mp hy] at hticks hdue
      exact Or.inr ⟨⟨x, by simp, hr⟩, hticks, hdue⟩
    · rw [← List.cons_append] at hy
      rcases List.mem_append.mp hy with hy | hy
      · exact Or.inl ⟨before, r, since, rfl, hr, y, hy, hticks, hdue⟩
      · obtain rfl := List.mem_singleton.mp hy
        exact Or.inr ⟨⟨r, by simp, hr⟩, hticks, hdue⟩
  · rintro (⟨before, r, since, rfl, hr, y, hy, hticks, hdue⟩ | ⟨⟨r, hr, hrel⟩, hticks, hdue⟩)
    · refine ⟨before, r, since ++ [x], by simp, hr, y, ?_, hticks, hdue⟩
      rw [← List.cons_append]
      exact List.mem_append_left _ hy
    · obtain ⟨before, since, hsplit⟩ := List.append_of_mem hr
      refine ⟨before, r, since, hsplit, hrel, x, ?_, hticks, hdue⟩
      rcases concat_eq_append_cons hsplit with ⟨-, rfl, -⟩ | ⟨since, -, rfl⟩
      · simp
      · simp

/-! ## Progress -/

/-- The autofocus has been sent, if the request asks for one, and the capture has been sent, at `c`
and at no other time. -/
structure Captured (config : NativeConfig) (plan : Plan) (past : List Moment) (c : ℤ) : Prop where
  focused : plan.autofocus = true → Ticked (plan.focusAt config) past
  due : Ticked (plan.captureAt config) past
  once : ∀ c', CapturedAt c' past ↔ c' = c

/-- What the moments of a request must have been for the machine to be in its phase. -/
def Progress (config : NativeConfig) (plan : Plan) (past : List Moment) : Phase → Prop
  | .Countdown plan' => plan' = plan ∧ past.flatMap Moment.sent = [] ∧
      ¬ (plan.autofocus = true ∧ Ticked (plan.focusAt config) past) ∧
      ¬ Ticked (plan.captureAt config) past
  | .Focusing plan' _ => plan' = plan ∧ plan.autofocus = true ∧
      past.flatMap Moment.sent = [.StartAutofocus] ∧ Ticked (plan.focusAt config) past ∧
      ¬ Ticked (plan.captureAt config) past
  | .Capturing _ _ _ releaseAt cooldownAt => ∃ c, Captured config plan past c ∧
      past.flatMap Moment.sent = (if plan.autofocus then [.StartAutofocus] else []) ++ [.Capture] ∧
      releaseAt = c + config.webShutterHoldMs ∧ cooldownAt = c + config.cooldownMs ∧
      ¬ Ticked releaseAt past
  | .Cooldown _ _ _ cooldownAt => ∃ c, Captured config plan past c ∧
      past.flatMap Moment.sent = plan.commands ∧ Ticked (c + config.webShutterHoldMs) past ∧
      cooldownAt = c + config.cooldownMs ∧ ¬ Rested cooldownAt past
  | .Idle .Armed => ∃ c, Captured config plan past c ∧
      past.flatMap Moment.sent = plan.commands ∧ Ticked (c + config.webShutterHoldMs) past ∧
      Rested (c + config.cooldownMs) past
  | _ => False

/-- Nothing has happened when the request is accepted. -/
lemma progress_start : Progress config plan [] (.Countdown plan) :=
  ⟨rfl, rfl, by simp, by simp⟩

lemma Progress.order (h : Progress config plan past p) :
    past.flatMap Moment.sent <+: plan.commands := by
  cases p with
  | Countdown plan' =>
      rw [h.2.1]
      exact List.nil_prefix
  | Focusing plan' f =>
      rw [h.2.2.1, Plan.commands, if_pos h.2.1]
      exact List.prefix_append _ _
  | Capturing c f ph r cd =>
      obtain ⟨-, -, hsent, -⟩ := h
      rw [hsent, Plan.commands]
      exact ⟨[.ReleaseShutter], by simp⟩
  | Cooldown c f r cd =>
      obtain ⟨-, -, hsent, -⟩ := h
      rw [hsent]
  | Idle s =>
      cases s with
      | Armed =>
          obtain ⟨-, -, hsent, -⟩ := h
          rw [hsent]
      | _ => exact h.elim
  | HalfPress f => exact h.elim

lemma not_capturedAt_of_sent (past : List Moment) (h : .Capture ∉ past.flatMap Moment.sent)
    (c : ℤ) :
    ¬ CapturedAt c past := by
  rintro ⟨y, hy, hcap, -⟩
  exact h (List.mem_flatMap.mpr ⟨y, hy, hcap⟩)

lemma not_rested_of_sent (past : List Moment) (h : .ReleaseShutter ∉ past.flatMap Moment.sent)
    (due : ℤ) :
    ¬ Rested due past := by
  rintro ⟨before, r, since, rfl, hr, -⟩
  exact h (List.mem_flatMap.mpr ⟨r, by simp, hr⟩)

/-- No tick came after the last moment so far. -/
lemma not_ticked_of_lt {now due : ℤ} (htime : ∀ y ∈ past, y.now ≤ now) (h : now < due) :
    ¬ Ticked due past := by
  rintro ⟨y, hy, -, hdue⟩
  exact absurd (htime y hy) (by omega)

/-- A call that ticks nothing and sends nothing keeps the schedule. -/
lemma progress_idle (hprog : Progress config plan past p) (hticks : ¬ x.Ticks) (hsent : x.sent = [])
    (hafter : x.after = p.state) :
    OnTime config plan past x ∧ Progress config plan (past ++ [x]) p := by
  have hticked : ∀ due, Ticked due (past ++ [x]) ↔ Ticked due past := by
    intro due
    simp [ticked_concat, hticks]
  have hcaptured : ∀ c, CapturedAt c (past ++ [x]) ↔ CapturedAt c past := by
    intro c
    simp [capturedAt_concat, hsent]
  have hrested : ∀ due, Rested due (past ++ [x]) ↔ Rested due past := by
    intro due
    simp [rested_concat, hticks]
  have hflat : (past ++ [x]).flatMap Moment.sent = past.flatMap Moment.sent := by
    simp [hsent]
  have hkeep : ∀ c, Captured config plan past c → Captured config plan (past ++ [x]) c := fun c h =>
    ⟨fun ha => (hticked _).mpr (h.focused ha), (hticked _).mpr h.due, fun c' =>
      (hcaptured c').trans (h.once c')⟩
  refine ⟨⟨?_, ?_, ?_, ?_⟩, ?_⟩
  · simp [hsent, FirstTick, hticks]
  · simp [hsent, FirstTick, hticks]
  · simp [hsent, FirstTick, hticks]
  · simp only [hrested, hafter]
    cases p with
    | Countdown plan' =>
        have hnone := not_capturedAt_of_sent past (by simp [hprog.2.1])
        simp [Phase.state, hnone]
    | Focusing plan' f =>
        have hnone := not_capturedAt_of_sent past (by simp [hprog.2.2.1])
        simp [Phase.state, hnone]
    | Capturing c f ph r cd =>
        obtain ⟨c', hcap, hflat', -⟩ := hprog
        have hnone := not_rested_of_sent past (by rw [hflat']; split_ifs <;> simp)
        simp [Phase.state, hnone]
    | Cooldown c f r cd =>
        obtain ⟨c', hcap, -, -, rfl, hnot⟩ := hprog
        simp [Phase.state, hcap.once, hnot]
    | Idle s =>
        cases s with
        | Armed =>
            obtain ⟨c', hcap, -, -, hrest⟩ := hprog
            simp [Phase.state, hcap.once, hrest]
        | _ => exact hprog.elim
    | HalfPress f => exact hprog.elim
  · cases p with
    | Countdown plan' | Focusing plan' f => simpa only [Progress, hticked, hflat] using hprog
    | Capturing c f ph r cd =>
        obtain ⟨c', hcap, hrest⟩ := hprog
        refine ⟨c', hkeep c' hcap, ?_⟩
        simpa only [hticked, hflat] using hrest
    | Cooldown c f r cd =>
        obtain ⟨c', hcap, hrest⟩ := hprog
        refine ⟨c', hkeep c' hcap, ?_⟩
        simpa only [hticked, hflat, hrested] using hrest
    | Idle s =>
        cases s with
        | Armed =>
            obtain ⟨c', hcap, hrest⟩ := hprog
            refine ⟨c', hkeep c' hcap, ?_⟩
            simpa only [hticked, hflat, hrested] using hrest
        | _ => exact hprog.elim
    | HalfPress f => exact hprog.elim

section Tick

variable {n now : ℤ} {seg : List Event}

lemma firstTick_iff (hticks : x.Ticks) (hnow : x.now = now) (due : ℤ) :
    FirstTick due past x ↔ due ≤ now ∧ ¬ Ticked due past := by
  simp [FirstTick, hticks, hnow]

/-- Once the capture has been sent, neither it nor the autofocus is due any more. -/
lemma Captured.sentBefore {c : ℤ} (h : Captured config plan past c)
    (hstart : .StartAutofocus ∉ x.sent) (hcapture : .Capture ∉ x.sent) :
    (.StartAutofocus ∈ x.sent ↔
        plan.autofocus = true ∧ FirstTick (plan.focusAt config) past x) ∧
      (.Capture ∈ x.sent ↔ FirstTick (plan.captureAt config) past x) := by
  constructor
  · refine ⟨fun h => absurd h hstart, ?_⟩
    rintro ⟨ha, -, hnot⟩
    exact absurd (h.focused ha) hnot
  · refine ⟨fun h => absurd h hcapture, ?_⟩
    rintro ⟨-, hnot⟩
    exact absurd h.due hnot

lemma ticked_concat_iff (past : List Moment) (hticks : x.Ticks) (hnow : x.now = now) (due : ℤ) :
    Ticked due (past ++ [x]) ↔ Ticked due past ∨ due ≤ now := by
  simp [ticked_concat, hticks, hnow]

/-- A tick with nothing due sends nothing and leaves the phase as it is. -/
lemma progress_rest (hprog : Progress config plan past p) (hdue : ¬ p.due config now)
    (hticks : x.Ticks) (hnow : x.now = now) (hsent : x.sent = []) (hafter : x.after = p.state) :
    OnTime config plan past x ∧ Progress config plan (past ++ [x]) p := by
  have hticked := ticked_concat_iff past hticks hnow
  have hcaptured : ∀ c, CapturedAt c (past ++ [x]) ↔ CapturedAt c past := by
    intro c
    simp [capturedAt_concat, hsent]
  have hflat : (past ++ [x]).flatMap Moment.sent = past.flatMap Moment.sent := by
    simp [hsent]
  have hkeep : ∀ c, Captured config plan past c → Captured config plan (past ++ [x]) c := fun c h =>
    ⟨fun ha => (hticked _).mpr (Or.inl (h.focused ha)), (hticked _).mpr (Or.inl h.due), fun c' =>
      (hcaptured c').trans (h.once c')⟩
  have sentBefore : ∀ c, Captured config plan past c →
      (.StartAutofocus ∈ x.sent ↔
        plan.autofocus = true ∧ FirstTick (plan.focusAt config) past x) ∧
      (.Capture ∈ x.sent ↔ FirstTick (plan.captureAt config) past x) :=
    fun c hcap => hcap.sentBefore (by simp [hsent]) (by simp [hsent])
  cases p with
  | Countdown plan' =>
      obtain ⟨rfl, hflat', hfocus, hcapture⟩ := hprog
      obtain ⟨hfocus', hcapture'⟩ := not_or.mp hdue
      have hnone := not_capturedAt_of_sent past (by simp [hflat'])
      refine ⟨⟨?_, ?_, ?_, ?_⟩, rfl, hflat.trans hflat', ?_, ?_⟩
      · simp only [hsent, firstTick_iff hticks hnow, List.not_mem_nil, false_iff]
        exact fun h => hfocus' ⟨h.1, h.2.1⟩
      · simp [hsent, firstTick_iff hticks hnow, hcapture']
      · simp [hsent, hnone]
      · simp [hafter, Phase.state, hnone]
      · rw [hticked]
        rintro ⟨ha, h | h⟩
        · exact hfocus ⟨ha, h⟩
        · exact hfocus' ⟨ha, h⟩
      · rw [hticked]
        exact not_or.mpr ⟨hcapture, hcapture'⟩
  | Focusing plan' f =>
      obtain ⟨rfl, ha, hflat', hfocus, hcapture⟩ := hprog
      have hnone := not_capturedAt_of_sent past (by simp [hflat'])
      have hcapture' : ¬ plan'.captureAt config ≤ now := hdue
      refine ⟨⟨?_, ?_, ?_, ?_⟩, rfl, ha, hflat.trans hflat', ?_, ?_⟩
      · simp [hsent, firstTick_iff hticks hnow, hfocus]
      · simp [hsent, firstTick_iff hticks hnow, hcapture']
      · simp [hsent, hnone]
      · simp [hafter, Phase.state, hnone]
      · exact (hticked _).mpr (Or.inl hfocus)
      · rw [hticked]
        exact not_or.mpr ⟨hcapture, hcapture'⟩
  | HalfPress f => exact hprog.elim
  | Capturing c f ph r cd =>
      obtain ⟨c', hcap, hflat', rfl, rfl, hnot⟩ := hprog
      have hearly : ¬ c' + config.webShutterHoldMs ≤ now := hdue
      have hnone := not_rested_of_sent (past ++ [x])
        (by rw [hflat, hflat']; split_ifs <;> simp)
      refine ⟨⟨(sentBefore c' hcap).1, (sentBefore c' hcap).2, ?_, ?_⟩, c', hkeep c' hcap,
        hflat.trans hflat', rfl, rfl, ?_⟩
      · simp [hsent, firstTick_iff hticks hnow, hcap.once, hearly]
      · simp [hafter, Phase.state, hnone]
      · rw [hticked]
        exact not_or.mpr ⟨hnot, hearly⟩
  | Cooldown c f r cd =>
      obtain ⟨c', hcap, hflat', hrelease, rfl, hnot⟩ := hprog
      have hearly : ¬ c' + config.cooldownMs ≤ now := hdue
      have hnot' : ¬ Rested (c' + config.cooldownMs) (past ++ [x]) := by
        rw [rested_concat, hnow]
        exact not_or.mpr ⟨hnot, fun h => hearly h.2.2⟩
      refine ⟨⟨(sentBefore c' hcap).1, (sentBefore c' hcap).2, ?_, ?_⟩, c', hkeep c' hcap,
        hflat.trans hflat', (hticked _).mpr (Or.inl hrelease), rfl, hnot'⟩
      · simp [hsent, firstTick_iff hticks hnow, hcap.once, hrelease]
      · simp [hafter, Phase.state, hcap.once, hnot']
  | Idle s =>
      cases s with
      | Armed =>
          obtain ⟨c', hcap, hflat', hrelease, hrest⟩ := hprog
          have hrest' : Rested (c' + config.cooldownMs) (past ++ [x]) :=
            (rested_concat _).mpr (Or.inl hrest)
          refine ⟨⟨(sentBefore c' hcap).1, (sentBefore c' hcap).2, ?_, ?_⟩, c', hkeep c' hcap,
            hflat.trans hflat', (hticked _).mpr (Or.inl hrelease), hrest'⟩
          · simp [hsent, firstTick_iff hticks hnow, hcap.once, hrelease]
          · simp [hafter, Phase.state, hcap.once, hrest']
      | _ => exact hprog.elim

/-- The moment of the capture: `x` sends it, and before it at most the autofocus was sent. -/
lemma progress_capture {focus : ℤ} {physical : Bool} (hc : config.Timing)
    (hticks : x.Ticks) (hnow : x.now = now) (htime : ∀ y ∈ past, y.now ≤ now)
    (hbefore : .Capture ∉ past.flatMap Moment.sent)
    (hflat : (past ++ [x]).flatMap Moment.sent =
      (if plan.autofocus then [.StartAutofocus] else []) ++ [.Capture])
    (hsent : .Capture ∈ x.sent) (hstart : .StartAutofocus ∈ x.sent ↔
      plan.autofocus = true ∧ FirstTick (plan.focusAt config) past x)
    (hfocus : plan.autofocus = true → Ticked (plan.focusAt config) (past ++ [x]))
    (hdue : plan.captureAt config ≤ now) (hfirst : ¬ Ticked (plan.captureAt config) past)
    (hafter : x.after = .Capturing) :
    OnTime config plan past x ∧ Progress config plan (past ++ [x])
      (.Capturing n focus physical (now + config.webShutterHoldMs) (now + config.cooldownMs)) := by
  have hnone := not_capturedAt_of_sent past hbefore
  have hrelease : .ReleaseShutter ∉ (past ++ [x]).flatMap Moment.sent := by
    rw [hflat]
    split_ifs <;> simp
  refine ⟨⟨hstart, ?_, ?_, ?_⟩, now, ⟨hfocus, ?_, ?_⟩, hflat, rfl, rfl, ?_⟩
  · simp [hsent, firstTick_iff hticks hnow, hdue, hfirst]
  · refine ⟨fun h => absurd ?_ hrelease, fun ⟨c, hcap, _⟩ => absurd hcap (hnone c)⟩
    exact List.mem_flatMap.mpr ⟨x, by simp, h⟩
  · simp [hafter, hnone]
  · exact (ticked_concat_iff past hticks hnow _).mpr (Or.inr hdue)
  · intro c'
    rw [capturedAt_concat]
    simp only [hnone, hsent, true_and, false_or, hnow]
    exact eq_comm
  · have hhold := hc.webHold
    rw [ticked_concat_iff past hticks hnow]
    refine not_or.mpr ⟨not_ticked_of_lt htime ?_, ?_⟩ <;> omega

/-- A capture that is accepted, with the clock standing at `now`. -/
lemma CaptureEffect.of_accepted {focus : ℤ} (h : CaptureEffect config n focus false seg p')
    (hacc : ∀ command accepted, .Sent command accepted ∈ seg → accepted = true)
    (hread : ∀ t, .Clock t ∈ seg → t = now) :
    seg = [.command n .Capture true, .Clock now] ∧ p' = .Capturing n focus false
      (now + config.webShutterHoldMs) (now + config.cooldownMs) := by
  cases h with
  | rejected => cases hacc _ _ (List.mem_singleton_self _)
  | accepted t =>
      obtain rfl := hread t (by simp)
      exact ⟨rfl, rfl⟩

/-- The moment of the release, and the end of the cooldown when that has come too. -/
lemma progress_release {c f r cd : ℤ} {ph : Bool}
    (hprog : Progress config plan past (.Capturing c f ph r cd)) (hdue : r ≤ now)
    (hticks : x.Ticks) (hnow : x.now = now) (hsent : x.sent = [.ReleaseShutter]) :
    (now < cd → x.after = .Cooldown → OnTime config plan past x ∧
      Progress config plan (past ++ [x]) (.Cooldown c f n cd)) ∧
    (cd ≤ now → x.after = .Armed → OnTime config plan past x ∧
      Progress config plan (past ++ [x]) (.Idle .Armed)) := by
  obtain ⟨c', hcap, hflat, rfl, rfl, hnot⟩ := hprog
  have hticked := ticked_concat_iff past hticks hnow
  have hcap' : Captured config plan (past ++ [x]) c' := by
    refine ⟨fun ha => (hticked _).mpr (Or.inl (hcap.focused ha)), (hticked _).mpr (Or.inl hcap.due),
      fun c => ?_⟩
    simp [capturedAt_concat, hsent, hcap.once]
  have hflat' : (past ++ [x]).flatMap Moment.sent = plan.commands := by
    simp [hflat, hsent, Plan.commands]
  have hrelease : .ReleaseShutter ∈ x.sent ↔
      ∃ c, CapturedAt c past ∧ FirstTick (c + config.webShutterHoldMs) past x := by
    simp [hsent, hcap.once, firstTick_iff hticks hnow, hdue, hnot]
  have hnone := not_rested_of_sent past (by rw [hflat]; split_ifs <;> simp)
  have hrested : Rested (c' + config.cooldownMs) (past ++ [x]) ↔ c' + config.cooldownMs ≤ now := by
    rw [rested_concat, hnow]
    simp [hnone, hticks, hsent]
  obtain ⟨hstart, hcapture⟩ := hcap.sentBefore (x := x) (by simp [hsent]) (by simp [hsent])
  refine ⟨fun hcd hafter => ⟨⟨hstart, hcapture, hrelease, ?_⟩, c', hcap', hflat',
    (hticked _).mpr (Or.inr hdue), rfl, ?_⟩, fun hcd hafter => ⟨⟨hstart, hcapture, hrelease, ?_⟩, c',
    hcap', hflat', (hticked _).mpr (Or.inr hdue), hrested.mpr hcd⟩⟩
  · simp [hafter, hcap.once, hrested, hcd]
  · rw [hrested]
    omega
  · simp [hafter, hcap.once, hrested, hcd]

/-- The end of the cooldown, after which nothing of the request is left. -/
lemma progress_finish {c f r cd : ℤ} (hprog : Progress config plan past (.Cooldown c f r cd))
    (hdue : cd ≤ now) (hticks : x.Ticks) (hnow : x.now = now) (hsent : x.sent = [])
    (hafter : x.after = .Armed) :
    OnTime config plan past x ∧ Progress config plan (past ++ [x]) (.Idle .Armed) := by
  obtain ⟨c', hcap, hflat, hrelease, rfl, -⟩ := hprog
  have hticked := ticked_concat_iff past hticks hnow
  have hcap' : Captured config plan (past ++ [x]) c' := by
    refine ⟨fun ha => (hticked _).mpr (Or.inl (hcap.focused ha)), (hticked _).mpr (Or.inl hcap.due),
      fun c => ?_⟩
    simp [capturedAt_concat, hsent, hcap.once]
  have hreleased : ∃ y ∈ past ++ [x], .ReleaseShutter ∈ y.sent := by
    have hmem : .ReleaseShutter ∈ past.flatMap Moment.sent := by
      rw [hflat]
      simp [Plan.commands]
    obtain ⟨y, hy, hr⟩ := List.mem_flatMap.mp hmem
    exact ⟨y, List.mem_append_left _ hy, hr⟩
  have hrested : Rested (c' + config.cooldownMs) (past ++ [x]) :=
    (rested_concat _).mpr (Or.inr ⟨hreleased, hticks, hnow ▸ hdue⟩)
  obtain ⟨hstart, hcapture⟩ := hcap.sentBefore (x := x) (by simp [hsent]) (by simp [hsent])
  refine ⟨⟨hstart, hcapture, ?_, ?_⟩, c', hcap', ?_, (hticked _).mpr (Or.inl hrelease), hrested⟩
  · simp [hsent, hcap.once, firstTick_iff hticks hnow, hrelease]
  · simp [hafter, hcap.once, hrested]
  · simp [hflat, hsent]

/-- **A tick keeps the schedule**, whatever its time. -/
lemma progress_tick (plan : Plan) (past : List Moment) (hc : config.Timing)
    (hprog : Progress config plan past p)
    (htime : ∀ y ∈ past, y.now ≤ now) (heff : TickEffect config n now p seg p')
    (hacc : ∀ command accepted, .Sent command accepted ∈ seg → accepted = true)
    (hread : ∀ t, .Clock t ∈ seg → t = now) (hticks : x.Ticks) (hnow : x.now = now)
    (hsent : x.sent = commandTypes seg) (hafter : x.after = p'.state) :
    OnTime config plan past x ∧ Progress config plan (past ++ [x]) p' := by
  have refused : ∀ {id type}, seg ≠ [Event.command id type false] := by
    rintro id type rfl
    cases hacc _ _ (List.mem_singleton_self _)
  have hticked := ticked_concat_iff past hticks hnow
  cases heff with
  | rest hdue => exact progress_rest hprog hdue hticks hnow hsent hafter
  | focusRejected _ _ | releaseRejected _ => exact absurd rfl refused
  | @focus plan' ha hdue hearly =>
      obtain ⟨rfl, hflat, hfocus, hcapture⟩ := hprog
      have hnone := not_capturedAt_of_sent past (by simp [hflat])
      have hsent' : x.sent = [.StartAutofocus] := hsent
      have hfirst : ¬ Ticked (plan'.focusAt config) past := fun h => hfocus ⟨ha, h⟩
      refine ⟨⟨?_, ?_, ?_, ?_⟩, rfl, ha, ?_, (hticked _).mpr (Or.inr hdue), ?_⟩
      · simp [hsent', firstTick_iff hticks hnow, ha, hdue, hfirst]
      · simp [hsent', firstTick_iff hticks hnow, hearly]
      · simp [hsent', hnone]
      · simp [hafter, Phase.state, hnone]
      · simp [hflat, hsent']
      · rw [hticked]
        exact not_or.mpr ⟨hcapture, by omega⟩
  | @focusCapture plan' seg p' ha hfdue hdue hcap =>
      obtain ⟨rfl, hflat, hfocus, hcapture⟩ := hprog
      obtain ⟨rfl, rfl⟩ := hcap.of_accepted
        (fun command accepted h => hacc command accepted (List.mem_cons_of_mem _ h))
        (fun t h => hread t (List.mem_cons_of_mem _ h))
      have hsent' : x.sent = [.StartAutofocus, .Capture] := hsent
      have hfirst : ¬ Ticked (plan'.focusAt config) past := fun h => hfocus ⟨ha, h⟩
      refine progress_capture hc hticks hnow htime (by simp [hflat]) ?_ (by simp [hsent']) ?_
        (fun _ => (hticked _).mpr (Or.inr hfdue)) hdue hcapture hafter
      · simp [hflat, hsent', ha]
      · simp [hsent', firstTick_iff hticks hnow, ha, hfdue, hfirst]
  | @capture plan' seg p' ha hdue hcap =>
      obtain ⟨rfl, hflat, -, hcapture⟩ := hprog
      obtain ⟨rfl, rfl⟩ := hcap.of_accepted hacc hread
      have hsent' : x.sent = [.Capture] := hsent
      refine progress_capture hc hticks hnow htime (by simp [hflat]) ?_ (by simp [hsent']) ?_
        (fun h => absurd (ha.symm.trans h) (by simp)) hdue hcapture hafter
      · simp [hflat, hsent', ha]
      · simp [hsent', ha]
  | @captureFocusing plan' f seg p' hdue hcap =>
      obtain ⟨rfl, ha, hflat, hfocus, hcapture⟩ := hprog
      obtain ⟨rfl, rfl⟩ := hcap.of_accepted hacc hread
      have hsent' : x.sent = [.Capture] := hsent
      refine progress_capture hc hticks hnow htime (by simp [hflat]) ?_ (by simp [hsent']) ?_
        (fun _ => (hticked _).mpr (Or.inl hfocus)) hdue hcapture hafter
      · simp [hflat, hsent', ha]
      · simp [hsent', firstTick_iff hticks hnow, hfocus]
  | captureHalfPress _ => exact hprog.elim
  | release hdue hearly =>
      exact (progress_release (n := n) hprog hdue hticks hnow hsent).1 hearly hafter
  | releaseFinish hdue hcd =>
      exact (progress_release (n := n) hprog hdue hticks hnow hsent).2 hcd hafter
  | finish hdue => exact progress_finish hprog hdue hticks hnow hsent hafter

end Tick

/-! ## The continuation of a request -/

/-- A call with a clock that stands still and a sink that accepts, as a moment. -/
lemma moment_effect {m : RemoteStateMachine} {now : ℤ} (op : Op) (hc : config.Timing)
    (hm : Rep config m p) (hpos : 0 < now) (hop : op.legal) :
    ∃ seg p', Effect config m.nextCommandId p op seg (moment config m now op).ok p' ∧
      Rep config (m.step config (Io.still now []) op).machine p' ∧
      (moment config m now op).sent = commandTypes seg ∧
      (moment config m now op).after = p'.state ∧
      (∀ command accepted, .Sent command accepted ∈ seg → accepted = true) ∧
      ∀ t, .Clock t ∈ seg → t = now := by
  obtain ⟨seg, p', heff, hrep, htrace, hread, hacc⟩ :=
    step_effect (Io.still now []) hc ⟨monotone_const, hpos⟩ hm op hop
  refine ⟨seg, p', heff, hrep, ?_, hrep.state, ?_, ?_⟩
  · have htypes : commandTypes (Event.Call op m :: seg ++
        [.Returned op (m.step config (Io.still now []) op).ok
          (m.step config (Io.still now []) op).machine]) = commandTypes seg := by
      simp [commandTypes]
    rw [← htypes]
    exact congrArg commandTypes htrace
  · intro command accepted hsent
    obtain ⟨i, hi⟩ := hacc command accepted hsent
    exact hi
  · intro t ht
    obtain ⟨i, hi⟩ := hread t ht
    exact hi

/-- A request whose first tick is accepted does not fail. -/
lemma progress_first {n now : ℤ} {seg : List Event} (hc : config.Timing)
    (htick : TickEffect config n now (.Countdown plan) seg p')
    (hacc : ∀ command accepted, .Sent command accepted ∈ seg → accepted = true)
    (hread : ∀ t, .Clock t ∈ seg → t = now) : p'.state ≠ .Error := by
  intro herror
  have hprog := (progress_tick plan []
    (x := ⟨now, .Tick, true, commandTypes seg, p'.state⟩) hc progress_start (by simp) htick
    hacc hread (Or.inl rfl) rfl rfl rfl).2
  cases p' with
  | Idle s =>
      obtain rfl : s = .Error := herror
      exact hprog
  | _ => cases herror

/-- One call of the continuation: the moment it makes is on time, and the progress of the request goes
on to the phase the call leaves. -/
lemma progress_follows {m : RemoteStateMachine} {now : ℤ} (op : Op) (hc : config.Timing)
    (hm : Rep config m p) (hpos : 0 < now) (hprog : Progress config plan past p)
    (htime : ∀ y ∈ past, y.now ≤ now) (hfollows : (moment config m now op).Follows) :
    ∃ p', Rep config (m.step config (Io.still now []) op).machine p' ∧
      OnTime config plan past (moment config m now op) ∧
      Progress config plan (past ++ [moment config m now op]) p' := by
  have hop : op.legal := by
    cases op with
    | ReportCommandResult commandId resultCode message => exact fun h => absurd hfollows h
    | _ => trivial
  obtain ⟨seg, p', heff, hrep, hsent, hafter, hacc, hread⟩ :=
    moment_effect op hc hm hpos hop
  refine ⟨p', hrep, ?_⟩
  have idle : seg = [] → p' = p → ¬ (moment config m now op).Ticks →
      OnTime config plan past (moment config m now op) ∧
        Progress config plan (past ++ [moment config m now op]) p' := by
    rintro rfl rfl hticks
    exact progress_idle hprog hticks hsent hafter
  cases op with
  | Tick =>
      cases heff with
      | quiet hq =>
          obtain rfl : p = .Idle .Stopped := hq
          exact hprog.elim
      | lifecycle hlife => cases hlife
      | @tick p t seg p' htick =>
          obtain rfl := hread t (by simp)
          exact progress_tick plan past hc hprog htime htick
            (fun command accepted h => hacc command accepted (List.mem_cons_of_mem _ h))
            (fun t h => hread t (List.mem_cons_of_mem _ h)) (Or.inl rfl) rfl hsent hafter
  | ReportCommandResult commandId resultCode message =>
      obtain rfl : resultCode = 0 := hfollows
      have hticks : ¬ (moment config m now (.ReportCommandResult commandId 0 message)).Ticks := by
        simp [Moment.Ticks, moment]
      generalize hout : (moment config m now (.ReportCommandResult commandId 0 message)).ok = ok
        at heff
      cases heff with
      | quiet _ => exact idle rfl rfl hticks
      | lifecycle hlife => cases hlife
      | captureFailed hcode | captureFailedLate hcode | focusFailed hcode => exact absurd rfl hcode
  | RequestCapture requestId delayMs autofocus =>
      have hok : (moment config m now (.RequestCapture requestId delayMs autofocus)).ok = false :=
        hfollows
      have hticks : ¬ (moment config m now (.RequestCapture requestId delayMs autofocus)).Ticks := by
        rintro (h | ⟨-, h⟩)
        · cases h
        · rw [hok] at h
          cases h
      generalize hout : (moment config m now (.RequestCapture requestId delayMs autofocus)).ok = ok
        at heff
      cases heff with
      | quiet _ => exact idle rfl rfl hticks
      | lifecycle hlife => cases hlife
      | @request plan' t seg p' _ _ _ htick =>
          -- an accepted request answers `true` when the sink accepts its commands
          have hstart := progress_first hc htick
            (fun command accepted h => hacc command accepted (by simp [h]))
            (fun t' h => (hread t' (by simp [h])).trans (hread t (by simp)).symm)
          have herror : (p'.state != .Error) = false := hout.symm.trans hok
          simp [hstart] at herror
  | SetClientCount count =>
      have hticks : ¬ (moment config m now (.SetClientCount count)).Ticks := by
        simp [Moment.Ticks, moment]
      generalize hout : (moment config m now (.SetClientCount count)).ok = ok at heff
      cases heff with
      | quiet _ => exact idle rfl rfl hticks
      | lifecycle hlife => cases hlife
  | _ => exact hfollows.elim

/-- The request itself, with the tick it makes: what is due without delay is done in the same call. -/
lemma progress_request {m : RemoteStateMachine} {requestId : Bytes} {delayMs t : ℤ}
    {autofocus : Bool} (hc : config.Timing) (hm : Rep config m p) (hpos : 0 < t)
    (hok : (moment config m t (.RequestCapture requestId delayMs autofocus)).ok = true) :
    ∃ p', Rep config (m.step config (Io.still t [])
        (.RequestCapture requestId delayMs autofocus)).machine p' ∧
      OnTime config ⟨requestId, delayMs, autofocus, t⟩ []
        (moment config m t (.RequestCapture requestId delayMs autofocus)) ∧
      Progress config ⟨requestId, delayMs, autofocus, t⟩
        [moment config m t (.RequestCapture requestId delayMs autofocus)] p' := by
  obtain ⟨seg, p', heff, hrep, hsent, hafter, hacc, hread⟩ :=
    moment_effect (.RequestCapture requestId delayMs autofocus) hc hm hpos trivial
  have hticks : (moment config m t (.RequestCapture requestId delayMs autofocus)).Ticks :=
    Or.inr ⟨⟨_, _, _, rfl⟩, hok⟩
  refine ⟨p', hrep, ?_⟩
  generalize hout : (moment config m t (.RequestCapture requestId delayMs autofocus)).ok = ok at heff
  cases heff with
  | quiet hq =>
      obtain rfl : ok = false := hq
      rw [hok] at hout
      cases hout
  | lifecycle hlife => cases hlife
  | @request plan now seg p' _ _ _ htick =>
      obtain rfl : plan.madeAt = t := hread _ (by simp)
      obtain rfl : now = plan.madeAt := hread _ (by simp)
      exact progress_tick plan [] hc progress_start (by simp) htick
        (fun command accepted h => hacc command accepted (by simp [h]))
        (fun t' h => hread t' (by simp [h])) hticks rfl hsent hafter

/-- The whole continuation, from any moment on. -/
lemma scheduled_from (hc : config.Timing) (script : List (ℤ × Op)) :
    ∀ {past : List Moment} {m : RemoteStateMachine} {p : Phase} {t : ℤ}, Rep config m p → 0 < t →
      Progress config plan past p → (∀ y ∈ past, y.now ≤ t) →
      List.IsChain (· ≤ ·) (t :: script.map Prod.fst) →
      (∀ x ∈ moments config m script, x.Follows) →
      AlwaysFrom (OnTime config plan) past (moments config m script) ∧
        (past ++ moments config m script).flatMap Moment.sent <+: plan.commands := by
  induction script with
  | nil =>
      intro past m p t _ _ hprog _ _ _
      refine ⟨trivial, ?_⟩
      simpa [moments] using hprog.order
  | cons call script ih =>
      intro past m p t hm hpos hprog htime hchain hfollows
      obtain ⟨now, op⟩ := call
      obtain ⟨hle, hchain'⟩ : t ≤ now ∧ List.IsChain (· ≤ ·) (now :: script.map Prod.fst) := by
        simpa using hchain
      obtain ⟨p', hrep, hontime, hprog'⟩ := progress_follows op hc hm (hpos.trans_le hle)
        hprog (fun y hy => (htime y hy).trans hle) (hfollows _ List.mem_cons_self)
      have htime' : ∀ y ∈ past ++ [moment config m now op], y.now ≤ now := by
        intro y hy
        rcases List.mem_append.mp hy with hy | hy
        · exact (htime y hy).trans hle
        · rw [List.mem_singleton.mp hy]
          exact le_rfl
      obtain ⟨halways, horder⟩ := ih hrep (hpos.trans_le hle) hprog' htime' hchain'
        fun x hx => hfollows x (List.mem_cons_of_mem _ hx)
      refine ⟨⟨hontime, halways⟩, ?_⟩
      simpa [moments] using horder

/-- **The schedule of a request.**  After any run, an accepted request and any continuation of
ticks, successful results, refused requests and changes of the client count, at any times that do
not go back, show exactly the schedule of the request. -/
theorem schedule_exact (port : ℤ) {tr : List Event} {m : RemoteStateMachine}
    (h : Run (configForPort port) tr m) (plan : Plan) (hpos : 0 < plan.madeAt)
    (hok : (moment (configForPort port) m plan.madeAt
      (.RequestCapture plan.requestId plan.delayMs plan.autofocus)).ok = true)
    (script : List (ℤ × Op)) (htimes : List.IsChain (· ≤ ·) (plan.madeAt :: script.map Prod.fst))
    (hfollows : ∀ x ∈ (moments (configForPort port) m
      ((plan.madeAt, .RequestCapture plan.requestId plan.delayMs plan.autofocus) :: script)).tail,
      x.Follows) :
    Scheduled (configForPort port) plan (moments (configForPort port) m
      ((plan.madeAt, .RequestCapture plan.requestId plan.delayMs plan.autofocus) :: script)) := by
  have hc := configForPort_timing port
  obtain ⟨⟨p, hist⟩, -⟩ := h.history hc
  obtain ⟨p', hrep, hontime, hprog⟩ := progress_request hc hist.rep hpos hok
  obtain ⟨halways, horder⟩ := scheduled_from hc script hrep hpos hprog (by simp [moment]) htimes
    hfollows
  exact ⟨horder, (always_iff_alwaysFrom _ _).mpr ⟨hontime, halways⟩⟩

/-- The script of a machine that waits for a request: it has the camera and the network, and has been
started. -/
def readyScript : List (ℤ × Op) :=
  [(1, .SetCameraReady true), (1, .SetWifiReady true), (1, .Start)]

/-- Ticks that come late, each after more than one time has passed, and the result of a command
between them. -/
def lateTicks : List (ℤ × Op) :=
  [(1500, .Tick), (2050, .Tick), (2100, .ReportCommandResult 1 0 []), (3100, .Tick), (3450, .Tick),
    (3600, .Tick), (6100, .Tick)]

theorem schedule_exact_late :
    Scheduled {} ⟨bytes "a", 2000, true, 1000⟩ (moments {} (play {} [] {} readyScript).2
      ((1000, .RequestCapture (bytes "a") 2000 true) :: lateTicks)) :=
  schedule_exact 0 (Run.play readyScript .init (by decide)) ⟨bytes "a", 2000, true, 1000⟩
    (by decide) (by decide) lateTicks (by decide) (by decide)

end LegacyAlpha
