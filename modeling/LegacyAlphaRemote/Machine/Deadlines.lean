import LegacyAlphaRemote.Machine.Justification
import LegacyAlphaRemote.Machine.Schedule

/-!
# Deadlines

The machine is driven by deadlines alone, so that one set too far away, or lost, would leave the
shutter pressed.  Every deadline the machine waits for was computed from a reading of the clock in the
run (`Recent`), and readings do not go back, so that none lies further ahead than the configuration
says (`DeadlinesBounded`).  Three ticks, the first late enough for the capture, the second for the
release and the third for the end of the cooldown, therefore bring every shot to its end.
-/

namespace LegacyAlpha

open RemoteStateMachine

/-! ## What is bounded -/

/-- The longest time from a request to its capture: the longest delay that is accepted, or the lead of
the autofocus where a request without delay asks for one. -/
def NativeConfig.longestDelayMs (config : NativeConfig) : ℤ :=
  max config.maxDelayMs config.immediateAutofocusLeadMs

/-- The longest time the shutter is held: the hold of a photo from the phone, or the failsafe of the
button. -/
def NativeConfig.longestHoldMs (config : NativeConfig) : ℤ :=
  max config.webShutterHoldMs config.physicalShutterFailsafeMs

/-- The deadlines the machine waits for in its state, `t` being the time. -/
structure DeadlinesBounded (config : NativeConfig) (t : ℤ) (m : RemoteStateMachine) : Prop where
  capture : m.state = .Countdown ∨ m.state = .Focusing →
    m.captureDeadlineMs ≤ t + config.longestDelayMs
  release : m.state = .Capturing → m.releaseDeadlineMs ≤ t + config.longestHoldMs
  cooldown : m.state = .Capturing ∨ m.state = .Cooldown →
    m.cooldownDeadlineMs ≤ t + config.cooldownMs

/-- A shot is under way, requested or taken.  A half-pressed button is no shot. -/
def RemoteStateMachine.Busy (m : RemoteStateMachine) : Prop :=
  m.state = .Countdown ∨ (m.state = .Focusing ∧ m.autofocusRequested = true) ∨
    m.state = .Capturing ∨ m.state = .Cooldown

/-- **The machine does not get stuck**: its deadlines are near, what `countdownRemainingMs` says fits
the `int` it is cast to, and three ticks bring a shot to its end. -/
structure NeverStuck (config : NativeConfig) (tr : List Event) (m : RemoteStateMachine) : Prop where
  deadlines : ∀ t, lastReading tr = some t → DeadlinesBounded config t m
  remaining : ∀ io : Io, (∀ e ∈ tr, e.NotAfter (io.clock io.reads)) →
    0 ≤ (m.countdownRemainingMs io).1 ∧ (m.countdownRemainingMs io).1 ≤ config.longestDelayMs ∧
      (BitVec.ofInt 32 (m.countdownRemainingMs io).1).toInt = (m.countdownRemainingMs io).1
  ticks : ∀ t, lastReading tr = some t → m.Busy → ∀ t₁ t₂ t₃, t + config.longestDelayMs ≤ t₁ →
    t₁ + config.longestHoldMs ≤ t₂ → max t₂ (t₁ + config.cooldownMs) ≤ t₃ →
    (play config tr m [(t₁, .Tick), (t₂, .Tick), (t₃, .Tick)]).2.state = .Armed ∧
      ScheduleClear (play config tr m [(t₁, .Tick), (t₂, .Tick), (t₃, .Tick)]).2

variable {config : NativeConfig} {m m' : RemoteStateMachine} {io : Io} {p p' : Phase} {op : Op}
  {ok : Bool} {n now t : ℤ} {tr seg : List Event}

/-! ## Readings of the clock -/

/-- A call appends to the readings what its clock says, in order. -/
lemma step_readings (config : NativeConfig) (m : RemoteStateMachine) (io : Io) (op : Op)
    (hreads : io.reads = 0) : ∃ k, readings (m.step config io op).io.trace =
      readings io.trace ++ (List.range k).map io.clock := by
  have threaded : Threaded fun _ io' => io'.clock = io.clock ∧
      readings io'.trace = readings io.trace ++ (List.range io'.reads).map io.clock := {
    of_next := fun h _ => h
    nowMs := fun {m io'} ⟨hclock, h⟩ => by
      refine ⟨hclock, ?_⟩
      show readings (io'.trace ++ [.Clock (io'.clock io'.reads)]) = _ ++ (List.range (_ + 1)).map _
      rw [readings_append, h, List.range_succ, List.map_append, List.append_assoc, hclock]
      rfl
    send := fun {m io'} type ⟨hclock, h⟩ => by
      have hkept : (m.send io' type 0 []).2.2.clock = io'.clock ∧
          (m.send io' type 0 []).2.2.reads = io'.reads := by
        simp only [RemoteStateMachine.send]
        split_ifs <;> exact ⟨rfl, rfl⟩
      refine ⟨hkept.1.trans hclock, ?_⟩
      rw [send_trace, readings_append, h, hkept.2]
      simp [readings, Event.command] }
  have hcalled : readings (io.trace ++ [.Call op m]) = readings io.trace := by
    simp [readings]
  have hentered : io.clock = io.clock ∧ readings (io.trace ++ [.Call op m]) =
      readings io.trace ++ (List.range io.reads).map io.clock := ⟨rfl, by simp [hcalled, hreads]⟩
  have hbody : _ ∧
      readings (m.perform config { io with trace := io.trace ++ [.Call op m] } op).io.trace =
        readings io.trace ++ _ := threaded.perform hentered op
  refine ⟨(m.step config io op).io.reads, ?_⟩
  show readings (_ ++ [Event.Returned op _ _]) = _
  rw [readings_append, hbody.2]
  simp [readings, step]

/-- **The clock of a run** is positive and does not go back. -/
lemma Run.readings_sorted (h : Run config tr m) :
    (readings tr).Pairwise (· ≤ ·) ∧ ∀ now ∈ readings tr, 0 < now := by
  induction h with
  | init => simp [readings]
  | @call tr m op clock answers hrun hmono hpos hpast hop ih =>
      obtain ⟨k, hk⟩ := step_readings config m { clock, answers, trace := tr } op rfl
      have hle : ∀ i, clock 0 ≤ clock i := fun i => hmono (Nat.zero_le i)
      rw [hk]
      constructor
      · refine List.pairwise_append.mpr ⟨ih.1, ?_, ?_⟩
        · rw [List.pairwise_map]
          exact List.pairwise_lt_range.imp fun hij => hmono (Nat.le_of_lt hij)
        · intro now hnow now' hnow'
          obtain ⟨i, -, rfl⟩ := List.mem_map.mp hnow'
          exact (hpast _ (mem_readings.mp hnow)).trans (hle i)
      · intro now hnow
        rcases List.mem_append.mp hnow with hnow | hnow
        · exact ih.2 now hnow
        · obtain ⟨i, -, rfl⟩ := List.mem_map.mp hnow
          exact lt_of_lt_of_le hpos (hle i)

/-- In a run, the last reading of the clock is the latest, and later than zero. -/
lemma Run.lastReading_max (h : Run config tr m) (ht : lastReading tr = some t) :
    0 < t ∧ ∀ now, .Clock now ∈ tr → now ≤ t := by
  obtain ⟨hsorted, hpos⟩ := h.readings_sorted
  obtain ⟨early, hearly⟩ := List.getLast?_eq_some_iff.mp ht
  have hread : readings tr = early ++ [t] := hearly
  rw [hread] at hsorted hpos
  refine ⟨hpos t (by simp), fun now hnow => ?_⟩
  rw [← mem_readings, hread] at hnow
  rcases List.mem_append.mp hnow with hnow | hnow
  · exact (List.pairwise_append.mp hsorted).2.2 now hnow t (by simp)
  · exact (List.mem_singleton.mp hnow).le

/-! ## Where the deadlines come from -/

/-- The deadline was set from a reading of the clock, at most `ahead` after it. -/
def Within (tr : List Event) (deadline ahead : ℤ) : Prop :=
  ∃ now, .Clock now ∈ tr ∧ deadline ≤ now + ahead

/-- The deadlines of a phase were set from readings in the trace, and lie ahead of them by no more
than the configuration says. -/
def Recent (config : NativeConfig) (tr : List Event) : Phase → Prop
  | .Idle _ | .HalfPress _ => True
  | .Countdown plan | .Focusing plan _ => Within tr (plan.captureAt config) config.longestDelayMs
  | .Capturing _ _ _ releaseAt cooldownAt =>
      Within tr releaseAt config.longestHoldMs ∧ Within tr cooldownAt config.cooldownMs
  | .Cooldown _ _ _ cooldownAt => Within tr cooldownAt config.cooldownMs

lemma Within.append {deadline ahead : ℤ} (h : Within tr deadline ahead) (seg : List Event) :
    Within (tr ++ seg) deadline ahead := by
  obtain ⟨now, hnow, hle⟩ := h
  exact ⟨now, List.mem_append_left seg hnow, hle⟩

lemma Recent.append (h : Recent config tr p) (seg : List Event) : Recent config (tr ++ seg) p := by
  cases p with
  | Idle _ | HalfPress _ => trivial
  | Countdown _ | Focusing _ _ | Cooldown _ _ _ _ => exact Within.append h seg
  | Capturing _ _ _ _ _ => exact ⟨h.1.append seg, h.2.append seg⟩

lemma Plan.captureAt_le {plan : Plan} (h : plan.delayMs ≤ config.maxDelayMs) :
    plan.captureAt config ≤ plan.madeAt + config.longestDelayMs := by
  have hdelay := le_max_left config.maxDelayMs config.immediateAutofocusLeadMs
  have hlead := le_max_right config.maxDelayMs config.immediateAutofocusLeadMs
  rw [Plan.captureAt, NativeConfig.longestDelayMs]
  split_ifs <;> omega

lemma recent_capture {focus : ℤ} {physical : Bool} (tr : List Event)
    (h : CaptureEffect config n focus physical seg p') : Recent config (tr ++ seg) p' := by
  cases h with
  | rejected => trivial
  | accepted held =>
      refine ⟨⟨held, by simp, ?_⟩, held, by simp, le_rfl⟩
      have hweb := le_max_left config.webShutterHoldMs config.physicalShutterFailsafeMs
      have hfailsafe := le_max_right config.webShutterHoldMs config.physicalShutterFailsafeMs
      rw [NativeConfig.longestHoldMs]
      split_ifs <;> omega

lemma recent_tick (htick : TickEffect config n now p seg p') (h : Recent config tr p) :
    Recent config (tr ++ seg) p' := by
  cases htick with
  | rest _ => exact h.append _
  | focusRejected _ _ | releaseRejected _ | releaseFinish _ _ | finish _ => trivial
  | focus _ _ _ => exact Within.append h _
  | focusCapture _ _ _ hcap =>
      rw [List.append_cons]
      exact recent_capture _ hcap
  | capture _ _ hcap | captureFocusing _ hcap | captureHalfPress hcap => exact recent_capture _ hcap
  | release _ _ => exact h.2.append _

lemma recent_effect (hc : config.Timing) (heff : Effect config n p op seg ok p')
    (h : Recent config tr p) : Recent config (tr ++ seg) p' := by
  cases heff with
  | quiet _ => exact h.append _
  | lifecycle _ | stop _ | cameraLost | wifiLost | cancel _ _ | focusRejected | focusPress
  | focusRelease _ | captureFailed _ | captureFailedLate _ | focusFailed _ => trivial
  | @request plan now seg p _ hmax _ htick =>
      rw [List.append_cons, List.append_cons]
      exact recent_tick htick ⟨plan.madeAt, by simp, plan.captureAt_le hmax⟩
  | press _ _ hcap => exact recent_capture _ hcap
  | pressScheduled _ _ hcap =>
      rw [← List.append_assoc]
      exact recent_capture _ hcap
  | @unpress c f r cd pressed now seg p _ htick =>
      rw [List.append_cons, List.append_cons]
      refine recent_tick htick ⟨⟨pressed, by simp, ?_⟩, (h.2.append _).append _⟩
      have hweb := le_max_left config.webShutterHoldMs config.physicalShutterFailsafeMs
      have hpos := hc.webHold
      rw [NativeConfig.longestHoldMs]
      omega
  | tick htick =>
      rw [List.append_cons]
      exact recent_tick htick (h.append _)

lemma History.recent (hc : config.Timing) (h : History config tr m p) : Recent config tr p := by
  induction h with
  | init => trivial
  | @call tr m m' p p' op seg ok hist hm hids hop heff hm' ih =>
      rw [List.append_cons tr]
      exact (recent_effect hc heff (ih.append _)).append _

/-! ## The deadlines of the machine -/

lemma Within.le {deadline ahead : ℤ} (h : Within tr deadline ahead)
    (ht : ∀ now, .Clock now ∈ tr → now ≤ t) : deadline ≤ t + ahead := by
  obtain ⟨now, hnow, hle⟩ := h
  have := ht now hnow
  omega

lemma NativeConfig.Timing.longestDelayMs_pos (hc : config.Timing) : 0 < config.longestDelayMs :=
  lt_of_lt_of_le hc.immediateLead (le_max_right _ _)

lemma NativeConfig.Timing.longestHoldMs_pos (hc : config.Timing) : 0 < config.longestHoldMs :=
  lt_of_lt_of_le hc.webHold (le_max_left _ _)

/-- The capture deadline of a machine that counts down, at a time after every reading. -/
lemma captureDeadline_le (hc : config.Timing) (hm : Rep config m p) (h : Recent config tr p)
    (ht : ∀ now, .Clock now ∈ tr → now ≤ t) (hpos : 0 < m.captureDeadlineMs ∨ 0 < t)
    (hstate : m.state = .Countdown ∨ m.state = .Focusing) :
    m.captureDeadlineMs ≤ t + config.longestDelayMs := by
  have hlead := hc.longestDelayMs_pos
  rw [hm.state] at hstate
  cases p with
  | Countdown plan =>
      rw [RepWaiting.captureDeadlineMs (RepCountdown.toRepWaiting hm.phase)]
      exact Within.le h ht
  | Focusing plan f =>
      rw [RepFocusing.captureDeadlineMs hm.phase]
      exact Within.le h ht
  | HalfPress f =>
      have hnone := RepHalfPress.captureDeadlineMs hm.phase
      omega
  | Idle s =>
      have hrest := RepIdle.resting hm.phase
      rcases hstate with hstate | hstate
      all_goals
        obtain rfl : s = _ := hstate
        cases hrest
  | Capturing _ _ _ _ _ | Cooldown _ _ _ _ => simp [Phase.state] at hstate

lemma deadlinesBounded (hc : config.Timing) (hm : Rep config m p) (h : Recent config tr p)
    (hpos : 0 < t) (ht : ∀ now, .Clock now ∈ tr → now ≤ t) : DeadlinesBounded config t m := by
  refine ⟨captureDeadline_le hc hm h ht (Or.inr hpos), fun hstate => ?_, fun hstate => ?_⟩
  · rw [hm.state] at hstate
    cases p with
    | Capturing c f ph r cd =>
        rw [RepCapturing.releaseDeadlineMs hm.phase]
        exact h.1.le ht
    | Idle s =>
        have hrest := RepIdle.resting hm.phase
        obtain rfl : s = .Capturing := hstate
        cases hrest
    | Countdown _ | Focusing _ _ | HalfPress _ | Cooldown _ _ _ _ => cases hstate
  · rw [hm.state] at hstate
    cases p with
    | Capturing c f ph r cd =>
        rw [RepCapturing.cooldownDeadlineMs hm.phase]
        exact h.2.le ht
    | Cooldown c f r cd =>
        rw [RepCooldown.cooldownDeadlineMs hm.phase]
        exact Within.le h ht
    | Idle s =>
        have hrest := RepIdle.resting hm.phase
        rcases hstate with hstate | hstate
        all_goals
          obtain rfl : s = _ := hstate
          cases hrest
    | Countdown _ | Focusing _ _ | HalfPress _ => simp [Phase.state] at hstate

/-- What is left of a countdown, at a time after every reading. -/
lemma countdownRemainingMs_mem (hc : config.Timing) (hm : Rep config m p) (h : Recent config tr p)
    (hio : ∀ now, .Clock now ∈ tr → now ≤ io.clock io.reads) :
    0 ≤ (m.countdownRemainingMs io).1 ∧
      (m.countdownRemainingMs io).1 ≤ config.longestDelayMs := by
  have hlead := hc.longestDelayMs_pos
  rw [countdownRemainingMs]
  split_ifs with hnone
  · exact ⟨le_rfl, hlead.le⟩
  · simp only [Bool.or_eq_true, Bool.and_eq_true, bne_iff_ne, decide_eq_true_eq, not_or, not_and,
      not_not, not_le] at hnone
    have hstate : m.state = .Countdown ∨ m.state = .Focusing := by
      by_cases hcountdown : m.state = .Countdown
      · exact Or.inl hcountdown
      · exact Or.inr (hnone.1 hcountdown)
    have hle := captureDeadline_le hc hm h hio (Or.inl hnone.2) hstate
    simp only [Io.nowMs]
    split_ifs <;> omega

lemma configForPort_longestDelayMs (port : ℤ) : (configForPort port).longestDelayMs = 10000 := by
  rw [NativeConfig.longestDelayMs, configForPort]
  split_ifs <;> rfl

/-! ## The way out -/

/-- The shot is taken, or over, and its deadlines are counted from `t`: what the first of the three
ticks leads to. -/
def Ending (config : NativeConfig) (t : ℤ) : Phase → Prop
  | .Idle s => s = .Armed
  | .Capturing _ _ _ releaseAt cooldownAt =>
      releaseAt ≤ t + config.longestHoldMs ∧ cooldownAt ≤ t + config.cooldownMs
  | .Cooldown _ _ _ cooldownAt => cooldownAt ≤ t + config.cooldownMs
  | _ => False

/-- The shutter is released, or the shot over: what the second of the three ticks leads to. -/
def Released (config : NativeConfig) (t : ℤ) : Phase → Prop
  | .Idle s => s = .Armed
  | .Cooldown _ _ _ cooldownAt => cooldownAt ≤ t + config.cooldownMs
  | _ => False

/-- The sink accepts every command of the call, and the clock says `now` throughout. -/
def Still (now : ℤ) (seg : List Event) : Prop :=
  (∀ command accepted, .Sent command accepted ∈ seg → accepted = true) ∧
    ∀ t, .Clock t ∈ seg → t = now

lemma Still.tail {e : Event} (h : Still now (e :: seg)) : Still now seg :=
  ⟨fun command accepted hsent => h.1 command accepted (List.mem_cons_of_mem e hsent),
    fun t ht => h.2 t (List.mem_cons_of_mem e ht)⟩

lemma Still.accepted {id : ℤ} {type : CommandType} {accepted : Bool}
    (h : Still now (.command id type accepted :: seg)) : accepted = true :=
  h.1 _ accepted List.mem_cons_self

lemma ending_capture {focus : ℤ} {physical : Bool}
    (h : CaptureEffect config n focus physical seg p') (hstill : Still now seg) :
    Ending config now p' := by
  cases h with
  | rejected => cases hstill.accepted
  | accepted held =>
      obtain rfl := hstill.2 held (by simp)
      have hweb := le_max_left config.webShutterHoldMs config.physicalShutterFailsafeMs
      have hfailsafe := le_max_right config.webShutterHoldMs config.physicalShutterFailsafeMs
      refine ⟨?_, le_rfl⟩
      rw [NativeConfig.longestHoldMs]
      split_ifs <;> omega

/-- The phase of a shot whose capture is due by `now`, or is made and was due by then. -/
def DueBy (config : NativeConfig) (now : ℤ) : Phase → Prop
  | .Countdown plan | .Focusing plan _ => plan.captureAt config ≤ now
  | .HalfPress _ => False
  | p => Ending config now p

/-- The first tick takes the shot, if it has not been taken. -/
lemma ending_tick (htick : TickEffect config n now p seg p') (hstill : Still now seg)
    (h : DueBy config now p) : Ending config now p' := by
  cases htick with
  | rest hdue =>
      cases p with
      | Countdown plan => exact absurd (Or.inr h) hdue
      | Focusing plan f => exact absurd h hdue
      | HalfPress f => exact h.elim
      | Idle _ | Capturing _ _ _ _ _ | Cooldown _ _ _ _ => exact h
  | focusRejected _ _ | releaseRejected _ => cases hstill.accepted
  | focus _ _ hlt => exact absurd h (not_le.mpr hlt)
  | focusCapture _ _ _ hcap => exact ending_capture hcap hstill.tail
  | capture _ _ hcap | captureFocusing _ hcap | captureHalfPress hcap =>
      exact ending_capture hcap hstill
  | release _ _ => exact h.2
  | releaseFinish _ _ | finish _ => rfl

/-- The second tick releases the shutter, if the first has not. -/
lemma released_tick (htick : TickEffect config n now p seg p') (hstill : Still now seg)
    (h : Ending config t p) (hnow : t + config.longestHoldMs ≤ now) : Released config t p' := by
  cases htick with
  | rest hdue =>
      cases p with
      | Capturing c f ph r cd => exact absurd (h.1.trans hnow) hdue
      | Countdown _ | Focusing _ _ | HalfPress _ => exact h.elim
      | Idle _ | Cooldown _ _ _ _ => exact h
  | releaseRejected _ => cases hstill.accepted
  | release _ _ => exact h.2
  | releaseFinish _ _ | finish _ => rfl
  | focusRejected _ _ | focus _ _ _ | focusCapture _ _ _ _ | capture _ _ _ | captureFocusing _ _
  | captureHalfPress _ => exact h.elim

/-- The third tick ends the cooldown, if there still is one. -/
lemma armed_tick (htick : TickEffect config n now p seg p') (h : Released config t p)
    (hnow : t + config.cooldownMs ≤ now) : p' = .Idle .Armed := by
  cases htick with
  | rest hdue =>
      cases p with
      | Cooldown c f r cd => exact absurd (le_trans h hnow) hdue
      | Idle s => exact congrArg Phase.Idle h
      | Countdown _ | Focusing _ _ | HalfPress _ | Capturing _ _ _ _ _ => exact h.elim
  | finish _ => rfl
  | _ => exact h.elim

/-- A tick with an accepting sink and a clock that stands still. -/
lemma tick_still (hc : config.Timing) (hm : Rep config m p) (hrun : p ≠ .Idle .Stopped)
    (hpos : 0 < now) (tr : List Event) :
    ∃ seg p', TickEffect config m.nextCommandId now p seg p' ∧ Still now seg ∧
      Rep config (m.step config (Io.still now tr) .Tick).machine p' := by
  obtain ⟨seg, p', heff, hrep, -, hread, hacc⟩ :=
    step_effect (Io.still now tr) hc ⟨monotone_const, hpos⟩ hm .Tick trivial
  have hstill : Still now seg := by
    refine ⟨fun command accepted hsent => ?_, fun t ht => ?_⟩
    · obtain ⟨i, hi⟩ := hacc command accepted hsent
      exact hi
    · obtain ⟨i, hi⟩ := hread t ht
      exact hi
  cases heff with
  | quiet hq => exact absurd hq hrun
  | lifecycle hlife => cases hlife
  | @tick p now' seg p' htick =>
      obtain rfl := hstill.2 now' List.mem_cons_self
      exact ⟨seg, p', htick, hstill.tail, hrep⟩

lemma Ending.ne_stopped (h : Ending config t p) : p ≠ .Idle .Stopped := by
  rintro rfl
  cases h

lemma Released.ne_stopped (h : Released config t p) : p ≠ .Idle .Stopped := by
  rintro rfl
  cases h

lemma DueBy.ne_stopped (h : DueBy config t p) : p ≠ .Idle .Stopped := by
  rintro rfl
  cases h

/-- A shot that is under way is due by the time its deadlines are. -/
lemma dueBy_of_busy (hc : config.Timing) (hm : Rep config m p) (h : Recent config tr p)
    (ht : ∀ now, .Clock now ∈ tr → now ≤ t) (hbusy : m.Busy)
    (hnow : t + config.longestDelayMs ≤ now) : DueBy config now p := by
  have hlead := hc.longestDelayMs_pos
  rw [Busy, hm.state] at hbusy
  cases p with
  | Countdown plan | Focusing plan f => exact (Within.le h ht).trans hnow
  | HalfPress f =>
      have hnone := RepHalfPress.autofocusRequested hm.phase
      simp [Phase.state, hnone] at hbusy
  | Capturing c f ph r cd =>
      have hrelease := h.1.le ht
      have hcooldown := h.2.le ht
      refine ⟨?_, ?_⟩ <;> omega
  | Cooldown c f r cd =>
      have hcooldown := Within.le h ht
      show cd ≤ now + config.cooldownMs
      omega
  | Idle s =>
      have hrest := RepIdle.resting hm.phase
      rcases hbusy with hstate | ⟨hstate, -⟩ | hstate | hstate
      all_goals
        obtain rfl : s = _ := hstate
        cases hrest

/-- Three ticks bring a shot to its end. -/
lemma armed_after_ticks (hc : config.Timing) (hm : Rep config m p) (hdue : DueBy config now p)
    (hpos : 0 < now) {t₂ t₃ : ℤ} (h₂ : now + config.longestHoldMs ≤ t₂)
    (h₃ : max t₂ (now + config.cooldownMs) ≤ t₃) (tr : List Event) :
    Rep config (play config tr m [(now, .Tick), (t₂, .Tick), (t₃, .Tick)]).2 (.Idle .Armed) := by
  have hhold := hc.longestHoldMs_pos
  have h₂₃ := (le_max_left _ _).trans h₃
  have hcool := (le_max_right _ _).trans h₃
  obtain ⟨seg₁, p₁, htick₁, hstill₁, hrep₁⟩ := tick_still hc hm hdue.ne_stopped hpos tr
  have hending := ending_tick htick₁ hstill₁ hdue
  obtain ⟨seg₂, p₂, htick₂, hstill₂, hrep₂⟩ := tick_still hc hrep₁ hending.ne_stopped
    (show 0 < t₂ by omega) (m.step config (Io.still now tr) .Tick).io.trace
  have hreleased := released_tick htick₂ hstill₂ hending h₂
  obtain ⟨seg₃, p₃, htick₃, -, hrep₃⟩ := tick_still hc hrep₂ hreleased.ne_stopped
    (show 0 < t₃ by omega) (play config tr m [(now, .Tick), (t₂, .Tick)]).1
  obtain rfl := armed_tick htick₃ hreleased hcool
  exact hrep₃

/-- **The machine never gets stuck busy**, in every run of the program's own configuration.  Each
deadline was set from a reading in the trace, and the last reading is the latest, so that the
deadlines are near; and from any busy state one late tick takes the photo, the next releases the
shutter and the third ends the cooldown. -/
theorem neverStuck (port : ℤ) (h : Run (configForPort port) tr m) :
    NeverStuck (configForPort port) tr m := by
  have hc := configForPort_timing port
  obtain ⟨⟨p, hist⟩, -⟩ := h.history hc
  have hrecent := hist.recent hc
  refine ⟨fun t ht => ?_, fun io hio => ?_, fun t ht hbusy t₁ t₂ t₃ h₁ h₂ h₃ => ?_⟩
  · obtain ⟨hpos, hmax⟩ := h.lastReading_max ht
    exact deadlinesBounded hc hist.rep hrecent hpos hmax
  · obtain ⟨hnonneg, hle⟩ := countdownRemainingMs_mem hc hist.rep hrecent fun now hnow => hio _ hnow
    refine ⟨hnonneg, hle, ?_⟩
    rw [configForPort_longestDelayMs] at hle
    rw [BitVec.toInt_ofInt]
    exact Int.bmod_eq_of_le (by omega) (by omega)
  · obtain ⟨hpos, hmax⟩ := h.lastReading_max ht
    have hlead := hc.longestDelayMs_pos
    have harmed := armed_after_ticks hc hist.rep (dueBy_of_busy hc hist.rep hrecent hmax hbusy h₁)
      (by omega) h₂ h₃ tr
    exact ⟨harmed.state, RepIdle.clear harmed.phase⟩

/-- A request that is followed by the button, which takes the photo early and releases the shutter by
hand: the run ends in the cooldown of that photo. -/
theorem neverStuck_pressed :
    (play {} [] {} (readyScript ++ [(1000, .RequestCapture (bytes "a") 2000 true),
        (2500, .PhysicalShutter true), (2600, .PhysicalShutter false)])).2.state = .Cooldown ∧
      NeverStuck {} (play {} [] {} (readyScript ++ [(1000, .RequestCapture (bytes "a") 2000 true),
          (2500, .PhysicalShutter true), (2600, .PhysicalShutter false)])).1
        (play {} [] {} (readyScript ++ [(1000, .RequestCapture (bytes "a") 2000 true),
          (2500, .PhysicalShutter true), (2600, .PhysicalShutter false)])).2 :=
  ⟨by decide, neverStuck 0 (Run.play _ .init (by decide))⟩

end LegacyAlpha
