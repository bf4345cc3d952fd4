import LegacyAlphaRemote.Machine.Runs
import LegacyAlphaRemote.Runtime.Calls
import LegacyAlphaRemote.Runtime.Forwarding

/-!
# What the camera's screen shows

The screen is to show the state, so that every tick of a session that Java refuses nothing in should
leave the text of the state as the last one Java has accepted (`ScreenCurrent`).

An update that is not forced hands the text over only if it is not the one that was handed over last,
and `updateScreen` remembers a text whatever Java answers.  So a text that was refused is not handed
over again as long as it stays the same.  `screenCurrent_iff` says that this is the only way in which
the screen falls behind.

* `screenUpdates` — the texts handed to Java, with its answers.
* `Remembers` — the text remembered is the last of them, and a session has handed one over; kept by
  every operation.
* `screenUpdates_tick` — what a tick hands over.
-/

namespace LegacyAlpha

open NativeRuntime

/-! ## The texts in a trace -/

/-- The text that an event hands to Java for the screen, with the answer. -/
def Event.screenUpdate? : Event → Option (Bytes × Bool)
  | .Sent command accepted =>
      if command.type = .UpdateScreen then some (command.text, accepted) else none
  | _ => none

/-- The texts handed to Java for the screen, in their order, with the answers. -/
def screenUpdates (es : List Event) : List (Bytes × Bool) :=
  es.filterMap Event.screenUpdate?

/-- The last text handed to Java, accepted or not, with which `updateScreen` compares. -/
def lastSent (es : List Event) : Option Bytes :=
  ((screenUpdates es).map Prod.fst).getLast?

/-- The last text Java has accepted, which is what the screen shows. -/
def lastShown (es : List Event) : Option Bytes :=
  (((screenUpdates es).filter Prod.snd).map Prod.fst).getLast?

/-- The events of some steps, in their order. -/
def eventsOf (steps : List RuntimeStep) : List Event :=
  steps.flatMap RuntimeStep.trace

/-- The text of a tick: `screenText` of the state that the machine's own step of the tick makes of the
one it meets, at the time at which the tick reads it.  An update leaves that state as it is, so that it is
the one the tick leaves. -/
def NativeRuntime.tickText (assets : Assets) (config : NativeConfig) (rt : NativeRuntime)
    (clock : ℕ → ℤ) (answers : ℕ → Bool) : Bytes :=
  let out := operate config rt { clock, answers } .Tick
  (out.runtime.screenText assets config out.io).1

/-- A tick of a session, in which nothing is refused. -/
structure RuntimeStep.QuietTick (assets : Assets) (target : Target) (config : NativeConfig)
    (s : RuntimeStep) (clock : ℕ → ℤ) (answers : ℕ → Bool) : Prop where
  step : s = s.before.step assets target config .ServerTick clock answers
  started : s.before.started = true
  accepting : Accepting s.trace

/-- **The screen is never left stale**: a tick in which nothing is refused leaves the text of the state
that it leaves on the screen. -/
def ScreenCurrent (assets : Assets) (target : Target) (config : NativeConfig)
    (steps : List RuntimeStep) : Prop :=
  ∀ past s rest clock answers, steps = past ++ s :: rest →
    s.QuietTick assets target config clock answers →
    lastShown (eventsOf (past ++ [s])) = some (s.before.tickText assets config clock answers)

/-- Such a tick comes when Java has accepted the last text it was handed, or the text of the state it
leaves is another one. -/
def RefusedTextsChange (assets : Assets) (target : Target) (config : NativeConfig)
    (steps : List RuntimeStep) : Prop :=
  ∀ past s rest clock answers, steps = past ++ s :: rest →
    s.QuietTick assets target config clock answers →
    lastShown (eventsOf past) = lastSent (eventsOf past) ∨
      lastSent (eventsOf past) ≠ some (s.before.tickText assets config clock answers)

variable {assets : Assets} {target : Target} {config : NativeConfig} {rt rt' : NativeRuntime}
  {io io' : Io} {op : RuntimeOp} {steps : List RuntimeStep} {es fs : List Event}
  {updates : List (Bytes × Bool)} {clock : ℕ → ℤ} {answers : ℕ → Bool}

lemma screenUpdates_append (es fs : List Event) :
    screenUpdates (es ++ fs) = screenUpdates es ++ screenUpdates fs :=
  List.filterMap_append

lemma eventsOf_append (steps rest : List RuntimeStep) :
    eventsOf (steps ++ rest) = eventsOf steps ++ eventsOf rest :=
  List.flatMap_append

lemma eventsOf_concat (steps : List RuntimeStep) (s : RuntimeStep) :
    eventsOf (steps ++ [s]) = eventsOf steps ++ s.trace := by
  rw [eventsOf_append]
  simp [eventsOf]

/-- What is accepted is shown, so that the last text handed over is on the screen. -/
lemma Accepting.lastShown (h : Accepting es) : lastShown es = lastSent es := by
  have hall : (screenUpdates es).filter Prod.snd = screenUpdates es := by
    refine List.filter_eq_self.mpr fun update hupdate => ?_
    obtain ⟨e, he, hsome⟩ := List.mem_filterMap.mp hupdate
    cases e with
    | Sent command accepted =>
        rw [Event.screenUpdate?] at hsome
        split_ifs at hsome
        rw [← Option.some.inj hsome]
        exact h command accepted he
    | Call _ _ | Clock _ | Returned _ _ _ => exact nomatch hsome
  rw [LegacyAlpha.lastShown, hall, lastSent]

/-- The event is no refusal. -/
def Event.accepts : Event → Bool
  | .Sent _ accepted => accepted
  | _ => true

lemma accepting_of_all (h : es.all Event.accepts = true) : Accepting es :=
  fun _ _ hsent => List.all_eq_true.mp h _ hsent

/-! ## What a part of an operation hands over -/

lemma screenUpdates_nowMs (io : Io) : screenUpdates io.nowMs.2.trace = screenUpdates io.trace := by
  simp [Io.nowMs, screenUpdates, Event.screenUpdate?]

/-- The machine sends commands for the camera only. -/
lemma screenUpdates_perform (m : RemoteStateMachine) (io : Io) (op : Op) :
    screenUpdates (m.perform config io op).io.trace = screenUpdates io.trace := by
  have hthreaded : CameraThreaded fun _ io' => screenUpdates io'.trace = screenUpdates io.trace := {
    of_next := fun h _ => h
    nowMs := fun h => by rw [screenUpdates_nowMs, h]
    send := fun type htype h => by
      rw [send_trace, screenUpdates_append, h]
      simp [screenUpdates, Event.screenUpdate?, Event.command, htype] }
  exact hthreaded.perform rfl op

lemma screenUpdates_operate (rt : NativeRuntime) (io : Io) (op : Op) :
    screenUpdates (operate config rt io op).io.trace = screenUpdates io.trace := by
  rw [operate, RemoteStateMachine.step]
  dsimp only
  rw [screenUpdates_append, screenUpdates_perform]
  simp [screenUpdates, Event.screenUpdate?]

lemma screenUpdates_countdown (m : RemoteStateMachine) (io : Io) :
    screenUpdates (m.countdownRemainingMs io).2.trace = screenUpdates io.trace := by
  rw [RemoteStateMachine.countdownRemainingMs]
  split_ifs
  · rfl
  · exact screenUpdates_nowMs io

lemma screenUpdates_screenText (rt : NativeRuntime) (io : Io) :
    screenUpdates (rt.screenText assets config io).2.trace = screenUpdates io.trace := by
  rw [screenText]
  dsimp only
  split_ifs
  · exact (screenUpdates_countdown _ _).trans (screenUpdates_countdown _ _)
  · exact screenUpdates_countdown _ _

/-- An update in a session hands the text over when it is forced or the text has changed. -/
lemma updateScreen_started (h : rt.started = true) (io : Io) (force : Bool) :
    updateScreen assets config rt io force =
      if force = false ∧ (rt.screenText assets config io).1 = rt.previousScreen then
        (rt, (rt.screenText assets config io).2)
      else ({ rt with previousScreen := (rt.screenText assets config io).1 },
        ((rt.screenText assets config io).2.dispatch
          { id := 0, type := .UpdateScreen, text := (rt.screenText assets config io).1 }).2) := by
  rw [updateScreen, if_neg (by simp [h])]
  cases force <;> simp

lemma screenUpdates_updateScreen (assets : Assets) (config : NativeConfig) (h : rt.started = true)
    (io : Io) (force : Bool) :
    ∃ accepted, screenUpdates (updateScreen assets config rt io force).2.trace =
      screenUpdates io.trace ++
        if force = false ∧ (rt.screenText assets config io).1 = rt.previousScreen then []
        else [((rt.screenText assets config io).1, accepted)] := by
  refine ⟨(rt.screenText assets config io).2.answers (rt.screenText assets config io).2.sends, ?_⟩
  rw [updateScreen_started h]
  split_ifs
  · rw [screenUpdates_screenText, List.append_nil]
  · rw [Io.dispatch, screenUpdates_append, screenUpdates_screenText]
    simp [screenUpdates, Event.screenUpdate?]

/-! ## What is remembered -/

/-- The text remembered is the last one handed over, and a session has handed one over. -/
structure Remembers (rt : NativeRuntime) (updates : List (Bytes × Bool)) : Prop where
  previousScreen : rt.previousScreen = ((updates.map Prod.fst).getLast?).getD []
  started : rt.started = true → updates ≠ []

/-- A forced update, whatever was remembered before. -/
lemma remembers_forced (h : rt.started = true) (io : Io) :
    Remembers (updateScreen assets config rt io true).1
      (updates ++ screenUpdates (updateScreen assets config rt io true).2.trace) := by
  obtain ⟨accepted, hupdates⟩ := screenUpdates_updateScreen assets config h io true
  rw [hupdates, updateScreen_started h, if_neg (by simp), if_neg (by simp), ← List.append_assoc]
  exact ⟨by simp, fun _ => by simp⟩

lemma Remembers.updateScreen (h : Remembers rt (updates ++ screenUpdates io.trace)) (force : Bool) :
    Remembers (updateScreen assets config rt io force).1
      (updates ++ screenUpdates (updateScreen assets config rt io force).2.trace) := by
  by_cases hstarted : rt.started = true
  · obtain ⟨accepted, hupdates⟩ :=
      screenUpdates_updateScreen assets config hstarted io force
    rw [hupdates, updateScreen_started hstarted]
    split_ifs
    · rw [List.append_nil]
      exact h
    · rw [← List.append_assoc]
      exact ⟨by simp, fun _ => by simp⟩
  · rw [NativeRuntime.updateScreen, if_pos (by simp [hstarted])]
    exact h

/-- **Every operation but `start` and `stop` keeps it.** -/
lemma Remembers.perform (h : Remembers rt (updates ++ screenUpdates io.trace))
    (hstart : ∀ random serverStarts, op ≠ .Start random serverStarts) (hstop : op ≠ .Stop) :
    Remembers (rt.perform assets target config io op).runtime
      (updates ++ screenUpdates (rt.perform assets target config io op).io.trace) := by
  have hparts : Parts assets config op (rt, io) ((rt.perform assets target config io op).runtime,
      (rt.perform assets target config io op).io) := parts_perform rt io hstart hstop
  refine hparts.keeps (P := fun rt io => Remembers rt (updates ++ screenUpdates io.trace))
    (fun hpart hs => ?_) h
  cases hpart with
  | read rt io =>
      dsimp only
      rw [screenUpdates_nowMs]
      exact hs
  | operate hinner rt io =>
      dsimp only
      rw [screenUpdates_operate]
      exact ⟨hs.previousScreen, hs.started⟩
  | screen rt io force => exact hs.updateScreen force
  | @set rt _ hsets io =>
      cases op with
      | HandleRequest _ _ =>
          obtain ⟨_, _, _, rfl⟩ := hsets
          exact ⟨hs.previousScreen, hs.started⟩
      | SetWifiState _ _ _ _ _ _ | ServerError _ =>
          obtain rfl := hsets
          exact ⟨hs.previousScreen, hs.started⟩
      | SetPreview data width height source error =>
          obtain rfl := hsets
          have hsession := setPreview_session rt data width height source error
          have htexts := setPreview_texts rt data width height source error
          exact ⟨htexts.1.trans hs.previousScreen, fun hstarted =>
            hs.started (hsession.2.1.symm.trans hstarted)⟩
      | _ => exact hsets.elim

lemma Remembers.start (h : Remembers rt (updates ++ screenUpdates io.trace)) (random : ℕ)
    (serverStarts : Bool) :
    Remembers (rt.start assets config io random serverStarts).runtime
      (updates ++ screenUpdates (rt.start assets config io random serverStarts).io.trace) := by
  rw [NativeRuntime.start]
  split_ifs with hstarted hserver
  · exact h
  · dsimp only
    rw [screenUpdates_operate, screenUpdates_operate]
    exact ⟨h.previousScreen, h.started⟩
  · exact remembers_forced (by rfl) _

lemma Remembers.stop (h : Remembers rt (updates ++ screenUpdates io.trace)) :
    Remembers (rt.stop config io).runtime
      (updates ++ screenUpdates (rt.stop config io).io.trace) := by
  rw [NativeRuntime.stop]
  split_ifs
  · exact h
  · dsimp only
    rw [screenUpdates_operate]
    exact ⟨h.previousScreen, fun hstarted => Bool.noConfusion hstarted⟩

/-- **One step** keeps the record: the text that the runtime remembers is the last one it has handed
over. -/
lemma Remembers.step (h : Remembers rt updates) (op : RuntimeOp) (clock : ℕ → ℤ)
    (answers : ℕ → Bool) :
    Remembers (rt.step assets target config op clock answers).after
      (updates ++ screenUpdates (rt.step assets target config op clock answers).trace) := by
  have hbefore : Remembers rt
      (updates ++ screenUpdates ({ clock, answers } : Io).trace) := by
    simpa [screenUpdates] using h
  cases op with
  | Start random serverStarts => exact hbefore.start random serverStarts
  | Stop => exact hbefore.stop
  | _ => exact hbefore.perform (fun _ _ => nofun) nofun

theorem RuntimePath.remembers (hpath : RuntimePath assets target config rt steps rt') :
    ∀ {updates}, Remembers rt updates →
      Remembers rt' (updates ++ screenUpdates (eventsOf steps)) := by
  induction hpath with
  | refl rt =>
      intro updates h
      simpa [eventsOf, screenUpdates] using h
  | step op clock answers hrest ih =>
      intro updates h
      rw [eventsOf, List.flatMap_cons, screenUpdates_append, ← List.append_assoc]
      exact ih (h.step op clock answers)

/-! ## Ticks -/

/-- A tick hands the text of the state over, unless it is the one remembered. -/
lemma screenUpdates_tick (assets : Assets) (target : Target) (config : NativeConfig)
    (h : rt.started = true) (clock : ℕ → ℤ) (answers : ℕ → Bool) :
    ∃ accepted, screenUpdates (rt.step assets target config .ServerTick clock answers).trace =
      if rt.tickText assets config clock answers = rt.previousScreen then []
      else [(rt.tickText assets config clock answers, accepted)] := by
  let out := operate config rt { clock, answers } .Tick
  have hstarted : out.runtime.started = true := h
  have htrace : (rt.step assets target config .ServerTick clock answers).trace =
      (updateScreen assets config out.runtime out.io false).2.trace := by
    rw [NativeRuntime.step, NativeRuntime.perform, onServerTick, if_neg (by simp [h])]
  have hnone : screenUpdates out.io.trace = [] := screenUpdates_operate rt { clock, answers } .Tick
  obtain ⟨accepted, hupdates⟩ := screenUpdates_updateScreen assets config hstarted out.io false
  refine ⟨accepted, ?_⟩
  rw [htrace, hupdates, hnone, List.nil_append]
  simp only [true_and]
  rfl

/-- What is shown after a tick in which nothing is refused. -/
lemma lastShown_tick {s : RuntimeStep} {past : List Event}
    (h : s.QuietTick assets target config clock answers)
    (hremembers : Remembers s.before (screenUpdates past)) :
    lastShown (past ++ s.trace) =
      if lastSent past = some (s.before.tickText assets config clock answers) then lastShown past
      else some (s.before.tickText assets config clock answers) := by
  obtain ⟨accepted, hupdates⟩ := screenUpdates_tick assets target config h.started clock answers
  rw [← h.step] at hupdates
  -- A session has handed a text over, so that the one remembered is no default.
  have hsent : lastSent past = some s.before.previousScreen := by
    have hne : (screenUpdates past).map Prod.fst ≠ [] := by
      simpa using hremembers.started h.started
    rw [lastSent, hremembers.previousScreen, List.getLast?_eq_getLast_of_ne_nil hne]
    rfl
  by_cases hsame : s.before.tickText assets config clock answers = s.before.previousScreen
  · rw [if_pos hsame] at hupdates
    rw [lastShown, screenUpdates_append, hupdates, List.append_nil, hsent, hsame, if_pos rfl,
      lastShown]
  · rw [if_neg hsame] at hupdates
    have hshown : lastShown s.trace = lastSent s.trace := h.accepting.lastShown
    have hlast : ∀ es, lastShown s.trace = some es → lastShown (past ++ s.trace) = some es := by
      intro es hes
      rw [lastShown] at hes ⊢
      rw [screenUpdates_append, List.filter_append, List.map_append, List.getLast?_append, hes]
      rfl
    rw [hsent, if_neg fun heq => hsame (Option.some.inj heq).symm]
    refine hlast _ ?_
    rw [hshown, lastSent, hupdates]
    rfl

/-- **When the screen is never left stale**: exactly when a text that was refused has changed by the
next tick.  A text that Java has refused is remembered like any other, so that a tick with the same
text hands nothing over. -/
theorem screenCurrent_iff (hrun : RuntimeRun assets target config steps rt) :
    ScreenCurrent assets target config steps ↔ RefusedTextsChange assets target config steps := by
  have hnew : Remembers (NativeRuntime.new config) [] := ⟨rfl, nofun⟩
  have htick : ∀ past s rest clock answers, steps = past ++ s :: rest →
      s.QuietTick assets target config clock answers → lastShown (eventsOf (past ++ [s])) =
        if lastSent (eventsOf past) = some (s.before.tickText assets config clock answers) then
          lastShown (eventsOf past)
        else some (s.before.tickText assets config clock answers) := by
    intro past s rest clock answers hsteps hquiet
    rw [hsteps] at hrun
    obtain ⟨mid, hpast, hrest⟩ := RuntimePath.append_inv hrun
    obtain ⟨⟨op, clock', answers', hs⟩, -⟩ := hrest.cons_inv
    have hmid : s.before = mid := by rw [hs]; rfl
    have hremembers : Remembers s.before (screenUpdates (eventsOf past)) := by
      rw [hmid]
      exact hpast.remembers hnew
    rw [eventsOf_concat, lastShown_tick hquiet hremembers]
  constructor
  · intro hcurrent past s rest clock answers hsteps hquiet
    have hshown := hcurrent past s rest clock answers hsteps hquiet
    rw [htick past s rest clock answers hsteps hquiet] at hshown
    by_cases hsame :
        lastSent (eventsOf past) = some (s.before.tickText assets config clock answers)
    · rw [if_pos hsame] at hshown
      exact Or.inl (hshown.trans hsame.symm)
    · exact Or.inr hsame
  · intro hchange past s rest clock answers hsteps hquiet
    rw [htick past s rest clock answers hsteps hquiet]
    split_ifs with hsame
    · rcases hchange past s rest clock answers hsteps hquiet with hshown | hother
      · rw [hshown, hsame]
      · exact absurd hsame hother
    · rfl

/-- Where nothing is refused, the screen is never stale. -/
lemma refusedTextsChange_of_accepting (h : Accepting (eventsOf steps)) :
    RefusedTextsChange assets target config steps := by
  intro past s rest clock answers hsteps _
  have hpast : Accepting (eventsOf past) := by
    intro command accepted hsent
    refine h command accepted ?_
    rw [hsteps, eventsOf_append]
    exact List.mem_append_left _ hsent
  exact Or.inl hpast.lastShown

/-- A step more, which may be a tick of the kind that matters. -/
lemma RefusedTextsChange.concat (h : RefusedTextsChange assets target config steps) {s : RuntimeStep}
    (hlast : ∀ clock answers, s.QuietTick assets target config clock answers →
      lastShown (eventsOf steps) = lastSent (eventsOf steps) ∨
        lastSent (eventsOf steps) ≠ some (s.before.tickText assets config clock answers)) :
    RefusedTextsChange assets target config (steps ++ [s]) := by
  intro past s' rest clock answers hsteps hquiet
  induction rest using List.reverseRecOn with
  | nil =>
      obtain ⟨rfl, hs⟩ := List.append_inj' hsteps rfl
      obtain rfl := List.singleton_injective hs
      exact hlast clock answers hquiet
  | append_singleton rest last _ =>
      rw [← List.cons_append, ← List.append_assoc] at hsteps
      exact h past s' rest clock answers (List.append_inj' hsteps rfl).1 hquiet

/-- A tick that hands over other texts only than the last one has another text. -/
lemma RuntimeStep.QuietTick.lastSent_ne {s : RuntimeStep}
    (h : s.QuietTick assets target config clock answers) (hupdated : screenUpdates s.trace ≠ [])
    (hchanged : ∀ update ∈ screenUpdates s.trace, lastSent es ≠ some update.1) :
    lastSent es ≠ some (s.before.tickText assets config clock answers) := by
  obtain ⟨accepted, hupdates⟩ := screenUpdates_tick assets target config h.started clock answers
  rw [← h.step] at hupdates
  by_cases hsame : s.before.tickText assets config clock answers = s.before.previousScreen
  · rw [if_pos hsame] at hupdates
    exact absurd hupdates hupdated
  · rw [if_neg hsame] at hupdates
    rw [hupdates] at hchanged
    exact hchanged (s.before.tickText assets config clock answers, accepted) (List.mem_singleton_self _)

/-- A session that comes up and is ready to capture. -/
def armedOps : List (RuntimeOp × ℤ) :=
  [(.Start 123456 true, 1000), (.SetCameraReady true, 1500),
    (.SetWifiState true (bytes "DIRECT-abcd") [] (bytes "192.168.122.1") 0 [], 2000)]

/-- A capture is asked for that is due a second later, and Java refuses the text of the countdown. -/
def refusedCountdown : RuntimeStep :=
  (RuntimePath.destination {} .armeabi {} (.new {}) armedOps).step {} .armeabi {}
    (.HandleRequest
      { method := bytes "POST", path := bytes "/api/v1/capture", pin := bytes "123456"
        contentType := bytes "application/json"
        body := bytes "\x7b\"request_id\":\"a\",\"delay_ms\":1000,\"autofocus\":false\x7d" }
      (bytes "192.168.122.100")) (fun _ => 3000) fun _ => false

/-- The tick that captures, with a Java that accepts everything again, and shows the new state. -/
def capturingTick : RuntimeStep :=
  refusedCountdown.after.step {} .armeabi {} .ServerTick (fun _ => 4000) fun _ => true

/-- The steps up to the refusal, whose text the screen does not show. -/
def refusedSteps : List RuntimeStep :=
  RuntimePath.taken {} .armeabi {} (.new {}) armedOps ++ [refusedCountdown]

/-- The text that was refused is not on the screen, and the tick changes it. -/
theorem screenCurrent_refusedCountdown :
    ScreenCurrent {} .armeabi {} (refusedSteps ++ [capturingTick]) ∧
      lastShown (eventsOf refusedSteps) ≠ lastSent (eventsOf refusedSteps) ∧
      lastShown (eventsOf (refusedSteps ++ [capturingTick])) =
        lastSent (eventsOf (refusedSteps ++ [capturingTick])) := by
  have hrun : RuntimeRun {} .armeabi {} (refusedSteps ++ [capturingTick]) capturingTick.after := by
    have hready := RuntimePath.taken_path {} .armeabi {} (.new {}) armedOps
    rw [refusedSteps, List.append_assoc]
    exact hready.append (.step _ _ _ (.step _ _ _ (.refl _)))
  have hrefused : RefusedTextsChange {} .armeabi {} refusedSteps := by
    have haccepting : Accepting (eventsOf (RuntimePath.taken {} .armeabi {} (.new {}) armedOps)) :=
      accepting_of_all (by decide +kernel)
    refine (refusedTextsChange_of_accepting haccepting).concat fun clock answers hquiet => ?_
    have hop : refusedCountdown.op = .ServerTick := congrArg RuntimeStep.op hquiet.step
    exact RuntimeOp.noConfusion hop
  -- The tick has handed over a text that is not the last one.
  have hupdated : screenUpdates capturingTick.trace ≠ [] := by decide +kernel
  have hchanged : ∀ update ∈ screenUpdates capturingTick.trace,
      lastSent (eventsOf refusedSteps) ≠ some update.1 := by decide +kernel
  exact ⟨(screenCurrent_iff hrun).mpr (hrefused.concat fun clock answers hquiet =>
      Or.inr (hquiet.lastSent_ne hupdated hchanged)),
    by decide +kernel, by decide +kernel⟩

/-- A session whose first text is refused, and a tick in which everything is accepted. -/
def refusedSession : List RuntimeStep :=
  let start := (NativeRuntime.new {}).step {} .armeabi {} (.Start 123456 true) (fun _ => 1000)
    fun _ => false
  [start, start.after.step {} .armeabi {} .ServerTick (fun _ => 1050) fun _ => true]

/-- The tick hands nothing over, as its text is the one that was refused, so that the PIN is not
shown. -/
theorem not_screenCurrent_refusedSession :
    (∃ rt, RuntimeRun {} .armeabi {} refusedSession rt) ∧
      ¬ ScreenCurrent {} .armeabi {} refusedSession := by
  refine ⟨⟨_, .step _ _ _ (.step _ _ _ (.refl _))⟩, fun hcurrent => ?_⟩
  have hquiet : (refusedSession.getLast (by simp [refusedSession])).QuietTick {} .armeabi {}
      (fun _ => 1050) fun _ => true := by
    exact ⟨rfl, by decide +kernel, accepting_of_all (by decide +kernel)⟩
  have hshown := hcurrent [refusedSession.head (by simp [refusedSession])] _ [] _ _ rfl hquiet
  have hnothing : lastShown (eventsOf refusedSession) = none := by decide +kernel
  exact nomatch hnothing.symm.trans hshown

end LegacyAlpha
