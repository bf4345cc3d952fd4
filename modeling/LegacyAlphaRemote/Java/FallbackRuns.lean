import LegacyAlphaRemote.Java.LiveViewFallback

/-!
# What the live view promises

Two properties of every run of the controller, in whatever order its callbacks come.

**Once.**  For each capture at most one frame of the live view is queued, and none after its JPEG, a
newer capture or a stop (`FallbackOnce`).  Everything hangs on the numbers of the captures, which are
an `int`: captures and stops both count it up, so that it is back at a number that was used before, or
at zero, after 2³² of them.  `fallbackOnce_of_advances` says that nothing goes wrong before that.

**Always.**  The newest capture gets its request (`AlwaysAttempted`).  A JPEG does not say which capture
it belongs to, so that the JPEG of one capture makes the controller forget that it waits for the next;
`alwaysAttempted_iff` says that nothing else does.
-/

namespace LegacyAlpha

open TraceLogic

variable {steps past rest : List FallbackStep} {sys : FallbackSystem} {s : FallbackStep}
  {op : FallbackOp}

/-! ## What a step does -/

/-- The number is counted up by the captures, and by the stops that end something. -/
def FallbackStep.advances (s : FallbackStep) : Bool :=
  s.captured?.isSome ||
    match s.op with
    | .Stop _ => s.before.active || s.before.cameraOpen
    | _ => false

/-- A JPEG, or a stop: what ends the fallback without a new capture. -/
def FallbackOp.ends : FallbackOp → Bool
  | .Stop _ | .Jpeg _ _ _ => true
  | _ => false

/-- The captures before are over: there is a newer one, a JPEG, or a stop. -/
def FallbackStep.Ends (s : FallbackStep) : Prop := s.captured?.isSome = true ∨ s.op.ends = true

/-- The step is one that a callback can make, with what `perform_effect` says of it. -/
def FallbackStep.Sound (s : FallbackStep) : Prop :=
  s.before.Effect s.op { controller := s.after, calls := s.calls, previews := s.previews }

lemma FallbackSystem.step_sound (sys : FallbackSystem) (op : FallbackOp) : (sys.step op).Sound :=
  sys.controller.perform_effect op

lemma findSome?_scheduled_of_posted {calls : List ControllerCall}
    (h : ∀ generation delayMs, .PostDelayed (.Scheduled generation) delayMs ∉ calls) :
    calls.findSome? ControllerCall.scheduled? = none := by
  rw [List.findSome?_eq_none_iff]
  intro call hcall
  cases call with
  | PostDelayed timer delayMs =>
      cases timer with
      | Scheduled generation => exact absurd hcall (h generation delayMs)
      | Pending generation => rfl
  | OnCameraReadyChanged _ | OnCameraCommandResult _ _ _ _ | OnCameraError _ | RemoveCallbacks => rfl

lemma SonyCameraController.Keeps.scheduled {c : SonyCameraController} {out : Reaction}
    (h : c.Keeps out) : out.calls.findSome? ControllerCall.scheduled? = none := by
  refine findSome?_scheduled_of_posted fun generation delayMs hmem => ?_
  exact FallbackTimer.noConfusion (h.posted _ _ hmem).1

namespace FallbackStep

/-- A capture that takes its number: the next one, for which the fallback is pending now, and no frame
is queued. -/
lemma Sound.of_captured (h : s.Sound) {g : ℤ} (hg : s.captured? = some g) :
    g = (s.before.captureGeneration + 1).bmod (2 ^ 32) ∧ s.after.captureGeneration = g ∧
      s.after.fallbackGeneration = g ∧ s.after.active = true ∧ s.after.cameraOpen = true ∧
      s.op.ends = false ∧ s.previews = [] := by
  obtain ⟨op, before, after, calls, previews, captures⟩ := s
  simp only [Sound, captured?] at h hg ⊢
  cases h with
  | keeps hdirect hkeeps => simp [hkeeps.scheduled] at hg
  | captures hactive hopen hresult =>
      simp only [List.findSome?_cons, ControllerCall.scheduled?, Option.some.injEq] at hg
      simp [← hg, hactive, hopen, FallbackOp.ends]
  | stops hsession hposted =>
      simp [findSome?_scheduled_of_posted fun g delayMs => hposted (.Scheduled g) delayMs] at hg
  | stopped _ _ | waits _ | asks _ | fails _ | late _ | frame _ _ | unheard _ | jpeg _ _ =>
      simp at hg

/-- How the number changes: it goes up by one, as a Java `int` does, at a capture and at a stop. -/
lemma Sound.captureGeneration (h : s.Sound) :
    s.after.captureGeneration =
      if s.advances = true then (s.before.captureGeneration + 1).bmod (2 ^ 32)
      else s.before.captureGeneration := by
  obtain ⟨op, before, after, calls, previews, captures⟩ := s
  simp only [Sound, captured?, advances] at h ⊢
  cases h with
  | keeps hdirect hkeeps =>
      have hscheduled := hkeeps.scheduled
      have hnumber : after.captureGeneration = before.captureGeneration := hkeeps.captureGeneration
      cases op with
      | Stop camera => exact hdirect.elim
      | Start _ | ExecuteCommand _ _ _ | SurfaceCreated _ | SurfaceDestroyed | Timer _ _
        | Frame _ _ _ | Jpeg _ _ _ => simp [hscheduled, hnumber]
  | captures hactive hopen hresult => simp [ControllerCall.scheduled?]
  | stopped hactive hopen => simp [hactive, hopen]
  | stops hsession hposted => simp [hsession]
  | waits _ | asks _ | fails _ | late _ | frame _ _ | unheard _ | jpeg _ _ =>
      simp [SonyCameraController.clearFallback]

/-- A step after which a picture is waited for that was waited for before. -/
lemma Sound.of_pending (h : s.Sound) (hcaptured : s.captured? = none)
    (hpending : s.after.fallbackGeneration ≠ 0) :
    s.after.fallbackGeneration = s.before.fallbackGeneration ∧
      (s.before.active = true → s.after.active = true ∧
        s.after.cameraOpen = s.before.cameraOpen ∧ s.op.ends = false) ∧
      s.queued = [] := by
  obtain ⟨op, before, after, calls, previews, captures⟩ := s
  simp only [Sound, captured?, queued] at h hcaptured hpending ⊢
  cases h with
  | keeps hdirect hkeeps =>
      refine ⟨hkeeps.fallbackGeneration, fun hactive => ?_, by simp⟩
      refine ⟨(hkeeps.session hactive).1, (hkeeps.session hactive).2, ?_⟩
      cases op with
      | Stop _ | Jpeg _ _ _ => exact hdirect.elim
      | Start _ | ExecuteCommand _ _ _ | SurfaceCreated _ | SurfaceDestroyed | Timer _ _
        | Frame _ _ _ => rfl
  | captures hactive hopen hresult => simp [ControllerCall.scheduled?] at hcaptured
  | stopped hactive hopen => simp [hactive]
  | stops hsession hposted => simp at hpending
  | waits hdue => simp [FallbackOp.ends]
  | asks hdue => simp [FallbackOp.ends, PreviewCall.queued?]
  | late hgeneration => simp [FallbackOp.ends]
  | unheard hactive => simp [hactive]
  | fails _ | frame _ _ | jpeg _ _ => simp [SonyCameraController.clearFallback] at hpending

/-- A frame that is queued is one that the fallback was pending for, and nothing is pending
afterwards. -/
lemma Sound.of_queued (h : s.Sound) {g : ℤ} (hg : g ∈ s.queued) :
    s.queued = [g] ∧ s.before.fallbackGeneration = g ∧ s.after.fallbackGeneration = 0 ∧
      ∃ thrown busy, s.op = .Frame g thrown busy := by
  obtain ⟨op, before, after, calls, previews, captures⟩ := s
  simp only [Sound, queued] at h hg ⊢
  cases h with
  | frame hgeneration hpreviews =>
      rcases hpreviews with rfl | ⟨source, error, rfl⟩ | rfl
      · simp at hg
      · simp [PreviewCall.queued?] at hg
      · simp only [List.filterMap_cons, PreviewCall.queued?, List.filterMap_nil,
          List.mem_singleton] at hg
        simp [hg, hgeneration, SonyCameraController.clearFallback, PreviewCall.queued?]
  | jpeg hactive hpreviews =>
      rcases hpreviews with rfl | ⟨source, error, rfl⟩ | ⟨data, rfl⟩ <;>
        simp [PreviewCall.queued?] at hg
  | keeps _ _ | captures _ _ _ | stopped _ _ | stops _ _ | waits _ | asks _ | fails _ | late _
    | unheard _ => simp [PreviewCall.queued?] at hg

/-- Who asks for a frame: a timer that fires in time, for its own capture. -/
lemma Sound.asked_iff (h : s.Sound) (g : ℤ) :
    g ∈ s.asked ↔
      ∃ timer thrown, s.op = .Timer timer thrown ∧ s.before.Due timer ∧ timer.generation = g := by
  obtain ⟨op, before, after, calls, previews, captures⟩ := s
  simp only [Sound, asked] at h ⊢
  cases h with
  | keeps hdirect hkeeps =>
      cases op with
      | Timer _ _ => exact hdirect.elim
      | Start _ | Stop _ | ExecuteCommand _ _ _ | SurfaceCreated _ | SurfaceDestroyed | Frame _ _ _
        | Jpeg _ _ _ => simp
  | waits hdue => simp [hdue]
  | asks hdue => simp [hdue, PreviewCall.asked?, eq_comm]
  | fails hdue => simp [hdue, PreviewCall.asked?, eq_comm]
  | frame hgeneration hpreviews =>
      rcases hpreviews with rfl | ⟨source, error, rfl⟩ | rfl <;> simp [PreviewCall.asked?]
  | jpeg hactive hpreviews =>
      rcases hpreviews with rfl | ⟨source, error, rfl⟩ | ⟨data, rfl⟩ <;> simp [PreviewCall.asked?]
  | captures _ _ _ | stopped _ _ | stops _ _ | late _ | unheard _ => simp

/-- Whom a timer is posted for: for the capture of this step, or for the one whose fallback is
pending. -/
lemma Sound.of_posted (h : s.Sound) {timer : FallbackTimer} {delayMs : ℤ}
    (hposted : .PostDelayed timer delayMs ∈ s.calls) :
    s.captured? = some timer.generation ∨
      (s.before.fallbackGeneration ≠ 0 ∧ timer.generation = s.before.fallbackGeneration) := by
  obtain ⟨op, before, after, calls, previews, captures⟩ := s
  simp only [Sound, captured?] at h hposted ⊢
  cases h with
  | keeps hdirect hkeeps =>
      obtain ⟨rfl, hpending⟩ := hkeeps.posted timer delayMs hposted
      exact Or.inr ⟨hpending, rfl⟩
  | @captures camera commandId delayMs' deadline result hactive hopen hresult =>
      have hother : .PostDelayed timer delayMs ≠ result := by
        rintro rfl
        simp [ControllerCall.result?] at hresult
      rw [List.mem_cons, List.mem_singleton, or_iff_left hother] at hposted
      obtain ⟨rfl, -⟩ := ControllerCall.PostDelayed.inj hposted
      exact Or.inl rfl
  | stops hsession hnone => exact absurd hposted (hnone timer delayMs)
  | stopped _ _ | waits _ | asks _ | fails _ | late _ | frame _ _ | unheard _ | jpeg _ _ =>
      simp at hposted

/-- A step after which the capture is waited for that was waited for before. -/
lemma Sound.not_ends (h : s.Sound) (hcaptured : s.captured? = none)
    (hpending : s.after.fallbackGeneration ≠ 0) (hactive : s.before.active = true) : ¬ s.Ends := by
  rintro (hmore | hends)
  · simp [hcaptured] at hmore
  · have hkept := ((h.of_pending hcaptured hpending).2.1 hactive).2.2
    exact absurd (hkept.symm.trans hends) (by simp)

end FallbackStep

/-! ## Once -/

/-- The numbers of the captures, in their order. -/
def generations (steps : List FallbackStep) : List ℤ := steps.filterMap FallbackStep.captured?

/-- The captures whose frames have been queued, in the order in which they were. -/
def queuedFrames (steps : List FallbackStep) : List ℤ := steps.flatMap FallbackStep.queued

/-- **One picture of the live view at most** is queued for each capture, and none once a JPEG, a newer
capture or a stop has come after it. -/
def FallbackOnce (steps : List FallbackStep) : Prop :=
  (queuedFrames steps).Nodup ∧
    ∀ past o rest s later g, steps = past ++ o :: (rest ++ s :: later) → o.captured? = some g →
      g ∈ s.queued → ∀ e ∈ rest, ¬ e.Ends

/-- Whatever is about a capture carries the number of one that has been made, and the numbers are
those that a counter gives out which nobody ever resets. -/
structure CountsUp (steps : List FallbackStep) (sys : FallbackSystem) : Prop where
  captureGeneration : sys.controller.captureGeneration =
    (steps.countP FallbackStep.advances : ℤ).bmod (2 ^ 32)
  captured : ∀ g ∈ generations steps,
    ∃ k : ℕ, 0 < k ∧ k ≤ steps.countP FallbackStep.advances ∧ g = (k : ℤ).bmod (2 ^ 32)
  timers : ∀ timer ∈ sys.timers, timer.generation ∈ generations steps
  frames : ∀ g ∈ sys.frames, g ∈ generations steps
  queued : ∀ g ∈ queuedFrames steps, g ∈ generations steps
  pending : sys.controller.fallbackGeneration ≠ 0 →
    sys.controller.active = true ∧ sys.controller.fallbackGeneration ∈ generations steps

lemma mem_generations_concat (steps : List FallbackStep) (s : FallbackStep) (g : ℤ) :
    g ∈ generations (steps ++ [s]) ↔ g ∈ generations steps ∨ s.captured? = some g := by
  rw [generations, generations, List.filterMap_append, List.mem_append]
  cases hcaptured : s.captured? with
  | none => simp [hcaptured]
  | some g' => simp [hcaptured, eq_comm]

lemma queuedFrames_concat (steps : List FallbackStep) (s : FallbackStep) :
    queuedFrames (steps ++ [s]) = queuedFrames steps ++ s.queued := by
  simp [queuedFrames]

/-- The timers that are posted were posted before, or are new. -/
lemma mem_foldl_post {calls : List ControllerCall} {timer : FallbackTimer} :
    ∀ {timers : List FallbackTimer}, timer ∈ calls.foldl ControllerCall.post timers →
      timer ∈ timers ∨ ∃ delayMs, .PostDelayed timer delayMs ∈ calls := by
  induction calls with
  | nil => exact fun h => Or.inl h
  | cons call calls ih =>
      intro timers h
      rcases ih h with hbefore | ⟨delayMs, hposted⟩
      · cases call with
        | PostDelayed timer' delayMs =>
            rcases List.mem_append.mp hbefore with hbefore | hnew
            · exact Or.inl hbefore
            · rw [List.mem_singleton.mp hnew]
              exact Or.inr ⟨delayMs, List.mem_cons_self⟩
        | RemoveCallbacks => simp [ControllerCall.post] at hbefore
        | OnCameraReadyChanged _ | OnCameraCommandResult _ _ _ _ | OnCameraError _ =>
            exact Or.inl hbefore
      · exact Or.inr ⟨delayMs, List.mem_cons_of_mem _ hposted⟩

lemma mem_timers_next {timer : FallbackTimer} (h : timer ∈ (sys.next op).timers) :
    timer ∈ sys.timers ∨ ∃ delayMs, .PostDelayed timer delayMs ∈ (sys.step op).calls := by
  refine (mem_foldl_post h).imp_left fun hwaiting => ?_
  cases op with
  | Timer fired thrown => exact List.mem_of_mem_erase hwaiting
  | Start _ | Stop _ | ExecuteCommand _ _ _ | SurfaceCreated _ | SurfaceDestroyed | Frame _ _ _
    | Jpeg _ _ _ => exact hwaiting

lemma countP_advances_concat (steps : List FallbackStep) (s : FallbackStep) :
    (steps ++ [s]).countP FallbackStep.advances =
      steps.countP FallbackStep.advances + if s.advances = true then 1 else 0 := by
  simp [List.countP_append, List.countP_cons]

lemma FallbackStep.advances_of_captured {g : ℤ} (hg : s.captured? = some g) : s.advances = true := by
  simp [FallbackStep.advances, hg]

/-- A capture gets the number that comes next. -/
lemma CountsUp.captured_eq (h : CountsUp steps sys) {g : ℤ}
    (hg : (sys.step op).captured? = some g) :
    g = ((steps.countP FallbackStep.advances + 1 : ℕ) : ℤ).bmod (2 ^ 32) := by
  have hnumber := ((sys.step_sound op).of_captured hg).1
  rw [show (sys.step op).before = sys.controller from rfl, h.captureGeneration,
    Int.bmod_add_bmod] at hnumber
  rw [hnumber, Nat.cast_add, Nat.cast_one]

lemma CountsUp.step (h : CountsUp steps sys) (henabled : sys.Enabled op) :
    CountsUp (steps ++ [sys.step op]) (sys.next op) := by
  have hsound := sys.step_sound op
  refine ⟨?_, fun g hg => ?_, fun timer htimer => ?_, fun g hg => ?_, fun g hg => ?_,
    fun hpending => ?_⟩
  · have hnumber : (sys.next op).controller.captureGeneration = _ := hsound.captureGeneration
    rw [hnumber, countP_advances_concat, show (sys.step op).before = sys.controller from rfl,
      h.captureGeneration]
    split_ifs
    · rw [Int.bmod_add_bmod, Nat.cast_add, Nat.cast_one]
    · rw [Nat.add_zero]
  · rw [countP_advances_concat]
    rcases (mem_generations_concat _ _ g).mp hg with hold | hnew
    · obtain ⟨k, hpos, hle, hk⟩ := h.captured g hold
      exact ⟨k, hpos, Nat.le_add_right_of_le hle, hk⟩
    · rw [if_pos (FallbackStep.advances_of_captured hnew)]
      exact ⟨_, Nat.succ_pos _, le_rfl, h.captured_eq hnew⟩
  · rw [mem_generations_concat]
    rcases mem_timers_next htimer with hold | ⟨delayMs, hposted⟩
    · exact Or.inl (h.timers timer hold)
    · refine (hsound.of_posted hposted).symm.imp_left fun ⟨hpending, hgeneration⟩ => ?_
      rw [hgeneration]
      exact (h.pending hpending).2
  · rw [mem_generations_concat]
    refine Or.inl ?_
    rcases List.mem_append.mp hg with hold | hasked
    · exact h.frames g hold
    · obtain ⟨timer, thrown, hop, -, rfl⟩ := (hsound.asked_iff g).mp hasked
      obtain rfl : op = .Timer timer thrown := hop
      exact h.timers timer henabled
  · rw [mem_generations_concat]
    refine Or.inl ?_
    rcases List.mem_append.mp ((queuedFrames_concat steps _) ▸ hg) with hold | hqueued
    · exact h.queued g hold
    · obtain ⟨-, -, -, thrown, busy, hop⟩ := hsound.of_queued hqueued
      obtain rfl : op = .Frame g thrown busy := hop
      exact h.frames g henabled
  · rw [mem_generations_concat]
    cases hcaptured : (sys.step op).captured? with
    | some g =>
        obtain ⟨-, -, hgeneration, hactive, -⟩ := hsound.of_captured hcaptured
        exact ⟨hactive, Or.inr (congrArg some hgeneration.symm)⟩
    | none =>
        obtain ⟨hkept, hsession, -⟩ := hsound.of_pending hcaptured hpending
        obtain ⟨hactive, hmem⟩ := h.pending (hkept ▸ hpending)
        exact ⟨(hsession hactive).1, Or.inl (by rwa [show (sys.next op).controller.fallbackGeneration
          = _ from hkept])⟩

lemma FallbackRun.countsUp (hrun : FallbackRun steps sys) : CountsUp steps sys := by
  induction hrun with
  | init => exact ⟨rfl, nofun, nofun, nofun, nofun, fun h => absurd rfl h⟩
  | step op hrun henabled ih => exact ih.step henabled

/-- Numbers below 2³² are told apart, and from zero. -/
lemma bmod_injective {j k : ℕ} (hj : j < 2 ^ 32) (hk : k < 2 ^ 32)
    (h : (j : ℤ).bmod (2 ^ 32) = (k : ℤ).bmod (2 ^ 32)) : j = k := by
  have hmod := congrArg (· % ((2 ^ 32 : ℕ) : ℤ)) h
  simp only [Int.bmod_emod] at hmod
  omega

/-- A new capture has a number of its own. -/
lemma CountsUp.fresh (h : CountsUp steps sys) {g : ℤ} (hg : (sys.step op).captured? = some g)
    (hbound : steps.countP FallbackStep.advances + 1 < 2 ^ 32) : g ∉ generations steps := by
  intro hmem
  obtain ⟨k, -, hle, hk⟩ := h.captured g hmem
  have heq := bmod_injective hbound (by omega) ((h.captured_eq hg).symm.trans hk)
  omega

/-- No capture has the number zero, which stands for none. -/
lemma CountsUp.ne_zero (h : CountsUp steps sys)
    (hbound : steps.countP FallbackStep.advances < 2 ^ 32) : (0 : ℤ) ∉ generations steps := by
  intro hmem
  obtain ⟨k, hpos, hle, hk⟩ := h.captured 0 hmem
  have heq := bmod_injective (j := 0) (by omega) (lt_of_le_of_lt hle hbound) hk
  omega

/-- The capture that is waited for: nothing has been queued for it yet, and nothing has ended it. -/
def AwaitsPicture (steps : List FallbackStep) (g : ℤ) : Prop :=
  g ∉ queuedFrames steps ∧
    ∀ past o rest, steps = past ++ o :: rest → o.captured? = some g → ∀ e ∈ rest, ¬ e.Ends

lemma captured_mem_generations {o : FallbackStep} {g : ℤ} (hmem : o ∈ steps)
    (hg : o.captured? = some g) : g ∈ generations steps :=
  List.mem_filterMap.mpr ⟨o, hmem, hg⟩

/-- **What is waited for is awaited**: the capture whose fallback is pending was made in this run, and
nothing has ended it since. -/
lemma FallbackRun.awaited (hrun : FallbackRun steps sys)
    (hbound : steps.countP FallbackStep.advances < 2 ^ 32)
    (hpending : sys.controller.fallbackGeneration ≠ 0) :
    AwaitsPicture steps sys.controller.fallbackGeneration := by
  induction hrun with
  | init => exact absurd rfl hpending
  | @step steps sys op hrun henabled ih =>
      have hsound := sys.step_sound op
      have hafter : (sys.next op).controller = (sys.step op).after := rfl
      rw [countP_advances_concat] at hbound
      rw [hafter] at hpending ⊢
      cases hcaptured : (sys.step op).captured? with
      | some g =>
          obtain ⟨-, -, hgeneration, -, -, -, hpreviews⟩ := hsound.of_captured hcaptured
          rw [if_pos (FallbackStep.advances_of_captured hcaptured)] at hbound
          have hfresh := hrun.countsUp.fresh hcaptured hbound
          rw [hgeneration]
          refine ⟨?_, fun past o rest hsplit ho e he => ?_⟩
          · have hnone : (sys.step op).queued = [] := by simp [FallbackStep.queued, hpreviews]
            rw [queuedFrames_concat, hnone, List.append_nil]
            exact fun hmem => hfresh (hrun.countsUp.queued g hmem)
          · rcases concat_eq_append_cons hsplit with ⟨-, -, rfl⟩ | ⟨rest, rfl, -⟩
            · simp at he
            · exact absurd (captured_mem_generations (by simp) ho) hfresh
      | none =>
          obtain ⟨hkept, hsession, hqueued⟩ := hsound.of_pending hcaptured hpending
          have hbefore : sys.controller.fallbackGeneration ≠ 0 := hkept ▸ hpending
          have hactive := (hrun.countsUp.pending hbefore).1
          obtain ⟨hnot, hopen⟩ := ih (lt_of_le_of_lt (Nat.le_add_right _ _) hbound) hbefore
          rw [hkept]
          refine ⟨?_, fun past o rest hsplit ho e he => ?_⟩
          · rw [queuedFrames_concat, hqueued, List.append_nil]
            exact hnot
          · rcases concat_eq_append_cons hsplit with ⟨-, -, rfl⟩ | ⟨rest, rfl, rfl⟩
            · simp at he
            · rw [List.mem_append, List.mem_singleton] at he
              rcases he with he | rfl
              · exact hopen past o rest rfl ho e he
              · exact hsound.not_ends hcaptured hpending hactive

/-- A frame is queued only for a capture that is awaited. -/
lemma FallbackRun.awaited_of_queued (hrun : FallbackRun steps sys) (henabled : sys.Enabled op)
    (hbound : steps.countP FallbackStep.advances < 2 ^ 32) {g : ℤ}
    (hg : g ∈ (sys.step op).queued) : AwaitsPicture steps g := by
  obtain ⟨-, hgeneration, -, thrown, busy, hop⟩ := (sys.step_sound op).of_queued hg
  obtain rfl : op = .Frame g thrown busy := hop
  have hgeneration : sys.controller.fallbackGeneration = g := hgeneration
  have hmem : g ∈ generations steps := hrun.countsUp.frames g henabled
  have hpending : sys.controller.fallbackGeneration ≠ 0 := by
    rw [hgeneration]
    rintro rfl
    exact hrun.countsUp.ne_zero hbound hmem
  exact hgeneration ▸ hrun.awaited hbound hpending

lemma FallbackRun.queuedFrames_nodup (hrun : FallbackRun steps sys)
    (hbound : steps.countP FallbackStep.advances < 2 ^ 32) : (queuedFrames steps).Nodup := by
  induction hrun with
  | init => simp [queuedFrames]
  | @step steps sys op hrun henabled ih =>
      rw [countP_advances_concat] at hbound
      have hbefore : steps.countP FallbackStep.advances < 2 ^ 32 :=
        lt_of_le_of_lt (Nat.le_add_right _ _) hbound
      rw [queuedFrames_concat]
      cases hqueued : (sys.step op).queued with
      | nil =>
          rw [List.append_nil]
          exact ih hbefore
      | cons g more =>
          have hmem : g ∈ (sys.step op).queued := by simp [hqueued]
          rw [← hqueued, ((sys.step_sound op).of_queued hmem).1]
          have hnot := (hrun.awaited_of_queued henabled hbefore hmem).1
          simpa using (ih hbefore).concat hnot

/-- **Not before 2³² captures and stops** does anything go wrong: until then no number comes again, so
that a frame is taken for the capture it was asked for. -/
theorem fallbackOnce_of_advances (hrun : FallbackRun steps sys)
    (hbound : steps.countP FallbackStep.advances < 2 ^ 32) : FallbackOnce steps := by
  refine ⟨hrun.queuedFrames_nodup hbound, ?_⟩
  intro past o rest s later g hsplit ho hg
  rw [← List.cons_append, ← List.append_assoc] at hsplit
  obtain ⟨sys', hpast, henabled, hs⟩ := hrun.split hsplit
  rw [hs] at hg
  have hbefore : (past ++ o :: rest).countP FallbackStep.advances < 2 ^ 32 := by
    rw [hsplit, List.countP_append] at hbound
    exact lt_of_le_of_lt (Nat.le_add_right _ _) hbound
  exact (hpast.awaited_of_queued henabled hbefore hg).2 past o rest rfl ho

/-- Of three captures the first gets a frame of the live view, which comes twice.  That of the second
comes only after the third, and for the third there is a JPEG. -/
def liveViewOps : List FallbackOp :=
  [.Start {}, .SurfaceCreated {}, .ExecuteCommand { uptimeMillis := 1000 } 1 .Capture,
    .ExecuteCommand { uptimeMillis := 1100 } 2 .ReleaseShutter, .Timer (.Scheduled 1) none,
    .Frame 1 none false, .Frame 1 none false, .ExecuteCommand { uptimeMillis := 7000 } 3 .Capture,
    .ExecuteCommand { uptimeMillis := 7100 } 4 .ReleaseShutter, .Timer (.Scheduled 2) none,
    .ExecuteCommand { uptimeMillis := 13000 } 5 .Capture, .Frame 2 none false,
    .Jpeg 3 (some [0xFF, 0xD8]) false, .Timer (.Scheduled 3) none, .Stop {}]

/-- One frame is queued, for the first capture; the other two come too late, one of them for a capture
that is over. -/
theorem fallbackOnce_liveViewOps :
    FallbackOnce (({} : FallbackSystem).steps liveViewOps) ∧
      queuedFrames (({} : FallbackSystem).steps liveViewOps) = [1] := by
  have hrun := fallbackRun_steps liveViewOps (by decide +kernel)
  exact ⟨fallbackOnce_of_advances hrun (by decide +kernel), by decide +kernel⟩

/-- A camera that has been started and stopped `n` times, each of which counts the number up. -/
def startedAndStopped (n : ℕ) : FallbackSystem :=
  { controller := { captureGeneration := (n : ℤ).bmod (2 ^ 32) } }

lemma nexts_startStop (k : ℤ) :
    ({ controller := { captureGeneration := k } } : FallbackSystem).nexts [.Start {}, .Stop {}] =
      { controller := { captureGeneration := (k + 1).bmod (2 ^ 32) } } := rfl

lemma fallbackRun_startedAndStopped (n : ℕ) :
    ∃ steps, FallbackRun steps (startedAndStopped n) := by
  induction n with
  | zero => exact ⟨[], .init⟩
  | succ n ih =>
      obtain ⟨steps, hrun⟩ := ih
      have hlonger := hrun.extend [.Start {}, .Stop {}] ⟨trivial, trivial, trivial⟩
      rw [startedAndStopped, nexts_startStop, Int.bmod_add_bmod] at hlonger
      rw [startedAndStopped, Nat.cast_add, Nat.cast_one]
      exact ⟨_, hlonger⟩

/-- The next capture then has the number zero, which also says that nothing is pending, and its frame
comes twice. -/
def repeatedFrameOps : List FallbackOp :=
  [.Start {}, .SurfaceCreated {}, .ExecuteCommand {} 1 .Capture, .ExecuteCommand {} 2 .ReleaseShutter,
    .Timer (.Scheduled 0) none, .Frame 0 none false, .Frame 0 none false]

/-- One capture is enough to go wrong, if there have been as many stops. -/
theorem not_fallbackOnce_repeatedFrameOps :
    ¬ ∀ steps sys, FallbackRun steps sys → sys.captures < 2 ^ 31 → FallbackOnce steps := by
  intro h
  obtain ⟨steps, hrun⟩ := fallbackRun_startedAndStopped (2 ^ 32 - 1)
  have hlong := hrun.extend repeatedFrameOps (by decide +kernel)
  have hnodup := (h _ _ hlong (by decide +kernel)).1
  rw [queuedFrames, List.flatMap_append] at hnodup
  have htwice : (((startedAndStopped (2 ^ 32 - 1)).steps repeatedFrameOps).flatMap
      FallbackStep.queued).Nodup := (List.nodup_append.mp hnodup).2.1
  exact absurd htwice (by decide +kernel)

/-! ## Always -/

/-- A JPEG, or a frame that is taken for one of this capture: after it the fallback of the capture is
forgotten. -/
def FallbackStep.Forgets (s : FallbackStep) (g : ℤ) : Prop :=
  (∃ number data busy, s.op = .Jpeg number data busy) ∨ ∃ thrown busy, s.op = .Frame g thrown busy

/-- A timer of this capture fires while the preview is running. -/
def FallbackStep.Fires (s : FallbackStep) (g : ℤ) : Prop :=
  s.before.previewStarted = true ∧
    ∃ timer thrown, s.op = .Timer timer thrown ∧ timer.generation = g

/-- In `o` a capture has been made that is the newest until its timer fires in `t`, with the preview
running; meanwhile the controller has been active and no JPEG of it has come. -/
structure Newest (o : FallbackStep) (rest : List FallbackStep) (t : FallbackStep) (g : ℤ) : Prop where
  captured : o.captured? = some g
  newest : ∀ e ∈ rest, e.captured? = none
  active : ∀ e ∈ rest, e.after.active = true
  unseen : ∀ e ∈ rest, ∀ data busy, e.op ≠ .Jpeg o.captures data busy
  fires : ∃ thrown, t.op = .Timer (.Scheduled g) thrown
  running : t.before.previewStarted = true

/-- **The newest capture gets its request**: when its timer fires, a frame is asked for, or has been. -/
def AlwaysAttempted (steps : List FallbackStep) : Prop :=
  ∀ past o rest t later g, steps = past ++ o :: (rest ++ t :: later) → Newest o rest t g →
    ∃ e ∈ rest ++ [t], g ∈ e.asked

/-- While such a capture waits no JPEG comes, which could only be one of an earlier capture, and no frame
that has been asked for under the same number, unless a timer of it has fired before with the preview
running.  A capture with the number zero cannot be forgotten. -/
def Undisturbed (steps : List FallbackStep) : Prop :=
  ∀ past o rest t later g, steps = past ++ o :: (rest ++ t :: later) → Newest o rest t g → g ≠ 0 →
    ∀ before e after, rest = before ++ e :: after → e.Forgets g → ∃ f ∈ before, f.Fires g

namespace FallbackStep

lemma fires_of_asked (h : s.Sound) {g : ℤ} (hg : g ∈ s.asked) :
    s.Fires g ∧ s.before.fallbackGeneration = g := by
  obtain ⟨timer, thrown, hop, hdue, hgeneration⟩ := (h.asked_iff g).mp hg
  exact ⟨⟨hdue.2.2.1, timer, thrown, hop, hgeneration⟩, hdue.2.2.2.trans hgeneration⟩

/-- What is left of a session by a step that goes on with it. -/
lemma Sound.of_session (h : s.Sound) (hcaptured : s.captured? = none)
    (hbefore : s.before.active = true) (hafter : s.after.active = true) :
    s.after.cameraOpen = s.before.cameraOpen ∧
      (s.after.fallbackGeneration = s.before.fallbackGeneration ∨
        s.after.fallbackGeneration = 0) := by
  obtain ⟨op, before, after, calls, previews, captures⟩ := s
  simp only [Sound, captured?] at h hcaptured hbefore hafter ⊢
  cases h with
  | keeps hdirect hkeeps =>
      exact ⟨(hkeeps.session hbefore).2, Or.inl hkeeps.fallbackGeneration⟩
  | captures hactive hopen hresult => simp [ControllerCall.scheduled?] at hcaptured
  | stops hsession hposted => simp at hafter
  | stopped _ _ | waits _ | asks _ | fails _ | late _ | frame _ _ | unheard _ | jpeg _ _ =>
      simp [SonyCameraController.clearFallback]

/-- A JPEG makes the controller forget the capture, whichever it belongs to. -/
lemma Sound.of_forgets (h : s.Sound) {g : ℤ} (hforgets : s.Forgets g)
    (hbefore : s.before.active = true)
    (hgeneration : s.before.fallbackGeneration = g ∨ s.before.fallbackGeneration = 0) :
    s.after.fallbackGeneration = 0 := by
  obtain ⟨op, before, after, calls, previews, captures⟩ := s
  simp only [Sound, Forgets] at h hforgets hbefore hgeneration ⊢
  cases h with
  | late hlate =>
      obtain ⟨_, _, _, hop⟩ | ⟨thrown, busy, hop⟩ := hforgets
      · cases hop
      · obtain ⟨rfl, -⟩ := FallbackOp.Frame.inj hop
        exact hgeneration.resolve_left hlate
  | unheard hactive => simp [hactive] at hbefore
  | frame _ _ | jpeg _ _ => rfl
  | keeps hdirect hkeeps =>
      obtain ⟨_, _, _, rfl⟩ | ⟨_, _, rfl⟩ := hforgets
      · exact hdirect.elim
      · exact hdirect.elim
  | captures _ _ _ | stopped _ _ | stops _ _ | waits _ | asks _ | fails _ => simp at hforgets

/-- Nothing else does, but for a request that fails. -/
lemma Sound.of_not_forgets (h : s.Sound) (hcaptured : s.captured? = none)
    (hafter : s.after.active = true) (hforgets : ¬ s.Forgets s.before.fallbackGeneration)
    (hfires : ¬ s.Fires s.before.fallbackGeneration) :
    s.after.fallbackGeneration = s.before.fallbackGeneration := by
  obtain ⟨op, before, after, calls, previews, captures⟩ := s
  simp only [Sound, Forgets, Fires, captured?] at h hcaptured hafter hforgets hfires ⊢
  cases h with
  | keeps hdirect hkeeps => exact hkeeps.fallbackGeneration
  | captures hactive hopen hresult => simp [ControllerCall.scheduled?] at hcaptured
  | stops hsession hposted => simp at hafter
  | fails hdue => exact absurd ⟨hdue.2.2.1, _, _, rfl, hdue.2.2.2.symm⟩ hfires
  | frame hgeneration hpreviews =>
      exact absurd (Or.inr ⟨_, _, by rw [hgeneration]⟩) hforgets
  | jpeg hactive hpreviews => exact absurd (Or.inl ⟨_, _, _, rfl⟩) hforgets
  | stopped _ _ | waits _ | asks _ | late _ | unheard _ => rfl

end FallbackStep

section Waiting

variable {o : FallbackStep} {g : ℤ}

/-- A run, one step before its end. -/
lemma FallbackRun.concat {e : FallbackStep} (hrun : FallbackRun (past ++ [e]) sys) :
    ∃ sys' op, FallbackRun past sys' ∧ e = sys'.step op ∧ sys = sys'.next op := by
  generalize hsteps : past ++ [e] = steps at hrun
  cases hrun with
  | init => simp at hsteps
  | @step steps sys op hrun henabled =>
      obtain ⟨rfl, hlast⟩ := List.append_inj' hsteps rfl
      exact ⟨sys, op, hrun, List.singleton_inj.mp hlast, rfl⟩

lemma FallbackRun.of_captured (hrun : FallbackRun (past ++ [o]) sys) (ho : o.captured? = some g) :
    sys.controller.active = true ∧ sys.controller.cameraOpen = true ∧
      sys.controller.fallbackGeneration = g := by
  obtain ⟨sys', op, -, rfl, rfl⟩ := hrun.concat
  obtain ⟨-, -, hgeneration, hactive, hopen, -, -⟩ := (sys'.step_sound op).of_captured ho
  exact ⟨hactive, hopen, hgeneration⟩

/-- As long as the session goes on, the controller waits for the newest capture or for none; and for
none once it has forgotten it. -/
lemma FallbackRun.waiting (ho : o.captured? = some g) :
    ∀ {before : List FallbackStep} {sys : FallbackSystem}, FallbackRun (past ++ o :: before) sys →
      (∀ e ∈ before, e.captured? = none ∧ e.after.active = true) →
      sys.controller.active = true ∧ sys.controller.cameraOpen = true ∧
        (sys.controller.fallbackGeneration = g ∨ sys.controller.fallbackGeneration = 0) ∧
        ((∃ e ∈ before, e.Forgets g) → sys.controller.fallbackGeneration = 0) := by
  intro before
  induction before using List.reverseRecOn with
  | nil =>
      intro sys hrun _
      obtain ⟨hactive, hopen, hgeneration⟩ := hrun.of_captured ho
      exact ⟨hactive, hopen, Or.inl hgeneration, by simp⟩
  | append_singleton before e ih =>
      intro sys hrun hsession
      rw [← List.cons_append, ← List.append_assoc] at hrun
      obtain ⟨sys', op, hpast, rfl, rfl⟩ := hrun.concat
      obtain ⟨hactive, hopen, hgeneration, hforgotten⟩ := ih hpast fun e he => hsession e (by simp [he])
      obtain ⟨hcaptured, hafter⟩ := hsession (sys'.step op) (by simp)
      have hsound := sys'.step_sound op
      obtain ⟨hkept, hchanged⟩ := hsound.of_session hcaptured hactive hafter
      have hzero : sys'.controller.fallbackGeneration = 0 →
          (sys'.step op).after.fallbackGeneration = 0 := by
        intro hzero
        exact hchanged.elim (fun hsame => hsame.trans hzero) id
      refine ⟨hafter, hkept.trans hopen, ?_, ?_⟩
      · rcases hgeneration with hsame | hnone
        · exact hchanged.imp_left fun h => h.trans hsame
        · exact Or.inr (hzero hnone)
      · rintro ⟨x, hx, hforgets⟩
        rcases List.mem_append.mp hx with hx | hx
        · exact hzero (hforgotten ⟨x, hx, hforgets⟩)
        · rw [List.mem_singleton.mp hx] at hforgets
          exact hsound.of_forgets hforgets hactive hgeneration

/-- A timer that fires in time asks for a frame. -/
lemma FallbackStep.Fires.asked (h : s.Sound) (hfires : s.Fires g) (hactive : s.before.active = true)
    (hopen : s.before.cameraOpen = true) (hgeneration : s.before.fallbackGeneration = g) :
    g ∈ s.asked := by
  obtain ⟨hstarted, timer, thrown, hop, htimer⟩ := hfires
  exact (h.asked_iff g).mpr
    ⟨timer, thrown, hop, ⟨hactive, hopen, hstarted, hgeneration.trans htimer.symm⟩, htimer⟩

/-- The controller still waits for the capture, if it has not been disturbed and has not asked. -/
lemma FallbackRun.still_waiting (ho : o.captured? = some g) :
    ∀ {before : List FallbackStep} {sys : FallbackSystem}, FallbackRun (past ++ o :: before) sys →
      (∀ e ∈ before, e.captured? = none ∧ e.after.active = true) →
      (∀ a e b, before = a ++ e :: b → e.Forgets g → ∃ f ∈ a, f.Fires g) →
      (∀ e ∈ before, g ∉ e.asked) →
      sys.controller.fallbackGeneration = g ∧ ∀ e ∈ before, ¬ e.Fires g := by
  intro before
  induction before using List.reverseRecOn with
  | nil =>
      intro sys hrun _ _ _
      exact ⟨(hrun.of_captured ho).2.2, by simp⟩
  | append_singleton before e ih =>
      intro sys hrun hsession hundisturbed hnone
      rw [← List.cons_append, ← List.append_assoc] at hrun
      obtain ⟨sys', op, hpast, rfl, rfl⟩ := hrun.concat
      have hearlier : ∀ e ∈ before, e.captured? = none ∧ e.after.active = true :=
        fun e he => hsession e (by simp [he])
      obtain ⟨hactive, hopen, -, -⟩ := hpast.waiting ho hearlier
      obtain ⟨hgeneration, hnofire⟩ := ih hpast hearlier
        (fun a e b hsplit => hundisturbed a e (b ++ [sys'.step op]) (by simp [hsplit]))
        fun e he => hnone e (by simp [he])
      have hsound := sys'.step_sound op
      have hquiet : ¬ (sys'.step op).Fires g := by
        intro hfires
        exact hnone _ (by simp) (hfires.asked hsound hactive hopen hgeneration)
      have hkeeps : ¬ (sys'.step op).Forgets g := by
        intro hforgets
        obtain ⟨f, hf, hfires⟩ := hundisturbed before _ [] rfl hforgets
        exact hnofire f hf hfires
      obtain ⟨hcaptured, hafter⟩ := hsession (sys'.step op) (by simp)
      have hbefore : (sys'.step op).before.fallbackGeneration = g := hgeneration
      refine ⟨(hsound.of_not_forgets hcaptured hafter ?_ ?_).trans hbefore, fun e he => ?_⟩
      · rwa [hbefore]
      · rwa [hbefore]
      · rcases List.mem_append.mp he with he | he
        · exact hnofire e he
        · rwa [List.mem_singleton.mp he]

lemma FallbackRun.sound (hrun : FallbackRun steps sys) : ∀ s ∈ steps, s.Sound := by
  intro s hs
  obtain ⟨past, rest, hsplit⟩ := List.append_of_mem hs
  obtain ⟨sys', -, -, hstep⟩ := hrun.split hsplit
  rw [hstep]
  exact sys'.step_sound s.op

lemma Newest.session {rest : List FallbackStep} {t : FallbackStep} (h : Newest o rest t g) :
    ∀ e ∈ rest, e.captured? = none ∧ e.after.active = true :=
  fun e he => ⟨h.newest e he, h.active e he⟩

lemma Newest.fires_last {rest : List FallbackStep} {t : FallbackStep} (h : Newest o rest t g) :
    t.Fires g := by
  obtain ⟨thrown, hop⟩ := h.fires
  exact ⟨h.running, .Scheduled g, thrown, hop, rfl⟩

/-- What is forgotten is not asked for any more. -/
lemma FallbackRun.not_asked_of_forgets {before after : List FallbackStep} {e x : FallbackStep}
    (hrun : FallbackRun steps sys) {later : List FallbackStep}
    (hsteps : steps = past ++ o :: (before ++ e :: (after ++ x :: later)))
    (ho : o.captured? = some g) (hzero : g ≠ 0)
    (hsession : ∀ y ∈ before ++ e :: after, y.captured? = none ∧ y.after.active = true)
    (hforgets : e.Forgets g) : g ∉ x.asked := by
  intro hasked
  have hsplit : steps = (past ++ o :: (before ++ e :: after)) ++ x :: later := by simp [hsteps]
  obtain ⟨sys', hpast, -, hx⟩ := hrun.split hsplit
  have hforgotten := (hpast.waiting ho hsession).2.2.2 ⟨e, by simp, hforgets⟩
  rw [hx] at hasked
  have hwaiting := (FallbackStep.fires_of_asked (sys'.step_sound _) hasked).2
  exact hzero (hwaiting.symm.trans hforgotten)

/-- Undisturbed, the controller asks for a frame at the latest when the timer of the capture fires. -/
lemma FallbackRun.attempted (hrun : FallbackRun steps sys) {t : FallbackStep}
    {later : List FallbackStep} (hsteps : steps = past ++ o :: (rest ++ t :: later))
    (hnewest : Newest o rest t g)
    (hundisturbed : g ≠ 0 → ∀ before e after, rest = before ++ e :: after → e.Forgets g →
      ∃ f ∈ before, f.Fires g) : ∃ e ∈ rest ++ [t], g ∈ e.asked := by
  by_contra hnone
  have hnoask : ∀ e ∈ rest ++ [t], g ∉ e.asked := fun e he hasked => hnone ⟨e, he, hasked⟩
  rw [← List.cons_append, ← List.append_assoc] at hsteps
  obtain ⟨sys', hpast, -, ht⟩ := hrun.split hsteps
  obtain ⟨hactive, hopen, hgeneration, -⟩ := hpast.waiting hnewest.captured hnewest.session
  have hwaiting : sys'.controller.fallbackGeneration = g := by
    by_cases hzero : g = 0
    · rw [hzero] at hgeneration ⊢
      exact hgeneration.elim id id
    · refine (hpast.still_waiting hnewest.captured hnewest.session (hundisturbed hzero) ?_).1
      exact fun e he => hnoask e (by simp [he])
  have hasked := hnewest.fires_last.asked (hrun.sound t (by simp [hsteps])) ?_ ?_ ?_
  · exact hnoask t (by simp) hasked
  · rw [ht]
    exact hactive
  · rw [ht]
    exact hopen
  · rw [ht]
    exact hwaiting

/-- When a frame is asked for, nothing has been forgotten before a timer has fired. -/
lemma FallbackRun.fires_before_forgets (hrun : FallbackRun steps sys) {t e : FallbackStep}
    {later before after : List FallbackStep} (hsteps : steps = past ++ o :: (rest ++ t :: later))
    (hnewest : Newest o rest t g) (hzero : g ≠ 0) (hattempted : ∃ e ∈ rest ++ [t], g ∈ e.asked)
    (hrest : rest = before ++ e :: after) (hforgets : e.Forgets g) : ∃ f ∈ before, f.Fires g := by
  obtain ⟨x, hx, hasked⟩ := hattempted
  have hmem : x ∈ steps := by
    rw [hsteps]
    rcases List.mem_append.mp hx with hx | hx
    · simp [hx]
    · simp [List.mem_singleton.mp hx]
  have hfires := (FallbackStep.fires_of_asked (hrun.sound x hmem) hasked).1
  have hsession := hnewest.session
  rw [hrest, List.append_assoc, List.cons_append, List.mem_append, List.mem_cons] at hx
  rcases hx with hearly | rfl | hlate
  · exact ⟨x, hearly, hfires⟩
  · obtain ⟨-, timer, thrown, hop, -⟩ := hfires
    rcases hforgets with ⟨_, _, _, hforgets⟩ | ⟨_, _, hforgets⟩
    · cases hop.symm.trans hforgets
    · cases hop.symm.trans hforgets
  · obtain ⟨between, behind, hsplit⟩ := List.append_of_mem hlate
    have hwithin : between ⊆ after := by
      rcases concat_eq_append_cons hsplit with ⟨rfl, -, -⟩ | ⟨_, rfl, -⟩
      · exact List.Subset.refl _
      · exact List.subset_append_left _ _
    have hmiddle : after ++ t :: later = between ++ x :: (behind ++ later) := by
      rw [List.append_cons, hsplit, List.append_assoc, List.cons_append]
    rw [hrest, List.append_assoc, List.cons_append, hmiddle] at hsteps
    refine absurd hasked
      (hrun.not_asked_of_forgets hsteps hnewest.captured hzero (fun y hy => ?_) hforgets)
    refine hsession y ?_
    rw [hrest]
    rw [List.mem_append, List.mem_cons] at hy ⊢
    exact hy.imp_right (Or.imp_right fun hbetween => hwithin hbetween)

end Waiting

/-- **When the newest capture gets its request**: exactly when no JPEG of an earlier capture comes
before.  A JPEG does not say which capture it is of, and any of them clears the fallback that is
pending. -/
theorem alwaysAttempted_iff (hrun : FallbackRun steps sys) :
    AlwaysAttempted steps ↔ Undisturbed steps := by
  constructor
  · intro h past o rest t later g hsteps hnewest hzero before e after hrest hforgets
    have hattempted := h past o rest t later g hsteps hnewest
    exact hrun.fires_before_forgets hsteps hnewest hzero hattempted hrest hforgets
  · intro h past o rest t later g hsteps hnewest
    exact hrun.attempted hsteps hnewest (h past o rest t later g hsteps hnewest)

/-- No JPEG but one of the newest capture, and no frame: a step that cannot come in the way of the
newest capture's fallback. -/
def FallbackStep.inTime (s : FallbackStep) : Bool :=
  match s.op with
  | .Jpeg number _ _ => number == s.captures
  | .Frame _ _ _ => false
  | _ => true

/-- There is no capture after `o`, so that the capture of `o` is still the newest. -/
lemma FallbackRun.captures_eq {past : List FallbackStep} {o : FallbackStep} :
    ∀ {between : List FallbackStep} {sys : FallbackSystem}, FallbackRun (past ++ o :: between) sys →
      (∀ e ∈ between, e.captured? = none) → sys.captures = o.captures := by
  intro between
  induction between using List.reverseRecOn with
  | nil =>
      intro sys hrun _
      obtain ⟨sys', op, -, rfl, rfl⟩ := hrun.concat
      rfl
  | append_singleton between e ih =>
      intro sys hrun hnone
      rw [← List.cons_append, ← List.append_assoc] at hrun
      obtain ⟨sys', op, hpast, rfl, rfl⟩ := hrun.concat
      have hcaptured : (sys'.step op).captured? = none := hnone _ (by simp)
      rw [FallbackStep.captured?, List.findSome?_eq_none_iff] at hcaptured
      have hnew : (sys'.step op).calls.filterMap ControllerCall.scheduled? = [] :=
        List.filterMap_eq_nil_iff.mpr hcaptured
      have hearlier := ih hpast fun e he => hnone e (by simp [he])
      rw [← hearlier, FallbackSystem.next]
      exact congrArg (fun more => sys'.captures + more.length) hnew

/-- Where every JPEG comes before the next capture, and no frame comes, nothing is disturbed. -/
lemma FallbackRun.undisturbed (hrun : FallbackRun steps sys) (h : ∀ s ∈ steps, s.inTime = true) :
    Undisturbed steps := by
  intro past o rest t later g hsteps hnewest _ before e after hrest hforgets
  have hmem : e ∈ rest := by simp [hrest]
  have htime : e.inTime = true := h e (by simp [hsteps, hmem])
  rw [FallbackStep.inTime] at htime
  rcases hforgets with ⟨number, data, busy, hop⟩ | ⟨thrown, busy, hop⟩
  · -- The JPEG is one of the capture itself.
    rw [hop, beq_iff_eq] at htime
    have hsplit : steps = (past ++ o :: before) ++ e :: (after ++ t :: later) := by
      simp [hsteps, hrest]
    obtain ⟨sys', hpast, henabled, he⟩ := hrun.split hsplit
    have hrun' : FallbackRun (past ++ o :: (before ++ [e])) (sys'.next e.op) := by
      have hnext := hpast.step e.op henabled
      rwa [← he, List.append_assoc, List.cons_append] at hnext
    have hwithin : before ++ [e] ⊆ rest := by
      rw [hrest, List.append_cons before e after]
      exact List.subset_append_left _ _
    have hcaptures : (sys'.step e.op).captures = o.captures :=
      hrun'.captures_eq fun x hx => hnewest.newest x (hwithin hx)
    rw [← he, ← htime] at hcaptures
    rw [hcaptures] at hop
    exact absurd hop (hnewest.unseen e hmem data busy)
  · rw [hop] at htime
    exact absurd htime (by simp)

/-- Two pictures are taken.  The JPEG of the first comes before the second, whose own one comes only
after its timer. -/
def twoPicturesOps : List FallbackOp :=
  [.Start {}, .SurfaceCreated {}, .ExecuteCommand { uptimeMillis := 1000 } 1 .Capture,
    .ExecuteCommand { uptimeMillis := 1100 } 2 .ReleaseShutter, .Jpeg 1 (some [0xFF, 0xD8]) false,
    .ExecuteCommand { uptimeMillis := 4000 } 3 .Capture,
    .ExecuteCommand { uptimeMillis := 4100 } 4 .ReleaseShutter, .Timer (.Scheduled 1) none,
    .Timer (.Scheduled 2) none, .Jpeg 2 (some [0xFF, 0xD8]) false]

/-- A frame is asked for the second capture, after the JPEG of the first came in time. -/
theorem alwaysAttempted_twoPicturesOps :
    AlwaysAttempted (({} : FallbackSystem).steps twoPicturesOps) ∧
      (({} : FallbackSystem).steps twoPicturesOps).flatMap FallbackStep.asked = [2] := by
  have hrun := fallbackRun_steps twoPicturesOps (by decide +kernel)
  exact ⟨(alwaysAttempted_iff hrun).mpr (hrun.undisturbed (by decide +kernel)), by decide +kernel⟩

/-- The first picture is taken at one second and the second at four, and each shutter is released at
once.  The JPEG of the first comes between them and the timer of the second, which is at nine. -/
def overtakenOps : List FallbackOp :=
  [.Start {}, .SurfaceCreated {}, .ExecuteCommand { uptimeMillis := 1000 } 1 .Capture,
    .ExecuteCommand { uptimeMillis := 1100 } 2 .ReleaseShutter,
    .ExecuteCommand { uptimeMillis := 4000 } 3 .Capture,
    .ExecuteCommand { uptimeMillis := 4100 } 4 .ReleaseShutter, .Jpeg 1 (some [0xFF, 0xD8]) false,
    .Timer (.Scheduled 1) none, .Timer (.Pending 1) none, .Timer (.Scheduled 2) none]

/-- Nothing is asked for the second capture: the JPEG of the first comes after it, and clears its
fallback. -/
theorem not_alwaysAttempted_overtakenOps :
    (∃ sys, FallbackRun (({} : FallbackSystem).steps overtakenOps) sys) ∧
      ¬ AlwaysAttempted (({} : FallbackSystem).steps overtakenOps) := by
  refine ⟨⟨_, fallbackRun_steps overtakenOps (by decide +kernel)⟩, fun hattempted => ?_⟩
  have hasked := hattempted [_, _, _, _] _ [_, _, _, _] _ [] 2 rfl
    ⟨by decide +kernel, by decide +kernel, by decide +kernel, ?_, ⟨none, rfl⟩, by decide +kernel⟩
  · exact absurd hasked (by decide +kernel)
  · intro e he data busy hop
    have hnumber : e.op ∈ [FallbackOp.ExecuteCommand { uptimeMillis := 4100 } 4 .ReleaseShutter,
        .Jpeg 1 (some [0xFF, 0xD8]) false, .Timer (.Scheduled 1) none, .Timer (.Pending 1) none] :=
      List.mem_map_of_mem he
    simp only [hop, List.mem_cons, FallbackOp.Jpeg.injEq, reduceCtorEq, false_or, List.not_mem_nil,
      or_false] at hnumber
    exact absurd hnumber.1 (by decide +kernel)

end LegacyAlpha
