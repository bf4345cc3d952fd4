import LegacyAlphaRemote.Runtime.Session

/-!
# A capture request that is sent again

A client that gets no answer sends its capture request again, with the same request id.  The answer
to the first is remembered, and the second gets it again, without a second photograph.

`deduplicator_step` says what a step can do to the memory.  From there the answer to a request is
followed through a session: before the request its id is unknown (`RuntimePath.unknown`), afterwards
the entry is held, one place nearer to the end of its time in memory with every new request
(`RuntimePath.held`).  `capture_idempotent` puts the two together: within the retention time, and while
fewer than 64 other requests are new, every request with the id gets the first answer.
`not_capture_idempotent_crowd` shows what 64 new ones do.
-/

namespace LegacyAlpha

open RequestDeduplicator

variable {assets : Assets} {target : Target} {config : NativeConfig} {rt rt' : NativeRuntime}
  {io : Io}

namespace NativeRuntime

/-! ## Capture requests -/

/-- The capture request that `handleRequest` looks up in memory, if it comes to that: a `POST` that
is allowed and authenticated, says that it is JSON, and whose body is well formed. -/
def admitted (target : Target) (rt : NativeRuntime) (now : ℤ) (request : HttpRequest)
    (remoteAddress : Bytes) : Option CaptureRequest :=
  if request.method == bytes "POST" && (rt.mutationLimiter.allow remoteAddress now).1
      && rt.authenticate request.pin && contentTypeIsJson request.contentType
      && request.path == bytes "/api/v1/capture" then
    parseCaptureJson target request.body
  else none

/-- An admitted capture request is handled as one. -/
lemma handleRequest_of_admitted (assets : Assets) (config : NativeConfig) (io : Io)
    {request : HttpRequest} {remoteAddress : Bytes} {capture : CaptureRequest}
    (h : rt.admitted target io.nowMs.1 request remoteAddress = some capture) :
    ∃ mutationLimiter, handleRequest assets target config rt io request remoteAddress =
      handleCapture assets config { rt with mutationLimiter } io.nowMs.2 io.nowMs.1 capture := by
  rw [admitted] at h
  split_ifs at h with hadmitted
  simp only [Bool.and_eq_true, beq_iff_eq] at hadmitted
  obtain ⟨⟨⟨⟨hmethod, hallowed⟩, hpin⟩, hjson⟩, hpath⟩ := hadmitted
  have hnot : ¬ rt.AllowedGet io.nowMs.1 request remoteAddress := by
    rintro ⟨hget, -⟩
    exact absurd (hmethod.symm.trans hget) (by decide)
  rcases handleRequest_cases assets target config rt io request remoteAddress with
    ⟨-, hpost, -⟩ | ⟨hget, -⟩ | ⟨-, hhandle⟩
  · exact absurd ⟨hmethod, hallowed⟩ hpost
  · exact absurd hget hnot
  · refine ⟨(rt.mutationLimiter.allow remoteAddress io.nowMs.1).2, ?_⟩
    have hpin' : authenticate { rt with
        mutationLimiter := (rt.mutationLimiter.allow remoteAddress io.nowMs.1).2 } request.pin =
        true := hpin
    rw [hhandle, handlePost, hpin', hjson, hpath, h]
    rfl

lemma updateScreen_deduplicator (rt : NativeRuntime) (io : Io) (force : Bool) :
    (updateScreen assets config rt io force).1.deduplicator = rt.deduplicator := by
  obtain ⟨screen, h⟩ := updateScreen_runtime assets config rt io force
  rw [h]

lemma decideCapture_deduplicator (config : NativeConfig) (rt : NativeRuntime) (io : Io)
    (capture : CaptureRequest) :
    (decideCapture config rt io capture).2.1.deduplicator = rt.deduplicator := by
  rw [decideCapture]
  split_ifs
  · rfl
  · dsimp only
    split_ifs <;> rfl

lemma handleCancel_deduplicator (rt : NativeRuntime) (io : Io) (request : HttpRequest) :
    (handleCancel assets config rt io request).runtime.deduplicator = rt.deduplicator := by
  rw [handleCancel]
  split_ifs
  · rfl
  · dsimp only
    split_ifs
    · rfl
    · exact updateScreen_deduplicator _ _ _

lemma handleFocus_deduplicator (rt : NativeRuntime) (io : Io) (request : HttpRequest) :
    (handleFocus assets config rt io request).runtime.deduplicator = rt.deduplicator := by
  rw [handleFocus]
  cases parseFocusJson request.body with
  | none => rfl
  | some pressed =>
      dsimp only
      split_ifs
      · rfl
      · exact updateScreen_deduplicator _ _ _

/-- A request that is not admitted as a capture request leaves the memory alone. -/
lemma deduplicator_of_not_admitted {request : HttpRequest} {remoteAddress : Bytes}
    (h : rt.admitted target io.nowMs.1 request remoteAddress = none) :
    (handleRequest assets target config rt io request remoteAddress).runtime.deduplicator =
      rt.deduplicator := by
  rcases handleRequest_cases assets target config rt io request remoteAddress with
    ⟨-, -, _, _, _, _, hhandle⟩ | ⟨-, hhandle⟩ | ⟨⟨hmethod, hallowed⟩, hhandle⟩
  · rw [hhandle]
  · rw [hhandle, handleGet_runtime]
  · rw [hhandle, handlePost]
    split_ifs with hpin hjson hpath
    · rfl
    · rfl
    · have hparse : parseCaptureJson target request.body = none := by
        rw [admitted, if_pos] at h
        · exact h
        · have hpin' : rt.authenticate request.pin = true := by
            rw [Bool.not_eq_true, Bool.not_eq_false'] at hpin
            exact hpin
          have hjson' : contentTypeIsJson request.contentType = true := by simpa using hjson
          rw [hmethod, hallowed, hpin', hjson', hpath]
          rfl
      rw [hparse]
    · exact handleCancel_deduplicator _ _ _
    · exact handleFocus_deduplicator _ _ _
    · rfl

end NativeRuntime

/-! ## One step -/

namespace RuntimeStep

/-- The capture request that the step admits: it comes with the PIN, the limiter lets it pass, and its
body is one. -/
def capture (target : Target) (s : RuntimeStep) : Option CaptureRequest :=
  match s.op with
  | .HandleRequest request remoteAddress =>
      s.before.admitted target s.now request remoteAddress
  | _ => none

/-- The step admits a capture request with this id. -/
def Captures (target : Target) (s : RuntimeStep) (requestId : Bytes) : Prop :=
  ∃ capture, s.capture target = some capture ∧ capture.requestId = requestId

/-- The step admits a capture request whose id is not remembered, so that the machine is asked. -/
def isNew (target : Target) (s : RuntimeStep) : Bool :=
  match s.capture target with
  | some capture => (s.before.deduplicator.find capture.requestId s.now).1.isNone
  | none => false

end RuntimeStep

variable {s : RuntimeStep} {op : RuntimeOp} {clock : ℕ → ℤ} {answers : ℕ → Bool}

/-- Without a capture request the memory stays as it is, or a new session clears it. -/
lemma deduplicator_of_no_capture (hs : s = rt.step assets target config op clock answers)
    (hcapture : s.capture target = none) :
    s.after.deduplicator = rt.deduplicator ∨
      rt.started = false ∧ s.after.deduplicator = rt.deduplicator.clear := by
  subst hs
  cases op with
  | Start random serverStarts =>
      by_cases hstarted : rt.started = true
      · refine Or.inl ?_
        simp only [NativeRuntime.step, NativeRuntime.perform, NativeRuntime.start, if_pos hstarted]
      · refine Or.inr ⟨Bool.eq_false_iff.mpr hstarted, ?_⟩
        simp only [NativeRuntime.step, NativeRuntime.perform, NativeRuntime.start, if_neg hstarted]
        cases serverStarts with
        | false => rfl
        | true => exact NativeRuntime.updateScreen_deduplicator _ _ _
  | Stop =>
      refine Or.inl ?_
      simp only [NativeRuntime.step, NativeRuntime.perform, NativeRuntime.stop]
      split_ifs <;> rfl
  | HandleRequest request remoteAddress =>
      exact Or.inl (NativeRuntime.deduplicator_of_not_admitted hcapture)
  | SetPreview data width height source error =>
      refine Or.inl ?_
      simp only [NativeRuntime.step, NativeRuntime.perform, NativeRuntime.setPreview]
      split_ifs <;> rfl
  | ServerTick =>
      refine Or.inl ?_
      simp only [NativeRuntime.step, NativeRuntime.perform, NativeRuntime.onServerTick]
      split_ifs
      · rfl
      · exact NativeRuntime.updateScreen_deduplicator _ _ _
  | _ => exact Or.inl (NativeRuntime.updateScreen_deduplicator _ _ _)

/-- A capture request is handled as one, when the limiter has counted it. -/
lemma step_of_capture {capture : CaptureRequest}
    (hs : s = rt.step assets target config op clock answers)
    (hcapture : s.capture target = some capture) :
    ∃ (rt₁ : NativeRuntime) (io : Io),
      rt₁.machine = rt.machine ∧ rt₁.deduplicator = rt.deduplicator ∧ io.trace = [.Clock s.now] ∧
      s.response = some (rt₁.handleCapture assets config io s.now capture).response ∧
      s.after = (rt₁.handleCapture assets config io s.now capture).runtime ∧
      s.trace = (rt₁.handleCapture assets config io s.now capture).io.trace := by
  subst hs
  cases op with
  | HandleRequest request remoteAddress =>
      obtain ⟨mutationLimiter, hhandle⟩ := NativeRuntime.handleRequest_of_admitted assets config
        { clock, answers } hcapture
      refine ⟨{ rt with mutationLimiter }, (Io.nowMs { clock, answers }).2, rfl, rfl, rfl, ?_, ?_, ?_⟩
      · exact congrArg (fun out => some out.response) hhandle
      · exact congrArg Handled.runtime hhandle
      · exact congrArg (fun out => out.io.trace) hhandle
  | _ => exact nomatch hcapture

/-- **What a step can do to the memory.**  A capture request whose id is remembered gets the
remembered answer and nothing else happens; the answer to any other is remembered; all other steps
leave the memory alone, but that a new session begins without any. -/
theorem deduplicator_step (hs : s = rt.step assets target config op clock answers) :
    (s.capture target = none ∧ (s.after.deduplicator = rt.deduplicator ∨
      rt.started = false ∧ s.after.deduplicator = rt.deduplicator.clear)) ∨
    ∃ capture, s.capture target = some capture ∧
      ((∃ old, (rt.deduplicator.find capture.requestId s.now).1 = some old ∧
          s.response = some (NativeRuntime.jsonResponse old.status old.body) ∧
          s.after.machine = rt.machine ∧ s.trace = [.Clock s.now] ∧
          s.after.deduplicator = rt.deduplicator.prune s.now) ∨
        (rt.deduplicator.find capture.requestId s.now).1 = none ∧ ∃ status body,
          s.response = some (NativeRuntime.jsonResponse status body) ∧
          s.after.deduplicator =
            (rt.deduplicator.prune s.now).remember capture.requestId status body s.now) := by
  cases hcapture : s.capture target with
  | none => exact Or.inl ⟨rfl, deduplicator_of_no_capture hs hcapture⟩
  | some capture =>
      obtain ⟨rt₁, io, hmachine, hdedup, htrace, hresponse, hafter, hio⟩ :=
        step_of_capture hs hcapture
      rw [← hdedup, ← hmachine]
      refine Or.inr ⟨capture, rfl, ?_⟩
      cases hfind : (rt₁.deduplicator.find capture.requestId s.now).1 with
      | some old =>
          rw [NativeRuntime.handleCapture_of_found hfind] at hresponse hafter hio
          refine Or.inl ⟨old, rfl, hresponse, ?_, hio.trans htrace, ?_⟩ <;> rw [hafter]
      | none =>
          obtain ⟨status, body, rt', io', hdecide, hhandle⟩ :=
            NativeRuntime.handleCapture_of_missing assets config io hfind
          have hkept := NativeRuntime.decideCapture_deduplicator config
            { rt₁ with deduplicator := rt₁.deduplicator.prune s.now } io capture
          rw [hdecide] at hkept
          refine Or.inr ⟨rfl, status, body, ?_, ?_⟩
          · rw [hresponse, hhandle]
          · rw [hafter, hhandle, NativeRuntime.updateScreen_deduplicator]
            exact congrArg (fun deduplicator => deduplicator.remember capture.requestId status body
              s.now) hkept

/-! ## Runs -/

namespace RuntimePath

variable {steps : List RuntimeStep}

/-- The bounds of the memory are never changed. -/
lemma limits (hpath : RuntimePath assets target config rt steps rt') :
    rt'.deduplicator.maximum = rt.deduplicator.maximum ∧
      rt'.deduplicator.retentionMs = rt.deduplicator.retentionMs := by
  induction hpath with
  | refl rt => exact ⟨rfl, rfl⟩
  | step op clock answers hrest ih =>
      rw [ih.1, ih.2]
      rcases deduplicator_step rfl with ⟨-, h | ⟨-, h⟩⟩ | ⟨capture, -, h⟩
      · rw [h]
        exact ⟨rfl, rfl⟩
      · rw [h]
        exact ⟨rfl, rfl⟩
      · rcases h with ⟨old, -, -, -, -, h⟩ | ⟨-, status, body, -, h⟩
        · rw [h]
          exact ⟨rfl, rfl⟩
        · rw [h]
          exact ⟨rfl, rfl⟩

/-- An id nobody has asked for is not known. -/
lemma unknown {requestId : Bytes} (hpath : RuntimePath assets target config rt steps rt')
    (hother : ∀ s ∈ steps, ¬ s.Captures target requestId)
    (h : rt.deduplicator.Unknown requestId) : rt'.deduplicator.Unknown requestId := by
  induction hpath with
  | refl rt => exact h
  | @step rt rt' steps op clock answers hrest ih =>
      refine ih (fun s hs => hother s (List.mem_cons_of_mem _ hs)) ?_
      rcases deduplicator_step (s := rt.step assets target config op clock answers) rfl with
        ⟨-, hsame | ⟨-, hclear⟩⟩ | ⟨capture, hcapture, hstep⟩
      · rw [hsame]
        exact h
      · rw [hclear]
        exact fun entry hentry => nomatch hentry
      · rcases hstep with ⟨old, -, -, -, -, hprune⟩ | ⟨-, status, body, -, hremember⟩
        · rw [hprune]
          exact h.prune
        · rw [hremember]
          refine h.prune.remember (fun hid => ?_) status body
          exact hother _ (List.mem_cons_self ..) ⟨capture, hcapture, hid⟩

end RuntimePath

/-- The answer to a request with an unknown id is held from then on. -/
lemma held_of_unknown {requestId : Bytes} (hs : s = rt.step assets target config op clock answers)
    (h : rt.deduplicator.Unknown requestId) (hcaptures : s.Captures target requestId) :
    ∃ status body, s.response = some (NativeRuntime.jsonResponse status body) ∧
      s.after.deduplicator.Held
        { requestId, status, body, expiresMs := s.now + rt.deduplicator.retentionMs } 0 := by
  obtain ⟨capture, hcapture, rfl⟩ := hcaptures
  rcases deduplicator_step hs with ⟨hnone, -⟩ | ⟨capture', hcapture', hstep⟩
  · exact nomatch hcapture.symm.trans hnone
  · obtain rfl := Option.some.inj (hcapture.symm.trans hcapture')
    rcases hstep with ⟨old, hfind, -⟩ | ⟨-, status, body, hresponse, hremember⟩
    · exact nomatch h.find.symm.trans hfind
    · refine ⟨status, body, hresponse, ?_⟩
      rw [hremember]
      exact held_remember h.prune status body

/-- A request whose entry is held gets the answer of the entry, and nothing else comes of it. -/
lemma step_of_held {entry : Entry} {n : ℕ} (hs : s = rt.step assets target config op clock answers)
    (h : rt.deduplicator.Held entry n) (hcaptures : s.Captures target entry.requestId)
    (hnow : s.now < entry.expiresMs) :
    s.response = some (NativeRuntime.jsonResponse entry.status entry.body) ∧
      s.after.machine = rt.machine ∧ s.trace = [.Clock s.now] := by
  obtain ⟨capture, hcapture, hid⟩ := hcaptures
  have hheld := h.find hnow
  rw [← hid] at hheld
  rcases deduplicator_step hs with ⟨hnone, -⟩ | ⟨capture', hcapture', hstep⟩
  · exact nomatch hcapture.symm.trans hnone
  · obtain rfl := Option.some.inj (hcapture.symm.trans hcapture')
    rcases hstep with ⟨old, hfind, hresponse, hmachine, htrace, -⟩ | ⟨hfind, -⟩
    · obtain rfl := Option.some.inj (hheld.symm.trans hfind)
      exact ⟨hresponse, hmachine, htrace⟩
    · exact nomatch hheld.symm.trans hfind

/-- An entry that is held is still held after a step of the session: one place further on when the
step is a new capture request. -/
lemma held_step {entry : Entry} {n : ℕ} (hs : s = rt.step assets target config op clock answers)
    (hstarted : rt.started = true) (hnow : s.now < entry.expiresMs)
    (hroom : n + (if s.isNew target then 1 else 0) < rt.deduplicator.maximum)
    (h : rt.deduplicator.Held entry n) :
    s.after.deduplicator.Held entry (n + if s.isNew target then 1 else 0) := by
  have hbefore : s.before = rt := by rw [hs]; rfl
  rcases deduplicator_step hs with ⟨hcapture, hsame | ⟨hstopped, -⟩⟩ | ⟨capture, hcapture, hstep⟩
  · rw [hsame, RuntimeStep.isNew, hcapture]
    exact h
  · exact nomatch hstopped.symm.trans hstarted
  · rcases hstep with ⟨old, hfind, -, -, -, hprune⟩ | ⟨hfind, status, body, -, hremember⟩
    · have hnew : s.isNew target = false := by
        rw [RuntimeStep.isNew, hcapture, hbefore]
        simp only [hfind, Option.isNone_some]
      rw [hprune, hnew]
      exact h.prune hnow
    · have hnew : s.isNew target = true := by
        rw [RuntimeStep.isNew, hcapture, hbefore]
        simp only [hfind, Option.isNone_none]
      have hid : capture.requestId ≠ entry.requestId := by
        intro hid
        rw [hid, h.find hnow] at hfind
        exact nomatch hfind
      rw [hnew] at hroom ⊢
      rw [hremember]
      exact (h.prune hnow).remember hnow hroom hid status body

/-- **An entry that is held stays held** while its time is not up and there is room for it. -/
theorem RuntimePath.held {steps : List RuntimeStep} {entry : Entry}
    (hpath : RuntimePath assets target config rt steps rt') (hstarted : rt.started = true)
    (hlasts : ∀ s ∈ steps, s.op ≠ .Stop) (hnow : ∀ s ∈ steps, s.now < entry.expiresMs) :
    ∀ {n}, n + steps.countP (RuntimeStep.isNew target) < rt.deduplicator.maximum →
      rt.deduplicator.Held entry n →
      rt'.deduplicator.Held entry (n + steps.countP (RuntimeStep.isNew target)) := by
  induction hpath with
  | refl rt => exact fun _ h => h
  | @step rt rt' steps op clock answers hrest ih =>
      intro n hroom h
      rw [List.countP_cons, ← Nat.add_assoc] at hroom
      have hop := hlasts _ (List.mem_cons_self ..)
      have hlimits : (rt.step assets target config op clock answers).after.deduplicator.maximum =
          rt.deduplicator.maximum := (RuntimePath.step op clock answers (.refl _)).limits.1
      have hheld := held_step rfl hstarted (hnow _ (List.mem_cons_self ..)) (by omega) h
      have hrest := ih (started_step hstarted hop clock answers)
        (fun s hs => hlasts s (List.mem_cons_of_mem _ hs))
        (fun s hs => hnow s (List.mem_cons_of_mem _ hs)) (by rw [hlimits]; omega) hheld
      rw [List.countP_cons]
      convert hrest using 1
      omega

/-! ## Sessions -/

/-- The steps of a session, or the first of them: a `start` has begun it, no `stop` has ended it, and
the clock has not gone back. -/
structure Session (assets : Assets) (target : Target) (config : NativeConfig)
    (steps : List RuntimeStep) : Prop where
  begins : ∃ past rt random clock answers rt', RuntimeRun assets target config past rt ∧
    rt.started = false ∧ RuntimePath assets target config
      (rt.step assets target config (.Start random true) clock answers).after steps rt'
  lasts : ∀ s ∈ steps, s.op ≠ .Stop
  monotonic : steps.Pairwise fun s t => s.now ≤ t.now

/-- A session begins with an empty memory, of 64 entries and the retention time of the
configuration. -/
lemma Session.memory {steps : List RuntimeStep} (h : Session assets target config steps) :
    ∃ rt rt', RuntimePath assets target config rt steps rt' ∧ rt.started = true ∧
      rt.deduplicator = { maximum := 64, retentionMs := config.dedupeRetentionMs } := by
  obtain ⟨past, rt, random, clock, answers, rt', hpast, hstopped, hpath⟩ := h.begins
  obtain ⟨hmaximum, hretention⟩ := RuntimePath.limits hpast
  have hrenewed : (rt.step assets target config (.Start random true) clock answers).after =
      (NativeRuntime.updateScreen assets config
        { (NativeRuntime.operate config (rt.renew random) { clock, answers } .Start).runtime with
          started := true }
        (NativeRuntime.operate config (rt.renew random) { clock, answers } .Start).io true).1 := by
    simp only [NativeRuntime.step, NativeRuntime.perform, NativeRuntime.start, hstopped]
    rfl
  refine ⟨_, rt', hpath, ?_, ?_⟩
  · rw [hrenewed]
    exact (NativeRuntime.keeps_updateScreen _ _ _).started
  · rw [hrenewed, NativeRuntime.updateScreen_deduplicator]
    show rt.deduplicator.clear = _
    rw [RequestDeduplicator.clear, hmaximum, hretention]
    rfl

/-- The step gets the answer of the first one, and nothing else comes of it. -/
structure RuntimeStep.Repeats (first later : RuntimeStep) : Prop where
  response : later.response = first.response
  machine : later.after.machine = later.before.machine
  calls : ∀ requestId delayMs autofocus m,
    .Call (.RequestCapture requestId delayMs autofocus) m ∉ later.trace

/-- **Idempotence of capture requests.**  Of the capture requests of a session with one id, those
that arrive within the retention time of the first get its answer, and nothing else comes of them,
as long as fewer than 64 other requests were new since. -/
theorem capture_idempotent {early between late : List RuntimeStep} {first later : RuntimeStep}
    {requestId : Bytes}
    (hsession : Session assets target config (early ++ first :: between ++ later :: late))
    (hfirst : first.Captures target requestId) (hearly : ∀ s ∈ early, ¬ s.Captures target requestId)
    (hlater : later.Captures target requestId)
    (hwindow : later.now < first.now + config.dedupeRetentionMs)
    (hroom : between.countP (RuntimeStep.isNew target) < 64) : first.Repeats later := by
  obtain ⟨rt, rt', hpath, hstarted, hempty⟩ := hsession.memory
  obtain ⟨rt₂, hpath₂, hrest⟩ := hpath.append_inv
  obtain ⟨rt₁, hpath₁, hfirstpath⟩ := hpath₂.append_inv
  obtain ⟨⟨op, clock, answers, hfirststep⟩, hbetween⟩ := hfirstpath.cons_inv
  obtain ⟨⟨op', clock', answers', hlaterstep⟩, -⟩ := hrest.cons_inv
  have hlasts : ∀ s ∈ early ++ first :: between, s.op ≠ .Stop :=
    fun s hs => hsession.lasts s (List.mem_append_left _ hs)
  have hbefore : ∀ s ∈ between, s.now ≤ later.now := by
    intro s hs
    have hcross := (List.pairwise_append.mp hsession.monotonic).2.2
    exact hcross s (by simp [hs]) later (List.mem_cons_self ..)
  obtain ⟨hmaximum, hretention⟩ := hpath₁.limits
  rw [hempty] at hmaximum hretention
  have hunknown : rt₁.deduplicator.Unknown requestId := hpath₁.unknown hearly (by
    rw [hempty]
    exact fun entry hentry => nomatch hentry)
  obtain ⟨status, body, hanswer, hheld⟩ := held_of_unknown hfirststep hunknown hfirst
  rw [hretention] at hheld
  -- The entry of the first request is held until the later one comes.
  have hstarted₁ : rt₁.started = true := hpath₁.started hstarted
    fun s hs => hlasts s (List.mem_append_left _ hs)
  have hstarted₂ : first.after.started = true := by
    rw [hfirststep]
    refine started_step hstarted₁ (fun hop => hlasts first (by simp) ?_) clock answers
    rw [hfirststep, ← hop]
    rfl
  have hmaximum₂ : first.after.deduplicator.maximum = 64 := by
    rw [hfirststep]
    exact ((RuntimePath.step op clock answers (.refl _)).limits.1).trans hmaximum
  have hheld₂ := hbetween.held hstarted₂ (fun s hs => hlasts s (by simp [hs]))
    (fun s hs => lt_of_le_of_lt (hbefore s hs) hwindow)
    (by rw [hmaximum₂, Nat.zero_add]; exact hroom) hheld
  obtain ⟨hlateranswer, hmachine, htrace⟩ := step_of_held hlaterstep hheld₂ hlater hwindow
  refine ⟨hlateranswer.trans hanswer.symm, ?_, fun requestId delayMs autofocus m hcall => ?_⟩
  · rw [hmachine, hlaterstep]
    rfl
  · rw [htrace] at hcall
    exact nomatch List.mem_singleton.mp hcall

/-! ### Two sessions -/

/-- A session that `start` has just begun, without camera and network so far. -/
def startedRuntime : NativeRuntime :=
  ((NativeRuntime.new (configForPort 0)).step {} .armeabi (configForPort 0) (.Start 123456 true)
    (fun _ => 0) fun _ => true).after

/-- Any operations after it make a session, in the order of their times and without a `stop`. -/
lemma session_taken {ops : List (RuntimeOp × ℤ)} (hlasts : ∀ op ∈ ops, op.1 ≠ .Stop)
    (hmonotonic : ops.Pairwise fun op op' => op.2 ≤ op'.2) :
    Session {} .armeabi (configForPort 0)
      (RuntimePath.taken {} .armeabi (configForPort 0) startedRuntime ops) where
  begins := ⟨[], .new (configForPort 0), 123456, fun _ => 0, fun _ => true, _,
    RuntimePath.refl _, rfl, RuntimePath.taken_path _ _ _ _ _⟩
  lasts := by
    intro s hs
    refine hlasts (s.op, s.now) ?_
    rw [← RuntimePath.taken_ops {} .armeabi (configForPort 0) startedRuntime ops]
    exact List.mem_map_of_mem hs
  monotonic := by
    rw [← RuntimePath.taken_ops {} .armeabi (configForPort 0) startedRuntime ops,
      List.pairwise_map] at hmonotonic
    exact hmonotonic

/-- The camera and the network become ready, one after the other. -/
def readyOps : List (RuntimeOp × ℤ) :=
  [(.SetCameraReady true, 1), (.SetWifiState true (bytes "DIRECT-camera") [] [] 1 [], 2)]

/-- The request to capture number `i`: without delay and autofocus, and from an address of which no
more than six such requests come. -/
def captureRequest (i : ℕ) : RuntimeOp :=
  .HandleRequest
    { method := bytes "POST", path := bytes "/api/v1/capture", pin := bytes "123456"
      contentType := bytes "application/json"
      body := bytes "\x7b\"request_id\":\"shot-" ++ formatNat i
        ++ bytes "\",\"delay_ms\":0,\"autofocus\":false\x7d" }
    (bytes "192.168.122." ++ formatNat (100 + i / 6))

/-- The first request for capture number 0, when the machine is armed. -/
def firstCapture : RuntimeStep :=
  (RuntimePath.destination {} .armeabi (configForPort 0) startedRuntime readyOps).step {} .armeabi
    (configForPort 0) (captureRequest 0) (fun _ => 1000) fun _ => true

/-- The steps of these operations after the first request. -/
def stepsAfter (ops : List (RuntimeOp × ℤ)) : List RuntimeStep :=
  RuntimePath.taken {} .armeabi (configForPort 0) firstCapture.after ops

/-- The request for the same capture, sent again after these operations. -/
def captureAfter (ops : List (RuntimeOp × ℤ)) (now : ℤ) : RuntimeStep :=
  (RuntimePath.destination {} .armeabi (configForPort 0) firstCapture.after ops).step {} .armeabi
    (configForPort 0) (captureRequest 0) (fun _ => now) fun _ => true

/-- The steps before the first request, from the session's beginning on. -/
def readySteps : List RuntimeStep :=
  RuntimePath.taken {} .armeabi (configForPort 0) startedRuntime readyOps

lemma session_captureAfter {ops : List (RuntimeOp × ℤ)} {now : ℤ}
    (hlasts : ∀ op ∈ readyOps ++ (captureRequest 0, 1000) :: (ops ++ [(captureRequest 0, now)]),
      op.1 ≠ .Stop)
    (hmonotonic : (readyOps ++ (captureRequest 0, 1000) ::
      (ops ++ [(captureRequest 0, now)])).Pairwise fun op op' => op.2 ≤ op'.2) :
    Session {} .armeabi (configForPort 0)
      (readySteps ++ firstCapture :: stepsAfter ops ++ [captureAfter ops now]) := by
  have hsteps := RuntimePath.taken_split {} .armeabi (configForPort 0) startedRuntime readyOps ops
    (captureRequest 0) (captureRequest 0) 1000 now
  have hsession := session_taken hlasts hmonotonic
  rw [hsteps] at hsession
  exact hsession

/-- The first request is for capture number 0, and nothing before it is a capture request. -/
lemma firstCapture_captures : firstCapture.Captures .armeabi (bytes "shot-0") ∧
    ∀ s ∈ readySteps, ¬ s.Captures .armeabi (bytes "shot-0") := by
  have hfirst : (firstCapture.capture .armeabi).map CaptureRequest.requestId =
      some (bytes "shot-0") := by decide +kernel
  have hready : ∀ s ∈ readySteps, s.capture .armeabi = none := by decide +kernel
  refine ⟨Option.map_eq_some_iff.mp hfirst, fun s hs => ?_⟩
  rintro ⟨capture, hcapture, -⟩
  exact nomatch (hready s hs).symm.trans hcapture

/-- A request that is sent again after half a second gets the answer again, and the machine is not
asked. -/
theorem capture_idempotent_again : firstCapture.Repeats (captureAfter [] 1500) := by
  have hsession : Session {} .armeabi (configForPort 0)
      (readySteps ++ firstCapture :: stepsAfter [] ++ [captureAfter [] 1500]) :=
    session_captureAfter (by decide +kernel) (by decide +kernel)
  have hagain : ((captureAfter [] 1500).capture .armeabi).map CaptureRequest.requestId =
      some (bytes "shot-0") := by decide +kernel
  exact capture_idempotent hsession firstCapture_captures.1 firstCapture_captures.2
    (Option.map_eq_some_iff.mp hagain) (by decide +kernel) (by decide +kernel)

/-- 64 other capture requests, from eleven addresses, and the ticks of the server after which the
camera is ready again. -/
def crowd : List (RuntimeOp × ℤ) :=
  (List.range' 1 64).map (fun i => (captureRequest i, 1000)) ++
    [(.ServerTick, 2000), (.ServerTick, 5000)]

/-- After these the request is not remembered any more.  Five seconds after the first it takes a
second photograph. -/
theorem not_capture_idempotent_crowd :
    Session {} .armeabi (configForPort 0)
        (readySteps ++ firstCapture :: stepsAfter crowd ++ [captureAfter crowd 6000]) ∧
      firstCapture.Captures .armeabi (bytes "shot-0") ∧
      (∀ s ∈ readySteps, ¬ s.Captures .armeabi (bytes "shot-0")) ∧
      (captureAfter crowd 6000).Captures .armeabi (bytes "shot-0") ∧
      (captureAfter crowd 6000).now < firstCapture.now + (configForPort 0).dedupeRetentionMs ∧
      ¬ firstCapture.Repeats (captureAfter crowd 6000) := by
  have hagain : ((captureAfter crowd 6000).capture .armeabi).map CaptureRequest.requestId =
        some (bytes "shot-0") ∧
      (captureAfter crowd 6000).before.machine.state = .Armed ∧
      (captureAfter crowd 6000).after.machine.state = .Capturing := by decide +kernel
  refine ⟨session_captureAfter (by decide +kernel) (by decide +kernel), firstCapture_captures.1,
    firstCapture_captures.2, Option.map_eq_some_iff.mp hagain.1, by decide +kernel, fun h => ?_⟩
  have hstate := hagain.2.2
  rw [h.machine, hagain.2.1] at hstate
  exact nomatch hstate

end LegacyAlpha
