import LegacyAlphaRemote.Runtime.Authentication

/-!
# What a client learns of the PIN

A client that does not have the PIN should learn nothing about it.  This is a property of two runs:
the same is done to two runtimes, whose sessions have different PINs (`TwinPath`), and none of the
requests carries one of them (`Uncarried`).  Then the answers are the same, and so are the
runtimes but for the PIN and the screen it is shown on (`pin_unseen`).

The PIN is read in two places.  `authenticate` compares it with what a request carries, and fails in
both runs.  The text of the screen contains it, and whether the screen is updated may indeed depend on
the PIN; but the screen comes last in every operation, and nothing else ever looks at it.
-/

namespace LegacyAlpha

/-- The PIN is changed, and with it the screen that shows it; everything else stays. -/
def NativeRuntime.disguise (rt : NativeRuntime) (pin screen : Bytes) : NativeRuntime :=
  { rt with pin, previousScreen := screen }

/-- The runtimes are the same, but for the PIN and the screen that shows it. -/
def NativeRuntime.SameButPin (rt rt' : NativeRuntime) : Prop :=
  ∃ pin screen, rt' = rt.disguise pin screen

/-- The operations are the same, but for the random number a PIN is made of. -/
inductive RuntimeOp.SameButPin : RuntimeOp → RuntimeOp → Prop
  | start (random random' : ℕ) (serverStarts : Bool) :
      SameButPin (.Start random serverStarts) (.Start random' serverStarts)
  | refl (op : RuntimeOp) : SameButPin op op

/-- Two runtimes to which the same is done, with the same clock and the same answers of Java. -/
inductive TwinPath (assets : Assets) (target : Target) (config : NativeConfig) :
    NativeRuntime → NativeRuntime → List (RuntimeStep × RuntimeStep) → Prop
  | refl (rt rt' : NativeRuntime) : TwinPath assets target config rt rt' []
  | step {rt rt' : NativeRuntime} {steps : List (RuntimeStep × RuntimeStep)} {op op' : RuntimeOp}
      (hop : op.SameButPin op') (clock : ℕ → ℤ) (answers : ℕ → Bool) :
      TwinPath assets target config (rt.step assets target config op clock answers).after
        (rt'.step assets target config op' clock answers).after steps →
      TwinPath assets target config rt rt' ((rt.step assets target config op clock answers,
        rt'.step assets target config op' clock answers) :: steps)

/-- The PIN that a step generates: a `start` does, unless there is a session already. -/
def RuntimeStep.generated (s : RuntimeStep) : Option Pin :=
  match s.op with
  | .Start random _ => if s.before.started then none else some (.generate random)
  | _ => none

/-- No request of the two runs carries this PIN, be it the right one or not. -/
def NotCarried (steps : List (RuntimeStep × RuntimeStep)) (pin : Pin) : Prop :=
  ∀ s ∈ steps, ∀ request remoteAddress,
    s.1.op = .HandleRequest request remoteAddress → request.pin ≠ pin.text

/-- No request carries a PIN that is generated in either of the runs, earlier or later. -/
def Uncarried (steps : List (RuntimeStep × RuntimeStep)) : Prop :=
  ∀ s ∈ steps, ∀ pin, s.1.generated = some pin ∨ s.2.generated = some pin → NotCarried steps pin

/-- A pair of steps that cannot be told apart: they return the same, and leave runtimes that are the
same but for the PIN. -/
structure RuntimeStep.Unseen (s s' : RuntimeStep) : Prop where
  ok : s'.ok = s.ok
  response : s'.response = s.response
  after : s.after.SameButPin s'.after

variable {assets : Assets} {target : Target} {config : NativeConfig} {rt rt' rt₁ : NativeRuntime}
  {io io' : Io}

namespace NativeRuntime

lemma SameButPin.refl (rt : NativeRuntime) : rt.SameButPin rt :=
  ⟨rt.pin, rt.previousScreen, rfl⟩

lemma sameButPin_disguise (rt : NativeRuntime) (pin screen : Bytes) :
    rt.SameButPin (rt.disguise pin screen) :=
  ⟨pin, screen, rfl⟩

/-- A pair of handled requests that cannot be told apart: their answers are the same, and the runtimes
are but for the PIN. -/
structure UnseenHandled (out out' : Handled) : Prop where
  response : out'.response = out.response
  runtime : out.runtime.SameButPin out'.runtime

/-! ## The screen -/

/-- Whatever the screen shows, nothing else of the runtime depends on it. -/
lemma sameButPin_updateScreen (h : rt.SameButPin rt') (force : Bool) :
    (updateScreen assets config rt io force).1.SameButPin
      (updateScreen assets config rt' io' force).1 := by
  obtain ⟨pin, screen, rfl⟩ := h
  obtain ⟨shown, hshown⟩ := updateScreen_runtime assets config rt io force
  obtain ⟨shown', hshown'⟩ :=
    updateScreen_runtime assets config (rt.disguise pin screen) io' force
  rw [hshown, hshown']
  exact ⟨pin, shown', rfl⟩

/-! ## The machine -/

/-- The machine does not know the PIN. -/
lemma operate_disguise (config : NativeConfig) (rt : NativeRuntime) (io : Io) (op : Op)
    (pin screen : Bytes) :
    operate config (rt.disguise pin screen) io op =
      { operate config rt io op with
        runtime := (operate config rt io op).runtime.disguise pin screen } :=
  rfl

/-- Two operations that return the same and leave runtimes that are the same but for the PIN. -/
structure UnseenPerformed (out out' : Performed) : Prop where
  ok : out'.ok = out.ok
  response : out'.response = out.response
  runtime : out.runtime.SameButPin out'.runtime

lemma unseen_operateAndShow (rt : NativeRuntime) (io : Io) (op : Op) (pin screen : Bytes) :
    UnseenPerformed (operateAndShow assets config rt io op)
      (operateAndShow assets config (rt.disguise pin screen) io op) where
  ok := rfl
  response := rfl
  runtime := sameButPin_updateScreen (sameButPin_disguise _ pin screen) true

/-! ## Sessions -/

lemma unseen_start (rt : NativeRuntime) (io : Io) (random random' : ℕ) (serverStarts : Bool)
    (pin screen : Bytes) :
    UnseenPerformed (rt.start assets config io random serverStarts)
      ((rt.disguise pin screen).start assets config io random' serverStarts) := by
  have hstarted : (rt.disguise pin screen).started = rt.started := rfl
  rw [NativeRuntime.start, NativeRuntime.start, hstarted]
  by_cases hsession : rt.started = true
  · rw [if_pos hsession, if_pos hsession]
    exact ⟨rfl, rfl, sameButPin_disguise rt pin screen⟩
  · rw [if_neg hsession, if_neg hsession]
    have hrenewed : (rt.disguise pin screen).renew random' =
        (rt.renew random).disguise (formatPin (random' % 1000000)) screen := rfl
    rw [hrenewed, operate_disguise]
    cases serverStarts with
    | false => exact ⟨rfl, rfl, [], screen, rfl⟩
    | true =>
        have hopened : SameButPin
            { (operate config (rt.renew random) io .Start).runtime with started := true }
            { (operate config (rt.renew random) io .Start).runtime.disguise
              (formatPin (random' % 1000000)) screen with started := true } := ⟨_, screen, rfl⟩
        dsimp only [Bool.not_true, Bool.false_eq_true, if_false]
        exact ⟨rfl, rfl, sameButPin_updateScreen hopened true⟩

lemma unseen_stop (rt : NativeRuntime) (io : Io) (pin screen : Bytes) :
    UnseenPerformed (rt.stop config io) ((rt.disguise pin screen).stop config io) := by
  have hstarted : (rt.disguise pin screen).started = rt.started := rfl
  rw [NativeRuntime.stop, NativeRuntime.stop, hstarted]
  by_cases hsession : rt.started = true
  · rw [if_neg (by simp [hsession]), if_neg (by simp [hsession])]
    exact ⟨rfl, rfl, [], screen, rfl⟩
  · rw [if_pos (by simpa using hsession), if_pos (by simpa using hsession)]
    exact ⟨rfl, rfl, sameButPin_disguise rt pin screen⟩

/-! ## Callbacks -/

lemma unseen_setWifiState (rt : NativeRuntime) (io : Io) (ready : Bool)
    (ssid password address : Bytes) (stationCount : ℤ) (error pin screen : Bytes) :
    UnseenPerformed (setWifiState assets config rt io ready ssid password address stationCount error)
      (setWifiState assets config (rt.disguise pin screen) io ready ssid password address
        stationCount error) :=
  unseen_operateAndShow _ _ _ pin screen

lemma sameButPin_setPreview (rt : NativeRuntime) (data : Bytes) (width height : ℤ)
    (source error pin screen : Bytes) :
    (setPreview rt data width height source error).SameButPin
      (setPreview (rt.disguise pin screen) data width height source error) := by
  rw [setPreview, setPreview]
  split_ifs <;> exact sameButPin_disguise _ pin screen

lemma unseen_onServerTick (rt : NativeRuntime) (io : Io) (pin screen : Bytes) :
    UnseenPerformed (onServerTick assets config rt io)
      (onServerTick assets config (rt.disguise pin screen) io) := by
  have hstarted : (rt.disguise pin screen).started = rt.started := rfl
  rw [onServerTick, onServerTick, hstarted]
  by_cases hsession : rt.started = true
  · rw [if_neg (by simp [hsession]), if_neg (by simp [hsession])]
    exact ⟨rfl, rfl, sameButPin_updateScreen (sameButPin_disguise _ pin screen) false⟩
  · rw [if_pos (by simpa using hsession), if_pos (by simpa using hsession)]
    exact ⟨rfl, rfl, sameButPin_disguise rt pin screen⟩

/-! ## Requests -/

/-- Only the preview asks for the PIN. -/
lemma unseen_handleGet (assets : Assets) (rt : NativeRuntime) (io : Io) {request : HttpRequest}
    {pin : Bytes} (screen : Bytes)
    (hpin : (rt.disguise pin screen).authenticate request.pin = rt.authenticate request.pin) :
    UnseenHandled (handleGet assets rt io request)
      (handleGet assets (rt.disguise pin screen) io request) := by
  constructor
  · have hpreview : (rt.disguise pin screen).previewJpeg = rt.previewJpeg := rfl
    have hstatus : (rt.disguise pin screen).statusJson io = rt.statusJson io := rfl
    rw [handleGet, handleGet, hpin, hpreview, hstatus]
    split_ifs <;> rfl
  · rw [handleGet_runtime, handleGet_runtime]
    exact sameButPin_disguise rt pin screen

lemma decideCapture_disguise (config : NativeConfig) (rt : NativeRuntime) (io : Io)
    (capture : CaptureRequest) (pin screen : Bytes) :
    decideCapture config (rt.disguise pin screen) io capture =
      ((decideCapture config rt io capture).1,
        (decideCapture config rt io capture).2.1.disguise pin screen,
        (decideCapture config rt io capture).2.2) := by
  rw [decideCapture, decideCapture, operate_disguise]
  split_ifs
  · rfl
  · dsimp only
    split_ifs <;> rfl

lemma unseen_handleCapture (rt : NativeRuntime) (io : Io) (now : ℤ) (capture : CaptureRequest)
    (pin screen : Bytes) :
    UnseenHandled (handleCapture assets config rt io now capture)
      (handleCapture assets config (rt.disguise pin screen) io now capture) := by
  cases hfind : (rt.deduplicator.find capture.requestId now).1 with
  | some old =>
      have hfind' : ((rt.disguise pin screen).deduplicator.find capture.requestId now).1 = some old :=
        hfind
      rw [handleCapture_of_found hfind, handleCapture_of_found hfind']
      exact ⟨rfl, sameButPin_disguise _ pin screen⟩
  | none =>
      have hfind' : ((rt.disguise pin screen).deduplicator.find capture.requestId now).1 = none := hfind
      obtain ⟨status, body, rt₁, io₁, hdecide, hhandle⟩ :=
        handleCapture_of_missing assets config io hfind
      obtain ⟨status', body', rt₂, io₂, hdecide', hhandle'⟩ :=
        handleCapture_of_missing assets config io hfind'
      have hdisguised := decideCapture_disguise config
        { rt with deduplicator := rt.deduplicator.prune now } io capture pin screen
      rw [hdecide] at hdisguised
      obtain ⟨hanswer, rfl, rfl⟩ : (status', body') = (status, body) ∧ rt₂ = rt₁.disguise pin screen ∧
          io₂ = io₁ := by
        simpa only [Prod.mk.injEq] using hdecide'.symm.trans hdisguised
      obtain ⟨rfl, rfl⟩ := Prod.mk.inj hanswer
      rw [hhandle, hhandle']
      exact ⟨rfl, sameButPin_updateScreen (sameButPin_disguise _ pin screen) true⟩

lemma unseen_handleCancel (rt : NativeRuntime) (io : Io) (request : HttpRequest)
    (pin screen : Bytes) :
    UnseenHandled (handleCancel assets config rt io request)
      (handleCancel assets config (rt.disguise pin screen) io request) := by
  rw [handleCancel, handleCancel, operate_disguise]
  split_ifs
  · exact ⟨rfl, sameButPin_disguise rt pin screen⟩
  · dsimp only
    split_ifs
    · exact ⟨rfl, sameButPin_disguise _ pin screen⟩
    · exact ⟨rfl, sameButPin_updateScreen (sameButPin_disguise _ pin screen) true⟩

lemma unseen_handleFocus (rt : NativeRuntime) (io : Io) (request : HttpRequest)
    (pin screen : Bytes) :
    UnseenHandled (handleFocus assets config rt io request)
      (handleFocus assets config (rt.disguise pin screen) io request) := by
  rw [handleFocus, handleFocus]
  cases parseFocusJson request.body with
  | none => exact ⟨rfl, sameButPin_disguise rt pin screen⟩
  | some pressed =>
      dsimp only
      rw [operate_disguise]
      split_ifs
      · exact ⟨rfl, sameButPin_disguise _ pin screen⟩
      · exact ⟨rfl, sameButPin_updateScreen (sameButPin_disguise _ pin screen) true⟩

/-- A request that is refused for its PIN is refused in both runs. -/
lemma unseen_handlePost (rt : NativeRuntime) (io : Io) (now : ℤ) {request : HttpRequest}
    {pin : Bytes} (screen : Bytes)
    (hpin : (rt.disguise pin screen).authenticate request.pin = rt.authenticate request.pin) :
    UnseenHandled (handlePost assets target config rt io now request)
      (handlePost assets target config (rt.disguise pin screen) io now request) := by
  have hsame : rt.SameButPin (rt.disguise pin screen) := sameButPin_disguise rt pin screen
  rw [handlePost, handlePost, hpin]
  split_ifs
  · exact ⟨rfl, hsame⟩
  · exact ⟨rfl, hsame⟩
  · cases parseCaptureJson target request.body with
    | none => exact ⟨rfl, hsame⟩
    | some capture => exact rt.unseen_handleCapture io now capture pin screen
  · exact rt.unseen_handleCancel io request pin screen
  · exact rt.unseen_handleFocus io request pin screen
  · exact ⟨rfl, hsame⟩

lemma unseen_handleRequest (assets : Assets) (target : Target) (config : NativeConfig)
    (rt : NativeRuntime) (io : Io) {request : HttpRequest}
    (remoteAddress : Bytes) {pin : Bytes} (screen : Bytes)
    (hpin : (rt.disguise pin screen).authenticate request.pin = rt.authenticate request.pin) :
    UnseenHandled (handleRequest assets target config rt io request remoteAddress)
      (handleRequest assets target config (rt.disguise pin screen) io request remoteAddress) := by
  have hstatus : (rt.disguise pin screen).statusLimiter = rt.statusLimiter := rfl
  have hmutation : (rt.disguise pin screen).mutationLimiter = rt.mutationLimiter := rfl
  rw [handleRequest, handleRequest, hstatus, hmutation]
  dsimp only
  by_cases hget : (request.method == bytes "GET") = true
  · rw [if_pos hget, if_pos hget]
    cases rt.statusLimiter.allow remoteAddress io.nowMs.1 with
    | mk allowed statusLimiter =>
        cases allowed with
        | false => exact ⟨rfl, sameButPin_disguise _ pin screen⟩
        | true => exact unseen_handleGet assets { rt with statusLimiter } _ screen hpin
  · rw [if_neg hget, if_neg hget]
    by_cases hpost : (request.method != bytes "POST") = true
    · rw [if_pos hpost, if_pos hpost]
      exact ⟨rfl, sameButPin_disguise rt pin screen⟩
    · rw [if_neg hpost, if_neg hpost]
      cases rt.mutationLimiter.allow remoteAddress io.nowMs.1 with
      | mk allowed mutationLimiter =>
          cases allowed with
          | false => exact ⟨rfl, sameButPin_disguise _ pin screen⟩
          | true => exact unseen_handlePost { rt with mutationLimiter } _ _ screen hpin

/-! ## A step -/

/-- **A step** whose request, if it is one, is authenticated in both runs or in neither. -/
theorem unseen_perform (assets : Assets) (target : Target) (config : NativeConfig)
    {op op' : RuntimeOp} (hop : op.SameButPin op') (io : Io) {pin : Bytes}
    (screen : Bytes)
    (hpin : ∀ request remoteAddress, op = .HandleRequest request remoteAddress →
      (rt.disguise pin screen).authenticate request.pin = rt.authenticate request.pin) :
    UnseenPerformed (rt.perform assets target config io op)
      ((rt.disguise pin screen).perform assets target config io op') := by
  cases hop with
  | start random random' serverStarts =>
      exact rt.unseen_start io random random' serverStarts pin screen
  | refl =>
      cases op with
      | Start random serverStarts => exact rt.unseen_start io random random serverStarts pin screen
      | Stop => exact rt.unseen_stop io pin screen
      | SetCameraReady ready => exact rt.unseen_operateAndShow io _ pin screen
      | SetWifiState ready ssid password address stationCount error =>
          exact rt.unseen_setWifiState io ready ssid password address stationCount error pin screen
      | ReportCommandResult commandId resultCode message =>
          exact rt.unseen_operateAndShow io _ pin screen
      | PhysicalFocus pressed => exact rt.unseen_operateAndShow io _ pin screen
      | PhysicalShutter pressed => exact rt.unseen_operateAndShow io _ pin screen
      | SetPreview data width height source error =>
          exact ⟨rfl, rfl, rt.sameButPin_setPreview data width height source error pin screen⟩
      | HandleRequest request remoteAddress =>
          have hhandled := rt.unseen_handleRequest assets target config io remoteAddress screen
            (hpin request remoteAddress rfl)
          exact ⟨rfl, congrArg some hhandled.response, hhandled.runtime⟩
      | ServerTick => exact rt.unseen_onServerTick io pin screen
      | ServerError error =>
          exact ⟨rfl, rfl, sameButPin_updateScreen ⟨pin, screen, rfl⟩ true⟩

end NativeRuntime

/-! ## Runs -/

variable {session session' : Option Pin}

/-- A request that carries neither PIN is authenticated in neither session; and without a session
there is no difference. -/
lemma InSession.authenticate_eq (h : InSession rt session) (h' : InSession rt' session')
    (hstarted : rt'.started = rt.started) {candidate : Bytes}
    (hcandidate : ∀ pin, session = some pin ∨ session' = some pin → candidate ≠ pin.text) :
    rt'.authenticate candidate = rt.authenticate candidate := by
  rw [Bool.eq_iff_iff, NativeRuntime.authenticate_iff h.pin_length,
    NativeRuntime.authenticate_iff h'.pin_length, h.pin, h'.pin]
  rw [h.started, h'.started] at hstarted
  cases session with
  | none =>
      cases session' with
      | none => exact Iff.rfl
      | some pin' => exact nomatch hstarted
  | some pin =>
      cases session' with
      | none => exact nomatch hstarted
      | some pin' =>
          exact iff_of_false (hcandidate pin' (Or.inr rfl)) (hcandidate pin (Or.inl rfl))

/-- The PIN of a session is that of the session before, or has just been generated. -/
lemma sessionAfter_generated (h : InSession rt session) (op : RuntimeOp) (clock : ℕ → ℤ)
    (answers : ℕ → Bool) {pin : Pin}
    (hpin : sessionAfter session (rt.step assets target config op clock answers) = some pin) :
    session = some pin ∨ (rt.step assets target config op clock answers).generated = some pin := by
  cases op with
  | Start random serverStarts =>
      have hafter : (if session.isNone && serverStarts then some (Pin.generate random) else session) =
        some pin := hpin
      split_ifs at hafter with hnew
      · obtain ⟨hnone, -⟩ := Bool.and_eq_true_iff.mp hnew
        have hstarted : rt.started = false := by
          rw [h.started, Option.isNone_iff_eq_none.mp hnone]
          rfl
        refine Or.inr ?_
        show (if rt.started = true then none else some (Pin.generate random)) = _
        rw [hstarted]
        exact hafter
      · exact Or.inl hafter
  | Stop => exact nomatch hpin
  | _ => exact Or.inl hpin

lemma NotCarried.tail {s : RuntimeStep × RuntimeStep} {steps : List (RuntimeStep × RuntimeStep)}
    {pin : Pin} (h : NotCarried (s :: steps) pin) : NotCarried steps pin :=
  fun s hs => h s (List.mem_cons_of_mem _ hs)

/-- The induction goes along both runs; a PIN in use was generated earlier in one of them. -/
lemma TwinPath.unseen {steps : List (RuntimeStep × RuntimeStep)}
    (hpath : TwinPath assets target config rt rt' steps) : ∀ {session session' : Option Pin},
    InSession rt session → InSession rt' session' → rt.SameButPin rt' →
    (∀ pin, session = some pin ∨ session' = some pin → NotCarried steps pin) → Uncarried steps →
    ∀ s ∈ steps, s.1.Unseen s.2 := by
  induction hpath with
  | refl => exact fun _ _ _ _ _ s hs => nomatch hs
  | @step rt rt' steps op op' hop clock answers hrest ih =>
      intro session session' h h' hsame hsession hgenerated
      have hpin : ∀ request remoteAddress, op = .HandleRequest request remoteAddress →
          rt'.authenticate request.pin = rt.authenticate request.pin := by
        intro request remoteAddress hrequest
        refine h.authenticate_eq h' ?_ fun pin hpin =>
          hsession pin hpin _ List.mem_cons_self request remoteAddress hrequest
        obtain ⟨pin, screen, rfl⟩ := hsame
        rfl
      obtain ⟨pin, screen, rfl⟩ := hsame
      obtain ⟨hok, hresponse, hruntime⟩ := NativeRuntime.unseen_perform assets target config hop
        { clock, answers } screen hpin
      refine List.forall_mem_cons.mpr ⟨⟨hok, hresponse, hruntime⟩, ?_⟩
      refine ih (h.step op clock answers) (h'.step op' clock answers) hruntime (fun pin hpin => ?_)
        fun s hs pin hpin => (hgenerated s (List.mem_cons_of_mem _ hs) pin hpin).tail
      rcases hpin with hpin | hpin
      · rcases sessionAfter_generated h op clock answers hpin with hold | hnew
        · exact (hsession pin (Or.inl hold)).tail
        · exact (hgenerated _ List.mem_cons_self pin (Or.inl hnew)).tail
      · rcases sessionAfter_generated h' op' clock answers hpin with hold | hnew
        · exact (hsession pin (Or.inr hold)).tail
        · exact (hgenerated _ List.mem_cons_self pin (Or.inr hnew)).tail

/-- **Nothing of the PIN is seen**: in two runs that differ in their PINs, none of which a request
carries, the answers are the same, and so are the runtimes but for the PIN and the screen. -/
theorem pin_unseen {steps : List (RuntimeStep × RuntimeStep)}
    (hpath : TwinPath assets target config (.new config) (.new config) steps)
    (huncarried : Uncarried steps) : ∀ s ∈ steps, s.1.Unseen s.2 :=
  hpath.unseen (inSession_new config) (inSession_new config) (.refl _) (fun _ hpin => by simp at hpin)
    huncarried

/-- Someone guesses, and asks for the preview with six zeros. -/
def guess : HttpRequest :=
  { method := bytes "GET", path := bytes "/api/v1/preview.jpg", pin := bytes "000000" }

/-- The preview is asked for with neither of the PINs `123456` and `654321`, in two sessions that
differ in nothing else. -/
def guessSteps : List (RuntimeStep × RuntimeStep) :=
  let twin (random : ℕ) := RuntimePath.taken {} .armeabi {} (.new {})
    [(.Start random true, 1000), (.HandleRequest guess (bytes "192.168.122.7"), 1100)]
  (twin 123456).zip (twin 654321)

theorem pin_unseen_guess :
    Pin.generate 123456 ≠ Pin.generate 654321 ∧ ∀ s ∈ guessSteps, s.1.Unseen s.2 := by
  have hops : guessSteps.map (fun s => s.1.op) =
      [.Start 123456 true, .HandleRequest guess (bytes "192.168.122.7")] := rfl
  have hpins : guessSteps.flatMap (fun s => [s.1.generated, s.2.generated]) =
      [some (.generate 123456), some (.generate 654321), none, none] := rfl
  have hpath : TwinPath {} .armeabi {} (.new {}) (.new {}) guessSteps :=
    .step (.start 123456 654321 true) _ _ (.step (.refl _) _ _ (.refl _ _))
  refine ⟨by decide, pin_unseen hpath ?_⟩
  intro s hs pin hpin t ht request remoteAddress hrequest
  have hrequests : t.1.op ∈ guessSteps.map fun s => s.1.op := List.mem_map_of_mem ht
  have hgenerated : some pin ∈ guessSteps.flatMap fun s => [s.1.generated, s.2.generated] :=
    List.mem_flatMap.mpr ⟨s, hs, by simpa [eq_comm] using hpin⟩
  rw [hops, hrequest] at hrequests
  rw [hpins] at hgenerated
  obtain ⟨rfl, -⟩ : request = guess ∧ _ := by simpa using hrequests
  obtain rfl | rfl : pin = .generate 123456 ∨ pin = .generate 654321 := by simpa using hgenerated
  · decide
  · decide

end LegacyAlpha
