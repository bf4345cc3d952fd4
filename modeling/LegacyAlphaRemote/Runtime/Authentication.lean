import LegacyAlphaRemote.Core.Trace
import LegacyAlphaRemote.Runtime.Session
import Mathlib.Data.Nat.Bitwise

/-!
# Nothing protected without the PIN

A request has a protected effect when it returns the preview, changes the machine or sends a command
to the camera (`ProtectedEffect`).  None should have one unless it carries the PIN of the session
that is going on (`PinGuarded`).

`authenticate` compares the request's PIN with the one the runtime knows, and outside a session that
one is empty: a request without a PIN passes.  The machine is dormant then and refuses what such a
request asks for.  The preview does not know of sessions: it can be set again after `stop` has
cleared it, and a request without a PIN gets it (`LeaksPreview`).  `pinGuarded_iff` says that this
is the only way.
-/

namespace LegacyAlpha

open TraceLogic

variable {assets : Assets} {target : Target} {config : NativeConfig} {rt rt' : NativeRuntime}
  {io : Io}

/-! ## `authenticate` -/

lemma foldl_or_eq_zero (f : ℕ → ℕ) (is : List ℕ) : ∀ difference,
    is.foldl (fun difference i => difference ||| f i) difference = 0 ↔
      difference = 0 ∧ ∀ i ∈ is, f i = 0 := by
  induction is with
  | nil => simp
  | cons i is ih =>
      intro difference
      rw [List.foldl_cons, ih, Nat.or_eq_zero_iff]
      simp [and_assoc]

namespace NativeRuntime

/-- **`authenticate` compares whole PINs**, of six bytes at most: the difference of the lengths is
zero and that of every byte, or the candidate is another one. -/
theorem authenticate_iff (hlen : rt.pin.length ≤ 6) (candidate : Bytes) :
    rt.authenticate candidate = true ↔ candidate = rt.pin := by
  rw [authenticate]
  simp only [beq_iff_eq]
  rw [foldl_or_eq_zero, Nat.xor_eq_zero_iff]
  constructor
  · rintro ⟨hlength, hbytes⟩
    refine List.ext_getElem hlength fun i hi hi' => ?_
    have hxor := hbytes i (List.mem_range.mpr (by omega))
    rw [Nat.xor_eq_zero_iff, UInt8.toNat_inj, List.getD_eq_getElem _ _ hi,
      List.getD_eq_getElem _ _ hi'] at hxor
    exact hxor
  · rintro rfl
    exact ⟨rfl, fun i _ => Nat.xor_self _⟩

/-! ## Who gets the preview -/

lemma jsonContentType_ne : jsonContentType ≠ bytes "image/jpeg" := by decide

/-- Nothing else is answered with the content type of a picture. -/
lemma handleGet_preview (rt : NativeRuntime) (io : Io) (request : HttpRequest) :
    (handleGet assets rt io request).response.contentType = bytes "image/jpeg" ↔
      request.path = bytes "/api/v1/preview.jpg" ∧ rt.authenticate request.pin = true ∧
        rt.previewJpeg ≠ [] := by
  rw [handleGet]
  by_cases hpath : request.path = bytes "/api/v1/preview.jpg"
  · rw [hpath, if_neg (by decide), if_neg (by decide), if_neg (by decide), if_neg (by decide),
      if_pos (by decide)]
    cases hpin : rt.authenticate request.pin with
    | false => simp [jsonContentType_ne]
    | true =>
        cases hjpeg : rt.previewJpeg with
        | nil => simp [jsonContentType_ne]
        | cons c rest => simp
  · refine iff_of_false ?_ fun himage => hpath himage.1
    have hbeq : (request.path == bytes "/api/v1/preview.jpg") = false := by simpa using hpath
    simp only [hbeq, Bool.false_eq_true, if_false]
    split_ifs
    · show bytes "text/html; charset=utf-8" ≠ bytes "image/jpeg"
      decide
    · show bytes "text/css; charset=utf-8" ≠ bytes "image/jpeg"
      decide
    · show bytes "application/javascript; charset=utf-8" ≠ bytes "image/jpeg"
      decide
    · exact jsonContentType_ne
    · exact jsonContentType_ne

lemma handleCapture_contentType (rt : NativeRuntime) (io : Io) (now : ℤ)
    (capture : CaptureRequest) :
    (handleCapture assets config rt io now capture).response.contentType = jsonContentType := by
  cases hfind : (rt.deduplicator.find capture.requestId now).1 with
  | some old =>
      rw [handleCapture_of_found hfind]
      rfl
  | none =>
      obtain ⟨status, body, rt', io', -, h⟩ := handleCapture_of_missing assets config io hfind
      rw [h]
      rfl

/-- The answer to a `POST` request is JSON. -/
lemma handlePost_contentType (rt : NativeRuntime) (io : Io) (now : ℤ) (request : HttpRequest) :
    (handlePost assets target config rt io now request).response.contentType = jsonContentType := by
  rw [handlePost]
  split_ifs
  · rfl
  · rfl
  · cases parseCaptureJson target request.body with
    | none => rfl
    | some capture => exact rt.handleCapture_contentType io now capture
  · rw [handleCancel]
    split_ifs
    · rfl
    · dsimp only
      split_ifs <;> rfl
  · rw [handleFocus]
    cases parseFocusJson request.body with
    | none => rfl
    | some pressed =>
        dsimp only
        split_ifs <;> rfl
  · rfl

/-- **Who gets the preview**: a `GET` request for it that is allowed and authenticated, when there is
a preview. -/
theorem handleRequest_preview (rt : NativeRuntime) (io : Io) (request : HttpRequest)
    (remoteAddress : Bytes) :
    (handleRequest assets target config rt io request remoteAddress).response.contentType =
        bytes "image/jpeg" ↔
      rt.AllowedGet io.nowMs.1 request remoteAddress ∧
        request.path = bytes "/api/v1/preview.jpg" ∧ rt.authenticate request.pin = true ∧
          rt.previewJpeg ≠ [] := by
  rcases handleRequest_cases assets target config rt io request remoteAddress with
    ⟨hget, -, _, _, status, message, h⟩ | ⟨hget, h⟩ | ⟨hpost, h⟩
  · rw [h]
    exact ⟨fun hjpeg => absurd hjpeg jsonContentType_ne, fun himage => absurd himage.1 hget⟩
  · rw [h, handleGet_preview]
    exact ⟨fun himage => ⟨hget, himage⟩, fun himage => himage.2⟩
  · rw [h, handlePost_contentType]
    refine ⟨fun hjpeg => absurd hjpeg jsonContentType_ne, fun himage => ?_⟩
    have hmethod := hpost.1.symm.trans himage.1.1
    exact absurd hmethod (by decide)

end NativeRuntime

/-! ## Protected effects -/

namespace RuntimeStep

/-- The step answers with the preview, which no other answer has the content type of. -/
def ReturnsPreview (s : RuntimeStep) : Prop :=
  ∃ response, s.response = some response ∧ response.contentType = bytes "image/jpeg"

/-- The step returns the preview, changes the machine or sends a command to the camera. -/
def ProtectedEffect (s : RuntimeStep) : Prop :=
  s.ReturnsPreview ∨ s.after.machine ≠ s.before.machine ∨ ∃ e ∈ s.trace, e.CameraCommand

/-- The step is a request with the PIN of the session, or one without protected effect, or no
request. -/
def PinGuarded (past : List RuntimeStep) (s : RuntimeStep) : Prop :=
  ∀ request remoteAddress, s.op = .HandleRequest request remoteAddress → s.ProtectedEffect →
    ∃ pin : Pin, sessionOf past = some pin ∧ request.pin = pin.text

/-- The step is a request for the preview, without a PIN and outside a session, that is allowed and
finds a preview. -/
def LeaksPreview (s : RuntimeStep) : Prop :=
  ∃ request remoteAddress, s.op = .HandleRequest request remoteAddress ∧
    s.before.started = false ∧ request.pin = [] ∧
    s.before.AllowedGet s.now request remoteAddress ∧
    request.path = bytes "/api/v1/preview.jpg" ∧ s.before.previewJpeg ≠ []

end RuntimeStep

open RuntimeStep

variable {steps : List RuntimeStep} {request : HttpRequest} {remoteAddress : Bytes} {clock : ℕ → ℤ}
  {answers : ℕ → Bool}

/-- A request whose step has a protected effect passed `authenticate`. -/
lemma authenticate_of_protectedEffect
    (h : (rt.step assets target config (.HandleRequest request remoteAddress) clock
      answers).ProtectedEffect) : rt.authenticate request.pin = true := by
  rcases h with ⟨response, hresponse, himage⟩ | heffect
  · rw [← Option.some.inj hresponse] at himage
    exact ((rt.handleRequest_preview _ request remoteAddress).mp himage).2.2.1
  · by_contra hrefused
    have hinert := NativeRuntime.inert_of_refused assets target config
      (Bool.eq_false_iff.mpr hrefused) { clock, answers } remoteAddress
    rcases heffect with hmachine | ⟨e, he, hcamera⟩
    · exact hmachine hinert.machine
    · exact nomatch hinert.commands e he hcamera

/-- The PIN of a session is not too long for `authenticate`, and neither is none. -/
lemma InSession.pin_length {session : Option Pin} (h : InSession rt session) :
    rt.pin.length ≤ 6 := by
  rw [h.pin]
  cases session with
  | none => exact Nat.zero_le 6
  | some pin => exact pin.length.le

/-- Outside a session a protected effect is a leak of the preview. -/
lemma leaksPreview_of_protectedEffect (hidle : InSession rt none)
    (h : (rt.step assets target config (.HandleRequest request remoteAddress) clock
      answers).ProtectedEffect) :
    (rt.step assets target config (.HandleRequest request remoteAddress) clock
      answers).LeaksPreview := by
  have hpin := (NativeRuntime.authenticate_iff hidle.pin_length _).mp
    (authenticate_of_protectedEffect h)
  rcases h with ⟨response, hresponse, himage⟩ | heffect
  · rw [← Option.some.inj hresponse] at himage
    obtain ⟨hallowed, hpath, -, hjpeg⟩ :=
      (rt.handleRequest_preview _ request remoteAddress).mp himage
    exact ⟨request, remoteAddress, rfl, hidle.started, hpin.trans hidle.pin, hallowed, hpath, hjpeg⟩
  · have hinert := (NativeRuntime.serves_handleRequest assets target config rt { clock, answers }
      request remoteAddress).inert (hidle.dormant rfl)
    rcases heffect with hmachine | ⟨e, he, hcamera⟩
    · exact absurd hinert.machine hmachine
    · exact nomatch hinert.commands e he hcamera

/-- A leak is a protected effect without the PIN, where there is no session. -/
lemma LeaksPreview.protectedEffect {op : RuntimeOp} (hidle : rt.pin = [])
    (h : (rt.step assets target config op clock answers).LeaksPreview) :
    (rt.step assets target config op clock answers).ProtectedEffect := by
  obtain ⟨request, remoteAddress, rfl, -, hpin, hallowed, hpath, hjpeg⟩ := h
  refine Or.inl ⟨_, rfl, (rt.handleRequest_preview _ request remoteAddress).mpr
    ⟨hallowed, hpath, ?_, hjpeg⟩⟩
  rw [NativeRuntime.authenticate_iff (by rw [hidle]; exact Nat.zero_le 6), hpin, hidle]

/-- **One step**: it is guarded by the PIN exactly when it does not leak the preview. -/
theorem pinGuarded_step {past : List RuntimeStep} {op : RuntimeOp}
    (h : InSession rt (sessionOf past)) :
    (rt.step assets target config op clock answers).PinGuarded past ↔
      ¬ (rt.step assets target config op clock answers).LeaksPreview := by
  constructor
  · intro hguarded hleak
    have hleaking := hleak
    obtain ⟨request, remoteAddress, hop, hstarted, -⟩ := hleaking
    cases hsession : sessionOf past with
    | none =>
        rw [hsession] at h
        obtain ⟨pin, hpin, -⟩ :=
          hguarded request remoteAddress hop (LeaksPreview.protectedEffect h.pin hleak)
        rw [hsession] at hpin
        exact nomatch hpin
    | some pin =>
        rw [hsession] at h
        exact nomatch h.started.symm.trans hstarted
  · rintro hsafe request remoteAddress rfl heffect
    cases hsession : sessionOf past with
    | none =>
        rw [hsession] at h
        exact absurd (leaksPreview_of_protectedEffect h heffect) hsafe
    | some pin =>
        rw [hsession] at h
        exact ⟨pin, rfl, ((NativeRuntime.authenticate_iff h.pin_length _).mp
          (authenticate_of_protectedEffect heffect)).trans h.pin⟩

/-- **Nothing protected without the PIN, but for the preview after `stop`.**  In every run, every
request with a protected effect carries the PIN of the session going on exactly when no step leaks
the preview. -/
theorem pinGuarded_iff (hrun : RuntimeRun assets target config steps rt) :
    Always PinGuarded steps ↔ ∀ s ∈ steps, ¬ s.LeaksPreview := by
  have hstep {past future : List RuntimeStep} {s : RuntimeStep}
      (hsteps : steps = past ++ s :: future) : s.PinGuarded past ↔ ¬ s.LeaksPreview := by
    subst hsteps
    obtain ⟨before, hpast, hrest⟩ := RuntimePath.append_inv hrun
    obtain ⟨⟨op, clock, answers, rfl⟩, -⟩ := hrest.cons_inv
    exact pinGuarded_step (RuntimeRun.inSession hpast)
  constructor
  · intro hguarded s hs
    obtain ⟨past, future, hsteps⟩ := List.append_of_mem hs
    exact (hstep hsteps).mp (hguarded past s future hsteps)
  · intro hsafe past s future hsteps
    exact (hstep hsteps).mpr (hsafe s (by simp [hsteps]))

/-- A request for the preview with this PIN, from the phone. -/
def previewRequest (pin : Bytes) : RuntimeOp :=
  .HandleRequest { method := bytes "GET", path := bytes "/api/v1/preview.jpg", pin }
    (bytes "192.168.122.50")

/-- A preview that Java has, of the smallest size that looks like a JPEG. -/
def previewReady : RuntimeOp := .SetPreview [0xff, 0xd8, 0xff] 160 120 (bytes "thumbnail") []

/-- A session in which the preview is asked for with the PIN. -/
def sessionSteps : List RuntimeStep :=
  RuntimePath.taken {} .armeabi (configForPort 0) (.new (configForPort 0))
    [(.Start 123456 true, 0), (previewReady, 5), (previewRequest (bytes "123456"), 10)]

theorem pinGuarded_sessionSteps : Always PinGuarded sessionSteps := by
  have hstarted : ∀ s ∈ sessionSteps, s.op = .Start 123456 true ∨ s.before.started = true := by
    decide +kernel
  refine (pinGuarded_iff (RuntimePath.taken_path _ _ _ _ _)).mpr fun s hs hleak => ?_
  obtain ⟨request, remoteAddress, hop, hidle, -⟩ := hleak
  rcases hstarted s hs with hstart | hstarted
  · exact nomatch hstart.symm.trans hop
  · exact nomatch hstarted.symm.trans hidle

/-- A session is stopped, Java delivers a preview while the server thread is still there, and a
request without a PIN asks for it. -/
def stoppedSteps : List RuntimeStep :=
  RuntimePath.taken {} .armeabi (configForPort 0) (.new (configForPort 0))
    [(.Start 123456 true, 0), (.Stop, 5), (previewReady, 6), (previewRequest [], 7)]

/-- Without a PIN it gets the preview, which was set after the session had ended. -/
theorem not_pinGuarded_stoppedSteps :
    (∃ rt, RuntimeRun {} .armeabi (configForPort 0) stoppedSteps rt) ∧
      stoppedSteps.map RuntimeStep.response =
        [none, none, none, some ⟨200, bytes "image/jpeg", [0xff, 0xd8, 0xff]⟩] ∧
      ¬ Always PinGuarded stoppedSteps := by
  refine ⟨⟨_, RuntimePath.taken_path _ _ _ _ _⟩, by decide +kernel, fun hguarded => ?_⟩
  have hresponse : (stoppedSteps.getLast (List.cons_ne_nil _ _)).response =
      some ⟨200, bytes "image/jpeg", [0xff, 0xd8, 0xff]⟩ := by decide +kernel
  have hsession : sessionOf stoppedSteps.dropLast = none := by decide +kernel
  obtain ⟨pin, hpin, -⟩ := hguarded _ _ [] (List.dropLast_append_getLast _).symm _ _ rfl
    (Or.inl ⟨_, hresponse, rfl⟩)
  exact nomatch hsession.symm.trans hpin

end LegacyAlpha
