import LegacyAlphaRemote.Phone.Page
import LegacyAlphaRemote.Runtime.Authentication
import LegacyAlphaRemote.Runtime.Service

/-!
# What the page asks for arrives

From a request of the page to the runtime, over the text that is sent for it.

**The text.**  `Xhr.Sent` says what a browser makes of a request: the method, the path and the body are
the page's, and so are two of the headers; the others are the browser's own.  The parser of the server
reads it back (`Xhr.Sent.parse`), and `parseCaptureJson` what was tapped (`parseCaptureJson_stringify`).

**The runtime.**  `fulfil` says what each request of the page is meant to do.  There is no text in it and
no route, and `handleRequest_sent` says that it is what the runtime does.

**The service.**  When all of it has arrived, the runtime has made one step for it, and the response
of this step is what the phone reads: `ServiceRun.arrives`.  So the page shows what the camera was in the
step of its last status: `ServiceRun.reflected`.
-/

namespace LegacyAlpha

open ServiceEvent ConnectionEvent

/-! ## What the page can ask for -/

/-- The captures that the page can ask for: with an id of the page's own making and one of its delays.
-/
def Purpose.Proper : Purpose → Prop
  | .Capture request => ValidId request.requestId ∧ request.delayMs ∈ delays
  | _ => True

lemma isalnum_of_isdigit {c : UInt8} (h : isdigit c = true) : isalnum c = true := by
  rw [isalnum, h]
  rfl

/-- The ids of the page are taken by `validRequestId`. -/
lemma validId_requestId {dateMs random : ℕ} (hdate : dateMs ≤ maxDateMs) (hrandom : random < 1000000) :
    ValidId (PhonePage.requestId dateMs random) := by
  have hdates : (formatNat dateMs).length ≤ 16 :=
    length_formatNat_le (by decide) (hdate.trans_lt (by decide))
  have hrandoms : (formatNat random).length ≤ 6 := length_formatNat_le (by decide) hrandom
  have hphone : ∀ c ∈ bytes "phone-", isalnum c = true ∨ c ∈ bytes "._:-" := by
    decide +kernel
  have hhyphen : ∀ c ∈ bytes "-", isalnum c = true ∨ c ∈ bytes "._:-" := by
    decide +kernel
  have hlengths : (bytes "phone-").length = 6 ∧ (bytes "-").length = 1 := by decide
  refine ⟨by simp [PhonePage.requestId, bytes], ?_, ?_⟩
  · simp only [PhonePage.requestId, List.length_append]
    omega
  · intro c hc
    simp only [PhonePage.requestId, List.mem_append] at hc
    rcases hc with ((hc | hc) | hc) | hc
    · exact hphone c hc
    · exact Or.inl (isalnum_of_isdigit (isdigit_of_mem_formatNat hc))
    · exact hhyphen c hc
    · exact Or.inl (isalnum_of_isdigit (isdigit_of_mem_formatNat hc))

section Page

variable {p : PhonePage} {nowMs : ℤ} {event : PhoneEvent} {x : Xhr}

/-- One more request is sent, which is one of the page's too. -/
lemma proper_concat {requests : List Xhr} (h : ∀ x ∈ requests, x.purpose.Proper)
    (hx : x.purpose.Proper) : ∀ y ∈ requests ++ [x], y.purpose.Proper := by
  intro y hy
  rcases List.mem_append.mp hy with hold | hnew
  · exact h y hold
  · rw [List.mem_singleton.mp hnew]
    exact hx

lemma proper_poll (h : ∀ x ∈ p.requests, x.purpose.Proper) :
    ∀ x ∈ (p.poll nowMs).requests, x.purpose.Proper := by
  apply proper_concat h
  trivial

lemma proper_statusDone (h : ∀ x ∈ p.requests, x.purpose.Proper) (code : ℕ) (text : Bytes) :
    ∀ x ∈ (p.statusDone nowMs code text).requests, x.purpose.Proper := by
  have hread : ∀ s, ∀ x ∈ (p.statusRead nowMs s).requests, x.purpose.Proper := by
    intro s
    rw [PhonePage.statusRead]
    dsimp only
    split_ifs
    · exact h
    · exact h
    · apply proper_concat h
      trivial
  rw [PhonePage.statusDone]
  split_ifs
  · exact h
  · cases Json.parse text with
    | none => exact h
    | some s => cases s <;> first | exact h | exact hread _

/-- What happens to the page does not make it ask for anything else. -/
lemma proper_perform (h : ∀ x ∈ p.requests, x.purpose.Proper) (henabled : p.Enabled nowMs event) :
    ∀ x ∈ (p.perform nowMs event).requests, x.purpose.Proper := by
  have hfewer : ∀ i, ∀ x ∈ p.requests.eraseIdx i, x.purpose.Proper :=
    fun i x hx => h x (List.mem_of_mem_eraseIdx hx)
  cases event with
  | Typed pin => exact h
  | Fires =>
      apply proper_poll
      exact h
  | Answered i code text =>
      rw [PhonePage.perform]
      cases p.requests[i]? with
      | none => exact h
      | some x =>
          obtain ⟨purpose, sentMs, pin⟩ := x
          cases purpose with
          | Status =>
              apply proper_statusDone
              exact hfewer i
          | Preview s =>
              simp only [PhonePage.answered, PhonePage.previewDone]
              split_ifs <;> exact hfewer i
          | Capture request =>
              apply proper_poll
              exact hfewer i
          | Cancel =>
              apply proper_poll
              exact hfewer i
  | Lost i =>
      rw [PhonePage.perform]
      cases p.requests[i]? with
      | none => exact h
      | some x =>
          obtain ⟨purpose, sentMs, pin⟩ := x
          cases purpose with
          | Status =>
              apply proper_statusDone
              apply proper_statusDone
              exact hfewer i
          | Preview s => exact hfewer i
          | Capture request =>
              apply proper_poll
              apply proper_poll
              exact hfewer i
          | Cancel =>
              apply proper_poll
              apply proper_poll
              exact hfewer i
  | TapShutter dateMs random delayMs autofocus =>
      obtain ⟨-, hdate, hrandom, hdelay⟩ := henabled
      rw [PhonePage.perform]
      dsimp only
      split_ifs
      · exact h
      · apply proper_concat h
        exact ⟨validId_requestId hdate hrandom, hdelay⟩
  | TapCancel =>
      rw [PhonePage.perform]
      dsimp only
      split_ifs
      · exact h
      · apply proper_concat h
        trivial

lemma PhoneRun.proper {allowed : PhonePage → PhoneEvent → Prop} {late startMs : ℤ}
    (h : PhoneRun allowed late startMs p nowMs) :
    ∀ x ∈ p.requests, x.purpose.Proper := by
  induction h with
  | init pin =>
      apply proper_poll
      intro x hx
      cases hx
  | wait _ _ _ ih => exact ih
  | step event _ _ _ henabled _ ih => exact proper_perform ih henabled

end Page

/-! ## What is tapped, as text -/

section Text

variable {target : Target} {request : CaptureRequest}

/-- A small number fits in every `long`. -/
lemma Target.saturate_of_small {n : ℤ} (hlower : -2147483648 ≤ n) (hupper : n ≤ 2147483647) :
    target.saturate n = n := by
  have hbits : (2 : ℤ) ^ 31 ≤ 2 ^ (target.longBits - 1) := by
    have hle := target.longBits_ge
    exact pow_le_pow_right₀ (by norm_num) (by omega)
  rw [Target.saturate]
  omega

/-- A delay of the page is small. -/
lemma bounds_of_mem_delays {delayMs : ℤ} (h : delayMs ∈ delays) : 0 ≤ delayMs ∧ delayMs ≤ 10000 := by
  have hall : ∀ delayMs ∈ delays, 0 ≤ delayMs ∧ delayMs ≤ 10000 := by decide
  exact hall delayMs h

/-- **A tap is read as it was written**, whatever `long` is. -/
lemma parseCaptureJson_stringify (hid : ValidId request.requestId) (hdelay : request.delayMs ∈ delays) :
    parseCaptureJson target (stringify request) = some request := by
  obtain ⟨hlower, hupper⟩ := bounds_of_mem_delays hdelay
  obtain ⟨hinteger, hvalue⟩ := formatInt_of_nonneg hlower
  have hlength : (formatInt request.delayMs).length ≤ 10 := by
    rw [formatInt, if_neg (not_lt.mpr hlower)]
    exact length_formatNat_le (by decide) (by omega)
  rw [parseCaptureJson_eq_some_iff]
  refine ⟨_, readsCapture_captureText hid.isPlain hinteger _, hid, hlength, ?_, by omega, by omega⟩
  rw [Target.saturate_of_small (by omega) (by omega), hvalue]

/-- The text has no zero byte, and is not long. -/
lemma stringify_short (hid : ValidId request.requestId) (hdelay : request.delayMs ∈ delays) :
    0 ∉ stringify request ∧ (stringify request).length ≤ 200 := by
  obtain ⟨hlower, hupper⟩ := bounds_of_mem_delays hdelay
  have hformat : formatInt request.delayMs = formatNat request.delayMs.natAbs :=
    if_neg (not_lt.mpr hlower)
  have hzeroId : 0 ∉ request.requestId := fun hmem => absurd (hid.isPlain 0 hmem).2.2 (by decide)
  have hzeroDelay : 0 ∉ formatInt request.delayMs := by
    rw [hformat]
    intro hmem
    exact absurd (isdigit_of_mem_formatNat hmem) (by decide)
  have hdelays : (formatInt request.delayMs).length ≤ 5 := by
    rw [hformat]
    exact length_formatNat_le (by decide) (by omega)
  have hids := hid.length_le
  have hzeros : 0 ∉ bytes "request_id" ∧ 0 ∉ bytes "delay_ms" ∧ 0 ∉ bytes "autofocus" ∧
      0 ∉ bytes "true" ∧ 0 ∉ bytes "false" := by decide
  have hlengths : (bytes "request_id").length = 10 ∧ (bytes "delay_ms").length = 8 ∧
      (bytes "autofocus").length = 9 ∧ (bytes "true").length = 4 ∧ (bytes "false").length = 5 := by
    decide
  obtain ⟨hrequestId, hdelayMs, hautofocus, htrue, hfalse⟩ := hzeros
  obtain ⟨hten, height, hnine, hfour, hfive⟩ := hlengths
  have hmarks : byte '"' ≠ 0 ∧ byte ':' ≠ 0 ∧ byte ',' ≠ 0 ∧ byte '\x7b' ≠ 0 ∧ byte '\x7d' ≠ 0 := by
    decide
  obtain ⟨hquote, hcolon, hcomma, hopening, hclosing⟩ := hmarks
  constructor
  · cases hflag : request.autofocus <;>
      simp [stringify, captureText, quote, hflag, hzeroId, hzeroDelay, hrequestId, hdelayMs, hautofocus,
        htrue, hfalse, hquote.symm, hcolon.symm, hcomma.symm, hopening.symm, hclosing.symm]
  · cases hflag : request.autofocus <;>
      simp only [stringify, captureText, quote, hflag, List.length_append, List.length_cons,
        List.length_nil, if_true, if_false, Bool.false_eq_true, hten, height, hnine, hfour, hfive] <;>
      omega

end Text

/-! ## What the browser makes of a request -/

namespace Purpose

/-- Whether it is a `POST`, which has a body and a content type. -/
def posts : Purpose → Bool
  | .Status | .Preview _ => false
  | .Capture _ | .Cancel => true

/-- Whether it is given the PIN, as all are but that for the status. -/
def guarded : Purpose → Bool
  | .Status => false
  | _ => true

/-- The path that `open` is given, one for each purpose. -/
def path : Purpose → Bytes
  | .Status => bytes "/api/v1/status"
  | .Preview _ => bytes "/api/v1/preview.jpg"
  | .Capture _ => bytes "/api/v1/capture"
  | .Cancel => bytes "/api/v1/cancel"

/-- What `send` is given: the request of a capture, an empty object, or nothing. -/
def body : Purpose → Bytes
  | .Status | .Preview _ => []
  | .Capture request => stringify request
  | .Cancel => bytes "\x7b\x7d"

end Purpose

/-- The bytes that `setRequestHeader` makes of a string: the code units, without the white space on
both sides. -/
def headerBytes (units : List ℕ) : Bytes :=
  (((units.dropWhile isHeaderWhite).reverse.dropWhile isHeaderWhite).reverse).map UInt8.ofNat

namespace Xhr

/-- **What a browser sends** for a request of the page.  It adds headers of its own, but none of the
four that the server looks at, and the length of a body.  Its head is well formed and without NUL, and
keeps to the two limits of the server, on the request line and on the head. -/
structure Sent (config : NativeConfig) (x : Xhr) (message : Message) : Prop where
  head : message.head.WellFormed
  noNul : 0 ∉ message.head.text
  method : message.head.method = if x.purpose.posts then bytes "POST" else bytes "GET"
  path : message.head.path = x.purpose.path
  body : message.body = x.purpose.body
  headers_ne : message.head.headers ≠ []
  pins : values .Pin message.head.headers =
    if x.purpose.guarded then [headerBytes x.pin] else []
  contentTypes : values .ContentType message.head.headers =
    if x.purpose.posts then [bytes "application/json"] else []
  lengths : values .ContentLength message.head.headers =
    if x.purpose.posts then [formatNat x.purpose.body.length] else []
  encodings : values .TransferEncoding message.head.headers = []
  requestLine_le : message.head.requestLine.length ≤ config.maxRequestLine
  head_le : message.head.text.length ≤ config.maxHeaders

/-- What the parser of the server is to make of it, whatever other headers the browser adds. -/
def request (x : Xhr) : HttpRequest :=
  { method := if x.purpose.posts then bytes "POST" else bytes "GET"
    path := x.purpose.path
    pin := if x.purpose.guarded then headerBytes x.pin else []
    contentType := if x.purpose.posts then bytes "application/json" else []
    body := x.purpose.body }

variable {config : NativeConfig} {target : Target} {port : ℤ} {x : Xhr} {message : Message}

lemma body_short (h : x.purpose.Proper) :
    0 ∉ x.purpose.body ∧ x.purpose.body.length ≤ 200 := by
  cases hpurpose : x.purpose with
  | Status => exact ⟨List.not_mem_nil, Nat.zero_le _⟩
  | Preview s => exact ⟨List.not_mem_nil, Nat.zero_le _⟩
  | Capture request =>
      rw [hpurpose] at h
      exact stringify_short h.1 h.2
  | Cancel =>
      have hcancel : 0 ∉ bytes "\x7b\x7d" ∧ (bytes "\x7b\x7d").length ≤ 200 := by decide
      exact hcancel

lemma body_of_not_posts (h : x.purpose.posts = false) : x.purpose.body = [] := by
  cases hpurpose : x.purpose with
  | Status => rfl
  | Preview s => rfl
  | Capture request => rw [hpurpose] at h; cases h
  | Cancel => rw [hpurpose] at h; cases h

lemma maxBody_eq (port : ℤ) : (configForPort port).maxBody = 4096 := by
  unfold configForPort
  split_ifs <;> rfl

/-- Such a message is one of those that a client may send. -/
lemma Sent.regular (h : x.Sent (configForPort port) message) (hproper : x.purpose.Proper) :
    message.Regular (configForPort port) := by
  obtain ⟨hzero, hshort⟩ := body_short hproper
  refine ⟨h.head, ?_, ?_, ?_, ?_, ?_, h.requestLine_le, h.head_le, ?_⟩
  · rw [Message.text, h.body, List.mem_append]
    exact not_or.mpr ⟨h.noNul, hzero⟩
  · intro value hvalue
    rw [h.encodings] at hvalue
    cases hvalue
  · intro value hvalue
    rw [h.lengths] at hvalue
    split_ifs at hvalue
    · rw [List.mem_singleton.mp hvalue, h.body]
      exact ⟨formatNat_ne_nil _, fun c hc => isdigit_of_mem_formatNat hc, decimal_formatNat _⟩
    · cases hvalue
  · intro hnone
    rw [h.lengths] at hnone
    cases hposts : x.purpose.posts with
    | true => simp [hposts] at hnone
    | false =>
        rw [h.method, h.body, hposts]
        have hmethods : bytes "GET" ≠ bytes "POST" := by decide
        exact ⟨hmethods, body_of_not_posts hposts⟩
  · intro pin hpin other hother _ _
    rw [h.pins] at hpin hother
    split_ifs at hpin hother
    · rw [List.mem_singleton.mp hpin, List.mem_singleton.mp hother]
    · cases hpin
  · rw [h.body, maxBody_eq]
    omega

/-- The request that the message stands for is the page's. -/
lemma Sent.request_eq (h : x.Sent config message) : message.request = x.request := by
  have hagreed : agreedPin (values .Pin message.head.headers) =
      if x.purpose.guarded then headerBytes x.pin else [] := by
    rw [h.pins]
    cases x.purpose.guarded with
    | false => rfl
    | true => by_cases hempty : headerBytes x.pin = [] <;> simp [agreedPin, hempty]
  have htype : lower ((values .ContentType message.head.headers).getLast?.getD []) =
      if x.purpose.posts then bytes "application/json" else [] := by
    rw [h.contentTypes]
    cases x.purpose.posts <;> decide
  rw [Message.request, hagreed, htype, h.method, h.path, h.body]
  rfl

/-- **The parser reads what was sent**, all of it. -/
lemma Sent.parse (h : x.Sent (configForPort port) message) (hproper : x.purpose.Proper) :
    parseHttpRequest target (configForPort port) message.text = .Ok x.request message.text.length := by
  have hregular := h.regular hproper
  have hmax := configForPort_maxBody target port
  have hpins : (values .Pin message.head.headers).Pairwise fun earlier later =>
      earlier = [] ∨ later ≠ [] := by
    rw [h.pins]
    split_ifs <;> simp
  rw [← h.request_eq]
  exact Message.parse h.head (hregular.admissible hmax hpins) h.headers_ne
    (hregular.contentLength hmax) (List.append_nil _).symm hregular.noNul

end Xhr

/-! ## What the runtime is to do -/

namespace NativeRuntime

/-- Whether the limiter for such requests admits one more from this address, and the runtime
afterwards. -/
def allows (rt : NativeRuntime) (posts : Bool) (remoteAddress : Bytes) (now : ℤ) : Bool × NativeRuntime :=
  if posts then
    let (allowed, mutationLimiter) := rt.mutationLimiter.allow remoteAddress now
    (allowed, { rt with mutationLimiter })
  else
    let (allowed, statusLimiter) := rt.statusLimiter.allow remoteAddress now
    (allowed, { rt with statusLimiter })

/-- **What each request of the page is for**: the status; the picture, if there is one; the capture that
was tapped, unless it is remembered; the end of the countdown. -/
def fulfil (assets : Assets) (config : NativeConfig) (rt : NativeRuntime) (io : Io)
    (remoteAddress pin : Bytes) (purpose : Purpose) : Handled :=
  let (now, io) := io.nowMs
  let (allowed, rt) := rt.allows purpose.posts remoteAddress now
  if !allowed then { response := jsonError 429 (bytes "rate limited"), runtime := rt, io }
  else if purpose.guarded && pin != rt.pin then
    { response := jsonError 401 (bytes "authentication required"), runtime := rt, io }
  else
    match purpose with
    | .Status =>
      let (body, io) := rt.statusJson io
      { response := jsonResponse 200 body, runtime := rt, io }
    | .Preview _ =>
      if rt.previewJpeg.isEmpty then
        { response := jsonError 404 (bytes "preview unavailable"), runtime := rt, io }
      else { response := ⟨200, bytes "image/jpeg", rt.previewJpeg⟩, runtime := rt, io }
    | .Capture request => handleCapture assets config rt io now request
    | .Cancel =>
      let out := operate config rt io .CancelCountdown
      if !out.ok then { response := jsonError 409 out.error, runtime := out.runtime, io := out.io }
      else
        let (rt, io) := updateScreen assets config out.runtime out.io true
        { response := jsonResponse 200 (bytes "\x7b\"ok\":true,\"cancelled\":true\x7d")
          runtime := rt, io }

variable {assets : Assets} {target : Target} {config : NativeConfig} {rt : NativeRuntime} {io : Io}
  {x : Xhr}

lemma authenticate_eq (hlength : rt.pin.length ≤ 6) (candidate : Bytes) :
    (!rt.authenticate candidate) = (candidate != rt.pin) := by
  have h := authenticate_iff hlength candidate
  cases hauthenticate : rt.authenticate candidate with
  | true => simp [h.mp hauthenticate]
  | false =>
      have hne : candidate ≠ rt.pin := fun heq => by simp [h.mpr heq] at hauthenticate
      simp [hne]

lemma handleGet_status (request : HttpRequest) (hpath : request.path = bytes "/api/v1/status") :
    handleGet assets rt io request =
      { response := jsonResponse 200 (rt.statusJson io).1, runtime := rt, io := (rt.statusJson io).2 } := by
  have hpaths : (bytes "/api/v1/status" == bytes "/") = false ∧
      (bytes "/api/v1/status" == bytes "/style.css") = false ∧
      (bytes "/api/v1/status" == bytes "/app.js") = false := by decide
  obtain ⟨hroot, hstyle, hscript⟩ := hpaths
  simp only [handleGet, hpath, hroot, hstyle, hscript, beq_self_eq_true, if_true, if_false,
    Bool.false_eq_true]

lemma handleGet_picture (hlength : rt.pin.length ≤ 6) (request : HttpRequest)
    (hpath : request.path = bytes "/api/v1/preview.jpg") :
    handleGet assets rt io request =
      if request.pin != rt.pin then
        { response := jsonError 401 (bytes "authentication required"), runtime := rt, io }
      else if rt.previewJpeg.isEmpty then
        { response := jsonError 404 (bytes "preview unavailable"), runtime := rt, io }
      else { response := ⟨200, bytes "image/jpeg", rt.previewJpeg⟩, runtime := rt, io } := by
  rw [handleGet, hpath, if_neg (by decide), if_neg (by decide), if_neg (by decide),
    if_neg (by decide), if_pos (by decide), authenticate_eq hlength]

lemma handlePost_capture (hlength : rt.pin.length ≤ 6) (now : ℤ) (request : HttpRequest)
    {capture : CaptureRequest} (htype : request.contentType = bytes "application/json")
    (hpath : request.path = bytes "/api/v1/capture")
    (hbody : parseCaptureJson target request.body = some capture) :
    handlePost assets target config rt io now request =
      if request.pin != rt.pin then
        { response := jsonError 401 (bytes "authentication required"), runtime := rt, io }
      else handleCapture assets config rt io now capture := by
  have hjson : contentTypeIsJson (bytes "application/json") = true := by decide
  rw [handlePost, authenticate_eq hlength]
  simp only [htype, hjson, hpath, hbody, beq_self_eq_true, Bool.not_true, Bool.false_eq_true, if_true,
    if_false]

lemma handlePost_cancel (hlength : rt.pin.length ≤ 6) (now : ℤ) (request : HttpRequest)
    (htype : request.contentType = bytes "application/json")
    (hpath : request.path = bytes "/api/v1/cancel") (hbody : request.body = bytes "\x7b\x7d") :
    handlePost assets target config rt io now request =
      if request.pin != rt.pin then
        { response := jsonError 401 (bytes "authentication required"), runtime := rt, io }
      else
        let out := operate config rt io .CancelCountdown
        if !out.ok then { response := jsonError 409 out.error, runtime := out.runtime, io := out.io }
        else
          let (rt, io) := updateScreen assets config out.runtime out.io true
          { response := jsonResponse 200 (bytes "\x7b\"ok\":true,\"cancelled\":true\x7d")
            runtime := rt, io } := by
  have hjson : contentTypeIsJson (bytes "application/json") = true := by decide
  have hcapture : (bytes "/api/v1/cancel" == bytes "/api/v1/capture") = false := by decide
  have hempty : (bytes "\x7b\x7d" != bytes "\x7b\x7d") = false := by decide
  rw [handlePost, authenticate_eq hlength]
  simp only [htype, hjson, hpath, hcapture, handleCancel, hbody, hempty, beq_self_eq_true,
    Bool.not_true, Bool.false_eq_true, Bool.false_and, if_true, if_false]

/-- **The runtime does what the request of the page is for.** -/
lemma handleRequest_sent (hlength : rt.pin.length ≤ 6) (hproper : x.purpose.Proper)
    (remoteAddress : Bytes) :
    handleRequest assets target config rt io x.request remoteAddress =
      fulfil assets config rt io remoteAddress (headerBytes x.pin) x.purpose := by
  obtain ⟨purpose, sentMs, pin⟩ := x
  have hget : (bytes "GET" == bytes "GET") = true := by decide
  have hpost : (bytes "POST" == bytes "GET") = false ∧ (bytes "POST" != bytes "POST") = false := by
    decide
  cases purpose with
  | Status =>
      simp only [handleRequest, fulfil, Xhr.request, Purpose.posts, Purpose.guarded, allows, hget,
        if_true, if_false, Bool.false_eq_true, Bool.false_and]
      rcases rt.statusLimiter.allow remoteAddress io.nowMs.1 with ⟨allowed, statusLimiter⟩
      cases allowed with
      | false => rfl
      | true => exact handleGet_status _ rfl
  | Preview s =>
      simp only [handleRequest, fulfil, Xhr.request, Purpose.posts, Purpose.guarded, allows, hget,
        if_true, if_false, Bool.false_eq_true, Bool.true_and]
      rcases rt.statusLimiter.allow remoteAddress io.nowMs.1 with ⟨allowed, statusLimiter⟩
      have hsame : { rt with statusLimiter }.pin.length ≤ 6 := hlength
      cases allowed with
      | false => rfl
      | true => exact handleGet_picture hsame _ rfl
  | Capture request =>
      simp only [handleRequest, fulfil, Xhr.request, Purpose.posts, Purpose.guarded, allows, hpost,
        if_true, if_false, Bool.false_eq_true, Bool.true_and]
      rcases rt.mutationLimiter.allow remoteAddress io.nowMs.1 with ⟨allowed, mutationLimiter⟩
      have hsame : { rt with mutationLimiter }.pin.length ≤ 6 := hlength
      cases allowed with
      | false => rfl
      | true =>
          exact handlePost_capture hsame _ _ rfl rfl (parseCaptureJson_stringify hproper.1 hproper.2)
  | Cancel =>
      simp only [handleRequest, fulfil, Xhr.request, Purpose.posts, Purpose.guarded, allows, hpost,
        if_true, if_false, Bool.false_eq_true, Bool.true_and]
      rcases rt.mutationLimiter.allow remoteAddress io.nowMs.1 with ⟨allowed, mutationLimiter⟩
      have hsame : { rt with mutationLimiter }.pin.length ≤ 6 := hlength
      cases allowed with
      | false => rfl
      | true => exact handlePost_cancel hsame _ _ rfl rfl rfl

end NativeRuntime

/-! ## Over the service -/

section Service

variable {assets : Assets} {target : Target} {config : NativeConfig} {port : ℤ} {x : Xhr}
  {message : Message} {events : List ServiceEvent} {sys : Service} {connection : ℕ}

/-- A request has been delivered: the runtime has made one step for it, which is what it is for, and the
phone reads the response of this step when all of it has been sent, and nothing before. -/
structure Delivered (assets : Assets) (config : NativeConfig) (connection : ℕ)
    (events : List ServiceEvent) (sys : Service) (x : Xhr) (step : RuntimeStep) (out : Handled) :
    Prop where
  exchange : exchanges connection events = [step]
  fulfils : ∃ io remoteAddress,
    out = step.before.fulfil assets config io remoteAddress (headerBytes x.pin) x.purpose
  response : step.response = some out.response
  after : step.after = out.runtime
  trace : step.trace = out.io.trace
  read : ∀ received, readResponse (bytesSent (sys.server.story connection)) = some received ↔
    received = out.response.received ∧
      bytesSent (sys.server.story connection) = makeHttpResponse out.response

/-- A step of a run, and the runtime before it. -/
lemma RuntimePath.exists_of_mem {rt rt' : NativeRuntime} {steps : List RuntimeStep}
    (h : RuntimePath assets target config rt steps rt') {step : RuntimeStep} (hstep : step ∈ steps) :
    ∃ past mid op clock answers, RuntimePath assets target config rt past mid ∧
      step = mid.step assets target config op clock answers := by
  obtain ⟨early, late, rfl⟩ := List.append_of_mem hstep
  obtain ⟨mid, hearly, hlate⟩ := h.append_inv
  obtain ⟨⟨op, clock, answers, hstep⟩, -⟩ := hlate.cons_inv
  exact ⟨early, mid, op, clock, answers, hearly, hstep⟩

/-- A request that is complete has been handled, and the response is the reply. -/
lemma Serving.handled (h : Serving assets target config events sys) {request : HttpRequest}
    {consumed : ℕ} (hparse : parseHttpRequest target config (written connection events) =
      .Ok request consumed)
    (hle : (written connection events).length ≤ config.maxHeaders + config.maxBody) :
    ∃ step remoteAddress response, exchanges connection events = [step] ∧
      step.op = .HandleRequest request remoteAddress ∧ step.response = some response ∧
      Replies target config connection events response := by
  rcases h.replied connection with ⟨-, -, hincomplete⟩ | ⟨response, hreplies, -⟩
  · rw [hparse] at hincomplete
    cases hincomplete
  · cases hreplies with
    | TooLarge hlarge _ => omega
    | Refused error hrefused _ =>
        rw [hparse] at hrefused
        cases hrefused
    | Handled remoteAddress hparse' hone hop hresponse =>
        rw [hparse] at hparse'
        obtain ⟨rfl, -⟩ := ParseResult.Ok.inj hparse'
        exact ⟨_, remoteAddress, response, hone, hop, hresponse,
          .Handled remoteAddress hparse hone hop hresponse⟩

/-- There is one reply to a request that has been handled. -/
lemma Replies.eq_of_exchange {step : RuntimeStep} {response response' : HttpResponse}
    (hone : exchanges connection events = [step]) (hresponse : step.response = some response)
    (h : Replies target config connection events response') : response' = response := by
  cases h with
  | TooLarge _ hnone =>
      rw [hone] at hnone
      cases hnone
  | Refused _ _ hnone =>
      rw [hone] at hnone
      cases hnone
  | Handled _ _ hone' _ hresponse' =>
      obtain rfl := List.singleton_inj.mp (hone.symm.trans hone')
      exact Option.some.inj (hresponse'.symm.trans hresponse)

/-- A message that has been written on a connection is delivered, in this step. -/
lemma Serving.delivered (hserving : Serving assets target (configForPort port) events sys)
    (hsize : ∀ step ∈ steps events, ∀ response, step.response = some response →
      response.body.length < 2 ^ 64)
    (hproper : x.purpose.Proper) (hsent : x.Sent (configForPort port) message)
    (hwritten : written connection events = message.text) :
    ∃ (rt : NativeRuntime) (remoteAddress : Bytes) (clock : ℕ → ℤ) (answers : ℕ → Bool),
      Delivered assets (configForPort port) connection events sys x
        (rt.step assets target (configForPort port) (.HandleRequest x.request remoteAddress) clock
          answers)
        (rt.fulfil assets (configForPort port) { clock, answers } remoteAddress (headerBytes x.pin)
          x.purpose) := by
  have hregular := hsent.regular hproper
  have hparse : parseHttpRequest target (configForPort port) (written connection events) =
      .Ok x.request message.text.length := by
    rw [hwritten]
    exact hsent.parse hproper
  have hle : (written connection events).length ≤
      (configForPort port).maxHeaders + (configForPort port).maxBody := by
    rw [hwritten, Message.text, List.length_append]
    exact Nat.add_le_add hregular.head_le hregular.body_le
  obtain ⟨step, remoteAddress, response, hone, hop, hresponse, hreplies⟩ := hserving.handled hparse hle
  obtain ⟨past, mid, op, clock, answers, hpast, rfl⟩ :=
    hserving.run.exists_of_mem (mem_steps_of_exchanges hone)
  obtain rfl : op = .HandleRequest x.request remoteAddress := hop
  have hlength := (hpast.inSession (inSession_new (configForPort port))).pin_length
  have hfulfil : mid.handleRequest assets target (configForPort port) { clock, answers } x.request
      remoteAddress = mid.fulfil assets (configForPort port) { clock, answers } remoteAddress
        (headerBytes x.pin) x.purpose :=
    NativeRuntime.handleRequest_sent hlength hproper remoteAddress
  refine ⟨mid, remoteAddress, clock, answers, ?_⟩
  rw [← hfulfil]
  refine ⟨hone, ⟨{ clock, answers }, remoteAddress, hfulfil⟩, rfl, rfl, rfl, fun received => ?_⟩
  rw [hserving.read_iff hsize connection received]
  constructor
  · rintro ⟨response', hreplies', hreceived, hsent'⟩
    obtain rfl := hreplies'.eq_of_exchange hone rfl
    exact ⟨hreceived, hsent'⟩
  · intro hread
    obtain rfl := Option.some.inj hresponse
    exact ⟨_, hreplies, hread⟩

/-- **What the page asks for arrives**: in every run of the service, a request of any run of the page
that has been written on a connection has been handled once, as what it is for, and the answer the phone
reads is the answer to it. -/
theorem ServiceRun.arrives (hservice : ServiceRun assets target (configForPort port) events sys)
    (hsize : ∀ step ∈ steps events, ∀ response, step.response = some response →
      response.body.length < 2 ^ 64)
    {allowed : PhonePage → PhoneEvent → Prop} {late startMs nowMs : ℤ} {p : PhonePage}
    (hpage : PhoneRun allowed late startMs p nowMs) (hx : x ∈ p.requests)
    (hsent : x.Sent (configForPort port) message)
    (hwritten : written connection events = message.text) :
    ∃ step out, Delivered assets (configForPort port) connection events sys x step out := by
  obtain ⟨_, _, _, _, hdelivered⟩ :=
    hservice.serving.delivered hsize (hpage.proper x hx) hsent hwritten
  exact ⟨_, _, hdelivered⟩

/-- The status of a camera that is armed, with no other member. -/
def armedStatus : Bytes := Json.objectText [stringField "state" (bytes "armed")]

/-- A phone that knows the PIN and asks for the status. -/
def newPage : PhonePage :=
  ({ pin := [0x31, 0x32, 0x33, 0x34, 0x35, 0x36] } : PhonePage).poll 0

/-- A phone that has learned that the camera is armed, so that the shutter can be tapped. -/
def armedPage : PhonePage := newPage.perform 100 (.Answered 0 200 armedStatus)

/-- The request of a tap on the shutter, for a photo in two seconds. -/
def tapped : Xhr :=
  { purpose := .Capture { requestId := PhonePage.requestId 1700000000000 42, delayMs := 2000 }
    sentMs := 200
    pin := armedPage.pin }

/-- What is sent for the tap, with the headers of a browser. -/
def tapMessage : Message :=
  { head :=
      { method := bytes "POST", path := bytes "/api/v1/capture", version := bytes "HTTP/1.1"
        headers :=
          [⟨bytes "Host", bytes " 192.168.122.1:8080"⟩,
            ⟨bytes "Content-Type", bytes " application/json"⟩,
            ⟨bytes "X-LegacyAlpha-Pin", bytes " 123456"⟩,
            ⟨bytes "Content-Length", byte ' ' :: formatNat tapped.purpose.body.length⟩] }
    body := tapped.purpose.body }

/-- The camera is ready, and the thread reads a message in one piece and answers it. -/
def phoneOps (text : Bytes) : List (ServiceOp × ℤ) :=
  let rest : Answer := {}
  ((.Start 123456 true, 0) :: readyOps).map (fun op => (.Call op.1, op.2)) ++
    ([{ acceptable := true }, { fd := 7, remoteAddress := bytes "10.0.0.1" }, rest, rest, rest, rest] ++
      oneClientTurn { revents := fun _ => { readable := true } } { received := .Data text } ++
      oneClientTurn { revents := fun _ => { writable := true } } { sent := .Count 1000 }).map
        fun answer => (.Serve answer, 3)

/-- The events of this run, and the service after it. -/
def phoneRun (text : Bytes) : List ServiceEvent × Service :=
  (phoneOps text).foldl (Service.next {} .armeabi (configForPort 0))
    ([], { server := { nextListenAttemptMs := 0 }, runtime := .new (configForPort 0) })

/-- The run in which the request of the tap is written. -/
def tapRun : List ServiceEvent × Service := phoneRun tapMessage.text

lemma phoneRun_run (text : Bytes) :
    ServiceRun {} .armeabi (configForPort 0) (phoneRun text).1 (phoneRun text).2 :=
  (ServiceRun.init 0).nexts (phoneOps text)

/-- Bodies that are shorter than this are no larger than a `size_t`. -/
lemma bodies_lt_of_all {steps : List RuntimeStep} (h : steps.all (fun step =>
      step.response.all fun response => response.body.length < 2 ^ 64) = true) :
    ∀ step ∈ steps, ∀ response, step.response = some response → response.body.length < 2 ^ 64 := by
  intro step hstep response hresponse
  have hbody := List.all_eq_true.mp h step hstep
  rw [hresponse] at hbody
  simpa using hbody

lemma armedPage_run : PhoneRun (fun _ _ => True) 50 0 armedPage 100 := by
  have hasked : PhoneRun (fun _ _ => True) 50 0 newPage 0 := .init _
  refine hasked.step (.Answered 0 200 armedStatus) (by decide) ⟨?_, ?_⟩ Nat.zero_lt_one trivial
  · rintro dueMs ⟨⟩
  · intro x hx
    rw [List.mem_singleton.mp hx]
    decide

lemma tapped_run : ∃ p, PhoneRun (fun _ _ => True) 50 0 p 200 ∧ tapped ∈ p.requests := by
  have hpage : armedPage.timer = some 5100 ∧ armedPage.requests.length = 0 ∧
      armedPage.shutterDisabled = false ∧ isHeaderValue armedPage.pin = true := by decide +kernel
  obtain ⟨htimer, hrequests, hshutter, hpin⟩ := hpage
  have htap : armedPage.Enabled 200 (.TapShutter 1700000000000 42 2000 true) :=
    ⟨hshutter, by decide, by decide, by decide⟩
  refine ⟨_, armedPage_run.step (.TapShutter 1700000000000 42 2000 true) (by decide) ⟨?_, ?_⟩ htap
    trivial, ?_⟩
  · intro dueMs hdue
    rw [htimer] at hdue
    obtain rfl := Option.some.inj hdue
    decide
  · intro x hx
    rw [List.length_eq_zero_iff.mp hrequests] at hx
    cases hx
  · rw [PhonePage.perform]
    simp only [hpin, Bool.not_true, Bool.false_eq_true, if_false]
    exact List.mem_append_right _ (List.mem_singleton_self _)

lemma tapMessage_sent : tapped.Sent (configForPort 0) tapMessage where
  head := ⟨by decide, by decide +kernel, by decide, by decide, fun header hheader => by
    fin_cases hheader <;>
      exact ⟨by decide, List.all_eq_true.mp (by decide +kernel), by decide +kernel⟩⟩
  noNul := by decide +kernel
  method := by decide +kernel
  path := by decide +kernel
  body := rfl
  headers_ne := List.cons_ne_nil _ _
  pins := by decide +kernel
  contentTypes := by decide +kernel
  lengths := by decide +kernel
  encodings := by decide +kernel
  requestLine_le := by decide +kernel
  head_le := by decide +kernel

/-- The tap of this phone has been delivered to this camera, and the phone has read that its capture is
accepted. -/
theorem arrives_tap :
    (∃ step out, Delivered {} (configForPort 0) 0 tapRun.1 tapRun.2 tapped step out) ∧
      (readResponse (bytesSent (tapRun.2.server.story 0))).map ReceivedResponse.status = some 202 := by
  have hrun : ServiceRun {} .armeabi (configForPort 0) tapRun.1 tapRun.2 := phoneRun_run _
  have hsize := bodies_lt_of_all (by decide +kernel : (steps tapRun.1).all (fun step =>
    step.response.all fun response => response.body.length < 2 ^ 64) = true)
  obtain ⟨p, hpage, hx⟩ := tapped_run
  have hwritten : written 0 tapRun.1 = tapMessage.text := by decide +kernel
  exact ⟨hrun.arrives hsize hpage hx tapMessage_sent hwritten, by decide +kernel⟩

/-! ### What the phone shows -/

/-- The page after a status that it did not get: the shutter cannot be tapped, and the page asks again
later and later, after fifteen seconds at most. -/
structure Disconnected (nowMs : ℤ) (p p' : PhonePage) : Prop where
  connected : p'.connected = false
  shutter : p'.shutterDisabled = true
  timer : p'.timer = some (nowMs + min 15000 (p.backoff * 2))

lemma disconnected_statusDone (p : PhonePage) (requests : List Xhr) (nowMs : ℤ) {code : ℕ}
    (hcode : code ≠ 200) (text : Bytes) :
    Disconnected nowMs p ({ p with requests }.statusDone nowMs code text) := by
  rw [PhonePage.statusDone, if_pos hcode]
  exact ⟨rfl, rfl, rfl⟩

/-- A request for the status is refused for its rate, or gets the status. -/
lemma NativeRuntime.fulfil_status (assets : Assets) (config : NativeConfig) (rt : NativeRuntime) (io : Io)
    (remoteAddress pin : Bytes) :
    (rt.fulfil assets config io remoteAddress pin .Status).response =
        jsonError 429 (bytes "rate limited") ∨
      (rt.fulfil assets config io remoteAddress pin .Status).response =
        jsonResponse 200 (rt.statusJson io.nowMs.2).1 := by
  simp only [fulfil, Purpose.posts, Purpose.guarded, allows, Bool.false_eq_true, if_false,
    Bool.false_and]
  rcases rt.statusLimiter.allow remoteAddress io.nowMs.1 with ⟨allowed, statusLimiter⟩
  cases allowed with
  | false => exact Or.inl rfl
  | true => exact Or.inr rfl

/-- **What the phone shows is what the camera is**, in the one step of the runtime in which the request
was handled, when the PIN has six digits: the shutter can be tapped if the machine is armed then, and the
countdown can be cancelled if there is one.  A page that is refused for its rate shows nothing, and
waits. -/
theorem ServiceRun.reflected (hservice : ServiceRun assets target (configForPort port) events sys)
    (hsize : ∀ step ∈ steps events, ∀ response, step.response = some response →
      response.body.length < 2 ^ 64)
    {allowed : PhonePage → PhoneEvent → Prop} {late startMs nowMs : ℤ} {p : PhonePage}
    (hpage : PhoneRun allowed late startMs p nowMs) {i : ℕ}
    (hx : p.requests[i]? = some x) (hstatus : x.purpose = .Status) (hpin : isSixDigits p.pin = true)
    (hsent : x.Sent (configForPort port) message) (hwritten : written connection events = message.text)
    {received : ReceivedResponse}
    (hread : readResponse (bytesSent (sys.server.story connection)) = some received) :
    ∃ (rt : NativeRuntime) (remoteAddress : Bytes) (clock : ℕ → ℤ) (answers : ℕ → Bool),
      exchanges connection events = [rt.step assets target (configForPort port)
        (.HandleRequest x.request remoteAddress) clock answers] ∧
      (received.status = 429 ∧
          Disconnected nowMs p (p.perform nowMs (.Answered i received.status received.body)) ∨
        received.status = 200 ∧ (rt.FieldsFit (Io.nowMs { clock, answers }).2 →
          Reflects rt (Io.nowMs { clock, answers }).2 nowMs
            (p.perform nowMs (.Answered i received.status received.body)))) := by
  have hmem : x ∈ p.requests := List.mem_of_getElem? hx
  obtain ⟨rt, remoteAddress, clock, answers, hdelivered⟩ :=
    hservice.serving.delivered hsize (hpage.proper x hmem) hsent hwritten
  obtain ⟨rfl, -⟩ := (hdelivered.read received).mp hread
  refine ⟨rt, remoteAddress, clock, answers, hdelivered.exchange, ?_⟩
  simp only [PhonePage.perform, hx, hstatus, PhonePage.answered]
  have hresponse := NativeRuntime.fulfil_status assets (configForPort port) rt { clock, answers }
    remoteAddress (headerBytes x.pin)
  rcases hresponse with hlimited | hok
  · rw [hlimited]
    have hcode : (429 : ℕ) ≠ 200 := by decide
    exact Or.inl ⟨rfl, disconnected_statusDone p _ nowMs hcode _⟩
  · rw [hok]
    exact Or.inr ⟨rfl, fun hfit => reflects_statusDone hfit hpin⟩

/-- What is sent for the first request of the page, which has no PIN. -/
def statusMessage : Message :=
  { head :=
      { method := bytes "GET", path := bytes "/api/v1/status", version := bytes "HTTP/1.1"
        headers := [⟨bytes "Host", bytes " 192.168.122.1:8080"⟩] }
    body := [] }

lemma statusMessage_sent : Xhr.Sent (configForPort 0) ⟨.Status, 0, []⟩ statusMessage where
  head := ⟨by decide, by decide +kernel, by decide, by decide, fun header hheader => by
    fin_cases hheader
    exact ⟨by decide, List.all_eq_true.mp (by decide +kernel), by decide +kernel⟩⟩
  noNul := by decide +kernel
  method := rfl
  path := rfl
  body := rfl
  headers_ne := List.cons_ne_nil _ _
  pins := by decide +kernel
  contentTypes := by decide +kernel
  lengths := by decide +kernel
  encodings := by decide +kernel
  requestLine_le := by decide +kernel
  head_le := by decide +kernel

/-- The status of an armed camera has been read, and its shutter can be tapped. -/
theorem reflected_armed :
    ∃ received, readResponse (bytesSent ((phoneRun statusMessage.text).2.server.story 0)) =
        some received ∧
      (newPage.perform 0 (.Answered 0 received.status received.body)).shutterDisabled = false ∧
      ∃ (rt : NativeRuntime) (remoteAddress : Bytes) (clock : ℕ → ℤ) (answers : ℕ → Bool),
        exchanges 0 (phoneRun statusMessage.text).1 = [rt.step {} .armeabi (configForPort 0)
          (.HandleRequest (Xhr.request ⟨.Status, 0, []⟩) remoteAddress) clock answers] ∧
        (received.status = 429 ∧
            Disconnected 0 newPage
              (newPage.perform 0 (.Answered 0 received.status received.body)) ∨
          received.status = 200 ∧ (rt.FieldsFit (Io.nowMs { clock, answers }).2 →
            Reflects rt (Io.nowMs { clock, answers }).2 0
              (newPage.perform 0 (.Answered 0 received.status received.body)))) := by
  have hrun := phoneRun_run statusMessage.text
  have hsize := bodies_lt_of_all (by decide +kernel :
    (steps (phoneRun statusMessage.text).1).all (fun step =>
      step.response.all fun response => response.body.length < 2 ^ 64) = true)
  have hwritten : written 0 (phoneRun statusMessage.text).1 = statusMessage.text := by decide +kernel
  have hshutter : (readResponse (bytesSent ((phoneRun statusMessage.text).2.server.story 0))).any
      (fun received => !(newPage.perform 0
        (.Answered 0 received.status received.body)).shutterDisabled) = true := by decide +kernel
  obtain ⟨received, hread, henabled⟩ := (Option.any_eq_true _ _).mp hshutter
  have hpage : PhoneRun (fun _ _ => True) 50 0 newPage 0 := .init _
  have hpin : isSixDigits newPage.pin = true := by decide
  exact ⟨received, hread, by simpa using henabled,
    hrun.reflected hsize hpage (i := 0) rfl rfl hpin statusMessage_sent hwritten hread⟩

end Service

end LegacyAlpha
