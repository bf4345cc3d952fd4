import LegacyAlphaRemote.Http.Json
import LegacyAlphaRemote.Http.Response
import LegacyAlphaRemote.Machine.RemoteStateMachine
import LegacyAlphaRemote.Runtime.RateLimiter
import LegacyAlphaRemote.Runtime.RequestDeduplicator

/-!
# The native runtime

`native_runtime.cpp`.  The runtime owns the machine and everything around it: the PIN of the
session, the limiters, the remembered answers, the preview, the texts of the screen.  Every public
function holds the runtime's mutex from its first line to its last, so that a call is one step
(`NativeRuntime.step`); only `stop` lets the mutex go before it waits for the server thread, and what
it does then touches nothing here.

The runtime is the command sink of its machine: a command goes to Java when the session is started
and is refused otherwise (`operate`).  The clock and the answers of Java are an `Io`, as they are
for the machine, and the trace of a step shows the calls of the machine and the commands, the screen
updates among them.

`HttpServer::wake` writes to a pipe and is left out, as is `nativeLog`.
-/

namespace LegacyAlpha

/-- What the runtime takes from elsewhere: the pages of `embedded_web.cpp`, and how `printf` writes a
number of milliseconds as seconds with one decimal. -/
structure Assets where
  indexHtml : Bytes := []
  styleCss : Bytes := []
  appJs : Bytes := []
  seconds : ℤ → Bytes := fun _ => []

/-- The data members of `NativeRuntime`, with the values its constructor gives, but for the
deduplicator, whose retention is configured. -/
structure NativeRuntime where
  machine : RemoteStateMachine := {}
  deduplicator : RequestDeduplicator
  mutationLimiter : RateLimiter := .new 6 1 16
  statusLimiter : RateLimiter := .new 20 4 16
  started : Bool := false
  pin : Bytes := []
  ssid : Bytes := []
  password : Bytes := []
  address : Bytes := bytes "192.168.122.1"
  wifiError : Bytes := []
  serverError : Bytes := []
  previousScreen : Bytes := []
  previewJpeg : Bytes := []
  previewWidth : ℤ := 0
  previewHeight : ℤ := 0
  previewVersion : ℤ := 0
  previewSource : Bytes := []
  previewError : Bytes := []
  deriving DecidableEq, Repr

/-- The constructor: no session, with an empty memory that holds 64 answers. -/
def NativeRuntime.new (config : NativeConfig) : NativeRuntime :=
  { deduplicator := { maximum := 64, retentionMs := config.dedupeRetentionMs } }

/-- The public operations, with what they learn from the system: the random number of `generatePin`
and whether the server thread could be started. -/
inductive RuntimeOp
  | Start (random : ℕ) (serverStarts : Bool)
  | Stop
  | SetCameraReady (ready : Bool)
  | SetWifiState (ready : Bool) (ssid password address : Bytes) (stationCount : ℤ) (error : Bytes)
  | ReportCommandResult (commandId resultCode : ℤ) (message : Bytes)
  | PhysicalFocus (pressed : Bool)
  | PhysicalShutter (pressed : Bool)
  | SetPreview (data : Bytes) (width height : ℤ) (source error : Bytes)
  | HandleRequest (request : HttpRequest) (remoteAddress : Bytes)
  | ServerTick
  | ServerError (error : Bytes)
  deriving DecidableEq, Repr

/-- What an operation returns, and the runtime and the clock and Java afterwards. -/
structure Performed where
  ok : Bool := true
  response : Option HttpResponse := none
  runtime : NativeRuntime
  io : Io

/-- What `handleRequest` returns, before it is written out, and what it leaves. -/
structure Handled where
  response : HttpResponse
  runtime : NativeRuntime
  io : Io

/-- What a call of the machine returns, and what it leaves in `*error`. -/
structure Operated where
  ok : Bool
  error : Bytes
  runtime : NativeRuntime
  io : Io

namespace NativeRuntime

/-! ## The machine -/

/-- A call of the machine, whose commands go through `dispatch`: none of them is accepted before the
session has started. -/
def operate (config : NativeConfig) (rt : NativeRuntime) (io : Io) (op : Op) : Operated :=
  let out := rt.machine.step config { io with answers := fun i => rt.started && io.answers i } op
  { ok := out.ok, error := out.error, runtime := { rt with machine := out.machine }
    io := { out.io with answers := io.answers } }

/-! ## The PIN -/

/-- `snprintf("%06u", n)` for a number below a million: six digits, with zeros before them. -/
def formatPin (n : ℕ) : Bytes :=
  (List.range 6).map fun i => byte (Nat.digitChar (n / 10 ^ (5 - i) % 10))

/-- `authenticate`.  On the camera `size_t` is no wider than `unsigned int`, so that the difference of
the lengths is kept whole. -/
def authenticate (rt : NativeRuntime) (candidate : Bytes) : Bool :=
  let difference := (List.range 6).foldl
    (fun difference i => difference ||| ((candidate.getD i 0).toNat ^^^ (rt.pin.getD i 0).toNat))
    (candidate.length ^^^ rt.pin.length)
  difference == 0

/-! ## Texts -/

/-- The error that is shown: the machine's before the network's, and that before the server's. -/
def shownError (rt : NativeRuntime) : Bytes :=
  if !rt.machine.lastError.isEmpty then rt.machine.lastError
  else if !rt.wifiError.isEmpty then rt.wifiError
  else rt.serverError

/-- The word `true` or `false`, as both texts write a flag. -/
def formatBool (b : Bool) : Bytes := if b then bytes "true" else bytes "false"

/-- What `%s` writes of a string: the bytes before the first zero byte, where a C string ends. -/
def cString (text : Bytes) : Bytes := text.takeWhile (· != 0)

/-- `statusJson`: the numbers are printed into a buffer of their own, and the texts are put around it.
The countdown is read once. -/
def statusJson (rt : NativeRuntime) (io : Io) : Bytes × Io :=
  let (remaining, io) := rt.machine.countdownRemainingMs io
  let numbers := snprintf 320
    (bytes ",\"wifi_ready\":" ++ formatBool rt.machine.wifiReady
      ++ bytes ",\"camera_ready\":" ++ formatBool rt.machine.cameraReady
      ++ bytes ",\"client_count\":" ++ formatInt rt.machine.clientCount
      ++ bytes ",\"countdown_remaining_ms\":" ++ formatInt remaining
      ++ bytes ",\"preview_available\":" ++ formatBool (!rt.previewJpeg.isEmpty)
      ++ bytes ",\"preview_version\":" ++ formatInt rt.previewVersion
      ++ bytes ",\"preview_width\":" ++ formatInt rt.previewWidth
      ++ bytes ",\"preview_height\":" ++ formatInt rt.previewHeight)
  (bytes "\x7b\"ok\":true,\"version\":\"0.1.0\",\"state\":"
      ++ jsonString (stateName rt.machine.state) ++ numbers
      ++ bytes ",\"last_request_id\":" ++ jsonString rt.machine.lastRequestId
      ++ bytes ",\"last_error\":" ++ jsonString rt.shownError
      ++ bytes ",\"preview_source\":" ++ jsonString rt.previewSource
      ++ bytes ",\"preview_error\":" ++ jsonString rt.previewError ++ bytes "\x7d", io)

/-- `screenText`, which reads the countdown again when it is not over, so that the time it shows may
be over already. -/
def screenText (assets : Assets) (config : NativeConfig) (rt : NativeRuntime) (io : Io) :
    Bytes × Io :=
  let values := snprintf 512
    (bytes "Legacy Alpha Remote\n\nNetwork: "
      ++ (if rt.ssid.isEmpty then bytes "Starting..." else cString rt.ssid)
      ++ bytes "\nPassword: "
      ++ (if rt.password.isEmpty then bytes "not exposed" else cString rt.password)
      ++ bytes "\nAddress: " ++ cString rt.address ++ bytes ":" ++ formatInt config.port
      ++ bytes "\nURL: http://" ++ cString rt.address ++ bytes ":" ++ formatInt config.port
      ++ bytes "/\nPIN: " ++ cString rt.pin ++ bytes "\n\nStatus: " ++ stateName rt.machine.state
      ++ bytes "\nPhone connected: "
      ++ (if rt.machine.clientCount > 0 then bytes "Yes" else bytes "No"))
  let (remaining, io) := rt.machine.countdownRemainingMs io
  let (countdown, io) :=
    if remaining > 0 then
      let (shown, io) := rt.machine.countdownRemainingMs io
      (snprintf 64 (bytes "\nCountdown: " ++ assets.seconds shown ++ bytes " s"), io)
    else ([], io)
  let error := if rt.shownError.isEmpty then [] else bytes "\n\nError: " ++ rt.shownError
  (values ++ countdown ++ error, io)

/-- `updateScreen`: the text is handed to Java if it is another one than the last, or forced.  It
counts as handed over, whatever Java answers. -/
def updateScreen (assets : Assets) (config : NativeConfig) (rt : NativeRuntime) (io : Io)
    (force : Bool) : NativeRuntime × Io :=
  if !rt.started then (rt, io)
  else
    let (current, io) := rt.screenText assets config io
    if !force && current == rt.previousScreen then (rt, io)
    else
      let (_, io) := io.dispatch { id := 0, type := .UpdateScreen, text := current }
      ({ rt with previousScreen := current }, io)

/-! ## Sessions -/

/-- The fields of the preview as `start` and `stop` leave them: no picture, with the version zero. -/
def clearPreview (rt : NativeRuntime) : NativeRuntime :=
  { rt with
    previewJpeg := [], previewWidth := 0, previewHeight := 0, previewVersion := 0
    previewSource := [], previewError := [] }

/-- What `start` sets before it starts the machine: a new PIN, and nothing of the last session. -/
def renew (rt : NativeRuntime) (random : ℕ) : NativeRuntime :=
  { rt with
    pin := formatPin (random % 1000000), serverError := [], wifiError := []
    deduplicator := rt.deduplicator.clear
    mutationLimiter := rt.mutationLimiter.clear
    statusLimiter := rt.statusLimiter.clear }.clearPreview

/-- `start`.  If the server does not start, the machine is stopped again and the PIN taken back; the
limiters, the memory and the preview stay cleared. -/
def start (assets : Assets) (config : NativeConfig) (rt : NativeRuntime) (io : Io) (random : ℕ)
    (serverStarts : Bool) : Performed :=
  if rt.started then { runtime := rt, io }
  else
    let out := operate config (rt.renew random) io .Start
    if !serverStarts then
      let out := operate config out.runtime out.io .Stop
      { ok := false, runtime := { out.runtime with pin := [] }, io := out.io }
    else
      let (rt, io) := updateScreen assets config { out.runtime with started := true } out.io true
      { runtime := rt, io }

/-- `stop`, up to where it lets the mutex go.  The session is over before the machine stops, so that
the commands of stopping are dispatched no more. -/
def stop (config : NativeConfig) (rt : NativeRuntime) (io : Io) : Performed :=
  if !rt.started then { runtime := rt, io }
  else
    let out := operate config { rt with started := false } io .Stop
    { runtime := { out.runtime with pin := [] }.clearPreview, io := out.io }

/-! ## Callbacks -/

/-- A call of the machine and a forced update of the screen, which is what most callbacks are. -/
def operateAndShow (assets : Assets) (config : NativeConfig) (rt : NativeRuntime) (io : Io)
    (op : Op) : Performed :=
  let out := operate config rt io op
  let (rt, io) := updateScreen assets config out.runtime out.io true
  { ok := out.ok, runtime := rt, io }

/-- `setWifiState`.  An empty address leaves the one there is, and the error `"stopped"` counts as
none. -/
def setWifiState (assets : Assets) (config : NativeConfig) (rt : NativeRuntime) (io : Io)
    (ready : Bool) (ssid password address : Bytes) (stationCount : ℤ) (error : Bytes) : Performed :=
  let rt := { rt with
    ssid, password
    address := if address.isEmpty then rt.address else address
    wifiError := if error == bytes "stopped" then [] else error }
  let out := operate config rt io (.SetClientCount stationCount)
  operateAndShow assets config out.runtime out.io (.SetWifiReady ready)

/-- `setPreview`; no data is a null pointer or a size of zero, and leaves the picture as it is, with
an error.  So does a picture beyond the limits. -/
def setPreview (rt : NativeRuntime) (data : Bytes) (width height : ℤ) (source error : Bytes) :
    NativeRuntime :=
  if data.isEmpty then { rt with previewError := error }
  else if data.length > 1572864 || width ≤ 0 || height ≤ 0 then
    { rt with previewError := bytes "preview exceeds safety limits" }
  else
    { rt with
      previewJpeg := data, previewWidth := width, previewHeight := height
      previewSource := source, previewError := [], previewVersion := rt.previewVersion + 1 }

/-- `onServerTick`: the machine makes a tick, and the screen is updated if its text has changed. -/
def onServerTick (assets : Assets) (config : NativeConfig) (rt : NativeRuntime) (io : Io) :
    Performed :=
  if !rt.started then { runtime := rt, io }
  else
    let out := operate config rt io .Tick
    let (rt, io) := updateScreen assets config out.runtime out.io false
    { runtime := rt, io }

/-- `onServerError`: the error is remembered until the next `start`, and shown at once. -/
def onServerError (assets : Assets) (config : NativeConfig) (rt : NativeRuntime) (io : Io)
    (error : Bytes) : Performed :=
  let (rt, io) := updateScreen assets config { rt with serverError := error } io true
  { runtime := rt, io }

/-! ## Requests -/

/-- An answer with a JSON body, of any status. -/
def jsonResponse (status : ℕ) (body : Bytes) : HttpResponse :=
  { status, contentType := jsonContentType, body }

/-- `contentTypeIsJson`: the type alone, or with parameters behind it. -/
def contentTypeIsJson (value : Bytes) : Bool :=
  value == bytes "application/json" || (bytes "application/json;").isPrefixOf value

/-- A `GET` request, when the status limiter allows it.  The PIN is asked for the preview alone. -/
def handleGet (assets : Assets) (rt : NativeRuntime) (io : Io) (request : HttpRequest) : Handled :=
  if request.path == bytes "/" then
    { response := ⟨200, bytes "text/html; charset=utf-8", assets.indexHtml⟩, runtime := rt, io }
  else if request.path == bytes "/style.css" then
    { response := ⟨200, bytes "text/css; charset=utf-8", assets.styleCss⟩, runtime := rt, io }
  else if request.path == bytes "/app.js" then
    { response := ⟨200, bytes "application/javascript; charset=utf-8", assets.appJs⟩
      runtime := rt, io }
  else if request.path == bytes "/api/v1/status" then
    let (body, io) := rt.statusJson io
    { response := jsonResponse 200 body, runtime := rt, io }
  else if request.path == bytes "/api/v1/preview.jpg" then
    if !rt.authenticate request.pin then
      { response := jsonError 401 (bytes "authentication required"), runtime := rt, io }
    else if rt.previewJpeg.isEmpty then
      { response := jsonError 404 (bytes "preview unavailable"), runtime := rt, io }
    else { response := ⟨200, bytes "image/jpeg", rt.previewJpeg⟩, runtime := rt, io }
  else { response := jsonError 404 (bytes "not found"), runtime := rt, io }

/-- A capture request that is not answered from memory: its status and body, which are remembered
whatever they are. -/
def decideCapture (config : NativeConfig) (rt : NativeRuntime) (io : Io)
    (capture : CaptureRequest) : (ℕ × Bytes) × NativeRuntime × Io :=
  if capture.delayMs < 0 || capture.delayMs > config.maxDelayMs then
    ((400, bytes "\x7b\"ok\":false,\"error\":\"delay_ms is out of range\"\x7d"), rt, io)
  else
    let out := operate config rt io
      (.RequestCapture capture.requestId capture.delayMs capture.autofocus)
    if !out.ok then
      ((409, bytes "\x7b\"ok\":false,\"accepted\":false,\"request_id\":"
          ++ jsonString capture.requestId ++ bytes ",\"error\":" ++ jsonString out.error
          ++ bytes "\x7d"), out.runtime, out.io)
    else
      ((202, bytes "\x7b\"ok\":true,\"accepted\":true,\"request_id\":"
          ++ jsonString capture.requestId ++ bytes ",\"state\":"
          ++ jsonString (stateName out.runtime.machine.state) ++ bytes "\x7d"), out.runtime, out.io)

/-- A capture request, once its body is parsed.  One whose id is remembered gets the old answer, and
the machine is not asked. -/
def handleCapture (assets : Assets) (config : NativeConfig) (rt : NativeRuntime) (io : Io)
    (now : ℤ) (capture : CaptureRequest) : Handled :=
  match rt.deduplicator.find capture.requestId now with
  | (some old, deduplicator) =>
    { response := jsonResponse old.status old.body, runtime := { rt with deduplicator }, io }
  | (none, deduplicator) =>
    let ((status, body), rt, io) := decideCapture config { rt with deduplicator } io capture
    let rt := { rt with
      deduplicator := rt.deduplicator.remember capture.requestId status body now }
    let (rt, io) := updateScreen assets config rt io true
    { response := jsonResponse status body, runtime := rt, io }

/-- A request to cancel the countdown, with no body or an empty object. -/
def handleCancel (assets : Assets) (config : NativeConfig) (rt : NativeRuntime) (io : Io)
    (request : HttpRequest) : Handled :=
  if request.body != bytes "\x7b\x7d" && !request.body.isEmpty then
    { response := jsonError 400 (bytes "invalid cancel request"), runtime := rt, io }
  else
    let out := operate config rt io .CancelCountdown
    if !out.ok then { response := jsonError 409 out.error, runtime := out.runtime, io := out.io }
    else
      let (rt, io) := updateScreen assets config out.runtime out.io true
      { response := jsonResponse 200 (bytes "\x7b\"ok\":true,\"cancelled\":true\x7d")
        runtime := rt, io }

/-- A request to press or release the focus button, with the body of one member. -/
def handleFocus (assets : Assets) (config : NativeConfig) (rt : NativeRuntime) (io : Io)
    (request : HttpRequest) : Handled :=
  match parseFocusJson request.body with
  | none => { response := jsonError 400 (bytes "invalid focus request"), runtime := rt, io }
  | some pressed =>
    let out := operate config rt io (.SetFocus pressed)
    if !out.ok then { response := jsonError 409 out.error, runtime := out.runtime, io := out.io }
    else
      let (rt, io) := updateScreen assets config out.runtime out.io true
      { response := jsonResponse 200 (bytes "\x7b\"ok\":true\x7d"), runtime := rt, io }

/-- A `POST` request, when the mutation limiter allows it: the PIN is asked for first, then the
content type, and the path last. -/
def handlePost (assets : Assets) (target : Target) (config : NativeConfig) (rt : NativeRuntime)
    (io : Io) (now : ℤ) (request : HttpRequest) : Handled :=
  if !rt.authenticate request.pin then
    { response := jsonError 401 (bytes "authentication required"), runtime := rt, io }
  else if !contentTypeIsJson request.contentType then
    { response := jsonError 415 (bytes "application/json required"), runtime := rt, io }
  else if request.path == bytes "/api/v1/capture" then
    match parseCaptureJson target request.body with
    | none => { response := jsonError 400 (bytes "invalid capture request"), runtime := rt, io }
    | some capture => handleCapture assets config rt io now capture
  else if request.path == bytes "/api/v1/cancel" then handleCancel assets config rt io request
  else if request.path == bytes "/api/v1/focus" then handleFocus assets config rt io request
  else { response := jsonError 404 (bytes "not found"), runtime := rt, io }

/-- `handleRequest`: the limiter of the method comes before anything else, and is asked once, by the
address that the request comes from. -/
def handleRequest (assets : Assets) (target : Target) (config : NativeConfig) (rt : NativeRuntime)
    (io : Io) (request : HttpRequest) (remoteAddress : Bytes) : Handled :=
  let (now, io) := io.nowMs
  if request.method == bytes "GET" then
    match rt.statusLimiter.allow remoteAddress now with
    | (false, statusLimiter) =>
      { response := jsonError 429 (bytes "rate limited"), runtime := { rt with statusLimiter }, io }
    | (true, statusLimiter) => handleGet assets { rt with statusLimiter } io request
  else if request.method != bytes "POST" then
    { response := jsonError 405 (bytes "method not allowed"), runtime := rt, io }
  else
    match rt.mutationLimiter.allow remoteAddress now with
    | (false, mutationLimiter) =>
      { response := jsonError 429 (bytes "rate limited"), runtime := { rt with mutationLimiter }
        io }
    | (true, mutationLimiter) =>
      handlePost assets target config { rt with mutationLimiter } io now request

/-! ## A step -/

/-- The body of each operation, as its mutex lets it run. -/
def perform (assets : Assets) (target : Target) (config : NativeConfig) (rt : NativeRuntime)
    (io : Io) : RuntimeOp → Performed
  | .Start random serverStarts => rt.start assets config io random serverStarts
  | .Stop => rt.stop config io
  | .SetCameraReady ready => rt.operateAndShow assets config io (.SetCameraReady ready)
  | .SetWifiState ready ssid password address stationCount error =>
      rt.setWifiState assets config io ready ssid password address stationCount error
  | .ReportCommandResult commandId resultCode message =>
      rt.operateAndShow assets config io (.ReportCommandResult commandId resultCode message)
  | .PhysicalFocus pressed => rt.operateAndShow assets config io (.SetFocus pressed)
  | .PhysicalShutter pressed => rt.operateAndShow assets config io (.PhysicalShutter pressed)
  | .SetPreview data width height source error =>
      { runtime := rt.setPreview data width height source error, io }
  | .HandleRequest request remoteAddress =>
      let out := rt.handleRequest assets target config io request remoteAddress
      { response := some out.response, runtime := out.runtime, io := out.io }
  | .ServerTick => rt.onServerTick assets config io
  | .ServerError error => rt.onServerError assets config io error

end NativeRuntime

/-- A step as it can be seen from outside: the operation, the runtime it met, what it returned, the
runtime it left, and what happened meanwhile. -/
structure RuntimeStep where
  op : RuntimeOp
  now : ℤ
  before : NativeRuntime
  ok : Bool
  response : Option HttpResponse
  after : NativeRuntime
  trace : List Event

/-- A step with this clock and these answers of Java, from the runtime as it is. -/
def NativeRuntime.step (assets : Assets) (target : Target) (config : NativeConfig)
    (rt : NativeRuntime) (op : RuntimeOp) (clock : ℕ → ℤ) (answers : ℕ → Bool) : RuntimeStep :=
  let out := rt.perform assets target config { clock, answers } op
  { op, now := clock 0, before := rt, ok := out.ok, response := out.response, after := out.runtime
    trace := out.io.trace }

/-- What can happen from one runtime to another: the steps in between, in their order.  Any operation
may follow any other, and every step has a clock and answers of its own.  The server thread outlives
the session, as `stop` lets the mutex go before it waits for it: requests and ticks may come after a
`stop`, and so may the callbacks of Java. -/
inductive RuntimePath (assets : Assets) (target : Target) (config : NativeConfig) :
    NativeRuntime → List RuntimeStep → NativeRuntime → Prop
  | refl (rt : NativeRuntime) : RuntimePath assets target config rt [] rt
  | step {rt rt' : NativeRuntime} {steps : List RuntimeStep} (op : RuntimeOp) (clock : ℕ → ℤ)
      (answers : ℕ → Bool) :
      RuntimePath assets target config (rt.step assets target config op clock answers).after steps
        rt' →
      RuntimePath assets target config rt (rt.step assets target config op clock answers :: steps)
        rt'

/-- A run of the runtime, from its constructor on. -/
def RuntimeRun (assets : Assets) (target : Target) (config : NativeConfig)
    (steps : List RuntimeStep) (rt : NativeRuntime) : Prop :=
  RuntimePath assets target config (.new config) steps rt

namespace RuntimePath

variable {assets : Assets} {target : Target} {config : NativeConfig} {rt rt' : NativeRuntime}

/-- Two paths, one after the other, are one. -/
lemma append {mid : NativeRuntime} {first rest : List RuntimeStep}
    (h : RuntimePath assets target config rt first mid)
    (hrest : RuntimePath assets target config mid rest rt') :
    RuntimePath assets target config rt (first ++ rest) rt' := by
  induction h with
  | refl rt => exact hrest
  | step op clock answers _ ih => exact .step op clock answers (ih hrest)

/-- A path in two parts, with the runtime between them. -/
theorem append_inv {first rest : List RuntimeStep}
    (h : RuntimePath assets target config rt (first ++ rest) rt') :
    ∃ mid, RuntimePath assets target config rt first mid ∧
      RuntimePath assets target config mid rest rt' := by
  induction first generalizing rt with
  | nil => exact ⟨rt, .refl rt, h⟩
  | cons s first ih =>
      cases h with
      | step op clock answers hrest =>
          obtain ⟨mid, hfirst, hrest⟩ := ih hrest
          exact ⟨mid, .step op clock answers hfirst, hrest⟩

/-- The first step of a path, and the path behind it. -/
lemma cons_inv {s : RuntimeStep} {rest : List RuntimeStep}
    (h : RuntimePath assets target config rt (s :: rest) rt') :
    (∃ op clock answers, s = rt.step assets target config op clock answers) ∧
      RuntimePath assets target config s.after rest rt' := by
  cases h with
  | step op clock answers hrest => exact ⟨⟨op, clock, answers, rfl⟩, hrest⟩

/-- The path that these operations take, each at its time, with a Java that accepts every command. -/
def taken (assets : Assets) (target : Target) (config : NativeConfig) (rt : NativeRuntime) :
    List (RuntimeOp × ℤ) → List RuntimeStep
  | [] => []
  | (op, now) :: ops =>
    let s := rt.step assets target config op (fun _ => now) fun _ => true
    s :: taken assets target config s.after ops

/-- The runtime to which these operations lead. -/
def destination (assets : Assets) (target : Target) (config : NativeConfig) (rt : NativeRuntime) :
    List (RuntimeOp × ℤ) → NativeRuntime
  | [] => rt
  | (op, now) :: ops =>
    destination assets target config
      (rt.step assets target config op (fun _ => now) fun _ => true).after ops

theorem taken_path (assets : Assets) (target : Target) (config : NativeConfig) (rt : NativeRuntime)
    (ops : List (RuntimeOp × ℤ)) :
    RuntimePath assets target config rt (taken assets target config rt ops)
      (destination assets target config rt ops) := by
  induction ops generalizing rt with
  | nil => exact .refl rt
  | cons op ops ih => exact .step op.1 _ _ (ih _)

lemma taken_append (assets : Assets) (target : Target) (config : NativeConfig) (rt : NativeRuntime)
    (ops rest : List (RuntimeOp × ℤ)) :
    taken assets target config rt (ops ++ rest) = taken assets target config rt ops ++
      taken assets target config (destination assets target config rt ops) rest := by
  induction ops generalizing rt with
  | nil => rfl
  | cons op ops ih => exact congrArg (List.cons _) (ih _)

/-- Two of the operations, with the steps before, between and after them. -/
lemma taken_split (assets : Assets) (target : Target) (config : NativeConfig) (rt : NativeRuntime)
    (early between : List (RuntimeOp × ℤ)) (op op' : RuntimeOp) (now now' : ℤ) :
    let first := (destination assets target config rt early).step assets target config op
      (fun _ => now) fun _ => true
    taken assets target config rt (early ++ (op, now) :: (between ++ [(op', now')])) =
      taken assets target config rt early ++ first ::
          taken assets target config first.after between ++
        [(destination assets target config first.after between).step assets target config op'
          (fun _ => now') fun _ => true] := by
  intro first
  rw [taken_append, List.append_assoc, List.cons_append]
  exact congrArg (fun steps => _ ++ first :: steps) (taken_append assets target config _ _ _)

/-- The steps are those of the operations, at their times. -/
lemma taken_ops (assets : Assets) (target : Target) (config : NativeConfig) (rt : NativeRuntime)
    (ops : List (RuntimeOp × ℤ)) :
    (taken assets target config rt ops).map (fun s => (s.op, s.now)) = ops := by
  induction ops generalizing rt with
  | nil => rfl
  | cons op ops ih => exact congrArg (List.cons op) (ih _)

end RuntimePath

end LegacyAlpha
