import LegacyAlphaRemote.Http.Connections
import LegacyAlphaRemote.Http.ResponseReader
import LegacyAlphaRemote.Runtime.JsonBodies
import LegacyAlphaRemote.Runtime.Listener

/-!
# The service

The server thread and the runtime together (`Service`).  The thread of `HttpServer::run` asks the
runtime whether to listen and hands it the requests that its parser accepts, and meanwhile any other
thread may call the runtime (`ServiceRun`).  `Service.serve` is one step of the thread: the runtime makes
a step with it when the bytes that arrive complete a request.

The history of a run has the bytes that arrived on each connection, with the call of the runtime that
they led to, and the calls of the other threads (`ServiceEvent`).

`ServiceRun.repliesFaithful` is what a phone can rely on: a response that it reads is the one reply to
what it has written on this connection, and it reads none before all of it has been sent.
-/

namespace LegacyAlpha

open ConnectionEvent

/-! ## Responses of the runtime -/

/-- The content types of the program, in the words of its answers. -/
def contentTypes : List Bytes :=
  [bytes "text/html; charset=utf-8", bytes "text/css; charset=utf-8",
    bytes "application/javascript; charset=utf-8", jsonContentType, bytes "image/jpeg"]

/-- What is true of every response of the runtime: a status of three digits, and one of the content
types of the program. -/
structure Presentable (response : HttpResponse) : Prop where
  status : 100 ≤ response.status ∧ response.status < 1000
  contentType : response.contentType ∈ contentTypes

lemma Presentable.sendable {response : HttpResponse} (h : Presentable response)
    (hbody : response.body.length < 2 ^ 64) : Sendable response := by
  have htypes : ∀ contentType ∈ contentTypes, byte '\r' ∉ contentType ∧
      contentType.head? ≠ some (byte ' ') ∧ contentType.length ≤ 64 := by decide
  obtain ⟨hmem, hhead, hle⟩ := htypes _ h.contentType
  exact ⟨h.status, hmem, hhead, hle, hbody⟩

lemma presentable_json {status : ℕ} (hstatus : 100 ≤ status ∧ status < 1000) (body : Bytes) :
    Presentable ⟨status, jsonContentType, body⟩ := by
  have htype : jsonContentType ∈ contentTypes := by decide
  exact ⟨hstatus, htype⟩

/-- The statuses that are remembered have three digits, so that an answer from memory has one too. -/
def RequestDeduplicator.Presentable (deduplicator : RequestDeduplicator) : Prop :=
  ∀ entry ∈ deduplicator.entries, 100 ≤ entry.status ∧ entry.status < 1000

namespace NativeRuntime

variable {assets : Assets} {target : Target} {config : NativeConfig}

lemma presentable_handleGet (rt : NativeRuntime) (io : Io) (request : HttpRequest) :
    Presentable (handleGet assets rt io request).response := by
  rw [handleGet]
  have hpage : ∀ contentType ∈ contentTypes, ∀ body, Presentable ⟨200, contentType, body⟩ :=
    fun _ htype _ => ⟨by norm_num, htype⟩
  split_ifs
  · exact hpage _ (by decide) _
  · exact hpage _ (by decide) _
  · exact hpage _ (by decide) _
  · exact presentable_json (by decide) _
  · exact presentable_json (by decide) _
  · exact presentable_json (by decide) _
  · exact hpage _ (by decide) _
  · exact presentable_json (by decide) _

/-- A capture request that is decided about. -/
lemma decideCapture_status {rt : NativeRuntime} {io : Io} {capture : CaptureRequest} {status : ℕ}
    {body : Bytes} (h : (decideCapture config rt io capture).1 = (status, body)) :
    100 ≤ status ∧ status < 1000 := by
  rw [decideCapture] at h
  dsimp only at h
  split_ifs at h <;> obtain ⟨rfl, -⟩ := Prod.mk.inj h <;> norm_num

lemma presentable_handleCapture {rt : NativeRuntime} (h : rt.deduplicator.Presentable) (io : Io)
    (now : ℤ) (capture : CaptureRequest) :
    Presentable (handleCapture assets config rt io now capture).response := by
  cases hfind : (rt.deduplicator.find capture.requestId now).1 with
  | some old =>
      rw [handleCapture_of_found hfind]
      exact presentable_json (h old (RequestDeduplicator.mem_of_find hfind).1) _
  | none =>
      obtain ⟨status, body, rt', io', hdecide, hhandle⟩ :=
        handleCapture_of_missing assets config io hfind
      rw [hhandle]
      exact presentable_json (decideCapture_status (congrArg Prod.fst hdecide)) body

lemma presentable_handlePost {rt : NativeRuntime} (h : rt.deduplicator.Presentable) (io : Io)
    (now : ℤ) (request : HttpRequest) :
    Presentable (handlePost assets target config rt io now request).response := by
  rw [handlePost]
  split_ifs
  · exact presentable_json (by decide) _
  · exact presentable_json (by decide) _
  · cases parseCaptureJson target request.body with
    | none => exact presentable_json (by decide) _
    | some capture => exact presentable_handleCapture h io now capture
  · rw [handleCancel]
    split_ifs
    · exact presentable_json (by decide) _
    · dsimp only
      split_ifs <;> exact presentable_json (by decide) _
  · rw [handleFocus]
    cases parseFocusJson request.body with
    | none => exact presentable_json (by decide) _
    | some pressed =>
        dsimp only
        split_ifs <;> exact presentable_json (by decide) _
  · exact presentable_json (by decide) _

lemma presentable_handleRequest {rt : NativeRuntime} (h : rt.deduplicator.Presentable) (io : Io)
    (request : HttpRequest) (remoteAddress : Bytes) :
    Presentable (handleRequest assets target config rt io request remoteAddress).response := by
  rw [handleRequest]
  dsimp only
  split_ifs
  · rcases rt.statusLimiter.allow remoteAddress io.nowMs.1 with ⟨allowed, statusLimiter⟩
    cases allowed with
    | false => exact presentable_json (by decide) _
    | true => exact presentable_handleGet _ _ request
  · exact presentable_json (by decide) _
  · rcases rt.mutationLimiter.allow remoteAddress io.nowMs.1 with ⟨allowed, mutationLimiter⟩
    cases allowed with
    | false => exact presentable_json (by decide) _
    | true =>
        have hsame : { rt with mutationLimiter }.deduplicator.Presentable := h
        exact presentable_handlePost hsame _ _ request

end NativeRuntime

/-- What a run remembers has been decided about in it. -/
lemma Recalls.presentable {target : Target} {config : NativeConfig} {steps : List RuntimeStep}
    {deduplicator : RequestDeduplicator} (h : Recalls target config steps deduplicator) :
    deduplicator.Presentable := by
  intro entry hentry
  obtain ⟨-, -, -, capture, rt, io, -, -, -, -, hdecide, -⟩ := h entry hentry
  exact NativeRuntime.decideCapture_status hdecide

section Runtime

variable {assets : Assets} {target : Target} {config : NativeConfig} {rt rt' : NativeRuntime}
  {steps : List RuntimeStep}

/-- One more step of the runtime, at the end of a path. -/
lemma RuntimePath.extend (h : RuntimePath assets target config rt steps rt') (op : RuntimeOp)
    (clock : ℕ → ℤ) (answers : ℕ → Bool) :
    RuntimePath assets target config rt (steps ++ [rt'.step assets target config op clock answers])
      (rt'.step assets target config op clock answers).after := by
  induction h with
  | refl rt => exact .step op clock answers (.refl _)
  | step op' clock' answers' hrest ih => exact .step op' clock' answers' ih

/-- **Every response of the runtime can be sent.** -/
lemma RuntimePath.presentable (hrun : RuntimeRun assets target config steps rt) {s : RuntimeStep}
    (hs : s ∈ steps) {response : HttpResponse} (hresponse : s.response = some response) :
    Presentable response := by
  obtain ⟨early, late, rfl⟩ := List.append_of_mem hs
  obtain ⟨mid, hearly, hlate⟩ := RuntimePath.append_inv hrun
  obtain ⟨⟨op, clock, answers, hstep⟩, -⟩ := hlate.cons_inv
  have hrecalls : Recalls target config early mid.deduplicator := by
    have hempty : Recalls target config [] (NativeRuntime.new config).deduplicator := by
      intro entry hentry
      cases hentry
    exact hearly.recalls hempty
  rw [hstep] at hresponse
  cases op with
  | HandleRequest request remoteAddress =>
      obtain rfl := Option.some.inj hresponse
      exact NativeRuntime.presentable_handleRequest hrecalls.presentable _ request remoteAddress
  | Start random serverStarts =>
      have hnone : (mid.start assets config { clock, answers } random serverStarts).response = none := by
        rw [NativeRuntime.start]
        dsimp only
        split_ifs <;> rfl
      exact absurd (hnone.symm.trans hresponse) (by simp)
  | Stop =>
      have hnone : (mid.stop config { clock, answers }).response = none := by
        rw [NativeRuntime.stop]
        split_ifs <;> rfl
      exact absurd (hnone.symm.trans hresponse) (by simp)
  | ServerTick =>
      have hnone : (mid.onServerTick assets config { clock, answers }).response = none := by
        rw [NativeRuntime.onServerTick]
        split_ifs <;> rfl
      exact absurd (hnone.symm.trans hresponse) (by simp)
  | _ => cases hresponse

end Runtime

/-! ## What a step of the thread does -/

namespace HttpServer

variable {target : Target} {config : NativeConfig} {s s' s'' : HttpServer} {slot : Slot} {i : ℕ}
  {answer : Answer}

/-- The client at a place in the list, and the bytes that are received from it. -/
def arrivingAt (s : HttpServer) (i : ℕ) (revents : Revents) (answer : Answer) : Option (Slot × Bytes) :=
  if revents.broken || !revents.readable then none
  else
    match s.clients[i]?, recv answer.received with
    | some slot, .Data chunk => if chunk.isEmpty then none else some (slot, chunk)
    | _, _ => none

/-- The client whose input is read in a step, and the bytes that are received. -/
def arriving (s : HttpServer) (answer : Answer) : Option (Slot × Bytes) :=
  match s.phase with
  | .Clients (i + 1) revents => s.arrivingAt i (revents.getD i {}) answer
  | _ => none

lemma arrivingAt_eq_some {revents : Revents} {chunk : Bytes}
    (h : s.arrivingAt i revents answer = some (slot, chunk)) :
    revents.broken = false ∧ revents.readable = true ∧ s.clients[i]? = some slot ∧
      recv answer.received = .Data chunk ∧ chunk.isEmpty = false := by
  rw [arrivingAt] at h
  split_ifs at h with hevents
  obtain ⟨hbroken, hreadable⟩ : revents.broken = false ∧ revents.readable = true := by
    simpa using hevents
  refine ⟨hbroken, hreadable, ?_⟩
  cases hslot : s.clients[i]? with
  | none => simp [hslot] at h
  | some slot' =>
      cases hreceived : recv answer.received with
      | Failed again => simp [hslot, hreceived] at h
      | Data chunk' =>
          simp only [hslot, hreceived] at h
          split_ifs at h with hempty
          obtain ⟨rfl, rfl⟩ := Prod.mk.inj (Option.some.inj h)
          exact ⟨rfl, rfl, Bool.eq_false_of_not_eq_true hempty⟩

/-- No client is answered, and whoever is there and has not been answered was there, or is new. -/
structure Quiet (s s' : HttpServer) : Prop where
  answers : ∀ connection, answers (s'.story connection) = answers (s.story connection)
  clients : ∀ slot ∈ s'.clients, slot.client.output = [] →
    slot ∈ s.clients ∨ s.connections ≤ slot.connection ∧ slot.client.input = []
  connections : s.connections ≤ s'.connections

lemma Quiet.refl (s : HttpServer) : Quiet s s :=
  ⟨fun _ => rfl, fun _ hslot _ => Or.inl hslot, le_rfl⟩

lemma Quiet.trans (h : Quiet s s') (h' : Quiet s' s'') : Quiet s s'' := by
  refine ⟨fun connection => (h'.answers connection).trans (h.answers connection), ?_,
    h.connections.trans h'.connections⟩
  intro slot hslot houtput
  rcases h'.clients slot hslot houtput with hold | ⟨hnew, hinput⟩
  · exact h.clients slot hold houtput
  · exact Or.inr ⟨h.connections.trans hnew, hinput⟩

/-- The place of the thread makes no difference. -/
lemma Quiet.of_same (hclients : s'.clients = s.clients) (hconnections : s'.connections = s.connections)
    (hlog : s'.log = s.log) : Quiet s s' := by
  refine ⟨fun connection => ?_, ?_, hconnections.ge⟩
  · rw [story, story, hlog]
  · intro slot hslot _
    exact Or.inl (hclients ▸ hslot)

lemma Quiet.record (h : Quiet s s') (connection : ℕ) {events : List ConnectionEvent}
    (hevents : ConnectionEvent.answers events = []) : Quiet s (s'.record connection events) := by
  refine ⟨fun connection' => ?_, h.clients, h.connections⟩
  have hsame := h.answers connection'
  simp only [ConnectionEvent.answers] at hsame hevents ⊢
  rw [story_record, List.filterMap_append, hsame]
  split_ifs <;> simp [hevents]

lemma quiet_closeClient (s : HttpServer) (i : ℕ) : Quiet s (s.closeClient i) := by
  rw [closeClient]
  cases s.clients[i]? with
  | none => exact .refl s
  | some slot =>
      have hfewer : Quiet s { s with clients := s.clients.eraseIdx i } := by
        refine ⟨fun _ => rfl, ?_, le_rfl⟩
        intro slot' hslot' _
        exact Or.inl (List.mem_of_mem_eraseIdx hslot')
      dsimp only
      split_ifs <;> exact hfewer.record slot.connection rfl

lemma quiet_acceptClient (config : NativeConfig) (s : HttpServer) (answer : Answer) :
    Quiet s (s.acceptClient config answer) := by
  have hnext : Quiet s { s with connections := s.connections + 1 } :=
    ⟨fun _ => rfl, fun _ hslot _ => Or.inl hslot, Nat.le_succ _⟩
  have haccepted : Quiet s ({ s with connections := s.connections + 1 }.record s.connections
      [.Accepted answer.fd]) := hnext.record s.connections rfl
  rw [acceptClient]
  dsimp only
  split_ifs
  · exact .refl s
  · exact haccepted.record s.connections rfl
  · refine ⟨haccepted.answers, ?_, haccepted.connections⟩
    intro slot hslot _
    rcases List.mem_append.mp hslot with hold | hnew
    · exact Or.inl hold
    · obtain rfl := List.mem_singleton.mp hnew
      exact Or.inr ⟨le_rfl, rfl⟩

lemma quiet_writeClient (s : HttpServer) (i : ℕ) (answer : Answer) :
    Quiet s (s.writeClient i answer) := by
  rw [writeClient]
  cases hslot : s.clients[i]? with
  | none => exact .refl s
  | some slot =>
      dsimp only
      split_ifs with hdone
      · exact s.quiet_closeClient i
      cases answer.sent with
      | Failed again =>
          cases again with
          | true => exact .refl s
          | false => exact s.quiet_closeClient i
      | Count n =>
          have hsent : ∀ client : Client, client.output = slot.client.output →
              Quiet s { s with clients := s.clients.set i { slot with client } } := by
            intro client houtput
            refine ⟨fun _ => rfl, ?_, le_rfl⟩
            intro slot' hslot' hempty
            rcases List.mem_or_eq_of_mem_set hslot' with hold | rfl
            · exact Or.inl hold
            · rw [houtput] at hempty
              rw [hempty] at hdone
              exact absurd (Nat.zero_le _) hdone
          dsimp only
          split_ifs
          · exact .refl s
          · refine Quiet.trans ?_ (quiet_closeClient _ i)
            refine Quiet.record (hsent _ ?_) slot.connection ?_ <;> rfl
          · refine Quiet.record (hsent _ ?_) slot.connection ?_ <;> rfl

/-- What is done to a client that gets no answer. -/
lemma quiet_serveClient {revents : Revents} (hnone : s.arrivingAt i revents answer = none) :
    Quiet s (s.serveClient target config i revents answer) := by
  rw [serveClient]
  split_ifs with hbroken hreadable hwritable
  · exact s.quiet_closeClient i
  · rw [readClient]
    cases hslot : s.clients[i]? with
    | none => exact .refl s
    | some slot =>
        cases hreceived : recv answer.received with
        | Data chunk =>
            obtain rfl : chunk = [] := by
              simpa [arrivingAt, hbroken, hreadable, hslot, hreceived] using hnone
            exact s.quiet_closeClient i
        | Failed again =>
            cases again with
            | false => exact s.quiet_closeClient i
            | true =>
                have hset : s.clients.set i slot = s.clients := by
                  obtain ⟨hi, rfl⟩ := List.getElem?_eq_some_iff.mp hslot
                  exact List.set_getElem_self hi
                have hsame : Quiet s { s with clients := s.clients.set i slot } :=
                  .of_same hset rfl rfl
                simp only [LegacyAlpha.readClient, if_true]
                exact hsame.record slot.connection rfl
  · exact s.quiet_writeClient i answer
  · exact .refl s

/-- What becomes of a client when bytes arrive: `takeChunk` is what happens to it, and no other
connection is concerned. -/
structure Reads (target : Target) (config : NativeConfig) (answer : Answer) (slot : Slot)
    (chunk : Bytes) (s s' : HttpServer) : Prop where
  clients : ∃ i, s.clients[i]? = some slot ∧ s'.clients = s.clients.set i { slot with
    client := (takeChunk target config answer.handle slot.client chunk answer.nowMs).1 }
  connections : s'.connections = s.connections
  answers : ∀ connection, answers (s'.story connection) = answers (s.story connection) ++
    if slot.connection = connection then
      [(takeChunk target config answer.handle slot.client chunk answer.nowMs).1.output].filter (· ≠ [])
    else []

lemma reads_serveClient (target : Target) (config : NativeConfig) {revents : Revents} {chunk : Bytes}
    (hsome : s.arrivingAt i revents answer = some (slot, chunk)) (houtput : slot.client.output = []) :
    Reads target config answer slot chunk s (s.serveClient target config i revents answer) := by
  obtain ⟨hbroken, hreadable, hslot, hreceived, hempty⟩ := arrivingAt_eq_some hsome
  rw [serveClient, hbroken, if_neg Bool.false_ne_true, if_pos hreadable, readClient, hslot]
  simp only [LegacyAlpha.readClient, hreceived, hempty, Bool.false_eq_true, if_false]
  refine ⟨⟨i, hslot, rfl⟩, rfl, fun connection => ?_⟩
  simp only [ConnectionEvent.answers]
  rw [story_record, List.filterMap_append, houtput]
  refine congrArg _ ?_
  by_cases hsame : slot.connection = connection
  · rw [if_pos hsame, if_pos hsame]
    cases (takeChunk target config answer.handle slot.client chunk answer.nowMs).2 <;>
      split_ifs with hnone <;> simp [hnone]
  · rw [if_neg hsame, if_neg hsame]
    rfl

/-- **A step of the thread**: if nothing arrives, no client is answered; otherwise the one from which
something arrives is told what `readClient` makes of it. -/
lemma step_arriving (target : Target) (config : NativeConfig) (answer : Answer) (hplaced : s.Placed) :
    match s.arriving answer with
    | none => Quiet s (s.step target config answer)
    | some (slot, chunk) => slot.client.output = [] ∧
      Reads target config answer slot chunk s (s.step target config answer) := by
  rw [Placed] at hplaced
  cases hphase : s.phase with
  | Clients remaining revents =>
      rw [hphase] at hplaced
      obtain ⟨-, hpolled⟩ := hplaced
      cases remaining with
      | zero =>
          have hnone : s.arriving answer = none := by rw [arriving, hphase]
          rw [hnone, step, hphase]
          exact .of_same rfl rfl rfl
      | succ i =>
          rw [arriving, hphase, step, hphase]
          dsimp only
          cases harriving : s.arrivingAt i (revents.getD i {}) answer with
          | none => exact (quiet_serveClient harriving).trans (.of_same rfl rfl rfl)
          | some pair =>
              obtain ⟨slot, chunk⟩ := pair
              obtain ⟨-, hreadable, hslot, -⟩ := arrivingAt_eq_some harriving
              have houtput := hpolled i (Nat.lt_succ_self i) slot hslot hreadable
              have hreads := reads_serveClient target config harriving houtput
              exact ⟨houtput, hreads.clients, hreads.connections, hreads.answers⟩
  | Top =>
      have hnone : s.arriving answer = none := by rw [arriving, hphase]
      rw [hnone, step, hphase]
      dsimp only
      split_ifs
      · exact .of_same rfl rfl rfl
      · obtain ⟨listening, nextListenAttemptMs, henter⟩ := s.enterLoop_eq answer
        rw [henter]
        exact .of_same rfl rfl rfl
  | Listener acceptable revents =>
      have hnone : s.arriving answer = none := by rw [arriving, hphase]
      rw [hnone, step, hphase]
      dsimp only
      cases acceptable with
      | false => exact .of_same rfl rfl rfl
      | true => exact (quiet_acceptClient config s answer).trans (.of_same rfl rfl rfl)
  | Idle i after =>
      have hnone : s.arriving answer = none := by rw [arriving, hphase]
      rw [hnone, step, hphase]
      dsimp only
      cases s.clients[i]? with
      | none => exact .of_same rfl rfl rfl
      | some slot =>
          dsimp only
          split_ifs
          · exact s.quiet_closeClient i
          · exact .of_same rfl rfl rfl
  | Closing =>
      have hnone : s.arriving answer = none := by rw [arriving, hphase]
      rw [hnone, step, hphase]
      dsimp only
      split_ifs
      · exact .of_same rfl rfl rfl
      · exact s.quiet_closeClient 0
  | Returned =>
      have hnone : s.arriving answer = none := by rw [arriving, hphase]
      rw [hnone, step, hphase]
      exact .refl s

end HttpServer

/-! ## The service -/

/-- The server with its thread, and the runtime that handles its requests. -/
structure Service where
  server : HttpServer := {}
  runtime : NativeRuntime

/-- What happens in the service, as far as the runtime is concerned: another thread calls it, or bytes
arrive on a connection, and with them a request may be complete. -/
inductive ServiceEvent
  | Called (step : RuntimeStep)
  | Arrived (connection : ℕ) (chunk : Bytes) (exchange : Option RuntimeStep)

namespace Service

/-- What the server thread learns from the runtime: whether to listen, and how requests are answered. -/
def asked (assets : Assets) (target : Target) (config : NativeConfig) (sys : Service)
    (answer : Answer) (clock : ℕ → ℤ) (answers : ℕ → Bool) : Answer :=
  { answer with
    serverReady := sys.runtime.serverReady
    handle := fun request remoteAddress =>
      makeHttpResponse (sys.runtime.handleRequest assets target config { clock, answers } request
        remoteAddress).response }

/-- A step of the server thread, with this clock and these answers of Java if a request is handled. -/
def serve (assets : Assets) (target : Target) (config : NativeConfig) (sys : Service)
    (answer : Answer) (clock : ℕ → ℤ) (answers : ℕ → Bool) : Service × List ServiceEvent :=
  let answer := sys.asked assets target config answer clock answers
  let server := sys.server.step target config answer
  match sys.server.arriving answer with
  | none => ({ sys with server }, [])
  | some (slot, chunk) =>
    match (takeChunk target config answer.handle slot.client chunk answer.nowMs).2 with
    | none => ({ sys with server }, [.Arrived slot.connection chunk none])
    | some request =>
      let step := sys.runtime.step assets target config
        (.HandleRequest request slot.client.remoteAddress) clock answers
      ({ server, runtime := step.after }, [.Arrived slot.connection chunk (some step)])

end Service

/-- The runs of the service: other threads call the runtime at any time, and the thread is started
again only after it has returned. -/
inductive ServiceRun (assets : Assets) (target : Target) (config : NativeConfig) :
    List ServiceEvent → Service → Prop
  | init (nextListenAttemptMs : ℤ) :
      ServiceRun assets target config [] { server := { nextListenAttemptMs }, runtime := .new config }
  | call {events : List ServiceEvent} {sys : Service} (op : RuntimeOp) (clock : ℕ → ℤ)
      (answers : ℕ → Bool) : ServiceRun assets target config events sys →
      ServiceRun assets target config
        (events ++ [.Called (sys.runtime.step assets target config op clock answers)])
        { sys with runtime := (sys.runtime.step assets target config op clock answers).after }
  | serve {events : List ServiceEvent} {sys : Service} (answer : Answer) (clock : ℕ → ℤ)
      (answers : ℕ → Bool) : ServiceRun assets target config events sys →
      ServiceRun assets target config
        (events ++ (sys.serve assets target config answer clock answers).2)
        (sys.serve assets target config answer clock answers).1
  | restart {events : List ServiceEvent} {sys : Service} : ServiceRun assets target config events sys →
      sys.server.phase = .Returned →
      ServiceRun assets target config events { sys with server := { sys.server with phase := .Top } }

namespace ServiceEvent

/-- The steps of the runtime, those that handle requests among them. -/
def steps (events : List ServiceEvent) : List RuntimeStep :=
  events.flatMap fun
    | .Called step => [step]
    | .Arrived _ _ exchange => exchange.toList

/-- The bytes that arrived on a connection, put together. -/
def written (connection : ℕ) (events : List ServiceEvent) : Bytes :=
  events.flatMap fun
    | .Arrived connection' chunk _ => if connection' = connection then chunk else []
    | .Called _ => []

/-- The steps of the runtime that the bytes on a connection led to. -/
def exchanges (connection : ℕ) (events : List ServiceEvent) : List RuntimeStep :=
  events.flatMap fun
    | .Arrived connection' _ exchange => if connection' = connection then exchange.toList else []
    | .Called _ => []

end ServiceEvent

open ServiceEvent

/-- **The reply** to what was written on a connection: the verdict of the server when there was too much
of it or when its parser refused it, and the response of the runtime in its one step for this connection
when it was a request. -/
inductive Replies (target : Target) (config : NativeConfig) (connection : ℕ)
    (events : List ServiceEvent) : HttpResponse → Prop
  | TooLarge : config.maxHeaders + config.maxBody < (written connection events).length →
      exchanges connection events = [] →
      Replies target config connection events (jsonError 413 (bytes "request too large"))
  | Refused (error : ParseError) :
      parseHttpRequest target config (written connection events) = .Refused error →
      exchanges connection events = [] →
      Replies target config connection events (jsonError error.status (bytes "invalid request"))
  | Handled {request : HttpRequest} {consumed : ℕ} {step : RuntimeStep} {response : HttpResponse}
      (remoteAddress : Bytes) :
      parseHttpRequest target config (written connection events) = .Ok request consumed →
      exchanges connection events = [step] → step.op = .HandleRequest request remoteAddress →
      step.response = some response →
      Replies target config connection events response

/-- What a phone can rely on: the runtime is called once at most for its connection, and it reads the
reply to what it has written when all of that has been sent, and nothing before. -/
structure RepliesFaithful (target : Target) (config : NativeConfig) (connection : ℕ)
    (events : List ServiceEvent) (sys : Service) : Prop where
  once : (exchanges connection events).length ≤ 1
  read : ∀ received, readResponse (bytesSent (sys.server.story connection)) = some received ↔
    ∃ response, Replies target config connection events response ∧ received = response.received ∧
      bytesSent (sys.server.story connection) = makeHttpResponse response

/-! ## Runs of the service -/

/-- What `readClient` makes of the bytes that have been received. -/
lemma takeChunk_cases (target : Target) (config : NativeConfig)
    (handle : HttpRequest → Bytes → Bytes) (client : Client) (chunk : Bytes) (nowMs : ℤ) :
    (config.maxHeaders + config.maxBody < (client.input ++ chunk).length ∧
      takeChunk target config handle client chunk nowMs =
        ({ client with
            lastActivityMs := nowMs, input := client.input ++ chunk
            output := makeJsonError 413 (bytes "request too large") }, none)) ∨
    (parseHttpRequest target config (client.input ++ chunk) = .Incomplete ∧
      takeChunk target config handle client chunk nowMs =
        ({ client with lastActivityMs := nowMs, input := client.input ++ chunk }, none)) ∨
    (∃ error, parseHttpRequest target config (client.input ++ chunk) = .Refused error ∧
      takeChunk target config handle client chunk nowMs =
        ({ client with
            lastActivityMs := nowMs, input := client.input ++ chunk
            output := makeJsonError error.status (bytes "invalid request") }, none)) ∨
    ∃ request consumed, parseHttpRequest target config (client.input ++ chunk) = .Ok request consumed ∧
      takeChunk target config handle client chunk nowMs =
        ({ client with
            lastActivityMs := nowMs, input := client.input ++ chunk
            output := handle request client.remoteAddress }, some request) := by
  rw [takeChunk]
  dsimp only
  split_ifs with hlarge
  · exact Or.inl ⟨hlarge, rfl⟩
  · cases hparse : parseHttpRequest target config (client.input ++ chunk) with
    | Incomplete => exact Or.inr (Or.inl ⟨rfl, rfl⟩)
    | Refused error => exact Or.inr (Or.inr (Or.inl ⟨error, rfl, rfl⟩))
    | Ok request consumed => exact Or.inr (Or.inr (Or.inr ⟨request, consumed, rfl, rfl⟩))

lemma parseHttpRequest_nil (target : Target) (config : NativeConfig) :
    parseHttpRequest target config [] = .Incomplete := by
  have hfind : Search.find [] crlf 0 = none := by decide
  rw [parseHttpRequest, hfind]
  exact if_neg Bool.false_ne_true

lemma filter_makeHttpResponse (response : HttpResponse) :
    [makeHttpResponse response].filter (· ≠ []) = [makeHttpResponse response] := by
  simp [makeHttpResponse_ne_nil]

lemma takeChunk_input (target : Target) (config : NativeConfig)
    (handle : HttpRequest → Bytes → Bytes) (client : Client) (chunk : Bytes) (nowMs : ℤ) :
    (takeChunk target config handle client chunk nowMs).1.input = client.input ++ chunk := by
  rcases takeChunk_cases target config handle client chunk nowMs with
    ⟨-, h⟩ | ⟨-, h⟩ | ⟨_, -, h⟩ | ⟨_, _, -, h⟩ <;> rw [h]

section Runs

variable {assets : Assets} {target : Target} {config : NativeConfig} {events : List ServiceEvent}
  {sys : Service} {connection connection' : ℕ} {chunk : Bytes} {exchange : Option RuntimeStep}

lemma written_arrived : written connection (events ++ [.Arrived connection' chunk exchange]) =
    written connection events ++ if connection' = connection then chunk else [] := by
  simp [written]

lemma exchanges_arrived : exchanges connection (events ++ [.Arrived connection' chunk exchange]) =
    exchanges connection events ++ if connection' = connection then exchange.toList else [] := by
  simp [exchanges]

lemma steps_arrived : steps (events ++ [.Arrived connection' chunk exchange]) =
    steps events ++ exchange.toList := by
  simp [steps]

lemma steps_called (step : RuntimeStep) : steps (events ++ [.Called step]) = steps events ++ [step] := by
  simp [steps]

/-- Only what happens on the connection makes a difference to the reply. -/
lemma Replies.congr {events' : List ServiceEvent} {response : HttpResponse}
    (h : Replies target config connection events response)
    (hwritten : written connection events' = written connection events)
    (hexchanges : exchanges connection events' = exchanges connection events) :
    Replies target config connection events' response := by
  cases h with
  | TooLarge hlarge hnone => exact .TooLarge (hwritten ▸ hlarge) (hexchanges.trans hnone)
  | Refused error hparse hnone =>
      exact .Refused error (hwritten ▸ hparse) (hexchanges.trans hnone)
  | Handled remoteAddress hparse hone hop hresponse =>
      exact .Handled remoteAddress (hwritten ▸ hparse) (hexchanges.trans hone) hop hresponse

/-- A connection without an answer has not been handled, as its request is not complete, and the answer
of one that has is the reply. -/
def Replied (target : Target) (config : NativeConfig) (connection : ℕ) (events : List ServiceEvent)
    (story : List ConnectionEvent) : Prop :=
  (answers story = [] ∧ exchanges connection events = [] ∧
    parseHttpRequest target config (written connection events) = .Incomplete) ∨
    ∃ response, Replies target config connection events response ∧
      answers story = [makeHttpResponse response]

/-- What is true throughout the runs of the service: of the server what is true of it alone, of the
runtime that its steps are a run, and of each connection that what it was answered is what its bytes
were worth. -/
structure Serving (assets : Assets) (target : Target) (config : NativeConfig)
    (events : List ServiceEvent) (sys : Service) : Prop where
  sound : Sound config sys.server
  placed : sys.server.Placed
  run : RuntimeRun assets target config (steps events) sys.runtime
  unborn : ∀ connection, sys.server.connections ≤ connection → written connection events = []
  waiting : ∀ slot ∈ sys.server.clients, slot.client.output = [] →
    slot.client.input = written slot.connection events
  replied : ∀ connection, Replied target config connection events (sys.server.story connection)

/-- Another thread calls the runtime, which the connections do not notice. -/
lemma Serving.call (h : Serving assets target config events sys) (op : RuntimeOp)
    (clock : ℕ → ℤ) (answers : ℕ → Bool) :
    Serving assets target config
      (events ++ [.Called (sys.runtime.step assets target config op clock answers)])
      { sys with runtime := (sys.runtime.step assets target config op clock answers).after } := by
  have hwritten : ∀ connection, written connection
      (events ++ [.Called (sys.runtime.step assets target config op clock answers)]) =
        written connection events := by simp [written]
  have hexchanges : ∀ connection, exchanges connection
      (events ++ [.Called (sys.runtime.step assets target config op clock answers)]) =
        exchanges connection events := by simp [exchanges]
  refine ⟨h.sound, h.placed, ?_, ?_, ?_, ?_⟩
  · rw [steps_called]
    exact h.run.extend op clock answers
  · intro connection hle
    exact (hwritten connection).trans (h.unborn connection hle)
  · intro slot hslot houtput
    exact (h.waiting slot hslot houtput).trans (hwritten slot.connection).symm
  · intro connection
    rcases h.replied connection with ⟨hanswers, hnone, hparse⟩ | ⟨response, hreplies, hanswers⟩
    · exact Or.inl ⟨hanswers, (hexchanges connection).trans hnone, (hwritten connection).symm ▸ hparse⟩
    · exact Or.inr ⟨response, hreplies.congr (hwritten connection) (hexchanges connection), hanswers⟩

/-- The thread makes a step in which nothing arrives. -/
lemma Serving.quiet (h : Serving assets target config events sys) {server : HttpServer}
    (hsound : Sound config server ∧ server.Placed) (hquiet : sys.server.Quiet server) :
    Serving assets target config events { sys with server } := by
  refine ⟨hsound.1, hsound.2, h.run, ?_, ?_, ?_⟩
  · intro connection hle
    exact h.unborn connection (hquiet.connections.trans hle)
  · intro slot hslot houtput
    rcases hquiet.clients slot hslot houtput with hold | ⟨hnew, hinput⟩
    · exact h.waiting slot hold houtput
    · exact hinput.trans (h.unborn slot.connection hnew).symm
  · intro connection
    rw [Replied, hquiet.answers connection]
    exact h.replied connection

/-- The thread makes a step in which bytes arrive. -/
lemma Serving.reads (h : Serving assets target config events sys) {server : HttpServer}
    (hsound : Sound config server ∧ server.Placed) {answer : Answer} {slot : Slot}
    (houtput : slot.client.output = [])
    (hreads : HttpServer.Reads target config answer slot chunk sys.server server)
    {runtime : NativeRuntime}
    (hrun : RuntimeRun assets target config (steps events ++ exchange.toList) runtime)
    (hreplied : exchanges slot.connection events = [] →
      Replied target config slot.connection (events ++ [.Arrived slot.connection chunk exchange])
        (server.story slot.connection)) :
    Serving assets target config (events ++ [.Arrived slot.connection chunk exchange])
      { server, runtime } := by
  obtain ⟨i, hslot, hclients⟩ := hreads.clients
  have hmem : slot ∈ sys.server.clients := List.mem_of_getElem? hslot
  obtain ⟨hlt, hliving⟩ := h.sound.living slot hmem
  refine ⟨hsound.1, hsound.2, by rwa [steps_arrived], ?_, ?_, ?_⟩
  · intro connection hle
    rw [hreads.connections] at hle
    rw [written_arrived, if_neg (hlt.trans_le hle).ne, List.append_nil]
    exact h.unborn connection hle
  · intro slot' hslot' houtput'
    have hi : i < sys.server.clients.length := (List.getElem?_eq_some_iff.mp hslot).1
    dsimp only at hslot'
    rw [written_arrived]
    by_cases hsame : slot.connection = slot'.connection
    · -- It is the one client of this connection.
      have hnew := List.mem_set hi { slot with
        client := (takeChunk target config answer.handle slot.client chunk answer.nowMs).1 }
      rw [← hclients] at hnew
      obtain rfl := Sound.eq_of_connection hsound.1.nodup hnew hslot' hsame
      rw [if_pos rfl, takeChunk_input]
      exact congrArg (· ++ chunk) (h.waiting slot hmem houtput)
    · rw [hclients] at hslot'
      rcases List.mem_or_eq_of_mem_set hslot' with hold | rfl
      · rw [if_neg hsame, List.append_nil]
        exact h.waiting slot' hold houtput'
      · exact absurd rfl hsame
  · intro connection
    by_cases hsame : slot.connection = connection
    · subst hsame
      apply hreplied
      have hanswers := hliving.answers
      rw [if_pos houtput] at hanswers
      rcases h.replied slot.connection with ⟨-, hnone, -⟩ | ⟨response, -, hone⟩
      · exact hnone
      · rw [hanswers] at hone
        cases hone
    · have hwritten : written connection (events ++ [.Arrived slot.connection chunk exchange]) =
          written connection events := by
        rw [written_arrived, if_neg hsame, List.append_nil]
      have hexchanges : exchanges connection (events ++ [.Arrived slot.connection chunk exchange]) =
          exchanges connection events := by
        rw [exchanges_arrived, if_neg hsame, List.append_nil]
      rw [Replied, hexchanges, hwritten, hreads.answers connection, if_neg hsame, List.append_nil]
      rcases h.replied connection with hquiet | ⟨response, hreplies, hanswers⟩
      · exact Or.inl hquiet
      · exact Or.inr ⟨response, hreplies.congr hwritten hexchanges, hanswers⟩

/-- A step of the server thread, in which bytes may arrive and a request be handled. -/
lemma Serving.serve (h : Serving assets target config events sys) (answer : Answer)
    (clock : ℕ → ℤ) (answers : ℕ → Bool) :
    Serving assets target config
      (events ++ (sys.serve assets target config answer clock answers).2)
      (sys.serve assets target config answer clock answers).1 := by
  rw [Service.serve]
  dsimp only
  generalize hasked : sys.asked assets target config answer clock answers = asked
  have hhandle : ∀ request remoteAddress, asked.handle request remoteAddress ≠ [] := by
    intro request remoteAddress
    rw [← hasked]
    exact makeHttpResponse_ne_nil _
  have hsound : Sound config (sys.server.step target config asked) ∧
      (sys.server.step target config asked).Placed := h.sound.step h.placed hhandle
  have hstep := HttpServer.step_arriving target config asked h.placed
  cases harriving : sys.server.arriving asked with
  | none =>
      rw [harriving] at hstep
      rw [List.append_nil]
      exact h.quiet hsound hstep
  | some pair =>
      obtain ⟨slot, chunk⟩ := pair
      rw [harriving] at hstep
      obtain ⟨houtput, hreads⟩ := hstep
      obtain ⟨i, hslot, -⟩ := hreads.clients
      have hmem : slot ∈ sys.server.clients := List.mem_of_getElem? hslot
      have hanswers : ConnectionEvent.answers (sys.server.story slot.connection) = [] := by
        have hliving := (h.sound.living slot hmem).2.answers
        rwa [if_pos houtput] at hliving
      have hstory := hreads.answers slot.connection
      rw [if_pos rfl, hanswers, List.nil_append] at hstory
      have hinput := h.waiting slot hmem houtput
      have hwritten : ∀ exchange, written slot.connection
          (events ++ [.Arrived slot.connection chunk exchange]) = slot.client.input ++ chunk := by
        intro exchange
        rw [written_arrived, if_pos rfl, hinput]
      have hexchanges : ∀ exchange : Option RuntimeStep, exchanges slot.connection events = [] →
          exchanges slot.connection (events ++ [.Arrived slot.connection chunk exchange]) =
            exchange.toList := by
        intro exchange hnone
        rw [exchanges_arrived, if_pos rfl, hnone, List.nil_append]
      dsimp only
      rcases takeChunk_cases target config asked.handle slot.client chunk asked.nowMs with
        ⟨hlarge, htake⟩ | ⟨hparse, htake⟩ | ⟨error, hparse, htake⟩ | ⟨request, consumed, hparse, htake⟩
      · rw [htake] at hstory ⊢
        refine h.reads hsound houtput hreads (by simpa using h.run) fun hnone => Or.inr ?_
        refine ⟨_, .TooLarge (by rwa [hwritten]) (hexchanges none hnone), ?_⟩
        exact hstory.trans (filter_makeHttpResponse _)
      · rw [htake] at hstory ⊢
        refine h.reads hsound houtput hreads (by simpa using h.run) fun hnone => Or.inl ?_
        refine ⟨?_, hexchanges none hnone, by rwa [hwritten]⟩
        rw [hstory]
        simp [houtput]
      · rw [htake] at hstory ⊢
        refine h.reads hsound houtput hreads (by simpa using h.run) fun hnone => Or.inr ?_
        refine ⟨_, .Refused error (by rwa [hwritten]) (hexchanges none hnone), ?_⟩
        exact hstory.trans (filter_makeHttpResponse _)
      · rw [htake] at hstory ⊢
        refine h.reads hsound houtput hreads (h.run.extend _ clock answers) fun hnone => Or.inr ?_
        refine ⟨_, .Handled slot.client.remoteAddress (by rwa [hwritten]) (hexchanges _ hnone) rfl rfl, ?_⟩
        rw [← hasked] at hstory ⊢
        exact hstory.trans (filter_makeHttpResponse _)

/-- **Throughout the runs of the service** the invariant holds, by the lemmas for its two kinds of
steps. -/
lemma ServiceRun.serving (h : ServiceRun assets target config events sys) :
    Serving assets target config events sys := by
  induction h with
  | init nextListenAttemptMs =>
      have hinit : ServerRun target config { nextListenAttemptMs } := .init nextListenAttemptMs
      obtain ⟨hsound, hplaced⟩ := hinit.sound
      refine ⟨hsound, hplaced, .refl _, fun _ _ => rfl, ?_,
        fun _ => Or.inl ⟨rfl, rfl, parseHttpRequest_nil target config⟩⟩
      intro slot hslot
      cases hslot
  | call op clock answers _ ih => exact ih.call op clock answers
  | serve answer clock answers _ ih => exact ih.serve answer clock answers
  | restart _ _ ih =>
      exact ih.quiet ⟨ih.sound.of_same rfl rfl rfl, trivial⟩ (.of_same rfl rfl rfl)

/-- The runtime has been called once at most. -/
lemma Replies.exchanges_le {response : HttpResponse}
    (h : Replies target config connection events response) :
    (exchanges connection events).length ≤ 1 := by
  cases h with
  | TooLarge _ hnone => rw [hnone]; exact Nat.zero_le 1
  | Refused _ _ hnone => rw [hnone]; exact Nat.zero_le 1
  | Handled _ _ hone _ _ => rw [hone]; exact le_rfl

lemma mem_steps_of_exchanges {step : RuntimeStep} (h : exchanges connection events = [step]) :
    step ∈ steps events := by
  have hexchange : step ∈ exchanges connection events := h ▸ List.mem_singleton_self step
  obtain ⟨event, hevent, hmem⟩ := List.mem_flatMap.mp hexchange
  refine List.mem_flatMap.mpr ⟨event, hevent, ?_⟩
  cases event with
  | Called step' => cases hmem
  | Arrived connection' chunk exchange =>
      dsimp only at hmem
      split_ifs at hmem
      · exact hmem
      · cases hmem

/-- The response of the runtime can be sent, and so can the verdict of the server. -/
lemma Replies.sendable {response : HttpResponse}
    (h : Replies target config connection events response)
    (hrun : RuntimeRun assets target config (steps events) sys.runtime)
    (hsize : ∀ step ∈ steps events, ∀ response, step.response = some response →
      response.body.length < 2 ^ 64) : Sendable response := by
  have hverdict : ∀ status message, 100 ≤ status ∧ status < 1000 →
      (jsonError status message).body.length < 2 ^ 64 → Sendable (jsonError status message) :=
    fun status message hstatus hbody => (presentable_json hstatus _).sendable hbody
  cases h with
  | TooLarge _ _ => exact hverdict 413 _ (by decide) (by decide)
  | Refused error _ _ =>
      cases error <;> exact hverdict _ _ (by decide) (by decide)
  | @Handled request consumed step response remoteAddress hparse hone hop hresponse =>
      have hstep : step ∈ steps events := mem_steps_of_exchanges hone
      exact (RuntimePath.presentable hrun hstep hresponse).sendable (hsize step hstep response hresponse)

/-- What a phone reads of what has been sent. -/
lemma Serving.read_iff (hservice : Serving assets target config events sys)
    (hsize : ∀ step ∈ steps events, ∀ response, step.response = some response →
      response.body.length < 2 ^ 64) (connection : ℕ) (received : ReceivedResponse) :
    readResponse (bytesSent (sys.server.story connection)) = some received ↔
      ∃ response, Replies target config connection events response ∧ received = response.received ∧
        bytesSent (sys.server.story connection) = makeHttpResponse response := by
  obtain ⟨-, -, hsent⟩ := hservice.sound.story_sound connection
  have hwhole : ∀ response, Replies target config connection events response →
      readResponse (makeHttpResponse response) = some response.received := by
    intro response hreplies
    have hread := readResponse_take (hreplies.sendable hservice.run hsize) (makeHttpResponse response).length
    rwa [if_pos le_rfl, List.take_length] at hread
  constructor
  · intro hread
    rcases hservice.replied connection with ⟨hanswers, -⟩ | ⟨response, hreplies, hanswers⟩
    · -- Nothing has been sent.
      rw [hanswers, List.flatten_nil, List.prefix_nil] at hsent
      rw [hsent] at hread
      cases hread
    · rw [hanswers, List.flatten_singleton] at hsent
      have htake := List.prefix_iff_eq_take.mp hsent
      rw [htake, readResponse_take (hreplies.sendable hservice.run hsize)] at hread
      split_ifs at hread with hall
      refine ⟨response, hreplies, (Option.some.inj hread).symm, ?_⟩
      rw [htake, List.take_of_length_le hall]
  · rintro ⟨response, hreplies, rfl, hall⟩
    rw [hall]
    exact hwhole response hreplies

/-- **A phone reads the reply to what it has written**, on every connection of every run, in which no
body is larger than a `size_t`: the one answer that its bytes have led to, when all of it has been
sent, and nothing before. -/
theorem ServiceRun.repliesFaithful (h : ServiceRun assets target config events sys)
    (hsize : ∀ step ∈ steps events, ∀ response, step.response = some response →
      response.body.length < 2 ^ 64) (connection : ℕ) :
    RepliesFaithful target config connection events sys := by
  have hservice := h.serving
  refine ⟨?_, fun received => hservice.read_iff hsize connection received⟩
  rcases hservice.replied connection with ⟨-, hnone, -⟩ | ⟨response, hreplies, -⟩
  · rw [hnone]
    exact Nat.zero_le 1
  · exact hreplies.exchanges_le

/-- What one of the threads does, with what it learns from the system. -/
inductive ServiceOp
  | Call (op : RuntimeOp)
  | Serve (answer : Answer)

/-- The service after one of the threads has done something at this time, with a Java that accepts every
command. -/
def Service.next (assets : Assets) (target : Target) (config : NativeConfig)
    (run : List ServiceEvent × Service) (op : ServiceOp × ℤ) : List ServiceEvent × Service :=
  match op.1 with
  | .Call call =>
    let step := run.2.runtime.step assets target config call (fun _ => op.2) fun _ => true
    (run.1 ++ [.Called step], { run.2 with runtime := step.after })
  | .Serve answer =>
    let served := run.2.serve assets target config answer (fun _ => op.2) fun _ => true
    (run.1 ++ served.2, served.1)

lemma ServiceRun.nexts (ops : List (ServiceOp × ℤ)) : ∀ {run : List ServiceEvent × Service},
    ServiceRun assets target config run.1 run.2 →
      ServiceRun assets target config (ops.foldl (Service.next assets target config) run).1
        (ops.foldl (Service.next assets target config) run).2 := by
  induction ops with
  | nil => exact fun h => h
  | cons op ops ih =>
      intro run h
      apply ih
      obtain ⟨_ | answer, now⟩ := op
      · exact h.call _ _ _
      · exact h.serve answer _ _

/-- A turn of the loop in which one client is served, in six steps of the thread. -/
def oneClientTurn (polled served : Answer) : List Answer :=
  let rest : Answer := {}
  [polled, rest, served, rest, rest, rest]

/-- A session whose camera and network are ready, and a phone that asks for a page that is not there: the
thread accepts, reads and answers, the last in two turns of its loop. -/
def missingPageOps : List (ServiceOp × ℤ) :=
  let rest : Answer := {}
  ((.Start 123456 true, 0) :: readyOps).map (fun op => (.Call op.1, op.2)) ++
    ([{ acceptable := true }, { fd := 7, remoteAddress := bytes "10.0.0.1" }, rest, rest, rest, rest] ++
      oneClientTurn { revents := fun _ => { readable := true } }
        { received := .Data (bytes "GET /x HTTP/1.0\r\nHost: a\r\n\r\n") } ++
      oneClientTurn { revents := fun _ => { writable := true } } { sent := .Count 100 } ++
      oneClientTurn { revents := fun _ => { writable := true } } { sent := .Count 1000 }).map
        fun answer => (.Serve answer, 0)

/-- The events of this run, and the service after it. -/
def missingPage : List ServiceEvent × Service :=
  missingPageOps.foldl (Service.next {} .armeabi (configForPort 0))
    ([], { server := { nextListenAttemptMs := 0 }, runtime := .new (configForPort 0) })

theorem repliesFaithful_missingPage :
    RepliesFaithful .armeabi (configForPort 0) 0 missingPage.1 missingPage.2 ∧
      (readResponse (bytesSent (missingPage.2.server.story 0))).map ReceivedResponse.status =
        some 404 := by
  have hrun : ServiceRun {} .armeabi (configForPort 0) missingPage.1 missingPage.2 :=
    (ServiceRun.init 0).nexts missingPageOps
  have hbodies : (steps missingPage.1).all (fun step =>
      step.response.all fun response => response.body.length < 2 ^ 64) = true := by decide +kernel
  have hsize : ∀ step ∈ steps missingPage.1, ∀ response, step.response = some response →
      response.body.length < 2 ^ 64 := by
    intro step hstep response hresponse
    have hbody := List.all_eq_true.mp hbodies step hstep
    rw [hresponse] at hbody
    simpa using hbody
  exact ⟨hrun.repliesFaithful hsize 0, by decide +kernel⟩

end Runs

end LegacyAlpha
