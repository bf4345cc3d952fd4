import LegacyAlphaRemote.Http.Server

/-!
# Connections

`HttpServer::run`.  One thread serves every connection: each time round it polls the descriptors,
accepts, reads and writes as it is told, closes what has been idle for too long, and in the end closes
everything.  Clients are erased from the vector that its loops go through.

The thread makes one step for each connection it looks at (`ServerPhase` says where it is), and each
step asks the system, the clock and the handler once (`Answer`).  What they say is arbitrary, but
that `poll` reports only what was asked for, besides errors, that `recv` fills no more than the
buffer, and that `send` takes no more than it is given.

**Stories.**  Connections are numbered as they are accepted, since descriptors are used again.  The
story of a connection (`HttpServer.story`) is what happened to it: it is accepted, perhaps a request
is handled, it is answered once at most, a beginning of the answer is sent, and it is closed.
`ServerRun.connectionsSound` says so of every state that the thread can be in.
-/

namespace LegacyAlpha

/-! ## The server -/

/-- A client with its descriptor, and the number of its connection, which nothing in the code
knows. -/
structure Slot where
  connection : ℕ
  fd : ℤ
  client : Client
  deriving DecidableEq, Repr

/-- What `poll` reports of a descriptor: `POLLIN`, `POLLOUT`, or one of `POLLERR`, `POLLHUP` and
`POLLNVAL`. -/
structure Revents where
  readable : Bool := false
  writable : Bool := false
  broken : Bool := false
  deriving DecidableEq, Repr

/-- What `send` returns: how much it has taken, or an error, after which the call may be tried again or
not. -/
inductive Transmitted
  | Count (n : ℕ)
  | Failed (again : Bool)
  deriving DecidableEq, Repr

/-- What happens to a connection.  The log of these events is what the properties of the server are
said of; the program keeps none. -/
inductive ConnectionEvent
  | Accepted (fd : ℤ)
  | Handled (request : HttpRequest)
  | Answered (output : Bytes)
  | Sent (data : Bytes)
  | Closed (fd : ℤ)
  deriving DecidableEq, Repr

/-- Where the thread is: at the top of its loop, after `poll` before the listener and before the
client `remaining - 1`, in the loop over the idle clients, closing what is left, or back from
`run`. -/
inductive ServerPhase
  | Top
  | Listener (acceptable : Bool) (revents : List Revents)
  | Clients (remaining : ℕ) (revents : List Revents)
  | Idle (i : ℕ) (after : ℤ)
  | Closing
  | Returned
  deriving DecidableEq, Repr

/-- What the thread learns in a step.  A step uses what it asks for. -/
structure Answer where
  stopping : Bool := false
  nowMs : ℤ := 0
  serverReady : Bool := true
  opened : Bool := true
  acceptable : Bool := false
  revents : ℕ → Revents := fun _ => {}
  fd : ℤ := -1
  nonblocking : Bool := true
  remoteAddress : Bytes := []
  received : Received := .Failed true
  handle : HttpRequest → Bytes → Bytes := fun _ _ => []
  sent : Transmitted := .Failed true

/-- The members of `HttpServer` that `run` works on, the place it is at, and what happened to the
connections so far. -/
structure HttpServer where
  listening : Bool := false
  nextListenAttemptMs : ℤ := 0
  clients : List Slot := []
  phase : ServerPhase := .Top
  connections : ℕ := 0
  log : List (ℕ × ConnectionEvent) := []
  deriving DecidableEq, Repr

namespace HttpServer

/-- Something happens to a connection: it is written down at the end of the log. -/
def record (s : HttpServer) (connection : ℕ) (events : List ConnectionEvent) : HttpServer :=
  { s with log := s.log ++ events.map fun e => (connection, e) }

/-- `closeClient`: the client is erased from the vector, so that those behind it move up, and its
descriptor is closed. -/
def closeClient (s : HttpServer) (i : ℕ) : HttpServer :=
  match s.clients[i]? with
  | none => s
  | some slot =>
    { s with clients := s.clients.eraseIdx i }.record slot.connection
      (if slot.fd ≥ 0 then [.Closed slot.fd] else [])

/-- `acceptClient`: a new connection gets a client at the end of the vector, unless there are as many
as there may be or its descriptor cannot be made nonblocking; then it is closed at once. -/
def acceptClient (config : NativeConfig) (s : HttpServer) (answer : Answer) : HttpServer :=
  if answer.fd < 0 then s
  else
    let s' := { s with connections := s.connections + 1 }.record s.connections [.Accepted answer.fd]
    if s.clients.length ≥ config.maxClients || !answer.nonblocking then
      s'.record s.connections [.Closed answer.fd]
    else
      { s' with clients := s.clients ++ [{
          connection := s.connections, fd := answer.fd
          client := { lastActivityMs := answer.nowMs, remoteAddress := answer.remoteAddress } }] }

/-- `recv` into a buffer of 2048 bytes, whatever more has come. -/
def recv : Received → Received
  | .Data chunk => .Data (chunk.take 2048)
  | .Failed again => .Failed again

/-- `readClient` for the client at an index.  What is handled, and an answer that is new, are written
down. -/
def readClient (target : Target) (config : NativeConfig) (s : HttpServer) (i : ℕ) (answer : Answer) :
    HttpServer :=
  match s.clients[i]? with
  | none => s
  | some slot =>
    match LegacyAlpha.readClient target config answer.handle slot.client (recv answer.received)
      answer.nowMs with
    | (none, _) => s.closeClient i
    | (some client, request) =>
      { s with clients := s.clients.set i { slot with client } }.record slot.connection
        (request.toList.map ConnectionEvent.Handled ++
          if client.output = slot.client.output then [] else [ConnectionEvent.Answered client.output])

/-- `writeClient`: what is left of the answer is sent as far as `send` takes it, and the connection is
closed after the last byte. -/
def writeClient (s : HttpServer) (i : ℕ) (answer : Answer) : HttpServer :=
  match s.clients[i]? with
  | none => s
  | some slot =>
    if slot.client.written ≥ slot.client.output.length then s.closeClient i
    else
      let data := slot.client.output.drop slot.client.written
      match answer.sent with
      | .Failed again => if again then s else s.closeClient i
      | .Count n =>
        if min n data.length = 0 then s
        else
          let client : Client := { slot.client with
            written := slot.client.written + min n data.length, lastActivityMs := answer.nowMs }
          let s := { s with clients := s.clients.set i { slot with client } }.record slot.connection
            [.Sent (data.take n)]
          if client.written = client.output.length then s.closeClient i else s

/-- `poll` reports nothing that was not asked for: whether there is input until there is an answer,
and from then on whether the answer can be sent. -/
def poll (s : HttpServer) (answer : Answer) : List Revents :=
  s.clients.mapIdx fun i slot =>
    if slot.client.output.isEmpty then { answer.revents i with writable := false }
    else { answer.revents i with readable := false }

/-- The beginning of the loop, as far as `poll`: the listener is closed while the server is not to be
reached, and where opening it has failed it is tried again after a second. -/
def enterLoop (s : HttpServer) (answer : Answer) : HttpServer :=
  let s :=
    if !answer.serverReady then { s with listening := false }
    else if !s.listening && answer.nowMs ≥ s.nextListenAttemptMs then
      if answer.opened then { s with listening := true }
      else { s with nextListenAttemptMs := answer.nowMs + 1000 }
    else s
  { s with phase := .Listener (s.listening && answer.acceptable) (s.poll answer) }

/-- What is done about a client after `poll`: one of three calls, or none. -/
def serveClient (target : Target) (config : NativeConfig) (s : HttpServer) (i : ℕ)
    (revents : Revents) (answer : Answer) : HttpServer :=
  if revents.broken then s.closeClient i
  else if revents.readable then s.readClient target config i answer
  else if revents.writable then s.writeClient i answer
  else s

/-- A step of `run`.  The thread takes one step for the top of the loop with `poll`, one for the
listener and one for each client of each of the two loops, so that everything between two of its calls
to the sockets is a state of its own. -/
def step (target : Target) (config : NativeConfig) (s : HttpServer) (answer : Answer) : HttpServer :=
  match s.phase with
  | .Top =>
      if answer.stopping then { s with listening := false, phase := .Closing }
      else s.enterLoop answer
  | .Listener acceptable revents =>
      let s := if acceptable then s.acceptClient config answer else s
      { s with phase := .Clients s.clients.length revents }
  | .Clients 0 _ => { s with phase := .Idle 0 answer.nowMs }
  | .Clients (i + 1) revents =>
      -- A client that has been accepted since is past the end of what was polled.
      { s.serveClient target config i (revents.getD i {}) answer with phase := .Clients i revents }
  | .Idle i after =>
      match s.clients[i]? with
      | none => { s with phase := .Top }
      | some slot =>
        if after - slot.client.lastActivityMs > config.idleTimeoutMs then s.closeClient i
        else { s with phase := .Idle (i + 1) after }
  | .Closing => if s.clients.isEmpty then { s with phase := .Returned } else s.closeClient 0
  | .Returned => s

end HttpServer

/-- The states of the thread in its runs.  A handler answers with something, always. -/
inductive ServerRun (target : Target) (config : NativeConfig) : HttpServer → Prop
  | init (nextListenAttemptMs : ℤ) : ServerRun target config { nextListenAttemptMs }
  | step {s : HttpServer} (answer : Answer) : ServerRun target config s →
      (∀ request remoteAddress, answer.handle request remoteAddress ≠ []) →
      ServerRun target config (s.step target config answer)

/-! ## Stories -/

/-- What happened to a connection, in its order, picked out of the log. -/
def HttpServer.story (s : HttpServer) (connection : ℕ) : List ConnectionEvent :=
  s.log.filterMap fun e => if e.1 = connection then some e.2 else none

namespace ConnectionEvent

/-- The requests that were handed to the handler. -/
def requests (story : List ConnectionEvent) : List HttpRequest :=
  story.filterMap fun | .Handled request => some request | _ => none

/-- The answers a connection was given, of which there should be one. -/
def answers (story : List ConnectionEvent) : List Bytes :=
  story.filterMap fun | .Answered output => some output | _ => none

/-- All bytes sent, put together in their order. -/
def bytesSent (story : List ConnectionEvent) : Bytes :=
  story.flatMap fun | .Sent data => data | _ => []

/-- The descriptors accepted for a connection. -/
def accepts (story : List ConnectionEvent) : List ℤ :=
  story.filterMap fun | .Accepted fd => some fd | _ => none

/-- The descriptors closed for a connection. -/
def closes (story : List ConnectionEvent) : List ℤ :=
  story.filterMap fun | .Closed fd => some fd | _ => none

end ConnectionEvent

open ConnectionEvent

/-- **The invariants of the server.**  There are at most `maxClients` clients, the input of each is
bounded, no more is written than there is, and no index is out of range.  A request is handled once at
most on a connection, what is sent is a beginning of its one answer, and its descriptor is closed once
at most; exactly once when `run` has returned. -/
structure ConnectionsSound (config : NativeConfig) (s : HttpServer) : Prop where
  few : s.clients.length ≤ config.maxClients
  input : ∀ slot ∈ s.clients,
    slot.client.input.length ≤ config.maxHeaders + config.maxBody + 2048
  written : ∀ slot ∈ s.clients, slot.client.written ≤ slot.client.output.length
  inRange : ∀ remaining revents, s.phase = .Clients remaining revents → remaining ≤ s.clients.length
  handled : ∀ connection, (requests (s.story connection)).length ≤ 1
  answered : ∀ connection, (answers (s.story connection)).length ≤ 1
  sent : ∀ connection, bytesSent (s.story connection) <+: (answers (s.story connection)).flatten
  accepted : ∀ connection < s.connections, ∃ fd, accepts (s.story connection) = [fd] ∧
    (closes (s.story connection) = [] ∨ closes (s.story connection) = [fd])
  closed : s.phase = .Returned → ∀ connection < s.connections,
    closes (s.story connection) = accepts (s.story connection)

variable {target : Target} {config : NativeConfig} {s s' : HttpServer} {slot slot' : Slot} {i : ℕ}
  {answer : Answer}

lemma story_of_log {connection : ℕ} {events : List ConnectionEvent}
    (hlog : s'.log = s.log ++ events.map fun e => (connection, e)) (connection' : ℕ) :
    s'.story connection' = s.story connection' ++ if connection = connection' then events else [] := by
  rw [HttpServer.story, hlog, List.filterMap_append, List.filterMap_map]
  refine congrArg _ ?_
  by_cases hsame : connection = connection'
  · simp [hsame]
  · simp [hsame]

lemma story_record (s : HttpServer) (connection connection' : ℕ) (events : List ConnectionEvent) :
    (s.record connection events).story connection' =
      s.story connection' ++ if connection = connection' then events else [] :=
  story_of_log rfl connection'

/-- What has happened so far to a connection that is open: one request at most, no answer before it,
and of the answer as much as is counted in `written` is sent. -/
structure Living (config : NativeConfig) (slot : Slot) (story : List ConnectionEvent) : Prop where
  fd : 0 ≤ slot.fd
  accepts : accepts story = [slot.fd]
  closes : closes story = []
  requests : (requests story).length ≤ 1
  unanswered : slot.client.output = [] → ConnectionEvent.requests story = [] ∧
    slot.client.input.length ≤ config.maxHeaders + config.maxBody
  answers : answers story = if slot.client.output = [] then [] else [slot.client.output]
  sent : bytesSent story = slot.client.output.take slot.client.written
  input : slot.client.input.length ≤ config.maxHeaders + config.maxBody + 2048
  written : slot.client.written ≤ slot.client.output.length

/-- All that happened to a connection that is closed: its descriptor was closed once, and what was
sent is a beginning of its one answer, if it had one. -/
structure Ended (story : List ConnectionEvent) : Prop where
  once : ∃ fd, accepts story = [fd] ∧ closes story = [fd]
  requests : (requests story).length ≤ 1
  answers : (answers story).length ≤ 1
  sent : bytesSent story <+: (ConnectionEvent.answers story).flatten

/-- Every connection is open, and then there is one client for it, or ended. -/
structure Sound (config : NativeConfig) (s : HttpServer) : Prop where
  few : s.clients.length ≤ config.maxClients
  nodup : (s.clients.map Slot.connection).Nodup
  living : ∀ slot ∈ s.clients, slot.connection < s.connections ∧
    Living config slot (s.story slot.connection)
  ended : ∀ connection < s.connections, (∀ slot ∈ s.clients, slot.connection ≠ connection) →
    Ended (s.story connection)
  unborn : ∀ connection, s.connections ≤ connection → s.story connection = []

lemma Living.answers_length {story : List ConnectionEvent} (h : Living config slot story) :
    (ConnectionEvent.answers story).length ≤ 1 := by
  rw [h.answers]
  split_ifs <;> simp

lemma Living.sent_prefix {story : List ConnectionEvent} (h : Living config slot story) :
    bytesSent story <+: (ConnectionEvent.answers story).flatten := by
  rw [h.answers, h.sent]
  split_ifs with hempty
  · simp [hempty]
  · simpa using List.take_prefix _ _

/-- An open connection is closed, and its story ends with its descriptor. -/
lemma Living.close {story : List ConnectionEvent} (h : Living config slot story) :
    Ended (story ++ [.Closed slot.fd]) where
  once := ⟨slot.fd, by simpa [ConnectionEvent.accepts] using h.accepts, by
    have hcloses := h.closes
    simp only [ConnectionEvent.closes] at hcloses ⊢
    rw [List.filterMap_append, hcloses]
    rfl⟩
  requests := by simpa [ConnectionEvent.requests] using h.requests
  answers := by simpa [ConnectionEvent.answers] using h.answers_length
  sent := by simpa [ConnectionEvent.answers, bytesSent] using h.sent_prefix

/-- An open connection is answered, or not yet. -/
lemma Living.read {story : List ConnectionEvent} (h : Living config slot story)
    (houtput : slot.client.output = []) {client : Client} {request : Option HttpRequest}
    (hwritten : client.written = slot.client.written)
    (hinput : client.input.length ≤ config.maxHeaders + config.maxBody + 2048)
    (hunanswered : client.output = [] →
      request = none ∧ client.input.length ≤ config.maxHeaders + config.maxBody) :
    Living config { slot with client } (story ++ (request.toList.map ConnectionEvent.Handled ++
      if client.output = [] then [] else [ConnectionEvent.Answered client.output])) := by
  obtain ⟨hrequests, -⟩ := h.unanswered houtput
  have hanswers := h.answers
  have hsent := h.sent
  have hzero : slot.client.written = 0 := by
    have hle := h.written
    rw [houtput] at hle
    exact Nat.le_zero.mp hle
  rw [if_pos houtput] at hanswers
  rw [houtput, List.take_nil] at hsent
  have haccepts := h.accepts
  have hcloses := h.closes
  simp only [ConnectionEvent.accepts, ConnectionEvent.closes, ConnectionEvent.requests,
    ConnectionEvent.answers, bytesSent] at haccepts hcloses hrequests hanswers hsent
  refine ⟨h.fd, ?_, ?_, ?_, ?_, ?_, ?_, hinput, ?_⟩
  · cases request <;> split_ifs <;> simp [ConnectionEvent.accepts, haccepts]
  · cases request <;> split_ifs <;> simp [ConnectionEvent.closes, hcloses]
  · cases request <;> split_ifs <;> simp [ConnectionEvent.requests, hrequests]
  · intro hempty
    obtain ⟨rfl, hshort⟩ := hunanswered hempty
    exact ⟨by simp [ConnectionEvent.requests, hrequests], hshort⟩
  · cases request <;> split_ifs <;> simp [ConnectionEvent.answers, hanswers]
  · show _ = client.output.take client.written
    rw [hwritten, hzero, List.take_zero]
    cases request <;> split_ifs <;> simp [bytesSent, hsent]
  · show client.written ≤ _
    rw [hwritten, hzero]
    exact Nat.zero_le _

/-- Bytes are sent on an open connection. -/
lemma Living.write {story : List ConnectionEvent} (h : Living config slot story) (n : ℕ) (now : ℤ) :
    Living config
      { slot with client := { slot.client with
          written := slot.client.written + min n (slot.client.output.drop slot.client.written).length
          lastActivityMs := now } }
      (story ++ [.Sent ((slot.client.output.drop slot.client.written).take n)]) := by
  have hle := h.written
  have hlength : (slot.client.output.drop slot.client.written).length =
      slot.client.output.length - slot.client.written := List.length_drop
  have haccepts := h.accepts
  have hcloses := h.closes
  have hrequests := h.requests
  have hanswers := h.answers
  have hsent := h.sent
  refine ⟨h.fd, ?_, ?_, ?_, ?_, ?_, ?_, h.input, ?_⟩
  · simpa [ConnectionEvent.accepts] using haccepts
  · simpa [ConnectionEvent.closes] using hcloses
  · simpa [ConnectionEvent.requests] using hrequests
  · intro hempty
    obtain ⟨hnone, hshort⟩ := h.unanswered hempty
    exact ⟨by simpa [ConnectionEvent.requests] using hnone, hshort⟩
  · simpa [ConnectionEvent.answers] using hanswers
  · show bytesSent _ = slot.client.output.take (_ + _)
    rw [List.take_add, ← hsent, ← List.take_eq_take_min]
    simp [bytesSent]
  · show _ + _ ≤ slot.client.output.length
    omega

/-- What `readClient` makes of a client that has not been answered. -/
lemma readClient_spec {handle : HttpRequest → Bytes → Bytes} {client client' : Client}
    {received : Received} {now : ℤ} {request : Option HttpRequest}
    (hread : readClient target config handle client (HttpServer.recv received) now =
      (some client', request))
    (hhandle : ∀ request remoteAddress, handle request remoteAddress ≠ [])
    (hinput : client.input.length ≤ config.maxHeaders + config.maxBody) :
    client'.written = client.written ∧
      client'.input.length ≤ config.maxHeaders + config.maxBody + 2048 ∧
      (client'.output = [] →
        request = none ∧ client'.input.length ≤ config.maxHeaders + config.maxBody) := by
  cases received with
  | Failed again =>
      cases again with
      | true =>
          obtain ⟨hclient, hnone⟩ := Prod.mk.inj hread
          obtain rfl := Option.some.inj hclient
          exact ⟨rfl, by omega, fun _ => ⟨hnone.symm, hinput⟩⟩
      | false => cases hread
  | Data chunk =>
      have hchunk : (chunk.take 2048).length ≤ 2048 := List.length_take_le 2048 chunk
      have hlength : (client.input ++ chunk.take 2048).length ≤
          config.maxHeaders + config.maxBody + 2048 := by
        rw [List.length_append]
        omega
      simp only [HttpServer.recv, readClient, takeChunk] at hread
      split_ifs at hread with hempty hlarge
      · cases hread
      · -- There is too much of it.
        obtain ⟨hclient, -⟩ := Prod.mk.inj hread
        obtain rfl := Option.some.inj hclient
        exact ⟨rfl, hlength, fun hnil => absurd hnil (makeHttpResponse_ne_nil _)⟩
      · cases hparse : parseHttpRequest target config (client.input ++ chunk.take 2048) with
        | Incomplete =>
            rw [hparse] at hread
            obtain ⟨hclient, hnone⟩ := Prod.mk.inj hread
            obtain rfl := Option.some.inj hclient
            exact ⟨rfl, hlength, fun _ => ⟨hnone.symm, Nat.le_of_not_lt hlarge⟩⟩
        | Refused error =>
            rw [hparse] at hread
            obtain ⟨hclient, -⟩ := Prod.mk.inj hread
            obtain rfl := Option.some.inj hclient
            exact ⟨rfl, hlength, fun hnil => absurd hnil (makeHttpResponse_ne_nil _)⟩
        | Ok request' consumed =>
            rw [hparse] at hread
            obtain ⟨hclient, -⟩ := Prod.mk.inj hread
            obtain rfl := Option.some.inj hclient
            exact ⟨rfl, hlength, fun hnil => absurd hnil (hhandle _ _)⟩

/-! ## One client -/

namespace Sound

/-- The clients have different connections, so that a connection tells its client. -/
lemma eq_of_connection (h : (s.clients.map Slot.connection).Nodup) (hslot : slot ∈ s.clients)
    (hslot' : slot' ∈ s.clients) (hsame : slot.connection = slot'.connection) : slot = slot' :=
  List.inj_on_of_nodup_map h hslot hslot' hsame

/-- Something happens to an open connection, which stays open. -/
lemma set (h : Sound config s) (hslot : s.clients[i]? = some slot)
    (hconnection : slot'.connection = slot.connection) {events : List ConnectionEvent}
    (hliving : Living config slot' (s.story slot.connection ++ events)) :
    Sound config ({ s with clients := s.clients.set i slot' }.record slot.connection events) := by
  obtain ⟨hi, -⟩ := List.getElem?_eq_some_iff.mp hslot
  have hold : slot ∈ s.clients := List.mem_of_getElem? hslot
  have hnew : slot' ∈ s.clients.set i slot' := List.mem_set hi slot'
  have hmap : (s.clients.set i slot').map Slot.connection = s.clients.map Slot.connection := by
    rw [List.map_set, hconnection]
    refine List.ext_getElem? fun j => ?_
    rw [List.getElem?_set]
    by_cases hj : i = j
    · subst hj
      rw [if_pos rfl, if_pos (by simpa using hi), List.getElem?_map, hslot]
      rfl
    · rw [if_neg hj]
  have hnodup : ((s.clients.set i slot').map Slot.connection).Nodup := hmap ▸ h.nodup
  refine ⟨by simpa [HttpServer.record] using h.few, hnodup, ?_, ?_, ?_⟩
  · intro slot₁ hslot₁
    rw [story_record]
    by_cases hsame : slot.connection = slot₁.connection
    · obtain rfl : slot₁ = slot' :=
        eq_of_connection hnodup hslot₁ hnew (hsame.symm.trans hconnection.symm)
      rw [if_pos hsame, ← hsame]
      exact ⟨(h.living slot hold).1, hliving⟩
    · rcases List.mem_or_eq_of_mem_set hslot₁ with hslot₁ | rfl
      · rw [if_neg hsame, List.append_nil]
        exact h.living slot₁ hslot₁
      · exact absurd hconnection.symm hsame
  · intro connection hlt hnone
    have hne : slot.connection ≠ connection := hconnection ▸ hnone slot' hnew
    rw [story_record, if_neg hne, List.append_nil]
    refine h.ended connection hlt fun slot₁ hslot₁ heq => ?_
    have hmem : connection ∈ (s.clients.set i slot').map Slot.connection := by
      rw [hmap, ← heq]
      exact List.mem_map_of_mem hslot₁
    obtain ⟨slot₂, hslot₂, heq₂⟩ := List.mem_map.mp hmem
    exact hnone slot₂ hslot₂ heq₂
  · intro connection hle
    have hlt : slot.connection < s.connections := (h.living slot hold).1
    rw [story_record, if_neg (hlt.trans_le hle).ne, List.append_nil]
    exact h.unborn connection hle

/-- An open connection ends: its client is erased, and no other client is concerned. -/
lemma erase (h : Sound config s) (hslot : s.clients[i]? = some slot)
    {events : List ConnectionEvent} (hended : Ended (s.story slot.connection ++ events)) :
    Sound config ({ s with clients := s.clients.eraseIdx i }.record slot.connection events) := by
  have hold : slot ∈ s.clients := List.mem_of_getElem? hslot
  have hsub : (s.clients.eraseIdx i).Sublist s.clients := List.eraseIdx_sublist ..
  have hgone : ∀ slot₁ ∈ s.clients.eraseIdx i, slot₁.connection ≠ slot.connection := by
    intro slot₁ hslot₁ heq
    obtain ⟨j, hj, hget⟩ := List.mem_eraseIdx_iff_getElem?.mp hslot₁
    have hlt : j < (s.clients.map Slot.connection).length := by
      rw [List.length_map]
      exact (List.getElem?_eq_some_iff.mp hget).1
    refine hj ((List.getElem?_inj hlt h.nodup).mp ?_)
    simp [hget, hslot, heq]
  refine ⟨?_, (hsub.map _).nodup h.nodup, ?_, ?_, ?_⟩
  · exact hsub.length_le.trans h.few
  · intro slot₁ hslot₁
    rw [story_record, if_neg (hgone slot₁ hslot₁).symm, List.append_nil]
    exact h.living slot₁ (hsub.subset hslot₁)
  · intro connection hlt hnone
    rw [story_record]
    by_cases hsame : slot.connection = connection
    · rw [if_pos hsame, ← hsame]
      exact hended
    · rw [if_neg hsame, List.append_nil]
      refine h.ended connection hlt fun slot₁ hslot₁ heq => ?_
      obtain ⟨j, hget⟩ := List.getElem?_of_mem hslot₁
      have hj : j ≠ i := by
        rintro rfl
        rw [hget] at hslot
        exact hsame (Option.some.inj hslot ▸ heq)
      exact hnone slot₁ (List.mem_eraseIdx_iff_getElem?.mpr ⟨j, hj, hget⟩) heq
  · intro connection hle
    have hlt : slot.connection < s.connections := (h.living slot hold).1
    rw [story_record, if_neg (hlt.trans_le hle).ne, List.append_nil]
    exact h.unborn connection hle

/-- `closeClient` ends the story of one connection, and leaves the others as they are. -/
lemma closeClient (h : Sound config s) (i : ℕ) : Sound config (s.closeClient i) := by
  rw [HttpServer.closeClient]
  cases hslot : s.clients[i]? with
  | none => exact h
  | some slot =>
      obtain ⟨-, hliving⟩ := h.living slot (List.mem_of_getElem? hslot)
      refine h.erase hslot ?_
      rw [if_pos hliving.fd]
      exact hliving.close

/-- A connection that has just been accepted is none of those there are. -/
lemma connection_ne (h : Sound config s) (hslot : slot ∈ s.clients) :
    s.connections ≠ slot.connection :=
  (h.living slot hslot).1.ne'

/-- A connection is accepted, and stays open. -/
lemma push (h : Sound config s) (hroom : s.clients.length < config.maxClients) {fd : ℤ} (hfd : 0 ≤ fd)
    {client : Client} (hclient : client = { client with input := [], output := [], written := 0 })
    (hlog : s'.log = s.log ++ [.Accepted fd].map fun e => (s.connections, e))
    (hclients : s'.clients = s.clients ++ [⟨s.connections, fd, client⟩])
    (hconnections : s'.connections = s.connections + 1) : Sound config s' := by
  have hstory := story_of_log hlog
  refine ⟨?_, ?_, ?_, ?_, ?_⟩
  · rw [hclients, List.length_append]
    exact hroom
  · rw [hclients, List.map_append]
    refine h.nodup.append (List.nodup_singleton _) ?_
    intro connection hold hmem
    obtain ⟨slot, hslot, rfl⟩ := List.mem_map.mp hold
    exact h.connection_ne hslot (List.mem_singleton.mp hmem).symm
  · intro slot hslot
    rw [hclients] at hslot
    rw [hstory, hconnections]
    rcases List.mem_append.mp hslot with hold | hslot
    · obtain ⟨hlt, hliving⟩ := h.living slot hold
      rw [if_neg (h.connection_ne hold), List.append_nil]
      exact ⟨Nat.lt_succ_of_lt hlt, hliving⟩
    · obtain rfl := List.mem_singleton.mp hslot
      rw [if_pos rfl, h.unborn _ le_rfl, hclient]
      exact ⟨Nat.lt_succ_self _, ⟨hfd, rfl, rfl, Nat.zero_le 1, fun _ => ⟨rfl, Nat.zero_le _⟩, rfl, rfl,
        Nat.zero_le _, le_rfl⟩⟩
  · intro connection hlt hnone
    rw [hconnections] at hlt
    rw [hclients] at hnone
    have hne : s.connections ≠ connection :=
      hnone _ (List.mem_append_right _ (List.mem_singleton_self _))
    rw [hstory, if_neg hne, List.append_nil]
    exact h.ended connection (lt_of_le_of_ne (Nat.le_of_lt_succ hlt) hne.symm)
      fun slot hslot => hnone slot (List.mem_append_left _ hslot)
  · intro connection hle
    rw [hconnections] at hle
    rw [hstory, if_neg (Nat.lt_of_succ_le hle).ne, List.append_nil]
    exact h.unborn connection (Nat.le_of_succ_le hle)

/-- `acceptClient`: the connection ends at once when there is no room for it, and is open otherwise. -/
lemma acceptClient (h : Sound config s) (answer : Answer) :
    Sound config (s.acceptClient config answer) := by
  have hnew : s.story s.connections = [] := h.unborn _ le_rfl
  rw [HttpServer.acceptClient]
  by_cases hfd : answer.fd < 0
  · rw [if_pos hfd]
    exact h
  rw [if_neg hfd]
  dsimp only
  by_cases hfull : (s.clients.length ≥ config.maxClients || !answer.nonblocking) = true
  · rw [if_pos hfull]
    refine ⟨h.few, h.nodup, ?_, ?_, ?_⟩
    · intro slot hslot
      obtain ⟨hlt, hliving⟩ := h.living slot hslot
      rw [story_record, story_record, if_neg (h.connection_ne hslot),
        if_neg (h.connection_ne hslot), List.append_nil, List.append_nil]
      exact ⟨Nat.lt_succ_of_lt hlt, hliving⟩
    · intro connection hlt hnone
      rw [story_record, story_record]
      by_cases hsame : s.connections = connection
      · rw [if_pos hsame, if_pos hsame, ← hsame]
        show Ended (s.story s.connections ++ [.Accepted answer.fd] ++ [.Closed answer.fd])
        rw [hnew]
        exact ⟨⟨answer.fd, rfl, rfl⟩, Nat.zero_le 1, Nat.zero_le 1, List.prefix_rfl⟩
      · rw [if_neg hsame, if_neg hsame, List.append_nil, List.append_nil]
        have hold : connection < s.connections :=
          lt_of_le_of_ne (Nat.le_of_lt_succ hlt) (Ne.symm hsame)
        exact h.ended connection hold hnone
    · intro connection hle
      have hne : s.connections ≠ connection := (Nat.lt_of_succ_le hle).ne
      rw [story_record, story_record, if_neg hne, if_neg hne, List.append_nil, List.append_nil]
      exact h.unborn connection (Nat.le_of_succ_le hle)
  · rw [if_neg hfull]
    obtain ⟨hroom, -⟩ : s.clients.length < config.maxClients ∧ answer.nonblocking = true := by
      simpa using hfull
    exact h.push hroom (Int.not_lt.mp hfd) (by rfl) rfl rfl rfl

/-- `readClient`, for a client that has not been answered. -/
lemma readClient (h : Sound config s)
    (hhandle : ∀ request remoteAddress, answer.handle request remoteAddress ≠ [])
    (hunanswered : ∀ slot, s.clients[i]? = some slot → slot.client.output = []) :
    Sound config (s.readClient target config i answer) := by
  rw [HttpServer.readClient]
  cases hslot : s.clients[i]? with
  | none => exact h
  | some slot =>
      obtain ⟨-, hliving⟩ := h.living slot (List.mem_of_getElem? hslot)
      have houtput := hunanswered slot hslot
      obtain ⟨-, hshort⟩ := hliving.unanswered houtput
      rcases hread : LegacyAlpha.readClient target config answer.handle slot.client
        (HttpServer.recv answer.received) answer.nowMs with ⟨_ | client, request⟩
      · simp only [hread]
        exact h.closeClient i
      · obtain ⟨hwritten, hinput, hnone⟩ := readClient_spec hread hhandle hshort
        have hliving' := hliving.read houtput hwritten hinput hnone
        simp only [hread]
        rw [houtput]
        refine h.set hslot ?_ hliving'
        rfl

/-- `writeClient` sends a part of the answer that has not been sent, and closes the connection at its
end. -/
lemma writeClient (h : Sound config s) (i : ℕ) (answer : Answer) :
    Sound config (s.writeClient i answer) := by
  rw [HttpServer.writeClient]
  cases hslot : s.clients[i]? with
  | none => exact h
  | some slot =>
      obtain ⟨-, hliving⟩ := h.living slot (List.mem_of_getElem? hslot)
      dsimp only
      by_cases hdone : slot.client.written ≥ slot.client.output.length
      · rw [if_pos hdone]
        exact h.closeClient i
      rw [if_neg hdone]
      cases hsent : answer.sent with
      | Failed again =>
          cases again with
          | true => exact h
          | false => exact h.closeClient i
      | Count n =>
          have hset := h.set hslot (by rfl) (hliving.write n answer.nowMs)
          dsimp only
          split_ifs
          · exact h
          · exact hset.closeClient i
          · exact hset

/-- What is done about a client that is asked for its input only before it is answered. -/
lemma serveClient (h : Sound config s)
    (hhandle : ∀ request remoteAddress, answer.handle request remoteAddress ≠ [])
    {revents : Revents} (hasked : ∀ slot, s.clients[i]? = some slot → revents.readable = true →
      slot.client.output = []) : Sound config (s.serveClient target config i revents answer) := by
  rw [HttpServer.serveClient]
  split_ifs with hbroken hreadable hwritable
  · exact h.closeClient i
  · exact h.readClient hhandle fun slot hslot => hasked slot hslot hreadable
  · exact h.writeClient i answer
  · exact h

/-- A connection that has been accepted is open or has ended. -/
lemma living_or_ended (h : Sound config s) {connection : ℕ} (hlt : connection < s.connections) :
    (∃ slot ∈ s.clients, Living config slot (s.story connection)) ∨ Ended (s.story connection) := by
  by_cases hopen : ∃ slot ∈ s.clients, slot.connection = connection
  · obtain ⟨slot, hslot, rfl⟩ := hopen
    exact Or.inl ⟨slot, hslot, (h.living slot hslot).2⟩
  · push Not at hopen
    exact Or.inr (h.ended connection hlt hopen)

/-- One request, one answer, and what is sent of it, on every connection. -/
lemma story_sound (h : Sound config s) (connection : ℕ) :
    (requests (s.story connection)).length ≤ 1 ∧ (answers (s.story connection)).length ≤ 1 ∧
      bytesSent (s.story connection) <+: (answers (s.story connection)).flatten := by
  by_cases hlt : connection < s.connections
  · rcases h.living_or_ended hlt with ⟨slot, -, hliving⟩ | hended
    · exact ⟨hliving.requests, hliving.answers_length, hliving.sent_prefix⟩
    · exact ⟨hended.requests, hended.answers, hended.sent⟩
  · rw [h.unborn connection (Nat.le_of_not_lt hlt)]
    exact ⟨Nat.zero_le 1, Nat.zero_le 1, List.prefix_rfl⟩

end Sound

/-! ## The loop over the clients -/

namespace HttpServer

/-- The clients before a place in the list stay where they are when something is done there. -/
def SameBefore (i : ℕ) (s s' : HttpServer) : Prop := ∀ j < i, s'.clients[j]? = s.clients[j]?

lemma sameBefore_closeClient (s : HttpServer) (i : ℕ) : SameBefore i s (s.closeClient i) := by
  intro j hj
  rw [closeClient]
  cases s.clients[i]? with
  | none => rfl
  | some slot => exact List.getElem?_eraseIdx_of_lt hj

lemma sameBefore_set (s : HttpServer) (i : ℕ) (slot : Slot) (connection : ℕ)
    (events : List ConnectionEvent) :
    SameBefore i s ({ s with clients := s.clients.set i slot }.record connection events) :=
  fun _ hj => List.getElem?_set_ne (Nat.ne_of_gt hj)

lemma SameBefore.trans {s s' s'' : HttpServer} (h : SameBefore i s s') (h' : SameBefore i s' s'') :
    SameBefore i s s'' :=
  fun j hj => (h' j hj).trans (h j hj)

lemma sameBefore_readClient (s : HttpServer) (i : ℕ) (answer : Answer) :
    SameBefore i s (s.readClient target config i answer) := by
  rw [readClient]
  cases s.clients[i]? with
  | none => exact fun _ _ => rfl
  | some slot =>
      rcases hread : LegacyAlpha.readClient target config answer.handle slot.client
        (recv answer.received) answer.nowMs with ⟨_ | client, request⟩ <;> simp only [hread]
      · exact s.sameBefore_closeClient i
      · exact s.sameBefore_set i _ _ _

lemma sameBefore_writeClient (s : HttpServer) (i : ℕ) (answer : Answer) :
    SameBefore i s (s.writeClient i answer) := by
  rw [writeClient]
  cases s.clients[i]? with
  | none => exact fun _ _ => rfl
  | some slot =>
      dsimp only
      split_ifs
      · exact s.sameBefore_closeClient i
      · cases answer.sent with
        | Failed again =>
            cases again with
            | true => exact fun _ _ => rfl
            | false => exact s.sameBefore_closeClient i
        | Count n =>
            dsimp only
            split_ifs
            · exact fun _ _ => rfl
            · exact (s.sameBefore_set i _ _ _).trans (sameBefore_closeClient _ i)
            · exact s.sameBefore_set i _ _ _

lemma sameBefore_serveClient (s : HttpServer) (i : ℕ) (revents : Revents) (answer : Answer) :
    SameBefore i s (s.serveClient target config i revents answer) := by
  rw [serveClient]
  split_ifs
  · exact s.sameBefore_closeClient i
  · exact s.sameBefore_readClient i answer
  · exact s.sameBefore_writeClient i answer
  · exact fun _ _ => rfl

end HttpServer

/-- Input is reported only of clients that have not been answered, so that no client is read once
more. -/
def Polled (s : HttpServer) (revents : List Revents) (n : ℕ) : Prop :=
  ∀ j < n, ∀ slot, s.clients[j]? = some slot → (revents.getD j {}).readable = true →
    slot.client.output = []

/-- What the thread remembers is right: of how many clients there are, of what was polled, and that
nothing is left when it is done. -/
def HttpServer.Placed (s : HttpServer) : Prop :=
  match s.phase with
  | .Listener _ revents => Polled s revents s.clients.length
  | .Clients remaining revents => remaining ≤ s.clients.length ∧ Polled s revents remaining
  | .Returned => s.clients = []
  | _ => True

lemma polled_poll (s : HttpServer) (answer : Answer) : Polled s (s.poll answer) s.clients.length := by
  intro _ _ slot hslot hreadable
  by_contra houtput
  rw [List.getD_eq_getElem?_getD, HttpServer.poll, List.getElem?_mapIdx, hslot] at hreadable
  simp [houtput] at hreadable

lemma Polled.of_sameBefore {revents : List Revents} {n : ℕ} (h : Polled s revents n)
    (hsame : HttpServer.SameBefore n s s') : Polled s' revents n := by
  intro j hj slot hslot
  rw [hsame j hj] at hslot
  exact h j hj slot hslot

/-! ## Runs -/

namespace HttpServer

lemma closeClient_phase (s : HttpServer) (i : ℕ) : (s.closeClient i).phase = s.phase := by
  rw [closeClient]
  cases s.clients[i]? with
  | none => rfl
  | some slot => rfl

/-- There may be one client more after `acceptClient`, which has not been answered. -/
lemma acceptClient_clients (config : NativeConfig) (s : HttpServer) (answer : Answer) :
    (s.acceptClient config answer).clients = s.clients ∨
      ∃ slot, slot.client.output = [] ∧
        (s.acceptClient config answer).clients = s.clients ++ [slot] := by
  rw [acceptClient]
  split_ifs
  · exact Or.inl rfl
  · exact Or.inl rfl
  · exact Or.inr ⟨_, rfl, rfl⟩

/-- Nothing happens to the clients before `poll`. -/
lemma enterLoop_eq (s : HttpServer) (answer : Answer) :
    ∃ listening nextListenAttemptMs, s.enterLoop answer =
      { s with
        listening, nextListenAttemptMs
        phase := .Listener (listening && answer.acceptable) (s.poll answer) } := by
  rw [enterLoop]
  split_ifs <;> exact ⟨_, _, rfl⟩

/-- The clients that are still to be served are there. -/
lemma SameBefore.le_length {s s' : HttpServer} (h : SameBefore i s s') (hle : i ≤ s.clients.length) :
    i ≤ s'.clients.length := by
  cases i with
  | zero => exact Nat.zero_le _
  | succ j =>
      have hget := h j (Nat.lt_succ_self j)
      rw [List.getElem?_eq_getElem hle] at hget
      exact (List.getElem?_eq_some_iff.mp hget).1

end HttpServer

lemma Polled.push {revents : List Revents} (h : Polled s revents s.clients.length)
    (houtput : slot.client.output = []) (hclients : s'.clients = s.clients ++ [slot]) :
    Polled s' revents s'.clients.length := by
  intro j hj slot' hslot' hreadable
  rw [hclients, List.length_append] at hj
  rw [hclients] at hslot'
  by_cases hold : j < s.clients.length
  · rw [List.getElem?_append_left hold] at hslot'
    exact h j hold slot' hslot' hreadable
  · obtain rfl : j = s.clients.length := by
      have hlt : j < s.clients.length + 1 := hj
      omega
    rw [List.getElem?_concat_length] at hslot'
    obtain rfl := Option.some.inj hslot'
    exact houtput

lemma Polled.acceptClient {revents : List Revents} (h : Polled s revents s.clients.length)
    (config : NativeConfig) (answer : Answer) :
    Polled (s.acceptClient config answer) revents
      (s.acceptClient config answer).clients.length := by
  rcases s.acceptClient_clients config answer with hsame | ⟨slot, houtput, hclients⟩
  · rw [hsame]
    exact h.of_sameBefore fun j _ => congrArg (fun clients => clients[j]?) hsame
  · exact h.push houtput hclients

namespace Sound

/-- The place of the thread, and its listener, make no difference. -/
lemma of_same (h : Sound config s) (hclients : s'.clients = s.clients)
    (hconnections : s'.connections = s.connections) (hlog : s'.log = s.log) : Sound config s' := by
  obtain ⟨_, _, _, _, _, _⟩ := s'
  subst hclients hconnections hlog
  exact ⟨h.few, h.nodup, h.living, h.ended, h.unborn⟩

/-- A step of `run` keeps the invariant, place by place. -/
lemma step (h : Sound config s) (hplaced : s.Placed)
    (hhandle : ∀ request remoteAddress, answer.handle request remoteAddress ≠ []) :
    Sound config (s.step target config answer) ∧ (s.step target config answer).Placed := by
  rw [HttpServer.step]
  rw [HttpServer.Placed] at hplaced
  cases hphase : s.phase with
  | Top =>
      dsimp only
      by_cases hstopping : answer.stopping = true
      · rw [if_pos hstopping]
        exact ⟨h.of_same rfl rfl rfl, trivial⟩
      · rw [if_neg hstopping]
        obtain ⟨listening, nextListenAttemptMs, henter⟩ := s.enterLoop_eq answer
        rw [henter]
        exact ⟨h.of_same rfl rfl rfl, polled_poll s answer⟩
  | Listener acceptable revents =>
      rw [hphase] at hplaced
      cases acceptable with
      | false => exact ⟨h.of_same rfl rfl rfl, le_rfl, hplaced⟩
      | true =>
          exact ⟨(h.acceptClient answer).of_same rfl rfl rfl, le_rfl,
            Polled.acceptClient hplaced config answer⟩
  | Clients remaining revents =>
      rw [hphase] at hplaced
      obtain ⟨hle, hpolled⟩ := hplaced
      cases remaining with
      | zero => exact ⟨h.of_same rfl rfl rfl, trivial⟩
      | succ i =>
          have hserved : Sound config (s.serveClient target config i (revents.getD i {}) answer) :=
            h.serveClient hhandle (hpolled i (Nat.lt_succ_self i))
          have hsame : HttpServer.SameBefore i s
              (s.serveClient target config i (revents.getD i {}) answer) :=
            s.sameBefore_serveClient i (revents.getD i {}) answer
          have hrest : Polled s revents i := fun j hj => hpolled j (Nat.lt_succ_of_lt hj)
          exact ⟨hserved.of_same rfl rfl rfl, hsame.le_length (Nat.le_of_succ_le hle),
            hrest.of_sameBefore hsame⟩
  | Idle i after =>
      dsimp only
      cases hslot : s.clients[i]? with
      | none => exact ⟨h.of_same rfl rfl rfl, trivial⟩
      | some slot =>
          dsimp only
          split_ifs
          · refine ⟨h.closeClient i, ?_⟩
            rw [HttpServer.Placed, s.closeClient_phase, hphase]
            trivial
          · exact ⟨h.of_same rfl rfl rfl, trivial⟩
  | Closing =>
      dsimp only
      by_cases hempty : s.clients.isEmpty = true
      · rw [if_pos hempty]
        exact ⟨h.of_same rfl rfl rfl, List.isEmpty_iff.mp hempty⟩
      · rw [if_neg hempty]
        refine ⟨h.closeClient 0, ?_⟩
        rw [HttpServer.Placed, s.closeClient_phase, hphase]
        trivial
  | Returned =>
      rw [hphase] at hplaced
      refine ⟨h, ?_⟩
      rw [HttpServer.Placed, hphase]
      exact hplaced

end Sound

/-- The invariant holds of every state of every run. -/
lemma ServerRun.sound (h : ServerRun target config s) : Sound config s ∧ s.Placed := by
  induction h with
  | init nextListenAttemptMs =>
      refine ⟨⟨Nat.zero_le _, List.nodup_nil, ?_, ?_, fun _ _ => rfl⟩, trivial⟩
      · intro slot hslot
        cases hslot
      · intro connection hlt
        cases hlt
  | step answer _ hhandle ih =>
      obtain ⟨hsound, hplaced⟩ := ih
      exact hsound.step hplaced hhandle

/-- **What holds of the connections throughout `run`**, whatever comes from the sockets, the clock and
the handler, and wherever in its loop the thread is. -/
theorem ServerRun.connectionsSound (h : ServerRun target config s) : ConnectionsSound config s := by
  obtain ⟨hsound, hplaced⟩ := h.sound
  refine ⟨hsound.few, fun slot hslot => (hsound.living slot hslot).2.input,
    fun slot hslot => (hsound.living slot hslot).2.written, ?_,
    fun connection => (hsound.story_sound connection).1,
    fun connection => (hsound.story_sound connection).2.1,
    fun connection => (hsound.story_sound connection).2.2, ?_, ?_⟩
  · intro remaining revents hphase
    rw [HttpServer.Placed, hphase] at hplaced
    exact hplaced.1
  · intro connection hlt
    rcases hsound.living_or_ended hlt with ⟨slot, -, hliving⟩ | hended
    · exact ⟨slot.fd, hliving.accepts, Or.inl hliving.closes⟩
    · obtain ⟨fd, haccepts, hcloses⟩ := hended.once
      exact ⟨fd, haccepts, Or.inr hcloses⟩
  · intro hphase connection hlt
    rw [HttpServer.Placed, hphase] at hplaced
    have hnone : s.clients = [] := hplaced
    rcases hsound.living_or_ended hlt with ⟨slot, hslot, -⟩ | hended
    · rw [hnone] at hslot
      cases hslot
    · obtain ⟨fd, haccepts, hcloses⟩ := hended.once
      rw [haccepts, hcloses]

/-- The run in which these answers are given, one after another, and one handler answers. -/
def HttpServer.runOn (target : Target) (config : NativeConfig) (handle : HttpRequest → Bytes → Bytes)
    (s : HttpServer) (answers : List Answer) : HttpServer :=
  answers.foldl (fun s answer => s.step target config { answer with handle }) s

lemma ServerRun.runOn {handle : HttpRequest → Bytes → Bytes}
    (hhandle : ∀ request remoteAddress, handle request remoteAddress ≠ [])
    (h : ServerRun target config s) (answers : List Answer) :
    ServerRun target config (s.runOn target config handle answers) := by
  induction answers generalizing s with
  | nil => exact h
  | cons answer answers ih => exact ih (h.step { answer with handle } hhandle)

/-- A client connects, sends a request, and takes the answer in two pieces.  Another one is still
connected when the server stops. -/
def servedAnswers : List Answer :=
  [ -- The first client connects.
    { acceptable := true }, { fd := 5 }, {}, {}, {}, {},
    -- It sends its request while the second one connects.
    { acceptable := true, revents := fun _ => { readable := true } }, { fd := 6 }, {},
    { received := .Data cancelMessage.text }, {}, {}, {}, {},
    -- It takes two bytes of the answer, and then the rest.
    { revents := fun _ => { writable := true } }, {}, {}, { sent := .Count 2 }, {}, {}, {}, {},
    { revents := fun _ => { writable := true } }, {}, {}, { sent := .Count 2 }, {}, {}, {},
    -- The server stops.
    { stopping := true }, {}, {} ]

/-- The server after `servedAnswers`: a client has been read in two pieces, answered and closed, and
the thread has returned. -/
def served : HttpServer :=
  HttpServer.runOn .armeabi {} (fun _ _ => bytes "OK!") {} servedAnswers

theorem served_connectionsSound :
    served.phase = .Returned ∧
      served.story 0 = [.Accepted 5, .Handled cancelMessage.request, .Answered (bytes "OK!"),
        .Sent (bytes "OK"), .Sent (bytes "!"), .Closed 5] ∧
      served.story 1 = [.Accepted 6, .Closed 6] ∧ ConnectionsSound {} served := by
  have hrun : ServerRun .armeabi {} served :=
    (ServerRun.init 0).runOn (fun _ _ => by decide) servedAnswers
  exact ⟨by decide +kernel, by decide +kernel, by decide +kernel, hrun.connectionsSound⟩

end LegacyAlpha
