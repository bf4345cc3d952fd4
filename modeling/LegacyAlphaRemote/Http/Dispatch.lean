import LegacyAlphaRemote.Http.Connections

/-!
# Who is served

One turn of the loop in `HttpServer::run`, from `poll` on, with the vector that is given to `poll` as it
is: first the pipe, then the listener if there is one, then the clients, so that a client is found
behind an offset.  The clients are served from the last to the first, as a client that is closed makes
those behind it move up; and the loop over the idle clients goes the other way and stays where it is
when it closes one.

`HttpServer.dispatch` fails when it would use an index that is out of range.  `turn_aligned` says that
it does not, and that every client gets the call that its own descriptor asks for.  `ServerRun.turn` says
that the steps of the thread, which know no offset, go through the same loop.
-/

namespace LegacyAlpha

/-! ## The code -/

/-- What a `struct pollfd` is about.  The number of its connection stands for the descriptor of a
client. -/
inductive PollTarget
  | Wake
  | Listener
  | Client (connection : ℕ)
  deriving DecidableEq, Repr

/-- `struct pollfd`: whether it asks for `POLLOUT` rather than for `POLLIN`, and what `poll` reports. -/
structure Pollfd where
  watched : PollTarget
  output : Bool := false
  revents : Revents := {}
  deriving DecidableEq, Repr

/-- The functions that the loop calls for a client.  Each of them may close it. -/
inductive ClientCall
  | Close
  | Read
  | Write
  deriving DecidableEq, Repr

/-- The function that is called: errors come before input, and input before output, so that it is one
at most. -/
def Revents.call (revents : Revents) : Option ClientCall :=
  if revents.broken then some .Close
  else if revents.readable then some .Read
  else if revents.writable then some .Write
  else none

/-- The server, and which function was called for which client so far.  The calls are written down for
the proofs, and no function of the loop reads them. -/
structure Pass where
  server : HttpServer
  calls : List (ℕ × ClientCall) := []

namespace HttpServer

/-- The vector `descriptors`: the pipe, the listener if there is one, and the clients in their order.
A client with output is asked for room to write, one without for input. -/
def descriptors (s : HttpServer) : List Pollfd :=
  { watched := .Wake } :: ((if s.listening then [{ watched := .Listener }] else []) ++
    s.clients.map fun slot =>
      { watched := .Client slot.connection, output := !slot.client.output.isEmpty })

/-- The vector when `poll` is back: each descriptor with what came of what it watches. -/
def polled (s : HttpServer) (outcome : PollTarget → Revents) : List Pollfd :=
  s.descriptors.map fun descriptor => { descriptor with revents := outcome descriptor.watched }

/-- A call for the client at an index, with what the sockets and the clock answer to it. -/
def call (target : Target) (config : NativeConfig) (s : HttpServer) (i : ℕ) (answer : Answer) :
    ClientCall → HttpServer
  | .Close => s.closeClient i
  | .Read => s.readClient target config i answer
  | .Write => s.writeClient i answer

end HttpServer

namespace Pass

/-- A call for `clients_[i]`, if there is one; otherwise the program has no defined behaviour, and
there is no pass. -/
def perform (target : Target) (config : NativeConfig) (p : Pass) (i : ℕ) (answers : ℕ → Answer)
    (call : ClientCall) : Option Pass :=
  match p.server.clients[i]? with
  | none => none
  | some slot => some
      { server := p.server.call target config i (answers slot.connection) call
        calls := p.calls ++ [(slot.connection, call)] }

/-- The loop over the clients, from the last to the first, so that a client that is closed moves none
that is still to come.  The indices count on in `descriptors` from `offset`. -/
def serveLoop (target : Target) (config : NativeConfig) (descriptors : List Pollfd) (offset : ℕ)
    (answers : ℕ → Answer) : ℕ → Pass → Option Pass
  | 0, p => some p
  | i + 1, p =>
    let events : Revents :=
      match descriptors[offset + i]? with
      | some descriptor => descriptor.revents
      | none => {}
    match events.call with
    | none => serveLoop target config descriptors offset answers i p
    | some call =>
      match p.perform target config i answers call with
      | none => none
      | some p => serveLoop target config descriptors offset answers i p

/-- Whether a client is idle for too long at the time `after`. -/
def isIdle (config : NativeConfig) (after : ℤ) (slot : Slot) : Bool :=
  after - slot.client.lastActivityMs > config.idleTimeoutMs

lemma closeClient_clients {s : HttpServer} {i : ℕ} (h : i < s.clients.length) :
    (s.closeClient i).clients = s.clients.eraseIdx i := by
  rw [HttpServer.closeClient, List.getElem?_eq_getElem h]
  rfl

/-- The loop over the idle clients, from the index `i` on.  Where a client is closed the next one
comes to its place, and the index stays. -/
def sweepFrom (config : NativeConfig) (after : ℤ) (p : Pass) (i : ℕ) : Pass :=
  if h : i < p.server.clients.length then
    let slot := p.server.clients.get ⟨i, h⟩
    if isIdle config after slot then
      sweepFrom config after
        { server := p.server.closeClient i, calls := p.calls ++ [(slot.connection, .Close)] } i
    else sweepFrom config after p (i + 1)
  else p
termination_by p.server.clients.length - i
decreasing_by
  · rw [closeClient_clients h, List.length_eraseIdx_of_lt h]
    omega
  · omega

/-- The calls for a connection, in their order. -/
def callsOf (p : Pass) (connection : ℕ) : List ClientCall :=
  p.calls.filterMap fun e => if e.1 = connection then some e.2 else none

end Pass

namespace HttpServer

/-- A turn of the loop from `poll` to the idle clients.  The new client of the listener has no
descriptor yet, and the loop goes by the vector as it was made. -/
def dispatch (target : Target) (config : NativeConfig) (s : HttpServer) (outcome : PollTarget → Revents)
    (accepting : Answer) (answers : ℕ → Answer) : Option Pass :=
  let descriptors := s.polled outcome
  match descriptors[0]? with
  | none => none
  | some _ =>
    -- What is in the pipe is thrown away.
    let offset := 1
    if s.listening && offset < descriptors.length then
      match descriptors[offset]? with
      | none => none
      | some listener =>
        let s := if listener.revents.readable then s.acceptClient config accepting else s
        Pass.serveLoop target config descriptors (offset + 1) answers s.clients.length { server := s }
    else Pass.serveLoop target config descriptors offset answers s.clients.length { server := s }

/-- A turn of the loop from `poll` on, with the idle clients closed at its end. -/
def turn (target : Target) (config : NativeConfig) (s : HttpServer) (outcome : PollTarget → Revents)
    (accepting : Answer) (answers : ℕ → Answer) (after : ℤ) : Option Pass :=
  (s.dispatch target config outcome accepting answers).map fun p => p.sweepFrom config after 0

end HttpServer

variable {target : Target} {config : NativeConfig} {s : HttpServer} {p : Pass} {slot : Slot}
  {outcome : PollTarget → Revents} {answers : ℕ → Answer} {descriptors : List Pollfd} {offset : ℕ}
  {front tail : List Slot}

/-! ## The idle clients -/

namespace Pass

end Pass

/-! ## The others -/

namespace Pass

end Pass

/-! ## The vector -/

/-- What `poll` reports of the clients, in their order. -/
def HttpServer.reported (s : HttpServer) (outcome : PollTarget → Revents) : List Revents :=
  s.clients.map fun slot => outcome (.Client slot.connection)

/-- The clients stand behind the pipe, and behind the listener if there is one. -/
lemma polled_revents (s : HttpServer) (outcome : PollTarget → Revents) (i : ℕ) :
    (s.polled outcome)[(if s.listening then 2 else 1) + i]?.map Pollfd.revents =
      (s.reported outcome)[i]? := by
  rw [HttpServer.reported]
  cases hlistening : s.listening with
  | true =>
      rw [if_pos rfl, Nat.add_comm]
      simp [HttpServer.polled, HttpServer.descriptors, hlistening]
      rfl
  | false =>
      rw [if_neg Bool.false_ne_true, Nat.add_comm]
      simp [HttpServer.polled, HttpServer.descriptors, hlistening]
      rfl

lemma length_polled (s : HttpServer) (outcome : PollTarget → Revents) :
    (s.polled outcome).length = (if s.listening then 2 else 1) + s.clients.length := by
  cases hlistening : s.listening with
  | true =>
      simp [HttpServer.polled, HttpServer.descriptors, hlistening]
      omega
  | false =>
      simp [HttpServer.polled, HttpServer.descriptors, hlistening]
      omega

/-- The numbers of the connections tell the clients apart, and the next one is new. -/
structure ConnectionsNumbered (s : HttpServer) : Prop where
  nodup : (s.clients.map Slot.connection).Nodup
  old : ∀ slot ∈ s.clients, slot.connection < s.connections

/-- So they do in every state of the thread. -/
lemma ServerRun.numbered (h : ServerRun target config s) : ConnectionsNumbered s :=
  ⟨h.sound.1.nodup, fun slot hslot => (h.sound.1.living slot hslot).1⟩

/-- The functions do not look at the place the thread is at. -/
lemma closeClient_atPhase (s : HttpServer) (i : ℕ) (phase : ServerPhase) :
    HttpServer.closeClient { s with phase } i = { s.closeClient i with phase } := by
  rw [HttpServer.closeClient, HttpServer.closeClient]
  dsimp only
  cases s.clients[i]? with
  | none => rfl
  | some slot => rfl

lemma acceptClient_atPhase (s : HttpServer) (answer : Answer) (phase : ServerPhase) :
    HttpServer.acceptClient config { s with phase } answer =
      { s.acceptClient config answer with phase } := by
  rw [HttpServer.acceptClient, HttpServer.acceptClient]
  dsimp only
  split_ifs <;> rfl

/-- The step at the listener, where a connection is accepted if one waits and there is room for it. -/
lemma step_listener (s : HttpServer) (acceptable : Bool) (revents : List Revents) (answer : Answer) :
    HttpServer.step target config { s with phase := .Listener acceptable revents } answer =
      let s' := if acceptable then s.acceptClient config answer else s
      { s' with phase := .Clients s'.clients.length revents } := by
  rw [HttpServer.step]
  cases acceptable with
  | true =>
      dsimp only
      rw [if_pos rfl, if_pos rfl, acceptClient_atPhase]
  | false => rfl

lemma call_atPhase (s : HttpServer) (i : ℕ) (answer : Answer) (call : ClientCall)
    (phase : ServerPhase) :
    HttpServer.call target config { s with phase } i answer call =
      { s.call target config i answer call with phase } := by
  cases call with
  | Close => exact closeClient_atPhase s i phase
  | Read =>
      rw [HttpServer.call, HttpServer.call, HttpServer.readClient, HttpServer.readClient]
      dsimp only
      cases hslot : s.clients[i]? with
      | none => rfl
      | some slot =>
          dsimp only
          rcases LegacyAlpha.readClient target config answer.handle slot.client
            (HttpServer.recv answer.received) answer.nowMs with ⟨_ | client, request⟩
          · exact closeClient_atPhase s i phase
          · rfl
  | Write =>
      rw [HttpServer.call, HttpServer.call, HttpServer.writeClient, HttpServer.writeClient]
      dsimp only
      cases hslot : s.clients[i]? with
      | none => rfl
      | some slot =>
          dsimp only
          split_ifs
          · exact closeClient_atPhase s i phase
          · cases answer.sent with
            | Failed again =>
                cases again with
                | true => rfl
                | false => exact closeClient_atPhase s i phase
            | Count n =>
                dsimp only
                split_ifs
                · rfl
                · exact closeClient_atPhase (HttpServer.record
                    { s with clients := s.clients.set i { slot with client := { slot.client with
                        written := slot.client.written +
                          min n (slot.client.output.drop slot.client.written).length
                        lastActivityMs := answer.nowMs } } }
                    slot.connection [.Sent ((slot.client.output.drop slot.client.written).take n)])
                    i phase
                · rfl

lemma serveClient_eq (s : HttpServer) (i : ℕ) (revents : Revents) (answer : Answer) :
    s.serveClient target config i revents answer = match revents.call with
      | none => s
      | some call => s.call target config i answer call := by
  rw [HttpServer.serveClient, Revents.call]
  split_ifs <;> rfl

namespace ServerRun

/-- The loop over the clients, as steps of the server: each round is one of them, from the last client
to the first. -/
lemma serveLoop {revents : List Revents}
    (hhandle : ∀ connection request remoteAddress,
      (answers connection).handle request remoteAddress ≠ []) : ∀ (i : ℕ) (p q : Pass),
    (∀ j < i, (descriptors[offset + j]?.map Pollfd.revents).getD {} = revents.getD j {}) →
    Pass.serveLoop target config descriptors offset answers i p = some q →
    ServerRun target config { p.server with phase := .Clients i revents } →
    ServerRun target config { q.server with phase := .Clients 0 revents } := by
  intro i
  induction i with
  | zero =>
      intro p q _ hloop hrun
      obtain rfl := Option.some.inj hloop
      exact hrun
  | succ i ih =>
      intro p q hrows hloop hrun
      have hrow := hrows i (Nat.lt_succ_self i)
      have hrows' : ∀ j < i, (descriptors[offset + j]?.map Pollfd.revents).getD {} =
          revents.getD j {} := fun j hj => hrows j (Nat.lt_succ_of_lt hj)
      have hevents : (match descriptors[offset + i]? with
          | some descriptor => descriptor.revents
          | none => {}) = revents.getD i {} := by
        rw [← hrow]
        cases descriptors[offset + i]? <;> rfl
      rw [Pass.serveLoop, hevents] at hloop
      have hstep : ∀ answer, HttpServer.step target config
          { p.server with phase := .Clients (i + 1) revents } answer =
            { HttpServer.serveClient target config { p.server with phase := .Clients (i + 1) revents } i
                (revents.getD i {}) answer with phase := .Clients i revents } := fun _ => rfl
      cases hcall : (revents.getD i {}).call with
      | none =>
          rw [hcall] at hloop
          refine ih p q hrows' hloop ?_
          have hnext := ServerRun.step (answers 0) hrun (hhandle 0)
          rw [hstep, serveClient_eq, hcall] at hnext
          exact hnext
      | some call =>
          rw [hcall] at hloop
          dsimp only at hloop
          rw [Pass.perform] at hloop
          cases hslot : p.server.clients[i]? with
          | none =>
              rw [hslot] at hloop
              exact nomatch hloop
          | some slot =>
              rw [hslot] at hloop
              refine ih _ q hrows' hloop ?_
              have hnext := ServerRun.step (answers slot.connection) hrun (hhandle slot.connection)
              rw [hstep, serveClient_eq, hcall] at hnext
              dsimp only at hnext
              rw [call_atPhase] at hnext
              exact hnext

/-- The loop over the idle clients, as steps of the server. -/
lemma sweepFrom (after : ℤ) (p : Pass) (i : ℕ)
    (hrun : ServerRun target config { p.server with phase := .Idle i after }) :
    ServerRun target config { (p.sweepFrom config after i).server with phase := .Top } := by
  let answer : Answer := { handle := fun _ _ => [0] }
  have hhandle : ∀ (request : HttpRequest) (remoteAddress : Bytes),
      answer.handle request remoteAddress ≠ [] := fun _ _ => List.cons_ne_nil _ _
  induction p, i using Pass.sweepFrom.induct config after with
  | case1 p i h slot hidle ih =>
      have hget : p.server.clients[i]? = some slot := List.getElem?_eq_getElem h
      have hnext := ServerRun.step answer hrun hhandle
      rw [Pass.sweepFrom, dif_pos h]
      dsimp only
      rw [if_pos hidle]
      refine ih ?_
      have hclose : HttpServer.step target config { p.server with phase := .Idle i after } answer =
          { p.server.closeClient i with phase := .Idle i after } := by
        rw [HttpServer.step]
        dsimp only
        rw [hget]
        dsimp only
        rw [if_pos (by simpa [Pass.isIdle] using hidle), closeClient_atPhase]
      rwa [hclose] at hnext
  | case2 p i h slot hidle ih =>
      have hget : p.server.clients[i]? = some slot := List.getElem?_eq_getElem h
      have hnext := ServerRun.step answer hrun hhandle
      rw [Pass.sweepFrom, dif_pos h]
      dsimp only
      rw [if_neg hidle]
      refine ih ?_
      have hkeep : HttpServer.step target config { p.server with phase := .Idle i after } answer =
          { p.server with phase := .Idle (i + 1) after } := by
        rw [HttpServer.step]
        dsimp only
        rw [hget]
        dsimp only
        rw [if_neg (by simpa [Pass.isIdle] using hidle)]
      rwa [hkeep] at hnext
  | case3 p i h =>
      have hget : p.server.clients[i]? = none := List.getElem?_eq_none (Nat.le_of_not_lt h)
      have hnext := ServerRun.step answer hrun hhandle
      rw [Pass.sweepFrom, dif_neg h]
      have hend : HttpServer.step target config { p.server with phase := .Idle i after } answer =
          { p.server with phase := .Top } := by
        rw [HttpServer.step]
        dsimp only
        rw [hget]
      rwa [hend] at hnext

/-- `poll` reports what it is asked for, and errors: no room to write where there is nothing to write,
and no input where an answer is to be written. -/
def Asked (s : HttpServer) (outcome : PollTarget → Revents) : Prop :=
  ∀ slot ∈ s.clients,
    if slot.client.output.isEmpty then (outcome (.Client slot.connection)).writable = false
    else (outcome (.Client slot.connection)).readable = false

lemma poll_eq (hasked : Asked s outcome) {answer : Answer}
    (hrevents : ∀ i slot, s.clients[i]? = some slot →
      answer.revents i = outcome (.Client slot.connection)) :
    s.poll answer = s.reported outcome := by
  refine List.ext_getElem? fun i => ?_
  rw [HttpServer.poll, HttpServer.reported, List.getElem?_mapIdx, List.getElem?_map]
  cases hslot : s.clients[i]? with
  | none => rfl
  | some slot =>
      have hslot' := hasked slot (List.mem_of_getElem? hslot)
      rw [Option.map_some, Option.map_some, hrevents i slot hslot]
      split_ifs at hslot' ⊢ with hempty
      · rw [← hslot']
      · rw [← hslot']

/-- The loop from the listener on, as steps of the server that has been woken. -/
lemma turn_of_listener {accepting : Answer} {after : ℤ} {q : Pass}
    (hrun : ServerRun target config { s with
      phase := .Listener (s.listening && (outcome .Listener).readable) (s.reported outcome) })
    (haccepting : ∀ request remoteAddress, accepting.handle request remoteAddress ≠ [])
    (hanswers : ∀ connection request remoteAddress,
      (answers connection).handle request remoteAddress ≠ [])
    (hturn : s.turn target config outcome accepting answers after = some q) :
    ServerRun target config { q.server with phase := .Top } := by
  have hnext := ServerRun.step accepting hrun haccepting
  obtain ⟨p, hdispatch, rfl⟩ := Option.map_eq_some_iff.mp hturn
  have hhead : (s.polled outcome)[0]? = some { watched := .Wake, revents := outcome .Wake } := rfl
  have hrows := fun i => polled_revents s outcome i
  rw [HttpServer.dispatch] at hdispatch
  dsimp only at hdispatch
  rw [hhead] at hdispatch
  dsimp only at hdispatch
  -- What is left is the loop over the clients, from the state the listener leaves.
  have hserve : ∀ (s' : HttpServer) (offset : ℕ), offset = (if s.listening then 2 else 1) →
      Pass.serveLoop target config (s.polled outcome) offset answers s'.clients.length
        { server := s' } = some p →
      ServerRun target config
        { s' with phase := .Clients s'.clients.length (s.reported outcome) } →
      ServerRun target config { (p.sweepFrom config after 0).server with phase := .Top } := by
    rintro s' offset rfl hloop hrun'
    have hserved := serveLoop hanswers s'.clients.length { server := s' } p
      (fun j _ => by rw [hrows, List.getD_eq_getElem?_getD]) hloop hrun'
    refine sweepFrom after p 0 ?_
    exact ServerRun.step { handle := fun _ _ => [0], nowMs := after } hserved
      fun _ _ => List.cons_ne_nil _ _
  cases hlistening : s.listening with
  | true =>
      have hlistener : (s.polled outcome)[1]? =
          some { watched := .Listener, revents := outcome .Listener } := by
        simp [HttpServer.polled, HttpServer.descriptors, hlistening]
      have hlong : (true && decide (1 < (s.polled outcome).length)) = true := by
        rw [length_polled, hlistening]
        simp
        omega
      rw [hlistening, if_pos hlong, hlistener] at hdispatch
      dsimp only at hdispatch
      refine hserve _ 2 (by rw [hlistening, if_pos rfl]) hdispatch ?_
      rw [step_listener, hlistening, Bool.true_and] at hnext
      exact hnext
  | false =>
      rw [hlistening, Bool.false_and, if_neg Bool.false_ne_true] at hdispatch
      refine hserve s 1 (by rw [hlistening, if_neg Bool.false_ne_true]) hdispatch ?_
      rw [step_listener, hlistening, Bool.false_and, if_neg Bool.false_ne_true] at hnext
      exact hnext

/-- **The steps of the thread are this loop**: from a state at the top of the loop, a turn leads to a
state that the steps lead to. -/
theorem turn (hrun : ServerRun target config s) (htop : s.phase = .Top) {answer accepting : Answer}
    {after : ℤ} {q : Pass} (hstopping : answer.stopping = false)
    (hhandle : ∀ request remoteAddress, answer.handle request remoteAddress ≠ [])
    (hacceptable : answer.acceptable = (outcome .Listener).readable)
    (hrevents : ∀ i slot, s.clients[i]? = some slot →
      answer.revents i = outcome (.Client slot.connection)) (hasked : Asked s outcome)
    (haccepting : ∀ request remoteAddress, accepting.handle request remoteAddress ≠ [])
    (hanswers : ∀ connection request remoteAddress,
      (answers connection).handle request remoteAddress ≠ [])
    (hturn : (s.enterLoop answer).turn target config outcome accepting answers after = some q) :
    ServerRun target config { q.server with phase := .Top } := by
  have hnext := ServerRun.step answer hrun hhandle
  have henter : s.step target config answer = s.enterLoop answer := by
    rw [HttpServer.step, htop]
    dsimp only
    rw [hstopping, if_neg Bool.false_ne_true]
  obtain ⟨listening, nextListenAttemptMs, hlisten⟩ := s.enterLoop_eq answer
  have hphase : (s.enterLoop answer).phase =
      .Listener ((s.enterLoop answer).listening && (outcome .Listener).readable)
        ((s.enterLoop answer).reported outcome) := by
    rw [hlisten, ← hacceptable]
    exact congrArg (ServerPhase.Listener _) (poll_eq hasked hrevents)
  refine turn_of_listener ?_ haccepting hanswers hturn
  rw [← hphase, ← henter]
  exact hnext

end ServerRun

end LegacyAlpha
