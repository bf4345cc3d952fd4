import Mathlib.Tactic.Linarith
import LegacyAlphaRemote.Http.Connections

/-!
# How long a connection lasts, and how long a turn takes

`HttpServer::run` once more.  A client that sends a byte now and then is never idle, and there is room
for a few clients only.  But what a client can do is limited: its input is full some time, and its
answer is sent some time.  Each byte gives it no more than the idle time once again
(`TimedRun.lifetime`).

The thread itself is never held up by its clients.  Its loops go through a vector from which they
erase, and come to an end all the same; so it is soon back at the top of its loop, where it sees
whether it is to stop (`ServerRun.stops`).
-/

namespace LegacyAlpha

variable {target : Target} {config : NativeConfig} {s s' : HttpServer} {slot slot' : Slot} {i : ℕ}
  {answer : Answer}

/-! ## A turn comes to an end -/

namespace HttpServer

/-- The steps that are left of this turn, at most: two loops over the clients, the second of which may
close them. -/
def stepsLeft (s : HttpServer) : ℕ :=
  match s.phase with
  | .Top | .Returned => 0
  | .Listener _ _ => 2 * s.clients.length + 5
  | .Clients remaining _ => remaining + s.clients.length + 2
  | .Idle i _ => s.clients.length - i + 1
  | .Closing => s.clients.length + 1

/-- The server after so many steps, each with an answer of its own. -/
def afterSteps (target : Target) (config : NativeConfig) (s : HttpServer) (answers : ℕ → Answer) :
    ℕ → HttpServer
  | 0 => s
  | n + 1 => (s.step target config (answers 0)).afterSteps target config (fun k => answers (k + 1)) n

lemma length_closeClient (s : HttpServer) (i : ℕ) :
    (s.closeClient i).clients.length = s.clients.length - if i < s.clients.length then 1 else 0 := by
  rw [closeClient]
  cases hslot : s.clients[i]? with
  | none =>
      rw [if_neg (not_lt.mpr (List.getElem?_eq_none_iff.mp hslot)), Nat.sub_zero]
  | some slot =>
      obtain ⟨hi, -⟩ := List.getElem?_eq_some_iff.mp hslot
      rw [if_pos hi]
      exact List.length_eraseIdx_of_lt hi

lemma length_closeClient_le (s : HttpServer) (i : ℕ) :
    (s.closeClient i).clients.length ≤ s.clients.length := by
  rw [length_closeClient]
  exact Nat.sub_le _ _

lemma length_serveClient_le (s : HttpServer) (i : ℕ) (revents : Revents) (answer : Answer) :
    (s.serveClient target config i revents answer).clients.length ≤ s.clients.length := by
  rw [serveClient]
  split_ifs
  · exact s.length_closeClient_le i
  · rw [readClient]
    cases s.clients[i]? with
    | none => exact le_rfl
    | some slot =>
        rcases hread : LegacyAlpha.readClient target config answer.handle slot.client
          (recv answer.received) answer.nowMs with ⟨_ | client, request⟩ <;> simp only [hread]
        · exact s.length_closeClient_le i
        · exact (List.length_set ..).le
  · rw [writeClient]
    cases s.clients[i]? with
    | none => exact le_rfl
    | some slot =>
        dsimp only
        split_ifs
        · exact s.length_closeClient_le i
        · cases answer.sent with
          | Failed again =>
              cases again with
              | true => exact le_rfl
              | false => exact s.length_closeClient_le i
          | Count n =>
              dsimp only
              split_ifs
              · exact le_rfl
              · exact (length_closeClient_le _ i).trans (List.length_set ..).le
              · exact (List.length_set ..).le
  · exact le_rfl

lemma length_acceptClient_le (config : NativeConfig) (s : HttpServer) (answer : Answer) :
    (s.acceptClient config answer).clients.length ≤ s.clients.length + 1 := by
  rcases s.acceptClient_clients config answer with hsame | ⟨slot, -, hclients⟩
  · rw [hsame]
    exact Nat.le_succ _
  · rw [hclients, List.length_append]
    exact le_rfl

/-- **Every step of a turn brings its end nearer**, even where a client is erased from under a loop. -/
lemma stepsLeft_step (target : Target) (config : NativeConfig) (answer : Answer)
    (htop : s.phase ≠ .Top) (hreturned : s.phase ≠ .Returned) :
    (s.step target config answer).stepsLeft < s.stepsLeft := by
  rw [step, stepsLeft.eq_def s]
  cases hphase : s.phase with
  | Top => exact absurd hphase htop
  | Returned => exact absurd hphase hreturned
  | Listener acceptable revents =>
      have hlength := s.length_acceptClient_le config answer
      cases acceptable <;> simp only [stepsLeft, Bool.false_eq_true, if_false, if_true] <;> omega
  | Clients remaining revents =>
      cases remaining with
      | zero =>
          simp only [stepsLeft]
          omega
      | succ i =>
          have hlength : (s.serveClient target config i (revents.getD i {}) answer).clients.length ≤
              s.clients.length := s.length_serveClient_le i (revents.getD i {}) answer
          simp only [stepsLeft]
          omega
  | Idle i after =>
      dsimp only
      cases hslot : s.clients[i]? with
      | none => exact Nat.succ_pos _
      | some slot =>
          obtain ⟨hi, -⟩ := List.getElem?_eq_some_iff.mp hslot
          dsimp only
          split_ifs
          · have hlength := s.length_closeClient i
            rw [if_pos hi] at hlength
            rw [stepsLeft, closeClient_phase, hphase]
            dsimp only
            omega
          · simp only [stepsLeft]
            omega
  | Closing =>
      dsimp only
      split_ifs with hempty
      · exact Nat.succ_pos _
      · have hpos : 0 < s.clients.length := List.length_pos_iff.mpr (by simpa using hempty)
        have hlength := s.length_closeClient 0
        rw [if_pos hpos] at hlength
        rw [stepsLeft, closeClient_phase, hphase]
        dsimp only
        omega

lemma afterSteps_add (s : HttpServer) (answers : ℕ → Answer) (m n : ℕ) :
    s.afterSteps target config answers (m + n) =
      (s.afterSteps target config answers m).afterSteps target config (fun k => answers (m + k)) n := by
  induction m generalizing s answers with
  | zero => simp only [Nat.zero_add, afterSteps]
  | succ m ih =>
      rw [Nat.succ_add, afterSteps, afterSteps, ih]
      simp only [Nat.succ_add]

/-- The thread is at the top of its loop again, or is done, when no steps are left. -/
lemma turn_ends (target : Target) (config : NativeConfig) {left : ℕ} (hleft : s.stepsLeft ≤ left)
    (answers : ℕ → Answer) : ∃ n ≤ left,
      (s.afterSteps target config answers n).phase = .Top ∨
        (s.afterSteps target config answers n).phase = .Returned := by
  induction left generalizing s answers with
  | zero =>
      refine ⟨0, le_rfl, ?_⟩
      rw [afterSteps]
      by_contra hmiddle
      push Not at hmiddle
      exact absurd (stepsLeft_step target config (answers 0) hmiddle.1 hmiddle.2)
        (by omega)
  | succ left ih =>
      by_cases hdone : s.phase = .Top ∨ s.phase = .Returned
      · exact ⟨0, Nat.zero_le _, hdone⟩
      · push Not at hdone
        have hless := stepsLeft_step target config (answers 0) hdone.1 hdone.2
        obtain ⟨n, hn, hend⟩ := ih (s := s.step target config (answers 0)) (by omega)
          fun k => answers (k + 1)
        exact ⟨n + 1, Nat.succ_le_succ hn, hend⟩

/-- A thread that closes what is left does so to the end. -/
lemma closing_returns (target : Target) (config : NativeConfig) (answers : ℕ → Answer) {left : ℕ}
    (hphase : s.phase = .Closing) (hleft : s.clients.length ≤ left) : ∃ n ≤ left + 1,
      (s.afterSteps target config answers n).phase = .Returned := by
  induction left generalizing s answers with
  | zero =>
      refine ⟨1, le_rfl, ?_⟩
      have hempty : s.clients = [] := List.length_eq_zero_iff.mp (Nat.le_zero.mp hleft)
      simp [afterSteps, step, hphase, hempty]
  | succ left ih =>
      cases hclients : s.clients with
      | nil =>
          refine ⟨1, by omega, ?_⟩
          simp [afterSteps, step, hphase, hclients]
      | cons slot rest =>
          have hstep : s.step target config (answers 0) = s.closeClient 0 := by
            simp [step, hphase, hclients]
          have hlength := s.length_closeClient 0
          rw [hclients] at hlength hleft
          simp only [List.length_cons, Nat.zero_lt_succ, if_true] at hlength hleft
          obtain ⟨n, hn, hend⟩ := ih (s := s.closeClient 0) (fun k => answers (k + 1))
            ((s.closeClient_phase 0).trans hphase) (by omega)
          refine ⟨n + 1, by omega, ?_⟩
          rw [afterSteps, hstep]
          exact hend

end HttpServer

/-- What a run of the thread becomes. -/
lemma ServerRun.afterSteps (h : ServerRun target config s) {answers : ℕ → Answer}
    (hhandle : ∀ n request remoteAddress, (answers n).handle request remoteAddress ≠ []) (n : ℕ) :
    ServerRun target config (s.afterSteps target config answers n) := by
  induction n generalizing s answers with
  | zero => exact h
  | succ n ih => exact ih (h.step (answers 0) (hhandle 0)) fun k => hhandle (k + 1)

/-- There are few steps in a turn. -/
lemma ServerRun.stepsLeft_le (h : ServerRun target config s) :
    s.stepsLeft ≤ 2 * config.maxClients + 5 := by
  obtain ⟨hsound, hplaced⟩ := h.sound
  have hfew := hsound.few
  rw [HttpServer.Placed] at hplaced
  rw [HttpServer.stepsLeft]
  cases hphase : s.phase with
  | Clients remaining revents =>
      rw [hphase] at hplaced
      obtain ⟨hle, -⟩ := hplaced
      dsimp only
      omega
  | _ =>
      dsimp only
      omega

/-- **The thread is never held up**: whatever its clients do, it is at the top of its loop again after
so many steps; and if it is told to stop, it soon returns, with all connections closed. -/
theorem ServerRun.stops (h : ServerRun target config s) {answers : ℕ → Answer}
    (hhandle : ∀ n request remoteAddress, (answers n).handle request remoteAddress ≠ []) :
    (∃ n ≤ 2 * config.maxClients + 5,
      (s.afterSteps target config answers n).phase = .Top ∨
        (s.afterSteps target config answers n).phase = .Returned) ∧
    ((∀ n, (answers n).stopping = true) → ∃ n ≤ 3 * config.maxClients + 7,
      (s.afterSteps target config answers n).phase = .Returned ∧
        (s.afterSteps target config answers n).clients = []) := by
  obtain ⟨m, hm, hend⟩ := HttpServer.turn_ends target config h.stepsLeft_le answers
  refine ⟨⟨m, hm, hend⟩, fun hstopping => ?_⟩
  have hreturned : ∀ n, (s.afterSteps target config answers n).phase = .Returned →
      (s.afterSteps target config answers n).clients = [] := by
    intro n hphase
    obtain ⟨-, hplaced⟩ := (h.afterSteps hhandle n).sound
    rw [HttpServer.Placed, hphase] at hplaced
    exact hplaced
  rcases hend with htop | hdone
  · -- It sees that it is to stop, and closes what is left.
    obtain ⟨hsound, -⟩ := (h.afterSteps hhandle m).sound
    have hclosing : ((s.afterSteps target config answers m).step target config (answers m)).phase =
        .Closing := by
      simp [HttpServer.step, htop, hstopping]
    have hfew : ((s.afterSteps target config answers m).step target config
        (answers m)).clients.length ≤ config.maxClients := by
      simpa [HttpServer.step, htop, hstopping] using hsound.few
    obtain ⟨n, hn, hend⟩ := HttpServer.closing_returns target config
      (fun k => answers (m + (k + 1))) hclosing hfew
    have hall : s.afterSteps target config answers (m + (n + 1)) =
        ((s.afterSteps target config answers m).step target config (answers m)).afterSteps target config
          (fun k => answers (m + (k + 1))) n := s.afterSteps_add answers m (n + 1)
    exact ⟨m + (n + 1), by omega, hall ▸ hend, hreturned _ (hall ▸ hend)⟩
  · exact ⟨m, by omega, hdone, hreturned m hdone⟩

/-! ## A client gets on or goes -/

/-- How far a connection has come: the bytes it has taken, as far as they count, and those it has
sent. -/
def Slot.progress (config : NativeConfig) (slot : Slot) : ℕ :=
  min slot.client.input.length (config.maxHeaders + config.maxBody + 1) + slot.client.written

/-- A client gets on at this time: it has come further than before, and its idle time starts anew. -/
structure Slot.GetsOn (config : NativeConfig) (nowMs : ℤ) (slot slot' : Slot) : Prop where
  connection : slot'.connection = slot.connection
  progress : slot.progress config < slot'.progress config
  active : slot'.client.lastActivityMs = nowMs

lemma takeChunk_eq (target : Target) (config : NativeConfig) (handle : HttpRequest → Bytes → Bytes)
    (client : Client) (chunk : Bytes) (nowMs : ℤ) :
    ∃ output, (takeChunk target config handle client chunk nowMs).1 =
      { client with lastActivityMs := nowMs, input := client.input ++ chunk, output } := by
  rw [takeChunk]
  dsimp only
  split_ifs
  · exact ⟨_, rfl⟩
  · cases parseHttpRequest target config (client.input ++ chunk) <;> exact ⟨_, rfl⟩

namespace HttpServer

lemma mem_closeClient (h : slot ∈ (s.closeClient i).clients) : slot ∈ s.clients := by
  rw [closeClient] at h
  cases hslot : s.clients[i]? with
  | none =>
      rw [hslot] at h
      exact h
  | some slot' =>
      rw [hslot] at h
      exact List.mem_of_mem_eraseIdx h

/-- A client from which bytes arrive gets on, as long as it has not been answered. -/
lemma readClient_getsOn (h : Sound config s)
    (hunanswered : ∀ slot, s.clients[i]? = some slot → slot.client.output = [])
    (hslot' : slot' ∈ (s.readClient target config i answer).clients) :
    slot' ∈ s.clients ∨ ∃ slot ∈ s.clients, slot.GetsOn config answer.nowMs slot' := by
  rw [readClient] at hslot'
  cases hslot : s.clients[i]? with
  | none =>
      rw [hslot] at hslot'
      exact Or.inl hslot'
  | some slot =>
      have hold : slot ∈ s.clients := List.mem_of_getElem? hslot
      obtain ⟨-, hliving⟩ := h.living slot hold
      obtain ⟨-, hshort⟩ := hliving.unanswered (hunanswered slot hslot)
      rw [hslot] at hslot'
      simp only [LegacyAlpha.readClient] at hslot'
      cases hreceived : recv answer.received with
      | Failed again =>
          rw [hreceived] at hslot'
          cases again with
          | false => exact Or.inl (mem_closeClient hslot')
          | true =>
              rcases List.mem_or_eq_of_mem_set hslot' with hmem | rfl
              · exact Or.inl hmem
              · exact Or.inl hold
      | Data chunk =>
          rw [hreceived] at hslot'
          by_cases hempty : chunk.isEmpty = true
          · simp only [hempty, if_true] at hslot'
            exact Or.inl (mem_closeClient hslot')
          · simp only [hempty, Bool.false_eq_true, if_false] at hslot'
            rcases List.mem_or_eq_of_mem_set hslot' with hmem | rfl
            · exact Or.inl hmem
            · obtain ⟨output, htaken⟩ := takeChunk_eq target config answer.handle slot.client chunk
                answer.nowMs
              have hpos : 0 < chunk.length := List.length_pos_iff.mpr (by simpa using hempty)
              refine Or.inr ⟨slot, hold, rfl, ?_, ?_⟩
              · rw [Slot.progress, Slot.progress, htaken]
                simp only [List.length_append]
                omega
              · rw [htaken]

/-- A client to which bytes are sent gets on. -/
lemma writeClient_getsOn (hslot' : slot' ∈ (s.writeClient i answer).clients) :
    slot' ∈ s.clients ∨ ∃ slot ∈ s.clients, slot.GetsOn config answer.nowMs slot' := by
  rw [writeClient] at hslot'
  cases hslot : s.clients[i]? with
  | none =>
      rw [hslot] at hslot'
      exact Or.inl hslot'
  | some slot =>
      have hold : slot ∈ s.clients := List.mem_of_getElem? hslot
      rw [hslot] at hslot'
      dsimp only at hslot'
      split_ifs at hslot' with hdone
      · exact Or.inl (mem_closeClient hslot')
      cases hsent : answer.sent with
      | Failed again =>
          rw [hsent] at hslot'
          cases again with
          | true => exact Or.inl hslot'
          | false => exact Or.inl (mem_closeClient hslot')
      | Count n =>
          rw [hsent] at hslot'
          let left := (slot.client.output.drop slot.client.written).length
          have hset : 0 < min n left → ∀ slot' ∈ s.clients.set i { slot with client := {
              slot.client with
              written := slot.client.written + min n left, lastActivityMs := answer.nowMs } },
              slot' ∈ s.clients ∨ ∃ slot ∈ s.clients, slot.GetsOn config answer.nowMs slot' := by
            intro hpos slot' hslot'
            rcases List.mem_or_eq_of_mem_set hslot' with hmem | rfl
            · exact Or.inl hmem
            · exact Or.inr ⟨slot, hold, rfl, by simp only [Slot.progress]; omega, rfl⟩
          dsimp only at hslot'
          split_ifs at hslot' with hnone hall
          · exact Or.inl hslot'
          · exact hset (Nat.pos_of_ne_zero hnone) slot' (mem_closeClient hslot')
          · exact hset (Nat.pos_of_ne_zero hnone) slot' hslot'

/-- **What is done about a client**: each that is left is as it was, or gets on. -/
lemma serveClient_getsOn (h : Sound config s) {revents : Revents}
    (hasked : ∀ slot, s.clients[i]? = some slot → revents.readable = true → slot.client.output = [])
    (hslot' : slot' ∈ (s.serveClient target config i revents answer).clients) :
    slot' ∈ s.clients ∨ ∃ slot ∈ s.clients, slot.GetsOn config answer.nowMs slot' := by
  rw [serveClient] at hslot'
  split_ifs at hslot' with hbroken hreadable hwritable
  · exact Or.inl (mem_closeClient hslot')
  · exact readClient_getsOn h (fun slot hslot => hasked slot hslot hreadable) hslot'
  · exact writeClient_getsOn hslot'
  · exact Or.inl hslot'

end HttpServer

/-! ## Time -/

/-- The server in time: when it is, when the thread last took the time to look for idle clients, and
when each connection was accepted. -/
structure TimedServer where
  server : HttpServer
  nowMs : ℤ
  sweptMs : ℤ
  acceptedMs : ℕ → ℤ

/-- The thread takes the time to look for idle clients, which it does once in a turn, after the loop
over all clients. -/
def ServerPhase.sweeps : ServerPhase → Bool
  | .Clients 0 _ => true
  | _ => false

/-- A step, at its time.  The time of the last look and the times of the connections are written down
beside the server. -/
def TimedServer.next (target : Target) (config : NativeConfig) (t : TimedServer) (answer : Answer) :
    TimedServer where
  server := t.server.step target config answer
  nowMs := answer.nowMs
  sweptMs := if t.server.phase.sweeps then answer.nowMs else t.sweptMs
  acceptedMs connection :=
    if connection < t.server.connections then t.acceptedMs connection else answer.nowMs

/-- The runs of the thread in time.  The clock never goes back, and a turn takes no longer than
`period`: that soon the thread looks for idle clients again. -/
inductive TimedRun (target : Target) (config : NativeConfig) (period : ℤ) : TimedServer → Prop
  | init (nextListenAttemptMs nowMs : ℤ) :
      TimedRun target config period
        { server := { nextListenAttemptMs }, nowMs, sweptMs := nowMs, acceptedMs := fun _ => nowMs }
  | step {t : TimedServer} (answer : Answer) : TimedRun target config period t →
      (∀ request remoteAddress, answer.handle request remoteAddress ≠ []) →
      t.nowMs ≤ answer.nowMs → answer.nowMs ≤ t.sweptMs + period →
      TimedRun target config period (t.next target config answer)

variable {period : ℤ} {t : TimedServer}

/-- It is a run of the thread. -/
lemma TimedRun.serverRun (h : TimedRun target config period t) : ServerRun target config t.server := by
  induction h with
  | init nextListenAttemptMs nowMs => exact .init nextListenAttemptMs
  | step answer _ hhandle _ _ ih => exact ih.step answer hhandle

/-- The clients that the thread has looked at last: all of them, unless it is looking. -/
def HttpServer.looked (s : HttpServer) : List Slot :=
  match s.phase with
  | .Idle i _ => s.clients.take i
  | _ => s.clients

lemma HttpServer.looked_idle {after : ℤ} (h : s.phase = .Idle i after) :
    s.looked = s.clients.take i := by
  rw [looked, h]

/-- No client that the thread has looked at was idle, and each has got on once for every time it was
not. -/
structure Aged (config : NativeConfig) (period : ℤ) (t : TimedServer) : Prop where
  swept_le : t.sweptMs ≤ t.nowMs
  now_le : t.nowMs ≤ t.sweptMs + period
  looked : ∀ slot ∈ t.server.looked, t.sweptMs - slot.client.lastActivityMs ≤ config.idleTimeoutMs
  recent : ∀ slot ∈ t.server.clients,
    t.sweptMs - slot.client.lastActivityMs ≤ config.idleTimeoutMs + period
  aged : ∀ slot ∈ t.server.clients, slot.client.lastActivityMs - t.acceptedMs slot.connection ≤
    slot.progress config * (config.idleTimeoutMs + period)
  after : ∀ i after, t.server.phase = .Idle i after → after = t.sweptMs

namespace HttpServer

lemma acceptClient_slots (hslot' : slot' ∈ (s.acceptClient config answer).clients) :
    slot' ∈ s.clients ∨
      slot'.connection = s.connections ∧ slot'.client.lastActivityMs = answer.nowMs := by
  rw [acceptClient] at hslot'
  dsimp only at hslot'
  split_ifs at hslot'
  · exact Or.inl hslot'
  · exact Or.inl hslot'
  · rcases List.mem_append.mp hslot' with hold | hnew
    · exact Or.inl hold
    · obtain rfl := List.mem_singleton.mp hnew
      exact Or.inr ⟨rfl, rfl⟩

end HttpServer

/-- A step that is no part of the loop over the idle clients. -/
lemma Aged.awake (h : Aged config period t) (hsound : Sound config t.server)
    (hidle : 0 ≤ config.idleTimeoutMs) (hlooked : t.server.looked = t.server.clients)
    (hsweeps : t.server.phase.sweeps = false)
    (hphase : ∀ i after, (t.server.step target config answer).phase ≠ .Idle i after)
    (hslots : ∀ slot' ∈ (t.server.step target config answer).clients, slot' ∈ t.server.clients ∨
      (∃ slot ∈ t.server.clients, slot.GetsOn config answer.nowMs slot') ∨
      slot'.connection = t.server.connections ∧ slot'.client.lastActivityMs = answer.nowMs)
    (hnow : t.nowMs ≤ answer.nowMs) (hperiod : answer.nowMs ≤ t.sweptMs + period) :
    Aged config period (t.next target config answer) := by
  have hswept : (t.next target config answer).sweptMs = t.sweptMs := by
    rw [TimedServer.next, hsweeps]
    rfl
  have hall : ∀ slot' ∈ (t.server.step target config answer).clients,
      t.sweptMs - slot'.client.lastActivityMs ≤ config.idleTimeoutMs := by
    intro slot' hslot'
    have hle := h.swept_le
    rcases hslots slot' hslot' with hold | ⟨slot, -, hgets⟩ | ⟨-, hactive⟩
    · exact h.looked slot' (hlooked ▸ hold)
    · rw [hgets.active]
      omega
    · rw [hactive]
      omega
  have hpos : 0 ≤ config.idleTimeoutMs + period := by
    have hle := h.swept_le
    omega
  refine ⟨?_, ?_, ?_, ?_, ?_, ?_⟩
  · rw [hswept]
    exact h.swept_le.trans hnow
  · rw [hswept]
    exact hperiod
  · intro slot' hslot'
    rw [hswept]
    refine hall slot' ?_
    rw [HttpServer.looked] at hslot'
    split at hslot'
    · next i after hi => exact absurd hi (hphase i after)
    · exact hslot'
  · intro slot' hslot'
    rw [hswept]
    have hlong := hall slot' hslot'
    have hle := h.swept_le
    omega
  · intro slot' hslot'
    rcases hslots slot' hslot' with hold | ⟨slot, hslot, hgets⟩ | ⟨hnew, hactive⟩
    · obtain ⟨hlt, -⟩ := hsound.living slot' hold
      simp only [TimedServer.next, if_pos hlt]
      exact h.aged slot' hold
    · obtain ⟨hlt, -⟩ := hsound.living slot hslot
      have haged := h.aged slot hslot
      have hlong := h.looked slot (hlooked ▸ hslot)
      simp only [TimedServer.next, hgets.connection, if_pos hlt, hgets.active]
      have hprogress : (slot.progress config : ℤ) + 1 ≤ slot'.progress config := by
        exact_mod_cast hgets.progress
      calc answer.nowMs - t.acceptedMs slot.connection
          ≤ (slot.progress config + 1) * (config.idleTimeoutMs + period) := by linarith
        _ ≤ slot'.progress config * (config.idleTimeoutMs + period) :=
            mul_le_mul_of_nonneg_right hprogress hpos
    · simp only [TimedServer.next, hnew, lt_irrefl, if_false, hactive, sub_self]
      exact mul_nonneg (Int.natCast_nonneg _) hpos
  · intro i after hi
    exact absurd hi (hphase i after)

/-- A step after which the clients are those of before, or fewer, and none is older. -/
lemma Aged.fewer (h : Aged config period t) (hsound : Sound config t.server)
    (hsweeps : t.server.phase.sweeps = false)
    (hslots : ∀ slot ∈ (t.server.step target config answer).clients, slot ∈ t.server.clients)
    (hlooked : ∀ slot ∈ (t.server.step target config answer).looked,
      t.sweptMs - slot.client.lastActivityMs ≤ config.idleTimeoutMs)
    (hafter : ∀ i after, (t.server.step target config answer).phase = .Idle i after →
      after = t.sweptMs)
    (hnow : t.nowMs ≤ answer.nowMs) (hperiod : answer.nowMs ≤ t.sweptMs + period) :
    Aged config period (t.next target config answer) := by
  have hswept : (t.next target config answer).sweptMs = t.sweptMs := by
    rw [TimedServer.next, hsweeps]
    rfl
  refine ⟨?_, ?_, ?_, ?_, ?_, ?_⟩
  · rw [hswept]
    exact h.swept_le.trans hnow
  · rw [hswept]
    exact hperiod
  · rw [hswept]
    exact hlooked
  · rw [hswept]
    exact fun slot hslot => h.recent slot (hslots slot hslot)
  · intro slot hslot
    obtain ⟨hlt, -⟩ := hsound.living slot (hslots slot hslot)
    simp only [TimedServer.next, if_pos hlt]
    exact h.aged slot (hslots slot hslot)
  · rw [hswept]
    exact hafter

/-- The loop over the idle clients: the client it looks at is closed, or was not idle. -/
lemma Aged.idle (h : Aged config period t) (hsound : Sound config t.server) {after : ℤ}
    (hphase : t.server.phase = .Idle i after) (hnow : t.nowMs ≤ answer.nowMs)
    (hperiod : answer.nowMs ≤ t.sweptMs + period) :
    Aged config period (t.next target config answer) := by
  have hsweeps : t.server.phase.sweeps = false := by
    rw [hphase]
    rfl
  have hlooked := h.looked
  obtain rfl := h.after i after hphase
  rw [HttpServer.looked_idle hphase] at hlooked
  cases hslot : t.server.clients[i]? with
  | none =>
      have hstep : t.server.step target config answer = { t.server with phase := .Top } := by
        simp only [HttpServer.step, hphase, hslot]
      have hall : t.server.clients.take i = t.server.clients :=
        List.take_of_length_le (List.getElem?_eq_none_iff.mp hslot)
      refine h.fewer hsound hsweeps ?_ ?_ ?_ hnow hperiod <;> rw [hstep]
      · exact fun slot hslot => hslot
      · exact fun slot hslot => hlooked slot (hall.symm ▸ hslot)
      · exact fun _ _ hidle => ServerPhase.noConfusion hidle
  | some slot =>
      by_cases hidle : t.sweptMs - slot.client.lastActivityMs > config.idleTimeoutMs
      · have hstep : t.server.step target config answer = t.server.closeClient i := by
          simp only [HttpServer.step, hphase, hslot, if_pos hidle]
        have hphase' : (t.server.closeClient i).phase = .Idle i t.sweptMs :=
          (t.server.closeClient_phase i).trans hphase
        refine h.fewer hsound hsweeps ?_ ?_ ?_ hnow hperiod <;> rw [hstep]
        · exact fun slot hslot => HttpServer.mem_closeClient hslot
        · intro slot' hslot'
          rw [HttpServer.looked_idle hphase'] at hslot'
          refine hlooked slot' ?_
          -- What is before the place of the client that is closed stays there.
          have hsame : (t.server.closeClient i).clients = t.server.clients.eraseIdx i := by
            rw [HttpServer.closeClient, hslot]
            rfl
          rw [hsame] at hslot'
          rwa [List.take_eraseIdx_eq_take_of_le _ _ _ le_rfl] at hslot'
        · intro j after hj
          rw [hphase'] at hj
          exact (ServerPhase.Idle.inj hj).2.symm
      · have hstep : t.server.step target config answer =
            { t.server with phase := .Idle (i + 1) t.sweptMs } := by
          simp only [HttpServer.step, hphase, hslot, if_neg hidle]
        refine h.fewer hsound hsweeps ?_ ?_ ?_ hnow hperiod <;> rw [hstep]
        · exact fun slot hslot => hslot
        · intro slot' hslot'
          rw [HttpServer.looked_idle rfl, List.take_add_one, hslot] at hslot'
          rcases List.mem_append.mp hslot' with hold | hnew
          · exact hlooked slot' hold
          · obtain rfl := List.mem_singleton.mp hnew
            exact not_lt.mp hidle
        · intro j after hj
          exact (ServerPhase.Idle.inj hj).2.symm

/-- The thread takes the time, which is no later than a turn after the last time. -/
lemma Aged.sweep (h : Aged config period t) (hsound : Sound config t.server)
    {revents : List Revents} (hphase : t.server.phase = .Clients 0 revents)
    (hnow : t.nowMs ≤ answer.nowMs) (hperiod : answer.nowMs ≤ t.sweptMs + period) :
    Aged config period (t.next target config answer) := by
  have hstep : t.server.step target config answer =
      { t.server with phase := .Idle 0 answer.nowMs } := by
    simp only [HttpServer.step, hphase]
  have hlooked : t.server.looked = t.server.clients := by rw [HttpServer.looked, hphase]
  have hswept : (t.next target config answer).sweptMs = answer.nowMs := by
    rw [TimedServer.next, hphase]
    rfl
  have hle := h.swept_le
  refine ⟨hswept.le, ?_, ?_, ?_, ?_, ?_⟩
  · rw [hswept]
    show answer.nowMs ≤ answer.nowMs + period
    omega
  · intro slot hslot
    simp only [TimedServer.next, hstep, HttpServer.looked, List.take_zero] at hslot
    cases hslot
  · intro slot hslot
    rw [TimedServer.next, hstep] at hslot
    have hlong := h.looked slot (hlooked.symm ▸ hslot)
    rw [hswept]
    omega
  · intro slot hslot
    rw [TimedServer.next, hstep] at hslot
    obtain ⟨hlt, -⟩ := hsound.living slot hslot
    simp only [TimedServer.next, if_pos hlt]
    exact h.aged slot hslot
  · intro i after hi
    rw [hswept]
    rw [TimedServer.next, hstep] at hi
    exact (ServerPhase.Idle.inj hi).2.symm

/-- A step of `run` keeps the record of how old the connections are. -/
lemma Aged.step (h : Aged config period t) (hsound : Sound config t.server)
    (hplaced : t.server.Placed) (hidle : 0 ≤ config.idleTimeoutMs) (hnow : t.nowMs ≤ answer.nowMs)
    (hperiod : answer.nowMs ≤ t.sweptMs + period) :
    Aged config period (t.next target config answer) := by
  rw [HttpServer.Placed] at hplaced
  cases hphase : t.server.phase with
  | Idle i after => exact h.idle hsound hphase hnow hperiod
  | Clients remaining revents =>
      rw [hphase] at hplaced
      obtain ⟨-, hpolled⟩ := hplaced
      cases remaining with
      | zero => exact h.sweep hsound hphase hnow hperiod
      | succ i =>
          have hstep : t.server.step target config answer = { t.server.serveClient target config i
              (revents.getD i {}) answer with phase := .Clients i revents } := by
            simp only [HttpServer.step, hphase]
          refine h.awake hsound hidle (by rw [HttpServer.looked, hphase]) (by rw [hphase]; rfl) ?_ ?_
            hnow hperiod <;> rw [hstep]
          · exact fun _ _ => by simp
          · intro slot' hslot'
            rcases HttpServer.serveClient_getsOn hsound (hpolled i (Nat.lt_succ_self i)) hslot' with
              hold | hgets
            · exact Or.inl hold
            · exact Or.inr (Or.inl hgets)
  | Listener acceptable revents =>
      have hclients : (t.server.step target config answer).clients =
          (if acceptable then t.server.acceptClient config answer else t.server).clients := by
        simp only [HttpServer.step, hphase]
      refine h.awake hsound hidle (by rw [HttpServer.looked, hphase]) (by rw [hphase]; rfl) ?_ ?_
        hnow hperiod
      · exact fun _ _ => by simp [HttpServer.step, hphase]
      · intro slot' hslot'
        rw [hclients] at hslot'
        split_ifs at hslot'
        · rcases HttpServer.acceptClient_slots hslot' with hold | hnew
          · exact Or.inl hold
          · exact Or.inr (Or.inr hnew)
        · exact Or.inl hslot'
  | Top =>
      refine h.awake hsound hidle (by rw [HttpServer.looked, hphase]) (by rw [hphase]; rfl) ?_ ?_
        hnow hperiod
      · intro i after
        simp only [HttpServer.step, hphase]
        split_ifs <;> simp [HttpServer.enterLoop]
      · intro slot' hslot'
        simp only [HttpServer.step, hphase] at hslot'
        split_ifs at hslot'
        · exact Or.inl hslot'
        · obtain ⟨listening, nextListenAttemptMs, henter⟩ := t.server.enterLoop_eq answer
          rw [henter] at hslot'
          exact Or.inl hslot'
  | Closing =>
      refine h.awake hsound hidle (by rw [HttpServer.looked, hphase]) (by rw [hphase]; rfl) ?_ ?_
        hnow hperiod
      · intro i after
        simp only [HttpServer.step, hphase]
        split_ifs <;> simp [HttpServer.closeClient_phase, hphase]
      · intro slot' hslot'
        simp only [HttpServer.step, hphase] at hslot'
        split_ifs at hslot'
        · exact Or.inl hslot'
        · exact Or.inl (HttpServer.mem_closeClient hslot')
  | Returned =>
      refine h.awake hsound hidle (by rw [HttpServer.looked, hphase]) (by rw [hphase]; rfl) ?_ ?_
        hnow hperiod
      · exact fun _ _ => by simp [HttpServer.step, hphase]
      · intro slot' hslot'
        simp only [HttpServer.step, hphase] at hslot'
        exact Or.inl hslot'

/-- The record holds in every state of every run in time. -/
lemma TimedRun.isAged (h : TimedRun target config period t) (hidle : 0 ≤ config.idleTimeoutMs)
    (hperiod : 0 ≤ period) : Aged config period t := by
  induction h with
  | init nextListenAttemptMs nowMs =>
      refine ⟨le_rfl, by simpa using hperiod, ?_, ?_, ?_, ?_⟩
      · exact fun slot hslot => nomatch hslot
      · exact fun slot hslot => nomatch hslot
      · exact fun slot hslot => nomatch hslot
      · exact fun _ _ hi => nomatch hi
  | step answer hrun _ hnow hlate ih =>
      obtain ⟨hsound, hplaced⟩ := hrun.serverRun.sound
      exact ih.step hsound hplaced hidle hnow hlate

/-- **No connection lasts for ever**: one that is open has been so for no longer than this, which
grows with its answer.  Before its idle time is over it has taken a byte that counts, or sent one, and
of both there is a limit. -/
theorem TimedRun.lifetime (h : TimedRun target config period t) (hidle : 0 ≤ config.idleTimeoutMs)
    (hperiod : 0 ≤ period) (hslot : slot ∈ t.server.clients) :
    t.nowMs - t.acceptedMs slot.connection ≤
      (config.maxHeaders + config.maxBody + slot.client.output.length + 2 : ℕ) *
        (config.idleTimeoutMs + period) + period := by
  have haged := h.isAged hidle hperiod
  obtain ⟨hsound, -⟩ := h.serverRun.sound
  obtain ⟨-, hliving⟩ := hsound.living slot hslot
  have hwritten := hliving.written
  have hprogress : (slot.progress config : ℤ) + 1 ≤
      (config.maxHeaders + config.maxBody + slot.client.output.length + 2 : ℕ) := by
    rw [Slot.progress]
    omega
  have hnow := haged.now_le
  have hrecent := haged.recent slot hslot
  have hactive := haged.aged slot hslot
  calc t.nowMs - t.acceptedMs slot.connection
      ≤ (slot.progress config + 1) * (config.idleTimeoutMs + period) + period := by linarith
    _ ≤ (config.maxHeaders + config.maxBody + slot.client.output.length + 2 : ℕ) *
          (config.idleTimeoutMs + period) + period := by
        have := mul_le_mul_of_nonneg_right hprogress (add_nonneg hidle hperiod)
        linarith

/-- What the thread learns when the handler answers every request with one byte. -/
def oneByte (answer : Answer) : Answer := { answer with handle := fun _ _ => [0] }

/-- The server while a client has come and says nothing, 200 milliseconds after it was accepted. -/
def silent : TimedServer :=
  [oneByte { nowMs := 1000, acceptable := true }, oneByte { nowMs := 1000, fd := 7 },
    oneByte { nowMs := 1200 }].foldl (TimedServer.next .armeabi {})
      { server := { nextListenAttemptMs := 0 }, nowMs := 1000, sweptMs := 1000
        acceptedMs := fun _ => 1000 }

lemma oneByte_handle (answer : Answer) (request : HttpRequest) (remoteAddress : Bytes) :
    (oneByte answer).handle request remoteAddress ≠ [] :=
  List.cons_ne_nil 0 []

lemma silent_run : TimedRun .armeabi {} 250 silent := by
  refine .step _ (.step _ (.step _ (.init 0 1000) (oneByte_handle _) ?_ ?_) (oneByte_handle _) ?_ ?_)
    (oneByte_handle _) ?_ ?_ <;> decide

theorem lifetime_silent : ∃ slot ∈ silent.server.clients,
    silent.nowMs - silent.acceptedMs slot.connection = 200 ∧
      silent.nowMs - silent.acceptedMs slot.connection ≤
        (12288 + slot.client.output.length + 2 : ℕ) * 5250 + 250 := by
  have hsilent : ∀ slot ∈ silent.server.clients,
      silent.nowMs - silent.acceptedMs slot.connection = 200 := by decide
  obtain ⟨slot, hslot⟩ := List.exists_mem_of_ne_nil silent.server.clients (by decide)
  exact ⟨slot, hslot, hsilent slot hslot, silent_run.lifetime (by decide) (by decide) hslot⟩

/-- The thread is told to stop, at every step from now on. -/
def told (_ : ℕ) : Answer := oneByte { stopping := true }

theorem stops_silent : silent.server.clients ≠ [] ∧ ∃ n ≤ 19,
    (silent.server.afterSteps .armeabi {} told n).clients = [] := by
  obtain ⟨-, hstops⟩ := silent_run.serverRun.stops fun n => oneByte_handle { stopping := true }
  obtain ⟨n, hn, -, hclients⟩ := hstops fun _ => rfl
  exact ⟨by decide, n, hn, hclients⟩

end LegacyAlpha
