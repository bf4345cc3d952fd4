import LegacyAlphaRemote.Http.Connections
import LegacyAlphaRemote.Runtime.NativeRuntime

/-!
# Where the server listens

At the beginning of each turn of its loop the server thread asks the runtime whether it is ready.  It
closes its listener if it is not, and opens one if it has none, on the address that the runtime names.
An open listener is left alone, whatever the address has become (`HttpServer::run`, `openListener`,
`NativeRuntime::serverReady`, `listenAddress` and `setWifiState`).

The operations of the runtime and the steps of the thread are interleaved in any order
(`ListenerRun`).  `listener_agrees_iff` says which operations the listener can follow: while it is open
on an address that is not the runtime's any more, the runtime must not be ready, and the thread must
not be on its way.  `not_listener_agrees_reconnected` is a network that comes back with another address
between two turns of the loop.
-/

namespace LegacyAlpha

/-- `serverReady`: there is a session, with the camera and with the network. -/
def NativeRuntime.serverReady (rt : NativeRuntime) : Bool :=
  rt.started && rt.machine.cameraReady && rt.machine.wifiReady

/-- The address that `openListener` binds to, where `aton` is `inet_aton` and 0 is `INADDR_ANY`. -/
def bindAddress (aton : Bytes → Option UInt32) (address : Bytes) : UInt32 :=
  if address.isEmpty || address == bytes "0.0.0.0" then 0
  else
    match aton address with
    | some ip => ip
    | none => 0

/-- Where the thread is: outside of the listener step, about to call `listenAddress`, in
`openListener`, or at the end of a listener step in which the runtime was ready. -/
inductive ListenerStage
  | Loop
  | Asking (nowMs : ℤ)
  | Opening (nowMs : ℤ) (address : Bytes)
  | Ended
  deriving DecidableEq, Repr

/-- What the thread learns in a step: whether it is to stop, the time, and whether `bind` and `listen`
succeed. -/
structure ListenerAnswer where
  stopping : Bool := false
  nowMs : ℤ := 0
  opened : Bool := true

/-- The runtime, and what the server thread has of its listener: the address it is bound to. -/
structure ListenerSystem where
  runtime : NativeRuntime
  listener : Option UInt32 := none
  nextListenAttemptMs : ℤ := 0
  stage : ListenerStage := .Loop

namespace ListenerSystem

/-- An operation of the runtime.  The end of a listener step is over when something happens. -/
def operate (assets : Assets) (target : Target) (config : NativeConfig) (s : ListenerSystem)
    (op : RuntimeOp) (clock : ℕ → ℤ) (answers : ℕ → Bool) : ListenerSystem :=
  { s with
    runtime := (s.runtime.step assets target config op clock answers).after
    stage := if s.stage = .Ended then .Loop else s.stage }

/-- A step of the thread.  One that stops closes its listener, and the next one begins without. -/
def serve (aton : Bytes → Option UInt32) (s : ListenerSystem) (answer : ListenerAnswer) :
    ListenerSystem :=
  match s.stage with
  | .Loop =>
      if answer.stopping then { s with listener := none }
      else if !s.runtime.serverReady then { s with listener := none }
      else if s.listener.isNone && answer.nowMs ≥ s.nextListenAttemptMs then
        { s with stage := .Asking answer.nowMs }
      else { s with stage := .Ended }
  | .Asking nowMs => { s with stage := .Opening nowMs s.runtime.address }
  | .Opening nowMs address =>
      if answer.opened then { s with listener := some (bindAddress aton address), stage := .Ended }
      else { s with nextListenAttemptMs := nowMs + 1000, stage := .Ended }
  | .Ended => { s with stage := .Loop }

end ListenerSystem

/-- The states that are reached when the operations of the runtime lead only to states that are
allowed. -/
inductive ListenerRun (aton : Bytes → Option UInt32) (assets : Assets) (target : Target)
    (config : NativeConfig) (allowed : ListenerSystem → Prop) : ListenerSystem → Prop
  | init : ListenerRun aton assets target config allowed { runtime := .new config }
  | operate {s : ListenerSystem} (op : RuntimeOp) (clock : ℕ → ℤ) (answers : ℕ → Bool) :
      ListenerRun aton assets target config allowed s →
      allowed (s.operate assets target config op clock answers) →
      ListenerRun aton assets target config allowed
        (s.operate assets target config op clock answers)
  | serve {s : ListenerSystem} (answer : ListenerAnswer) :
      ListenerRun aton assets target config allowed s →
      ListenerRun aton assets target config allowed (s.serve aton answer)

/-! ## Agreement -/

/-- At the end of the listener step, a listener on a specific address is where the runtime says. -/
def ListenerAgrees (aton : Bytes → Option UInt32) (s : ListenerSystem) : Prop :=
  s.stage = .Ended → ∀ ip, s.listener = some ip → ip ≠ 0 →
    bindAddress aton s.runtime.address = ip

/-- The address at which the listener is, or is about to be when the thread has asked for it already.
-/
def ListenerSystem.bound (aton : Bytes → Option UInt32) (s : ListenerSystem) : Option UInt32 :=
  match s.stage with
  | .Opening _ address => some (bindAddress aton address)
  | _ => s.listener

/-- The listener is on a specific address, or about to be, that is not the runtime's any more. -/
def Stale (aton : Bytes → Option UInt32) (s : ListenerSystem) : Prop :=
  ∃ ip, s.bound aton = some ip ∧ ip ≠ 0 ∧ bindAddress aton s.runtime.address ≠ ip

/-- A stale listener can wait until it is closed: the runtime is not ready, and the thread sees that
in its next turn. -/
def CanFollow (aton : Bytes → Option UInt32) (s : ListenerSystem) : Prop :=
  Stale aton s → s.stage = .Loop ∧ s.runtime.serverReady = false

variable {aton : Bytes → Option UInt32} {assets : Assets} {target : Target} {config : NativeConfig}
  {allowed : ListenerSystem → Prop} {s : ListenerSystem}

/-- The thread opens a listener only when it has none. -/
lemma ListenerRun.listener_eq_none (hrun : ListenerRun aton assets target config allowed s) :
    (∀ nowMs, s.stage = .Asking nowMs → s.listener = none) ∧
      ∀ nowMs address, s.stage = .Opening nowMs address → s.listener = none := by
  induction hrun with
  | init => simp
  | @operate s op clock answers hrun hallowed ih =>
      rw [ListenerSystem.operate]
      dsimp only
      split_ifs
      · simp
      · exact ih
  | @serve s answer hrun ih =>
      rw [ListenerSystem.serve]
      cases hstage : s.stage with
      | Loop =>
          dsimp only
          split_ifs with hstopping hready hnone
          · simp
          · simp
          · simp at hnone
            simp [hnone.1]
          · simp
      | Asking nowMs => simp [ih.1 nowMs hstage]
      | Opening nowMs address =>
          dsimp only
          split_ifs <;> simp
      | Ended => simp

lemma not_stale_of_bound (h : s.bound aton = none) : ¬ Stale aton s := by
  rintro ⟨ip, hbound, -⟩
  exact nomatch h.symm.trans hbound

/-- **What the thread does makes no listener stale**, and it goes on its way only with one that is
not. -/
lemma CanFollow.serve (h : CanFollow aton s)
    (hnone : ∀ nowMs address, s.stage = .Opening nowMs address → s.listener = none)
    (answer : ListenerAnswer) : CanFollow aton (s.serve aton answer) := by
  have hbefore : ∀ s' : ListenerSystem, s'.runtime = s.runtime → s'.bound aton = s.bound aton →
      Stale aton s' → s.stage = .Loop ∧ s.runtime.serverReady = false := by
    intro s' hruntime hbound hstale
    rw [Stale, hruntime, hbound] at hstale
    exact h hstale
  rw [ListenerSystem.serve]
  cases hstage : s.stage with
  | Loop =>
      dsimp only
      split_ifs with hstopping hready hopen
      · exact fun hstale => absurd hstale (not_stale_of_bound (by simp [ListenerSystem.bound]))
      · exact fun hstale => absurd hstale (not_stale_of_bound (by simp [ListenerSystem.bound]))
      · have hlistener : s.listener = none := by
          simp at hopen
          exact hopen.1
        exact fun hstale => absurd hstale (not_stale_of_bound hlistener)
      · intro hstale
        have hnotReady := (hbefore { s with stage := .Ended } rfl
          (by simp [ListenerSystem.bound, hstage]) hstale).2
        simp [hnotReady] at hready
  | Asking nowMs =>
      rintro ⟨ip, hbound, -, hother⟩
      exact absurd (Option.some.inj hbound) hother
  | Opening nowMs address =>
      dsimp only
      split_ifs
      · intro hstale
        have hloop := (hbefore { s with listener := some (bindAddress aton address), stage := .Ended }
          rfl (by simp [ListenerSystem.bound, hstage]) hstale).1
        exact nomatch hstage.symm.trans hloop
      · exact fun hstale => absurd hstale (not_stale_of_bound (hnone nowMs address hstage))
  | Ended =>
      intro hstale
      have hloop := (hbefore { s with stage := .Loop } rfl (by simp [ListenerSystem.bound, hstage])
        hstale).1
      exact nomatch hstage.symm.trans hloop

/-- A listener that can follow has followed when the listener step ends. -/
lemma CanFollow.agrees (h : CanFollow aton s) : ListenerAgrees aton s := by
  intro hended ip hlistener hspecific
  by_contra hother
  have hbound : s.bound aton = some ip := by rw [ListenerSystem.bound, hended, hlistener]
  exact nomatch hended.symm.trans (h ⟨ip, hbound, hspecific, hother⟩).1

/-- While the operations let the listener follow, it follows, whatever the thread does in between. -/
theorem ListenerRun.canFollow
    (hrun : ListenerRun aton assets target config (CanFollow aton) s) : CanFollow aton s := by
  induction hrun with
  | init => exact fun hstale => absurd hstale (not_stale_of_bound rfl)
  | operate op clock answers hrun hallowed ih => exact hallowed
  | serve answer hrun ih => exact ih.serve hrun.listener_eq_none.2 answer

lemma ListenerRun.mono {allowed' : ListenerSystem → Prop} (hmono : ∀ s, allowed s → allowed' s)
    (hrun : ListenerRun aton assets target config allowed s) :
    ListenerRun aton assets target config allowed' s := by
  induction hrun with
  | init => exact .init
  | operate op clock answers hrun hallowed ih => exact ih.operate op clock answers (hmono _ hallowed)
  | serve answer hrun ih => exact ih.serve answer

/-- The thread goes on alone, step by step, while the runtime stays as it is. -/
lemma ListenerRun.serveAll (hrun : ListenerRun aton assets target config allowed s)
    (answers : List ListenerAnswer) :
    ListenerRun aton assets target config allowed (answers.foldl (ListenerSystem.serve aton) s) := by
  induction answers generalizing s with
  | nil => exact hrun
  | cons answer answers ih => exact ih (hrun.serve answer)

/-- A listener that cannot follow is found where it should not be, by the thread's next steps. -/
lemma not_agrees_of_not_canFollow (hrun : ListenerRun aton assets target config allowed s)
    (hended : s.stage ≠ .Ended) (h : ¬ CanFollow aton s) :
    ∃ answer, ¬ ListenerAgrees aton (s.serve aton answer) := by
  obtain ⟨⟨ip, hbound, hspecific, hother⟩, hbusy⟩ := Classical.not_imp.mp h
  rw [ListenerSystem.bound] at hbound
  refine ⟨{}, fun hagrees => hother ?_⟩
  cases hstage : s.stage with
  | Loop =>
      rw [hstage] at hbound
      have hready : s.runtime.serverReady = true := by
        by_contra hnotReady
        exact hbusy ⟨hstage, Bool.eq_false_iff.mpr hnotReady⟩
      have hserve : s.serve aton {} = { s with stage := .Ended } := by
        rw [ListenerSystem.serve, hstage]
        dsimp only at hbound ⊢
        rw [if_neg Bool.false_ne_true, hready, hbound]
        rfl
      rw [hserve] at hagrees
      exact hagrees rfl ip hbound hspecific
  | Asking nowMs =>
      rw [hstage, hrun.listener_eq_none.1 nowMs hstage] at hbound
      exact nomatch hbound
  | Opening nowMs address =>
      rw [hstage] at hbound
      rw [ListenerSystem.serve, hstage] at hagrees
      exact hagrees rfl ip hbound hspecific
  | Ended => exact absurd hstage hended

/-- **The listener is where the screen says it is**, in every run whose operations let it follow; and no
others could be allowed, as the thread alone would go on to disagree. -/
theorem listener_agrees_iff (hrun : ListenerRun aton assets target config (CanFollow aton) s) :
    ListenerAgrees aton s ∧ ∀ (op : RuntimeOp) (clock : ℕ → ℤ) (answers : ℕ → Bool),
      CanFollow aton (s.operate assets target config op clock answers) ↔
        ∀ turns : List ListenerAnswer, ListenerAgrees aton (turns.foldl (ListenerSystem.serve aton)
          (s.operate assets target config op clock answers)) := by
  refine ⟨hrun.canFollow.agrees, fun op clock answers => ⟨fun hfollow turns => ?_, fun hagrees => ?_⟩⟩
  · have hnext := hrun.operate op clock answers hfollow
    exact (hnext.serveAll turns).canFollow.agrees
  · by_contra hfollow
    have hended : (s.operate assets target config op clock answers).stage ≠ .Ended := by
      rw [ListenerSystem.operate]
      dsimp only
      split_ifs with hstage
      · simp
      · exact hstage
    have hany : ListenerRun aton assets target config (fun _ => True)
        (s.operate assets target config op clock answers) :=
      (hrun.mono fun _ _ => trivial).operate op clock answers trivial
    obtain ⟨answer, hdisagrees⟩ := not_agrees_of_not_canFollow hany hended hfollow
    exact hdisagrees (hagrees [answer])

/-! ## The listener step as a whole -/

/-- The steps of the thread until the listener step ends, when nothing comes between them. -/
def ListenerSystem.listenerStep (aton : Bytes → Option UInt32) (s : ListenerSystem)
    (answer : ListenerAnswer) : ListenerSystem :=
  let s := s.serve aton answer
  match s.stage with
  | .Asking _ => (s.serve aton answer).serve aton answer
  | _ => s

/-- **It is the beginning of the loop**, as `HttpServer.enterLoop` has it, which knows whether there is a
listener but not where. -/
theorem listenerStep_enterLoop {server : HttpServer} {answer : Answer} (hstage : s.stage = .Loop)
    (hlistening : server.listening = s.listener.isSome)
    (hnext : server.nextListenAttemptMs = s.nextListenAttemptMs)
    (hready : answer.serverReady = s.runtime.serverReady) :
    let s' := s.listenerStep aton { nowMs := answer.nowMs, opened := answer.opened }
    (server.enterLoop answer).listening = s'.listener.isSome ∧
      (server.enterLoop answer).nextListenAttemptMs = s'.nextListenAttemptMs := by
  intro s'
  cases hruntime : s.runtime.serverReady with
  | false =>
      simp [s', ListenerSystem.listenerStep, ListenerSystem.serve, HttpServer.enterLoop, hstage, hready,
        hruntime, hnext]
  | true =>
      cases hlistener : s.listener with
      | some ip =>
          simp [s', ListenerSystem.listenerStep, ListenerSystem.serve, HttpServer.enterLoop, hstage,
            hready, hruntime, hnext, hlistening, hlistener]
      | none =>
          by_cases hearly : s.nextListenAttemptMs ≤ answer.nowMs
          · cases hopened : answer.opened <;>
              simp [s', ListenerSystem.listenerStep, ListenerSystem.serve, HttpServer.enterLoop,
                hstage, hready, hruntime, hnext, hlistening, hlistener, hearly, hopened]
          · simp [s', ListenerSystem.listenerStep, ListenerSystem.serve, HttpServer.enterLoop, hstage,
              hready, hruntime, hnext, hlistening, hlistener, hearly]

/-! ## A network that comes back -/

/-- What `inet_aton` makes of four decimal numbers with points between them; it takes more than these.
-/
def dottedQuad (text : Bytes) : Option UInt32 :=
  match text.splitOn (byte '.') with
  | [a, b, c, d] =>
    if [a, b, c, d].all fun part => !part.isEmpty && part.all isdigit && decimal part < 256 then
      some (((decimal a * 256 + decimal b) * 256 + decimal c) * 256 + decimal d).toUInt32
    else none
  | _ => none

/-- The group of the camera is there, at an address. -/
def groupAt (address : String) : RuntimeOp :=
  .SetWifiState true (bytes "DIRECT-camera") (bytes "password") (bytes address) 1 []

/-- The operation happens, with a clock that stands still and a Java that accepts every command. -/
def ListenerSystem.perform (s : ListenerSystem) (op : RuntimeOp) : ListenerSystem :=
  s.operate {} .armeabi (configForPort 8080) op (fun _ => 0) fun _ => true

/-- The camera and the network have become ready in a new session, and the thread has not seen it yet.
-/
def readyToListen : ListenerSystem :=
  ((({ runtime := .new (configForPort 8080) } : ListenerSystem).perform
    (.Start 123456 true)).perform (.SetCameraReady true)).perform (groupAt "192.168.122.1")

/-- The server has opened its listener, in three steps of the thread. -/
def listening : ListenerSystem :=
  ((readyToListen.serve dottedQuad {}).serve dottedQuad {}).serve dottedQuad {}

/-- The group is lost and created again before the server's next turn, with another address. -/
def reconnected : ListenerSystem :=
  (((listening.serve dottedQuad {}).perform (.SetWifiState false [] [] [] 0 [])).perform
    (groupAt "192.168.49.1")).serve dottedQuad {}

/-- Until then the listener is where it should be. -/
theorem listener_agrees_listening :
    ListenerAgrees dottedQuad listening ∧ listening.stage = .Ended ∧
      listening.listener = dottedQuad listening.runtime.address := by
  have hclosed : ∀ s : ListenerSystem, s.bound dottedQuad = none → CanFollow dottedQuad s :=
    fun s hbound hstale => absurd hstale (not_stale_of_bound hbound)
  have hrun : ListenerRun dottedQuad {} .armeabi (configForPort 8080) (CanFollow dottedQuad)
      listening :=
    ((((((ListenerRun.init.operate _ _ _ (hclosed _ rfl)).operate _ _ _ (hclosed _ rfl)).operate _ _ _
      (hclosed _ rfl)).serve {}).serve {}).serve {})
  exact ⟨(listener_agrees_iff hrun).1, by decide +kernel, by decide +kernel⟩

lemma ListenerRun.perform
    (hrun : ListenerRun dottedQuad {} .armeabi (configForPort 8080) (fun _ => True) s)
    (op : RuntimeOp) :
    ListenerRun dottedQuad {} .armeabi (configForPort 8080) (fun _ => True) (s.perform op) :=
  hrun.operate op _ _ trivial

/-- Then it is still at the old address: the thread has not seen that the network was gone. -/
theorem not_listener_agrees_reconnected :
    ListenerRun dottedQuad {} .armeabi (configForPort 8080) (fun _ => True) reconnected ∧
      reconnected.runtime.address = bytes "192.168.49.1" ∧
      reconnected.listener = dottedQuad (bytes "192.168.122.1") ∧
      ¬ ListenerAgrees dottedQuad reconnected := by
  have hready : ListenerRun dottedQuad {} .armeabi (configForPort 8080) (fun _ => True)
      readyToListen :=
    ((ListenerRun.init.perform _).perform _).perform _
  have hlistening : ListenerRun dottedQuad {} .armeabi (configForPort 8080) (fun _ => True)
      listening :=
    ((hready.serve {}).serve {}).serve {}
  have hlistener : reconnected.listener = some 0xc0a87a01 := by decide +kernel
  refine ⟨(((hlistening.serve {}).perform _).perform _).serve {}, by decide +kernel,
    by decide +kernel, fun hagrees => ?_⟩
  have hsame := hagrees (by decide +kernel) 0xc0a87a01 hlistener (by decide)
  exact absurd hsame (by decide +kernel)

end LegacyAlpha
