import LegacyAlphaRemote.Machine.Interaction
import LegacyAlphaRemote.Machine.Runs
import LegacyAlphaRemote.Runtime.Calls
import LegacyAlphaRemote.Runtime.Session

/-!
# Commands on their way to Java

The runtime stands between its machine and Java.  With a Java that accepts every command, what gets
there should be what the machine would send on its own, to a sink that accepts everything, when it is
called as the runtime calls it (`Forwards`).

It is, but for one command.  `stop` marks the session as over before it stops the machine, so that
the runtime refuses the command with which the machine gives back a running autofocus
(`OwesAutofocus`).  `forwards_iff` says that nothing else is lost: the refusal leaves no more behind
than the text of the last error, and that only until the next `start`.
-/

namespace LegacyAlpha

open NativeRuntime

/-! ## What reaches Java -/

/-- The commands for the camera that the machine hands over, in their order; those for the screen are
none of its own. -/
def cameraCommands (es : List Event) : List NativeCommand :=
  es.filterMap fun
    | .Sent command _ => if command.type = .UpdateScreen then none else some command
    | _ => none

/-- The commands for the camera that are accepted.  With a Java that accepts every command they are
those that reach it: the others were refused by the runtime, which never handed them on. -/
def reachedJava (es : List Event) : List NativeCommand :=
  es.filterMap fun
    | .Sent command true => if command.type = .UpdateScreen then none else some command
    | _ => none

/-- The calls of the machine in a trace, each with the readings of the clock made during it; `reads`
are those of the call that is going on. -/
def machineCalls (reads : List ℤ) : List Event → List (Op × List ℤ)
  | [] => []
  | .Call _ _ :: es => machineCalls [] es
  | .Clock now :: es => machineCalls (reads ++ [now]) es
  | .Sent _ _ :: es => machineCalls reads es
  | .Returned op _ _ :: es => (op, reads) :: machineCalls [] es

/-- A machine of its own, called in the same way: its clock says the same, and its sink accepts
everything. -/
def driven (config : NativeConfig) (m : RemoteStateMachine) :
    List (Op × List ℤ) → List Event × RemoteStateMachine
  | [] => ([], m)
  | (op, reads) :: calls =>
    let out := m.step config { clock := fun i => reads.getD i 0, answers := fun _ => true } op
    let rest := driven config out.machine calls
    (out.io.trace ++ rest.1, rest.2)

/-- **The runtime forwards its machine**: what reaches Java is what the machine on its own sends. -/
def Forwards (config : NativeConfig) (steps : List RuntimeStep) : Prop :=
  steps.flatMap (fun s => reachedJava s.trace) =
    cameraCommands (driven config {} (steps.flatMap fun s => machineCalls [] s.trace)).1

/-- The steps of these operations, each with its clock, and with a Java that accepts every
command. -/
def NativeRuntime.accepting (assets : Assets) (target : Target) (config : NativeConfig)
    (rt : NativeRuntime) : List (RuntimeOp × (ℕ → ℤ)) → List RuntimeStep
  | [] => []
  | (op, clock) :: ops =>
    let s := rt.step assets target config op clock fun _ => true
    s :: accepting assets target config s.after ops

/-- A session is stopped while the autofocus runs, so that the machine has its end to ask for. -/
def RuntimeStep.OwesAutofocus (s : RuntimeStep) : Prop :=
  s.op = .Stop ∧ s.before.started = true ∧ s.before.machine.focusSent = true

variable {assets : Assets} {target : Target} {config : NativeConfig} {rt : NativeRuntime} {io : Io}
  {m m' : RemoteStateMachine} {op : Op} {seg es fs : List Event}

lemma cameraCommands_append (es fs : List Event) :
    cameraCommands (es ++ fs) = cameraCommands es ++ cameraCommands fs :=
  List.filterMap_append

lemma reachedJava_append (es fs : List Event) :
    reachedJava (es ++ fs) = reachedJava es ++ reachedJava fs :=
  List.filterMap_append

/-- Every command of these events is accepted by Java. -/
def Accepting (es : List Event) : Prop :=
  ∀ command accepted, .Sent command accepted ∈ es → accepted = true

lemma Accepting.append (h : Accepting es) (h' : Accepting fs) : Accepting (es ++ fs) := by
  intro command accepted hsent
  rcases List.mem_append.mp hsent with hsent | hsent
  · exact h command accepted hsent
  · exact h' command accepted hsent

/-- What is accepted reaches Java: all commands for the camera, in their order. -/
lemma Accepting.reachedJava (h : Accepting es) : reachedJava es = cameraCommands es := by
  refine List.filterMap_congr fun e he => ?_
  cases e with
  | Sent command accepted => rw [h command accepted he]
  | Call _ _ | Clock _ | Returned _ _ _ => rfl

/-- No more reaches Java than is sent. -/
lemma length_reachedJava_le (es : List Event) :
    (reachedJava es).length ≤ (cameraCommands es).length := by
  induction es with
  | nil => exact le_rfl
  | cons e es ih =>
      rw [← List.singleton_append, reachedJava_append, cameraCommands_append, List.length_append,
        List.length_append]
      refine Nat.add_le_add ?_ ih
      cases e with
      | Sent command accepted =>
          cases accepted with
          | true => exact le_rfl
          | false => exact Nat.zero_le _
      | Call _ _ | Clock _ | Returned _ _ _ => exact le_rfl

/-! ## Calls -/

/-- What a trace adds to the calls does not depend on what is already there. -/
lemma machineCalls_append (es fs : List Event) : ∀ reads, ∃ reads',
    machineCalls reads (es ++ fs) = machineCalls reads es ++ machineCalls reads' fs := by
  induction es with
  | nil => exact fun reads => ⟨reads, rfl⟩
  | cons e es ih =>
      intro reads
      cases e with
      | Call op m => exact ih []
      | Clock now => exact ih (reads ++ [now])
      | Sent command accepted => exact ih reads
      | Returned op ok m =>
          obtain ⟨reads', h⟩ := ih []
          exact ⟨reads', congrArg (List.cons (op, reads)) h⟩

/-- Events outside any call make no call. -/
lemma machineCalls_inner (hseg : ∀ e ∈ seg, e.Inner) : ∀ reads, machineCalls reads seg = [] := by
  induction seg with
  | nil => exact fun _ => rfl
  | cons e seg ih =>
      intro reads
      have hrest := ih fun e' he' => hseg e' (List.mem_cons_of_mem e he')
      cases e with
      | Clock now => exact hrest _
      | Sent command accepted => exact hrest _
      | Call _ _ | Returned _ _ _ => exact (hseg _ List.mem_cons_self).elim

lemma machineCalls_append_inner (es : List Event) (hseg : ∀ e ∈ seg, e.Inner) :
    machineCalls [] (es ++ seg) = machineCalls [] es := by
  obtain ⟨reads, h⟩ := machineCalls_append es seg []
  rw [h, machineCalls_inner hseg, List.append_nil]

/-- The inside of a call, and its return. -/
lemma machineCalls_returned (ok : Bool) (hseg : ∀ e ∈ seg, e.Inner) : ∀ reads,
    machineCalls reads (seg ++ [.Returned op ok m]) = [(op, reads ++ readings seg)] := by
  induction seg with
  | nil => simp [machineCalls, readings]
  | cons e seg ih =>
      intro reads
      have hrest := ih fun e' he' => hseg e' (List.mem_cons_of_mem e he')
      cases e with
      | Clock now =>
          refine (hrest (reads ++ [now])).trans ?_
          simp [readings]
      | Sent command accepted => exact hrest reads
      | Call _ _ | Returned _ _ _ => exact (hseg _ List.mem_cons_self).elim

/-- A whole call, with its readings of the clock, is one of the calls of the machine. -/
lemma machineCalls_call (es : List Event) (ok : Bool) (hseg : ∀ e ∈ seg, e.Inner) :
    machineCalls [] (es ++ .Call op m :: seg ++ [.Returned op ok m']) =
      machineCalls [] es ++ [(op, readings seg)] := by
  obtain ⟨reads, h⟩ := machineCalls_append es (.Call op m :: seg ++ [.Returned op ok m']) []
  rw [List.append_assoc, h]
  exact congrArg _ (machineCalls_returned ok hseg [])

lemma driven_append (config : NativeConfig) (calls calls' : List (Op × List ℤ)) :
    ∀ m, driven config m (calls ++ calls') =
      ((driven config m calls).1 ++ (driven config (driven config m calls).2 calls').1,
        (driven config (driven config m calls).2 calls').2) := by
  induction calls with
  | nil => exact fun m => rfl
  | cons call calls ih =>
      intro m
      rw [List.cons_append, driven, ih]
      simp only [driven, List.append_assoc]

/-- The clock that says what was read, to a sink that accepts everything: what the machine is run with
again, on its own. -/
def Io.replay (reads : List ℤ) (past : List Event) : Io :=
  { clock := fun i => reads.getD i 0, answers := fun _ => true, trace := past }

/-- A call all of whose commands were accepted can be made again on the readings made in it. -/
lemma yields_replay (hseg : ∀ e ∈ seg, e.Inner) (hacc : Accepting seg) :
    ∀ (early : List ℤ) (io : Io), io.clock = (fun i => (early ++ readings seg).getD i 0) →
      io.answers = (fun _ => true) → io.reads = early.length → io.Yields seg := by
  induction seg with
  | nil => exact fun _ _ _ _ _ => trivial
  | cons e seg ih =>
      intro early io hclock hanswers hreads
      have hrest := ih (fun e' he' => hseg e' (List.mem_cons_of_mem e he'))
        fun command accepted hsent => hacc command accepted (List.mem_cons_of_mem e hsent)
      cases e with
      | Clock now =>
          have hnow : readings (.Clock now :: seg) = now :: readings seg := rfl
          rw [hnow] at hclock
          refine ⟨?_, hrest (early ++ [now]) io.nowMs.2 ?_ hanswers ?_⟩
          · simp [Io.nowMs, hclock, hreads]
          · simpa [Io.nowMs] using hclock
          · simp [Io.nowMs, hreads]
      | Sent command accepted =>
          have hsent : readings (.Sent command accepted :: seg) = readings seg := rfl
          rw [hsent] at hclock
          refine ⟨?_, hrest early (io.dispatch command).2 hclock hanswers hreads⟩
          rw [hacc command accepted List.mem_cons_self]
          exact congrFun hanswers io.sends
      | Call _ _ | Returned _ _ _ => exact (hseg _ List.mem_cons_self).elim

/-! ## Machines that differ in the text of the last error -/

/-- The machines are the same, or both dormant and the same but for the text of the last error. -/
def Alike (m m' : RemoteStateMachine) : Prop :=
  m' = m ∨ (Dormant m ∧ ∃ error, m' = { m with lastError := error })

/-- A dormant machine sends nothing and does not look at the clock. -/
lemma Dormant.perform_io (h : Dormant m) (config : NativeConfig) (io : Io) (op : Op) :
    (m.perform config io op).io = io := by
  obtain ⟨hrun, hclear, hstate⟩ := h
  cases op with
  | Start | SetCameraReady _ | SetWifiReady _ | ReportCommandResult _ _ _ | SetClientCount _ => rfl
  | Stop =>
      simp only [RemoteStateMachine.perform, RemoteStateMachine.stop]
      split_ifs
      · rfl
      · simp [RemoteStateMachine.cancelFocus, hclear.focusSent]
  | RequestCapture requestId delayMs autofocus =>
      exact (Dormant.refused ⟨hrun, hclear, hstate⟩ config io _ (Or.inl ⟨_, _, _, rfl⟩)).2.2
  | CancelCountdown =>
      exact (Dormant.refused ⟨hrun, hclear, hstate⟩ config io _ (Or.inr (Or.inl rfl))).2.2
  | SetFocus pressed =>
      exact (Dormant.refused ⟨hrun, hclear, hstate⟩ config io _ (Or.inr (Or.inr ⟨_, rfl⟩))).2.2
  | PhysicalShutter pressed =>
      rcases hstate with hstate | hstate <;> cases pressed <;>
        simp [RemoteStateMachine.perform, RemoteStateMachine.physicalShutter, hrun, hstate]
  | Tick => simp [RemoteStateMachine.perform, RemoteStateMachine.tick, hrun]

/-- A machine with nothing scheduled takes only a result with id zero for its own. -/
lemma reportCommandResult_clear (hm : ScheduleClear m) (commandId resultCode : ℤ) (message : Bytes) :
    m.reportCommandResult commandId resultCode message =
      if (commandId == 0 && resultCode != 0) = true then
        m.fail (if message.isEmpty then bytes "capture failed" else message)
      else m := by
  simp only [RemoteStateMachine.reportCommandResult, hm.captureCommandId, hm.focusCommandId]
  split_ifs <;> simp_all [hm.releaseCommandId]

/-- Nothing looks at the text of the last error. -/
lemma Dormant.perform_lastError (h : Dormant m) (config : NativeConfig) (io io' : Io)
    (error : Bytes) (op : Op) (hop : op ≠ .Start) :
    ∃ error', (({ m with lastError := error } : RemoteStateMachine).perform config io' op).machine =
      { (m.perform config io op).machine with lastError := error' } := by
  obtain ⟨hrun, hclear, hstate⟩ := h
  have hdormant : Dormant { m with lastError := error } := ⟨hrun, { hclear with }, hstate⟩
  have unchanged : ∀ {op : Op}, ((∃ requestId delayMs autofocus,
      op = .RequestCapture requestId delayMs autofocus) ∨ op = .CancelCountdown ∨
        ∃ pressed, op = .SetFocus pressed) →
      ∃ error', (({ m with lastError := error } : RemoteStateMachine).perform config io' op).machine =
        { (m.perform config io op).machine with lastError := error' } := by
    intro op hclient
    rw [(Dormant.refused ⟨hrun, hclear, hstate⟩ config io op hclient).2.1,
      (hdormant.refused config io' op hclient).2.1]
    exact ⟨error, rfl⟩
  cases op with
  | Start => exact absurd rfl hop
  | Stop =>
      refine ⟨error, ?_⟩
      rcases hstate with hstate | hstate <;>
        simp [RemoteStateMachine.perform, RemoteStateMachine.stop, RemoteStateMachine.cancelFocus,
          RemoteStateMachine.clearSchedule, RemoteStateMachine.transition, hrun, hstate,
          hclear.focusSent]
  | SetCameraReady ready | SetWifiReady ready =>
      refine ⟨error, ?_⟩
      simp [RemoteStateMachine.perform, RemoteStateMachine.setCameraReady,
        RemoteStateMachine.setWifiReady, RemoteStateMachine.readinessChanged, hrun]
  | RequestCapture requestId delayMs autofocus => exact unchanged (Or.inl ⟨_, _, _, rfl⟩)
  | CancelCountdown => exact unchanged (Or.inr (Or.inl rfl))
  | SetFocus pressed => exact unchanged (Or.inr (Or.inr ⟨_, rfl⟩))
  | PhysicalShutter pressed =>
      refine ⟨error, ?_⟩
      rcases hstate with hstate | hstate <;> cases pressed <;>
        simp [RemoteStateMachine.perform, RemoteStateMachine.physicalShutter, hrun, hstate]
  | Tick =>
      refine ⟨error, ?_⟩
      simp [RemoteStateMachine.perform, RemoteStateMachine.tick, hrun]
  | ReportCommandResult commandId resultCode message =>
      rw [RemoteStateMachine.perform, RemoteStateMachine.perform, reportCommandResult_clear hclear,
        reportCommandResult_clear hdormant.clear]
      by_cases hresult : (commandId == 0 && resultCode != 0) = true
      · rw [if_pos hresult, if_pos hresult]
        exact ⟨_, rfl⟩
      · rw [if_neg hresult, if_neg hresult]
        exact ⟨error, rfl⟩
  | SetClientCount count => exact ⟨error, rfl⟩

/-- A call all of whose commands are accepted, made again by a machine that is alike. -/
lemma Alike.perform (h : Alike m m') {io : Io}
    (htrace : (m.perform config io op).io.trace = io.trace ++ seg) (hseg : ∀ e ∈ seg, e.Inner)
    (hacc : Accepting seg) (past : List Event) :
    Alike (m.perform config io op).machine
        (m'.perform config (Io.replay (readings seg) past) op).machine ∧
      (m'.perform config (Io.replay (readings seg) past) op).io.trace = past ++ seg := by
  rcases h with rfl | ⟨hdormant, error, rfl⟩
  · obtain ⟨-, hall⟩ := (RemoteStateMachine.perform_interactive config m' op).of_trace htrace
    have hyields : (Io.replay (readings seg) past).Yields seg :=
      yields_replay hseg hacc [] _ rfl rfl rfl
    obtain ⟨hresult, hfinal⟩ := hall _ hyields
    refine ⟨Or.inl (congrArg (fun result => result.2.2) hresult), ?_⟩
    rw [hfinal]
    exact hyields.trace
  · have hdormant' : Dormant { m with lastError := error } :=
      ⟨hdormant.running, { hdormant.clear with }, hdormant.state⟩
    rw [hdormant.perform_io] at htrace
    obtain rfl : seg = [] := by simpa using htrace
    rw [hdormant'.perform_io]
    refine ⟨?_, (List.append_nil past).symm⟩
    by_cases hop : op = .Start
    · subst hop
      refine Or.inl ?_
      simp [RemoteStateMachine.perform, RemoteStateMachine.start, hdormant.running]
    · exact Or.inr ⟨hdormant.perform hop, hdormant.perform_lastError config io _ error op hop⟩

/-- The command with which `stop` gives back a running autofocus. -/
lemma stop_trace (hrun : m.running = true) (io : Io) : (m.stop io).2.trace = io.trace ++
    if m.focusSent = true then [.command m.nextCommandId .CancelAutofocus (io.answers io.sends)]
    else [] := by
  rw [RemoteStateMachine.stop, if_neg (by simp [hrun])]
  simp only [RemoteStateMachine.cancelFocus]
  split_ifs
  · exact send_trace m io .CancelAutofocus
  · exact (List.append_nil _).symm

/-- `stop`, whatever becomes of the command for the end of the autofocus, leaves the same machine but
for its last error. -/
lemma stop_alike (hrun : m.running = true) (io io' : Io) : Alike (m.stop io).1 (m.stop io').1 := by
  refine Or.inr ⟨dormant_stop hrun, (m.stop io').1.lastError, ?_⟩
  rw [RemoteStateMachine.stop, RemoteStateMachine.stop, if_neg (by simp [hrun]),
    if_neg (by simp [hrun])]
  simp only [RemoteStateMachine.cancelFocus, RemoteStateMachine.send]
  split_ifs <;> rfl

/-! ## A call of the runtime's machine -/

/-- What the trace of a runtime says of its machine, and what a machine on its own makes of it. -/
structure Forwarding (config : NativeConfig) (m₀ : RemoteStateMachine) (rt : NativeRuntime)
    (tr : List Event) : Prop where
  commands : cameraCommands (driven config m₀ (machineCalls [] tr)).1 = cameraCommands tr
  alike : Alike rt.machine (driven config m₀ (machineCalls [] tr)).2

variable {m₀ : RemoteStateMachine} {rt' : NativeRuntime} {tr : List Event}

lemma Forwarding.of_machine (h : Forwarding config m₀ rt tr) (hm : rt'.machine = rt.machine) :
    Forwarding config m₀ rt' tr :=
  ⟨h.commands, hm ▸ h.alike⟩

/-- Events outside any call, none of them a command for the camera. -/
lemma Forwarding.append {s : List Event} (h : Forwarding config m₀ rt tr)
    (hinner : ∀ e ∈ s, e.Inner) (hnone : cameraCommands s = []) :
    Forwarding config m₀ rt (tr ++ s) := by
  refine ⟨?_, ?_⟩ <;> rw [machineCalls_append_inner tr hinner]
  · rw [cameraCommands_append, hnone, List.append_nil]
    exact h.commands
  · exact h.alike

/-- The events of a call of the machine. -/
lemma operate_trace (config : NativeConfig) (rt : NativeRuntime) (io : Io) (op : Op) :
    ∃ seg, (∀ e ∈ seg, e.Inner) ∧
      (rt.machine.perform config { io with
          answers := fun i => rt.started && io.answers i
          trace := io.trace ++ [.Call op rt.machine] } op).io.trace =
        io.trace ++ [.Call op rt.machine] ++ seg ∧
      (operate config rt io op).io.trace = io.trace ++ .Call op rt.machine :: seg ++
        [.Returned op (operate config rt io op).ok (operate config rt io op).runtime.machine] := by
  obtain ⟨seg, htrace, hinner⟩ := perform_inner config rt.machine { io with
    answers := fun i => rt.started && io.answers i
    trace := io.trace ++ [.Call op rt.machine] } op
  refine ⟨seg, hinner, htrace, ?_⟩
  show _ ++ _ = _
  rw [htrace]
  simp [operate, RemoteStateMachine.step]

/-- A call, once it is known what the machine on its own makes of it. -/
lemma Forwarding.call (h : Forwarding config m₀ rt tr) (op : Op) (ok : Bool)
    (hseg : ∀ e ∈ seg, e.Inner) (hm : rt'.machine = m')
    (hdriven : ∀ m₁, Alike rt.machine m₁ →
      Alike m' (m₁.step config (Io.replay (readings seg) []) op).machine ∧
      cameraCommands (m₁.step config (Io.replay (readings seg) []) op).io.trace =
        cameraCommands seg) :
    Forwarding config m₀ rt' (tr ++ .Call op rt.machine :: seg ++ [.Returned op ok m']) := by
  obtain ⟨halike, hcommands⟩ := hdriven _ h.alike
  refine ⟨?_, ?_⟩ <;> rw [machineCalls_call tr ok hseg, driven_append]
  · rw [cameraCommands_append, h.commands, cameraCommands_append, cameraCommands_append,
      List.append_assoc]
    refine congrArg _ ?_
    simp only [driven, List.append_nil]
    refine Eq.trans hcommands ?_
    simp [cameraCommands]
  · rw [hm]
    exact halike

/-- A sink that accepts everything has accepted what it was told of. -/
lemma Io.Yields.accepting : ∀ {seg : List Event} {io : Io}, io.Yields seg →
    (∀ i, io.answers i = true) → Accepting seg := by
  intro seg
  induction seg with
  | nil => exact fun _ _ _ _ hsent => nomatch hsent
  | cons e seg ih =>
      intro io h hanswers command accepted hsent
      cases e with
      | Clock now =>
          rcases List.mem_cons.mp hsent with hsent | hsent
          · cases hsent
          · exact ih h.2 hanswers command accepted hsent
      | Sent command' accepted' =>
          rcases List.mem_cons.mp hsent with hsent | hsent
          · obtain ⟨-, rfl⟩ := Event.Sent.inj hsent
            exact h.1.symm.trans (hanswers _)
          · exact ih h.2 hanswers command accepted hsent
      | Call _ _ | Returned _ _ _ => exact h.elim

/-- The runtime relays: a machine on its own would have sent the same, and every command so far has
been accepted. -/
structure Relaying (config : NativeConfig) (m₀ : RemoteStateMachine) (rt : NativeRuntime)
    (io : Io) : Prop where
  forwarding : Forwarding config m₀ rt io.trace
  answers : ∀ i, io.answers i = true
  accepting : Accepting io.trace

/-- Its session goes on, or its machine is dormant, so that a command it sends can reach Java. -/
def InService (rt : NativeRuntime) : Prop := rt.started = true ∨ Dormant rt.machine

lemma Relaying.of_machine (h : Relaying config m₀ rt io) (hm : rt'.machine = rt.machine) :
    Relaying config m₀ rt' io :=
  ⟨h.forwarding.of_machine hm, h.answers, h.accepting⟩

/-- A call none of whose commands the runtime refuses. -/
lemma Relaying.operate_of_accepting (h : Relaying config m₀ rt io) (op : Op)
    (hseg : ∀ seg, (rt.machine.perform config { io with
        answers := fun i => rt.started && io.answers i
        trace := io.trace ++ [.Call op rt.machine] } op).io.trace =
      io.trace ++ [.Call op rt.machine] ++ seg → Accepting seg) :
    Relaying config m₀ (operate config rt io op).runtime (operate config rt io op).io := by
  obtain ⟨seg, hinner, hbody, htrace⟩ := operate_trace config rt io op
  have hacc := hseg seg hbody
  refine ⟨?_, h.answers, ?_⟩ <;> rw [htrace]
  · refine h.forwarding.call op _ hinner rfl fun m₁ hm₁ => ?_
    obtain ⟨halike, hagain⟩ := hm₁.perform hbody hinner hacc [.Call op m₁]
    refine ⟨halike, ?_⟩
    show cameraCommands ((m₁.perform config (Io.replay (readings seg) [.Call op m₁]) op).io.trace ++
      [_]) = _
    rw [hagain]
    simp [cameraCommands]
  · refine (h.accepting.append fun command accepted hsent => ?_).append
      fun command accepted hsent => ?_
    · exact hacc command accepted (by simpa using hsent)
    · simp at hsent

lemma accepting_nil : Accepting [] := fun _ _ hsent => nomatch hsent

/-- A call of a dormant machine sends nothing, so that nothing has to be relayed. -/
lemma Relaying.operate_dormant (h : Relaying config m₀ rt io) (hdormant : Dormant rt.machine)
    (op : Op) : Relaying config m₀ (operate config rt io op).runtime (operate config rt io op).io := by
  refine h.operate_of_accepting op fun seg hbody => ?_
  rw [hdormant.perform_io] at hbody
  obtain rfl : seg = [] := by simpa using hbody
  exact accepting_nil

/-- A call during a session, in which Java takes every command. -/
lemma Relaying.operate_started (h : Relaying config m₀ rt io) (hstarted : rt.started = true)
    (op : Op) : Relaying config m₀ (operate config rt io op).runtime (operate config rt io op).io := by
  refine h.operate_of_accepting op fun seg hbody => ?_
  obtain ⟨hyields, -⟩ :=
    (RemoteStateMachine.perform_interactive config rt.machine op).of_trace hbody
  refine hyields.accepting fun i => ?_
  show (rt.started && io.answers i) = true
  rw [hstarted, h.answers]
  rfl

lemma InService.of_session {rt' : NativeRuntime} (h : InService rt)
    (hmachine : rt'.machine = rt.machine) (hstarted : rt'.started = rt.started) : InService rt' := by
  rw [InService, hmachine, hstarted]
  exact h

lemma relaying_upheld (config : NativeConfig) (m₀ : RemoteStateMachine) :
    Upheld config fun rt io => Relaying config m₀ rt io ∧ InService rt where
  aside h haside :=
    ⟨h.1.of_machine haside.machine, h.2.of_session haside.machine haside.started⟩
  nowMs {rt io} h := by
    refine ⟨⟨h.1.forwarding.append (s := [.Clock _]) ?_ rfl, h.1.answers,
      h.1.accepting.append ?_⟩, h.2⟩
    · simp [Event.Inner]
    · simp [Accepting]
  screen {rt io command} h htype := by
    refine ⟨⟨h.1.forwarding.append (s := [.Sent command _]) ?_ ?_, h.1.answers,
      h.1.accepting.append ?_⟩, h.2⟩
    · simp [Event.Inner]
    · simp [cameraCommands, htype]
    · simp [Accepting, h.1.answers]
  operate {rt io op} h hstart _ := by
    rcases h.2 with hstarted | hdormant
    · exact ⟨h.1.operate_started hstarted op, Or.inl hstarted⟩
    · exact ⟨h.1.operate_dormant hdormant op, Or.inr (hdormant.perform hstart)⟩

/-! ## Steps -/

variable {session : Option Pin}

lemma InSession.inService (h : InSession rt session) : InService rt := by
  cases session with
  | some pin => exact Or.inl h.started
  | none => exact Or.inr (h.dormant rfl)

/-- A machine that is being stopped sends nothing, unless an autofocus runs. -/
lemma stop_accepting (hrun : m.running = true) (hfocus : m.focusSent = false) (config : NativeConfig)
    (io : Io) (h : (m.perform config io .Stop).io.trace = io.trace ++ seg) : Accepting seg := by
  have htrace : (m.perform config io .Stop).io.trace = io.trace ++ [] := by
    show (m.stop io).2.trace = _
    rw [stop_trace hrun, hfocus]
    simp
  obtain rfl := List.append_cancel_left (htrace.symm.trans h)
  exact accepting_nil

/-- `start` calls the machine before it has started the session, but a machine that starts, or is
stopped again at once, sends nothing. -/
lemma Relaying.start (h : Relaying config m₀ rt io) (hservice : InService rt) (random : ℕ)
    (serverStarts : Bool) :
    Relaying config m₀ (rt.start assets config io random serverStarts).runtime
      (rt.start assets config io random serverStarts).io := by
  rw [NativeRuntime.start]
  by_cases hstarted : rt.started = true
  · rw [if_pos hstarted]
    exact h
  rw [if_neg hstarted]
  have hdormant : Dormant (rt.renew random).machine := hservice.resolve_left hstarted
  have hrenewed : Relaying config m₀ (rt.renew random) io := h.of_machine rfl
  have hbegun := hrenewed.operate_dormant hdormant .Start
  cases serverStarts with
  | false =>
      have hrun : (operate config (rt.renew random) io .Start).runtime.machine.running = true :=
        start_running rt.machine
      have hfocus : (operate config (rt.renew random) io .Start).runtime.machine.focusSent = false := by
        have hidle : rt.machine.running = false := hdormant.running
        show rt.machine.start.focusSent = false
        simp only [RemoteStateMachine.start, hidle, Bool.false_eq_true, if_false]
        split_ifs <;> rfl
      have hstopped := hbegun.operate_of_accepting .Stop fun seg hbody =>
        stop_accepting hrun hfocus config _ hbody
      exact hstopped.of_machine rfl
  | true =>
      have hopened : Relaying config m₀ { (operate config (rt.renew random) io .Start).runtime with
          started := true } (operate config (rt.renew random) io .Start).io := hbegun.of_machine rfl
      exact ((relaying_upheld config m₀).updateScreen ⟨hopened, Or.inl rfl⟩ true).1

/-- A step other than `stop` goes on relaying. -/
lemma relaying_step (assets : Assets) (target : Target) (config : NativeConfig)
    (h : InSession rt session) (halike : Alike rt.machine m₀) (clock : ℕ → ℤ)
    {op : RuntimeOp} (hop : op ≠ .Stop) :
    let s := rt.step assets target config op clock fun _ => true
    Forwarding config m₀ s.after s.trace ∧ Accepting s.trace := by
  have hinitial : Relaying config m₀ rt { clock, answers := fun _ => true } :=
    ⟨⟨rfl, halike⟩, fun _ => rfl, accepting_nil⟩
  by_cases hstart : ∃ random serverStarts, op = .Start random serverStarts
  · obtain ⟨random, serverStarts, rfl⟩ := hstart
    have hout : Relaying config m₀ (rt.start assets config _ random serverStarts).runtime _ :=
      hinitial.start h.inService random serverStarts
    exact ⟨hout.forwarding, hout.accepting⟩
  · have hother : ∀ random serverStarts, op ≠ .Start random serverStarts :=
      fun random serverStarts heq => hstart ⟨random, serverStarts, heq⟩
    have hpreview : ∀ data width height source error,
        op = .SetPreview data width height source error →
        Relaying config m₀ (setPreview rt data width height source error)
            { clock, answers := fun _ => true } ∧
          InService (setPreview rt data width height source error) := by
      intro data width height source error _
      obtain ⟨hmachine, hstarted, -⟩ := rt.setPreview_session data width height source error
      exact ⟨hinitial.of_machine hmachine, h.inService.of_session hmachine hstarted⟩
    have hout : (Relaying config m₀ (rt.perform assets target config _ op).runtime _ ∧ _) :=
      (relaying_upheld config m₀).perform ⟨hinitial, h.inService⟩ hother hop hpreview
    exact ⟨hout.1.forwarding, hout.1.accepting⟩

/-- `stop` hands the machine's command over, and the runtime refuses it. -/
lemma forwarding_stop (config : NativeConfig) (h : InSession rt session)
    (halike : Alike rt.machine m₀) (io : Io) (hio : io.trace = []) :
    Forwarding config m₀ (rt.stop config io).runtime (rt.stop config io).io.trace ∧
      reachedJava (rt.stop config io).io.trace = [] ∧
      (cameraCommands (rt.stop config io).io.trace ≠ [] ↔
        rt.started = true ∧ rt.machine.focusSent = true) := by
  have hnothing : Forwarding config m₀ rt [] := ⟨rfl, halike⟩
  rw [NativeRuntime.stop]
  by_cases hstarted : rt.started = true
  · have hrun : rt.machine.running = true := h.running.trans (h.started.symm.trans hstarted)
    rw [if_neg (by simp [hstarted])]
    obtain ⟨seg, hinner, hbody, htrace⟩ := operate_trace config { rt with started := false } io .Stop
    have hseg : seg = if rt.machine.focusSent = true then
        [.command rt.machine.nextCommandId .CancelAutofocus false] else [] := by
      have hstop := stop_trace hrun { io with
        answers := fun i => false && io.answers i, trace := io.trace ++ [.Call .Stop rt.machine] }
      exact List.append_cancel_left (hbody.symm.trans hstop)
    dsimp only
    rw [htrace, hio]
    refine ⟨(hnothing.call .Stop _ hinner rfl fun m₁ hm₁ => ?_).of_machine rfl, ?_, ?_⟩
    · obtain rfl : m₁ = rt.machine := by
        rcases hm₁ with hsame | ⟨hdormant, -⟩
        · exact hsame
        · exact absurd hrun (by simp [hdormant.running])
      refine ⟨stop_alike hrun _ _, ?_⟩
      show cameraCommands ((rt.machine.stop _).2.trace ++ [_]) = _
      rw [stop_trace hrun, hseg]
      by_cases hfocus : rt.machine.focusSent = true
      · rw [if_pos hfocus, if_pos hfocus]
        rfl
      · rw [if_neg hfocus, if_neg hfocus]
        rfl
    · rw [hseg]
      split_ifs <;> rfl
    · rw [hseg]
      split_ifs with hfocus <;>
        simp [cameraCommands, Event.command, hfocus, hstarted]
  · rw [if_pos (by simpa using hstarted), hio]
    exact ⟨hnothing, rfl, by simp [cameraCommands, hstarted]⟩

/-- **A step** with a Java that accepts every command. -/
lemma forwarding_step (assets : Assets) (target : Target) (config : NativeConfig)
    (h : InSession rt session) (halike : Alike rt.machine m₀) (op : RuntimeOp)
    (clock : ℕ → ℤ) :
    let s := rt.step assets target config op clock fun _ => true
    Forwarding config m₀ s.after s.trace ∧
      (reachedJava s.trace = cameraCommands s.trace ↔ ¬ s.OwesAutofocus) := by
  intro s
  by_cases hop : op = .Stop
  · subst hop
    obtain ⟨hforwarding, hreached, hsent⟩ :=
      forwarding_stop config h halike { clock, answers := fun _ => true } rfl
    refine ⟨hforwarding, ?_⟩
    have howes : s.OwesAutofocus ↔ rt.started = true ∧ rt.machine.focusSent = true :=
      and_iff_right rfl
    rw [howes, ← hsent, not_not]
    exact (Eq.congr_left hreached).trans eq_comm
  · obtain ⟨hforwarding, haccepting⟩ := relaying_step assets target config h halike clock hop
    exact ⟨hforwarding, fun _ howes => hop howes.1, fun _ => haccepting.reachedJava⟩

/-! ## Runs -/

/-- Lists that come in two parts, neither part of the first longer than that of the second. -/
lemma append_eq_append_iff_of_le {α : Type*} {a a' b b' : List α} (ha : a.length ≤ a'.length)
    (hb : b.length ≤ b'.length) : a ++ b = a' ++ b' ↔ a = a' ∧ b = b' := by
  constructor
  · intro h
    have hlength := congrArg List.length h
    rw [List.length_append, List.length_append] at hlength
    exact List.append_inj h (by omega)
  · rintro ⟨rfl, rfl⟩
    rfl

lemma length_flatMap_reachedJava_le (steps : List RuntimeStep) :
    (steps.flatMap fun s => reachedJava s.trace).length ≤
      (steps.flatMap fun s => cameraCommands s.trace).length := by
  rw [List.length_flatMap, List.length_flatMap]
  exact List.sum_le_sum fun s _ => length_reachedJava_le s.trace

lemma forwarding_run (assets : Assets) (target : Target) (config : NativeConfig)
    (ops : List (RuntimeOp × (ℕ → ℤ))) : ∀ {rt : NativeRuntime}
    {m₀ : RemoteStateMachine} {session : Option Pin}, InSession rt session → Alike rt.machine m₀ →
    let steps := rt.accepting assets target config ops
    cameraCommands (driven config m₀ (steps.flatMap fun s => machineCalls [] s.trace)).1 =
        steps.flatMap (fun s => cameraCommands s.trace) ∧
      (steps.flatMap (fun s => reachedJava s.trace) = steps.flatMap (fun s => cameraCommands s.trace) ↔
        ∀ s ∈ steps, ¬ s.OwesAutofocus) := by
  induction ops with
  | nil => exact fun _ _ => ⟨rfl, by simp [NativeRuntime.accepting]⟩
  | cons call ops ih =>
      intro rt m₀ session h halike
      obtain ⟨hforwarding, hreached⟩ :=
        forwarding_step assets target config h halike call.1 call.2
      obtain ⟨hcommands, hrest⟩ := ih (h.step call.1 call.2 fun _ => true) hforwarding.alike
      simp only [NativeRuntime.accepting, List.flatMap_cons, driven_append, cameraCommands_append,
        List.forall_mem_cons]
      refine ⟨by rw [hforwarding.commands, hcommands], ?_⟩
      have hshort : ((rt.step assets target config call.1 call.2 fun _ => true).after.accepting assets
          target config ops |>.flatMap fun s => reachedJava s.trace).length ≤ _ :=
        length_flatMap_reachedJava_le _
      rw [append_eq_append_iff_of_le (length_reachedJava_le _) hshort, hreached, hrest]

/-- **The runtime forwards its machine**, in a run with a Java that accepts every command, exactly
when no session is stopped while the autofocus runs.  `stop` ends the session before it stops the
machine, whose command to end the autofocus is dispatched no more. -/
theorem forwards_iff (ops : List (RuntimeOp × (ℕ → ℤ))) :
    Forwards config ((NativeRuntime.new config).accepting assets target config ops) ↔
      ∀ s ∈ (NativeRuntime.new config).accepting assets target config ops, ¬ s.OwesAutofocus := by
  have hnew : Alike (NativeRuntime.new config).machine {} := Or.inl rfl
  obtain ⟨hcommands, hreached⟩ :=
    forwarding_run assets target config ops (inSession_new config) hnew
  rw [Forwards, hcommands]
  exact hreached

/-- The focus key is down when the session is stopped.  Java gets the command that starts the
autofocus, and not the one that gives it back. -/
theorem not_forwards_stop_focused :
    ¬ Forwards {} ((NativeRuntime.new {}).accepting {} .armeabi {}
      [(.Start 123456 true, fun _ => 1000), (.SetCameraReady true, fun _ => 1100),
        (.SetWifiState true (bytes "camera") (bytes "secret") (bytes "192.168.122.1") 1 [],
          fun _ => 1200),
        (.PhysicalFocus true, fun _ => 1300), (.Stop, fun _ => 1400)]) := by
  rw [Forwards]
  decide +kernel

end LegacyAlpha
