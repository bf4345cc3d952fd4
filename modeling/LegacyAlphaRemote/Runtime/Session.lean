import LegacyAlphaRemote.Runtime.Calls

/-!
# Sessions

A session begins with a `start` that succeeds, has a PIN of six digits, and ends with the next
`stop`.  That is all there is to say about it, and `sessionOf` says it of the steps of a run without
looking at the runtime.

The runtime keeps what it knows of its session in `started` and `pin`, which `stop` and a `start`
that fails clear again.  `RuntimeRun.inSession` connects the two: in every run the flag and the PIN
are those of the session, the machine runs during it and is dormant outside.
-/

namespace LegacyAlpha

/-- A PIN: six digits, as the screen shows them and the phone types them. -/
structure Pin where
  text : Bytes
  length : text.length = 6
  digits : ∀ c ∈ text, isdigit c = true
  deriving DecidableEq

lemma isdigit_digitChar {d : ℕ} (hd : d < 10) : isdigit (byte (Nat.digitChar d)) = true := by
  interval_cases d <;> rfl

/-- The PIN `generatePin` makes of a random number, of which it takes the last six digits. -/
def Pin.generate (random : ℕ) : Pin where
  text := NativeRuntime.formatPin (random % 1000000)
  length := by simp [NativeRuntime.formatPin]
  digits := by
    intro c hc
    obtain ⟨i, -, rfl⟩ := List.mem_map.mp hc
    exact isdigit_digitChar (Nat.mod_lt _ (by norm_num))

/-! ## The sessions of a run -/

/-- What a step makes of the session: a start that does not fail begins one, and a stop ends it. -/
def sessionAfter (session : Option Pin) (s : RuntimeStep) : Option Pin :=
  match s.op with
  | .Start random serverStarts =>
      if session.isNone && serverStarts then some (.generate random) else session
  | .Stop => none
  | _ => session

/-- The session after these steps, if there is one; at first there is none. -/
def sessionOf (steps : List RuntimeStep) : Option Pin := steps.foldl sessionAfter none

/-- The runtime knows its session: it has its PIN while there is one, and otherwise no PIN and a
dormant machine. -/
structure InSession (rt : NativeRuntime) (session : Option Pin) : Prop where
  started : rt.started = session.isSome
  pin : rt.pin = (session.map Pin.text).getD []
  running : rt.machine.running = session.isSome
  dormant : session = none → Dormant rt.machine

variable {assets : Assets} {target : Target} {config : NativeConfig} {rt rt' : NativeRuntime}
  {io : Io} {session : Option Pin}

lemma inSession_new (config : NativeConfig) : InSession (.new config) none :=
  ⟨rfl, rfl, rfl, fun _ => dormant_new⟩

lemma InSession.keeps (h : InSession rt session) (hkeeps : Keeps rt rt') : InSession rt' session where
  started := hkeeps.started.trans h.started
  pin := hkeeps.pin.trans h.pin
  running := hkeeps.running.trans h.running
  dormant hnone := hkeeps.dormant (h.dormant hnone)

namespace NativeRuntime

/-! ## What every operation keeps -/

lemma keeps_updateScreen (rt : NativeRuntime) (io : Io) (force : Bool) :
    Keeps rt (updateScreen assets config rt io force).1 :=
  (rt.serves_updateScreen io force).toKeeps

lemma keeps_upheld (config : NativeConfig) (rt : NativeRuntime) :
    Upheld config fun rt' _ => Keeps rt rt' where
  aside h haside := h.trans (keeps_of_eq haside.started haside.pin haside.machine)
  nowMs h := h
  screen h _ := h
  operate h hstart hstop := h.trans (keeps_operate config _ _ hstart hstop)

/-- **Everything but `start` and `stop` keeps the session**, its PIN and whether its machine runs. -/
theorem keeps_perform (rt : NativeRuntime) (io : Io) {op : RuntimeOp}
    (hstart : ∀ random serverStarts, op ≠ .Start random serverStarts) (hstop : op ≠ .Stop) :
    Keeps rt (rt.perform assets target config io op).runtime := by
  refine (keeps_upheld config rt).perform (keeps_of_eq rfl rfl rfl) hstart hstop ?_
  intro data width height source error _
  obtain ⟨hmachine, hstarted, hpin⟩ := rt.setPreview_session data width height source error
  exact keeps_of_eq hstarted hpin hmachine

end NativeRuntime

/-! ## Runs -/

/-- A running machine that is stopped is dormant. -/
lemma dormant_operate_stop (config : NativeConfig) (rt : NativeRuntime) (io : Io)
    (hrun : rt.machine.running = true) :
    Dormant (NativeRuntime.operate config rt io .Stop).runtime.machine :=
  dormant_stop hrun

/-- `start` begins a session unless there is one, or the server does not start. -/
lemma InSession.start (h : InSession rt session) (random : ℕ) (serverStarts : Bool) :
    InSession (rt.start assets config io random serverStarts).runtime
      (if session.isNone && serverStarts then some (.generate random) else session) := by
  rw [NativeRuntime.start]
  cases session with
  | some pin =>
      have hstarted : rt.started = true := h.started
      rw [if_pos hstarted]
      exact h
  | none =>
      have hstarted : ¬ rt.started = true := by
        rw [h.started]
        exact Bool.false_ne_true
      have hrun : (NativeRuntime.operate config (rt.renew random) io .Start).runtime.machine.running =
          true := start_running rt.machine
      rw [if_neg hstarted]
      cases serverStarts with
      | false =>
          -- The machine is started, and stopped again.
          have hdormant := dormant_operate_stop config _
            (NativeRuntime.operate config (rt.renew random) io .Start).io hrun
          exact ⟨h.started, rfl, hdormant.running, fun _ => hdormant⟩
      | true =>
          dsimp only [Bool.not_true, Bool.false_eq_true, if_false]
          have hstarting : InSession { (NativeRuntime.operate config (rt.renew random) io
              .Start).runtime with started := true } (some (.generate random)) :=
            ⟨rfl, rfl, hrun, fun hnone => nomatch hnone⟩
          exact hstarting.keeps (NativeRuntime.keeps_updateScreen _ _ _)

/-- `stop` ends the session, with its PIN, and puts the machine to sleep. -/
lemma InSession.stop (h : InSession rt session) : InSession (rt.stop config io).runtime none := by
  rw [NativeRuntime.stop]
  cases session with
  | none =>
      rw [if_pos (by rw [h.started]; rfl)]
      exact h
  | some pin =>
      have hdormant := dormant_operate_stop config { rt with started := false } io h.running
      rw [if_neg (by rw [h.started]; exact Bool.false_ne_true)]
      exact ⟨rfl, rfl, hdormant.running, fun _ => hdormant⟩

/-- **One step**: the runtime and its session go on together, so that what is known of the session
from the steps is true of the runtime. -/
theorem InSession.step (h : InSession rt session) (op : RuntimeOp) (clock : ℕ → ℤ)
    (answers : ℕ → Bool) :
    InSession (rt.step assets target config op clock answers).after
      (sessionAfter session (rt.step assets target config op clock answers)) := by
  cases op with
  | Start random serverStarts => exact h.start random serverStarts
  | Stop => exact h.stop
  | _ => exact h.keeps (rt.keeps_perform _ (fun _ _ hop => nomatch hop) (fun hop => nomatch hop))

/-- A session lasts until it is stopped. -/
lemma started_step (hstarted : rt.started = true) {op : RuntimeOp} (hstop : op ≠ .Stop)
    (clock : ℕ → ℤ) (answers : ℕ → Bool) :
    (rt.step assets target config op clock answers).after.started = true := by
  by_cases hstart : ∃ random serverStarts, op = .Start random serverStarts
  · obtain ⟨random, serverStarts, rfl⟩ := hstart
    simp only [NativeRuntime.step, NativeRuntime.perform, NativeRuntime.start, if_pos hstarted]
    exact hstarted
  · refine (rt.keeps_perform { clock, answers } (fun random serverStarts hop => hstart ?_)
      hstop).started.trans hstarted
    exact ⟨random, serverStarts, hop⟩

lemma RuntimePath.started {steps : List RuntimeStep}
    (hpath : RuntimePath assets target config rt steps rt') (hstarted : rt.started = true)
    (hlasts : ∀ s ∈ steps, s.op ≠ .Stop) : rt'.started = true := by
  induction hpath with
  | refl rt => exact hstarted
  | step op clock answers hrest ih =>
      have hop := hlasts _ (List.mem_cons_self ..)
      exact ih (started_step hstarted hop clock answers)
        fun s hs => hlasts s (List.mem_cons_of_mem _ hs)

theorem RuntimePath.inSession {steps : List RuntimeStep}
    (hpath : RuntimePath assets target config rt steps rt') :
    ∀ {session}, InSession rt session → InSession rt' (steps.foldl sessionAfter session) := by
  induction hpath with
  | refl rt => exact fun h => h
  | step op clock answers hrest ih => exact fun h => ih (h.step op clock answers)

/-- **In every run the runtime knows its session**, by the rule for one step. -/
theorem RuntimeRun.inSession {steps : List RuntimeStep}
    (hrun : RuntimeRun assets target config steps rt) : InSession rt (sessionOf steps) :=
  RuntimePath.inSession hrun (inSession_new config)

end LegacyAlpha
