import LegacyAlphaRemote.Runtime.NativeRuntime

/-!
# The native library

`legacyalpharemote_jni.cpp`.  The library has one runtime at most, `g_runtime`, which `nativeStart`
creates and `nativeStop` destroys.  Its commands go to the activity that it was started for,
`g_activity`; activities are told apart by numbers here.  Everything else that Java and the server
thread do with the library is a call of the runtime, if there is one.

What the server thread does between the end of `stop` and its own is left out: it can neither
dispatch a command nor outlive the runtime.
-/

namespace LegacyAlpha

/-- `g_runtime` and `g_activity`: the runtime, if there is one, and the activity that its commands go
to. -/
structure Native where
  runtime : Option NativeRuntime := none
  activity : Option ℕ := none
  deriving DecidableEq, Repr

/-- The functions of the library.  A new runtime learns from the system what `start` does. -/
inductive NativeOp
  | NativeStart (activity random : ℕ) (serverStarts : Bool)
  | NativeStop
  | Call (op : RuntimeOp)
  deriving DecidableEq, Repr

/-- What a function returns, and the library and the clock and Java afterwards. -/
structure NativePerformed where
  ok : Bool := true
  response : Option HttpResponse := none
  native : Native
  io : Io

namespace Native

/-- `nativeStart`: nothing happens if there is a runtime already.  Otherwise one is made and started,
and taken away again if it does not start. -/
def nativeStart (assets : Assets) (config : NativeConfig) (native : Native) (io : Io)
    (activity random : ℕ) (serverStarts : Bool) : NativePerformed :=
  if native.runtime.isSome then { native, io }
  else
    let out := (NativeRuntime.new config).start assets config io random serverStarts
    if !out.ok then { ok := false, native := {}, io := out.io }
    else { native := { runtime := some out.runtime, activity := some activity }, io := out.io }

/-- `dispatchToJava` fails without an activity, whatever Java would answer. -/
def dispatchToJava (native : Native) (io : Io) : Io :=
  { io with answers := fun i => native.activity.isSome && io.answers i }

/-- `nativeStop`: the runtime is stopped and given up, and the activity with it. -/
def nativeStop (config : NativeConfig) (native : Native) (io : Io) : NativePerformed :=
  match native.runtime with
  | none => { native := {}, io }
  | some rt => { native := {}, io := (rt.stop config (native.dispatchToJava io)).io }

/-- A call of the runtime, if there is one, and otherwise `false`. -/
def call (assets : Assets) (target : Target) (config : NativeConfig) (native : Native) (io : Io)
    (op : RuntimeOp) : NativePerformed :=
  match native.runtime with
  | none => { ok := false, native, io }
  | some rt =>
    let out := rt.perform assets target config (native.dispatchToJava io) op
    { ok := out.ok, response := out.response
      native := { native with runtime := some out.runtime }, io := out.io }

/-- The body of each function of the library. -/
def perform (assets : Assets) (target : Target) (config : NativeConfig) (native : Native) (io : Io) :
    NativeOp → NativePerformed
  | .NativeStart activity random serverStarts =>
      native.nativeStart assets config io activity random serverStarts
  | .NativeStop => native.nativeStop config io
  | .Call op => native.call assets target config io op

end Native

/-- A step of the library as it can be seen from outside: what was called, what it returned, and what
it handed to Java. -/
structure NativeStep where
  op : NativeOp
  before : Native
  ok : Bool
  response : Option HttpResponse
  after : Native
  trace : List Event

/-- A step with this clock and these answers of Java, from the library as it is. -/
def Native.step (assets : Assets) (target : Target) (config : NativeConfig) (native : Native)
    (op : NativeOp) (clock : ℕ → ℤ) (answers : ℕ → Bool) : NativeStep :=
  let out := native.perform assets target config { clock, answers } op
  { op, before := native, ok := out.ok, response := out.response, after := out.native
    trace := out.io.trace }

/-- A run of the library, from when it is loaded on: the steps so far, in their order, and what they
have led to.  Any function may follow any other. -/
inductive NativeRun (assets : Assets) (target : Target) (config : NativeConfig) :
    List NativeStep → Native → Prop
  | init : NativeRun assets target config [] {}
  | step {steps : List NativeStep} {native : Native} (op : NativeOp) (clock : ℕ → ℤ)
      (answers : ℕ → Bool) :
      NativeRun assets target config steps native →
      NativeRun assets target config
        (steps ++ [native.step assets target config op clock answers])
        (native.step assets target config op clock answers).after

namespace NativeRun

variable {assets : Assets} {target : Target} {config : NativeConfig}

/-- The steps of these functions, each at its time, with a Java that accepts every command. -/
def taken (assets : Assets) (target : Target) (config : NativeConfig) (native : Native) :
    List (NativeOp × ℤ) → List NativeStep
  | [] => []
  | (op, now) :: ops =>
    let s := native.step assets target config op (fun _ => now) fun _ => true
    s :: taken assets target config s.after ops

lemma append_taken (ops : List (NativeOp × ℤ)) : ∀ {steps : List NativeStep} {native : Native},
    NativeRun assets target config steps native → ∃ native',
      NativeRun assets target config (steps ++ taken assets target config native ops) native' := by
  induction ops with
  | nil => exact fun {steps native} h => ⟨native, by simpa [taken] using h⟩
  | cons call ops ih =>
      intro steps native h
      obtain ⟨native', h'⟩ := ih (h.step call.1 (fun _ => call.2) fun _ => true)
      exact ⟨native', by simpa [taken] using h'⟩

theorem taken_run (assets : Assets) (target : Target) (config : NativeConfig)
    (ops : List (NativeOp × ℤ)) :
    ∃ native, NativeRun assets target config (taken assets target config {} ops) native :=
  append_taken ops .init

end NativeRun

end LegacyAlpha
