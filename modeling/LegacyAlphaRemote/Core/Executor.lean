import Mathlib.Tactic

/-!
# A worker thread with a bounded queue

An executor runs the tasks it accepts on one thread, one after the other.  The first task starts the
thread; the others wait in a queue of bounded capacity, and a task that finds it full is rejected.  When
the executor is shut down the tasks in the queue are dropped, while the one that runs goes on to its end.

An executor remembers what it has accepted, finished and dropped.  `Sound` says how the three belong
together, and every operation keeps it:

* `Sound.accepted` — tasks are finished in the order in which they were accepted, each once.
* `Sound.length_outstanding_le` — those not finished are as many as the queue holds and one more, at
  most, and no more than one after the executor was shut down.
-/

/-- An executor for tasks of type `τ`: one thread, and a queue with room for `capacity` tasks.  The
last three fields are a log that the executor never reads: the tasks that it has accepted, those that
its thread has finished, and those that it dropped when it was shut down. -/
structure Executor (τ : Type*) where
  capacity : ℕ
  threadStarted : Bool := false
  running : Option τ := none
  queue : List τ := []
  isShutdown : Bool := false
  accepted : List τ := []
  finished : List τ := []
  dropped : List τ := []
  deriving DecidableEq, Repr

namespace Executor

variable {τ : Type*} {e e' : Executor τ} {task : τ}

/-! ## Operations -/

/-- A task is accepted: the executor is not shut down, and either its thread, which comes with the
first task, has still to be started, or there is room in the queue. -/
def accepts (e : Executor τ) : Bool :=
  !e.isShutdown && (!e.threadStarted || e.queue.length < e.capacity)

/-- `execute`.  A task that is not accepted changes nothing; the first one that is goes to the new
thread at once, and any other into the queue. -/
def execute (e : Executor τ) (task : τ) : Executor τ :=
  if !e.accepts then e
  else if !e.threadStarted then
    { e with threadStarted := true, running := some task, accepted := e.accepted ++ [task] }
  else { e with queue := e.queue ++ [task], accepted := e.accepted ++ [task] }

/-- The thread takes the next task from the queue, if it is free and there is one.  It does not ask
whether the executor is shut down, as the queue is empty then. -/
def take (e : Executor τ) : Option (Executor τ) :=
  match e.running, e.queue with
  | none, task :: queue => some { e with running := some task, queue }
  | _, _ => none

/-- The task that runs comes to its end, and is handed out with the executor that is left. -/
def finish (e : Executor τ) : Option (τ × Executor τ) :=
  e.running.map fun task => (task, { e with running := none, finished := e.finished ++ [task] })

/-- `shutdownNow`.  Nothing is accepted any more and what waits in the queue is dropped, but the task
that runs is left to the thread, which may ignore its interruption. -/
def shutdownNow (e : Executor τ) : Executor τ :=
  { e with isShutdown := true, queue := [], dropped := e.dropped ++ e.queue }

/-- The tasks that are accepted but neither finished nor dropped: the one that runs, and then those in
the queue. -/
def outstanding (e : Executor τ) : List τ := e.running.toList ++ e.queue

@[simp] lemma capacity_execute (e : Executor τ) (task : τ) :
    (e.execute task).capacity = e.capacity := by
  unfold execute
  split_ifs <;> rfl

@[simp] lemma isShutdown_execute (e : Executor τ) (task : τ) :
    (e.execute task).isShutdown = e.isShutdown := by
  unfold execute
  split_ifs <;> rfl

@[simp] lemma finished_execute (e : Executor τ) (task : τ) :
    (e.execute task).finished = e.finished := by
  unfold execute
  split_ifs <;> rfl

lemma accepted_execute (haccepts : e.accepts = true) (task : τ) :
    (e.execute task).accepted = e.accepted ++ [task] := by
  unfold execute
  rw [haccepts]
  split_ifs <;> simp_all

/-- What `take` leaves alone: it moves a task from the queue to the thread, and touches no log. -/
lemma take_keeps (htake : e.take = some e') :
    e'.capacity = e.capacity ∧ e'.isShutdown = e.isShutdown ∧ e'.accepted = e.accepted ∧
      e'.finished = e.finished ∧ e'.dropped = e.dropped := by
  unfold take at htake
  split at htake
  · obtain rfl := Option.some.inj htake
    simp
  · cases htake

/-- What `finish` does: it writes the task that ran into the log of those that are finished, and
leaves the rest alone. -/
lemma finish_keeps (hfinish : e.finish = some (task, e')) :
    e'.capacity = e.capacity ∧ e'.isShutdown = e.isShutdown ∧ e'.accepted = e.accepted ∧
      e'.finished = e.finished ++ [task] ∧ e'.dropped = e.dropped := by
  unfold finish at hfinish
  obtain ⟨task', -, hpair⟩ := Option.map_eq_some_iff.mp hfinish
  obtain ⟨rfl, rfl⟩ := Prod.mk.inj hpair
  simp

/-! ## The invariant -/

/-- What is true of every executor.  What it has accepted is finished, outstanding or dropped, in this
order; the queue keeps its bound; and nothing is dropped before the executor is shut down, or waits
after that. -/
structure Sound (e : Executor τ) : Prop where
  accepted : e.accepted = e.finished ++ e.outstanding ++ e.dropped
  queue_le : e.queue.length ≤ e.capacity
  unstarted : e.threadStarted = false → e.accepted = []
  open_dropped : e.isShutdown = false → e.dropped = []
  shut_queue : e.isShutdown = true → e.queue = []
  dropped_le : e.dropped.length ≤ e.capacity

lemma sound_new (capacity : ℕ) : Sound (τ := τ) { capacity } := by
  constructor <;> simp [outstanding]

/-- A thread that has not been started has nothing to do. -/
lemma Sound.outstanding_of_unstarted (h : e.Sound) (hthread : e.threadStarted = false) :
    e.finished = [] ∧ e.outstanding = [] ∧ e.dropped = [] := by
  have haccepted := h.accepted
  rw [h.unstarted hthread] at haccepted
  simpa [and_assoc] using haccepted.symm

lemma Sound.execute (h : e.Sound) (task : τ) : (e.execute task).Sound := by
  rw [Executor.execute]
  split_ifs with hrejects hthread
  · exact h
  · rw [Bool.not_eq_true'] at hthread
    obtain ⟨hfinished, houtstanding, hdropped⟩ := h.outstanding_of_unstarted hthread
    have hqueue : e.queue = [] := by
      rw [outstanding, List.append_eq_nil_iff] at houtstanding
      exact houtstanding.2
    constructor <;> simp [outstanding, h.unstarted hthread, hfinished, hdropped, hqueue]
  · simp only [accepts, Bool.not_eq_true', Bool.not_eq_false, Bool.and_eq_true, Bool.or_eq_true,
      decide_eq_true_eq] at hrejects hthread
    have hopen : e.isShutdown = false := hrejects.1
    have hspace : e.queue.length < e.capacity := by
      rcases hrejects.2 with hstarted | hspace
      · rw [hthread] at hstarted
        cases hstarted
      · exact hspace
    constructor
    · simp [outstanding, h.accepted, h.open_dropped hopen]
    · simpa using hspace
    · simp [hthread]
    · exact h.open_dropped
    · simp [hopen]
    · exact h.dropped_le

lemma Sound.take (h : e.Sound) (htake : e.take = some e') : e'.Sound := by
  unfold Executor.take at htake
  split at htake
  · rename_i task queue hrunning hqueue
    obtain rfl := Option.some.inj htake
    have haccepted := h.accepted
    have hcapacity := h.queue_le
    rw [outstanding, hrunning, hqueue] at haccepted
    rw [hqueue, List.length_cons] at hcapacity
    constructor
    · simpa [outstanding] using haccepted
    · simp only
      omega
    · exact h.unstarted
    · exact h.open_dropped
    · intro hshut
      have hempty := h.shut_queue hshut
      rw [hqueue] at hempty
      cases hempty
    · exact h.dropped_le
  · cases htake

lemma Sound.finish (h : e.Sound) (hfinish : e.finish = some (task, e')) : e'.Sound := by
  rw [Executor.finish, Option.map_eq_some_iff] at hfinish
  obtain ⟨task', hrunning, hpair⟩ := hfinish
  obtain ⟨rfl, rfl⟩ := Prod.mk.inj hpair
  have haccepted := h.accepted
  rw [outstanding, hrunning] at haccepted
  constructor
  · simpa [outstanding] using haccepted
  · exact h.queue_le
  · exact h.unstarted
  · exact h.open_dropped
  · exact h.shut_queue
  · exact h.dropped_le

lemma Sound.shutdownNow (h : e.Sound) : e.shutdownNow.Sound := by
  have hdropped : (e.dropped ++ e.queue).length ≤ e.capacity ∧
      e.accepted = e.finished ++ e.running.toList ++ (e.dropped ++ e.queue) := by
    have haccepted := h.accepted
    rw [outstanding] at haccepted
    cases hshut : e.isShutdown with
    | false =>
        rw [h.open_dropped hshut] at haccepted ⊢
        exact ⟨by simpa using h.queue_le, by simpa using haccepted⟩
    | true =>
        rw [h.shut_queue hshut] at haccepted ⊢
        exact ⟨by simpa using h.dropped_le, by simpa using haccepted⟩
  constructor
  · simpa [Executor.shutdownNow, outstanding] using hdropped.2
  · simp [Executor.shutdownNow]
  · exact h.unstarted
  · simp [Executor.shutdownNow]
  · simp [Executor.shutdownNow]
  · exact hdropped.1

/-- **How much is outstanding**: a full queue and the task that runs while the executor is open, and
that task alone once it is shut down. -/
theorem Sound.length_outstanding_le (h : e.Sound) :
    e.outstanding.length ≤ if e.isShutdown then 1 else e.capacity + 1 := by
  have hrunning : e.running.toList.length ≤ 1 := by cases e.running <;> simp
  rw [outstanding, List.length_append]
  split_ifs with hshut
  · rw [h.shut_queue hshut, List.length_nil]
    exact hrunning
  · have hqueue := h.queue_le
    omega

end Executor
