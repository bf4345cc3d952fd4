import LegacyAlphaRemote.Core.Window
import LegacyAlphaRemote.Runtime.Idempotence

/-!
# What the deduplicator remembers

The deduplicator is asked for an id, and told what was answered when it did not know it: so it comes
by a log of answers (`History`).  It keeps what is left of that log (`Tells.remains`): of the last
`maximum` answers those whose time is not up.  Hence it finds an id exactly if there is such an answer
in the log, and what it finds is the last one (`History.refines`).

The loop of `prune`, which erases entries of the vector it walks through, is `pruneFrom`; it leaves
what the filter of the model leaves (`pruneFrom_zero`).
-/

namespace LegacyAlpha

/-- What was answered to a request, and when.  A log of these is what the deduplicator is compared
with. -/
structure Remembered where
  requestId : Bytes
  status : ℕ
  body : Bytes
  atMs : ℤ
  deriving DecidableEq, Repr

/-- The entry that was made of it, for as long as entries are kept. -/
def Remembered.entry (retentionMs : ℤ) (answer : Remembered) : Entry :=
  { requestId := answer.requestId
    status := answer.status
    body := answer.body
    expiresMs := answer.atMs + retentionMs }

namespace RequestDeduplicator

/-! ## The loop -/

/-- `prune`: the loop, from the index `i` on.  Where an entry is erased the next one comes to its
place, and the index stays. -/
def pruneFrom (nowMs : ℤ) (entries : List Entry) (i : ℕ) : List Entry :=
  if h : i < entries.length then
    if (entries.get ⟨i, h⟩).expiresMs ≤ nowMs then pruneFrom nowMs (entries.eraseIdx i) i
    else pruneFrom nowMs entries (i + 1)
  else entries
termination_by entries.length - i
decreasing_by
  · rw [List.length_eraseIdx_of_lt h]
    omega
  · omega

/-- Every entry is looked at once, also when others before it are erased. -/
lemma pruneFrom_append (nowMs : ℤ) (rest : List Entry) : ∀ kept : List Entry,
    pruneFrom nowMs (kept ++ rest) kept.length =
      kept ++ rest.filter fun entry => nowMs < entry.expiresMs := by
  induction rest with
  | nil =>
      intro kept
      rw [pruneFrom, dif_neg (by simp), List.filter_nil]
  | cons entry rest ih =>
      intro kept
      have hlt : kept.length < (kept ++ entry :: rest).length := by simp
      have hget : (kept ++ entry :: rest).get ⟨kept.length, hlt⟩ = entry := by simp
      rw [pruneFrom, dif_pos hlt, hget]
      split_ifs with hexpired
      · have herase : (kept ++ entry :: rest).eraseIdx kept.length = kept ++ rest := by
          simp [List.eraseIdx_append_of_length_le]
        rw [herase, ih, List.filter_cons_of_neg (by simpa using hexpired)]
      · have hnext := ih (kept ++ [entry])
        rw [List.append_assoc, List.singleton_append, List.length_append, List.length_singleton] at hnext
        rw [hnext, List.filter_cons_of_pos (by simpa using hexpired)]
        simp

/-- **The loop is the filter**: what the source erases one by one are the entries whose time has come,
and no other. -/
theorem pruneFrom_zero (deduplicator : RequestDeduplicator) (nowMs : ℤ) :
    { deduplicator with entries := pruneFrom nowMs deduplicator.entries 0 } =
      deduplicator.prune nowMs := by
  rw [prune, ← List.nil_append deduplicator.entries]
  exact congrArg _ (pruneFrom_append nowMs deduplicator.entries [])

/-! ## Histories -/

/-- The deduplicator after some calls of `find` and `remember`, the answers it was told, oldest first,
and the time of the last call.  It is told an answer right after it did not find the id. -/
inductive History (maximum : ℕ) (retentionMs : ℤ) :
    RequestDeduplicator → List Remembered → ℤ → Prop
  | new (atMs : ℤ) : History maximum retentionMs { maximum, retentionMs } [] atMs
  | find {deduplicator : RequestDeduplicator} {log : List Remembered} {atMs nowMs : ℤ}
      (requestId : Bytes) (h : History maximum retentionMs deduplicator log atMs)
      (hlater : atMs ≤ nowMs) :
      History maximum retentionMs (deduplicator.find requestId nowMs).2 log nowMs
  | remember {deduplicator : RequestDeduplicator} {log : List Remembered} {atMs nowMs : ℤ}
      (requestId : Bytes) (status : ℕ) (body : Bytes)
      (h : History maximum retentionMs deduplicator log atMs) (hlater : atMs ≤ nowMs)
      (hmissed : (deduplicator.find requestId nowMs).1 = none) :
      History maximum retentionMs
        ((deduplicator.find requestId nowMs).2.remember requestId status body nowMs)
        (log ++ [{ requestId, status, body, atMs := nowMs }]) nowMs

variable {deduplicator : RequestDeduplicator} {maximum : ℕ} {retentionMs atMs nowMs : ℤ}
  {log : List Remembered} {requestId : Bytes}

lemma prune_entries (deduplicator : RequestDeduplicator) (nowMs : ℤ) :
    (deduplicator.prune nowMs).entries = Window.live Entry.expiresMs nowMs deduplicator.entries := rfl

lemma remember_entries (deduplicator : RequestDeduplicator) (requestId : Bytes) (status : ℕ)
    (body : Bytes) (nowMs : ℤ) :
    (deduplicator.remember requestId status body nowMs).entries =
      Window.push Entry.expiresMs deduplicator.maximum nowMs deduplicator.entries
        (Remembered.entry deduplicator.retentionMs { requestId, status, body, atMs := nowMs }) := rfl

lemma History.bounds (h : History maximum retentionMs deduplicator log atMs) :
    deduplicator.maximum = maximum ∧ deduplicator.retentionMs = retentionMs := by
  induction h with
  | new atMs => exact ⟨rfl, rfl⟩
  | find requestId _ _ ih => exact ih
  | remember requestId status body _ _ _ ih => exact ih

/-- What is true of the deduplicator in every history: the log is in the order of time, and the
entries are what is left of it after the old and the many have gone, one for each id. -/
structure Tells (maximum : ℕ) (retentionMs : ℤ) (deduplicator : RequestDeduplicator)
    (log : List Remembered) (atMs : ℤ) : Prop where
  maximum_eq : deduplicator.maximum = maximum
  retentionMs_eq : deduplicator.retentionMs = retentionMs
  sorted : log.Pairwise fun older newer => older.atMs ≤ newer.atMs
  past : ∀ answer ∈ log, answer.atMs ≤ atMs
  remains : Window.Remains Entry.expiresMs maximum atMs (log.map (Remembered.entry retentionMs))
    deduplicator.entries
  nodup : (deduplicator.entries.map Entry.requestId).Nodup
  length_le : deduplicator.entries.length ≤ maximum

lemma Tells.find (h : Tells maximum retentionMs deduplicator log atMs) (hlater : atMs ≤ nowMs)
    (requestId : Bytes) :
    Tells maximum retentionMs (deduplicator.find requestId nowMs).2 log nowMs where
  maximum_eq := h.maximum_eq
  retentionMs_eq := h.retentionMs_eq
  sorted := h.sorted
  past answer hmem := (h.past answer hmem).trans hlater
  remains := h.remains.live hlater
  nodup := h.nodup.sublist (List.filter_sublist.map _)
  length_le := (Window.length_live_le _ nowMs _).trans h.length_le

/-- An id that was not found is not among the entries that are left. -/
lemma find_eq_none_iff :
    (deduplicator.find requestId nowMs).1 = none ↔
      requestId ∉ (deduplicator.prune nowMs).entries.map Entry.requestId := by
  simp [RequestDeduplicator.find]

lemma Tells.remember (hmax : 0 < maximum) (h : Tells maximum retentionMs deduplicator log atMs)
    (hlater : atMs ≤ nowMs) (hmissed : requestId ∉ deduplicator.entries.map Entry.requestId)
    (status : ℕ) (body : Bytes) :
    Tells maximum retentionMs (deduplicator.remember requestId status body nowMs)
      (log ++ [{ requestId, status, body, atMs := nowMs }]) nowMs where
  maximum_eq := h.maximum_eq
  retentionMs_eq := h.retentionMs_eq
  sorted := by
    rw [List.pairwise_append]
    refine ⟨h.sorted, List.pairwise_singleton _ _, ?_⟩
    intro answer hmem last hlast
    rw [List.mem_singleton.mp hlast]
    exact (h.past answer hmem).trans hlater
  past := by
    intro answer hmem
    rcases List.mem_append.mp hmem with hold | hnew
    · exact (h.past answer hold).trans hlater
    · rw [List.mem_singleton.mp hnew]
  remains := by
    rw [remember_entries, h.maximum_eq, h.retentionMs_eq, List.map_append]
    refine h.remains.push hmax ?_ hlater _
    rw [List.pairwise_map]
    refine h.sorted.imp fun hle => ?_
    simpa [Remembered.entry] using hle
  nodup := by
    rw [remember_entries, Window.push, List.map_append]
    have hkept : ∀ kept : List Entry, kept.Sublist deduplicator.entries →
        (kept.map Entry.requestId ++ [requestId]).Nodup := by
      intro kept hsub
      refine (h.nodup.sublist (hsub.map _)).append (List.nodup_singleton _) ?_
      intro id hid hlast
      rw [List.mem_singleton.mp hlast] at hid
      exact hmissed ((hsub.map _).mem hid)
    refine hkept _ ?_
    split_ifs
    · exact (List.tail_sublist _).trans List.filter_sublist
    · exact List.filter_sublist
  length_le := by
    rw [remember_entries, h.maximum_eq]
    exact Window.length_push_le hmax h.length_le nowMs _

/-- **What is left of the log** is what the deduplicator holds, in every history of its calls. -/
theorem History.tells (hmax : 0 < maximum)
    (h : History maximum retentionMs deduplicator log atMs) :
    Tells maximum retentionMs deduplicator log atMs := by
  induction h with
  | new atMs =>
      exact ⟨rfl, rfl, List.Pairwise.nil, by simp, fun later _ => by simp [Window.live],
        List.nodup_nil, Nat.zero_le _⟩
  | find requestId _ hlater ih => exact ih.find hlater requestId
  | remember requestId status body _ hlater hmissed ih =>
      exact (ih.find hlater requestId).remember hmax le_rfl (find_eq_none_iff.mp hmissed) status body

/-! ## What is found -/

/-- This answer stands in the log, its time is not up, and fewer than `maximum` are newer. -/
def Kept (maximum : ℕ) (retentionMs nowMs : ℤ) (log : List Remembered) (answer : Remembered) : Prop :=
  nowMs < answer.atMs + retentionMs ∧
    ∃ older newer, log = older ++ answer :: newer ∧ newer.length < maximum

/-- This answer is the last one in the log for the id, so that no newer one takes its place. -/
def Latest (log : List Remembered) (requestId : Bytes) (answer : Remembered) : Prop :=
  answer.requestId = requestId ∧ ∃ older newer, log = older ++ answer :: newer ∧
    ∀ other ∈ newer, other.requestId ≠ requestId

/-- An entry is left exactly if its answer is kept. -/
lemma Tells.mem_live_iff (h : Tells maximum retentionMs deduplicator log atMs) (hlater : atMs ≤ nowMs)
    (entry : Entry) :
    entry ∈ (deduplicator.prune nowMs).entries ↔
      ∃ answer, Kept maximum retentionMs nowMs log answer ∧ answer.entry retentionMs = entry := by
  rw [prune_entries, h.remains nowMs hlater, Window.mem_live, Window.mem_rtake_iff]
  constructor
  · rintro ⟨⟨older, newer, hsplit, hlength⟩, hnow⟩
    obtain ⟨older', rest, rfl, -, hrest⟩ := List.map_eq_append_iff.mp hsplit
    obtain ⟨answer, newer', rfl, rfl, rfl⟩ := List.map_eq_cons_iff.mp hrest
    exact ⟨answer, ⟨hnow, older', newer', rfl, by simpa using hlength⟩, rfl⟩
  · rintro ⟨answer, ⟨hnow, older, newer, rfl, hlength⟩, rfl⟩
    exact ⟨⟨older.map (Remembered.entry retentionMs), newer.map (Remembered.entry retentionMs),
      by simp, by simpa using hlength⟩, hnow⟩

/-- Of the answers for an id one is the last. -/
lemma exists_latest {answer : Remembered} (hmem : answer ∈ log) (hid : answer.requestId = requestId) :
    ∃ last, Latest log requestId last := by
  have hfind : (log.reverse.find? fun other => other.requestId == requestId).isSome := by
    simpa using ⟨answer, hmem, hid⟩
  obtain ⟨last, hlast⟩ := Option.isSome_iff_exists.mp hfind
  obtain ⟨hsame, newer, older, hsplit, hnewer⟩ := List.find?_eq_some_iff_append.mp hlast
  refine ⟨last, by simpa using hsame, older.reverse, newer.reverse, ?_, ?_⟩
  · rw [← List.reverse_reverse log, hsplit]
    simp
  · intro other hother
    simpa using hnewer other (List.mem_reverse.mp hother)

/-- The last answer for an id is kept when any is. -/
lemma Tells.kept_of_latest (h : Tells maximum retentionMs deduplicator log atMs)
    {answer last : Remembered} (hkept : Kept maximum retentionMs nowMs log answer)
    (hid : answer.requestId = requestId) (hlatest : Latest log requestId last) :
    Kept maximum retentionMs nowMs log last := by
  obtain ⟨hnow, older, newer, hsplit, hlength⟩ := hkept
  obtain ⟨-, older', newer', hsplit', hnewer'⟩ := hlatest
  have hsorted := h.sorted
  rcases List.append_eq_append_iff.mp (hsplit.symm.trans hsplit') with
    ⟨between, rfl, hbetween⟩ | ⟨between, rfl, hbetween⟩
  · cases between with
    | nil =>
        obtain ⟨rfl, rfl⟩ := List.cons.inj hbetween
        exact ⟨hnow, older, newer, hsplit, hlength⟩
    | cons next between =>
        obtain ⟨rfl, rfl⟩ := List.cons.inj hbetween
        rw [hsplit, List.pairwise_append] at hsorted
        have hle : answer.atMs ≤ last.atMs := (List.pairwise_cons.mp hsorted.2.1).1 last (by simp)
        refine ⟨by omega, older ++ answer :: between, newer', hsplit', ?_⟩
        simp at hlength
        omega
  · cases between with
    | nil =>
        obtain ⟨rfl, rfl⟩ := List.cons.inj hbetween
        exact ⟨hnow, _, newer', hsplit, hlength⟩
    | cons next between =>
        obtain ⟨rfl, rfl⟩ := List.cons.inj hbetween
        exact absurd hid (hnewer' answer (by simp))

/-- **The deduplicator refines the log**: it finds an id exactly if an answer for it is kept, and
finds the last one; it holds `maximum` entries at most, and no two for one id. -/
theorem History.refines (hmax : 0 < maximum)
    (h : History maximum retentionMs deduplicator log atMs) :
    (∀ requestId nowMs, atMs ≤ nowMs →
      ((deduplicator.find requestId nowMs).1.isSome ↔
        ∃ answer, answer.requestId = requestId ∧ Kept maximum retentionMs nowMs log answer) ∧
      ∀ entry, (deduplicator.find requestId nowMs).1 = some entry →
        ∃ answer, Latest log requestId answer ∧
          entry.status = answer.status ∧ entry.body = answer.body) ∧
    (deduplicator.entries.map Entry.requestId).Nodup ∧ deduplicator.entries.length ≤ maximum := by
  have htells := h.tells hmax
  refine ⟨fun requestId nowMs hlater => ⟨?_, ?_⟩, htells.nodup, htells.length_le⟩
  · rw [RequestDeduplicator.find, List.find?_isSome]
    constructor
    · rintro ⟨entry, hmem, hid⟩
      obtain ⟨answer, hkept, rfl⟩ := (htells.mem_live_iff hlater entry).mp hmem
      exact ⟨answer, beq_iff_eq.mp hid, hkept⟩
    · rintro ⟨answer, hid, hkept⟩
      exact ⟨answer.entry retentionMs, (htells.mem_live_iff hlater _).mpr ⟨answer, hkept, rfl⟩,
        beq_iff_eq.mpr hid⟩
  · intro entry hfind
    have hmem := List.mem_of_find?_eq_some hfind
    have hid : entry.requestId = requestId := by
      have hsome := List.find?_some hfind
      exact beq_iff_eq.mp hsome
    obtain ⟨answer, hkept, rfl⟩ := (htells.mem_live_iff hlater entry).mp hmem
    have hin : answer ∈ log := by
      obtain ⟨older, newer, hsplit, -⟩ := hkept.2
      simp [hsplit]
    obtain ⟨last, hlatest⟩ := exists_latest hin hid
    -- The last one is left too, and ids are not repeated.
    have hlast : last.entry retentionMs ∈ (deduplicator.prune nowMs).entries :=
      (htells.mem_live_iff hlater _).mpr ⟨last, htells.kept_of_latest hkept hid hlatest, rfl⟩
    have hnodup : ((deduplicator.prune nowMs).entries.map Entry.requestId).Nodup :=
      htells.nodup.sublist (List.filter_sublist.map _)
    have hsame : answer.entry retentionMs = last.entry retentionMs :=
      List.inj_on_of_nodup_map hnodup hmem hlast (hid.trans hlatest.1.symm)
    exact ⟨last, hlatest, by rw [hsame]; rfl, by rw [hsame]; rfl⟩

/-- The answers to three requests, and to the first one again after the table of two entries has lost it. -/
def crowdedLog : List Remembered :=
  [⟨[49], 202, [], 0⟩, ⟨[50], 202, [], 10⟩, ⟨[51], 409, [], 20⟩, ⟨[49], 409, [], 60⟩]

/-- The table of two entries that was told these answers, each after it did not find the id. -/
def crowded (log : List Remembered) : RequestDeduplicator :=
  log.foldl
    (fun deduplicator answer => (deduplicator.find answer.requestId answer.atMs).2.remember
      answer.requestId answer.status answer.body answer.atMs)
    { maximum := 2, retentionMs := 100 }

theorem crowded_refines :
    ((∀ requestId nowMs, 60 ≤ nowMs →
        (((crowded crowdedLog).find requestId nowMs).1.isSome ↔
          ∃ answer, answer.requestId = requestId ∧ Kept 2 100 nowMs crowdedLog answer) ∧
        ∀ entry, ((crowded crowdedLog).find requestId nowMs).1 = some entry →
          ∃ answer, Latest crowdedLog requestId answer ∧
            entry.status = answer.status ∧ entry.body = answer.body) ∧
      ((crowded crowdedLog).entries.map Entry.requestId).Nodup ∧
      (crowded crowdedLog).entries.length ≤ 2) ∧
    -- The second answer has gone for the fourth, the third is too old, and the fourth is found.
    ((crowded crowdedLog).find [50] 60).1 = none ∧
    ((crowded crowdedLog).find [51] 60).1.map Entry.status = some 409 ∧
    ((crowded crowdedLog).find [51] 120).1 = none ∧
    ((crowded crowdedLog).find [49] 120).1.map Entry.status = some 409 := by
  refine ⟨History.refines (by decide) ?_, by decide, by decide, by decide, by decide⟩
  have hfirst : History 2 100 (crowded (crowdedLog.take 1)) (crowdedLog.take 1) 0 :=
    (History.new 0).remember [49] 202 [] le_rfl rfl
  have hsecond : History 2 100 (crowded (crowdedLog.take 2)) (crowdedLog.take 2) 10 :=
    hfirst.remember [50] 202 [] (by decide) rfl
  have hthird : History 2 100 (crowded (crowdedLog.take 3)) (crowdedLog.take 3) 20 :=
    hsecond.remember [51] 409 [] (by decide) rfl
  exact hthird.remember [49] 409 [] (by decide) rfl

end RequestDeduplicator

/-! ## The runtime's deduplicator -/

/-- **The runtime calls the deduplicator in this way**, while the clock does not go back. -/
theorem RuntimePath.history {assets : Assets} {target : Target} {config : NativeConfig}
    {rt rt' : NativeRuntime} {steps : List RuntimeStep} {maximum : ℕ} {retentionMs : ℤ}
    (hpath : RuntimePath assets target config rt steps rt')
    (hmonotonic : steps.Pairwise fun s t => s.now ≤ t.now) :
    ∀ {log : List Remembered} {atMs : ℤ}, (∀ s ∈ steps, atMs ≤ s.now) →
      RequestDeduplicator.History maximum retentionMs rt.deduplicator log atMs →
      ∃ log' atMs',
        RequestDeduplicator.History maximum retentionMs rt'.deduplicator log' atMs' := by
  induction hpath with
  | refl rt => exact fun _ h => ⟨_, _, h⟩
  | @step rt rt' steps op clock answers hrest ih =>
      intro log atMs hlater h
      obtain ⟨hnext, hmonotonic⟩ := List.pairwise_cons.mp hmonotonic
      obtain ⟨hnow, hlater⟩ := List.forall_mem_cons.mp hlater
      rcases deduplicator_step (s := rt.step assets target config op clock answers) rfl with
        ⟨-, hsame | ⟨-, hclear⟩⟩ | ⟨capture, hcapture, hstep⟩
      · exact ih hmonotonic hlater (hsame ▸ h)
      · have hbounds : rt.deduplicator.clear = { maximum, retentionMs } := by
          rw [RequestDeduplicator.clear, h.bounds.1, h.bounds.2]
        refine ih hmonotonic hlater (?_ : RequestDeduplicator.History _ _ _ [] atMs)
        rw [hclear, hbounds]
        exact .new atMs
      · rcases hstep with ⟨old, hfind, -, -, -, hprune⟩ | ⟨hfind, status, body, -, hremember⟩
        · have hfound := h.find capture.requestId hnow
          refine ih hmonotonic hnext (?_ : RequestDeduplicator.History _ _ _ log _)
          rw [hprune]
          exact hfound
        · have hremembered := h.remember capture.requestId status body hnow hfind
          exact ih hmonotonic hnext (hremember ▸ hremembered)

end LegacyAlpha
