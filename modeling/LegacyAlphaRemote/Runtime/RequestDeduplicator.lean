import LegacyAlphaRemote.Core.Bytes

/-!
# The request deduplicator

`request_deduplicator.cpp`: the answers to the last requests, by request id.  An answer is forgotten
when its time is up and when too many newer ones push it out.

`Held` says where an entry stands: it can still be found, and this many entries are newer.  A
`remember` moves it one place towards the front (`Held.remember`) and drops it only from the very
front, so that an entry with fewer than `maximum` newer ones is found until it expires.
-/

namespace LegacyAlpha

/-- `RequestDeduplicator::Entry`: an answer, and when it is forgotten. -/
structure Entry where
  requestId : Bytes
  status : ℕ
  body : Bytes
  expiresMs : ℤ
  deriving DecidableEq, Repr

/-- `RequestDeduplicator`, with the entries in the order in which they were made. -/
structure RequestDeduplicator where
  maximum : ℕ
  retentionMs : ℤ
  entries : List Entry := []
  deriving DecidableEq, Repr

namespace RequestDeduplicator

/-- `prune`: the entries whose time has come are erased.  The loop of the source comes to this filter,
as `pruneFrom_zero` says. -/
def prune (deduplicator : RequestDeduplicator) (nowMs : ℤ) : RequestDeduplicator :=
  { deduplicator with entries := deduplicator.entries.filter fun entry => nowMs < entry.expiresMs }

/-- `find`: the first entry for the id, if any, after those whose time has come are erased. -/
def find (deduplicator : RequestDeduplicator) (requestId : Bytes) (nowMs : ℤ) :
    Option Entry × RequestDeduplicator :=
  let deduplicator := deduplicator.prune nowMs
  (deduplicator.entries.find? fun entry => entry.requestId == requestId, deduplicator)

/-- `remember`: an entry at the end, for which the oldest has to go when there are as many as there
may be. -/
def remember (deduplicator : RequestDeduplicator) (requestId : Bytes) (status : ℕ) (body : Bytes)
    (nowMs : ℤ) : RequestDeduplicator :=
  let deduplicator := deduplicator.prune nowMs
  let kept := if deduplicator.entries.length ≥ deduplicator.maximum then deduplicator.entries.tail
    else deduplicator.entries
  { deduplicator with
    entries := kept ++
      [{ requestId, status, body, expiresMs := nowMs + deduplicator.retentionMs }] }

/-- `clear`: every entry is forgotten. -/
def clear (deduplicator : RequestDeduplicator) : RequestDeduplicator :=
  { deduplicator with entries := [] }

variable {deduplicator : RequestDeduplicator} {entry : Entry} {nowMs : ℤ} {n : ℕ}

/-! ## Where an entry stands -/

/-- The id is known to no entry, so that an entry made of it is the only one. -/
def Unknown (deduplicator : RequestDeduplicator) (requestId : Bytes) : Prop :=
  ∀ entry ∈ deduplicator.entries, entry.requestId ≠ requestId

/-- The entry is the only one for its id, and at most `n` entries are newer. -/
def Held (deduplicator : RequestDeduplicator) (entry : Entry) (n : ℕ) : Prop :=
  ∃ older newer, deduplicator.entries = older ++ entry :: newer ∧ newer.length ≤ n ∧
    ∀ other ∈ older ++ newer, other.requestId ≠ entry.requestId

@[simp] lemma prune_maximum : (deduplicator.prune nowMs).maximum = deduplicator.maximum := rfl

@[simp] lemma prune_retentionMs :
    (deduplicator.prune nowMs).retentionMs = deduplicator.retentionMs := rfl

lemma Unknown.prune {requestId : Bytes} (h : deduplicator.Unknown requestId) :
    (deduplicator.prune nowMs).Unknown requestId :=
  fun entry hentry => h entry (List.mem_filter.mp hentry).1

lemma Unknown.find {requestId : Bytes} (h : deduplicator.Unknown requestId) :
    (deduplicator.find requestId nowMs).1 = none := by
  rw [RequestDeduplicator.find, List.find?_eq_none]
  intro entry hentry hid
  exact h.prune entry hentry (beq_iff_eq.mp hid)

/-- The ids a `remember` leaves are those it met and the new one. -/
lemma Unknown.remember {requestId other : Bytes} (h : deduplicator.Unknown requestId)
    (hne : other ≠ requestId) (status : ℕ) (body : Bytes) :
    (deduplicator.remember other status body nowMs).Unknown requestId := by
  intro entry hentry
  simp only [RequestDeduplicator.remember] at hentry
  rcases List.mem_append.mp hentry with hold | hnew
  · split_ifs at hold
    · exact h.prune entry (List.mem_of_mem_tail hold)
    · exact h.prune entry hold
  · rw [List.mem_singleton.mp hnew]
    exact hne

/-- Until it expires an entry is not pruned. -/
lemma Held.prune (h : deduplicator.Held entry n) (hnow : nowMs < entry.expiresMs) :
    (deduplicator.prune nowMs).Held entry n := by
  obtain ⟨older, newer, hentries, hlen, hids⟩ := h
  refine ⟨older.filter (fun e => nowMs < e.expiresMs), newer.filter (fun e => nowMs < e.expiresMs),
    ?_, (List.length_filter_le _ _).trans hlen, fun other hother => hids other ?_⟩
  · simp only [RequestDeduplicator.prune, hentries]
    rw [List.filter_append, List.filter_cons_of_pos (by simpa using hnow)]
  · rw [← List.filter_append] at hother
    exact (List.mem_filter.mp hother).1

/-- **An entry that is held is found** until it expires, whatever other entries there are. -/
theorem Held.find (h : deduplicator.Held entry n) (hnow : nowMs < entry.expiresMs) :
    (deduplicator.find entry.requestId nowMs).1 = some entry := by
  obtain ⟨older, newer, hentries, -, hids⟩ := h.prune hnow
  have holder : older.find? (fun other => other.requestId == entry.requestId) = none := by
    rw [List.find?_eq_none]
    intro other hother hid
    exact hids other (List.mem_append_left _ hother) (beq_iff_eq.mp hid)
  rw [RequestDeduplicator.find, hentries, List.find?_append, holder]
  simp

/-- A new entry is held, and none is newer. -/
lemma held_remember {requestId : Bytes} (h : deduplicator.Unknown requestId) (status : ℕ)
    (body : Bytes) :
    (deduplicator.remember requestId status body nowMs).Held
      { requestId, status, body, expiresMs := nowMs + deduplicator.retentionMs } 0 := by
  refine ⟨_, [], rfl, le_rfl, fun other hother => ?_⟩
  rw [List.append_nil] at hother
  split_ifs at hother
  · exact h.prune other (List.mem_of_mem_tail hother)
  · exact h.prune other hother

/-- **One more entry**: the others stay where they are, one place further from the end, as long as
that place is still there. -/
theorem Held.remember (h : deduplicator.Held entry n) (hnow : nowMs < entry.expiresMs)
    (hn : n + 1 < deduplicator.maximum) {requestId : Bytes} (hid : requestId ≠ entry.requestId)
    (status : ℕ) (body : Bytes) :
    (deduplicator.remember requestId status body nowMs).Held entry (n + 1) := by
  obtain ⟨older, newer, hentries, hlen, hids⟩ := h.prune hnow
  let fresh : Entry := { requestId, status, body, expiresMs := nowMs + deduplicator.retentionMs }
  -- The oldest entry goes when the place is needed; there is an older one than `entry` then.
  have hkept : ∃ older', (deduplicator.remember requestId status body nowMs).entries =
      older' ++ entry :: (newer ++ [fresh]) ∧ ∀ other ∈ older', other ∈ older := by
    simp only [RequestDeduplicator.remember, hentries]
    split_ifs with hfull
    · cases older with
      | nil =>
          rw [List.nil_append, List.length_cons, prune_maximum] at hfull
          omega
      | cons oldest older =>
          exact ⟨older, by simp [fresh], fun other hother => List.mem_cons_of_mem _ hother⟩
    · exact ⟨older, by simp [fresh], fun other hother => hother⟩
  obtain ⟨older', hremembered, hsub⟩ := hkept
  refine ⟨older', newer ++ [fresh], hremembered, ?_, fun other hother => ?_⟩
  · rw [List.length_append, List.length_singleton]
    omega
  · rcases List.mem_append.mp hother with hold | hnew
    · exact hids other (List.mem_append_left _ (hsub other hold))
    · rcases List.mem_append.mp hnew with hnewer | hfresh
      · exact hids other (List.mem_append_right _ hnewer)
      · rw [List.mem_singleton.mp hfresh]
        exact hid

end RequestDeduplicator

end LegacyAlpha
