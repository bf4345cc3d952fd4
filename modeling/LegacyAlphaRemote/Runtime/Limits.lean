import LegacyAlphaRemote.Core.TokenBucket
import LegacyAlphaRemote.Runtime.RateLimiter

/-!
# What the limiter allows

Every address has a bucket of its own, and there is room for so many of them.  The addresses stand in
a queue, in the order in which their buckets were made (`enqueue`); when there is no room for a new
one the first of the queue goes, and with it its bucket.

**Isolation.**  Nothing else passes from one address to another: what an address is answered is what
it would be answered alone, if the limiter were cleared whenever its bucket is pushed out
(`allow_isolated`).  An address whose allowance is used up gets a full bucket back in this way, when
enough others come by.

**Bounds.**  As long as there is room for everyone, an address is a `TokenBucket`
(`answersFor_eq_bucket`), and its bounds are those of the bucket (`allow_metered`).
-/

namespace LegacyAlpha

/-- An operation of the limiter, a call for a key at its time, or `clear`. -/
inductive LimiterOp
  | Allow (key : Bytes) (nowMs : ℤ)
  | Clear
  deriving DecidableEq, Repr

/-- The key a call is for; `clear` has none. -/
def LimiterOp.key? : LimiterOp → Option Bytes
  | .Allow key _ => some key
  | .Clear => none

/-- The call with this key and time, as an operation. -/
def LimiterOp.ofCall (call : Bytes × ℤ) : LimiterOp := .Allow call.1 call.2

/-- It is the bucket of this key. -/
def Bucket.isFor (key : Bytes) (bucket : Bucket) : Bool := bucket.key == key

/-- The tokens of this bucket and the time they were counted, as a bucket of the library has them. -/
def Bucket.meter (bucket : Bucket) : TokenBucket ℚ := ⟨bucket.tokens, bucket.lastMs⟩

namespace RateLimiter

/-- The limiter after an operation, without what it answers. -/
def perform (limiter : RateLimiter) : LimiterOp → RateLimiter
  | .Allow key nowMs => (limiter.allow key nowMs).2
  | .Clear => limiter.clear

/-- What the calls for this key are answered, each with its time, among the calls for others. -/
def answersFor (key : Bytes) : RateLimiter → List LimiterOp → List (ℤ × Bool)
  | _, [] => []
  | limiter, .Clear :: ops => answersFor key limiter.clear ops
  | limiter, .Allow other nowMs :: ops =>
    let rest := answersFor key (limiter.allow other nowMs).2 ops
    if other = key then (nowMs, (limiter.allow other nowMs).1) :: rest else rest

/-! ## The queue -/

/-- The queue of the keys, after a call for this one: a new key comes to the end, and the first one
goes if the queue is full. -/
def enqueue (maximumKeys : ℕ) (queue : List Bytes) (key : Bytes) : List Bytes :=
  if key ∈ queue then queue
  else (if queue.length ≥ maximumKeys then queue.tail else queue) ++ [key]

/-- The calls for this key alone, and a `Clear` where a call for another key pushes it out. -/
def isolate (maximumKeys : ℕ) (key : Bytes) : List Bytes → List LimiterOp → List LimiterOp
  | _, [] => []
  | _, .Clear :: ops => .Clear :: isolate maximumKeys key [] ops
  | queue, .Allow other nowMs :: ops =>
    let rest := isolate maximumKeys key (enqueue maximumKeys queue other) ops
    if other = key then .Allow key nowMs :: rest
    else if key ∈ queue ∧ key ∉ enqueue maximumKeys queue other then .Clear :: rest
    else rest

/-- The operations that concern this key: the calls for it, and every `clear`. -/
def concerns (key : Bytes) : LimiterOp → Bool
  | .Allow other _ => other == key
  | .Clear => true

/-- The keys other than this one that are called for. -/
def others (key : Bytes) (ops : List LimiterOp) : Finset Bytes :=
  (ops.filterMap LimiterOp.key?).toFinset.erase key

/-- The limiter without the buckets of the other keys, as it would be had nobody else called. -/
def only (limiter : RateLimiter) (key : Bytes) : RateLimiter :=
  { limiter with buckets := limiter.buckets.filter (Bucket.isFor key) }

/-- The keys that have buckets, in the order in which they got them. -/
def keys (limiter : RateLimiter) : List Bytes := limiter.buckets.map Bucket.key

variable {limiter : RateLimiter} {key other : Bytes} {nowMs : ℤ} {queue : List Bytes} {maximumKeys : ℕ}

lemma any_key_iff (limiter : RateLimiter) (key : Bytes) :
    (limiter.buckets.any fun bucket => bucket.key == key) = true ↔ key ∈ limiter.keys := by
  simp [keys]

lemma allow_keys (limiter : RateLimiter) (key : Bytes) (nowMs : ℤ) :
    (limiter.allow key nowMs).2.keys = enqueue limiter.maximumKeys limiter.keys key := by
  have hkeys : (limiter.allow key nowMs).2.keys =
      (limiter.withBucket key nowMs).map Bucket.key := limiter.spend_keys key nowMs _
  rw [hkeys, withBucket, enqueue]
  by_cases hin : key ∈ limiter.keys
  · rw [if_pos ((any_key_iff limiter key).mpr hin), if_pos hin]
    rfl
  · rw [if_neg (fun hany => hin ((any_key_iff limiter key).mp hany)), if_neg hin, List.map_append]
    refine congrArg (· ++ [key]) ?_
    rw [keys, List.length_map]
    split_ifs
    · exact List.map_tail
    · rfl

lemma nodup_enqueue (h : queue.Nodup) (key : Bytes) : (enqueue maximumKeys queue key).Nodup := by
  rw [enqueue]
  split_ifs with hin hfull
  · exact h
  · refine (h.sublist (List.tail_sublist queue)).append (List.nodup_singleton key) ?_
    intro other htail hmem
    rw [List.mem_singleton.mp hmem] at htail
    exact hin (List.mem_of_mem_tail htail)
  · refine h.append (List.nodup_singleton key) ?_
    intro other hold hmem
    rw [List.mem_singleton.mp hmem] at hold
    exact hin hold

/-! ## One key alone -/

lemma refill_key (limiter : RateLimiter) (bucket : Bucket) (nowMs : ℤ) :
    (limiter.refill bucket nowMs).key = bucket.key := by
  rw [refill]
  split_ifs <;> rfl

/-- A token is taken from one bucket, whichever others there are. -/
lemma spend_only (limiter : RateLimiter) (key : Bytes) (nowMs : ℤ) (buckets : List Bucket) :
    (limiter.only key).spend key nowMs (buckets.filter (Bucket.isFor key)) =
      ((limiter.spend key nowMs buckets).1,
        (limiter.spend key nowMs buckets).2.filter (Bucket.isFor key)) := by
  induction buckets with
  | nil => rfl
  | cons bucket buckets ih =>
      by_cases hkey : (bucket.key == key) = true
      · have hrefilled : (limiter.refill bucket nowMs).isFor key = true := by
          rw [Bucket.isFor, refill_key]
          exact hkey
        have hrefill : (limiter.only key).refill bucket nowMs = limiter.refill bucket nowMs := rfl
        have hspent : (Bucket.isFor key { limiter.refill bucket nowMs with
            tokens := (limiter.refill bucket nowMs).tokens - 1 }) = true := hrefilled
        rw [List.filter_cons_of_pos (show bucket.isFor key = true from hkey), spend, spend,
          if_pos hkey, if_pos hkey]
        dsimp only
        rw [hrefill]
        split_ifs
        · rw [List.filter_cons_of_pos hrefilled]
        · rw [List.filter_cons_of_pos hspent]
      · have hfor : ¬ bucket.isFor key = true := hkey
        rw [List.filter_cons_of_neg hfor, ih, spend, if_neg hkey]
        dsimp only
        rw [List.filter_cons_of_neg hfor]

/-- The other buckets stay as they are. -/
lemma spend_filter_of_ne (hne : other ≠ key) (limiter : RateLimiter) (nowMs : ℤ)
    (buckets : List Bucket) :
    (limiter.spend other nowMs buckets).2.filter (Bucket.isFor key) =
      buckets.filter (Bucket.isFor key) := by
  induction buckets with
  | nil => rfl
  | cons bucket buckets ih =>
      rw [spend]
      by_cases hother : (bucket.key == other) = true
      · have hbucket : bucket.key = other := beq_iff_eq.mp hother
        have hrefilled : (limiter.refill bucket nowMs).key = other := by rw [refill_key, hbucket]
        rw [if_pos hother, List.filter_cons_of_neg (by simpa [Bucket.isFor, hbucket] using hne)]
        dsimp only
        split_ifs
        · rw [List.filter_cons_of_neg (by simpa [Bucket.isFor, hrefilled] using hne)]
        · rw [List.filter_cons_of_neg (by simpa [Bucket.isFor, hrefilled] using hne)]
      · rw [if_neg hother]
        dsimp only
        rw [List.filter_cons, List.filter_cons, ih]

lemma filter_isFor_eq_nil_iff (key : Bytes) (buckets : List Bucket) :
    buckets.filter (Bucket.isFor key) = [] ↔ key ∉ buckets.map Bucket.key := by
  simp [List.filter_eq_nil_iff, Bucket.isFor]

lemma withBucket_only (hmax : 0 < limiter.maximumKeys) (key : Bytes) (nowMs : ℤ) :
    (limiter.only key).withBucket key nowMs =
      (limiter.withBucket key nowMs).filter (Bucket.isFor key) := by
  have hkeys : key ∈ (limiter.only key).keys ↔ key ∈ limiter.keys := by
    simp [keys, only, Bucket.isFor]
  rw [withBucket, withBucket]
  by_cases hin : key ∈ limiter.keys
  · rw [if_pos ((any_key_iff limiter key).mpr hin),
      if_pos ((any_key_iff (limiter.only key) key).mpr (hkeys.mpr hin))]
    rfl
  · have hnone : limiter.buckets.filter (Bucket.isFor key) = [] :=
      (filter_isFor_eq_nil_iff key _).mpr hin
    have htail : limiter.buckets.tail.filter (Bucket.isFor key) = [] :=
      List.sublist_nil.mp (hnone ▸ (List.tail_sublist _).filter _)
    have honly : (limiter.only key).buckets = [] := hnone
    have hfresh : (⟨key, limiter.capacity, nowMs⟩ : Bucket).isFor key = true := beq_self_eq_true key
    rw [if_neg (fun hany => hin ((any_key_iff limiter key).mp hany)),
      if_neg (fun hany => hin (hkeys.mp ((any_key_iff (limiter.only key) key).mp hany))),
      List.filter_append, List.filter_cons_of_pos hfresh, List.filter_nil, honly,
      if_neg (show ¬ ([] : List Bucket).length ≥ (limiter.only key).maximumKeys from
        not_le.mpr hmax)]
    split_ifs
    · rw [htail]
      rfl
    · rw [hnone]
      rfl

/-- **A call for the key** finds its bucket, whichever others there are. -/
lemma allow_only (hmax : 0 < limiter.maximumKeys) (key : Bytes) (nowMs : ℤ) :
    (limiter.only key).allow key nowMs =
      ((limiter.allow key nowMs).1, (limiter.allow key nowMs).2.only key) := by
  rw [allow, withBucket_only hmax, spend_only]
  rfl

/-- **A call for another key** leaves its bucket alone, or pushes it out. -/
lemma allow_only_of_ne (hne : other ≠ key) (hnodup : limiter.keys.Nodup) (nowMs : ℤ) :
    (limiter.allow other nowMs).2.only key =
      if key ∈ limiter.keys ∧ key ∉ enqueue limiter.maximumKeys limiter.keys other then
        (limiter.only key).clear
      else limiter.only key := by
  have hbuckets : (limiter.allow other nowMs).2.buckets.filter (Bucket.isFor key) =
      (limiter.withBucket other nowMs).filter (Bucket.isFor key) := spend_filter_of_ne hne _ _ _
  have hfresh : ¬ (⟨other, limiter.capacity, nowMs⟩ : Bucket).isFor key = true := by
    simpa [Bucket.isFor] using hne
  by_cases hgone : key ∈ limiter.keys ∧ key ∉ enqueue limiter.maximumKeys limiter.keys other
  · rw [if_pos hgone]
    have hnone : (limiter.allow other nowMs).2.buckets.filter (Bucket.isFor key) = [] := by
      rw [filter_isFor_eq_nil_iff]
      have hkeys := allow_keys limiter other nowMs
      rw [keys] at hkeys
      rw [hkeys]
      exact hgone.2
    rw [only, hnone]
    rfl
  · rw [if_neg hgone]
    have hsame : (limiter.withBucket other nowMs).filter (Bucket.isFor key) =
        limiter.buckets.filter (Bucket.isFor key) := by
      rw [withBucket]
      by_cases hin : other ∈ limiter.keys
      · rw [if_pos ((any_key_iff limiter other).mpr hin)]
      · rw [if_neg (fun hany => hin ((any_key_iff limiter other).mp hany)), List.filter_append,
          List.filter_cons_of_neg hfresh, List.filter_nil, List.append_nil]
        by_cases hfull : limiter.buckets.length ≥ limiter.maximumKeys
        · -- The first bucket goes, and it is not the key's.
          rw [if_pos hfull]
          cases hbuckets : limiter.buckets with
          | nil => rfl
          | cons bucket buckets =>
              have hfirst : ¬ bucket.isFor key = true := by
                intro hfor
                have hkeys : limiter.keys = key :: buckets.map Bucket.key := by
                  rw [keys, hbuckets, List.map_cons, beq_iff_eq.mp hfor]
                refine hgone ⟨by simp [hkeys], ?_⟩
                have hlength : limiter.keys.length = limiter.buckets.length := List.length_map _
                rw [enqueue, if_neg hin, hlength, if_pos hfull, hkeys, List.tail_cons]
                rw [hkeys] at hnodup
                simpa [hne.symm] using (List.nodup_cons.mp hnodup).1
              rw [List.filter_cons_of_neg hfirst, List.tail_cons]
        · rw [if_neg hfull]
    rw [only, hbuckets, hsame]
    rfl

/-- What the calls for a key are answered depends on its own bucket, and on when it is pushed out. -/
lemma answersFor_isolate (key : Bytes) (ops : List LimiterOp) : ∀ limiter : RateLimiter,
    0 < limiter.maximumKeys → limiter.keys.Nodup →
    answersFor key limiter ops =
      answersFor key (limiter.only key) (isolate limiter.maximumKeys key limiter.keys ops) := by
  induction ops with
  | nil => exact fun _ _ _ => rfl
  | cons op ops ih =>
      intro limiter hmax hnodup
      cases op with
      | Clear => exact ih limiter.clear hmax List.nodup_nil
      | Allow other nowMs =>
          have hkeys := allow_keys limiter other nowMs
          have hrest := ih (limiter.allow other nowMs).2 hmax
            (hkeys ▸ nodup_enqueue hnodup other)
          rw [hkeys] at hrest
          rw [answersFor, isolate]
          by_cases hsame : other = key
          · subst hsame
            have honly := allow_only hmax other nowMs
            rw [if_pos rfl, if_pos rfl, answersFor, if_pos rfl, honly, hrest]
            rfl
          · have honly := allow_only_of_ne hsame hnodup nowMs
            rw [if_neg hsame, if_neg hsame, hrest, honly]
            split_ifs
            · rfl
            · rfl

/-! ## Room for all -/

@[simp] lemma others_nil (key : Bytes) : others key [] = ∅ := rfl

@[simp] lemma others_clear (key : Bytes) (ops : List LimiterOp) :
    others key (.Clear :: ops) = others key ops := rfl

lemma others_allow (key other : Bytes) (nowMs : ℤ) (ops : List LimiterOp) :
    others key (.Allow other nowMs :: ops) =
      if other = key then others key ops else insert other (others key ops) := by
  have hkey : LimiterOp.key? (.Allow other nowMs) = some other := rfl
  rw [others, List.filterMap_cons_some hkey, List.toFinset_cons]
  split_ifs with hsame
  · rw [hsame, Finset.erase_insert_eq_erase]
    rfl
  · rw [Finset.erase_insert_of_ne hsame]
    rfl

/-- There is room for the key: those who stand behind it, and those who are still to come, do not
fill the queue. -/
structure Room (maximumKeys : ℕ) (key : Bytes) (queue : List Bytes) (ops : List LimiterOp) :
    Prop where
  nodup : queue.Nodup
  outside : (others key ops).card < maximumKeys
  behind : ∀ older newer : List Bytes, queue = older ++ key :: newer →
    (newer.toFinset ∪ others key ops).card < maximumKeys

/-- A queue that has been appended to is the old one or a part of it, with the new key behind. -/
lemma enqueue_of_not_mem (maximumKeys : ℕ) (hout : other ∉ queue) :
    ∃ gone rest, queue = gone ++ rest ∧ enqueue maximumKeys queue other = rest ++ [other] ∧
      (gone ≠ [] → maximumKeys ≤ queue.length) ∧ gone.length ≤ 1 := by
  rw [enqueue, if_neg hout]
  by_cases hfull : queue.length ≥ maximumKeys
  · rw [if_pos hfull]
    cases queue with
    | nil => exact ⟨[], [], rfl, rfl, fun h => absurd rfl h, Nat.zero_le 1⟩
    | cons first rest => exact ⟨[first], rest, rfl, rfl, fun _ => hfull, le_rfl⟩
  · rw [if_neg hfull]
    exact ⟨[], queue, rfl, rfl, fun h => absurd rfl h, Nat.zero_le 1⟩

/-- **The key stays** where there is room for it. -/
lemma Room.mem_enqueue {ops : List LimiterOp} (hne : other ≠ key)
    (h : Room maximumKeys key queue (.Allow other nowMs :: ops)) (hin : key ∈ queue) :
    key ∈ enqueue maximumKeys queue other := by
  by_cases hold : other ∈ queue
  · rwa [enqueue, if_pos hold]
  obtain ⟨gone, rest, hqueue, henqueue, hfull, hone⟩ := enqueue_of_not_mem maximumKeys hold
  rw [henqueue]
  rw [hqueue] at hin
  rcases List.mem_append.mp hin with hgone | hrest
  · -- The key would be the one to go, with all the queue behind it.
    exfalso
    obtain ⟨-, rfl⟩ : gone ≠ [] ∧ gone = [key] := by
      cases gone with
      | nil => simp at hgone
      | cons first gone =>
          have hnil : gone = [] := List.length_eq_zero_iff.mp (by simpa using hone)
          subst hnil
          exact ⟨by simp, by rw [List.mem_singleton.mp hgone]⟩
    have hlength : maximumKeys ≤ rest.length + 1 := by
      simpa [hqueue] using hfull (by simp)
    have hroom : (rest.toFinset ∪ others key (.Allow other nowMs :: ops)).card < maximumKeys :=
      h.behind [] rest hqueue
    have hnodup : rest.Nodup := (hqueue ▸ h.nodup).of_append_right
    have hfresh : other ∉ rest.toFinset := by
      rw [List.mem_toFinset]
      exact fun hmem => hold (hqueue ▸ List.mem_append_right _ hmem)
    have hsub : insert other rest.toFinset ⊆ rest.toFinset ∪ others key (.Allow other nowMs :: ops) := by
      rw [others_allow, if_neg hne, Finset.union_insert]
      exact Finset.insert_subset_insert _ Finset.subset_union_left
    have hcard := Finset.card_le_card hsub
    rw [Finset.card_insert_of_notMem hfresh, List.toFinset_card_of_nodup hnodup] at hcard
    omega
  · exact List.mem_append_left _ hrest

/-- **Room is kept** by every call, be it for the key itself or for another. -/
lemma Room.enqueue {ops : List LimiterOp}
    (h : Room maximumKeys key queue (.Allow other nowMs :: ops)) :
    Room maximumKeys key (RateLimiter.enqueue maximumKeys queue other) ops := by
  have hsub : others key ops ⊆ others key (.Allow other nowMs :: ops) := by
    rw [others_allow]
    split_ifs
    · exact subset_rfl
    · exact Finset.subset_insert _ _
  refine ⟨nodup_enqueue h.nodup other, (Finset.card_le_card hsub).trans_lt h.outside, ?_⟩
  intro older newer hsplit
  by_cases hold : other ∈ queue
  · rw [RateLimiter.enqueue, if_pos hold] at hsplit
    exact (Finset.card_le_card (Finset.union_subset_union_right hsub)).trans_lt (h.behind older newer hsplit)
  obtain ⟨gone, rest, hqueue, henqueue, -, -⟩ := enqueue_of_not_mem maximumKeys hold
  rw [henqueue] at hsplit
  rcases List.eq_nil_or_concat newer with rfl | ⟨between, last, rfl⟩
  · -- The key itself has come.
    rw [List.toFinset_nil, Finset.empty_union]
    exact (Finset.card_le_card hsub).trans_lt h.outside
  · have hsplit' : rest ++ [other] = (older ++ key :: between) ++ [last] := by
      rw [hsplit]
      simp
    obtain ⟨hrest, hlast⟩ := List.append_inj' hsplit' rfl
    have hlast : other = last := List.singleton_inj.mp hlast
    have hbehind := h.behind (gone ++ older) between
      (by rw [hqueue, hrest, List.append_assoc])
    have hne : other ≠ key := by
      rintro rfl
      exact hold (by simp [hqueue, hrest])
    rw [others_allow, if_neg hne] at hbehind
    rwa [List.concat_eq_append, List.toFinset_append, ← hlast, List.toFinset_cons, List.toFinset_nil,
      Finset.union_assoc, Finset.insert_union, Finset.empty_union]

/-- Nobody is pushed out where there is room for all. -/
lemma isolate_eq_filter (ops : List LimiterOp) : ∀ {queue : List Bytes},
    Room maximumKeys key queue ops →
    isolate maximumKeys key queue ops = ops.filter (concerns key) := by
  induction ops with
  | nil => exact fun _ => rfl
  | cons op ops ih =>
      intro queue h
      cases op with
      | Clear =>
          have hroom : Room maximumKeys key [] ops :=
            ⟨List.nodup_nil, h.outside, fun _ _ hsplit => by simp at hsplit⟩
          rw [isolate, ih hroom, List.filter_cons_of_pos rfl]
      | Allow other nowMs =>
          rw [isolate, ih h.enqueue]
          by_cases hsame : other = key
          · rw [if_pos hsame, List.filter_cons_of_pos (by simp [concerns, hsame]), hsame]
          · have hstays : ¬ (key ∈ queue ∧ key ∉ RateLimiter.enqueue maximumKeys queue other) :=
              fun hgone => hgone.2 (h.mem_enqueue hsame hgone.1)
            rw [if_neg hsame, if_neg hstays, List.filter_cons_of_neg (by simp [concerns, hsame])]

/-- A key is answered as it would be alone, in a limiter that is cleared when it is pushed out. -/
lemma answersFor_of_empty (hempty : limiter.buckets = []) (hmax : 0 < limiter.maximumKeys)
    (key : Bytes) (ops : List LimiterOp) :
    answersFor key limiter ops =
      answersFor key limiter (isolate limiter.maximumKeys key [] ops) := by
  have hkeys : limiter.keys = [] := by rw [keys, hempty, List.map_nil]
  have honly : limiter.only key = limiter := by
    rw [only, hempty, List.filter_nil, ← hempty]
  have halone := answersFor_isolate key ops limiter hmax (hkeys ▸ List.nodup_nil)
  rwa [honly, hkeys] at halone

/-- Where there is room for all it is never pushed out. -/
lemma answersFor_of_room (hempty : limiter.buckets = []) {ops : List LimiterOp}
    (hroom : (others key ops).card < limiter.maximumKeys) :
    answersFor key limiter ops = answersFor key limiter (ops.filter (concerns key)) := by
  have hinit : Room limiter.maximumKeys key [] ops :=
    ⟨List.nodup_nil, hroom, fun _ _ hsplit => by simp at hsplit⟩
  rw [answersFor_of_empty hempty (Nat.zero_lt_of_lt hroom), isolate_eq_filter ops hinit]

/-- **Isolation**: what the calls for a key are answered is what they would be answered without all
others, but that the limiter is cleared where one of these pushes the key out.  None does when there
is room for all. -/
theorem allow_isolated (limiter : RateLimiter) (hempty : limiter.buckets = [])
    (hmax : 0 < limiter.maximumKeys) (key : Bytes) (ops : List LimiterOp) :
    answersFor key limiter ops =
        answersFor key limiter (isolate limiter.maximumKeys key [] ops) ∧
      ((others key ops).card < limiter.maximumKeys →
        answersFor key limiter ops = answersFor key limiter (ops.filter (concerns key))) :=
  ⟨answersFor_of_empty hempty hmax key ops, fun hroom => answersFor_of_room hempty hroom⟩

/-- The allowance of this address is used up; then as many others come by as there is room for. -/
def passersBy : List LimiterOp :=
  List.replicate 7 (.Allow [49] 0) ++ (List.range 16).map (fun n => .Allow [50, n.toUInt8] 0) ++
    [.Allow [49] 0]

/-- The last of the guesses would be refused, were it not for the others, whose buckets have pushed
out that of the guesser. -/
theorem passersBy_restore :
    (answersFor [49] (.new 6 1 16) passersBy).getLast? = some (0, true) ∧
      (answersFor [49] (.new 6 1 16) (passersBy.filter (concerns [49]))).getLast? = some (0, false) := by
  decide +kernel

theorem allow_isolated_passersBy :
    answersFor [49] (.new 6 1 16) passersBy =
        answersFor [49] (.new 6 1 16) (isolate 16 [49] [] passersBy) ∧
      answersFor [49] (.new 6 1 17) passersBy =
        answersFor [49] (.new 6 1 17) (passersBy.filter (concerns [49])) :=
  ⟨(allow_isolated (.new 6 1 16) rfl (by decide) [49] passersBy).1,
    (allow_isolated (.new 6 1 17) rfl (by decide) [49] passersBy).2 (by decide +kernel)⟩

/-! ## Bounds -/

lemma refill_meter (limiter : RateLimiter) (bucket : Bucket) (nowMs : ℤ) :
    (limiter.refill bucket nowMs).meter =
      TokenBucket.refill limiter.capacity limiter.refillPerMs bucket.meter nowMs := by
  rw [refill, TokenBucket.refill]
  by_cases hlater : nowMs > bucket.lastMs
  · rw [if_pos hlater, if_pos (show bucket.meter.last < nowMs from hlater)]
    rfl
  · rw [if_neg hlater, if_neg (show ¬ bucket.meter.last < nowMs from hlater)]

/-- The bucket a token is taken from is a token bucket. -/
lemma spend_cons_of_eq (limiter : RateLimiter) {bucket : Bucket} (hkey : bucket.key = key)
    (nowMs : ℤ) (buckets : List Bucket) :
    ∃ taken : Bucket, taken.key = key ∧
      limiter.spend key nowMs (bucket :: buckets) =
        ((TokenBucket.take limiter.capacity limiter.refillPerMs bucket.meter nowMs).1,
          taken :: buckets) ∧
      taken.meter =
        (TokenBucket.take limiter.capacity limiter.refillPerMs bucket.meter nowMs).2 := by
  have hmeter := refill_meter limiter bucket nowMs
  have htokens : (limiter.refill bucket nowMs).tokens =
      (TokenBucket.refill limiter.capacity limiter.refillPerMs bucket.meter nowMs).tokens :=
    congrArg TokenBucket.tokens hmeter
  rcases TokenBucket.take_cases limiter.capacity limiter.refillPerMs bucket.meter nowMs with
    ⟨hone, htake⟩ | ⟨hnone, htake⟩
  · refine ⟨{ limiter.refill bucket nowMs with tokens := (limiter.refill bucket nowMs).tokens - 1 },
      by rw [← hkey, ← refill_key limiter bucket nowMs], ?_, ?_⟩
    · rw [spend, if_pos (beq_iff_eq.mpr hkey), htake]
      exact if_neg (not_lt.mpr (htokens ▸ hone))
    · rw [htake, ← hmeter]
      rfl
  · refine ⟨limiter.refill bucket nowMs, by rw [refill_key, hkey], ?_, by rw [htake, hmeter]⟩
    rw [spend, if_pos (beq_iff_eq.mpr hkey), htake]
    exact if_pos (htokens ▸ hnone)

/-- A key alone is a token bucket. -/
lemma answersFor_eq_answers (key : Bytes) (times : List ℤ) :
    ∀ (limiter : RateLimiter) (bucket : Bucket),
    limiter.buckets = [bucket] → bucket.key = key →
    answersFor key limiter (times.map (.Allow key)) =
      TokenBucket.answers limiter.capacity limiter.refillPerMs bucket.meter times := by
  induction times with
  | nil => exact fun _ _ _ _ => rfl
  | cons nowMs times ih =>
      intro limiter bucket hbuckets hkey
      obtain ⟨taken, htaken, hspend, hmeter⟩ := spend_cons_of_eq limiter hkey nowMs []
      have hallow : limiter.allow key nowMs =
          ((TokenBucket.take limiter.capacity limiter.refillPerMs bucket.meter nowMs).1,
            { limiter with buckets := [taken] }) := by
        have hany : (limiter.buckets.any fun bucket => bucket.key == key) = true := by
          simp [hbuckets, hkey]
        rw [allow, withBucket, if_pos hany, hbuckets, hspend]
      rw [List.map_cons, answersFor, if_pos rfl, hallow, TokenBucket.answers, ← hmeter]
      exact congrArg _ (ih { limiter with buckets := [taken] } taken rfl htaken)

/-- The first call makes the bucket, and it is full. -/
lemma answersFor_first (hempty : limiter.buckets = []) (key : Bytes) (nowMs : ℤ) (times : List ℤ) :
    answersFor key limiter ((nowMs :: times).map (.Allow key)) =
      TokenBucket.answers limiter.capacity limiter.refillPerMs ⟨limiter.capacity, nowMs⟩
        (nowMs :: times) := by
  let fresh : Bucket := { key, tokens := limiter.capacity, lastMs := nowMs }
  have hallow : limiter.allow key nowMs = { limiter with buckets := [fresh] }.allow key nowMs := by
    have hfresh : limiter.withBucket key nowMs = [fresh] := by
      rw [withBucket, hempty, if_neg (by simp), List.tail_nil, ite_self, List.nil_append]
    have hany : ([fresh].any fun bucket => bucket.key == key) = true := by simp [fresh]
    rw [allow, allow, hfresh, withBucket, if_pos hany]
    rfl
  have halone := answersFor_eq_answers key (nowMs :: times) { limiter with buckets := [fresh] } fresh
    rfl rfl
  rw [List.map_cons, answersFor, if_pos rfl] at halone ⊢
  rw [hallow]
  exact halone

/-- What is in every bucket keeps within bounds. -/
lemma spend_wellFormed (hrate : 0 ≤ limiter.refillPerMs) (hcapacity : 0 ≤ limiter.capacity)
    {buckets : List Bucket} (h : ∀ bucket ∈ buckets, bucket.meter.WellFormed limiter.capacity)
    (key : Bytes) (nowMs : ℤ) :
    ∀ bucket ∈ (limiter.spend key nowMs buckets).2, bucket.meter.WellFormed limiter.capacity := by
  induction buckets with
  | nil => exact fun bucket hmem => absurd hmem List.not_mem_nil
  | cons first buckets ih =>
      have hfirst := h first List.mem_cons_self
      have hrest := fun bucket hmem => h bucket (List.mem_cons_of_mem first hmem)
      by_cases hkey : first.key = key
      · obtain ⟨taken, -, hspend, hmeter⟩ := spend_cons_of_eq limiter hkey nowMs buckets
        rw [hspend, List.forall_mem_cons]
        exact ⟨hmeter ▸ TokenBucket.take_wellFormed hrate hcapacity hfirst nowMs, hrest⟩
      · rw [spend, if_neg (fun hsame => hkey (beq_iff_eq.mp hsame))]
        exact List.forall_mem_cons.mpr ⟨hfirst, ih hrest⟩

lemma allow_wellFormed (hrate : 0 ≤ limiter.refillPerMs) (hcapacity : 0 ≤ limiter.capacity)
    (h : ∀ bucket ∈ limiter.buckets, bucket.meter.WellFormed limiter.capacity)
    (key : Bytes) (nowMs : ℤ) :
    ∀ bucket ∈ (limiter.allow key nowMs).2.buckets, bucket.meter.WellFormed limiter.capacity := by
  refine spend_wellFormed hrate hcapacity ?_ key nowMs
  intro bucket hmem
  rw [withBucket] at hmem
  split_ifs at hmem with hany hfull
  · exact h bucket hmem
  · rcases List.mem_append.mp hmem with hold | hnew
    · exact h bucket (List.mem_of_mem_tail hold)
    · rw [List.mem_singleton.mp hnew]
      exact ⟨hcapacity, le_rfl⟩
  · rcases List.mem_append.mp hmem with hold | hnew
    · exact h bucket hold
    · rw [List.mem_singleton.mp hnew]
      exact ⟨hcapacity, le_rfl⟩

/-- The calls for a key, alone, are calls at their times. -/
lemma filter_concerns_ofCall (key : Bytes) (calls : List (Bytes × ℤ)) :
    (calls.map .ofCall).filter (concerns key) =
      ((calls.filter fun call => call.1 == key).map Prod.snd).map (.Allow key) := by
  induction calls with
  | nil => rfl
  | cons call calls ih =>
      by_cases hkey : call.1 = key
      · rw [List.map_cons, List.filter_cons_of_pos (by simp [LimiterOp.ofCall, concerns, hkey]),
          List.filter_cons_of_pos (by simp [hkey]), ih, List.map_cons, List.map_cons,
          LimiterOp.ofCall, hkey]
      · rw [List.map_cons, List.filter_cons_of_neg (by simp [LimiterOp.ofCall, concerns, hkey]),
          List.filter_cons_of_neg (by simp [hkey]), ih]

lemma others_ofCall (key : Bytes) (calls : List (Bytes × ℤ)) :
    others key (calls.map .ofCall) = (calls.map Prod.fst).toFinset.erase key := by
  have hkeys : (calls.map .ofCall).filterMap LimiterOp.key? = calls.map Prod.fst := by
    rw [List.filterMap_map]
    exact congrFun (List.filterMap_eq_map (f := Prod.fst)) calls
  rw [others, hkeys]

/-- A key that is not called is not answered. -/
lemma answersFor_eq_nil {calls : List (Bytes × ℤ)} (hout : key ∉ calls.map Prod.fst) :
    answersFor key limiter (calls.map .ofCall) = [] := by
  induction calls generalizing limiter with
  | nil => rfl
  | cons call calls ih =>
      rw [List.map_cons, List.mem_cons, not_or] at hout
      rw [List.map_cons, LimiterOp.ofCall, answersFor, if_neg (Ne.symm hout.1)]
      exact ih hout.2

/-- **A key that there is room for** is a token bucket, full at its first call. -/
theorem answersFor_eq_bucket (hempty : limiter.buckets = []) (key : Bytes)
    {calls : List (Bytes × ℤ)}
    (hroom : (calls.map Prod.fst).toFinset.card ≤ limiter.maximumKeys) :
    ∃ times first, times.Sublist (calls.map Prod.snd) ∧ (∀ now ∈ times.head?, now = first) ∧
      answersFor key limiter (calls.map .ofCall) =
        TokenBucket.answers limiter.capacity limiter.refillPerMs ⟨limiter.capacity, first⟩ times := by
  by_cases hcalled : key ∈ calls.map Prod.fst
  · have hothers : (others key (calls.map .ofCall)).card < limiter.maximumKeys := by
      rw [others_ofCall]
      exact (Finset.card_erase_lt_of_mem (List.mem_toFinset.mpr hcalled)).trans_le hroom
    have halone := answersFor_of_room hempty hothers
    rw [filter_concerns_ofCall] at halone
    have hsub : ((calls.filter fun call => call.1 == key).map Prod.snd).Sublist
        (calls.map Prod.snd) := List.filter_sublist.map Prod.snd
    cases htimes : (calls.filter fun call => call.1 == key).map Prod.snd with
    | nil =>
        rw [htimes] at halone
        exact ⟨[], 0, List.nil_sublist _, by simp, halone⟩
    | cons first times =>
        rw [htimes] at halone hsub
        refine ⟨first :: times, first, hsub, by simp, halone.trans ?_⟩
        exact answersFor_first hempty key first times
  · exact ⟨[], 0, List.nil_sublist _, by simp, answersFor_eq_nil hcalled⟩

/-- The bounds the limiter keeps for every key, through these calls: how many of them are allowed in
any stretch of time, when one is allowed for certain, and what its buckets hold. -/
structure Metered (limiter : RateLimiter) (calls : List (Bytes × ℤ)) : Prop where
  window : ∀ (key : Bytes) {t u : ℤ}, t ≤ u →
    ((TokenBucket.granted t u (answersFor key limiter (calls.map .ofCall))).length : ℚ) ≤
      limiter.capacity + limiter.refillPerMs * (u - t)
  waiting : 0 < limiter.refillPerMs → ∀ key : Bytes,
    (answersFor key limiter (calls.map .ofCall)).IsChain fun earlier later =>
      1 / limiter.refillPerMs ≤ (later.1 : ℚ) - earlier.1 → later.2 = true
  keys : ∀ before, before <+: calls →
    ((before.map LimiterOp.ofCall).foldl perform limiter).keys.Nodup
  tokens : ∀ before, before <+: calls →
    ∀ bucket ∈ ((before.map LimiterOp.ofCall).foldl perform limiter).buckets,
      0 ≤ bucket.tokens ∧ bucket.tokens ≤ limiter.capacity

/-- What is true of the buckets after any calls. -/
lemma foldl_perform (calls : List (Bytes × ℤ)) : ∀ limiter : RateLimiter,
    0 ≤ limiter.refillPerMs → 0 ≤ limiter.capacity → limiter.keys.Nodup →
    (∀ bucket ∈ limiter.buckets, bucket.meter.WellFormed limiter.capacity) →
    ((calls.map LimiterOp.ofCall).foldl perform limiter).keys.Nodup ∧
      ∀ bucket ∈ ((calls.map LimiterOp.ofCall).foldl perform limiter).buckets,
        bucket.meter.WellFormed limiter.capacity := by
  induction calls with
  | nil => exact fun _ _ _ hkeys h => ⟨hkeys, h⟩
  | cons call calls ih =>
      intro limiter hrate hcapacity hkeys h
      rw [List.map_cons, List.foldl_cons]
      refine ih (limiter.allow call.1 call.2).2 hrate hcapacity ?_
        (allow_wellFormed hrate hcapacity h call.1 call.2)
      rw [allow_keys]
      exact nodup_enqueue hkeys call.1

/-- **Bounds**: with room for all who call, nobody gets more than the capacity and what flows in
meanwhile, and nobody who waits for a token is refused. -/
theorem allow_metered (hempty : limiter.buckets = []) (hcapacity : 1 ≤ limiter.capacity)
    (hrate : 0 ≤ limiter.refillPerMs) {calls : List (Bytes × ℤ)}
    (hsorted : (calls.map Prod.snd).Pairwise (· ≤ ·))
    (hroom : (calls.map Prod.fst).toFinset.card ≤ limiter.maximumKeys) :
    Metered limiter calls := by
  have hnonneg : 0 ≤ limiter.capacity := zero_le_one.trans hcapacity
  have hfull : ∀ first : ℤ,
      (⟨limiter.capacity, first⟩ : TokenBucket ℚ).WellFormed limiter.capacity :=
    fun _ => ⟨hnonneg, le_rfl⟩
  have hbegins : ∀ {times : List ℤ} {first : ℤ}, times.Pairwise (· ≤ ·) →
      (∀ now ∈ times.head?, now = first) → ∀ now ∈ times, first ≤ now := by
    intro times first htimes hhead now hmem
    cases times with
    | nil => exact absurd hmem List.not_mem_nil
    | cons next times =>
        obtain rfl : next = first := hhead next rfl
        rcases List.mem_cons.mp hmem with rfl | hlater
        · exact le_rfl
        · exact (List.pairwise_cons.mp htimes).1 now hlater
  have hnone : ∀ bucket ∈ limiter.buckets, bucket.meter.WellFormed limiter.capacity := by
    simp [hempty]
  have hkeys : limiter.keys.Nodup := by simp [RateLimiter.keys, hempty]
  refine ⟨?_, ?_, ?_, ?_⟩
  · intro key t u htu
    obtain ⟨times, first, hsub, hhead, hanswers⟩ := answersFor_eq_bucket hempty key hroom
    have htimes := hsorted.sublist hsub
    rw [hanswers]
    exact TokenBucket.length_granted_le hrate hnonneg (hfull first) (hbegins htimes hhead) htimes htu
  · intro hpos key
    obtain ⟨times, first, hsub, hhead, hanswers⟩ := answersFor_eq_bucket hempty key hroom
    have htimes := hsorted.sublist hsub
    rw [hanswers]
    exact TokenBucket.answers_isChain hpos hcapacity (hfull first) (hbegins htimes hhead) htimes
  · exact fun before _ => (foldl_perform before limiter hrate hnonneg hkeys hnone).1
  · intro before _ bucket hmem
    have hwell := (foldl_perform before limiter hrate hnonneg hkeys hnone).2 bucket hmem
    exact ⟨hwell.nonneg, hwell.le_capacity⟩

/-- Two addresses, one of them again and again, at the limiter for what changes something. -/
theorem allow_metered_mutations :
    Metered (.new 6 1 16) [([49], 0), ([50], 0), ([49], 400), ([49], 1400)] :=
  allow_metered rfl (by decide +kernel) (by decide +kernel) (by decide) (by decide +kernel)

end RateLimiter

end LegacyAlpha
