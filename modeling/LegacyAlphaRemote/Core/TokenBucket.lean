import Mathlib.Tactic

/-!
# Token buckets

A bucket holds `capacity` tokens at most and gains `rate` tokens in a unit of time.  Whoever asks
takes a token, if there is a whole one.  Tokens are counted in any ordered field, and time in whole
units.

* `take_wellFormed` — there are never less than no tokens and never more than the bucket holds.
* `length_granted_le` — in any window of time the bucket grants what it can hold and what flows in
  meanwhile, at most.
* `answers_isChain` — whoever waits until a token has flowed in gets one.
-/

namespace LegacyAlpha

/-- A token bucket is remembered by the tokens that there were when it was last looked at, and by that
time. -/
structure TokenBucket (α : Type*) where
  tokens : α
  last : ℤ

namespace TokenBucket

variable {α : Type*} [Field α] [LinearOrder α] {capacity rate : α} {bucket : TokenBucket α}
  {now t u : ℤ} {times : List ℤ}

/-- The bucket as it is now: tokens have flowed in at the rate since it was last looked at, but no
more than there is room for.  A clock that goes back changes nothing. -/
def refill (capacity rate : α) (bucket : TokenBucket α) (now : ℤ) : TokenBucket α :=
  if bucket.last < now then
    ⟨min (bucket.tokens + (now - bucket.last) * rate) capacity, now⟩
  else bucket

/-- A token is taken, if there is a whole one.  The bucket is refilled before, and stays refilled when
there is none. -/
def take (capacity rate : α) (bucket : TokenBucket α) (now : ℤ) : Bool × TokenBucket α :=
  let bucket := refill capacity rate bucket now
  if bucket.tokens < 1 then (false, bucket)
  else (true, { bucket with tokens := bucket.tokens - 1 })

/-- What is answered to whoever asks at these times, each answer with its time; one answer changes the
bucket for the next. -/
def answers (capacity rate : α) : TokenBucket α → List ℤ → List (ℤ × Bool)
  | _, [] => []
  | bucket, now :: times =>
    (now, (take capacity rate bucket now).1) ::
      answers capacity rate (take capacity rate bucket now).2 times

/-- The answers that grant a token in a window of time, its two ends included. -/
def granted (t u : ℤ) (answers : List (ℤ × Bool)) : List (ℤ × Bool) :=
  answers.filter fun answer => answer.2 && t ≤ answer.1 && answer.1 ≤ u

/-- No less than nothing is in the bucket, and no more than it holds. -/
structure WellFormed (capacity : α) (bucket : TokenBucket α) : Prop where
  nonneg : 0 ≤ bucket.tokens
  le_capacity : bucket.tokens ≤ capacity

lemma refill_last (hlast : bucket.last ≤ now) : (refill capacity rate bucket now).last = now := by
  rw [refill]
  split_ifs with hlt
  · rfl
  · exact le_antisymm hlast (not_lt.mp hlt)

/-- What has flowed in is in the bucket, as far as it fits. -/
lemma refill_tokens_le (capacity rate : α) (hlast : bucket.last ≤ now) :
    (refill capacity rate bucket now).tokens ≤ bucket.tokens + (now - bucket.last) * rate := by
  rw [refill]
  split_ifs with hlt
  · exact min_le_left _ _
  · rw [le_antisymm hlast (not_lt.mp hlt), sub_self, zero_mul, add_zero]

/-- Either there is a token, and it is taken, or nothing changes. -/
lemma take_cases (capacity rate : α) (bucket : TokenBucket α) (now : ℤ) :
    (1 ≤ (refill capacity rate bucket now).tokens ∧
      take capacity rate bucket now = (true, { refill capacity rate bucket now with
        tokens := (refill capacity rate bucket now).tokens - 1 })) ∨
    ((refill capacity rate bucket now).tokens < 1 ∧
      take capacity rate bucket now = (false, refill capacity rate bucket now)) := by
  by_cases hnone : (refill capacity rate bucket now).tokens < 1
  · exact Or.inr ⟨hnone, if_pos hnone⟩
  · exact Or.inl ⟨not_lt.mp hnone, if_neg hnone⟩

lemma take_last (capacity rate : α) (hlast : bucket.last ≤ now) :
    (take capacity rate bucket now).2.last = now := by
  rcases take_cases capacity rate bucket now with ⟨-, htake⟩ | ⟨-, htake⟩ <;> rw [htake] <;>
    exact refill_last hlast

/-- Nothing is granted in a window that is over. -/
lemma granted_answers_of_lt (hlate : ∀ now ∈ times, u < now) :
    granted t u (answers capacity rate bucket times) = [] := by
  induction times generalizing bucket with
  | nil => rfl
  | cons now times ih =>
      have hnow : u < now := hlate now List.mem_cons_self
      rw [answers, granted, List.filter_cons_of_neg (by simp [hnow])]
      exact ih fun later hlater => hlate later (List.mem_cons_of_mem _ hlater)

variable [IsStrictOrderedRing α]

/-- Tokens flow in, not out, as long as time does not go back. -/
lemma flow_nonneg (hrate : 0 ≤ rate) (htu : t ≤ u) : 0 ≤ rate * ((u : α) - t) :=
  mul_nonneg hrate (sub_nonneg.mpr (Int.cast_le.mpr htu))

lemma refill_wellFormed (hrate : 0 ≤ rate) (hcapacity : 0 ≤ capacity)
    (h : bucket.WellFormed capacity) (now : ℤ) :
    (refill capacity rate bucket now).WellFormed capacity := by
  rw [refill]
  split_ifs with hlt
  · have hflow : 0 ≤ ((now : α) - bucket.last) * rate := by
      rw [mul_comm]
      exact flow_nonneg hrate hlt.le
    exact ⟨le_min (add_nonneg h.nonneg hflow) hcapacity, min_le_right _ _⟩
  · exact h

/-- **A bucket stays well formed**: after taking a token there are no fewer than none, and no more
than there is room for. -/
theorem take_wellFormed (hrate : 0 ≤ rate) (hcapacity : 0 ≤ capacity)
    (h : bucket.WellFormed capacity) (now : ℤ) :
    (take capacity rate bucket now).2.WellFormed capacity := by
  have hrefill : (refill capacity rate bucket now).WellFormed capacity :=
    refill_wellFormed hrate hcapacity h now
  rcases take_cases capacity rate bucket now with ⟨hone, htake⟩ | ⟨-, htake⟩ <;> rw [htake]
  · refine ⟨sub_nonneg.mpr hone, ?_⟩
    exact (sub_le_self _ zero_le_one).trans hrefill.le_capacity
  · exact hrefill

/-! ## Windows -/

/-- An answer takes a token from the bucket when it grants one. -/
lemma length_granted_cons_le (capacity rate : α) (t u : ℤ) (bucket : TokenBucket α) (now : ℤ)
    (rest : List (ℤ × Bool)) :
    ((granted t u ((now, (take capacity rate bucket now).1) :: rest)).length : α) ≤
      (refill capacity rate bucket now).tokens - (take capacity rate bucket now).2.tokens +
        (granted t u rest).length := by
  rcases take_cases capacity rate bucket now with ⟨-, htake⟩ | ⟨-, htake⟩ <;> rw [htake]
  · have hcons : (granted t u ((now, true) :: rest)).length ≤ (granted t u rest).length + 1 := by
      rw [granted, List.filter_cons]
      split_ifs
      · exact le_rfl
      · exact Nat.le_succ _
    have hcast : ((granted t u ((now, true) :: rest)).length : α) ≤ (granted t u rest).length + 1 := by
      exact_mod_cast hcons
    dsimp only
    linarith
  · have hcons : granted t u ((now, false) :: rest) = granted t u rest :=
      List.filter_cons_of_neg (by simp)
    rw [hcons, sub_self, zero_add]

/-- From now on the bucket grants what is in it and what flows in, at most. -/
lemma length_granted_le_tokens (hrate : 0 ≤ rate) (hcapacity : 0 ≤ capacity)
    (h : bucket.WellFormed capacity) (hu : bucket.last ≤ u) (hlast : ∀ now ∈ times, bucket.last ≤ now)
    (hsorted : times.Pairwise (· ≤ ·)) :
    ((granted t u (answers capacity rate bucket times)).length : α) ≤
      bucket.tokens + rate * (u - bucket.last) := by
  induction times generalizing bucket with
  | nil =>
      have hflow : 0 ≤ rate * (u - bucket.last) := flow_nonneg hrate hu
      have hnone : granted t u (answers capacity rate bucket []) = [] := rfl
      rw [hnone, List.length_nil, Nat.cast_zero]
      exact add_nonneg h.nonneg hflow
  | cons now times ih =>
      obtain ⟨hlater, hsorted⟩ := List.pairwise_cons.mp hsorted
      have hnow : bucket.last ≤ now := hlast now List.mem_cons_self
      by_cases hin : now ≤ u
      · have htake := take_last capacity rate hnow
        have hrest := ih (take_wellFormed hrate hcapacity h now) (by rwa [htake])
          (by rwa [htake]) hsorted
        have hstep := length_granted_cons_le capacity rate t u bucket now
          (answers capacity rate (take capacity rate bucket now).2 times)
        have hflow := refill_tokens_le capacity rate hnow
        have hsplit : rate * (u - bucket.last) =
            (now - bucket.last) * rate + rate * (u - now) := by ring
        rw [htake] at hrest
        rw [answers, hsplit]
        linarith
      · have hnone : granted t u (answers capacity rate bucket (now :: times)) = [] := by
          refine granted_answers_of_lt fun later hmem => ?_
          rcases List.mem_cons.mp hmem with rfl | hmem
          · exact not_le.mp hin
          · exact (not_le.mp hin).trans_le (hlater later hmem)
        have hflow : 0 ≤ rate * (u - bucket.last) := flow_nonneg hrate hu
        rw [hnone, List.length_nil, Nat.cast_zero]
        exact add_nonneg h.nonneg hflow

/-- **Windows**: what is granted between two times is no more than what fits into the bucket and what
flows in between them. -/
theorem length_granted_le (hrate : 0 ≤ rate) (hcapacity : 0 ≤ capacity)
    (h : bucket.WellFormed capacity) (hlast : ∀ now ∈ times, bucket.last ≤ now)
    (hsorted : times.Pairwise (· ≤ ·)) (htu : t ≤ u) :
    ((granted t u (answers capacity rate bucket times)).length : α) ≤
      capacity + rate * (u - t) := by
  have hflow : 0 ≤ rate * (u - t) := flow_nonneg hrate htu
  induction times generalizing bucket with
  | nil =>
      have hnone : granted t u (answers capacity rate bucket []) = [] := rfl
      rw [hnone, List.length_nil, Nat.cast_zero]
      exact add_nonneg hcapacity hflow
  | cons now times ih =>
      obtain ⟨hlater, hsorted'⟩ := List.pairwise_cons.mp hsorted
      have hnow : bucket.last ≤ now := hlast now List.mem_cons_self
      have htake := take_last capacity rate hnow
      have hwell := take_wellFormed hrate hcapacity h now
      by_cases hbefore : now < t
      · rw [answers, granted, List.filter_cons_of_neg (by simp [hbefore])]
        exact ih hwell (by rwa [htake]) hsorted'
      by_cases hin : now ≤ u
      · -- The first call in the window finds no more than fits into the bucket.
        have hrest := length_granted_le_tokens (t := t) (u := u) hrate hcapacity hwell
          (by rwa [htake]) (by rwa [htake]) hsorted'
        have hstep := length_granted_cons_le capacity rate t u bucket now
          (answers capacity rate (take capacity rate bucket now).2 times)
        have hfull := (refill_wellFormed hrate hcapacity h now).le_capacity
        have hbegins : rate * ((u : α) - now) + rate * ((now : α) - t) = rate * (u - t) := by ring
        have hearly : 0 ≤ rate * ((now : α) - t) := flow_nonneg hrate (not_lt.mp hbefore)
        rw [htake] at hrest
        rw [answers]
        linarith
      · have hnone : granted t u (answers capacity rate bucket (now :: times)) = [] := by
          refine granted_answers_of_lt fun later hmem => ?_
          rcases List.mem_cons.mp hmem with rfl | hmem
          · exact not_le.mp hin
          · exact (not_le.mp hin).trans_le (hlater later hmem)
        rw [hnone, List.length_nil, Nat.cast_zero]
        exact add_nonneg hcapacity hflow

/-! ## Waiting -/

/-- A bucket that is left alone for as long as a token takes to flow in has one. -/
lemma take_of_waited (hrate : 0 < rate) (hcapacity : 1 ≤ capacity) (h : bucket.WellFormed capacity)
    (hwait : 1 / rate ≤ now - bucket.last) : (take capacity rate bucket now).1 = true := by
  have hflow : 1 ≤ (now - bucket.last) * rate := (div_le_iff₀ hrate).mp hwait
  have hlt : bucket.last < now := by
    have hpos : 0 < 1 / rate := one_div_pos.mpr hrate
    exact Int.cast_lt.mp (sub_pos.mp (hpos.trans_le hwait))
  have hone : 1 ≤ (refill capacity rate bucket now).tokens := by
    rw [refill, if_pos hlt]
    exact le_min (by linarith [h.nonneg]) hcapacity
  rcases take_cases capacity rate bucket now with ⟨-, htake⟩ | ⟨hnone, -⟩
  · rw [htake]
  · exact absurd hone (not_le.mpr hnone)

/-- **Waiting**: whoever asks again after a whole token has flowed in, which takes `1 / rate`, gets
one, whatever he was answered before. -/
theorem answers_isChain (hrate : 0 < rate) (hcapacity : 1 ≤ capacity)
    (h : bucket.WellFormed capacity) (hlast : ∀ now ∈ times, bucket.last ≤ now)
    (hsorted : times.Pairwise (· ≤ ·)) :
    (answers capacity rate bucket times).IsChain fun earlier later =>
      1 / rate ≤ (later.1 : α) - earlier.1 → later.2 = true := by
  induction times generalizing bucket with
  | nil => exact List.IsChain.nil
  | cons now times ih =>
      obtain ⟨hlater, hsorted⟩ := List.pairwise_cons.mp hsorted
      have htake := take_last capacity rate (hlast now List.mem_cons_self)
      have hwell := take_wellFormed hrate.le (zero_le_one.trans hcapacity) h now
      have hrest := ih hwell (by rwa [htake]) hsorted
      cases times with
      | nil => exact List.IsChain.singleton _
      | cons next times =>
          refine List.IsChain.cons_cons ?_ hrest
          intro hwait
          exact take_of_waited hrate hcapacity hwell (by rwa [htake])

end TokenBucket

end LegacyAlpha
