import LegacyAlphaRemote.Core.Guessing
import LegacyAlphaRemote.Runtime.Limits
import LegacyAlphaRemote.Runtime.Noninterference
import Mathlib.Data.Int.CardIntervalMod

/-!
# Guessing the PIN

Someone who does not know the PIN may try one with every request, and choose the next by all that was
answered before.  A session begins with a random number of 32 bits, of which its PIN is made, on a runtime
that may have had others before; then he does what he likes, together with everything else that can happen
to the runtime during the session (`Move`, `newSession`).

A request that gets past its limiter tries the PIN that it carries (`pinGame`).  Nothing that the runtime
does before depends on its PIN (`Runtime/Noninterference.lean`), so that no more PINs are found than are
tried (`Core/Guessing.lean`); and the limiters let each address try so many only (`Core/TokenBucket.lean`).
`pin_guessing` counts the random numbers with which he succeeds, while the clock does not go back; the
tokens of the limiters are exact rationals there, where the code has doubles.
-/

namespace LegacyAlpha

open NativeRuntime Guessing

/-! ## The game -/

/-- Anything but the beginning and the end of a session, with the clock and the answers of Java. -/
structure Move where
  op : RuntimeOp
  clock : ℕ → ℤ
  answers : ℕ → Bool
  notStart : ∀ random serverStarts, op ≠ .Start random serverStarts
  notStop : op ≠ .Stop

/-- The limiter of the method lets the request pass, so that its PIN may be looked at. -/
def NativeRuntime.admits (rt : NativeRuntime) (now : ℤ) (request : HttpRequest)
    (remoteAddress : Bytes) : Bool :=
  if request.method == bytes "GET" then (rt.statusLimiter.allow remoteAddress now).1
  else request.method == bytes "POST" && (rt.mutationLimiter.allow remoteAddress now).1

/-- The PIN that is tried: that of a request which its limiter lets pass. -/
def Move.tries (rt : NativeRuntime) (move : Move) : Option Bytes :=
  match move.op with
  | .HandleRequest request remoteAddress =>
      if rt.admits (move.clock 0) request remoteAddress then some request.pin else none
  | _ => none

/-- The runtime, whose secret is the PIN.  What an operation returns can be seen. -/
def pinGame (assets : Assets) (target : Target) (config : NativeConfig) :
    Game NativeRuntime Move (Bool × Option HttpResponse) Bytes where
  step rt move :=
    let s := rt.step assets target config move.op move.clock move.answers
    ((s.ok, s.response), s.after)
  guess rt move := move.tries rt
  secret := NativeRuntime.pin

/-- The session that a stopped runtime begins with this random number. -/
def newSession (assets : Assets) (target : Target) (config : NativeConfig) (rt : NativeRuntime)
    (clock : ℕ → ℤ) (answers : ℕ → Bool) (random : ℕ) : NativeRuntime :=
  (rt.step assets target config (.Start random true) clock answers).after

/-- Sessions that are the same but for their PINs, as two random numbers make them. -/
def TwinSessions (rt rt' : NativeRuntime) : Prop :=
  rt.SameButPin rt' ∧ (∃ pin, InSession rt (some pin)) ∧ ∃ pin, InSession rt' (some pin)

section Twins

variable {assets : Assets} {target : Target} {config : NativeConfig} {rt rt' : NativeRuntime}
  {request : HttpRequest} {remoteAddress : Bytes}

/-- A request that does not get past its limiter, whatever PIN it carries. -/
lemma unseen_refused (assets : Assets) (target : Target) (config : NativeConfig) (io : Io)
    (hrefused : rt.admits io.nowMs.1 request remoteAddress = false) (pin screen : Bytes) :
    UnseenHandled (handleRequest assets target config rt io request remoteAddress)
      (handleRequest assets target config (rt.disguise pin screen) io request remoteAddress) := by
  have hstatus : (rt.disguise pin screen).statusLimiter = rt.statusLimiter := rfl
  have hmutation : (rt.disguise pin screen).mutationLimiter = rt.mutationLimiter := rfl
  rw [admits] at hrefused
  rw [handleRequest, handleRequest, hstatus, hmutation]
  dsimp only
  by_cases hget : (request.method == bytes "GET") = true
  · rw [if_pos hget] at hrefused ⊢
    rw [if_pos hget]
    cases hallow : rt.statusLimiter.allow remoteAddress io.nowMs.1 with
    | mk allowed statusLimiter =>
        rw [hallow] at hrefused
        obtain rfl : allowed = false := hrefused
        exact ⟨rfl, sameButPin_disguise _ pin screen⟩
  · rw [if_neg hget] at hrefused ⊢
    rw [if_neg hget]
    by_cases hpost : (request.method != bytes "POST") = true
    · rw [if_pos hpost, if_pos hpost]
      exact ⟨rfl, sameButPin_disguise rt pin screen⟩
    · rw [if_neg hpost, if_neg hpost]
      obtain hmethod : request.method = bytes "POST" := by simpa using hpost
      cases hallow : rt.mutationLimiter.allow remoteAddress io.nowMs.1 with
      | mk allowed mutationLimiter =>
          rw [hallow] at hrefused
          obtain rfl : allowed = false := by simpa [hmethod] using hrefused
          exact ⟨rfl, sameButPin_disguise _ pin screen⟩

/-- **The PIN is hidden** until it is tried: a move that tries neither of two PINs returns the same in
the two sessions, and leaves them twins. -/
theorem pinGame_hides (assets : Assets) (target : Target) (config : NativeConfig) :
    Hides (pinGame assets target config) TwinSessions where
  guess := by
    rintro rt rt' move ⟨⟨pin, screen, rfl⟩, -, -⟩
    rfl
  step := by
    rintro rt rt' move ⟨⟨text, screen, rfl⟩, ⟨pin, h⟩, ⟨pin', h'⟩⟩ hmissed hmissed'
    have hafter : InSession
        (rt.step assets target config move.op move.clock move.answers).after (some pin) :=
      h.keeps (rt.keeps_perform _ move.notStart move.notStop)
    have hafter' : InSession ((rt.disguise text screen).step assets target config move.op move.clock
        move.answers).after (some pin') :=
      h'.keeps ((rt.disguise text screen).keeps_perform _ move.notStart move.notStop)
    suffices hunseen : UnseenPerformed
        (rt.perform assets target config { clock := move.clock, answers := move.answers } move.op)
        ((rt.disguise text screen).perform assets target config
          { clock := move.clock, answers := move.answers } move.op) by
      obtain ⟨hok, hresponse, hruntime⟩ := hunseen
      exact ⟨Prod.ext hok hresponse, hruntime, ⟨pin, hafter⟩, ⟨pin', hafter'⟩⟩
    by_cases hrequest : ∃ request remoteAddress, move.op = .HandleRequest request remoteAddress
    · obtain ⟨request, remoteAddress, hop⟩ := hrequest
      rw [hop]
      cases hadmits : rt.admits (move.clock 0) request remoteAddress with
      | false =>
          have hhandled := unseen_refused assets target config
            { clock := move.clock, answers := move.answers } hadmits text screen
          exact ⟨rfl, congrArg some hhandled.response, hhandled.runtime⟩
      | true =>
          have htried : move.tries rt = some request.pin := by
            rw [Move.tries, hop]
            exact if_pos hadmits
          refine unseen_perform assets target config (.refl _) _ screen fun request' remoteAddress' hsame => ?_
          obtain ⟨rfl, -⟩ := RuntimeOp.HandleRequest.inj hsame
          have hwrong : rt.authenticate request.pin = false := by
            rw [Bool.eq_false_iff, ne_eq, authenticate_iff h.pin_length]
            rintro hpin
            exact hmissed (htried.trans (congrArg some hpin))
          have hwrong' : (rt.disguise text screen).authenticate request.pin = false := by
            rw [Bool.eq_false_iff, ne_eq, authenticate_iff h'.pin_length]
            rintro hpin
            exact hmissed' (htried.trans (congrArg some hpin))
          rw [hwrong, hwrong']
    · refine unseen_perform assets target config (.refl _) _ screen fun request remoteAddress hop => ?_
      exact absurd ⟨request, remoteAddress, hop⟩ hrequest
  secret := by
    rintro rt move ⟨-, ⟨pin, h⟩, -⟩ -
    have hafter : InSession
        (rt.step assets target config move.op move.clock move.answers).after (some pin) :=
      h.keeps (rt.keeps_perform _ move.notStart move.notStop)
    exact hafter.pin.trans h.pin.symm

end Twins

/-! ## The limiters -/

namespace RateLimiter

/-- How many of these calls are answered `true`, one after the other. -/
def allowed : RateLimiter → List (Bytes × ℤ) → ℕ
  | _, [] => 0
  | limiter, (key, nowMs) :: calls =>
    (if (limiter.allow key nowMs).1 then 1 else 0) + allowed (limiter.allow key nowMs).2 calls

lemma allowed_append (calls rest : List (Bytes × ℤ)) : ∀ limiter : RateLimiter,
    limiter.allowed (calls ++ rest) =
      limiter.allowed calls + ((calls.map LimiterOp.ofCall).foldl perform limiter).allowed rest := by
  induction calls with
  | nil => exact fun limiter => (Nat.zero_add _).symm
  | cons call calls ih =>
      intro limiter
      obtain ⟨key, nowMs⟩ := call
      rw [List.cons_append, allowed, ih, allowed, Nat.add_assoc]
      rfl

/-- Each of the calls is for one of the keys. -/
lemma allowed_eq_sum {keys : Finset Bytes} {t u : ℤ} (calls : List (Bytes × ℤ)) :
    ∀ limiter : RateLimiter, (∀ call ∈ calls, call.1 ∈ keys ∧ t ≤ call.2 ∧ call.2 ≤ u) →
    limiter.allowed calls = ∑ key ∈ keys,
      (TokenBucket.granted t u (answersFor key limiter (calls.map .ofCall))).length := by
  induction calls with
  | nil => simp [allowed, answersFor, TokenBucket.granted]
  | cons call calls ih =>
      intro limiter hcalls
      obtain ⟨key, nowMs⟩ := call
      obtain ⟨⟨hkey, ht, hu⟩, hlater⟩ := List.forall_mem_cons.mp hcalls
      have hcons : ∀ key', (TokenBucket.granted t u
          (answersFor key' limiter ((.ofCall (key, nowMs)) :: calls.map .ofCall))).length =
          (if key' = key then (if (limiter.allow key nowMs).1 then 1 else 0) else 0) +
            (TokenBucket.granted t u
              (answersFor key' (limiter.allow key nowMs).2 (calls.map .ofCall))).length := by
        intro key'
        rw [LimiterOp.ofCall, answersFor]
        dsimp only at ht hu
        by_cases hsame : key = key'
        · subst hsame
          rw [if_pos rfl, if_pos rfl, TokenBucket.granted, List.filter_cons]
          cases hallow : (limiter.allow key nowMs).1 with
          | false => simp [TokenBucket.granted]
          | true => simp [TokenBucket.granted, ht, hu, Nat.add_comm]
        · rw [if_neg hsame, if_neg (Ne.symm hsame), Nat.zero_add]
      rw [allowed, List.map_cons, Finset.sum_congr rfl fun key' _ => hcons key', Finset.sum_add_distrib,
        Finset.sum_ite_eq', if_pos hkey, ih _ hlater]

/-- **All together**: for so many keys as there is room for, the limiter allows what their buckets hold
and what flows into them. -/
lemma allowed_le {limiter : RateLimiter} (hempty : limiter.buckets = [])
    (hcapacity : 0 ≤ limiter.capacity) (hrate : 0 ≤ limiter.refillPerMs) {keys : Finset Bytes}
    (hroom : keys.card ≤ limiter.maximumKeys) {t u : ℤ} (htu : t ≤ u) {calls : List (Bytes × ℤ)}
    (hcalls : ∀ call ∈ calls, call.1 ∈ keys ∧ t ≤ call.2 ∧ call.2 ≤ u)
    (hsorted : (calls.map Prod.snd).Pairwise (· ≤ ·)) :
    (limiter.allowed calls : ℚ) ≤
      keys.card * (limiter.capacity + limiter.refillPerMs * (u - t)) := by
  have hkeys : (calls.map Prod.fst).toFinset.card ≤ limiter.maximumKeys := by
    refine le_trans (Finset.card_le_card fun key hkey => ?_) hroom
    obtain ⟨call, hcall, rfl⟩ := List.mem_map.mp (List.mem_toFinset.mp hkey)
    exact (hcalls call hcall).1
  have heach : ∀ key ∈ keys,
      ((TokenBucket.granted t u (answersFor key limiter (calls.map .ofCall))).length : ℚ) ≤
        limiter.capacity + limiter.refillPerMs * (u - t) := by
    intro key _
    obtain ⟨times, first, hsub, hhead, hanswers⟩ := answersFor_eq_bucket hempty key hkeys
    have htimes := hsorted.sublist hsub
    rw [hanswers]
    refine TokenBucket.length_granted_le hrate hcapacity ⟨hcapacity, le_rfl⟩ ?_ htimes htu
    intro now hnow
    cases times with
    | nil => cases hnow
    | cons next times =>
        obtain rfl : next = first := hhead next rfl
        rcases List.mem_cons.mp hnow with rfl | hlater
        · exact le_rfl
        · exact (List.pairwise_cons.mp htimes).1 now hlater
  rw [allowed_eq_sum calls limiter hcalls, Nat.cast_sum, ← nsmul_eq_mul]
  exact Finset.sum_le_card_nsmul keys _ _ heach

end RateLimiter

/-! ## The session -/

section Session

variable {assets : Assets} {target : Target} {config : NativeConfig} {rt rt' : NativeRuntime}
  {move : Move} {strategy : List (Bool × Option HttpResponse) → Move} {n : ℕ}

/-- The limiters are the same, so that they admit the same requests. -/
structure SameLimiters (rt rt' : NativeRuntime) : Prop where
  status : rt'.statusLimiter = rt.statusLimiter
  mutation : rt'.mutationLimiter = rt.mutationLimiter

lemma SameLimiters.trans {rt'' : NativeRuntime} (h : SameLimiters rt rt') (h' : SameLimiters rt' rt'') :
    SameLimiters rt rt'' :=
  ⟨h'.status.trans h.status, h'.mutation.trans h.mutation⟩

lemma sameLimiters_operate (config : NativeConfig) (rt : NativeRuntime) (io : Io) (op : Op) :
    SameLimiters rt (operate config rt io op).runtime :=
  ⟨rfl, rfl⟩

lemma sameLimiters_updateScreen (rt : NativeRuntime) (io : Io) (force : Bool) :
    SameLimiters rt (updateScreen assets config rt io force).1 := by
  obtain ⟨screen, h⟩ := updateScreen_runtime assets config rt io force
  rw [h]
  exact ⟨rfl, rfl⟩

lemma sameLimiters_handleCapture (rt : NativeRuntime) (io : Io) (now : ℤ) (capture : CaptureRequest) :
    SameLimiters rt (handleCapture assets config rt io now capture).runtime := by
  have hdecide : ∀ rt : NativeRuntime, SameLimiters rt (decideCapture config rt io capture).2.1 := by
    intro rt
    rw [decideCapture]
    split_ifs
    · exact ⟨rfl, rfl⟩
    · dsimp only
      split_ifs <;> exact sameLimiters_operate config rt io _
  cases hfind : (rt.deduplicator.find capture.requestId now).1 with
  | some old =>
      rw [handleCapture_of_found hfind]
      exact ⟨rfl, rfl⟩
  | none =>
      obtain ⟨status, body, rt₁, io₁, hdecided, hhandle⟩ :=
        handleCapture_of_missing assets config io hfind
      have hsame := hdecide { rt with deduplicator := rt.deduplicator.prune now }
      rw [hdecided] at hsame
      rw [hhandle]
      have hremembered : SameLimiters rt (rt₁.remember capture status body now) := ⟨hsame.status, hsame.mutation⟩
      exact hremembered.trans (sameLimiters_updateScreen _ _ true)

/-- A request that has passed its limiter leaves both alone. -/
lemma sameLimiters_handlePost (rt : NativeRuntime) (io : Io) (now : ℤ) (request : HttpRequest) :
    SameLimiters rt (handlePost assets target config rt io now request).runtime := by
  rw [handlePost]
  split_ifs
  · exact ⟨rfl, rfl⟩
  · exact ⟨rfl, rfl⟩
  · cases parseCaptureJson target request.body with
    | none => exact ⟨rfl, rfl⟩
    | some capture => exact sameLimiters_handleCapture rt io now capture
  · rw [handleCancel]
    split_ifs
    · exact ⟨rfl, rfl⟩
    · dsimp only
      split_ifs
      · exact sameLimiters_operate config rt io _
      · exact (sameLimiters_operate config rt io _).trans (sameLimiters_updateScreen _ _ true)
  · rw [handleFocus]
    cases parseFocusJson request.body with
    | none => exact ⟨rfl, rfl⟩
    | some pressed =>
        dsimp only
        split_ifs
        · exact sameLimiters_operate config rt io _
        · exact (sameLimiters_operate config rt io _).trans (sameLimiters_updateScreen _ _ true)
  · exact ⟨rfl, rfl⟩

/-- A move that is no request leaves them alone too. -/
lemma sameLimiters_perform (rt : NativeRuntime) (io : Io)
    (hrequest : ∀ request remoteAddress, move.op ≠ .HandleRequest request remoteAddress) :
    SameLimiters rt (rt.perform assets target config io move.op).runtime := by
  have hparts : Parts assets config move.op (rt, io)
      ((rt.perform assets target config io move.op).runtime,
        (rt.perform assets target config io move.op).io) :=
    parts_perform rt io move.notStart move.notStop
  refine hparts.keeps (P := fun rt' _ => SameLimiters rt rt') ?_ ⟨rfl, rfl⟩
  intro s s' hpart h
  cases hpart with
  | read rt io => exact h
  | operate hinner rt io => exact h.trans (sameLimiters_operate config rt io _)
  | screen rt io force => exact h.trans (sameLimiters_updateScreen rt io force)
  | @set rt₁ rt₂ hsets io =>
      refine h.trans ?_
      cases hop : move.op with
      | HandleRequest request remoteAddress => exact absurd hop (hrequest request remoteAddress)
      | SetPreview data width height source error =>
          rw [hop] at hsets
          obtain rfl := hsets
          rw [setPreview]
          split_ifs <;> exact ⟨rfl, rfl⟩
      | SetWifiState _ _ _ _ _ _ | ServerError _ =>
          rw [hop] at hsets
          obtain rfl := hsets
          exact ⟨rfl, rfl⟩
      | _ =>
          rw [hop] at hsets
          exact hsets.elim

/-- The call of the limiter for the requests with this method, if the move makes it: the address and
the time. -/
def Move.call (method : Bytes) (move : Move) : Option (Bytes × ℤ) :=
  match move.op with
  | .HandleRequest request remoteAddress =>
      if request.method = method then some (remoteAddress, move.clock 0) else none
  | _ => none

/-- What a move does with the limiters: each is called for a request with its method, which tries a PIN
if it passes. -/
structure Limits (assets : Assets) (target : Target) (config : NativeConfig) (rt : NativeRuntime)
    (move : Move) : Prop where
  status : (rt.step assets target config move.op move.clock move.answers).after.statusLimiter =
    ((move.call (bytes "GET")).toList.map LimiterOp.ofCall).foldl RateLimiter.perform rt.statusLimiter
  mutation : (rt.step assets target config move.op move.clock move.answers).after.mutationLimiter =
    ((move.call (bytes "POST")).toList.map LimiterOp.ofCall).foldl RateLimiter.perform
      rt.mutationLimiter
  tries : (move.tries rt).toList.length =
    rt.statusLimiter.allowed (move.call (bytes "GET")).toList +
      rt.mutationLimiter.allowed (move.call (bytes "POST")).toList

/-- A request calls the limiter of its method. -/
lemma handleRequest_limiters (assets : Assets) (target : Target) (config : NativeConfig)
    (rt : NativeRuntime) (io : Io) (request : HttpRequest) (remoteAddress : Bytes) :
    SameLimiters
      { rt with
        statusLimiter := if request.method = bytes "GET" then
          (rt.statusLimiter.allow remoteAddress io.nowMs.1).2 else rt.statusLimiter
        mutationLimiter := if request.method = bytes "POST" then
          (rt.mutationLimiter.allow remoteAddress io.nowMs.1).2 else rt.mutationLimiter }
      (handleRequest assets target config rt io request remoteAddress).runtime := by
  rw [handleRequest]
  dsimp only
  by_cases hget : request.method = bytes "GET"
  · have hpost : request.method ≠ bytes "POST" := by
      rw [hget]
      decide
    rw [if_pos hget, if_neg hpost, if_pos (beq_iff_eq.mpr hget)]
    rcases rt.statusLimiter.allow remoteAddress io.nowMs.1 with ⟨_ | _, statusLimiter⟩
    · exact ⟨rfl, rfl⟩
    · dsimp only
      rw [handleGet_runtime]
      exact ⟨rfl, rfl⟩
  · rw [if_neg hget, if_neg (fun h => hget (beq_iff_eq.mp h))]
    by_cases hpost : request.method = bytes "POST"
    · rw [if_pos hpost, if_neg (by simp [hpost])]
      rcases rt.mutationLimiter.allow remoteAddress io.nowMs.1 with ⟨_ | _, mutationLimiter⟩
      · exact ⟨rfl, rfl⟩
      · exact sameLimiters_handlePost { rt with mutationLimiter } _ _ request
    · rw [if_neg hpost, if_pos (by simpa using hpost)]
      exact ⟨rfl, rfl⟩

lemma limits (assets : Assets) (target : Target) (config : NativeConfig) (rt : NativeRuntime)
    (move : Move) : Limits assets target config rt move := by
  by_cases hrequest : ∃ request remoteAddress, move.op = .HandleRequest request remoteAddress
  · obtain ⟨request, remoteAddress, hop⟩ := hrequest
    have hcall : ∀ method, move.call method =
        if request.method = method then some (remoteAddress, move.clock 0) else none := by
      intro method
      rw [Move.call, hop]
    have hstep : (rt.step assets target config move.op move.clock move.answers).after =
        (rt.handleRequest assets target config { clock := move.clock, answers := move.answers } request
          remoteAddress).runtime := by
      rw [hop]
      rfl
    have hafter := handleRequest_limiters assets target config rt
      { clock := move.clock, answers := move.answers } request remoteAddress
    refine ⟨?_, ?_, ?_⟩
    · rw [hstep, hafter.status, hcall]
      split_ifs <;> rfl
    · rw [hstep, hafter.mutation, hcall]
      split_ifs <;> rfl
    · have htries : move.tries rt =
          if rt.admits (move.clock 0) request remoteAddress then some request.pin else none := by
        rw [Move.tries, hop]
      rw [htries, hcall, hcall, admits]
      by_cases hget : request.method = bytes "GET"
      · have hpost : request.method ≠ bytes "POST" := by
          rw [hget]
          decide
        rw [if_pos (beq_iff_eq.mpr hget), if_pos hget, if_neg hpost]
        simp only [Option.toList_some, Option.toList_none, RateLimiter.allowed]
        split_ifs <;> rfl
      · rw [if_neg (fun h => hget (beq_iff_eq.mp h)), if_neg hget]
        by_cases hpost : request.method = bytes "POST"
        · rw [if_pos hpost, beq_iff_eq.mpr hpost, Bool.true_and]
          simp only [Option.toList_some, Option.toList_none, RateLimiter.allowed]
          split_ifs <;> rfl
        · rw [if_neg hpost, beq_eq_false_iff_ne.mpr hpost, Bool.false_and]
          rfl
  · have hcall : ∀ method, move.call method = none := by
      intro method
      rw [Move.call]
      cases hop : move.op with
      | HandleRequest request remoteAddress => exact absurd ⟨request, remoteAddress, hop⟩ hrequest
      | _ => rfl
    have htries : move.tries rt = none := by
      rw [Move.tries]
      cases hop : move.op with
      | HandleRequest request remoteAddress => exact absurd ⟨request, remoteAddress, hop⟩ hrequest
      | _ => rfl
    have hafter : SameLimiters rt
        (rt.step assets target config move.op move.clock move.answers).after := by
      refine sameLimiters_perform rt _ fun request remoteAddress hop => ?_
      exact hrequest ⟨request, remoteAddress, hop⟩
    refine ⟨?_, ?_, ?_⟩
    · rw [hcall, hafter.status]
      rfl
    · rw [hcall, hafter.mutation]
      rfl
    · rw [hcall, hcall, htries]
      rfl

/-- The calls of the limiter for this method, in the order of the moves. -/
def callsOf (method : Bytes) (moves : List (NativeRuntime × Move)) : List (Bytes × ℤ) :=
  moves.filterMap fun move => move.2.call method

lemma callsOf_cons (method : Bytes) (move : NativeRuntime × Move) (moves : List (NativeRuntime × Move)) :
    callsOf method (move :: moves) = (move.2.call method).toList ++ callsOf method moves := by
  rw [callsOf, callsOf, List.filterMap_cons]
  cases move.2.call method <;> rfl

/-- **What is tried has passed a limiter.** -/
lemma length_guesses (assets : Assets) (target : Target) (config : NativeConfig) (n : ℕ) :
    ∀ (strategy : List (Bool × Option HttpResponse) → Move) (rt : NativeRuntime),
    (guesses (pinGame assets target config)
        (plays (pinGame assets target config) strategy rt n)).length =
      rt.statusLimiter.allowed
          (callsOf (bytes "GET") (plays (pinGame assets target config) strategy rt n)) +
        rt.mutationLimiter.allowed
          (callsOf (bytes "POST") (plays (pinGame assets target config) strategy rt n)) := by
  induction n with
  | zero => exact fun _ _ => rfl
  | succ n ih =>
      intro strategy rt
      have hlimits := limits assets target config rt (strategy [])
      rw [guesses_plays_succ, List.length_append, ih, plays, callsOf_cons, callsOf_cons,
        RateLimiter.allowed_append, RateLimiter.allowed_append, ← hlimits.status, ← hlimits.mutation]
      have htries : ((pinGame assets target config).guess rt (strategy [])).toList.length =
          rt.statusLimiter.allowed ((strategy []).call (bytes "GET")).toList +
            rt.mutationLimiter.allowed ((strategy []).call (bytes "POST")).toList := hlimits.tries
      rw [htries]
      simp only [pinGame]
      omega

/-- The requests come from these addresses and in this time, and the clock does not go back. -/
structure PlaysWithin (addresses : Finset Bytes) (t u : ℤ) (moves : List (NativeRuntime × Move)) : Prop where
  addresses : ∀ move ∈ moves, ∀ request remoteAddress,
    move.2.op = .HandleRequest request remoteAddress → remoteAddress ∈ addresses
  times : ∀ move ∈ moves, t ≤ move.2.clock 0 ∧ move.2.clock 0 ≤ u
  sorted : (moves.map fun move => move.2.clock 0).Pairwise (· ≤ ·)

lemma PlaysWithin.callsOf {addresses : Finset Bytes} {t u : ℤ} {moves : List (NativeRuntime × Move)}
    (h : PlaysWithin addresses t u moves) (method : Bytes) :
    (∀ call ∈ callsOf method moves, call.1 ∈ addresses ∧ t ≤ call.2 ∧ call.2 ≤ u) ∧
      ((LegacyAlpha.callsOf method moves).map Prod.snd).Pairwise (· ≤ ·) := by
  have hcall : ∀ move : Move, ∀ call ∈ move.call method, call.2 = move.clock 0 ∧
      ∃ request, move.op = .HandleRequest request call.1 := by
    intro move call hcall
    rw [Option.mem_def, Move.call] at hcall
    cases hop : move.op with
    | HandleRequest request remoteAddress =>
        simp only [hop] at hcall
        split_ifs at hcall
        obtain rfl := Option.some.inj hcall
        exact ⟨rfl, request, rfl⟩
    | _ => simp [hop] at hcall
  constructor
  · intro call hmem
    obtain ⟨move, hmove, hcalled⟩ := List.mem_filterMap.mp hmem
    obtain ⟨htime, request, hop⟩ := hcall move.2 call hcalled
    rw [htime]
    exact ⟨h.addresses move hmove request call.1 hop, h.times move hmove⟩
  · have hsub : ∀ moves : List (NativeRuntime × Move),
        ((LegacyAlpha.callsOf method moves).map Prod.snd).Sublist
          (moves.map fun move => move.2.clock 0) := by
      intro moves
      induction moves with
      | nil => exact .refl []
      | cons move moves ih =>
          rw [callsOf_cons]
          cases hcalled : move.2.call method with
          | none => exact ih.cons _
          | some call =>
              rw [Option.toList_some, List.singleton_append, List.map_cons, List.map_cons,
                (hcall move.2 call hcalled).1]
              exact ih.cons_cons _
    exact h.sorted.sublist (hsub moves)

/-! ## Random numbers -/

lemma newSession_eq (assets : Assets) (target : Target) (config : NativeConfig)
    (hstopped : rt.started = false) (clock : ℕ → ℤ) (answers : ℕ → Bool) (random : ℕ) :
    newSession assets target config rt clock answers random =
      let out := operate config (rt.renew random) { clock, answers } .Start
      (updateScreen assets config { out.runtime with started := true } out.io true).1 := by
  rw [newSession, NativeRuntime.step, NativeRuntime.perform, NativeRuntime.start,
    if_neg (by simp [hstopped])]
  rfl

/-- Only the PIN is made of the number. -/
lemma newSession_mod (assets : Assets) (target : Target) (config : NativeConfig)
    (hstopped : rt.started = false) (clock : ℕ → ℤ) (answers : ℕ → Bool) (random : ℕ) :
    newSession assets target config rt clock answers (random % 1000000) =
      newSession assets target config rt clock answers random := by
  have hrenew : rt.renew (random % 1000000) = rt.renew random := by
    rw [renew, renew, Nat.mod_mod]
  rw [newSession_eq assets target config hstopped, newSession_eq assets target config hstopped, hrenew]

lemma newSession_inSession (assets : Assets) (target : Target) (config : NativeConfig)
    (hnone : InSession rt none) (clock : ℕ → ℤ) (answers : ℕ → Bool) (random : ℕ) :
    InSession (newSession assets target config rt clock answers random)
      (some (.generate random)) := by
  have hstart : InSession (rt.start assets config { clock, answers } random true).runtime _ :=
    hnone.start random true
  exact hstart

/-- Different numbers below a million have different digits. -/
lemma formatPin_injOn : Set.InjOn formatPin (Finset.range 1000000) := by
  have hdigit : ∀ d < 10, ∀ d' < 10, byte (Nat.digitChar d) = byte (Nat.digitChar d') → d = d' := by
    decide
  intro m hm n hn hsame
  rw [Finset.coe_range, Set.mem_Iio] at hm hn
  have hdigits : ∀ i < 6, m / 10 ^ (5 - i) % 10 = n / 10 ^ (5 - i) % 10 := by
    intro i hi
    have hget : (formatPin m)[i]? = (formatPin n)[i]? := by rw [hsame]
    rw [formatPin, formatPin, List.getElem?_map, List.getElem?_map, List.getElem?_range hi,
      Option.map_some, Option.map_some, Option.some.injEq] at hget
    exact hdigit _ (Nat.mod_lt _ (by norm_num)) _ (Nat.mod_lt _ (by norm_num)) hget
  have h0 := hdigits 0 (by norm_num)
  have h1 := hdigits 1 (by norm_num)
  have h2 := hdigits 2 (by norm_num)
  have h3 := hdigits 3 (by norm_num)
  have h4 := hdigits 4 (by norm_num)
  have h5 := hdigits 5 (by norm_num)
  norm_num at h0 h1 h2 h3 h4 h5
  omega

/-- So many random numbers of 32 bits make a PIN, at most. -/
lemma card_random_le (n : ℕ) : ((Finset.range (2 ^ 32)).filter fun random =>
    random % 1000000 = n).card ≤ 4295 := by
  have hcount := Nat.count_modEq_card (2 ^ 32) (show 0 < 1000000 by norm_num) n
  have hle : Nat.count (· ≡ n [MOD 1000000]) (2 ^ 32) ≤ 4295 := by
    rw [hcount]
    split_ifs <;> norm_num
  rw [Nat.count_eq_card_filter_range] at hle
  refine le_trans (Finset.card_le_card fun random hrandom => ?_) hle
  obtain ⟨hlt, rfl⟩ := Finset.mem_filter.mp hrandom
  exact Finset.mem_filter.mpr ⟨hlt, (Nat.mod_modEq random 1000000).symm⟩

/-- Each PIN stands for so many random numbers, so that what is counted in PINs is counted in numbers. -/
lemma card_random_le_card_pins {hit : ℕ → Prop} [DecidablePred hit]
    (hmod : ∀ random, hit random → hit (random % 1000000)) :
    ((Finset.range (2 ^ 32)).filter hit).card ≤ 4295 * ((Finset.range 1000000).filter hit).card := by
  have hmaps : ∀ random ∈ (Finset.range (2 ^ 32)).filter hit,
      random % 1000000 ∈ (Finset.range 1000000).filter hit := by
    intro random hrandom
    refine Finset.mem_filter.mpr ⟨Finset.mem_range.mpr (Nat.mod_lt _ (by norm_num)), ?_⟩
    exact hmod random (Finset.mem_filter.mp hrandom).2
  refine Finset.card_le_mul_card_image_of_maps_to hmaps 4295 fun pin _ => ?_
  refine le_trans (Finset.card_le_card ?_) (card_random_le pin)
  exact Finset.filter_subset_filter _ (Finset.filter_subset _ _)

/-- Below a million, each number makes a PIN of its own. -/
lemma newSession_pin_injOn (assets : Assets) (target : Target) (config : NativeConfig)
    (hnone : InSession rt none) (clock : ℕ → ℤ) (answers : ℕ → Bool) :
    Set.InjOn (fun random => (newSession assets target config rt clock answers random).pin)
      (Finset.range 1000000) := by
  intro m hm n hn hsame
  have hpin : ∀ random, (newSession assets target config rt clock answers random).pin =
      formatPin (random % 1000000) :=
    fun random => (newSession_inSession assets target config hnone clock answers random).pin
  simp only [hpin] at hsame
  rw [Nat.mod_eq_of_lt (Finset.mem_range.mp hm), Nat.mod_eq_of_lt (Finset.mem_range.mp hn)] at hsame
  exact formatPin_injOn hm hn hsame

/-- The limiters of a new session have no buckets yet. -/
lemma newSession_limiters (assets : Assets) (target : Target) (config : NativeConfig)
    (hstopped : rt.started = false) (clock : ℕ → ℤ) (answers : ℕ → Bool) (random : ℕ) :
    SameLimiters
      { rt with statusLimiter := rt.statusLimiter.clear, mutationLimiter := rt.mutationLimiter.clear }
      (newSession assets target config rt clock answers random) := by
  rw [newSession_eq assets target config hstopped]
  refine SameLimiters.trans ?_ (sameLimiters_updateScreen _ _ true)
  exact ⟨rfl, rfl⟩

/-- New sessions of one runtime are twins. -/
lemma newSession_twins (assets : Assets) (target : Target) (config : NativeConfig)
    (hnone : InSession rt none) (clock : ℕ → ℤ) (answers : ℕ → Bool) (random random' : ℕ) :
    TwinSessions (newSession assets target config rt clock answers random)
      (newSession assets target config rt clock answers random') := by
  have hunseen : UnseenPerformed (rt.start assets config { clock, answers } random true)
      (rt.start assets config { clock, answers } random' true) :=
    rt.unseen_start _ random random' true rt.pin rt.previousScreen
  exact ⟨hunseen.runtime, ⟨_, newSession_inSession assets target config hnone clock answers random⟩,
    ⟨_, newSession_inSession assets target config hnone clock answers random'⟩⟩

/-! ## Stopped runtimes -/

/-- The limiters are those of the constructor, but for their buckets, as they are throughout a run. -/
structure OwnLimiters (rt : NativeRuntime) : Prop where
  status : rt.statusLimiter.clear = .new 20 4 16
  mutation : rt.mutationLimiter.clear = .new 6 1 16

lemma OwnLimiters.of_same (h : OwnLimiters rt) (hsame : SameLimiters rt rt') : OwnLimiters rt' where
  status := by rw [hsame.status, h.status]
  mutation := by rw [hsame.mutation, h.mutation]

lemma clear_foldl_perform (calls : List (Bytes × ℤ)) : ∀ limiter : RateLimiter,
    ((calls.map LimiterOp.ofCall).foldl RateLimiter.perform limiter).clear = limiter.clear := by
  induction calls with
  | nil => exact fun _ => rfl
  | cons call calls ih => exact fun limiter => ih (limiter.allow call.1 call.2).2

/-- Nothing that happens to a runtime gives its limiters other bounds. -/
lemma OwnLimiters.step (h : OwnLimiters rt) (op : RuntimeOp) (clock : ℕ → ℤ) (answers : ℕ → Bool) :
    OwnLimiters (rt.step assets target config op clock answers).after := by
  by_cases hstart : ∃ random serverStarts, op = .Start random serverStarts
  · obtain ⟨random, serverStarts, rfl⟩ := hstart
    have hrenewed : OwnLimiters (rt.renew random) := ⟨h.status, h.mutation⟩
    have hstarted := hrenewed.of_same (sameLimiters_operate config _ { clock, answers } .Start)
    show OwnLimiters (rt.start assets config { clock, answers } random serverStarts).runtime
    rw [NativeRuntime.start]
    split_ifs
    · exact h
    · exact hstarted.of_same ⟨rfl, rfl⟩
    · have hopened : OwnLimiters { (operate config (rt.renew random) { clock, answers }
          .Start).runtime with started := true } := hstarted.of_same ⟨rfl, rfl⟩
      exact hopened.of_same (sameLimiters_updateScreen _ _ true)
  by_cases hstop : op = .Stop
  · subst hstop
    show OwnLimiters (rt.stop config { clock, answers }).runtime
    rw [NativeRuntime.stop]
    split_ifs
    · exact h
    · exact h.of_same ⟨rfl, rfl⟩
  · let move : Move := ⟨op, clock, answers, fun random serverStarts h => hstart ⟨random, serverStarts, h⟩,
      hstop⟩
    have hlimits := limits assets target config rt move
    refine ⟨?_, ?_⟩
    · exact (congrArg RateLimiter.clear hlimits.status).trans
        ((clear_foldl_perform _ _).trans h.status)
    · exact (congrArg RateLimiter.clear hlimits.mutation).trans
        ((clear_foldl_perform _ _).trans h.mutation)

lemma RuntimePath.ownLimiters {steps : List RuntimeStep}
    (hpath : RuntimePath assets target config rt steps rt') (h : OwnLimiters rt) : OwnLimiters rt' := by
  induction hpath with
  | refl rt => exact h
  | step op clock answers _ ih => exact ih (h.step op clock answers)

/-- **So many PINs are tried** in a session, at most: what the two limiters let pass. -/
lemma length_guesses_le (hstopped : rt.started = false) (hlimits : OwnLimiters rt) (clock : ℕ → ℤ)
    (answers : ℕ → Bool) (random : ℕ) {addresses : Finset Bytes} (hroom : addresses.card ≤ 16)
    {t u : ℤ} (htu : t ≤ u)
    (hwithin : PlaysWithin addresses t u (plays (pinGame assets target config) strategy
      (newSession assets target config rt clock answers random) n)) :
    ((guesses (pinGame assets target config) (plays (pinGame assets target config) strategy
      (newSession assets target config rt clock answers random) n)).length : ℚ) ≤
        addresses.card * (26 + 5 / 1000 * (u - t)) := by
  have hlimiters := newSession_limiters assets target config hstopped clock answers random
  obtain ⟨hcalls, hsorted⟩ := hwithin.callsOf (bytes "GET")
  obtain ⟨hcalls', hsorted'⟩ := hwithin.callsOf (bytes "POST")
  have hempty : (RateLimiter.new 20 4 16).buckets = [] := rfl
  have hempty' : (RateLimiter.new 6 1 16).buckets = [] := rfl
  have hstatus := RateLimiter.allowed_le hempty (by norm_num [RateLimiter.new])
    (by norm_num [RateLimiter.new]) hroom htu hcalls hsorted
  have hmutation := RateLimiter.allowed_le hempty' (by norm_num [RateLimiter.new])
    (by norm_num [RateLimiter.new]) hroom htu hcalls' hsorted'
  rw [length_guesses, hlimiters.status, hlimiters.mutation, hlimits.status, hlimits.mutation,
    Nat.cast_add]
  refine (add_le_add hstatus hmutation).trans (le_of_eq ?_)
  norm_num [RateLimiter.new]
  ring

open Classical in
/-- **Guessing the PIN**: in a session that any stopped runtime begins, whoever plays from so many
addresses for so long, by a clock that does not go back, finds it with no more random numbers than this,
whatever he does. -/
theorem pin_guessing {steps : List RuntimeStep} (hrun : RuntimeRun assets target config steps rt)
    (hstopped : rt.started = false) (clock : ℕ → ℤ) (answers : ℕ → Bool)
    (strategy : List (Bool × Option HttpResponse) → Move) (n : ℕ) {addresses : Finset Bytes}
    (hroom : addresses.card ≤ 16) {t u : ℤ} (htu : t ≤ u)
    (hwithin : ∀ random, PlaysWithin addresses t u (plays (pinGame assets target config) strategy
      (newSession assets target config rt clock answers random) n)) :
    (((Finset.range (2 ^ 32)).filter fun random => Hit (pinGame assets target config)
      (plays (pinGame assets target config) strategy
        (newSession assets target config rt clock answers random) n)).card : ℚ) ≤
      4295 * (addresses.card * (26 + 5 / 1000 * (u - t))) := by
  have hnone : InSession rt none := by
    have hsession := RuntimeRun.inSession hrun
    have hended : sessionOf steps = none := by
      rw [← Option.isNone_iff_eq_none, ← Option.isSome_eq_false_iff, ← hsession.started, hstopped]
    rwa [hended] at hsession
  have hlimits : OwnLimiters rt := RuntimePath.ownLimiters hrun ⟨rfl, rfl⟩
  let hit (random : ℕ) : Prop := Hit (pinGame assets target config)
    (plays (pinGame assets target config) strategy
      (newSession assets target config rt clock answers random) n)
  let bound : ℚ := addresses.card * (26 + 5 / 1000 * (u - t))
  have hnonneg : 0 ≤ bound := by
    have htime : (0 : ℚ) ≤ u - t := sub_nonneg.mpr (Int.cast_le.mpr htu)
    positivity
  have hfound : ((Finset.range 1000000).filter hit).card ≤ ⌊bound⌋₊ := by
    apply card_hit_le (pinGame_hides assets target config) n strategy (Finset.range 1000000)
      (newSession assets target config rt clock answers)
    · exact fun i _ j _ => newSession_twins assets target config hnone clock answers i j
    · exact newSession_pin_injOn assets target config hnone clock answers
    · intro random _
      exact Nat.le_floor
        (length_guesses_le hstopped hlimits clock answers random hroom htu (hwithin random))
  have hcount : ((Finset.range (2 ^ 32)).filter hit).card ≤
      4295 * ((Finset.range 1000000).filter hit).card := by
    refine card_random_le_card_pins fun random hhit => ?_
    dsimp only [hit] at hhit ⊢
    rwa [newSession_mod assets target config hstopped]
  calc (((Finset.range (2 ^ 32)).filter hit).card : ℚ)
      ≤ (4295 * ((Finset.range 1000000).filter hit).card : ℕ) := Nat.cast_le.mpr hcount
    _ = 4295 * (((Finset.range 1000000).filter hit).card : ℚ) := by push_cast; rfl
    _ ≤ 4295 * (⌊bound⌋₊ : ℚ) := by gcongr
    _ ≤ 4295 * bound := by gcongr; exact Nat.floor_le hnonneg

/-- Someone asks for the preview with a PIN, at one second. -/
def guessMove : Move where
  op := .HandleRequest guess (bytes "192.168.122.7")
  clock := fun _ => 1000
  answers := fun _ => true
  notStart := by simp
  notStop := by simp

/-- A session in which he has tried it once, and which is over: its limiters keep their buckets until
the next one starts. -/
def guessedOps : List (RuntimeOp × ℤ) :=
  [(.Start 123456 true, 0), (guessMove.op, 500), (.Stop, 900)]

/-- The runtime after that session, which is stopped. -/
def guessedRuntime : NativeRuntime := RuntimePath.destination {} .armeabi {} (.new {}) guessedOps

open Classical in
/-- In the next session he tries it again and again for a moment: of all random numbers few make a PIN
that he hits. -/
theorem pin_guessing_again :
    (((Finset.range (2 ^ 32)).filter fun random => Hit (pinGame {} .armeabi {})
      (plays (pinGame {} .armeabi {}) (fun _ => guessMove)
        (newSession {} .armeabi {} guessedRuntime (fun _ => 950) (fun _ => true) random)
        100)).card : ℚ) ≤ 4295 * 26 := by
  have hmoves : ∀ (n : ℕ) (rt : NativeRuntime),
      (plays (pinGame {} .armeabi {}) (fun _ => guessMove) rt n).map Prod.snd =
        List.replicate n guessMove := by
    intro n
    induction n with
    | zero => exact fun _ => rfl
    | succ n ih => exact fun rt => congrArg (List.cons guessMove) (ih _)
  have hwithin : ∀ rt, PlaysWithin {bytes "192.168.122.7"} 1000 1000
      (plays (pinGame {} .armeabi {}) (fun _ => guessMove) rt 100) := by
    intro rt
    have hall := hmoves 100 rt
    have hmem : ∀ move ∈ plays (pinGame {} .armeabi {}) (fun _ => guessMove) rt 100,
        move.2 = guessMove := by
      intro move hmove
      have hsnd := List.mem_map_of_mem (f := Prod.snd) hmove
      rw [hall] at hsnd
      exact List.eq_of_mem_replicate hsnd
    refine ⟨?_, ?_, ?_⟩
    · intro move hmove request remoteAddress hop
      rw [hmem move hmove] at hop
      obtain ⟨-, rfl⟩ := RuntimeOp.HandleRequest.inj hop
      exact Finset.mem_singleton_self _
    · intro move hmove
      rw [hmem move hmove]
      exact ⟨le_rfl, le_rfl⟩
    · have htimes := congrArg (List.map fun move : Move => move.clock 0) hall
      rw [List.map_map, List.map_replicate] at htimes
      refine htimes ▸ List.pairwise_replicate.mpr (Or.inr le_rfl)
  have hroom : ({bytes "192.168.122.7"} : Finset Bytes).card ≤ 16 := by
    rw [Finset.card_singleton]
    norm_num
  have hrun : RuntimeRun {} .armeabi {} _ guessedRuntime :=
    RuntimePath.taken_path {} .armeabi {} (.new {}) guessedOps
  have hbound := pin_guessing hrun (by decide +kernel) (fun _ => 950) (fun _ => true)
    (fun _ => guessMove) 100 hroom le_rfl fun random => hwithin _
  refine hbound.trans (le_of_eq ?_)
  rw [Finset.card_singleton]
  norm_num

end Session

end LegacyAlpha
