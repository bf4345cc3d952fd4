import LegacyAlphaRemote.Http.CaptureJson
import LegacyAlphaRemote.Runtime.JsonBodies

/-!
# The page on the phone

`kAppJs` in `embedded_web.cpp`, the script that the camera serves to the phone.  It asks for the status,
shows it, and asks again when a timer goes off; taps on its two buttons send requests in between, and
the answer to each makes it ask at once.  So several requests may be under way at a time, answered in
any order, but there is one timer only, and one exception that nobody catches is enough to leave it
unset.

Everything the script waits for is an event (`PhoneEvent`).  The browser keeps to its times, give or
take `late`: a timer goes off when it is due, and a request that is not answered in time is given up
(`PhoneRun`).  What is written on the page is left out where nothing depends on it.

`PhoneRun.keepsAsking` says that the page never loses touch while no such exception is thrown
(`Survives`), and `stuck_arabicPin` that it may when one is.
-/

namespace LegacyAlpha

/-! ## Values of the script -/

namespace Json

/-- A property of a value that is not null; without it there is `undefined`.  Of two members with one
name the last one counts. -/
def property? (value : Json) (name : Bytes) : Option Json :=
  match value with
  | .obj members => (members.reverse.find? fun member => member.1 == name).map Prod.snd
  | _ => none

/-- What holds as a condition: of a number all but zero, of a text all but the empty one. -/
def truthy : Option Json → Bool
  | none | some .null => false
  | some (.bool b) => b
  | some (.num q) => q != 0
  | some (.str s) => !s.isEmpty
  | some (.arr _) | some (.obj _) => true

/-- `===`.  Objects that were read from different texts are different, also where they have the same
members. -/
def same : Option Json → Option Json → Bool
  | none, none | some .null, some .null => true
  | some (.bool b), some (.bool b') => b == b'
  | some (.num q), some (.num q') => q == q'
  | some (.str s), some (.str s') => s == s'
  | _, _ => false

end Json

open Json

/-- Six digits, as `/^[0-9]{6}$/` has it, over the code units of a string. -/
def isSixDigits (units : List ℕ) : Bool :=
  units.length == 6 && units.all fun u => 0x30 ≤ u && u ≤ 0x39

/-- White space that `setRequestHeader` removes on both sides of a value. -/
def isHeaderWhite (u : ℕ) : Bool := u == 0x09 || u == 0x0a || u == 0x0d || u == 0x20

/-- A string that `setRequestHeader` takes for a value; it throws on any other. -/
def isHeaderValue (units : List ℕ) : Bool :=
  units.all (· ≤ 0xff) &&
    (((units.dropWhile isHeaderWhite).reverse.dropWhile isHeaderWhite).all fun u =>
      u != 0 && u != 0x0a && u != 0x0d)

/-! ## The page -/

/-- What a request is for.  That for a picture carries the status it belongs to. -/
inductive Purpose
  | Status
  | Preview (status : Json)
  | Capture (request : CaptureRequest)
  | Cancel

/-- `timeout`, which is longer where a picture is waited for. -/
def Purpose.timeoutMs : Purpose → ℤ
  | .Preview _ => 8000
  | _ => 6000

lemma timeoutMs_status : Purpose.Status.timeoutMs = 6000 := rfl

/-- An `XMLHttpRequest` that has been sent and not been answered, with the PIN it was given. -/
structure Xhr where
  purpose : Purpose
  sentMs : ℤ
  pin : List ℕ

/-- The page and its script: the value of `pin`, the two buttons, what is shown, `timer` with the time
it goes off, `backoff`, `previewVersion`, and what has been sent.  The last three fields count, and
nothing in the script knows them: when it has asked for the status, how many captures it has asked
for, and how often it has let the user do so. -/
structure PhonePage where
  pin : List ℕ := []
  shutterDisabled : Bool := true
  cancelHidden : Bool := true
  cancelDisabled : Bool := false
  connected : Bool := false
  shown : Option Json := none
  result : Bytes := []
  timer : Option ℤ := none
  backoff : ℤ := 5000
  previewVersion : Option Json := some (.num 0)
  photo : Option Bytes := none
  requests : List Xhr := []
  polledMs : List ℤ := []
  captures : ℕ := 0
  enablings : ℕ := 0

/-- What may happen: the user types or taps, the timer goes off, or a request ends, the one at this
place in the list, with an answer or without. -/
inductive PhoneEvent
  | Typed (pin : List ℕ)
  | Fires
  | Answered (i : ℕ) (code : ℕ) (text : Bytes)
  | Lost (i : ℕ)
  | TapShutter (dateMs random : ℕ) (delayMs : ℤ) (autofocus : Bool)
  | TapCancel

/-- The values of `delay`, from which the user chooses one. -/
def delays : List ℤ := [0, 2000, 3000, 5000, 10000]

/-- The last time a date can have, in milliseconds, which bounds the length of an id. -/
def maxDateMs : ℕ := 8640000000000000

namespace PhonePage

/-- `schedule`: the timer is set anew, and an earlier one goes off no more. -/
def schedule (p : PhonePage) (nowMs ms : ℤ) : PhonePage := { p with timer := some (nowMs + ms) }

/-- `poll`, as far as it sends: one more request for the status, without the PIN. -/
def poll (p : PhonePage) (nowMs : ℤ) : PhonePage :=
  { p with requests := p.requests ++ [⟨.Status, nowMs, []⟩], polledMs := p.polledMs ++ [nowMs] }

/-- There is a picture, and the page does not have its version. -/
def wantsPreview (p : PhonePage) (s : Json) : Bool :=
  truthy (s.property? (bytes "preview_available")) &&
    !same (s.property? (bytes "preview_version")) p.previewVersion

/-- The state of the camera is this, in the words of the status. -/
def stateIs (s : Json) (state : Bytes) : Bool :=
  same (s.property? (bytes "state")) (some (.str state))

/-- How long the page waits before it asks again, which is shorter while a photo is being taken. -/
def pauseMs (s : Json) : ℤ :=
  if stateIs s (bytes "countdown") || stateIs s (bytes "focusing") then 350
  else if stateIs s (bytes "capturing") || stateIs s (bytes "cooldown") then 1000
  else 5000

/-- The end of the handler of `poll`: the buttons, and the timer.  The shutter can be tapped when the
camera is armed and the PIN has six digits. -/
def arrange (p : PhonePage) (nowMs : ℤ) (s : Json) : PhonePage :=
  let enabled := stateIs s (bytes "armed") && isSixDigits p.pin
  { p with
    shutterDisabled := !enabled
    enablings := if enabled then p.enablings + 1 else p.enablings
    cancelHidden := !(stateIs s (bytes "countdown") || stateIs s (bytes "focusing")) }.schedule nowMs
      (pauseMs s)

/-- The handler of `poll`, once it has got a status.  It ends where an exception is thrown, when the
PIN cannot be sent with the request for a picture. -/
def statusRead (p : PhonePage) (nowMs : ℤ) (s : Json) : PhonePage :=
  let p := { p with backoff := 5000, connected := true, shown := some s }
  if !p.wantsPreview s then p.arrange nowMs s
  else if !isHeaderValue p.pin then p
  else { p with requests := p.requests ++ [Xhr.mk (.Preview s) nowMs p.pin] }.arrange nowMs s

/-- The handler of `poll`.  When it looks for the properties of null, an exception is thrown. -/
def statusDone (p : PhonePage) (nowMs : ℤ) (code : ℕ) (text : Bytes) : PhonePage :=
  if code ≠ 200 then
    let backoff := min 15000 (p.backoff * 2)
    { p with connected := false, shutterDisabled := true, backoff }.schedule nowMs backoff
  else
    match Json.parse text with
    | none => p.schedule nowMs 5000
    | some .null => { p with backoff := 5000, connected := true }
    | some s => p.statusRead nowMs s

/-- The handler of a capture: its answer is shown as it is, and the status is asked for. -/
def captureDone (p : PhonePage) (nowMs : ℤ) (text : Bytes) : PhonePage :=
  { p with result := if text.isEmpty then bytes "Request failed" else text }.poll nowMs

/-- The handler of a cancel, after which the button works again. -/
def cancelDone (p : PhonePage) (nowMs : ℤ) (text : Bytes) : PhonePage :=
  { p with
    cancelDisabled := false
    result := if text.isEmpty then bytes "Cancel failed" else text }.poll nowMs

/-- `finish`, of a request for a picture.  The version that is remembered is that of the status which
led to the request. -/
def previewDone (p : PhonePage) (code : ℕ) (blob : Bytes) (s : Json) : PhonePage :=
  if code = 200 then
    { p with photo := some blob, previewVersion := s.property? (bytes "preview_version") }
  else p

/-- A request has been answered: the handler of its purpose is called. -/
def answered (p : PhonePage) (nowMs : ℤ) (code : ℕ) (text : Bytes) : Purpose → PhonePage
  | .Status => p.statusDone nowMs code text
  | .Preview s => p.previewDone code text s
  | .Capture _ => p.captureDone nowMs text
  | .Cancel => p.cancelDone nowMs text

/-- A request has failed or timed out.  The browser then says that it is done, and after that that it
has failed; for `xhr`, both call the handler. -/
def lost (p : PhonePage) (nowMs : ℤ) : Purpose → PhonePage
  | .Status => (p.statusDone nowMs 0 []).statusDone nowMs 0 []
  | .Preview _ => p
  | .Capture _ => (p.captureDone nowMs []).captureDone nowMs []
  | .Cancel => (p.cancelDone nowMs []).cancelDone nowMs []

/-- `id`: the time and a random number, by which the camera tells one tap from another. -/
def requestId (dateMs random : ℕ) : Bytes :=
  bytes "phone-" ++ formatNat dateMs ++ bytes "-" ++ formatNat random

/-- What each of them does to the page.  A request that cannot be given the PIN is not sent. -/
def perform (p : PhonePage) (nowMs : ℤ) : PhoneEvent → PhonePage
  | .Typed pin => { p with pin }
  | .Fires => { p with timer := none }.poll nowMs
  | .Answered i code text =>
    match p.requests[i]? with
    | none => p
    | some x => { p with requests := p.requests.eraseIdx i }.answered nowMs code text x.purpose
  | .Lost i =>
    match p.requests[i]? with
    | none => p
    | some x => { p with requests := p.requests.eraseIdx i }.lost nowMs x.purpose
  | .TapShutter dateMs random delayMs autofocus =>
    let p := { p with shutterDisabled := true }
    if !isHeaderValue p.pin then p
    else
      let request := { requestId := requestId dateMs random, delayMs, autofocus }
      { p with
        requests := p.requests ++ [⟨.Capture request, nowMs, p.pin⟩]
        captures := p.captures + 1 }
  | .TapCancel =>
    let p := { p with cancelDisabled := true }
    if !isHeaderValue p.pin then p
    else { p with requests := p.requests ++ [⟨.Cancel, nowMs, p.pin⟩] }

/-- When it can happen.  A button that is disabled or hidden is not tapped. -/
def Enabled (p : PhonePage) (nowMs : ℤ) : PhoneEvent → Prop
  | .Typed _ => True
  | .Fires => ∃ dueMs, p.timer = some dueMs ∧ dueMs ≤ nowMs
  | .Answered i _ _ | .Lost i => i < p.requests.length
  | .TapShutter dateMs random delayMs _ =>
      p.shutterDisabled = false ∧ dateMs ≤ maxDateMs ∧ random < 1000000 ∧ delayMs ∈ delays
  | .TapCancel => p.cancelHidden = false ∧ p.cancelDisabled = false

/-- Nothing is overdue for longer than this, neither the timer nor the end of a request. -/
structure OnTime (p : PhonePage) (late nowMs : ℤ) : Prop where
  timer : ∀ dueMs, p.timer = some dueMs → nowMs ≤ dueMs + late
  requests : ∀ x ∈ p.requests, nowMs ≤ x.sentMs + x.purpose.timeoutMs + late

/-- The handler of `poll` comes to its end: a status that it is given is not null, and when there is a
picture to be asked for, the PIN can be sent with the request. -/
def Survives (p : PhonePage) : PhoneEvent → Prop
  | .Answered i code text => ∀ x, p.requests[i]? = some x → x.purpose = .Status → code = 200 →
      ∀ s, Json.parse text = some s → s ≠ .null ∧ (p.wantsPreview s = true → isHeaderValue p.pin = true)
  | _ => True

end PhonePage

/-- The runs of the page from when it is loaded, in which only those events happen that are `allowed` on
the page they meet: time goes by, or something happens. -/
inductive PhoneRun (allowed : PhonePage → PhoneEvent → Prop) (late startMs : ℤ) : PhonePage → ℤ → Prop
  | init (pin : List ℕ) : PhoneRun allowed late startMs (({ pin } : PhonePage).poll startMs) startMs
  | wait {p : PhonePage} {nowMs nowMs' : ℤ} : PhoneRun allowed late startMs p nowMs → nowMs ≤ nowMs' →
      p.OnTime late nowMs' → PhoneRun allowed late startMs p nowMs'
  | step {p : PhonePage} {nowMs nowMs' : ℤ} (event : PhoneEvent) :
      PhoneRun allowed late startMs p nowMs → nowMs ≤ nowMs' → p.OnTime late nowMs' →
      p.Enabled nowMs' event → allowed p event →
      PhoneRun allowed late startMs (p.perform nowMs' event) nowMs'

/-! ## What an event does -/

namespace PhonePage

variable {p p' p'' : PhonePage} {nowMs : ℤ}

/-- The page asks for the status, now, and has not asked at other times meanwhile. -/
structure Asks (nowMs : ℤ) (p p' : PhonePage) : Prop where
  asked : nowMs ∈ p'.polledMs
  polled : ∀ ms ∈ p.polledMs, ms ∈ p'.polledMs
  times : ∀ ms ∈ p'.polledMs, ms ∈ p.polledMs ∨ ms = nowMs
  waits : ∃ x ∈ p'.requests, x.purpose = .Status
  requests : ∀ x ∈ p'.requests, x.purpose = .Status → x ∈ p.requests ∨ x.sentMs = nowMs

/-- The page sets the timer, fifteen seconds ahead at most, and asks for nothing meanwhile. -/
structure Sets (nowMs : ℤ) (p p' : PhonePage) : Prop where
  timer : ∃ ms ≤ 15000, p'.timer = some (nowMs + ms)
  polled : p'.polledMs = p.polledMs
  requests : ∀ x ∈ p'.requests, x.purpose = .Status → x ∈ p.requests

/-- The page goes on waiting for the status, as it did before. -/
structure Keeps (p p' : PhonePage) : Prop where
  timer : p'.timer = p.timer
  polled : p'.polledMs = p.polledMs
  requests : ∀ x, x.purpose = .Status → (x ∈ p'.requests ↔ x ∈ p.requests)

lemma Asks.of_poll (htimes : p'.polledMs = p.polledMs)
    (hrequests : ∀ x ∈ p'.requests, x.purpose = .Status → x ∈ p.requests) :
    Asks nowMs p (p'.poll nowMs) where
  asked := List.mem_append_right _ (List.mem_singleton_self nowMs)
  polled ms hms := List.mem_append_left _ (htimes ▸ hms)
  times ms hms := (List.mem_append.mp hms).imp (fun h => htimes ▸ h) List.mem_singleton.mp
  waits := ⟨⟨.Status, nowMs, []⟩, List.mem_append_right _ (List.mem_singleton_self _), rfl⟩
  requests x hx hstatus := by
    rcases List.mem_append.mp hx with hold | hnew
    · exact Or.inl (hrequests x hold hstatus)
    · rw [List.mem_singleton.mp hnew]
      exact Or.inr rfl

/-- The page asks twice in one callback, as a lost request makes its handler run twice. -/
lemma Asks.again (h : Asks nowMs p p') (htimes : p''.polledMs = p'.polledMs)
    (hrequests : p''.requests = p'.requests) : Asks nowMs p (p''.poll nowMs) where
  asked := List.mem_append_right _ (List.mem_singleton_self nowMs)
  polled ms hms := List.mem_append_left _ (htimes ▸ h.polled ms hms)
  times ms hms := by
    rcases List.mem_append.mp hms with hold | hnew
    · exact h.times ms (htimes ▸ hold)
    · exact Or.inr (List.mem_singleton.mp hnew)
  waits := ⟨⟨.Status, nowMs, []⟩, List.mem_append_right _ (List.mem_singleton_self _), rfl⟩
  requests x hx hstatus := by
    rcases List.mem_append.mp hx with hold | hnew
    · exact h.requests x (hrequests ▸ hold) hstatus
    · rw [List.mem_singleton.mp hnew]
      exact Or.inr rfl

lemma asks_captureDone (htimes : p'.polledMs = p.polledMs)
    (hrequests : ∀ x ∈ p'.requests, x.purpose = .Status → x ∈ p.requests) (text : Bytes) :
    Asks nowMs p (p'.captureDone nowMs text) :=
  Asks.of_poll htimes hrequests

lemma asks_cancelDone (htimes : p'.polledMs = p.polledMs)
    (hrequests : ∀ x ∈ p'.requests, x.purpose = .Status → x ∈ p.requests) (text : Bytes) :
    Asks nowMs p (p'.cancelDone nowMs text) :=
  Asks.of_poll htimes hrequests

lemma Asks.captureDone (h : Asks nowMs p p') (text : Bytes) :
    Asks nowMs p (p'.captureDone nowMs text) :=
  h.again rfl rfl

lemma Asks.cancelDone (h : Asks nowMs p p') (text : Bytes) : Asks nowMs p (p'.cancelDone nowMs text) :=
  h.again rfl rfl

/-- Before it sets the timer it may lose a request. -/
lemma Sets.after (h : Sets nowMs p' p'') (hpolled : p'.polledMs = p.polledMs)
    (hrequests : ∀ x ∈ p'.requests, x.purpose = .Status → x ∈ p.requests) : Sets nowMs p p'' where
  timer := h.timer
  polled := h.polled.trans hpolled
  requests x hx hstatus := hrequests x (h.requests x hx hstatus) hstatus

/-- The page without one of its requests. -/
lemma mem_eraseIdx {x y : Xhr} {i : ℕ} (hx : p.requests[i]? = some x) (hne : y ≠ x) :
    y ∈ p.requests.eraseIdx i ↔ y ∈ p.requests := by
  refine ⟨List.mem_of_mem_eraseIdx, fun hy => ?_⟩
  obtain ⟨j, hj⟩ := List.getElem?_of_mem hy
  refine List.mem_eraseIdx_iff_getElem?.mpr ⟨j, ?_, hj⟩
  rintro rfl
  exact hne (Option.some.inj (hj.symm.trans hx))

lemma pauseMs_le (s : Json) : pauseMs s ≤ 15000 := by
  rw [pauseMs]
  split_ifs <;> norm_num

lemma sets_statusRead {s : Json} (hpin : p.wantsPreview s = true → isHeaderValue p.pin = true) :
    Sets nowMs p (p.statusRead nowMs s) := by
  rw [statusRead]
  dsimp only
  split_ifs with hnone hunsent
  · exact ⟨⟨_, pauseMs_le s, rfl⟩, rfl, fun x hx _ => hx⟩
  · have hwants : p.wantsPreview s = true := by
      simpa using (show ¬ (!p.wantsPreview s) = true from hnone)
    simp [hpin hwants] at hunsent
  · refine ⟨⟨_, pauseMs_le s, rfl⟩, rfl, fun x hx hstatus => ?_⟩
    rcases List.mem_append.mp hx with hold | hnew
    · exact hold
    · rw [List.mem_singleton.mp hnew] at hstatus
      cases hstatus

/-- The handler of `poll` sets the timer, unless an exception is thrown. -/
lemma sets_statusDone (p : PhonePage) (nowMs : ℤ) {code : ℕ} {text : Bytes}
    (hsurvives : code = 200 → ∀ s, Json.parse text = some s →
      s ≠ .null ∧ (p.wantsPreview s = true → isHeaderValue p.pin = true)) :
    Sets nowMs p (p.statusDone nowMs code text) := by
  rw [statusDone]
  by_cases hcode : code ≠ 200
  · rw [if_pos hcode]
    exact ⟨⟨_, min_le_left _ _, rfl⟩, rfl, fun x hx _ => hx⟩
  · rw [if_neg hcode]
    have hs := hsurvives (not_not.mp hcode)
    cases hparse : Json.parse text with
    | none => exact ⟨⟨5000, by norm_num, rfl⟩, rfl, fun x hx _ => hx⟩
    | some s =>
        obtain ⟨hnull, hpin⟩ := hs s hparse
        cases s with
        | null => exact absurd rfl hnull
        | bool _ | num _ | str _ | arr _ | obj _ => exact sets_statusRead hpin

/-- The page waits for one request less than before, and for no new one. -/
structure Without (x : Xhr) (p p' : PhonePage) : Prop where
  timer : p'.timer = p.timer
  polled : p'.polledMs = p.polledMs
  fewer : ∀ y ∈ p'.requests, y.purpose = .Status → y ∈ p.requests
  others : x.purpose ≠ .Status → ∀ y, y.purpose = .Status → (y ∈ p'.requests ↔ y ∈ p.requests)

lemma without_eraseIdx {x : Xhr} {i : ℕ} (hx : p.requests[i]? = some x) :
    Without x p { p with requests := p.requests.eraseIdx i } where
  timer := rfl
  polled := rfl
  fewer _ hy _ := List.mem_of_mem_eraseIdx hy
  others hother _ hy := mem_eraseIdx hx fun hsame => hother (hsame ▸ hy)

/-- What the page does when a request has been answered. -/
lemma Without.answered {x : Xhr} (h : Without x p p') {code : ℕ} {text : Bytes}
    (hsurvives : x.purpose = .Status → code = 200 → ∀ s, Json.parse text = some s →
      s ≠ .null ∧ (p'.wantsPreview s = true → isHeaderValue p'.pin = true)) :
    Asks nowMs p (p'.answered nowMs code text x.purpose) ∨
      Sets nowMs p (p'.answered nowMs code text x.purpose) ∧ x.purpose = .Status ∨
      Keeps p (p'.answered nowMs code text x.purpose) := by
  obtain ⟨purpose, sentMs⟩ := x
  cases purpose with
  | Status =>
      exact Or.inr (Or.inl ⟨(sets_statusDone p' nowMs (hsurvives rfl)).after h.polled h.fewer, rfl⟩)
  | Preview s =>
      refine Or.inr (Or.inr ?_)
      simp only [PhonePage.answered, previewDone]
      split_ifs <;> exact ⟨h.timer, h.polled, h.others (by simp)⟩
  | Capture request => exact Or.inl (asks_captureDone h.polled h.fewer text)
  | Cancel => exact Or.inl (asks_cancelDone h.polled h.fewer text)

/-- What it does when a request is lost. -/
lemma Without.lost {x : Xhr} (h : Without x p p') :
    Asks nowMs p (p'.lost nowMs x.purpose) ∨
      Sets nowMs p (p'.lost nowMs x.purpose) ∧ x.purpose = .Status ∨
      Keeps p (p'.lost nowMs x.purpose) := by
  have hlost : ∀ q : PhonePage, Sets nowMs q (q.statusDone nowMs 0 []) :=
    fun q => sets_statusDone q nowMs (by simp)
  obtain ⟨purpose, sentMs⟩ := x
  cases purpose with
  | Status =>
      have hfirst := (hlost p').after h.polled h.fewer
      exact Or.inr (Or.inl ⟨(hlost _).after hfirst.polled hfirst.requests, rfl⟩)
  | Preview s => exact Or.inr (Or.inr ⟨h.timer, h.polled, h.others (by simp)⟩)
  | Capture request => exact Or.inl ((asks_captureDone h.polled h.fewer []).captureDone [])
  | Cancel => exact Or.inl ((asks_cancelDone h.polled h.fewer []).cancelDone [])

/-- A request that is for something else makes no difference. -/
lemma keeps_append {x : Xhr} (hother : x.purpose ≠ .Status) (htimer : p'.timer = p.timer)
    (hpolled : p'.polledMs = p.polledMs) (hrequests : p'.requests = p.requests ++ [x]) :
    Keeps p p' := by
  refine ⟨htimer, hpolled, fun y hy => ?_⟩
  rw [hrequests, List.mem_append, or_iff_left]
  intro hnew
  exact hother (List.mem_singleton.mp hnew ▸ hy)

/-- **What an event does**: the page asks for the status, or it sets the timer after a request for it
has ended, or it goes on waiting. -/
lemma perform_cases {event : PhoneEvent} (hsurvives : p.Survives event) :
    Asks nowMs p (p.perform nowMs event) ∨
      Sets nowMs p (p.perform nowMs event) ∧ (∃ x ∈ p.requests, x.purpose = .Status) ∨
      Keeps p (p.perform nowMs event) := by
  have hsame : Keeps p p := ⟨rfl, rfl, fun _ _ => Iff.rfl⟩
  cases event with
  | Typed pin => exact Or.inr (Or.inr ⟨rfl, rfl, fun _ _ => Iff.rfl⟩)
  | Fires => exact Or.inl (Asks.of_poll rfl fun _ hx _ => hx)
  | Answered i code text =>
      cases hx : p.requests[i]? with
      | none =>
          rw [perform, hx]
          exact Or.inr (Or.inr hsame)
      | some x =>
          rw [perform, hx]
          refine ((without_eraseIdx hx).answered (hsurvives x hx)).imp_right (Or.imp_left ?_)
          exact fun hsets => ⟨hsets.1, x, List.mem_of_getElem? hx, hsets.2⟩
  | Lost i =>
      cases hx : p.requests[i]? with
      | none =>
          rw [perform, hx]
          exact Or.inr (Or.inr hsame)
      | some x =>
          rw [perform, hx]
          refine (without_eraseIdx hx).lost.imp_right (Or.imp_left ?_)
          exact fun hsets => ⟨hsets.1, x, List.mem_of_getElem? hx, hsets.2⟩
  | TapShutter dateMs random delayMs autofocus =>
      rw [perform]
      dsimp only
      split_ifs
      · exact Or.inr (Or.inr ⟨rfl, rfl, fun _ _ => Iff.rfl⟩)
      · refine Or.inr (Or.inr (keeps_append ?_ rfl rfl rfl))
        exact fun hstatus => nomatch hstatus
  | TapCancel =>
      rw [perform]
      dsimp only
      split_ifs
      · exact Or.inr (Or.inr ⟨rfl, rfl, fun _ _ => Iff.rfl⟩)
      · refine Or.inr (Or.inr (keeps_append ?_ rfl rfl rfl))
        exact fun hstatus => nomatch hstatus

end PhonePage

/-! ## One tap for each status -/

namespace PhonePage

/-- Every capture that the page has asked for was allowed by a status of its own, and so is the next
one, if it can be asked for. -/
def Guarded (p : PhonePage) : Prop :=
  p.captures + (if p.shutterDisabled then 0 else 1) ≤ p.enablings

variable {p p' : PhonePage} {nowMs : ℤ}

lemma Guarded.captures_le (h : p.Guarded) : p.captures ≤ p.enablings :=
  (Nat.le_add_right _ _).trans h

lemma Guarded.of_same (h : p.Guarded) (hcaptures : p'.captures = p.captures)
    (henablings : p'.enablings = p.enablings) (hshutter : p'.shutterDisabled = p.shutterDisabled) :
    p'.Guarded := by
  rw [Guarded, hcaptures, henablings, hshutter]
  exact h

lemma Guarded.arrange (h : p.Guarded) (s : Json) : (p.arrange nowMs s).Guarded := by
  have hle := h.captures_le
  have hshutter : (p.arrange nowMs s).shutterDisabled =
      !(stateIs s (bytes "armed") && isSixDigits p.pin) := rfl
  by_cases henabled : (stateIs s (bytes "armed") && isSixDigits p.pin) = true
  · have hmore : (p.arrange nowMs s).enablings = p.enablings + 1 := if_pos henabled
    rw [henabled] at hshutter
    rw [Guarded, hshutter, hmore]
    exact Nat.succ_le_succ hle
  · have hsame : (p.arrange nowMs s).enablings = p.enablings := if_neg henabled
    rw [Bool.eq_false_of_not_eq_true henabled] at hshutter
    rw [Guarded, hshutter, hsame]
    exact hle

lemma Guarded.statusRead (h : p.Guarded) (s : Json) : (p.statusRead nowMs s).Guarded := by
  rw [PhonePage.statusRead]
  dsimp only
  split_ifs
  · refine Guarded.arrange ?_ s
    exact h.of_same rfl rfl rfl
  · exact h.of_same rfl rfl rfl
  · refine Guarded.arrange ?_ s
    exact h.of_same rfl rfl rfl

lemma Guarded.statusDone (h : p.Guarded) (code : ℕ) (text : Bytes) :
    (p.statusDone nowMs code text).Guarded := by
  rw [PhonePage.statusDone]
  split_ifs
  · exact h.captures_le
  · cases Json.parse text with
    | none => exact h.of_same rfl rfl rfl
    | some s =>
        cases s with
        | null => exact h.of_same rfl rfl rfl
        | bool _ | num _ | str _ | arr _ | obj _ => exact h.statusRead _

lemma Guarded.perform (h : p.Guarded) {event : PhoneEvent} (henabled : p.Enabled nowMs event) :
    (p.perform nowMs event).Guarded := by
  cases event with
  | Typed pin => exact h.of_same rfl rfl rfl
  | Fires => exact h.of_same rfl rfl rfl
  | Answered i code text =>
      rw [PhonePage.perform]
      cases p.requests[i]? with
      | none => exact h
      | some x =>
          have hfewer : Guarded { p with requests := p.requests.eraseIdx i } := h.of_same rfl rfl rfl
          obtain ⟨purpose, sentMs⟩ := x
          cases purpose with
          | Status => exact hfewer.statusDone code text
          | Preview s =>
              simp only [answered, previewDone]
              split_ifs <;> exact h.of_same rfl rfl rfl
          | Capture request => exact h.of_same rfl rfl rfl
          | Cancel => exact h.of_same rfl rfl rfl
  | Lost i =>
      rw [PhonePage.perform]
      cases p.requests[i]? with
      | none => exact h
      | some x =>
          have hfewer : Guarded { p with requests := p.requests.eraseIdx i } := h.of_same rfl rfl rfl
          obtain ⟨purpose, sentMs⟩ := x
          cases purpose with
          | Status => exact (hfewer.statusDone 0 []).statusDone 0 []
          | Preview s => exact hfewer
          | Capture request => exact h.of_same rfl rfl rfl
          | Cancel => exact h.of_same rfl rfl rfl
  | TapShutter dateMs random delayMs autofocus =>
      obtain ⟨hshutter, -⟩ := henabled
      rw [Guarded, hshutter] at h
      rw [PhonePage.perform]
      dsimp only
      split_ifs
      · exact Nat.le_of_succ_le h
      · exact h
  | TapCancel =>
      rw [PhonePage.perform]
      dsimp only
      split_ifs
      · exact h.of_same rfl rfl rfl
      · exact h.of_same rfl rfl rfl

end PhonePage

/-! ## Keeping in touch -/

variable {allowed : PhonePage → PhoneEvent → Prop} {late startMs nowMs : ℤ} {p : PhonePage}

/-- A status has been asked for not long ago, and the next one will be: a request is under way, or the
timer is set. -/
structure InTouch (late startMs : ℤ) (p : PhonePage) (nowMs : ℤ) : Prop where
  asks : ∀ ms, startMs ≤ ms → ms ≤ nowMs →
    ∃ polled ∈ p.polledMs, polled ≤ ms ∧ ms ≤ polled + 21000 + 2 * late
  last : ∃ last ∈ p.polledMs, last ≤ nowMs ∧
    (∀ x ∈ p.requests, x.purpose = .Status → x.sentMs ≤ last) ∧
    ((∃ x ∈ p.requests, x.purpose = .Status) ∨
      ∃ dueMs, p.timer = some dueMs ∧ dueMs ≤ last + 21000 + late)

/-- Time goes by, and the page is in touch as long as nothing is overdue. -/
lemma InTouch.wait {nowMs' : ℤ} (h : InTouch late startMs p nowMs) (hnow : nowMs ≤ nowMs')
    (htime : p.OnTime late nowMs') : InTouch late startMs p nowMs' := by
  obtain ⟨last, hmem, hle, hsent, hnext⟩ := h.last
  have hsoon : nowMs' ≤ last + 21000 + 2 * late := by
    rcases hnext with ⟨x, hx, hstatus⟩ | ⟨dueMs, hdue, hbound⟩
    · have htimeout := htime.requests x hx
      have hlast := hsent x hx hstatus
      rw [hstatus, timeoutMs_status] at htimeout
      omega
    · have hfires := htime.timer dueMs hdue
      omega
  refine ⟨fun ms hstart hms => ?_, last, hmem, hle.trans hnow, hsent, hnext⟩
  by_cases hearlier : ms ≤ nowMs
  · exact h.asks ms hstart hearlier
  · exact ⟨last, hmem, by omega, by omega⟩

/-- Whatever happens, the page stays in touch, if no exception ends its handler. -/
lemma InTouch.perform (h : InTouch late startMs p nowMs) (htime : p.OnTime late nowMs)
    {event : PhoneEvent} (hsurvives : p.Survives event) :
    InTouch late startMs (p.perform nowMs event) nowMs := by
  obtain ⟨last, hmem, hle, hsent, hnext⟩ := h.last
  rcases PhonePage.perform_cases hsurvives with hasks | ⟨hsets, x, hx, hstatus⟩ | hkeeps
  · -- From now on the last time is now.
    refine ⟨fun ms hstart hms => ?_, nowMs, hasks.asked, le_rfl, fun y hy hstatus => ?_,
      Or.inl hasks.waits⟩
    · obtain ⟨polled, hpolled, hbounds⟩ := h.asks ms hstart hms
      exact ⟨polled, hasks.polled polled hpolled, hbounds⟩
    · rcases hasks.requests y hy hstatus with hold | hnew
      · exact (hsent y hold hstatus).trans hle
      · exact hnew.le
  · have htimeout := htime.requests x hx
    have hlast := hsent x hx hstatus
    rw [hstatus, timeoutMs_status] at htimeout
    obtain ⟨ms, hms, htimer⟩ := hsets.timer
    refine ⟨fun ms hstart hms => ?_, last, hsets.polled ▸ hmem, hle, fun y hy hstatus => ?_,
      Or.inr ⟨_, htimer, by omega⟩⟩
    · rw [hsets.polled]
      exact h.asks ms hstart hms
    · exact hsent y (hsets.requests y hy hstatus) hstatus
  · refine ⟨fun ms hstart hms => ?_, last, hkeeps.polled ▸ hmem, hle, fun y hy hstatus => ?_, ?_⟩
    · rw [hkeeps.polled]
      exact h.asks ms hstart hms
    · exact hsent y ((hkeeps.requests y hstatus).mp hy) hstatus
    · refine hnext.imp ?_ ?_
      · rintro ⟨x, hx, hstatus⟩
        exact ⟨x, (hkeeps.requests x hstatus).mpr hx, hstatus⟩
      · rintro ⟨dueMs, hdue, hbound⟩
        exact ⟨dueMs, hkeeps.timer.trans hdue, hbound⟩

lemma PhoneRun.inTouch (h : PhoneRun PhonePage.Survives late startMs p nowMs) (hlate : 0 ≤ late) :
    InTouch late startMs p nowMs := by
  induction h with
  | init pin =>
      refine ⟨fun ms hstart hms => ⟨startMs, ?_, hstart, by omega⟩, startMs, ?_, le_rfl, ?_, ?_⟩
      · exact List.mem_singleton_self startMs
      · exact List.mem_singleton_self startMs
      · intro x hx _
        rw [List.mem_singleton.mp hx]
      · exact Or.inl ⟨_, List.mem_singleton_self _, rfl⟩
  | wait _ hnow htime ih => exact ih.wait hnow htime
  | step event _ hnow htime _ hsurvives ih => exact (ih.wait hnow htime).perform htime hsurvives

lemma PhoneRun.guarded (h : PhoneRun allowed late startMs p nowMs) : p.Guarded := by
  induction h with
  | init pin => exact Nat.zero_le _
  | wait _ _ _ ih => exact ih
  | step event _ _ _ henabled _ ih => exact ih.perform henabled

/-- **The page never loses touch** while no exception is thrown in its handler of the status: at every
moment since it was loaded, it has asked for the status in the 21 seconds before, in which a request may
be lost and the timer may be at its longest.  And it asks for no more captures than there were answers
that let it. -/
theorem PhoneRun.keepsAsking (h : PhoneRun PhonePage.Survives late startMs p nowMs)
    (hlate : 0 ≤ late) :
    (∀ ms, startMs ≤ ms → ms ≤ nowMs →
      ∃ polled ∈ p.polledMs, polled ≤ ms ∧ ms ≤ polled + 21000 + 2 * late) ∧
    p.captures ≤ p.enablings :=
  ⟨(h.inTouch hlate).asks, h.guarded.captures_le⟩

/-- A page that is refused once, and asks again after ten seconds. -/
def refusedPage : PhonePage :=
  ((({} : PhonePage).poll 0).perform 100 (.Answered 0 503 [])).perform 10100 .Fires

theorem keepsAsking_refusedPage :
    (∃ polled ∈ refusedPage.polledMs, polled ≤ 9000 ∧ 9000 ≤ polled + 21000 + 2 * 50) ∧
      refusedPage.captures ≤ refusedPage.enablings := by
  have hasked : PhoneRun PhonePage.Survives 50 0 (({} : PhonePage).poll 0) 0 := .init []
  have hrefused : PhoneRun PhonePage.Survives 50 0
      ((({} : PhonePage).poll 0).perform 100 (.Answered 0 503 [])) 100 := by
    refine hasked.step (.Answered 0 503 []) (by decide) ⟨?_, ?_⟩ Nat.zero_lt_one ?_
    · rintro dueMs ⟨⟩
    · intro x hx
      rw [List.mem_singleton.mp hx]
      decide
    · rintro x - - ⟨⟩
  have hagain : PhoneRun PhonePage.Survives 50 0 refusedPage 10100 := by
    refine hrefused.step .Fires (by decide) ⟨?_, ?_⟩ ⟨_, rfl, by decide⟩ trivial
    · rintro dueMs ⟨⟩
      decide
    · rintro x ⟨⟩
  obtain ⟨hasks, hcaptures⟩ := hagain.keepsAsking (by decide)
  exact ⟨hasks 9000 (by decide) (by decide), hcaptures⟩

/-- A PIN in Arabic digits, which a phone may have on its keyboard. -/
def arabicPin : List ℕ := [0x661, 0x662, 0x663, 0x664, 0x665, 0x666]

/-- The status with a picture that the page does not have. -/
def pictureStatus : Bytes := bytes "\x7b\"preview_available\":true,\"preview_version\":1\x7d"

/-- A page with this PIN that has read this status. -/
def arabicPage : PhonePage :=
  (({ pin := arabicPin } : PhonePage).poll 0).perform 100 (.Answered 0 200 pictureStatus)

/-- The PIN cannot be sent with the request for the picture, so that an exception ends the handler before
it sets the timer, and the page does not ask for anything any more. -/
theorem stuck_arabicPin :
    PhoneRun (fun _ _ => True) 50 0 arabicPage 100 ∧
      arabicPage.timer = none ∧ arabicPage.requests.length = 0 := by
  have hasked : PhoneRun (fun _ _ => True) 50 0 (({ pin := arabicPin } : PhonePage).poll 0) 0 := .init _
  refine ⟨hasked.step (.Answered 0 200 pictureStatus) (by decide) ⟨?_, ?_⟩ Nat.zero_lt_one trivial,
    by decide +kernel⟩
  · rintro dueMs ⟨⟩
  · intro x hx
    rw [List.mem_singleton.mp hx]
    decide

/-! ## The status of the camera -/

/-- Six digits can be sent as the value of a header. -/
lemma isHeaderValue_of_isSixDigits {units : List ℕ} (h : isSixDigits units = true) :
    isHeaderValue units = true := by
  rw [isSixDigits, Bool.and_eq_true, List.all_eq_true] at h
  obtain ⟨-, hdigits⟩ := h
  simp only [Bool.and_eq_true, decide_eq_true_eq] at hdigits
  rw [isHeaderValue, Bool.and_eq_true, List.all_eq_true, List.all_eq_true]
  refine ⟨fun u hu => ?_, fun u hu => ?_⟩
  · have hdigit := hdigits u hu
    simp only [decide_eq_true_eq]
    omega
  · have hmem : u ∈ units :=
      (List.dropWhile_sublist _).subset (List.mem_reverse.mp ((List.dropWhile_sublist _).subset hu))
    have hdigit := hdigits u hmem
    simp only [Bool.and_eq_true, bne_iff_ne]
    omega

/-- No exception is thrown for a status of the camera, if only the PIN can be sent. -/
lemma survives_statusJson {rt : NativeRuntime} {io : Io} (hfit : rt.FieldsFit io)
    (hpin : isHeaderValue p.pin = true) (i code : ℕ) :
    p.Survives (.Answered i code (rt.statusJson io).1) := by
  intro x _ _ _ s hs
  rw [NativeRuntime.parse_statusJson hfit] at hs
  obtain rfl := Option.some.inj hs
  exact ⟨Json.noConfusion, fun _ => hpin⟩

/-- How long the page waits in a state of the camera. -/
def pauseIn : RemoteState → ℤ
  | .Countdown | .Focusing => 350
  | .Capturing | .Cooldown => 1000
  | _ => 5000

lemma pauseMs_statusObject (rt : NativeRuntime) (io : Io) :
    PhonePage.pauseMs (rt.statusObject io) = pauseIn rt.machine.state := by
  rw [PhonePage.pauseMs]
  have hstate : (rt.statusObject io).property? (bytes "state") =
      some (.str (stateName rt.machine.state)) := by
    rfl
  simp only [PhonePage.stateIs, hstate]
  cases rt.machine.state <;> decide

/-- The page shows what the runtime says: the shutter can be tapped in one state, and the cancel button
in two. -/
structure Reflects (rt : NativeRuntime) (io : Io) (nowMs : ℤ) (p : PhonePage) : Prop where
  connected : p.connected = true
  shown : p.shown = some (rt.statusObject io)
  shutter : p.shutterDisabled = false ↔ rt.machine.state = .Armed
  cancel : p.cancelHidden = false ↔ rt.machine.state = .Countdown ∨ rt.machine.state = .Focusing
  timer : p.timer = some (nowMs + pauseIn rt.machine.state)

lemma reflects_arrange {rt : NativeRuntime} {io : Io} (hpin : isSixDigits p.pin = true)
    (hconnected : p.connected = true) (hshown : p.shown = some (rt.statusObject io)) :
    Reflects rt io nowMs (p.arrange nowMs (rt.statusObject io)) := by
  have hstate : (rt.statusObject io).property? (bytes "state") =
      some (.str (stateName rt.machine.state)) := rfl
  refine ⟨hconnected, hshown, ?_, ?_, ?_⟩
  · simp only [PhonePage.arrange, PhonePage.schedule, PhonePage.stateIs, hstate, hpin]
    cases rt.machine.state <;> decide
  · simp only [PhonePage.arrange, PhonePage.schedule, PhonePage.stateIs, hstate]
    cases rt.machine.state <;> decide
  · rw [← pauseMs_statusObject rt io]
    rfl

/-- **What the page makes of a status of the camera**, with a PIN of six digits. -/
theorem reflects_statusDone {rt : NativeRuntime} {io : Io} (hfit : rt.FieldsFit io)
    (hpin : isSixDigits p.pin = true) :
    Reflects rt io nowMs (p.statusDone nowMs 200 (rt.statusJson io).1) := by
  have hread : p.statusDone nowMs 200 (rt.statusJson io).1 =
      p.statusRead nowMs (rt.statusObject io) := by
    rw [PhonePage.statusDone, if_neg (by simp), NativeRuntime.parse_statusJson hfit]
    rfl
  rw [hread, PhonePage.statusRead]
  dsimp only
  split_ifs with hnone hunsent
  · exact reflects_arrange hpin rfl rfl
  · simp [isHeaderValue_of_isSixDigits hpin] at hunsent
  · exact reflects_arrange hpin rfl rfl

end LegacyAlpha
