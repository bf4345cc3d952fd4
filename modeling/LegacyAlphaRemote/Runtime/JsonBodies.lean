import LegacyAlphaRemote.Core.Json
import LegacyAlphaRemote.Http.Numbers
import LegacyAlphaRemote.Runtime.Idempotence

/-!
# The JSON bodies

The page in the phone's browser calls `JSON.parse` on every answer, and the strings in an answer come
from everywhere: a message of the camera's firmware, an error of the network, the id the client chose.
`jsonEscape` writes each byte so that it is read as itself (`readsAsString_jsonEscape`), and a number is
read as it was written (`readsAs_formatInt`).  The bodies are objects whose members are such texts, and
`snprintf` into 320 bytes cuts nothing off, as the eight numbers of the status have at most 226 bytes
between them (`length_statusNumbers`).

An answer from memory is the answer that `decideCapture` once gave (`RuntimePath.recalls`).
-/

namespace LegacyAlpha

open Json

/-! ## Strings -/

/-- An escape of one letter is read as the character it stands for. -/
lemma readsAsString_short {e c : UInt8} {text value : Bytes} (he : e ≠ byte 'u')
    (hc : shortEscape e = some c) (h : ReadsAsString text value) :
    ReadsAsString (byte '\\' :: e :: text) (c :: value) := by
  have hcode : ∀ rest, readEscape ([e] ++ rest) = some ([c], [e].length) := by
    intro rest
    rw [List.singleton_append, readEscape_cons he, hc]
    rfl
  exact h.escape hcode

/-- A control character is written as the number of its code unit. -/
lemma readEscape_control {c : UInt8} (h : c < 0x20) (rest : Bytes) :
    readEscape (bytes "u00" ++ [hexDigit (c.toNat / 16), hexDigit (c.toNat % 16)] ++ rest) =
      some ([c], 5) := by
  have hall : ∀ n : Fin 32, readEscape (bytes "u00" ++ [hexDigit (n / 16), hexDigit (n % 16)]) =
      some ([n.val.toUInt8], 5) := by
    decide +kernel
  have hlt : c.toNat < 32 := UInt8.lt_iff_toNat_lt.mp h
  have hc : c.toNat.toUInt8 = c := UInt8.ofNat_toNat
  have hescape := hall ⟨c.toNat, hlt⟩
  rw [hc] at hescape
  exact hescape

/-- Each byte is read as itself, be it escaped or not. -/
lemma readsAsString_jsonEscapeByte (c : UInt8) {text value : Bytes} (h : ReadsAsString text value) :
    ReadsAsString (jsonEscapeByte c ++ text) (c :: value) := by
  rw [jsonEscapeByte]
  simp only [beq_iff_eq]
  split_ifs with hquote hbackslash hb hf hn hr ht hcontrol
  · subst hquote
    exact readsAsString_short (by decide) rfl h
  · subst hbackslash
    exact readsAsString_short (by decide) rfl h
  · subst hb
    exact readsAsString_short (e := byte 'b') (by decide) rfl h
  · subst hf
    exact readsAsString_short (e := byte 'f') (by decide) rfl h
  · subst hn
    exact readsAsString_short (e := byte 'n') (by decide) rfl h
  · subst hr
    exact readsAsString_short (e := byte 'r') (by decide) rfl h
  · subst ht
    exact readsAsString_short (e := byte 't') (by decide) rfl h
  · exact h.escape (readEscape_control hcontrol)
  · exact h.plain hquote hbackslash (UInt8.not_lt.mp hcontrol)

/-- **A string is read as it was written**, and no byte of it ends the literal. -/
theorem readsAsString_jsonEscape (s : Bytes) : ReadsAsString (jsonEscape s) s := by
  induction s with
  | nil => exact .nil
  | cons c s ih =>
      rw [jsonEscape, List.flatMap_cons]
      exact readsAsString_jsonEscapeByte c ih

/-- Whatever follows it, a string is read up to its closing quote. -/
lemma readValue_jsonString (s rest : Bytes) :
    readValue 1 (jsonString s ++ rest) = some (.str s, rest) :=
  readValue_str (readsAsString_jsonEscape s) 0 rest

lemma readsAs_jsonString (s : Bytes) : ReadsAs (jsonString s) (.str s) :=
  readsAs_str (readsAsString_jsonEscape s)

/-! ## Numbers -/

/-- Only zero begins with a zero, so that a number is never written with zeros before it. -/
lemma eq_zero_of_head_formatNat (n : ℕ) : (formatNat n).head? = some (byte '0') → n = 0 := by
  induction n using Nat.strong_induction_on with
  | _ n ih =>
      intro hhead
      by_cases hn : n < 10
      · have hall : ∀ d : Fin 10, byte (Nat.digitChar d) = byte '0' → d.val = 0 := by decide
        rw [formatNat, Nat.toDigits_of_lt_base hn] at hhead
        exact hall ⟨n, hn⟩ (Option.some.inj hhead)
      · have hquotient : (formatNat (n / 10)).head? = some (byte '0') := by
          have hne : (Nat.toDigits 10 (n / 10)).map byte ≠ [] := formatNat_ne_nil (n / 10)
          rw [formatNat, Nat.toDigits_of_base_le (by decide) (by omega), List.map_append,
            List.head?_append_of_ne_nil _ hne] at hhead
          exact hhead
        have hzero := ih (n / 10) (by omega) hquotient
        omega

lemma isNumeral_formatNat (n : ℕ) : IsNumeral (formatNat n) where
  ne_nil := formatNat_ne_nil n
  all_digits _ hc := isdigit_of_mem_formatNat hc
  no_zero hhead := by
    rw [eq_zero_of_head_formatNat n hhead]
    rfl

lemma digitsValue_formatNat (n : ℕ) : digitsValue (formatNat n) = n := decimal_formatNat n

/-- **A number is read as it was written**, as JSON has integers. -/
theorem readsAs_formatInt (n : ℤ) : ReadsAs (formatInt n) (.num n) := by
  have hdigits := isNumeral_formatNat n.natAbs
  have hvalue := digitsValue_formatNat n.natAbs
  rw [formatInt]
  split_ifs with hn
  · have hread := readsAs_num true hdigits
    have habs : ((n.natAbs : ℕ) : ℤ) = -n := Int.ofNat_natAbs_of_nonpos hn.le
    have hneg : -((n.natAbs : ℕ) : ℚ) = n := by
      rw [← Int.cast_natCast, habs]
      simp
    rw [hvalue, if_pos rfl, if_pos rfl, hneg] at hread
    exact hread
  · have hread := readsAs_num false hdigits
    have habs : ((n.natAbs : ℕ) : ℤ) = n := Int.natAbs_of_nonneg (not_lt.mp hn)
    have hpos : ((n.natAbs : ℕ) : ℚ) = n := by
      rw [← Int.cast_natCast, habs]
    rw [hvalue, if_neg Bool.false_ne_true, if_neg Bool.false_ne_true, hpos] at hread
    exact hread

/-! ## Members -/

lemma readsAs_formatBool (b : Bool) : ReadsAs (NativeRuntime.formatBool b) (.bool b) := by
  have hread := readsAs_bool b
  cases b with
  | true => exact hread
  | false => exact hread

/-- A member whose value is `jsonString` of a string, with the proof that it is read back. -/
def stringField (key : String) (s : Bytes) : Field :=
  ⟨jsonEscape (bytes key), bytes key, jsonString s, .str s, readsAsString_jsonEscape _,
    readsAs_jsonString s⟩

/-- A member whose value is `%d` or `%lld` of a number, with the proof that it is read back. -/
def numberField (key : String) (n : ℤ) : Field :=
  ⟨jsonEscape (bytes key), bytes key, formatInt n, .num n, readsAsString_jsonEscape _,
    readsAs_formatInt n⟩

/-- A member whose value is `true` or `false`, with the proof that it is read back. -/
def boolField (key : String) (b : Bool) : Field :=
  ⟨jsonEscape (bytes key), bytes key, NativeRuntime.formatBool b, .bool b,
    readsAsString_jsonEscape _, readsAs_formatBool b⟩

/-- What `makeJsonError` writes, member by member. -/
def errorFields (message : Bytes) : List Field :=
  [boolField "ok" false, stringField "error" message]

lemma objectText_errorFields (message : Bytes) :
    bytes "\x7b\"ok\":false,\"error\":" ++ jsonString message ++ bytes "\x7d" =
      objectText (errorFields message) := by
  simp only [objectText, errorFields, membersText, Field.member, boolField, stringField,
    List.append_assoc, List.cons_append]
  rfl

/-! ## The numbers of the status -/

/-- A value of the type `int`, which has 32 bits on the camera. -/
def IsInt (n : ℤ) : Prop := -2 ^ 31 ≤ n ∧ n < 2 ^ 31

/-- A value of the type `int64_t`, on any machine. -/
def IsInt64 (n : ℤ) : Prop := -2 ^ 63 ≤ n ∧ n < 2 ^ 63

lemma length_formatInt_le {n : ℤ} {k : ℕ} (hk : 0 < k) (h : n.natAbs < 10 ^ k) :
    (formatInt n).length ≤ k + 1 := by
  have hle := length_formatNat_le hk h
  rw [formatInt]
  split_ifs with hn
  · rw [List.length_cons]
    omega
  · omega

lemma IsInt.length_formatInt_le {n : ℤ} (h : IsInt n) : (formatInt n).length ≤ 11 := by
  obtain ⟨hlower, hupper⟩ := h
  exact LegacyAlpha.length_formatInt_le (by decide) (by omega)

lemma IsInt64.length_formatInt_le {n : ℤ} (h : IsInt64 n) : (formatInt n).length ≤ 20 := by
  obtain ⟨hlower, hupper⟩ := h
  exact LegacyAlpha.length_formatInt_le (by decide) (by omega)

lemma length_formatBool_le (b : Bool) : (NativeRuntime.formatBool b).length ≤ 5 := by
  cases b <;> decide

/-- The text that `statusJson` writes into its buffer, before the buffer cuts it off. -/
def statusNumbers (wifiReady cameraReady : Bool) (clientCount remaining : ℤ) (available : Bool)
    (version width height : ℤ) : Bytes :=
  bytes ",\"wifi_ready\":" ++ NativeRuntime.formatBool wifiReady
    ++ bytes ",\"camera_ready\":" ++ NativeRuntime.formatBool cameraReady
    ++ bytes ",\"client_count\":" ++ formatInt clientCount
    ++ bytes ",\"countdown_remaining_ms\":" ++ formatInt remaining
    ++ bytes ",\"preview_available\":" ++ NativeRuntime.formatBool available
    ++ bytes ",\"preview_version\":" ++ formatInt version
    ++ bytes ",\"preview_width\":" ++ formatInt width
    ++ bytes ",\"preview_height\":" ++ formatInt height

variable {clientCount remaining version width height : ℤ}

/-- **The buffer is large enough**, for all values of the fields: a flag has five letters at most, an
`int` eleven characters and an `int64_t` twenty. -/
theorem length_statusNumbers (wifiReady cameraReady available : Bool) (hcount : IsInt clientCount)
    (hremaining : IsInt remaining) (hversion : IsInt64 version) (hwidth : IsInt width)
    (hheight : IsInt height) :
    (statusNumbers wifiReady cameraReady clientCount remaining available version width
      height).length ≤ 226 := by
  have hwifi := length_formatBool_le wifiReady
  have hcamera := length_formatBool_le cameraReady
  have havailable := length_formatBool_le available
  have hcount := hcount.length_formatInt_le
  have hremaining := hremaining.length_formatInt_le
  have hversion := hversion.length_formatInt_le
  have hwidth := hwidth.length_formatInt_le
  have hheight := hheight.length_formatInt_le
  have hkeys : (bytes ",\"wifi_ready\":").length + (bytes ",\"camera_ready\":").length
      + (bytes ",\"client_count\":").length + (bytes ",\"countdown_remaining_ms\":").length
      + (bytes ",\"preview_available\":").length + (bytes ",\"preview_version\":").length
      + (bytes ",\"preview_width\":").length + (bytes ",\"preview_height\":").length = 147 := rfl
  simp only [statusNumbers, List.length_append]
  omega

/-- Nothing is cut off of the numbers. -/
lemma snprintf_statusNumbers (wifiReady cameraReady available : Bool) (hcount : IsInt clientCount)
    (hremaining : IsInt remaining) (hversion : IsInt64 version) (hwidth : IsInt width)
    (hheight : IsInt height) :
    snprintf 320 (statusNumbers wifiReady cameraReady clientCount remaining available version width
      height) =
      statusNumbers wifiReady cameraReady clientCount remaining available version width height := by
  have hle := length_statusNumbers wifiReady cameraReady available hcount hremaining hversion hwidth
    hheight
  exact List.take_of_length_le (by omega)

/-! ## The status -/

namespace NativeRuntime

variable {rt : NativeRuntime} {io : Io}

/-- The fields that `statusJson` prints have values of their types, as they have in the source. -/
structure FieldsFit (rt : NativeRuntime) (io : Io) : Prop where
  clientCount : IsInt rt.machine.clientCount
  remaining : IsInt (rt.machine.countdownRemainingMs io).1
  previewVersion : IsInt64 rt.previewVersion
  previewWidth : IsInt rt.previewWidth
  previewHeight : IsInt rt.previewHeight

/-- The members of the status, in the order in which they are written. -/
def statusFields (rt : NativeRuntime) (io : Io) : List Field :=
  [boolField "ok" true,
    stringField "version" (bytes "0.1.0"),
    stringField "state" (stateName rt.machine.state),
    boolField "wifi_ready" rt.machine.wifiReady,
    boolField "camera_ready" rt.machine.cameraReady,
    numberField "client_count" rt.machine.clientCount,
    numberField "countdown_remaining_ms" (rt.machine.countdownRemainingMs io).1,
    boolField "preview_available" (!rt.previewJpeg.isEmpty),
    numberField "preview_version" rt.previewVersion,
    numberField "preview_width" rt.previewWidth,
    numberField "preview_height" rt.previewHeight,
    stringField "last_request_id" rt.machine.lastRequestId,
    stringField "last_error" rt.shownError,
    stringField "preview_source" rt.previewSource,
    stringField "preview_error" rt.previewError]

set_option maxRecDepth 4000 in
lemma statusJson_eq (h : rt.FieldsFit io) :
    (rt.statusJson io).1 = objectText (rt.statusFields io) := by
  have hnumbers := snprintf_statusNumbers rt.machine.wifiReady rt.machine.cameraReady
    (!rt.previewJpeg.isEmpty) h.clientCount h.remaining h.previewVersion h.previewWidth
    h.previewHeight
  rw [statusNumbers] at hnumbers
  rw [statusJson]
  dsimp only
  rw [hnumbers]
  simp only [objectText, statusFields, membersText, Field.member, boolField, stringField,
    numberField, List.append_assoc, List.cons_append]
  rfl

/-- What the status says, as an object of JSON. -/
def statusObject (rt : NativeRuntime) (io : Io) : Json :=
  .obj [(bytes "ok", .bool true),
    (bytes "version", .str (bytes "0.1.0")),
    (bytes "state", .str (stateName rt.machine.state)),
    (bytes "wifi_ready", .bool rt.machine.wifiReady),
    (bytes "camera_ready", .bool rt.machine.cameraReady),
    (bytes "client_count", .num rt.machine.clientCount),
    (bytes "countdown_remaining_ms", .num (rt.machine.countdownRemainingMs io).1),
    (bytes "preview_available", .bool (!rt.previewJpeg.isEmpty)),
    (bytes "preview_version", .num rt.previewVersion),
    (bytes "preview_width", .num rt.previewWidth),
    (bytes "preview_height", .num rt.previewHeight),
    (bytes "last_request_id", .str rt.machine.lastRequestId),
    (bytes "last_error", .str rt.shownError),
    (bytes "preview_source", .str rt.previewSource),
    (bytes "preview_error", .str rt.previewError)]

/-- **The status is one object**, with these members, each read back as the value it was written of.
-/
theorem parse_statusJson (h : rt.FieldsFit io) :
    parse (rt.statusJson io).1 = some (rt.statusObject io) := by
  have hne : rt.statusFields io ≠ [] := List.cons_ne_nil _ _
  rw [statusJson_eq h, parse_objectText hne]
  rfl

/-! ## Errors and captures -/

theorem parse_jsonError (status : ℕ) (message : Bytes) :
    parse (jsonError status message).body =
      some (.obj [(bytes "ok", .bool false), (bytes "error", .str message)]) := by
  have hne : errorFields message ≠ [] := List.cons_ne_nil _ _
  rw [jsonError]
  dsimp only
  rw [objectText_errorFields, parse_objectText hne]
  rfl

/-- What the answer to a capture request says that is not answered from memory. -/
def captureObject (config : NativeConfig) (rt : NativeRuntime) (io : Io) (capture : CaptureRequest) :
    Json :=
  if capture.delayMs < 0 || capture.delayMs > config.maxDelayMs then
    .obj [(bytes "ok", .bool false), (bytes "error", .str (bytes "delay_ms is out of range"))]
  else
    let out := operate config rt io
      (.RequestCapture capture.requestId capture.delayMs capture.autofocus)
    if !out.ok then
      .obj [(bytes "ok", .bool false), (bytes "accepted", .bool false),
        (bytes "request_id", .str capture.requestId), (bytes "error", .str out.error)]
    else
      .obj [(bytes "ok", .bool true), (bytes "accepted", .bool true),
        (bytes "request_id", .str capture.requestId),
        (bytes "state", .str (stateName out.runtime.machine.state))]

lemma objectText_refused (requestId error : Bytes) :
    bytes "\x7b\"ok\":false,\"accepted\":false,\"request_id\":" ++ jsonString requestId
        ++ bytes ",\"error\":" ++ jsonString error ++ bytes "\x7d" =
      objectText [boolField "ok" false, boolField "accepted" false,
        stringField "request_id" requestId, stringField "error" error] := by
  simp only [objectText, membersText, Field.member, boolField, stringField, List.append_assoc,
    List.cons_append]
  rfl

lemma objectText_accepted (requestId state : Bytes) :
    bytes "\x7b\"ok\":true,\"accepted\":true,\"request_id\":" ++ jsonString requestId
        ++ bytes ",\"state\":" ++ jsonString state ++ bytes "\x7d" =
      objectText [boolField "ok" true, boolField "accepted" true,
        stringField "request_id" requestId, stringField "state" state] := by
  simp only [objectText, membersText, Field.member, boolField, stringField, List.append_assoc,
    List.cons_append]
  rfl

/-- **The answer to a capture request is one object**, with these members, whether the request was
accepted, refused or out of range. -/
theorem parse_decideCapture (config : NativeConfig) (rt : NativeRuntime) (io : Io)
    (capture : CaptureRequest) :
    parse (decideCapture config rt io capture).1.2 = some (captureObject config rt io capture) := by
  rw [decideCapture, captureObject]
  split_ifs with hdelay
  · exact parse_jsonError 400 (bytes "delay_ms is out of range")
  · dsimp only
    split_ifs with hok
    · rw [objectText_refused, parse_objectText (List.cons_ne_nil _ _)]
      rfl
    · rw [objectText_accepted, parse_objectText (List.cons_ne_nil _ _)]
      rfl

end NativeRuntime

/-! ## Answers from memory -/

variable {assets : Assets} {target : Target} {config : NativeConfig} {rt rt' : NativeRuntime}
  {s : RuntimeStep} {op : RuntimeOp} {clock : ℕ → ℤ} {answers : ℕ → Bool}

/-- The step decides about a capture request with this id, and this is its answer and what it says. -/
def RuntimeStep.Decides (target : Target) (config : NativeConfig) (s : RuntimeStep)
    (requestId : Bytes) (status : ℕ) (body : Bytes) (object : Json) : Prop :=
  ∃ (capture : CaptureRequest) (rt : NativeRuntime) (io : Io),
    s.capture target = some capture ∧ capture.requestId = requestId ∧
      rt.machine = s.before.machine ∧ io.trace = [.Clock s.now] ∧
      (rt.decideCapture config io capture).1 = (status, body) ∧
      object = rt.captureObject config io capture

lemma RuntimeStep.Decides.parse {requestId body : Bytes} {status : ℕ} {object : Json}
    (h : s.Decides target config requestId status body object) : Json.parse body = some object := by
  obtain ⟨capture, rt, io, -, -, -, -, hdecide, rfl⟩ := h
  have hparse := NativeRuntime.parse_decideCapture config rt io capture
  rw [hdecide] at hparse
  exact hparse

/-- Every entry was decided about by one of these steps, and has the object of that decision. -/
def Recalls (target : Target) (config : NativeConfig) (steps : List RuntimeStep)
    (deduplicator : RequestDeduplicator) : Prop :=
  ∀ entry ∈ deduplicator.entries, ∃ s ∈ steps, ∃ object,
    s.Decides target config entry.requestId entry.status entry.body object

lemma Recalls.mono {steps : List RuntimeStep} {deduplicator other : RequestDeduplicator}
    (h : Recalls target config steps deduplicator) (hsub : other.entries ⊆ deduplicator.entries) :
    Recalls target config steps other := fun entry hentry => h entry (hsub hentry)

/-- A capture request that the memory does not know is decided about. -/
lemma decides_of_missing {capture : CaptureRequest} {status : ℕ} {body : Bytes}
    (hs : s = rt.step assets target config op clock answers)
    (hcapture : s.capture target = some capture)
    (hfind : (rt.deduplicator.find capture.requestId s.now).1 = none)
    (hresponse : s.response = some (NativeRuntime.jsonResponse status body)) :
    ∃ object, s.Decides target config capture.requestId status body object := by
  obtain ⟨rt₁, io, hmachine, hdedup, htrace, hhandled, -, -⟩ := step_of_capture hs hcapture
  rw [← hdedup] at hfind
  obtain ⟨status', body', rt', io', hdecide, hhandle⟩ :=
    NativeRuntime.handleCapture_of_missing assets config io hfind
  rw [hhandled, hhandle] at hresponse
  obtain ⟨rfl, -, rfl⟩ := HttpResponse.mk.inj (Option.some.inj hresponse)
  have hbefore : s.before = rt := by rw [hs]; rfl
  exact ⟨_, capture, _, io, hcapture, rfl, hbefore ▸ hmachine, htrace, congrArg Prod.fst hdecide, rfl⟩

/-- An answer that is found is an entry with the id. -/
lemma RequestDeduplicator.mem_of_find {deduplicator : RequestDeduplicator} {requestId : Bytes}
    {nowMs : ℤ} {old : Entry} (h : (deduplicator.find requestId nowMs).1 = some old) :
    old ∈ deduplicator.entries ∧ old.requestId = requestId :=
  ⟨List.mem_of_mem_filter (List.mem_of_find?_eq_some h), by simpa using List.find?_some h⟩

/-- What a step leaves in memory is what was there, and the answer it decided. -/
lemma Recalls.step {early : List RuntimeStep}
    (hs : s = rt.step assets target config op clock answers)
    (h : Recalls target config early rt.deduplicator) :
    Recalls target config (early ++ [s]) s.after.deduplicator := by
  have hlater : Recalls target config (early ++ [s]) rt.deduplicator := by
    intro entry hentry
    obtain ⟨s₀, hs₀, object, hdecides⟩ := h entry hentry
    exact ⟨s₀, List.mem_append_left _ hs₀, object, hdecides⟩
  have hprune : (rt.deduplicator.prune s.now).entries ⊆ rt.deduplicator.entries :=
    fun entry hentry => List.mem_of_mem_filter hentry
  rcases deduplicator_step hs with ⟨-, hsame | ⟨-, hclear⟩⟩ | ⟨capture, hcapture, hstep⟩
  · rw [hsame]
    exact hlater
  · rw [hclear]
    exact hlater.mono (List.nil_subset _)
  · rcases hstep with ⟨old, -, -, -, -, hkept⟩ | ⟨hfind, status, body, hresponse, hremember⟩
    · rw [hkept]
      exact hlater.mono hprune
    · rw [hremember]
      intro entry hentry
      rcases List.mem_append.mp hentry with hkept | hnew
      · have hmem : entry ∈ ((rt.deduplicator.prune s.now).prune s.now).entries := by
          split_ifs at hkept with hfull
          · exact List.mem_of_mem_tail hkept
          · exact hkept
        exact hlater entry (hprune (List.mem_of_mem_filter hmem))
      · obtain rfl := List.mem_singleton.mp hnew
        obtain ⟨object, hdecides⟩ := decides_of_missing hs hcapture hfind hresponse
        exact ⟨s, List.mem_append_right _ (List.mem_singleton.mpr rfl), object, hdecides⟩

/-- **The memory holds what was decided** in a run: each entry has the body of an earlier step, so
that what is answered from memory was well formed before. -/
theorem RuntimePath.recalls {steps : List RuntimeStep}
    (hpath : RuntimePath assets target config rt steps rt') :
    ∀ {early : List RuntimeStep}, Recalls target config early rt.deduplicator →
      Recalls target config (early ++ steps) rt'.deduplicator := by
  induction hpath with
  | refl rt =>
      intro early h
      rw [List.append_nil]
      exact h
  | step op clock answers hrest ih =>
      intro early h
      have hnext := ih (h.step rfl)
      rwa [List.append_assoc] at hnext

/-! ## All bodies -/

/-- The bodies that a runtime writes after these steps are what they are meant to be. -/
structure BodiesFaithful (assets : Assets) (target : Target) (config : NativeConfig)
    (steps : List RuntimeStep) (rt : NativeRuntime) : Prop where
  /-- The status is one object with fifteen members, whatever strings it contains. -/
  status : ∀ io, rt.FieldsFit io →
    parse (rt.statusJson io).1 = some (rt.statusObject io)
  /-- The buffer for the numbers is never too small. -/
  numbers : ∀ (wifiReady cameraReady available : Bool)
    (clientCount remaining version width height : ℤ), IsInt clientCount → IsInt remaining →
    IsInt64 version → IsInt width → IsInt height →
    snprintf 320 (statusNumbers wifiReady cameraReady clientCount remaining available version width
      height) =
      statusNumbers wifiReady cameraReady clientCount remaining available version width height
  /-- A capture request is answered with the object of a decision about its id, its own when the
  memory does not know the id. -/
  capture : ∀ (s : RuntimeStep) (op : RuntimeOp) (clock : ℕ → ℤ) (answers : ℕ → Bool)
    (request : CaptureRequest), s = rt.step assets target config op clock answers →
    s.capture target = some request →
    ∃ status body object, s.response = some (NativeRuntime.jsonResponse status body) ∧
      parse body = some object ∧
      ∃ s₀ ∈ steps ++ [s], s₀.Decides target config request.requestId status body object ∧
        (s.isNew target = true → s₀ = s)
  /-- An error is one object with its message, whatever bytes that has. -/
  error : ∀ (status : ℕ) (message : Bytes), parse (jsonError status message).body =
    some (.obj [(bytes "ok", .bool false), (bytes "error", .str message)])
  /-- A string is read up to its closing quote, whatever follows it. -/
  string : ∀ s rest : Bytes, readValue 1 (jsonString s ++ rest) = some (.str s, rest)

/-- **Every JSON body is well formed and faithful**, in every reachable runtime: the status, the
answers to capture requests, those from memory too, and the errors. -/
theorem bodiesFaithful {steps : List RuntimeStep}
    (hrun : RuntimeRun assets target config steps rt) :
    BodiesFaithful assets target config steps rt where
  status _ h := NativeRuntime.parse_statusJson h
  numbers wifiReady cameraReady available _ _ _ _ _ hcount hremaining hversion hwidth hheight :=
    snprintf_statusNumbers wifiReady cameraReady available hcount hremaining hversion hwidth hheight
  capture := by
    intro s op clock answers request hs hcapture
    have hrecalls : Recalls target config steps rt.deduplicator := by
      have hempty : Recalls target config [] (NativeRuntime.new config).deduplicator :=
        fun entry hentry => nomatch hentry
      exact hrun.recalls hempty
    have hbefore : s.before = rt := by rw [hs]; rfl
    rcases deduplicator_step hs with ⟨hnone, -⟩ | ⟨capture, hadmitted, hstep⟩
    · exact nomatch hcapture.symm.trans hnone
    · obtain rfl := Option.some.inj (hcapture.symm.trans hadmitted)
      rcases hstep with ⟨old, hfind, hresponse, -⟩ | ⟨hfind, status, body, hresponse, -⟩
      · obtain ⟨hmem, hid⟩ := RequestDeduplicator.mem_of_find hfind
        obtain ⟨s₀, hs₀, object, hdecides⟩ := hrecalls old hmem
        rw [hid] at hdecides
        refine ⟨old.status, old.body, object, hresponse, hdecides.parse, s₀,
          List.mem_append_left _ hs₀, hdecides, fun hnew => ?_⟩
        rw [RuntimeStep.isNew, hcapture, hbefore] at hnew
        dsimp only at hnew
        rw [hfind] at hnew
        exact absurd hnew Bool.false_ne_true
      · obtain ⟨object, hdecides⟩ := decides_of_missing hs hcapture hfind hresponse
        exact ⟨status, body, object, hresponse, hdecides.parse, s,
          List.mem_append_right _ (List.mem_singleton.mpr rfl), hdecides, fun _ => rfl⟩
  error := NativeRuntime.parse_jsonError
  string := readValue_jsonString

/-- A session whose camera and network are ready, its status, and its first capture request. -/
theorem bodiesFaithful_ready :
    let rt := RuntimePath.destination {} .armeabi (configForPort 0) startedRuntime readyOps
    let io : Io := { clock := fun _ => 1000, answers := fun _ => true }
    BodiesFaithful {} .armeabi (configForPort 0)
        (RuntimePath.taken {} .armeabi (configForPort 0) (.new (configForPort 0))
          ((.Start 123456 true, 0) :: readyOps)) rt ∧
      parse (rt.statusJson io).1 = some (rt.statusObject io) ∧
      ∃ status body object,
        firstCapture.response = some (NativeRuntime.jsonResponse status body) ∧
          parse body = some object := by
  intro rt io
  have hbodies : BodiesFaithful {} .armeabi (configForPort 0)
      (RuntimePath.taken {} .armeabi (configForPort 0) (.new (configForPort 0))
        ((.Start 123456 true, 0) :: readyOps)) rt :=
    bodiesFaithful (RuntimePath.taken_path {} .armeabi (configForPort 0) (.new (configForPort 0))
      ((.Start 123456 true, 0) :: readyOps))
  have hfit : rt.FieldsFit io :=
    ⟨⟨by decide +kernel, by decide +kernel⟩, ⟨by decide +kernel, by decide +kernel⟩,
      ⟨by decide +kernel, by decide +kernel⟩, ⟨by decide +kernel, by decide +kernel⟩,
      ⟨by decide +kernel, by decide +kernel⟩⟩
  obtain ⟨capture, hcapture, -⟩ := firstCapture_captures.1
  obtain ⟨status, body, object, hresponse, hparse, -⟩ :=
    hbodies.capture firstCapture (captureRequest 0) _ _ capture rfl hcapture
  exact ⟨hbodies, hbodies.status io hfit, status, body, object, hresponse, hparse⟩

end LegacyAlpha
