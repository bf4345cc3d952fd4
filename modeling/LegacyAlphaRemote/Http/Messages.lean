import LegacyAlphaRemote.Http.Grammar

/-!
# Which messages are accepted, and as what

`Message` is a request as its sender means it and `Message.text` what is sent.  The two results of
this module compare that with the parser's verdict.

**Completeness.**  `Message.Regular` collects what a client may send.  Such a message is accepted
as the request it means exactly when it has a header line, and when no empty PIN header follows one
that is not (`Message.parse_iff`).  A client that sends no header at all waits for an answer that
does not come: the search for the blank line begins behind it.

**Soundness.**  `Message.Frames` says that the bytes a request took from the buffer are a message,
read correctly, and `Settled` that no other byte was looked at.  Both hold of every accepted request
unless the request line is followed at once by the blank line (`framed_iff`).  Then the search finds
two empty lines, takes both for the end of the head, and counts one line break too many.
-/

namespace LegacyAlpha

open Search

/-! ## Messages -/

/-- A request as it is meant, before it is written out. -/
structure Message where
  head : RequestHead
  body : Bytes
  deriving DecidableEq, Repr

/-- A request as it is sent: the head with its blank line, and the body as it is. -/
def Message.text (message : Message) : Bytes := message.head.text ++ message.body

/-- The PIN a list of values agrees on: the first that is not empty. -/
def agreedPin (pins : List Bytes) : Bytes := (pins.find? (· ≠ [])).getD []

/-- The request a message stands for, with the PIN that its headers agree on and the last content
type, in lower case. -/
def Message.request (message : Message) : HttpRequest :=
  { method := message.head.method
    path := message.head.path
    pin := agreedPin (values .Pin message.head.headers)
    contentType := lower ((values .ContentType message.head.headers).getLast?.getD [])
    body := message.body }

/-- What the parser keeps of several PINs is what they agree on. -/
lemma agreedPin_eq_last : ∀ {pins : List Bytes},
    (pins.Pairwise fun earlier later => earlier = [] ∨ earlier = later) →
    pins.getLast?.getD [] = agreedPin pins
  | [], _ => rfl
  | pin :: pins, h => by
      obtain ⟨hpin, hpins⟩ := List.pairwise_cons.mp h
      have ih := agreedPin_eq_last hpins
      by_cases hempty : pin = []
      · subst hempty
        cases pins with
        | nil => rfl
        | cons next pins =>
            rw [List.getLast?_cons_cons, ih]
            simp [agreedPin]
      · have hagreed : agreedPin (pin :: pins) = pin := by simp [agreedPin, hempty]
        have hlast : (pin :: pins).getLast?.getD [] ∈ pin :: pins := by
          rw [List.getLast?_eq_some_getLast (List.cons_ne_nil _ _)]
          exact List.getLast_mem _
        rw [hagreed]
        rcases List.mem_cons.mp hlast with heq | hmem
        · exact heq
        · exact ((hpin _ hmem).resolve_left hempty).symm

/-! ## Lengths -/

/-- A digit is neither white space nor a sign. -/
lemma isdigit_ne {c : UInt8} (h : isdigit c = true) :
    isspace c = false ∧ c ≠ byte '-' ∧ c ≠ byte '+' := by
  have h0 : byte '0' = 48 := rfl
  have h9 : byte '9' = 57 := rfl
  have hs : byte ' ' = 32 := rfl
  have hm : byte '-' = 45 := rfl
  have hp : byte '+' = 43 := rfl
  simp only [isdigit, Bool.and_eq_true, decide_eq_true_eq, h0, h9] at h
  rw [isspace, hs, hm, hp]
  grind

/-- On decimal digits `strtoul` reads the number they denote. -/
lemma strtoul_digits {target : Target} {digits : Bytes} (hne : digits ≠ [])
    (hdigits : ∀ c ∈ digits, isdigit c = true) (hle : decimal digits ≤ target.ulongMax) :
    strtoul target digits = (decimal digits, []) := by
  obtain ⟨c, rest, rfl⟩ := List.exists_cons_of_ne_nil hne
  obtain ⟨hspace, hminus, hplus⟩ := isdigit_ne (hdigits c List.mem_cons_self)
  have hdrop : (c :: rest).dropWhile isspace = c :: rest :=
    List.dropWhile_cons_of_neg (by simp [hspace])
  have htake : (c :: rest).takeWhile isdigit = c :: rest :=
    List.takeWhile_eq_self_iff.mpr hdigits
  have hleft : (c :: rest).dropWhile isdigit = [] := List.dropWhile_eq_nil_iff.mpr hdigits
  simp [strtoul, hdrop, hminus, hplus, htake, hleft, not_lt.mpr hle]

lemma readLength_digits {target : Target} {digits : Bytes} (hne : digits ≠ [])
    (hdigits : ∀ c ∈ digits, isdigit c = true) (hle : decimal digits ≤ target.ulongMax) :
    readLength target digits = some (decimal digits) := by
  have hminus : digits.head? ≠ some (byte '-') := by
    intro h
    exact (isdigit_ne (hdigits _ (List.mem_of_mem_head? h))).2.1 rfl
  simp [readLength, hne, hminus, strtoul_digits hne hdigits hle]

lemma strtoul_of_readLength {target : Target} {value : Bytes} {n : ℕ}
    (h : readLength target value = some n) : strtoul target value = (n, []) := by
  unfold readLength at h
  split_ifs at h with hvalue htail
  exact Prod.ext (Option.some.inj h) (List.isEmpty_iff.mp htail)

/-! ## Completeness -/

section Completeness

variable {target : Target} {config : NativeConfig} {message : Message} {data : Bytes}

/-- A well-formed message with a header is accepted as the request it stands for, and nothing of
what follows it is looked at. -/
theorem Message.parse (hhead : message.head.WellFormed)
    (hadm : message.head.Admissible target config) (hne : message.head.headers ≠ [])
    (hbody : contentLength target message.head.headers = message.body.length)
    {rest : Bytes} (hdata : data = message.text ++ rest) (hnul : 0 ∉ data) :
    parseHttpRequest target config data = .Ok message.request message.text.length := by
  rw [Message.text, List.append_assoc] at hdata
  have hlen := message.head.length_text
  have hstart : message.head.text.length - 4 + 4 = message.head.text.length := by omega
  have hfields : (headerFields target message.head.headers).contentLength = message.body.length :=
    hbody
  have haccepted := RequestHead.accepted hhead hadm hne hdata hnul
  rw [haccepted.parse, hstart, hfields, Message.text, List.length_append, if_neg]
  · have hsubstr : substr data message.head.text.length message.body.length = message.body := by
      rw [hdata]
      exact substr_append_length _ _ _
    rw [HeaderFields.request, hstart, hfields, hsubstr]
    simp only [headerFields, agreedPin_eq_last hadm.headers.pins]
    rfl
  · rw [hdata, List.length_append, List.length_append]
    omega

/-- What a client may send: the form of a request, lengths that give the length of the body, PINs
that do not conflict, no transfer encoding, and the limits of the server. -/
structure Message.Regular (config : NativeConfig) (message : Message) : Prop where
  head : message.head.WellFormed
  noNul : 0 ∉ message.text
  encodings : ∀ value ∈ values .TransferEncoding message.head.headers,
    value = [] ∨ lower value = bytes "identity"
  lengths : ∀ value ∈ values .ContentLength message.head.headers,
    value ≠ [] ∧ (∀ c ∈ value, isdigit c = true) ∧ decimal value = message.body.length
  noLength : values .ContentLength message.head.headers = [] →
    message.head.method ≠ bytes "POST" ∧ message.body = []
  pins : ∀ pin ∈ values .Pin message.head.headers, ∀ other ∈ values .Pin message.head.headers,
    pin ≠ [] → other ≠ [] → pin = other
  requestLine_le : message.head.requestLine.length ≤ config.maxRequestLine
  head_le : message.head.text.length ≤ config.maxHeaders
  body_le : message.body.length ≤ config.maxBody

/-- The length a regular message's headers give. -/
lemma Message.Regular.readLength (h : message.Regular config)
    (hmax : config.maxBody ≤ target.ulongMax) :
    ∀ value ∈ values .ContentLength message.head.headers,
      readLength target value = some message.body.length := by
  intro value hvalue
  obtain ⟨hne, hdigits, hdecimal⟩ := h.lengths value hvalue
  have hle : decimal value ≤ target.ulongMax := by
    rw [hdecimal]
    exact h.body_le.trans hmax
  rw [readLength_digits hne hdigits hle, hdecimal]

lemma Message.Regular.contentLength (h : message.Regular config)
    (hmax : config.maxBody ≤ target.ulongMax) :
    contentLength target message.head.headers = message.body.length := by
  by_cases hnone : values .ContentLength message.head.headers = []
  · rw [LegacyAlpha.contentLength, hnone, (h.noLength hnone).2]
    rfl
  · exact lengthOf_eq hnone (h.readLength hmax)

/-- A regular message's head is one the parser takes when no empty PIN follows another. -/
lemma Message.Regular.admissible (h : message.Regular config)
    (hmax : config.maxBody ≤ target.ulongMax)
    (hpins : (values .Pin message.head.headers).Pairwise fun earlier later =>
      earlier = [] ∨ later ≠ []) :
    message.head.Admissible target config := by
  refine ⟨h.requestLine_le, h.head_le, ⟨?_, ?_, h.encodings, ?_⟩, ?_⟩
  · rw [h.contentLength hmax]
    exact h.readLength hmax
  · rw [h.contentLength hmax]
    exact h.body_le
  · refine hpins.imp_of_mem fun {earlier later} hearlier hlater horder => ?_
    by_cases hempty : earlier = []
    · exact Or.inl hempty
    · exact Or.inr (h.pins earlier hearlier later hlater hempty (horder.resolve_left hempty))
  · exact fun hpost hnone => (h.noLength hnone).1 hpost

lemma configForPort_maxBody (target : Target) (port : ℤ) :
    (configForPort port).maxBody ≤ target.ulongMax := by
  have hmax : (configForPort port).maxBody = 4096 := by
    unfold configForPort
    split_ifs <;> rfl
  have hpow : 2 ^ 32 ≤ 2 ^ target.longBits := Nat.pow_le_pow_right (by norm_num) target.longBits_ge
  rw [hmax, Target.ulongMax]
  omega

/-- The parser finds the request line of the head a text begins with. -/
lemma RequestHead.WellFormed.find_requestLine {head : RequestHead} (hhead : head.WellFormed)
    {rest : Bytes} (hdata : data = head.text ++ rest) :
    find data crlf 0 = some head.requestLine.length := by
  refine find_crlf_eq_some_iff.mpr ⟨head.requestLine, headerLines head.headers ++ (crlf ++ rest),
    ?_, hhead.not_infix_requestLine, (Nat.zero_add _).symm⟩
  rw [hdata, RequestHead.text]
  simp only [List.append_assoc, List.drop_zero]

/-- A line break comes right after the request line when no header does. -/
lemma RequestHead.WellFormed.occursAt_iff {head : RequestHead} (hhead : head.WellFormed)
    {rest : Bytes} (hdata : data = head.text ++ rest) :
    OccursAt crlf data (head.requestLine.length + 2) ↔ head.headers = [] := by
  have hcut : data = (head.requestLine ++ crlf) ++ (headerLines head.headers ++ (crlf ++ rest)) := by
    rw [hdata, RequestHead.text]
    simp only [List.append_assoc]
  have hlen : head.requestLine.length + 2 = (head.requestLine ++ crlf).length := by
    rw [List.length_append]
    rfl
  rw [hcut, hlen, occursAt_length]
  cases hheaders : head.headers with
  | nil => simp
  | cons header headers =>
      have hheader := hhead.headers header (by rw [hheaders]; exact List.mem_cons_self)
      rw [headerLines_cons, List.append_assoc]
      simpa using hheader.not_crlf_start _

/-- The line break the search for the blank line passes over is missing from a head without
headers. -/
lemma HeadAccepted.text_lt {lineEnd headerEnd : ℕ} {method path : Bytes} {fields : HeaderFields}
    (h : HeadAccepted target config data lineEnd headerEnd method path fields) {head : RequestHead}
    (hhead : head.WellFormed) {rest : Bytes} (hdata : data = head.text ++ rest)
    (hnone : head.headers = []) : head.text.length < headerEnd + 4 := by
  have hline := h.lineEnd_eq
  rw [hhead.find_requestLine hdata, Option.some.injEq] at hline
  obtain ⟨hle, -, -⟩ := (find_eq_some_iff blankLine_ne_nil).mp h.headerEnd_eq
  rw [head.length_text, hnone, headerLines_nil, List.length_nil]
  omega

/-- **Which regular messages are accepted**: those with a header in which no empty PIN header follows
one that is not.  Without a header the blank line follows the request line, where the parser does not
look for it, and an empty PIN counts as another one than that before it. -/
theorem Message.parse_iff (port : ℤ) (target : Target) (h : message.Regular (configForPort port)) :
    parseHttpRequest target (configForPort port) message.text =
        .Ok message.request message.text.length ↔
      message.head.headers ≠ [] ∧
        (values .Pin message.head.headers).Pairwise fun earlier later =>
          earlier = [] ∨ later ≠ [] := by
  have hmax := configForPort_maxBody target port
  constructor
  · intro hparse
    obtain ⟨lineEnd, headerEnd, method, path, fields, haccepted, hconsumed, hle, -⟩ :=
      parseHttpRequest_eq_Ok_iff.mp hparse
    have htext : message.text = message.head.text ++ message.body := rfl
    have hline := haccepted.lineEnd_eq
    rw [h.head.find_requestLine htext, Option.some.injEq] at hline
    have hne : message.head.headers ≠ [] := by
      intro hnone
      have hbody := (h.noLength (by rw [hnone]; rfl)).2
      have hlt := haccepted.text_lt h.head htext hnone
      rw [htext, hbody, List.append_nil] at hle hconsumed
      omega
    refine ⟨hne, ?_⟩
    have hblank : headerEnd ≠ lineEnd + 2 := by
      rintro rfl
      obtain ⟨-, hocc, -⟩ := (find_eq_some_iff blankLine_ne_nil).mp haccepted.headerEnd_eq
      rw [← hline] at hocc
      exact hne ((h.head.occursAt_iff htext).mp (occursAt_append_pattern.mp hocc).1)
    obtain ⟨head, rest, hhead, hadm, -, hdata, -⟩ := haccepted.exists_head hblank
    obtain ⟨rfl, -⟩ := RequestHead.text_inj h.head hhead (htext.symm.trans hdata)
    refine hadm.headers.pins.imp_of_mem fun {earlier later} _ _ hsame => ?_
    rcases hsame with hempty | rfl
    · exact Or.inl hempty
    · exact or_not
  · rintro ⟨hne, hpins⟩
    exact Message.parse h.head (h.admissible hmax hpins) hne (h.contentLength hmax)
      (List.append_nil _).symm h.noNul

/-- A request with a PIN, and with a body of the length it names. -/
def cancelMessage : Message :=
  { head :=
      { method := bytes "POST", path := bytes "/api/v1/cancel", version := bytes "HTTP/1.1"
        headers :=
          [⟨bytes "X-LegacyAlpha-Pin", bytes " 123456"⟩, ⟨bytes "Content-Length", bytes " 2"⟩] }
    body := bytes "ok" }

lemma cancelMessage_regular : cancelMessage.Regular (configForPort 0) where
  head := ⟨by decide, by decide, by decide, by decide, fun header hheader => by
    fin_cases hheader <;> exact ⟨by decide, List.all_eq_true.mp (by decide), by decide⟩⟩
  noNul := by decide
  encodings := by decide
  lengths := by
    intro value hvalue
    obtain rfl : value = bytes "2" := List.mem_singleton.mp hvalue
    exact ⟨by decide, List.all_eq_true.mp (by decide), by decide⟩
  noLength := by decide
  pins := by decide
  requestLine_le := by decide
  head_le := by decide
  body_le := by decide

theorem Message.parse_cancel :
    parseHttpRequest .armeabi (configForPort 0) cancelMessage.text =
      .Ok cancelMessage.request cancelMessage.text.length :=
  (Message.parse_iff 0 .armeabi cancelMessage_regular).mpr (by decide)

/-- A message without headers, whose blank line follows the request line at once. -/
def bareMessage : Message :=
  { head :=
      { method := bytes "GET", path := bytes "/", version := bytes "HTTP/1.0", headers := [] }
    body := [] }

lemma bareMessage_regular : bareMessage.Regular (configForPort 0) where
  head := ⟨by decide, by decide, by decide, by decide, by simp [bareMessage]⟩
  noNul := by decide
  encodings := by decide
  lengths := fun _ hvalue => absurd hvalue List.not_mem_nil
  noLength := by decide
  pins := by decide
  requestLine_le := by decide
  head_le := by decide
  body_le := by decide

theorem Message.not_parse_bare :
    bareMessage.Regular (configForPort 0) ∧
      parseHttpRequest .armeabi (configForPort 0) bareMessage.text = .Incomplete :=
  ⟨bareMessage_regular, by decide⟩

end Completeness

/-! ## Soundness -/

section Soundness

variable {target : Target} {config : NativeConfig} {data : Bytes} {request : HttpRequest}
  {consumed : ℕ}

/-- A path that names a resource and nothing else: no way up, no escapes, no query, no blanks and no
controls. -/
structure PlainPath (path : Bytes) : Prop where
  slash : path.head? = some (byte '/')
  noDots : ¬ bytes ".." <:+: path
  noControl : ∀ c ∈ path, 0x20 ≤ c ∧ c ≠ 0x7f
  noSpecial : ∀ c ∈ bytes "\\%? ", c ∉ path

lemma RequestHead.WellFormed.plainPath {head : RequestHead} (h : head.WellFormed) :
    PlainPath head.path := by
  have hpath := h.path
  simp only [validPath, Bool.and_eq_true, beq_iff_eq, Option.isNone_iff_eq_none, List.all_eq_true,
    Bool.not_eq_true', Bool.or_eq_false_iff, decide_eq_false_iff_not, bne_iff_ne, List.contains_eq_mem,
    find_zero_eq_none_iff (show bytes ".." ≠ [] by decide)] at hpath
  obtain ⟨⟨⟨⟨⟨hslash, -⟩, hdots⟩, hbackslash⟩, hchars⟩, hquery⟩ := hpath
  refine ⟨hslash, hdots, fun c hc => ?_, fun c hc => ?_⟩
  · obtain ⟨⟨hlow, hdel⟩, -⟩ := hchars c hc
    exact ⟨UInt8.not_lt.mp hlow, by simpa using hdel⟩
  · have hcases : c = byte '\\' ∨ c = byte '%' ∨ c = byte '?' ∨ c = byte ' ' := by
      simpa [bytes] using hc
    rcases hcases with rfl | rfl | rfl | rfl
    · exact hbackslash
    · exact fun hmem => (hchars _ hmem).2 rfl
    · exact hquery
    · exact h.path_noSpace

/-- The first `consumed` bytes of the buffer are a message within the limits, and `request` is what
it says. -/
structure Message.Frames (target : Target) (config : NativeConfig) (message : Message)
    (data : Bytes) (request : HttpRequest) (consumed : ℕ) : Prop where
  consumed_le : consumed ≤ data.length
  text : data.take consumed = message.text
  head : message.head.WellFormed
  request_eq : request = message.request
  path : PlainPath request.path
  requestLine_le : message.head.requestLine.length ≤ config.maxRequestLine
  head_le : message.head.text.length ≤ config.maxHeaders
  body_le : request.body.length ≤ config.maxBody
  lengths : ∀ value ∈ values .ContentLength message.head.headers,
    strtoul target value = (request.body.length, [])
  noLength : values .ContentLength message.head.headers = [] →
    request.method = bytes "GET" ∧ request.body = []
  pins : ∀ pin ∈ values .Pin message.head.headers, pin ≠ [] → pin = request.pin
  pin : request.pin = [] ∨ request.pin ∈ values .Pin message.head.headers
  encodings : ∀ value ∈ values .TransferEncoding message.head.headers,
    value = [] ∨ lower value = bytes "identity"

/-- Every buffer without zero bytes that begins with the same `consumed` bytes is parsed the same
way. -/
def Settled (target : Target) (config : NativeConfig) (data : Bytes) (request : HttpRequest)
    (consumed : ℕ) : Prop :=
  ∀ data', 0 ∉ data' → data'.take consumed = data.take consumed →
    parseHttpRequest target config data' = .Ok request consumed

/-- The request line is followed at once by a blank line.  Its line break is part of the blank line
then, where the parser does not look for it. -/
def BlankFirst (data : Bytes) : Prop :=
  ∃ lineEnd, find data crlf 0 = some lineEnd ∧ OccursAt crlf data (lineEnd + 2)

instance (data : Bytes) : Decidable (BlankFirst data) :=
  decidable_of_iff (((find data crlf 0).any fun lineEnd => OccursAt crlf data (lineEnd + 2)) = true)
    (by simp [BlankFirst, Option.any_eq_true])

/-- A PIN that several agree on is one of them, and each of them that is not empty. -/
lemma agreedPin_spec {pins : List Bytes}
    (h : pins.Pairwise fun earlier later => earlier = [] ∨ earlier = later) :
    (∀ pin ∈ pins, pin ≠ [] → pin = agreedPin pins) ∧
      (agreedPin pins = [] ∨ agreedPin pins ∈ pins) := by
  induction pins with
  | nil => simp [agreedPin]
  | cons pin pins ih =>
      obtain ⟨hpin, hpins⟩ := List.pairwise_cons.mp h
      obtain ⟨hagree, hmem⟩ := ih hpins
      by_cases hempty : pin = []
      · have hsame : agreedPin (pin :: pins) = agreedPin pins := by simp [agreedPin, hempty]
        rw [hsame]
        refine ⟨fun other hother hne => ?_, hmem.imp id (List.mem_cons_of_mem pin)⟩
        rcases List.mem_cons.mp hother with rfl | hother
        · exact absurd hempty hne
        · exact hagree other hother hne
      · have hsame : agreedPin (pin :: pins) = pin := by simp [agreedPin, hempty]
        rw [hsame]
        refine ⟨fun other hother _ => ?_, Or.inr List.mem_cons_self⟩
        rcases List.mem_cons.mp hother with rfl | hother
        · rfl
        · exact ((hpin other hother).resolve_left hempty).symm

/-- A request accepted with a header is a message, and settled. -/
lemma HeadAccepted.frames {lineEnd headerEnd : ℕ} {method path : Bytes} {fields : HeaderFields}
    (h : HeadAccepted target config data lineEnd headerEnd method path fields)
    (hblank : headerEnd ≠ lineEnd + 2) (hconsumed : consumed = headerEnd + 4 + fields.contentLength)
    (hle : consumed ≤ data.length) (hrequest : request = fields.request method path data headerEnd) :
    (∃ message : Message, message.Frames target config data request consumed) ∧
      Settled target config data request consumed := by
  obtain ⟨head, rest, hhead, hadm, hne, hdata, htext, rfl, rfl, rfl⟩ := h.exists_head hblank
  have hfields : (headerFields target head.headers).contentLength =
      contentLength target head.headers := rfl
  rw [hfields, ← htext] at hconsumed
  have hrest : contentLength target head.headers ≤ rest.length := by
    rw [hdata, List.length_append] at hle
    omega
  let message : Message := ⟨head, rest.take (contentLength target head.headers)⟩
  have hbody : contentLength target head.headers = message.body.length :=
    (List.length_take_of_le hrest).symm
  have hlength : message.text.length = consumed := by
    rw [hconsumed, hbody]
    exact List.length_append
  have htake : data.take consumed = message.text := by
    rw [hconsumed, hdata]
    exact List.take_length_add_append _
  have hcut : ∀ {data' : Bytes}, data'.take consumed = data.take consumed →
      data' = message.text ++ data'.drop consumed := by
    intro data' hsame
    rw [← htake, ← hsame, List.take_append_drop]
  have hparse : ∀ {data' : Bytes}, 0 ∉ data' → data'.take consumed = data.take consumed →
      parseHttpRequest target config data' = .Ok message.request consumed := by
    intro data' hnul hsame
    rw [← hlength]
    exact Message.parse hhead hadm hne hbody (hcut hsame) hnul
  have hsame : request = message.request := by
    have hself := hparse h.noNul rfl
    have hinv : parseHttpRequest target config data = .Ok request consumed :=
      parseHttpRequest_eq_Ok_iff.mpr
        ⟨lineEnd, headerEnd, _, _, _, h, by rw [hconsumed, htext]; rfl, hle, hrequest⟩
    exact (ParseResult.Ok.inj (hinv.symm.trans hself)).1
  obtain ⟨hpins, hpin⟩ := agreedPin_spec hadm.headers.pins
  subst hsame
  refine ⟨⟨message, hle, htake, hhead, rfl, hhead.plainPath, hadm.requestLine_le, hadm.text_le, ?_,
    fun value hvalue => ?_, fun hnone => ?_, hpins, hpin, hadm.headers.encodings⟩, fun _ => hparse⟩
  · exact hbody ▸ hadm.headers.length_le
  · rw [strtoul_of_readLength (hadm.headers.lengths value hvalue), hbody]
    rfl
  · refine ⟨hhead.method.resolve_right fun hpost => hadm.post hpost hnone, ?_⟩
    have hzero : contentLength target head.headers = 0 := by
      have hnil : values .ContentLength head.headers = [] := hnone
      rw [contentLength, hnil]
      rfl
    exact List.length_eq_zero_iff.mp (hbody.symm.trans hzero)

/-- A request whose head has no header does not end where the parser says. -/
lemma HeadAccepted.not_frames {lineEnd headerEnd : ℕ} {method path : Bytes} {fields : HeaderFields}
    (h : HeadAccepted target config data lineEnd headerEnd method path fields)
    (hblank : OccursAt crlf data (lineEnd + 2)) (hconsumed : headerEnd + 4 ≤ consumed)
    (message : Message) : ¬ message.Frames target config data request consumed := by
  intro hframes
  have hdata : data = message.head.text ++ (message.body ++ data.drop consumed) := by
    rw [← List.append_assoc]
    exact (List.take_append_drop consumed data).symm.trans
      (congrArg (· ++ data.drop consumed) hframes.text)
  have hline := h.lineEnd_eq
  rw [hframes.head.find_requestLine hdata, Option.some.injEq] at hline
  rw [← hline] at hblank
  have hnone := (hframes.head.occursAt_iff hdata).mp hblank
  have hlt := h.text_lt hframes.head hdata hnone
  have hbody : message.body = [] := by
    have hempty := (hframes.noLength (by rw [hnone]; rfl)).2
    rwa [hframes.request_eq] at hempty
  have hlen := congrArg List.length hframes.text
  rw [List.length_take_of_le hframes.consumed_le, Message.text, hbody, List.append_nil] at hlen
  omega

/-- **Which accepted requests are framed**: all but those whose request line is followed at once by
the blank line.  The parser looks for a blank line behind that one then, and takes it for the end of
the head. -/
theorem framed_iff (h : parseHttpRequest target config data = .Ok request consumed) :
    ((∃ message : Message, message.Frames target config data request consumed) ∧
      Settled target config data request consumed) ↔ ¬ BlankFirst data := by
  obtain ⟨lineEnd, headerEnd, method, path, fields, haccepted, hconsumed, hle, hrequest⟩ :=
    parseHttpRequest_eq_Ok_iff.mp h
  constructor
  · rintro ⟨⟨message, hframes⟩, -⟩ ⟨lineEnd', hline, hocc⟩
    obtain rfl : lineEnd = lineEnd' := Option.some.inj (haccepted.lineEnd_eq.symm.trans hline)
    exact haccepted.not_frames hocc (by omega) message hframes
  · intro hblank
    refine haccepted.frames ?_ hconsumed hle hrequest
    rintro rfl
    obtain ⟨-, hocc, -⟩ := (find_eq_some_iff blankLine_ne_nil).mp haccepted.headerEnd_eq
    exact hblank ⟨lineEnd, haccepted.lineEnd_eq, (occursAt_append_pattern.mp hocc).1⟩

theorem framed_cancel :
    (∃ message : Message, message.Frames .armeabi (configForPort 0) cancelMessage.text
        cancelMessage.request cancelMessage.text.length) ∧
      Settled .armeabi (configForPort 0) cancelMessage.text cancelMessage.request
        cancelMessage.text.length :=
  (framed_iff (by decide)).mpr (by decide)

/-- A request line and three line breaks: one is taken for the request line's, two for the blank
line. -/
theorem not_framed_blankFirst :
    parseHttpRequest .armeabi (configForPort 0) (bytes "GET / HTTP/1.0\r\n\r\n\r\n") =
        .Ok { method := bytes "GET", path := bytes "/" } 20 ∧
      ¬ ∃ message : Message, message.Frames .armeabi (configForPort 0)
        (bytes "GET / HTTP/1.0\r\n\r\n\r\n") { method := bytes "GET", path := bytes "/" } 20 := by
  have hparse : parseHttpRequest .armeabi (configForPort 0) (bytes "GET / HTTP/1.0\r\n\r\n\r\n") =
      .Ok { method := bytes "GET", path := bytes "/" } 20 := by decide
  refine ⟨hparse, ?_⟩
  obtain ⟨lineEnd, headerEnd, method, path, fields, haccepted, hconsumed, -, -⟩ :=
    parseHttpRequest_eq_Ok_iff.mp hparse
  have hline : find (bytes "GET / HTTP/1.0\r\n\r\n\r\n") crlf 0 = some 14 := by decide
  obtain rfl : 14 = lineEnd := Option.some.inj (hline.symm.trans haccepted.lineEnd_eq)
  rintro ⟨message, hframes⟩
  exact haccepted.not_frames (by decide) (by omega) message hframes

end Soundness

end LegacyAlpha
