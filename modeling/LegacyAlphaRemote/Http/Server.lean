import LegacyAlphaRemote.Http.Messages
import LegacyAlphaRemote.Http.Response

/-!
# Reading from a connection

`HttpServer::readClient`.  Bytes arrive in pieces, as `recv` hands them over; each time the whole
input is parsed again, until the parser has a verdict.  The server then stops asking for input and
writes its answer.

**Prefixes.**  `parse_take` is what the parser says of the beginning of an acceptable request: it
wants more, with one exception.  While no line break has been seen the limit on the request line is
compared with the number of bytes that have arrived.  A carriage return is one of them, and so a
line of exactly the greatest length is refused when its two-byte line break arrives in two pieces.

**Segmentation.**  Hence `segmentation_iff`: how a request is cut into pieces makes no difference
unless it is cut there.
-/

namespace LegacyAlpha

open Search

/-! ## One piece -/

/-- `HttpServer::Client`, without its descriptor: what has come from a client, and what is sent to it
with the part that has been written already. -/
structure Client where
  input : Bytes := []
  output : Bytes := []
  written : ℕ := 0
  lastActivityMs : ℤ := 0
  remoteAddress : Bytes := []
  deriving DecidableEq, Repr

/-- The status `readClient` answers a refused request with: 400, unless the request is too large or
asks for something that is not supported. -/
def ParseError.status : ParseError → ℕ
  | .TooLarge => 413
  | .Unsupported => 415
  | .BadRequest => 400

/-- What `recv` returns: some bytes, none at the end of the connection, or an error, after which the
call may be tried again or not. -/
inductive Received
  | Data (chunk : Bytes)
  | Failed (again : Bool)
  deriving DecidableEq, Repr

/-- `readClient` once bytes have been received: the client, and the request that was handed to
`handleRequest` when one was. -/
def takeChunk (target : Target) (config : NativeConfig) (handle : HttpRequest → Bytes → Bytes)
    (client : Client) (chunk : Bytes) (nowMs : ℤ) : Client × Option HttpRequest :=
  let client := { client with lastActivityMs := nowMs, input := client.input ++ chunk }
  if client.input.length > config.maxHeaders + config.maxBody then
    ({ client with output := makeJsonError 413 (bytes "request too large") }, none)
  else
    match parseHttpRequest target config client.input with
    | .Incomplete => (client, none)
    | .Refused error =>
      ({ client with output := makeJsonError error.status (bytes "invalid request") }, none)
    | .Ok request _ =>
      ({ client with output := handle request client.remoteAddress }, some request)

/-- `readClient`; no client is left when the connection is closed, be it by its other end, where
nothing is received, or by an error that leaves nothing to wait for. -/
def readClient (target : Target) (config : NativeConfig) (handle : HttpRequest → Bytes → Bytes)
    (client : Client) (received : Received) (nowMs : ℤ) : Option Client × Option HttpRequest :=
  match received with
  | .Failed again => (if again then some client else none, none)
  | .Data chunk =>
    if chunk.isEmpty then (none, none)
    else
      let (client, request) := takeChunk target config handle client chunk nowMs
      (some client, request)

/-! ## Prefixes of an acceptable request -/

section Prefixes

variable {target : Target} {config : NativeConfig} {data : Bytes} {lineEnd headerEnd n : ℕ}
  {method path : Bytes} {fields : HeaderFields}

/-- Past its blank line, a part of an accepted request has the same head. -/
lemma HeadAccepted.take (h : HeadAccepted target config data lineEnd headerEnd method path fields)
    (hn : headerEnd + 4 ≤ n) (hle : n ≤ data.length) :
    HeadAccepted target config (data.take n) lineEnd headerEnd method path fields := by
  obtain ⟨hstart, hocc, hmin⟩ := (find_eq_some_iff blankLine_ne_nil).mp h.headerEnd_eq
  have hsame : data.take n = (data.take n).take n := by rw [List.take_take, min_self]
  have hline := find_congr crlf_ne_nil hsame h.lineEnd_eq (by rw [length_crlf]; omega)
  have hblank := find_congr blankLine_ne_nil hsame h.headerEnd_eq hn
  have hlen : (data.take n).length = n := List.length_take_of_le hle
  refine ⟨fun hnul => h.noNul (List.mem_of_mem_take hnul), hline, h.lineEnd_le, ?_, hblank,
    h.headerEnd_le, ?_, h.postLength⟩
  · have hrequest := h.requestLine
    rw [parseRequestLine_eq_ok_iff (by omega)] at hrequest ⊢
    rwa [List.take_take, min_eq_left (by omega)]
  · by_cases hfirst : headerEnd = lineEnd + 2
    · -- The loop is not entered.
      have hloop := h.headers
      rw [hfirst] at hloop ⊢
      rw [headerLoop, if_neg (lt_irrefl _)] at hloop ⊢
      exact hloop
    · have hpos : lineEnd + 2 < headerEnd ∨ lineEnd + 2 = headerEnd + 2 := Or.inl (by omega)
      obtain ⟨-, hocc', hmin'⟩ := (find_eq_some_iff blankLine_ne_nil).mp hblank
      obtain ⟨headers, rest, hheaders, hdrop, hend, hread⟩ :=
        (headerLoop_eq_ok_iff headerEnd (by omega) ⟨hocc, hmin, hpos⟩).mp h.headers
      refine (headerLoop_eq_ok_iff headerEnd (by omega) ⟨hocc', hmin', hpos⟩).mpr
        ⟨headers, rest.take (n - (headerEnd + 2)), hheaders, ?_, hend, hread⟩
      rw [List.drop_take, hdrop, show n - (lineEnd + 2) =
        (headerLines headers).length + (n - (headerEnd + 2)) by omega, List.take_length_add_append]

/-- **The beginning of an acceptable request**: more is wanted, unless exactly the carriage return
of the longest possible request line has arrived. -/
theorem parse_take {request : HttpRequest} {consumed : ℕ}
    (h : parseHttpRequest target config data = .Ok request consumed) (hn : n < consumed) :
    parseHttpRequest target config (data.take n) =
      if find data crlf 0 = some config.maxRequestLine ∧ n = config.maxRequestLine + 1 then
        .Refused .TooLarge
      else .Incomplete := by
  obtain ⟨lineEnd, headerEnd, method, path, fields, hhead, hconsumed, hle, -⟩ :=
    parseHttpRequest_eq_Ok_iff.mp h
  have hline := hhead.lineEnd_eq
  have hmax := hhead.lineEnd_le
  have hlen : (data.take n).length = n := List.length_take_of_le (by omega)
  have hnul : (data.take n).contains 0 = false := by
    have hmem : 0 ∉ data.take n := fun hmem => hhead.noNul (List.mem_of_mem_take hmem)
    simpa using hmem
  have hsame : data.take n = (data.take n).take n := by rw [List.take_take, min_self]
  simp only [hline, Option.some.injEq]
  rcases Nat.lt_or_ge n (lineEnd + 2) with hshort | hlong
  · -- The line break has not arrived.
    have hnone := find_take_eq_none crlf_ne_nil hline hshort
    rw [parseHttpRequest]
    simp only [hnul, Bool.false_eq_true, if_false, hnone, hlen]
    by_cases hbreak : lineEnd = config.maxRequestLine ∧ n = config.maxRequestLine + 1
    · rw [if_pos hbreak, if_pos (by omega)]
    · rw [if_neg hbreak, if_neg (by omega)]
  · rw [if_neg (by omega)]
    have hfound := find_congr crlf_ne_nil hsame hline hlong
    rcases Nat.lt_or_ge n (headerEnd + 4) with hinside | hbody
    · -- The line has, the blank line has not.
      have hnone := find_take_eq_none blankLine_ne_nil hhead.headerEnd_eq
        (show n < headerEnd + (crlf ++ crlf).length from hinside)
      have hrequest : parseRequestLine (data.take n) lineEnd = .ok (method, path) := by
        have hrequest := hhead.requestLine
        rw [parseRequestLine_eq_ok_iff (by omega)] at hrequest ⊢
        rwa [List.take_take, min_eq_left (by omega)]
      have hheaders := hhead.headerEnd_le
      rw [parseHttpRequest]
      simp only [hnul, Bool.false_eq_true, if_false, hfound, if_neg (not_lt.mpr hmax), hrequest,
        hnone, hlen]
      rw [if_neg (by omega)]
    · -- Only a part of the body is missing.
      rw [(hhead.take hbody (by omega)).parse, hlen, if_pos (by omega)]

end Prefixes

/-! ## Pieces in turn -/

/-- One call of `readClient` that receives bytes: the bytes, the time, and what the handler answers
if it is asked. -/
structure Reading where
  chunk : Bytes
  nowMs : ℤ
  handle : HttpRequest → Bytes → Bytes

/-- The bytes of several pieces, put together in the order in which they came. -/
def arrived (readings : List Reading) : Bytes := (readings.map Reading.chunk).flatten

/-- Pieces received one after the other, as long as the server asks for input: the client, and the
requests handed to the handler. -/
def readAll (target : Target) (config : NativeConfig) :
    Client → List Reading → Client × List HttpRequest
  | client, [] => (client, [])
  | client, reading :: readings =>
    if client.output ≠ [] then (client, [])
    else
      let next := takeChunk target config reading.handle client reading.chunk reading.nowMs
      let last := readAll target config next.1 readings
      (last.1, next.2.toList ++ last.2)

/-- Until the last piece the parser wants more, no answer is given and no request is handed over; with
the last one the request is, once. -/
def Unsegmented (target : Target) (config : NativeConfig) (client : Client)
    (readings : List Reading) (request : HttpRequest) : Prop :=
  (∀ before after, readings = before ++ after → before ≠ [] → after ≠ [] →
    parseHttpRequest target config (arrived before) = .Incomplete ∧
      (readAll target config client before).1.output = [] ∧
      (readAll target config client before).2 = []) ∧
  (readAll target config client readings).2 = [request]

/-- A piece ends between the carriage return and the line feed of a request line of the greatest
length. -/
def CutInLineBreak (config : NativeConfig) (data : Bytes) (readings : List Reading) : Prop :=
  find data crlf 0 = some config.maxRequestLine ∧
    ∃ before after, readings = before ++ after ∧
      (arrived before).length = config.maxRequestLine + 1

section Segmentation

variable {target : Target} {config : NativeConfig} {data : Bytes} {request : HttpRequest}
  {client : Client}

@[simp] lemma arrived_append (before after : List Reading) :
    arrived (before ++ after) = arrived before ++ arrived after := by
  simp [arrived]

lemma arrived_singleton (reading : Reading) : arrived [reading] = reading.chunk := by
  simp [arrived]

/-- As long as the parser wants more, the pieces only pile up. -/
lemma readAll_quiet (target : Target) (config : NativeConfig) (after : List Reading) :
    ∀ (before : List Reading) (client : Client),
    client.output = [] →
    (client.input ++ arrived before).length ≤ config.maxHeaders + config.maxBody →
    (∀ first rest, before = first ++ rest → first ≠ [] →
      parseHttpRequest target config (client.input ++ arrived first) = .Incomplete) →
    ∃ client', readAll target config client (before ++ after) = readAll target config client' after ∧
      client'.input = client.input ++ arrived before ∧ client'.output = []
  | [], client, hout, _, _ => ⟨client, rfl, by simp [arrived], hout⟩
  | reading :: before, client, hout, hlen, hmore => by
      have hcons : arrived (reading :: before) = reading.chunk ++ arrived before := by
        simp [arrived]
      have hchunk := hmore [reading] before rfl (List.cons_ne_nil _ _)
      rw [arrived_singleton] at hchunk
      rw [hcons, ← List.append_assoc] at hlen
      have hsize : ¬ (client.input ++ reading.chunk).length > config.maxHeaders + config.maxBody := by
        rw [List.length_append] at hlen
        omega
      have htake : takeChunk target config reading.handle client reading.chunk reading.nowMs =
          ({ client with
              lastActivityMs := reading.nowMs, input := client.input ++ reading.chunk }, none) := by
        simp only [takeChunk, if_neg hsize, hchunk]
      obtain ⟨client', hread, hin, hout'⟩ := readAll_quiet target config after before
        { client with lastActivityMs := reading.nowMs, input := client.input ++ reading.chunk }
        hout hlen fun first rest hsplit hne => by
          rw [List.append_assoc]
          have := hmore (reading :: first) rest (by rw [hsplit]; rfl) (List.cons_ne_nil _ _)
          simpa [arrived] using this
      refine ⟨client', ?_, ?_, hout'⟩
      · rw [List.cons_append, readAll, if_neg (by simpa using hout)]
        simp only [htake, hread, Option.toList_none, List.nil_append]
      · rw [hin, hcons, List.append_assoc]

/-- No accepted request is larger than the server's cap on the input. -/
lemma HeadAccepted.contentLength_le {lineEnd headerEnd : ℕ} {method path : Bytes}
    {fields : HeaderFields}
    (h : HeadAccepted target config data lineEnd headerEnd method path fields) :
    fields.contentLength ≤ config.maxBody := by
  by_cases hblank : headerEnd = lineEnd + 2
  · have hloop := h.headers
    rw [hblank, headerLoop, if_neg (lt_irrefl _), Except.ok.injEq] at hloop
    rw [← hloop]
    exact Nat.zero_le _
  · obtain ⟨head, rest, -, hadm, -, -, -, -, -, rfl⟩ := h.exists_head hblank
    exact hadm.headers.length_le

/-- What has arrived before the last piece is a beginning of what arrives. -/
lemma arrived_before {readings before after : List Reading}
    (hchunks : ∀ reading ∈ readings, reading.chunk ≠ []) (hsplit : readings = before ++ after)
    (hafter : after ≠ []) :
    arrived before = (arrived readings).take (arrived before).length ∧
      (arrived before).length < (arrived readings).length := by
  obtain ⟨reading, rest, rfl⟩ := List.exists_cons_of_ne_nil hafter
  have hpos := List.length_pos_iff.mpr (hchunks reading (by rw [hsplit]; simp))
  rw [hsplit, arrived_append, List.take_left, List.length_append]
  refine ⟨rfl, ?_⟩
  simp only [arrived, List.map_cons, List.flatten_cons, List.length_append]
  omega

/-- A request arrives as it should when the parser wants more of each of its beginnings. -/
lemma unsegmented_of_incomplete {readings : List Reading}
    (h : parseHttpRequest target config (arrived readings) = .Ok request (arrived readings).length)
    (hin : client.input = []) (hout : client.output = []) (hne : readings ≠ [])
    (hcap : (arrived readings).length ≤ config.maxHeaders + config.maxBody)
    (hmore : ∀ before after, readings = before ++ after → after ≠ [] →
      parseHttpRequest target config (arrived before) = .Incomplete) :
    Unsegmented target config client readings request := by
  have hpiled : ∀ before after, readings = before ++ after → after ≠ [] → ∀ rest,
      ∃ client', readAll target config client (before ++ rest) =
          readAll target config client' rest ∧
        client'.input = arrived before ∧ client'.output = [] := by
    intro before after hsplit hafter rest
    have hpile := readAll_quiet target config rest before client hout ?_ ?_
    · simpa [hin] using hpile
    · rw [hsplit, arrived_append, List.length_append] at hcap
      rw [hin, List.nil_append]
      omega
    · intro first middle hfirst _
      rw [hin, List.nil_append]
      exact hmore first (middle ++ after) (by rw [hsplit, hfirst, List.append_assoc])
        (by simp [hafter])
  refine ⟨fun before after hsplit _ hafter => ?_, ?_⟩
  · obtain ⟨client', hread, -, hout'⟩ := hpiled before after hsplit hafter []
    rw [List.append_nil] at hread
    refine ⟨hmore before after hsplit hafter, ?_, ?_⟩ <;> rw [hread]
    · exact hout'
    · rfl
  · obtain ⟨before, last, rfl⟩ := List.eq_nil_or_concat readings |>.resolve_left hne
    rw [List.concat_eq_append] at h hcap hpiled ⊢
    obtain ⟨client', hread, hin', hout'⟩ := hpiled before [last] rfl (List.cons_ne_nil _ _) [last]
    rw [arrived_append, arrived_singleton] at h hcap
    rw [hread, readAll, if_neg (by simpa using hout')]
    have htake : (takeChunk target config last.handle client' last.chunk last.nowMs).2 =
        some request := by
      simp only [takeChunk, hin', if_neg (not_lt.mpr hcap), h]
    simp [htake, readAll]

/-- **Segmentation**: an acceptable request that arrives in pieces is handed over once, with its last
piece, exactly when no piece ends inside the break of a longest request line. -/
theorem segmentation_iff (h : parseHttpRequest target config data = .Ok request data.length)
    (hin : client.input = []) (hout : client.output = []) (readings : List Reading)
    (hchunks : ∀ reading ∈ readings, reading.chunk ≠ []) (hdata : arrived readings = data) :
    Unsegmented target config client readings request ↔ ¬ CutInLineBreak config data readings := by
  obtain ⟨lineEnd, headerEnd, method, path, fields, hhead, hconsumed, -, -⟩ :=
    parseHttpRequest_eq_Ok_iff.mp h
  have hbody := hhead.contentLength_le
  have hhead_le := hhead.headerEnd_le
  obtain ⟨hstart, -, -⟩ := (find_eq_some_iff blankLine_ne_nil).mp hhead.headerEnd_eq
  constructor
  · rintro ⟨hquiet, -⟩ ⟨hline, before, after, hsplit, hlen⟩
    have hlineEnd : lineEnd = config.maxRequestLine :=
      Option.some.inj (hhead.lineEnd_eq.symm.trans hline)
    have hbefore : before ≠ [] := by
      rintro rfl
      simp [arrived] at hlen
    have hafter : after ≠ [] := by
      rintro rfl
      rw [List.append_nil] at hsplit
      rw [← hsplit, hdata] at hlen
      omega
    obtain ⟨htake, hlt⟩ := arrived_before hchunks hsplit hafter
    rw [hdata] at htake hlt
    have hincomplete := (hquiet before after hsplit hbefore hafter).1
    rw [htake, parse_take h hlt, if_pos ⟨hline, hlen⟩] at hincomplete
    cases hincomplete
  · intro hcut
    have hmore : ∀ before after, readings = before ++ after → after ≠ [] →
        parseHttpRequest target config (arrived before) = .Incomplete := by
      intro before after hsplit hafter
      obtain ⟨htake, hlt⟩ := arrived_before hchunks hsplit hafter
      rw [hdata] at htake hlt
      rw [htake, parse_take h hlt, if_neg]
      rintro ⟨hline, hlen⟩
      exact hcut ⟨hline, before, after, hsplit, hlen⟩
    have hne : readings ≠ [] := by
      rintro rfl
      rw [← hdata, show arrived [] = [] from rfl, List.length_nil] at hconsumed
      omega
    subst hdata
    exact unsegmented_of_incomplete h hin hout hne (by omega) hmore

/-- Pieces received one after the other at time zero, by a handler that says nothing. -/
def readingsOf (chunks : List Bytes) : List Reading :=
  chunks.map fun chunk => { chunk, nowMs := 0, handle := fun _ _ => [] }

theorem segmentation_cancel :
    Unsegmented .armeabi (configForPort 0) {}
      (readingsOf [cancelMessage.text.take 9, cancelMessage.text.drop 9]) cancelMessage.request := by
  have hparse : parseHttpRequest .armeabi (configForPort 0) cancelMessage.text =
      .Ok cancelMessage.request cancelMessage.text.length := by decide
  have hcut : ¬ CutInLineBreak (configForPort 0) cancelMessage.text
      (readingsOf [cancelMessage.text.take 9, cancelMessage.text.drop 9]) := by
    rintro ⟨hline, -⟩
    exact absurd hline (by decide)
  exact (segmentation_iff hparse rfl rfl (readingsOf [cancelMessage.text.take 9,
    cancelMessage.text.drop 9]) (by simp [readingsOf, cancelMessage]; decide) (by decide)).mpr hcut

/-- A request line of 2048 bytes and one header, in three pieces: the request line, its carriage
return, and the rest. -/
def longestPieces : List Bytes :=
  [bytes "GET /" ++ List.replicate 2034 (byte 'a') ++ bytes " HTTP/1.0", bytes "\r",
    bytes "\nA:b\r\n\r\n"]

/-- The request in these pieces, which is as long as a request line may be. -/
def longestRequest : HttpRequest :=
  { method := bytes "GET", path := byte '/' :: List.replicate 2034 (byte 'a') }

/-- In one piece the request is accepted.  In these three it is not: with the second the server has
answered that it is too large. -/
theorem not_segmentation_longest :
    parseHttpRequest .armeabi (configForPort 0) longestPieces.flatten =
        .Ok longestRequest longestPieces.flatten.length ∧
      (∀ chunk ∈ longestPieces, chunk ≠ [] ∧ chunk.length ≤ 2048) ∧
      (readAll .armeabi (configForPort 0) {} (readingsOf (longestPieces.take 2))).1.output =
        makeJsonError 413 (bytes "invalid request") ∧
      ¬ Unsegmented .armeabi (configForPort 0) {} (readingsOf longestPieces) longestRequest := by
  have hanswer : (readAll .armeabi (configForPort 0) {}
      (readingsOf (longestPieces.take 2))).1.output =
      makeJsonError 413 (bytes "invalid request") := by decide +kernel
  refine ⟨by decide +kernel, by decide +kernel, hanswer, fun h => ?_⟩
  have hquiet := (h.1 (readingsOf (longestPieces.take 2)) (readingsOf (longestPieces.drop 2)) rfl
    (List.cons_ne_nil _ _) (List.cons_ne_nil _ _)).2.1
  rw [hanswer] at hquiet
  exact makeHttpResponse_ne_nil _ hquiet

end Segmentation

end LegacyAlpha
