import LegacyAlphaRemote.Core.Lines
import LegacyAlphaRemote.Http.Numbers

/-!
# Reading responses

What `makeHttpResponse` writes, as whoever receives it reads it (`readResponse`): a status line, header
lines, an empty line, and as many bytes as `Content-Length` says.  The reader takes the lines apart at
their ends and knows nothing about how they were written.

`readResponse_take` says that the program's responses are read as they were meant, and that a response
that has not arrived as a whole is not taken for one.
-/

namespace LegacyAlpha

open Lines Search

/-! ## The reader -/

/-- A response that was read, in the parts of its text. -/
structure ReceivedResponse where
  version : Bytes
  status : ℕ
  reason : Bytes
  headers : List (Bytes × Bytes)
  body : Bytes
  deriving DecidableEq, Repr

/-- The version, three digits and the reason, with a blank between them; the reason may have blanks of
its own. -/
def readStatusLine (line : Bytes) : Option (Bytes × ℕ × Bytes) :=
  match firstIndex [byte ' '] line with
  | none => none
  | some i =>
    let rest := line.drop (i + 1)
    match firstIndex [byte ' '] rest with
    | none => none
    | some j =>
      let digits := rest.take j
      if digits.length = 3 ∧ digits.all isdigit then
        some (line.take i, decimal digits, rest.drop (j + 1))
      else none

/-- The name of a header, and its value without the blanks before it.  A line that begins with its
colon is no header. -/
def readField (line : Bytes) : Option (Bytes × Bytes) :=
  match firstIndex [byte ':'] line with
  | none => none
  | some i =>
    if i = 0 then none
    else some (line.take i, (line.drop (i + 1)).dropWhile (· == byte ' '))

/-- The length of the body, from the one header that names it; none where two do, or where it is no
number. -/
def bodyLength (headers : List (Bytes × Bytes)) : Option ℕ :=
  match headers.filter fun header => lower header.1 == bytes "content-length" with
  | [(_, digits)] => if digits ≠ [] ∧ digits.all isdigit then some (decimal digits) else none
  | _ => none

/-- A response, once all of it is there: a status line, headers up to the blank line, and as much of a
body as they announce. -/
def readResponse (text : Bytes) : Option ReceivedResponse := do
  let (lines, rest) ← readLines (byte '\r') (byte '\n') text.length text
  let (line, fields) ← lines.head?.map fun line => (line, lines.tail)
  let (version, status, reason) ← readStatusLine line
  let headers ← fields.mapM readField
  let length ← bodyLength headers
  if rest.length < length then none
  else some { version, status, reason, headers, body := rest.take length }

/-! ## What is written -/

/-- What is written with a response: the status has three digits, the content type is a short text in
one line, and the size of the body is a `size_t`. -/
structure Sendable (response : HttpResponse) : Prop where
  status : 100 ≤ response.status ∧ response.status < 1000
  contentType : byte '\r' ∉ response.contentType
  contentType_head : response.contentType.head? ≠ some (byte ' ')
  contentType_le : response.contentType.length ≤ 64
  body : response.body.length < 2 ^ 64

/-- The headers of every response, in the order in which `makeHttpResponse` writes them. -/
def responseHeaders (response : HttpResponse) : List (Bytes × Bytes) :=
  [(bytes "Content-Type", response.contentType),
    (bytes "Content-Length", formatNat response.body.length),
    (bytes "Cache-Control", bytes "no-store"),
    (bytes "X-Content-Type-Options", bytes "nosniff"), (bytes "Connection", bytes "close")]

/-- A response as it is meant to be read: the handler's status, type and body, with what the server
adds to them. -/
def HttpResponse.received (response : HttpResponse) : ReceivedResponse :=
  { version := bytes "HTTP/1.0", status := response.status, reason := reason response.status
    headers := responseHeaders response, body := response.body }

/-- The lines of the head, without their line breaks: the status line, and a line for every header. -/
def responseLines (response : HttpResponse) : List Bytes :=
  (bytes "HTTP/1.0" ++ byte ' ' :: (formatNat response.status ++ byte ' ' :: reason response.status)) ::
    (responseHeaders response).map fun header => header.1 ++ byte ':' :: byte ' ' :: header.2

section Responses

variable {response : HttpResponse}

lemma length_reason_le (status : ℕ) : (reason status).length ≤ 22 := by
  unfold reason
  split <;> decide

lemma length_formatNat_status (h : 100 ≤ response.status ∧ response.status < 1000) :
    (formatNat response.status).length = 3 := by
  have hle := length_formatNat_le (n := response.status) (k := 3) (by norm_num) (by omega)
  have hge : ¬ (formatNat response.status).length ≤ 2 := by
    intro hshort
    have hlt := decimal_lt fun c hc => isdigit_of_mem_formatNat (n := response.status) hc
    rw [decimal_formatNat] at hlt
    have hpow : 10 ^ (formatNat response.status).length ≤ 10 ^ 2 := Nat.pow_le_pow_right (by norm_num) hshort
    omega
  omega

/-- **The buffer of the head is large enough.** -/
lemma makeHttpResponse_eq (h : Sendable response) :
    makeHttpResponse response =
      writeLines (byte '\r') (byte '\n') (responseLines response) ++ response.body := by
  have hhead : bytes "HTTP/1.0 " ++ formatNat response.status ++ bytes " " ++ reason response.status
      ++ bytes "\r\nContent-Type: " ++ response.contentType
      ++ bytes "\r\nContent-Length: " ++ formatNat response.body.length
      ++ bytes "\r\nCache-Control: no-store\r\nX-Content-Type-Options: nosniff"
      ++ bytes "\r\nConnection: close\r\n\r\n" =
        writeLines (byte '\r') (byte '\n') (responseLines response) := by
    simp [writeLines, responseLines, responseHeaders, bytes]
  have hstatus := length_formatNat_status h.status
  have hreason := length_reason_le response.status
  have htype := h.contentType_le
  have hlength : (formatNat response.body.length).length ≤ 20 :=
    length_formatNat_le (by norm_num) (lt_trans h.body (by norm_num))
  rw [makeHttpResponse, hhead, snprintf, List.take_of_length_le]
  rw [← hhead]
  have hliterals : (bytes "HTTP/1.0 ").length = 9 ∧ (bytes " ").length = 1 ∧
      (bytes "\r\nContent-Type: ").length = 16 ∧ (bytes "\r\nContent-Length: ").length = 18 ∧
      (bytes "\r\nCache-Control: no-store\r\nX-Content-Type-Options: nosniff").length = 58 ∧
      (bytes "\r\nConnection: close\r\n\r\n").length = 23 := by decide
  obtain ⟨h1, h2, h3, h4, h5, h6⟩ := hliterals
  simp only [List.length_append, h1, h2, h3, h4, h5, h6]
  omega

/-- A line that is not empty is read back as a whole if there is no carriage return in it. -/
lemma isLine_of_not_mem {line : Bytes} (hne : line ≠ []) (hmem : byte '\r' ∉ line) :
    IsLine (byte '\r') (byte '\n') line := by
  refine ⟨hne, ?_⟩
  intro hmark
  exact hmem (hmark.subset List.mem_cons_self)

lemma not_mem_formatNat {c : UInt8} (hc : isdigit c = false) (n : ℕ) : c ∉ formatNat n := by
  intro hmem
  rw [isdigit_of_mem_formatNat hmem] at hc
  cases hc

lemma isLine_responseLines (h : Sendable response) :
    ∀ line ∈ responseLines response, IsLine (byte '\r') (byte '\n') line := by
  have hstatus := not_mem_formatNat (show isdigit (byte '\r') = false by decide) response.status
  have hlength := not_mem_formatNat (show isdigit (byte '\r') = false by decide) response.body.length
  have hreason : byte '\r' ∉ reason response.status := by
    unfold reason
    split <;> decide
  have hliterals : byte '\r' ∉ bytes "HTTP/1.0" ∧ byte '\r' ∉ bytes "Content-Type" ∧
      byte '\r' ∉ bytes "Content-Length" ∧ byte '\r' ∉ bytes "Cache-Control" ∧
      byte '\r' ∉ bytes "no-store" ∧ byte '\r' ∉ bytes "X-Content-Type-Options" ∧
      byte '\r' ∉ bytes "nosniff" ∧ byte '\r' ∉ bytes "Connection" ∧ byte '\r' ∉ bytes "close" ∧
      byte '\r' ≠ byte ' ' ∧ byte '\r' ≠ byte ':' := by decide
  intro line hline
  apply isLine_of_not_mem
  · rintro rfl
    simp [responseLines, responseHeaders] at hline
  · simp only [responseLines, responseHeaders, List.map_cons, List.map_nil, List.mem_cons,
      List.not_mem_nil, or_false] at hline
    rcases hline with rfl | rfl | rfl | rfl | rfl | rfl <;>
      simp [hstatus, hlength, hreason, h.contentType, hliterals]

/-! ## What is read -/

lemma readStatusLine_responseLines (h : Sendable response) :
    readStatusLine (bytes "HTTP/1.0" ++
        byte ' ' :: (formatNat response.status ++ byte ' ' :: reason response.status)) =
      some (bytes "HTTP/1.0", response.status, reason response.status) := by
  have hversion : byte ' ' ∉ bytes "HTTP/1.0" := by decide
  have hstatus := not_mem_formatNat (show isdigit (byte ' ') = false by decide) response.status
  have hdrop : ∀ a b : Bytes, (a ++ byte ' ' :: b).drop (a.length + 1) = b := by
    intro a b
    rw [← List.drop_drop, List.drop_left]
    rfl
  have hdigits : (formatNat response.status).all isdigit = true :=
    List.all_eq_true.mpr fun c hc => isdigit_of_mem_formatNat hc
  rw [readStatusLine, firstIndex_singleton_append hversion]
  simp only [hdrop, firstIndex_singleton_append hstatus, List.take_left]
  rw [if_pos ⟨length_formatNat_status h.status, hdigits⟩, decimal_formatNat]

/-- A header, for a name and a value that it can be told apart from. -/
lemma readField_append {name value : Bytes} (hname : byte ':' ∉ name) (hne : name ≠ [])
    (hvalue : value.head? ≠ some (byte ' ')) :
    readField (name ++ byte ':' :: byte ' ' :: value) = some (name, value) := by
  have hdrop : (name ++ byte ':' :: byte ' ' :: value).drop (name.length + 1) = byte ' ' :: value := by
    rw [← List.drop_drop, List.drop_left]
    rfl
  have hblank : (byte ' ' :: value).dropWhile (· == byte ' ') = value := by
    rw [List.dropWhile_cons_of_pos (by simp)]
    cases value with
    | nil => rfl
    | cons c value =>
        apply List.dropWhile_cons_of_neg
        simpa using hvalue
  rw [readField, firstIndex_singleton_append hname]
  simp only [List.length_eq_zero_iff, if_neg hne, List.take_left, hdrop, hblank]

/-- All headers are read back from their lines, in their order. -/
lemma mapM_readField {headers : List (Bytes × Bytes)}
    (h : ∀ header ∈ headers,
      byte ':' ∉ header.1 ∧ header.1 ≠ [] ∧ header.2.head? ≠ some (byte ' ')) :
    (headers.map fun header => header.1 ++ byte ':' :: byte ' ' :: header.2).mapM readField =
      some headers := by
  induction headers with
  | nil => rfl
  | cons header headers ih =>
      obtain ⟨⟨hname, hne, hvalue⟩, hheaders⟩ := List.forall_mem_cons.mp h
      rw [List.map_cons, List.mapM_cons, readField_append hname hne hvalue, ih hheaders]
      rfl

lemma readField_responseHeaders (h : Sendable response) :
    ((responseHeaders response).map fun header =>
      header.1 ++ byte ':' :: byte ' ' :: header.2).mapM readField =
        some (responseHeaders response) := by
  have hlength : (formatNat response.body.length).head? ≠ some (byte ' ') := by
    intro hhead
    exact not_mem_formatNat (show isdigit (byte ' ') = false by decide) _ (List.mem_of_mem_head? hhead)
  apply mapM_readField
  intro header hheader
  simp only [responseHeaders, List.mem_cons, List.not_mem_nil, or_false] at hheader
  rcases hheader with rfl | rfl | rfl | rfl | rfl
  · refine ⟨?_, ?_, h.contentType_head⟩ <;> dsimp only <;> decide
  · refine ⟨?_, ?_, hlength⟩ <;> dsimp only <;> decide
  · decide
  · decide
  · decide

lemma bodyLength_responseHeaders (response : HttpResponse) :
    bodyLength (responseHeaders response) = some response.body.length := by
  have hfilter : ((responseHeaders response).filter fun header =>
      lower header.1 == bytes "content-length") =
        [(bytes "Content-Length", formatNat response.body.length)] := by
    have hnames : (lower (bytes "Content-Type") == bytes "content-length") = false ∧
        (lower (bytes "Content-Length") == bytes "content-length") = true ∧
        (lower (bytes "Cache-Control") == bytes "content-length") = false ∧
        (lower (bytes "X-Content-Type-Options") == bytes "content-length") = false ∧
        (lower (bytes "Connection") == bytes "content-length") = false := by decide
    simp [responseHeaders, hnames]
  have hdigits : (formatNat response.body.length).all isdigit = true :=
    List.all_eq_true.mpr fun c hc => isdigit_of_mem_formatNat hc
  simp only [bodyLength, hfilter]
  rw [if_pos ⟨formatNat_ne_nil _, hdigits⟩, decimal_formatNat]

/-- **Framing**: a response is read as it was meant when all of it has arrived, and no part of it is
taken for a response before. -/
theorem readResponse_take (h : Sendable response) (n : ℕ) :
    readResponse ((makeHttpResponse response).take n) =
      if (makeHttpResponse response).length ≤ n then some response.received else none := by
  have hpair : byte '\r' ≠ byte '\n' := by decide
  have hlines := isLine_responseLines h
  rw [makeHttpResponse_eq h, List.length_append]
  generalize hhead : (writeLines (byte '\r') (byte '\n') (responseLines response)).length = size
  by_cases hcut : n < size
  · have hnone := readLines_take hpair hlines (by rwa [hhead]) response.body
      (n := ((writeLines (byte '\r') (byte '\n') (responseLines response) ++
        response.body).take n).length)
    rw [readResponse, hnone, if_neg (by omega)]
    rfl
  · obtain ⟨m, rfl⟩ := Nat.exists_eq_add_of_le (not_lt.mp hcut)
    have hsix : (responseLines response).length < size := by
      rw [← hhead]
      simp [writeLines, responseLines, responseHeaders]
      omega
    have henough : (responseLines response).length <
        (writeLines (byte '\r') (byte '\n') (responseLines response) ++
          response.body.take m).length := by
      rw [List.length_append]
      omega
    have hread := readLines_writeLines hpair hlines henough (response.body.take m)
    rw [← hhead, List.take_length_add_append, readResponse, hread]
    simp only [responseLines, Option.bind_eq_bind, Option.bind_some, List.head?_cons,
      Option.map_some, List.tail_cons, readStatusLine_responseLines h, readField_responseHeaders h,
      bodyLength_responseHeaders, List.length_take, Nat.add_le_add_iff_left]
    by_cases hall : response.body.length ≤ m
    · rw [if_neg (by omega), if_pos hall, List.take_of_length_le hall, List.take_length]
      rfl
    · rw [if_pos (by omega), if_neg hall]

end Responses

end LegacyAlpha
