import LegacyAlphaRemote.Http.Messages

/-!
# How a length may be spelled

The parser leaves a `Content-Length` value to `strtoul`, and refuses only an empty one and one that
begins with a minus sign.  But `strtoul` skips white space and takes a plus sign, too.  Blanks and
tabs have been trimmed by then; other white space has not (`Lenient`).  A value that does not begin
in such a way is read to the letter (`strictLength_iff`).
-/

namespace LegacyAlpha

open Search

/-- The value is decimal digits, and the number they denote is the length of the body. -/
def StrictLength (body value : Bytes) : Prop :=
  value ≠ [] ∧ (∀ c ∈ value, isdigit c = true) ∧ decimal value = body.length

/-- The value begins with a plus sign, or with white space that is not trimmed. -/
def Lenient (value : Bytes) : Prop :=
  ∃ c ∈ value.head?, c = byte '+' ∨ (0x0a ≤ c ∧ c ≤ 0x0d)

variable {target : Target} {config : NativeConfig} {data : Bytes} {value : Bytes} {n : ℕ}

/-- White space is what is trimmed, and what makes a value lenient. -/
lemma isspace_cases {c : UInt8} (h : isspace c = true) :
    isBlank c = true ∨ (0x0a ≤ c ∧ c ≤ 0x0d) := by
  have hblank : byte ' ' = 32 := rfl
  have htab : byte '\t' = 9 := rfl
  rw [isspace, hblank] at h
  rw [isBlank, hblank, htab]
  grind

lemma not_isdigit_of_lenient {c : UInt8} (h : c = byte '+' ∨ (0x0a ≤ c ∧ c ≤ 0x0d)) :
    isdigit c = false := by
  have hplus : byte '+' = 43 := rfl
  have hzero : byte '0' = 48 := rfl
  rw [hplus] at h
  rw [isdigit, hzero]
  grind

/-- A trimmed value does not begin with a blank. -/
lemma trim_head {c : UInt8} (value : Bytes) (h : c ∈ (trim value).head?) : isBlank c = false := by
  have hprefix : trim value <+: value.dropWhile isBlank := List.rdropWhile_prefix isBlank _
  cases htrim : trim value with
  | nil =>
      rw [htrim] at h
      exact nomatch h
  | cons x rest =>
      rw [htrim] at h hprefix
      obtain rfl : x = c := Option.some.inj h
      obtain ⟨tail, htail⟩ := hprefix
      have hhead := List.head?_dropWhile_not isBlank value
      rw [← htail] at hhead
      simpa using hhead

/-- What `strtoul` makes of digits alone is the number they denote, or `ULONG_MAX`. -/
lemma strtoul_of_digits (hne : value ≠ []) (hdigits : ∀ c ∈ value, isdigit c = true) :
    strtoul target value =
      (if decimal value > target.ulongMax then target.ulongMax else decimal value, []) := by
  split_ifs with hlarge
  · obtain ⟨c, rest, rfl⟩ := List.exists_cons_of_ne_nil hne
    obtain ⟨hspace, hminus, hplus⟩ := isdigit_ne (hdigits c List.mem_cons_self)
    have hdrop : (c :: rest).dropWhile isspace = c :: rest :=
      List.dropWhile_cons_of_neg (by simp [hspace])
    have htake : (c :: rest).takeWhile isdigit = c :: rest :=
      List.takeWhile_eq_self_iff.mpr hdigits
    have hleft : (c :: rest).dropWhile isdigit = [] := List.dropWhile_eq_nil_iff.mpr hdigits
    simp [strtoul, hdrop, hminus, hplus, htake, hleft, hlarge]
  · exact strtoul_digits hne hdigits (not_lt.mp hlarge)

/-- A value that is accepted, and does not begin with white space or a sign, is all digits. -/
lemma digits_of_readLength (h : readLength target value = some n)
    (hhead : ∀ c ∈ value.head?, isspace c = false ∧ c ≠ byte '+') :
    value ≠ [] ∧ ∀ c ∈ value, isdigit c = true := by
  unfold readLength at h
  split_ifs at h with hsign htail
  simp only [Bool.or_eq_true, not_or, List.isEmpty_iff, beq_iff_eq] at hsign
  obtain ⟨hne, hminus⟩ := hsign
  obtain ⟨c, rest, rfl⟩ := List.exists_cons_of_ne_nil hne
  obtain ⟨hspace, hplus⟩ := hhead c rfl
  have hminus : c ≠ byte '-' := by simpa using hminus
  have hdrop : (c :: rest).dropWhile isspace = c :: rest :=
    List.dropWhile_cons_of_neg (by simp [hspace])
  refine ⟨hne, ?_⟩
  -- Without digits the tail would be the value, and with others the rest of them.
  rw [List.isEmpty_iff, strtoul, hdrop] at htail
  simp only [List.head?_cons, Option.some.injEq, beq_iff_eq, hminus, hplus, Bool.or_eq_true,
    or_self, if_false] at htail
  split_ifs at htail with hdigits
  all_goals exact List.dropWhile_eq_nil_iff.mp htail

/-- The largest body that is allowed is far from `ULONG_MAX`. -/
lemma configForPort_maxBody_lt (target : Target) (port : ℤ) :
    (configForPort port).maxBody < target.ulongMax := by
  have hmax : (configForPort port).maxBody = 4096 := by
    unfold configForPort
    split_ifs <;> rfl
  have hpow : 2 ^ 32 ≤ 2 ^ target.longBits := Nat.pow_le_pow_right (by norm_num) target.longBits_ge
  rw [hmax, Target.ulongMax]
  omega

/-- **One value**: what is accepted is strict, unless it begins in a lenient way. -/
lemma strictLength_iff {body : Bytes} (h : readLength target (trim value) = some body.length)
    (hbody : body.length < target.ulongMax) :
    StrictLength body (trim value) ↔ ¬ Lenient (trim value) := by
  constructor
  · rintro ⟨-, hdigits, -⟩ ⟨c, hc, hlenient⟩
    have hdigit := hdigits c (List.mem_of_mem_head? hc)
    rw [not_isdigit_of_lenient hlenient] at hdigit
    exact nomatch hdigit
  · intro hlenient
    have hhead : ∀ c ∈ (trim value).head?, isspace c = false ∧ c ≠ byte '+' := by
      intro c hc
      constructor
      · by_contra hspace
        rcases isspace_cases (by simpa using hspace) with hblank | hcontrol
        · rw [trim_head value hc] at hblank
          exact nomatch hblank
        · exact hlenient ⟨c, hc, Or.inr hcontrol⟩
      · rintro rfl
        exact hlenient ⟨_, hc, Or.inl rfl⟩
    obtain ⟨hne, hdigits⟩ := digits_of_readLength h hhead
    refine ⟨hne, hdigits, ?_⟩
    have hread := strtoul_of_readLength h
    rw [strtoul_of_digits hne hdigits, Prod.mk.injEq] at hread
    have hvalue := hread.1
    split_ifs at hvalue with hlarge
    · omega
    · exact hvalue

/-- Where the request line is followed at once by the blank line, there is a head without headers. -/
lemma HeadAccepted.exists_bare_head {lineEnd headerEnd : ℕ} {method path : Bytes}
    {fields : HeaderFields}
    (h : HeadAccepted target config data lineEnd headerEnd method path fields)
    (hblank : headerEnd = lineEnd + 2) :
    ∃ (head : RequestHead) (rest : Bytes), head.WellFormed ∧ data = head.text ++ rest ∧
      head.headers = [] := by
  obtain ⟨line, afterLine, hline, -, hlineEnd⟩ := find_crlf_eq_some_iff.mp h.lineEnd_eq
  rw [Nat.zero_add] at hlineEnd
  rw [List.drop_zero] at hline
  obtain ⟨hle, hocc, -⟩ := (find_eq_some_iff blankLine_ne_nil).mp h.headerEnd_eq
  have hlineEnd_le : lineEnd ≤ data.length := by
    rw [hline, List.length_append]
    omega
  obtain ⟨version, htake, hmethod, hpath, hnoSpace, hversion⟩ :=
    (parseRequestLine_eq_ok_iff hlineEnd_le).mp h.requestLine
  obtain ⟨rest, hrest⟩ := (occursAt_append_pattern.mp hocc).1
  have hafter : data.drop (lineEnd + 2) = afterLine := by
    rw [hlineEnd, ← List.drop_drop]
    conv_lhs => rw [hline, List.drop_left]
    rfl
  rw [hblank, hafter] at hrest
  refine ⟨⟨method, path, version, []⟩, rest, ⟨hmethod, hpath, hnoSpace, hversion, by simp⟩, ?_, rfl⟩
  have hlineEq : line = method ++ byte ' ' :: (path ++ byte ' ' :: version) := by
    rw [← htake, hline, hlineEnd, List.take_left]
  rw [hline, ← hrest, hlineEq, RequestHead.text, RequestHead.requestLine]
  simp

/-- **Which lengths are strict**: in the head of a request that is accepted, all are, exactly if none
is lenient.  A lenient one begins with a plus sign or with white space that `trim` leaves, and
`strtoul` reads over both. -/
theorem strictLengths_iff {request : HttpRequest} {consumed : ℕ} (port : ℤ)
    (h : parseHttpRequest target (configForPort port) data = .Ok request consumed) :
    ∃ (head : RequestHead) (rest : Bytes), head.WellFormed ∧ data = head.text ++ rest ∧
      ((∀ value ∈ values .ContentLength head.headers, StrictLength request.body value) ↔
        ∀ value ∈ values .ContentLength head.headers, ¬ Lenient value) := by
  obtain ⟨lineEnd, headerEnd, method, path, fields, haccepted, hconsumed, hle, hrequest⟩ :=
    parseHttpRequest_eq_Ok_iff.mp h
  by_cases hblank : headerEnd = lineEnd + 2
  · obtain ⟨head, rest, hhead, hdata, hnone⟩ := haccepted.exists_bare_head hblank
    refine ⟨head, rest, hhead, hdata, ?_⟩
    rw [hnone, values_nil]
    simp
  · obtain ⟨head, rest, hhead, hadm, -, hdata, htext, -, -, rfl⟩ := haccepted.exists_head hblank
    refine ⟨head, rest, hhead, hdata, ?_⟩
    have hbody : request.body.length = contentLength target head.headers := by
      have hcut : headerEnd + 4 + contentLength target head.headers ≤ data.length := hconsumed ▸ hle
      rw [hrequest]
      show (substr data (headerEnd + 4) (contentLength target head.headers)).length = _
      rw [substr, List.length_take, List.length_drop]
      omega
    have hsmall : request.body.length < target.ulongMax := by
      rw [hbody]
      exact hadm.headers.length_le.trans_lt (configForPort_maxBody_lt target port)
    refine forall₂_congr fun value hvalue => ?_
    have hread := hadm.headers.lengths value hvalue
    obtain ⟨header, -, rfl⟩ := List.mem_map.mp hvalue
    exact strictLength_iff (hbody ▸ hread) hsmall

/-- A request with a plus sign before its length, which `strtoul` reads over. -/
def plusMessage : Message :=
  { head :=
      { method := bytes "POST", path := bytes "/api/v1/cancel", version := bytes "HTTP/1.0"
        headers := [⟨bytes "Content-Length", bytes " +2"⟩] }
    body := bytes "\x7b\x7d" }

/-- What the parser makes of that request: its body has two bytes. -/
def plusRequest : HttpRequest :=
  { method := bytes "POST", path := bytes "/api/v1/cancel", body := bytes "\x7b\x7d" }

/-- It is accepted, although what its header says is not a number. -/
theorem plusMessage_not_strict :
    parseHttpRequest .armeabi (configForPort 0) plusMessage.text =
        .Ok plusRequest plusMessage.text.length ∧
      plusMessage.head.WellFormed ∧
      ¬ ∀ value ∈ values .ContentLength plusMessage.head.headers,
        StrictLength plusRequest.body value := by
  refine ⟨by decide, ?_, fun hstrict => ?_⟩
  · exact ⟨by decide, by decide, by decide, by decide, fun header hheader => by
      fin_cases hheader
      exact ⟨by decide, List.all_eq_true.mp (by decide), by decide⟩⟩
  · have hplus := (hstrict (bytes "+2") (by decide)).2.1 (byte '+') (by decide)
    exact absurd hplus (by decide)

theorem strictLengths_plus :
    ∃ (head : RequestHead) (rest : Bytes), head.WellFormed ∧ plusMessage.text = head.text ++ rest ∧
      ((∀ value ∈ values .ContentLength head.headers, StrictLength plusRequest.body value) ↔
        ∀ value ∈ values .ContentLength head.headers, ¬ Lenient value) := by
  have hparse : parseHttpRequest .armeabi (configForPort 0) plusMessage.text =
      .Ok plusRequest plusMessage.text.length := by decide
  exact strictLengths_iff 0 hparse

end LegacyAlpha
