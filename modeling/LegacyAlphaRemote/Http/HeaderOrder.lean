import LegacyAlphaRemote.Http.Lengths

/-!
# The order of the headers

The parser reads the header lines of a request one after another, and finds their ends by searching
the whole buffer.  It does not matter to it in what order they come, nor in what case the letters of
their names are, as long as no name comes twice.

**Lists.**  Of a list without two elements of the same key, a permutation leaves what belongs to one
key as it is (`filter_eq_of_perm`).

**Headers.**  So the values of each kind stay the same (`Rearranged.values`), and with them all that
the header loop computes.  A header line stays well formed, and as long as it was.

**Requests.**  `parse_rearranged` puts the two together, with the grammar in between.
-/

namespace LegacyAlpha

open Search

/-! ## Lists with keys -/

section Keys

variable {α κ : Type*} {key : α → κ} {p : α → Bool} {l l' : List α}

/-- Only one element of the list has the key. -/
lemma length_filter_le_one (hn : (l.map key).Nodup)
    (hkey : ∀ x y, p x = true → p y = true → key x = key y) : (l.filter p).length ≤ 1 := by
  by_contra hlong
  obtain ⟨x, y, rest, hfilter⟩ : ∃ x y rest, l.filter p = x :: y :: rest := by
    match hcut : l.filter p with
    | [] | [_] => simp [hcut] at hlong
    | x :: y :: rest => exact ⟨x, y, rest, rfl⟩
  have hsub : ((l.filter p).map key).Nodup := hn.sublist (List.filter_sublist.map key)
  have hx : p x = true := (List.mem_filter.mp (hfilter ▸ List.mem_cons_self)).2
  have hy : p y = true :=
    (List.mem_filter.mp (hfilter ▸ List.mem_cons_of_mem x List.mem_cons_self)).2
  rw [hfilter, List.map_cons, List.map_cons, hkey x y hx hy] at hsub
  simp at hsub

/-- A permutation leaves what belongs to one key as it is. -/
lemma filter_eq_of_perm (hperm : l.Perm l') (hn : (l.map key).Nodup)
    (hkey : ∀ x y, p x = true → p y = true → key x = key y) : l'.filter p = l.filter p := by
  have hfilter : (l.filter p).Perm (l'.filter p) := hperm.filter p
  have hlen := length_filter_le_one hn hkey
  match hcut : l.filter p with
  | [] =>
      rw [hcut] at hfilter
      exact hfilter.symm.eq_nil
  | [x] =>
      rw [hcut] at hfilter
      exact List.perm_singleton.mp hfilter.symm
  | x :: y :: rest => simp [hcut] at hlen

end Keys

/-! ## Letters -/

/-- What a token consists of does not depend on the case of its letters. -/
lemma isTokenChar_tolower (c : UInt8) : isTokenChar (tolower c) = isTokenChar c := by
  have hall : ∀ n : Fin 256, isTokenChar (tolower (.ofFin n)) = isTokenChar (.ofFin n) := by
    decide +kernel
  exact hall c.toFin

lemma all_isTokenChar_lower (name : Bytes) : (lower name).all isTokenChar = name.all isTokenChar := by
  rw [lower, List.all_map]
  exact congrArg name.all (funext isTokenChar_tolower)

lemma length_lower (name : Bytes) : (lower name).length = name.length := List.length_map ..

/-- A kind of header, but for the headers that the parser does not look at, has one name. -/
lemma lower_eq_of_kindOf {name name' : Bytes} (hkind : kindOf name = kindOf name')
    (hother : kindOf name ≠ .Other) : lower name = lower name' := by
  have hname : ∀ name : Bytes, kindOf name = .Other ∨
      (kindOf name = .ContentLength ∧ lower name = bytes "content-length") ∨
      (kindOf name = .TransferEncoding ∧ lower name = bytes "transfer-encoding") ∨
      (kindOf name = .Pin ∧ lower name = bytes "x-legacyalpha-pin") ∨
      (kindOf name = .ContentType ∧ lower name = bytes "content-type") := by
    intro name
    rw [kindOf]
    simp only [beq_iff_eq]
    split_ifs <;> simp [*]
  have hfirst := hname name
  have hsecond := hname name'
  rw [← hkind] at hsecond
  grind

lemma kindOf_congr {name name' : Bytes} (h : lower name = lower name') :
    kindOf name = kindOf name' := by
  rw [kindOf, h, ← kindOf]

/-! ## Headers -/

/-- The same header, up to the case of the letters in its name. -/
structure Header.Recased (header header' : Header) : Prop where
  name : lower header'.name = lower header.name
  value : header'.value = header.value

/-- The header lines in another order, with their names in other letters; the values stay as they are.
-/
def Rearranged (headers headers' : List Header) : Prop :=
  ∃ permuted, headers.Perm permuted ∧ List.Forall₂ Header.Recased permuted headers'

/-- No two headers have the same name, whatever the case of its letters.  Of headers with the same
name the order matters, as the last one may count. -/
def DistinctNames (headers : List Header) : Prop :=
  (headers.map fun header => lower header.name).Nodup

instance (headers : List Header) : Decidable (DistinctNames headers) :=
  inferInstanceAs (Decidable (List.Nodup _))

variable {target : Target} {config : NativeConfig} {headers headers' : List Header}
  {header header' : Header} {head : RequestHead} {rest data : Bytes}

namespace Header.Recased

lemma length_line (h : header.Recased header') : header'.line.length = header.line.length := by
  have hname := congrArg List.length h.name
  rw [length_lower, length_lower] at hname
  rw [Header.line, Header.line, List.length_append, List.length_append, hname, h.value]

lemma wellFormed (h : header.Recased header') (hheader : header.WellFormed) :
    header'.WellFormed where
  name_ne hnil := by
    have hname := congrArg List.length h.name
    rw [length_lower, length_lower, hnil] at hname
    exact hheader.name_ne (List.length_eq_zero_iff.mp hname.symm)
  token := by
    have htoken : header.name.all isTokenChar = true := List.all_eq_true.mpr hheader.token
    rw [← all_isTokenChar_lower, ← h.name, all_isTokenChar_lower] at htoken
    exact List.all_eq_true.mp htoken
  value := by
    rw [h.value]
    exact hheader.value

/-- A zero byte would be in the value, as it is not in a token. -/
lemma zero_mem (h : header.Recased header') (hheader : header.WellFormed) (hzero : 0 ∈ header'.line) :
    0 ∈ header.line := by
  have htoken : (0 : UInt8) ∉ header'.name := by
    intro hmem
    exact absurd ((h.wellFormed hheader).token 0 hmem) (by decide)
  rw [Header.line, List.mem_append, List.mem_cons, h.value] at hzero
  rw [Header.line, List.mem_append, List.mem_cons]
  exact Or.inr (hzero.resolve_left htoken)

end Header.Recased

/-- Each header of the one list is one of the other, up to the case of letters. -/
lemma Rearranged.exists_recased (h : Rearranged headers headers') (hmem : header' ∈ headers') :
    ∃ header ∈ headers, header.Recased header' := by
  obtain ⟨permuted, hperm, hrecased⟩ := h
  obtain ⟨i, hi, rfl⟩ := List.getElem_of_mem hmem
  have hlength := hrecased.length_eq
  have hsame := hrecased.get (by omega) hi
  exact ⟨permuted[i], hperm.mem_iff.mpr (List.getElem_mem _), hsame⟩

lemma length_headerLines_of_recased (h : List.Forall₂ Header.Recased headers headers') :
    (headerLines headers').length = (headerLines headers).length := by
  induction h with
  | nil => rfl
  | cons hfirst _ ih =>
      rw [length_headerLines_cons, length_headerLines_cons, hfirst.length_line, ih]

lemma values_of_recased (kind : HeaderKind) (h : List.Forall₂ Header.Recased headers headers') :
    values kind headers' = values kind headers := by
  induction h with
  | nil => rfl
  | @cons first first' headers headers' hfirst _ ih =>
      have hkind := kindOf_congr hfirst.name
      rw [values, values] at ih
      by_cases hfirstKind : kindOf first.name = kind
      · simp [values, hkind, hfirstKind, hfirst.value, ih]
      · simp [values, hkind, hfirstKind, ih]

namespace Rearranged

/-- The header lines have the same length altogether. -/
lemma length_headerLines (h : Rearranged headers headers') :
    (headerLines headers').length = (headerLines headers).length := by
  obtain ⟨permuted, hperm, hrecased⟩ := h
  have hlines : (headerLines headers).length = (headerLines permuted).length :=
    (hperm.flatMap_right fun header : Header => header.line ++ crlf).length_eq
  rw [hlines, length_headerLines_of_recased hrecased]

/-- **Each kind of header keeps its values**, if no name comes twice. -/
lemma values (h : Rearranged headers headers') (hdistinct : DistinctNames headers)
    {kind : HeaderKind} (hkind : kind ≠ .Other) : values kind headers' = values kind headers := by
  obtain ⟨permuted, hperm, hrecased⟩ := h
  have hkey : ∀ x y : Header, decide (kindOf x.name = kind) = true →
      decide (kindOf y.name = kind) = true → lower x.name = lower y.name := by
    intro x y hx hy
    have hx : kindOf x.name = kind := of_decide_eq_true hx
    have hy : kindOf y.name = kind := of_decide_eq_true hy
    exact lower_eq_of_kindOf (hx.trans hy.symm) (hx ▸ hkind)
  rw [values_of_recased kind hrecased, LegacyAlpha.values, LegacyAlpha.values,
    filter_eq_of_perm hperm hdistinct hkey]

lemma contentLength (h : Rearranged headers headers') (hdistinct : DistinctNames headers) :
    contentLength target headers' = contentLength target headers := by
  rw [LegacyAlpha.contentLength, h.values hdistinct (by decide), ← LegacyAlpha.contentLength]

lemma headerFields (h : Rearranged headers headers') (hdistinct : DistinctNames headers) :
    headerFields target headers' = headerFields target headers := by
  rw [LegacyAlpha.headerFields, h.contentLength hdistinct, h.values hdistinct (by decide),
    h.values hdistinct (by decide), h.values hdistinct (by decide), ← LegacyAlpha.headerFields]

lemma acceptable (h : Rearranged headers headers') (hdistinct : DistinctNames headers)
    (hacc : Acceptable target config headers) : Acceptable target config headers' where
  lengths := by
    rw [h.contentLength hdistinct, h.values hdistinct (by decide)]
    exact hacc.lengths
  length_le := by
    rw [h.contentLength hdistinct]
    exact hacc.length_le
  encodings := by
    rw [h.values hdistinct (by decide)]
    exact hacc.encodings
  pins := by
    rw [h.values hdistinct (by decide)]
    exact hacc.pins

lemma ne_nil (h : Rearranged headers headers') (hne : headers ≠ []) : headers' ≠ [] := by
  rintro rfl
  obtain ⟨permuted, hperm, hrecased⟩ := h
  rw [List.forall₂_nil_right_iff] at hrecased
  rw [hrecased] at hperm
  exact hne hperm.eq_nil

lemma eq_nil (h : Rearranged [] headers') : headers' = [] := by
  obtain ⟨permuted, hperm, hrecased⟩ := h
  rw [hperm.nil_eq.symm, List.forall₂_nil_left_iff] at hrecased
  exact hrecased

end Rearranged

/-! ## Heads -/

/-- The same request line with other headers. -/
def RequestHead.withHeaders (head : RequestHead) (headers : List Header) : RequestHead :=
  { head with headers }

lemma RequestHead.length_withHeaders (h : Rearranged head.headers headers') :
    (head.withHeaders headers').text.length = head.text.length := by
  have hlength : (headerLines (head.withHeaders headers').headers).length =
      (headerLines head.headers).length := h.length_headerLines
  rw [RequestHead.length_text, RequestHead.length_text, hlength]
  rfl

lemma RequestHead.WellFormed.withHeaders (hhead : head.WellFormed)
    (h : Rearranged head.headers headers') : (head.withHeaders headers').WellFormed where
  method := hhead.method
  path := hhead.path
  path_noSpace := hhead.path_noSpace
  version := hhead.version
  headers header' hmem := by
    obtain ⟨header, hheader, hsame⟩ := h.exists_recased hmem
    exact hsame.wellFormed (hhead.headers header hheader)

lemma RequestHead.Admissible.withHeaders (hadm : head.Admissible target config)
    (h : Rearranged head.headers headers') (hdistinct : DistinctNames head.headers) :
    (head.withHeaders headers').Admissible target config where
  requestLine_le := hadm.requestLine_le
  text_le := (RequestHead.length_withHeaders h).trans_le hadm.text_le
  headers := h.acceptable hdistinct hadm.headers
  post hpost := by
    rw [show (head.withHeaders headers').headers = headers' from rfl,
      h.values hdistinct (by decide)]
    exact hadm.post hpost

/-- No zero byte comes in when headers are put in another order, or letters in another case. -/
lemma RequestHead.WellFormed.zero_not_mem (hhead : head.WellFormed)
    (h : Rearranged head.headers headers') (hnul : 0 ∉ head.text ++ rest) :
    0 ∉ (head.withHeaders headers').text ++ rest := by
  have hline : ∀ header ∈ head.headers, 0 ∉ header.line ++ crlf := by
    intro header hheader hzero
    refine hnul ?_
    have hlines : 0 ∈ headerLines head.headers := List.mem_flatMap.mpr ⟨header, hheader, hzero⟩
    simp [RequestHead.text, hlines]
  have hlines : 0 ∉ headerLines headers' := by
    intro hzero
    obtain ⟨header', hheader', hzero⟩ := List.mem_flatMap.mp hzero
    obtain ⟨header, hheader, hsame⟩ := h.exists_recased hheader'
    rcases List.mem_append.mp hzero with hmem | hmem
    · exact hline header hheader
        (List.mem_append_left _ (hsame.zero_mem (hhead.headers header hheader) hmem))
    · exact absurd hmem (by decide)
  simp only [RequestHead.text, List.mem_append, not_or] at hnul ⊢
  exact ⟨⟨hnul.1.1, hnul.1.2.1, hlines, hnul.1.2.2.2⟩, hnul.2⟩

/-! ## Requests -/

variable {request : HttpRequest} {consumed : ℕ}

/-- What is accepted begins with a well-formed head. -/
lemma exists_head_of_parse (h : parseHttpRequest target config data = .Ok request consumed) :
    ∃ head rest, RequestHead.WellFormed head ∧ data = head.text ++ rest := by
  obtain ⟨lineEnd, headerEnd, method, path, fields, haccepted, -⟩ :=
    parseHttpRequest_eq_Ok_iff.mp h
  by_cases hblank : headerEnd = lineEnd + 2
  · obtain ⟨head, rest, hhead, hdata, -⟩ := haccepted.exists_bare_head hblank
    exact ⟨head, rest, hhead, hdata⟩
  · obtain ⟨head, rest, hhead, -, -, hdata, -⟩ := haccepted.exists_head hblank
    exact ⟨head, rest, hhead, hdata⟩

/-- A head with headers that is accepted is read to its end. -/
lemma RequestHead.WellFormed.admissible_of_parse (hhead : head.WellFormed) (hne : head.headers ≠ [])
    (h : parseHttpRequest target config (head.text ++ rest) = .Ok request consumed) :
    head.Admissible target config ∧
      consumed = head.text.length + (headerFields target head.headers).contentLength ∧
      consumed ≤ (head.text ++ rest).length ∧
      request = (headerFields target head.headers).request head.method head.path
        (head.text ++ rest) (head.text.length - 4) := by
  obtain ⟨lineEnd, headerEnd, method, path, fields, haccepted, hconsumed, hle, hrequest⟩ :=
    parseHttpRequest_eq_Ok_iff.mp h
  have hline := haccepted.lineEnd_eq
  rw [hhead.find_requestLine rfl, Option.some.injEq] at hline
  have hblank : headerEnd ≠ lineEnd + 2 := by
    rintro rfl
    obtain ⟨-, hocc, -⟩ := (find_eq_some_iff blankLine_ne_nil).mp haccepted.headerEnd_eq
    rw [← hline] at hocc
    exact hne ((hhead.occursAt_iff rfl).mp (occursAt_append_pattern.mp hocc).1)
  obtain ⟨head', rest', hhead', hadm, -, hdata, htext, rfl, rfl, rfl⟩ :=
    haccepted.exists_head hblank
  obtain ⟨rfl, rfl⟩ := RequestHead.text_inj hhead hhead' hdata
  refine ⟨hadm, by omega, hle, ?_⟩
  rw [hrequest, htext, Nat.add_sub_cancel]

/-- The body is what follows the head. -/
lemma HeaderFields.request_append (fields : HeaderFields) (method path text rest : Bytes)
    (hlength : 4 ≤ text.length) :
    fields.request method path (text ++ rest) (text.length - 4) =
      { method, path, pin := fields.pin, contentType := fields.contentType
        body := rest.take fields.contentLength } := by
  rw [HeaderFields.request, Nat.sub_add_cancel hlength, substr, List.drop_left]

/-- **The order of the headers does not matter**, nor the letters of their names: a request that is
accepted, and in which no name comes twice, is read the same with its header lines in any order and
their names in any letters. -/
theorem parse_rearranged (h : parseHttpRequest target config data = .Ok request consumed) :
    (∃ head rest, RequestHead.WellFormed head ∧ data = head.text ++ rest) ∧
      ∀ (head : RequestHead) (rest : Bytes) (headers : List Header), head.WellFormed →
        data = head.text ++ rest → DistinctNames head.headers → Rearranged head.headers headers →
        parseHttpRequest target config ((head.withHeaders headers).text ++ rest) =
          .Ok request consumed := by
  refine ⟨exists_head_of_parse h, ?_⟩
  rintro head rest headers hhead rfl hdistinct hre
  by_cases hne : head.headers = []
  · -- Without headers there is only one order.
    rw [hne] at hre
    rw [hre.eq_nil, ← hne]
    exact h
  obtain ⟨hadm, hconsumed, hle, hrequest⟩ := hhead.admissible_of_parse hne h
  have hnul : 0 ∉ head.text ++ rest := by
    obtain ⟨_, _, _, _, _, haccepted, -⟩ := parseHttpRequest_eq_Ok_iff.mp h
    exact haccepted.noNul
  have hlength := RequestHead.length_withHeaders hre
  have hfour : ∀ head : RequestHead, 4 ≤ head.text.length := by
    intro head
    have hlen := head.length_text
    omega
  have haccepted := RequestHead.accepted (hhead.withHeaders hre) (hadm.withHeaders hre hdistinct)
    (hre.ne_nil hne) rfl (hhead.zero_not_mem hre hnul)
  have hfields : headerFields target (head.withHeaders headers).headers =
      headerFields target head.headers := hre.headerFields hdistinct
  refine parseHttpRequest_eq_Ok_iff.mpr ⟨_, _, _, _, _, haccepted, ?_, ?_, ?_⟩
  · rw [hfields, hlength, Nat.sub_add_cancel (hfour head)]
    exact hconsumed
  · rw [List.length_append, hlength, ← List.length_append]
    exact hle
  · rw [hfields, HeaderFields.request_append _ _ _ _ _ (hfour _), hrequest,
      HeaderFields.request_append _ _ _ _ _ (hfour _)]
    rfl

/-- A request for the picture, with the PIN after the name of the host. -/
def pictureHead : RequestHead :=
  { method := bytes "GET", path := bytes "/api/v1/preview.jpg", version := bytes "HTTP/1.1"
    headers := [⟨bytes "Host", bytes " camera:8080"⟩,
      ⟨bytes "X-LegacyAlpha-Pin", bytes " 123456"⟩] }

/-- The PIN may as well come first, with its name in small letters. -/
theorem parse_rearranged_picture :
    parseHttpRequest .armeabi (configForPort 0)
        ((pictureHead.withHeaders [⟨bytes "x-legacyalpha-pin", bytes " 123456"⟩,
          ⟨bytes "HOST", bytes " camera:8080"⟩]).text ++ []) =
      .Ok { method := bytes "GET", path := bytes "/api/v1/preview.jpg", pin := bytes "123456" }
        pictureHead.text.length := by
  have hparse : parseHttpRequest .armeabi (configForPort 0) pictureHead.text =
      .Ok { method := bytes "GET", path := bytes "/api/v1/preview.jpg", pin := bytes "123456" }
        pictureHead.text.length := by decide +kernel
  have hhead : pictureHead.WellFormed := by
    refine ⟨by decide, by decide +kernel, by decide, by decide, fun header hheader => ?_⟩
    fin_cases hheader
    · exact ⟨by decide, List.all_eq_true.mp (by decide), by decide⟩
    · exact ⟨by decide, List.all_eq_true.mp (by decide), by decide⟩
  have hre : Rearranged pictureHead.headers [⟨bytes "x-legacyalpha-pin", bytes " 123456"⟩,
      ⟨bytes "HOST", bytes " camera:8080"⟩] :=
    ⟨_, List.Perm.swap .., .cons ⟨by decide, rfl⟩ (.cons ⟨by decide, rfl⟩ .nil)⟩
  exact (parse_rearranged hparse).2 pictureHead [] _ hhead (List.append_nil _).symm (by decide) hre

end LegacyAlpha
