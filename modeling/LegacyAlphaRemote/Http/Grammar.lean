import LegacyAlphaRemote.Http.Headers

/-!
# The grammar of a request

What a request looks like as text: a request line, header lines, a blank line and a body.  The parser
knows nothing of lines; it searches the buffer.  This module shows that its searches and the grammar
cut a text at the same places.

**Pieces.**  `Header.line`, `headerLines`, `RequestHead.text` write a head, and the `WellFormed`
predicates say what its pieces may contain: no piece contains what ends it.

**Agreement.**  One lemma for each stage of the parser: `parseRequestLine_eq_ok_iff`,
`headerLine_eq_ok_iff` and, by induction over the lines, `headerLoop_eq_ok_iff`; and
`find_blankLine` for the search for the blank line.  They meet in `RequestHead.accepted` (a
well-formed head is accepted) and `HeadAccepted.exists_head` (what is accepted is one).

The search for the blank line begins after the request line's own line break, so that a blank line
there is overlooked.  Both theorems are about heads with a header.
-/

namespace LegacyAlpha

open Search

/-! ## Pieces -/

/-- A header line without its line break, with nothing but the colon between its parts. -/
def Header.line (header : Header) : Bytes := header.name ++ byte ':' :: header.value

/-- The name is a token, and the value does not contain a line break. -/
structure Header.WellFormed (header : Header) : Prop where
  name_ne : header.name ≠ []
  token : ∀ c ∈ header.name, isTokenChar c = true
  value : ¬ crlf <:+: header.value

/-- Header lines in their order, each with its line break. -/
def headerLines (headers : List Header) : Bytes :=
  headers.flatMap fun header => header.line ++ crlf

@[simp] lemma headerLines_nil : headerLines [] = [] := rfl

lemma headerLines_cons (header : Header) (headers : List Header) :
    headerLines (header :: headers) = header.line ++ (crlf ++ headerLines headers) := by
  rw [headerLines, List.flatMap_cons, List.append_assoc, ← headerLines]

/-- The part of a request before its body, in the pieces that its text is put together from. -/
structure RequestHead where
  method : Bytes
  path : Bytes
  version : Bytes
  headers : List Header
  deriving DecidableEq, Repr

/-- The request line without its line break: three parts with one blank after each of the first two.
-/
def RequestHead.requestLine (head : RequestHead) : Bytes :=
  head.method ++ byte ' ' :: (head.path ++ byte ' ' :: head.version)

/-- The head as text: the request line, the header lines and the blank line. -/
def RequestHead.text (head : RequestHead) : Bytes :=
  head.requestLine ++ (crlf ++ (headerLines head.headers ++ crlf))

/-- What a head is made of: one of the two methods, a valid path without blanks, one of the two
versions, and well-formed headers. -/
structure RequestHead.WellFormed (head : RequestHead) : Prop where
  method : head.method = bytes "GET" ∨ head.method = bytes "POST"
  path : validPath head.path = true
  path_noSpace : byte ' ' ∉ head.path
  version : head.version = bytes "HTTP/1.0" ∨ head.version = bytes "HTTP/1.1"
  headers : ∀ header ∈ head.headers, header.WellFormed

lemma crlf_ne : (0x0d : UInt8) ≠ 0x0a := by decide

lemma crlf_ne_nil : crlf ≠ [] := List.cons_ne_nil _ _

lemma blankLine_ne_nil : crlf ++ crlf ≠ [] := List.cons_ne_nil _ _

lemma find_crlf_eq_some_iff {data : Bytes} {start i : ℕ} :
    find data crlf start = some i ↔
      ∃ a b, data.drop start = a ++ (crlf ++ b) ∧ ¬ crlf <:+: a ∧ i = start + a.length :=
  find_pair_eq_some_iff crlf_ne

lemma isTokenChar_colon : isTokenChar (byte ':') = false := by decide

lemma isTokenChar_cr : isTokenChar 0x0d = false := by decide

/-! ### No piece contains what ends it -/

section Pieces

variable {header : Header} {headers : List Header} {head : RequestHead}

lemma Header.WellFormed.colon_not_mem (h : header.WellFormed) : byte ':' ∉ header.name :=
  fun hmem => by simpa [isTokenChar_colon] using h.token _ hmem

lemma Header.WellFormed.not_infix_line (h : header.WellFormed) : ¬ crlf <:+: header.line := by
  have hcr : (0x0d : UInt8) ∉ header.name ++ [byte ':'] := by
    intro hmem
    rcases List.mem_append.mp hmem with hname | hcolon
    · simpa [isTokenChar_cr] using h.token _ hname
    · exact absurd hcolon (by decide)
  have hline : header.line = (header.name ++ [byte ':']) ++ header.value := by
    simp [Header.line]
  rw [hline]
  exact not_infix_append hcr h.value

/-- A header line does not begin with a line break. -/
lemma Header.WellFormed.not_crlf_start (h : header.WellFormed) (rest : Bytes) :
    ¬ crlf <+: header.line ++ rest := by
  obtain ⟨c, name, hname⟩ := List.exists_cons_of_ne_nil h.name_ne
  intro hbegins
  rw [Header.line, hname] at hbegins
  have hc : (0x0d : UInt8) = c := (List.cons_prefix_cons.mp hbegins).1
  have htoken := h.token c (by rw [hname]; exact List.mem_cons_self)
  rw [← hc, isTokenChar_cr] at htoken
  cases htoken

lemma Header.line_length_pos (header : Header) : 0 < header.line.length := by
  simp [Header.line]

lemma length_headerLines_cons :
    (headerLines (header :: headers)).length =
      header.line.length + 2 + (headerLines headers).length := by
  rw [headerLines_cons, List.length_append, List.length_append, ← Nat.add_assoc]
  rfl

lemma validPath_cr_not_mem {path : Bytes} (h : validPath path = true) : (0x0d : UInt8) ∉ path := by
  intro hmem
  simp only [validPath, Bool.and_eq_true, List.all_eq_true] at h
  exact absurd (h.1.2 _ hmem) (by decide)

lemma RequestHead.WellFormed.cr_not_mem (h : head.WellFormed) :
    (0x0d : UInt8) ∉ head.requestLine := by
  have hmethod : (0x0d : UInt8) ∉ head.method := by
    rcases h.method with h | h <;> rw [h] <;> decide
  have hversion : (0x0d : UInt8) ∉ head.version := by
    rcases h.version with h | h <;> rw [h] <;> decide
  have hspace : (0x0d : UInt8) ≠ byte ' ' := by decide
  simp [RequestHead.requestLine, hmethod, hversion, hspace, validPath_cr_not_mem h.path]

lemma RequestHead.WellFormed.not_infix_requestLine (h : head.WellFormed) :
    ¬ crlf <:+: head.requestLine := by
  intro hmatch
  exact h.cr_not_mem (hmatch.subset (by simp [crlf]))

end Pieces

/-! ### A text is cut into pieces in one way only -/

lemma crlf_append_inj {a a' b b' : Bytes} (ha : ¬ crlf <:+: a) (ha' : ¬ crlf <:+: a')
    (h : a ++ (crlf ++ b) = a' ++ (crlf ++ b')) : a = a' ∧ b = b' :=
  pair_append_inj crlf_ne ha ha' h

lemma Header.line_inj {header header' : Header} (h : header.WellFormed) (h' : header'.WellFormed)
    (hline : header.line = header'.line) : header = header' := by
  obtain ⟨hname, hvalue⟩ := singleton_append_inj h.colon_not_mem h'.colon_not_mem hline
  cases header
  cases header'
  exact congrArg₂ Header.mk hname hvalue

lemma headerLines_inj {rest rest' : Bytes} : ∀ {headers headers' : List Header},
    (∀ header ∈ headers, header.WellFormed) → (∀ header ∈ headers', header.WellFormed) →
    headerLines headers ++ (crlf ++ rest) = headerLines headers' ++ (crlf ++ rest') →
    headers = headers' ∧ rest = rest'
  | [], [], _, _, h => by simpa using h
  | [], header :: headers, _, hheaders, h => by
      rw [headerLines_cons, List.append_assoc] at h
      exact absurd ⟨rest, h⟩ ((hheaders header (by simp)).not_crlf_start _)
  | header :: headers, [], hheaders, _, h => by
      rw [headerLines_cons, List.append_assoc] at h
      exact absurd ⟨rest', h.symm⟩ ((hheaders header (by simp)).not_crlf_start _)
  | header :: headers, header' :: headers', hheaders, hheaders', h => by
      obtain ⟨hheader, hheaders⟩ := List.forall_mem_cons.mp hheaders
      obtain ⟨hheader', hheaders'⟩ := List.forall_mem_cons.mp hheaders'
      rw [headerLines_cons, headerLines_cons, List.append_assoc, List.append_assoc,
        List.append_assoc, List.append_assoc] at h
      obtain ⟨hline, htail⟩ := crlf_append_inj hheader.not_infix_line hheader'.not_infix_line h
      obtain ⟨rfl, rfl⟩ := headerLines_inj hheaders hheaders' htail
      exact ⟨by rw [Header.line_inj hheader hheader' hline], rfl⟩

/-- **The grammar is unambiguous**: a text begins with at most one well-formed head, so that what a
sender means by it is settled by the text alone. -/
theorem RequestHead.text_inj {head head' : RequestHead} {rest rest' : Bytes} (h : head.WellFormed)
    (h' : head'.WellFormed) (htext : head.text ++ rest = head'.text ++ rest') :
    head = head' ∧ rest = rest' := by
  have hmethod : ∀ {head : RequestHead}, head.WellFormed → byte ' ' ∉ head.method := by
    intro head hhead
    rcases hhead.method with hm | hm <;> rw [hm] <;> decide
  simp only [RequestHead.text, List.append_assoc] at htext
  obtain ⟨hline, htail⟩ :=
    crlf_append_inj h.not_infix_requestLine h'.not_infix_requestLine htext
  obtain ⟨hheaders, hrest⟩ := headerLines_inj h.headers h'.headers htail
  obtain ⟨hm, hafter⟩ := singleton_append_inj (hmethod h) (hmethod h') hline
  obtain ⟨hpath, hversion⟩ := singleton_append_inj h.path_noSpace h'.path_noSpace hafter
  refine ⟨?_, hrest⟩
  cases head
  cases head'
  simp only at hm hpath hversion hheaders
  rw [hm, hpath, hversion, hheaders]

/-! ## The request line -/

/-- The request line is accepted exactly when it is a method, a path and a version, each well
formed, with a space between them. -/
theorem parseRequestLine_eq_ok_iff {data : Bytes} {lineEnd : ℕ} (hle : lineEnd ≤ data.length)
    {method path : Bytes} :
    parseRequestLine data lineEnd = .ok (method, path) ↔
      ∃ version, data.take lineEnd = method ++ byte ' ' :: (path ++ byte ' ' :: version) ∧
        (method = bytes "GET" ∨ method = bytes "POST") ∧ validPath path = true ∧ byte ' ' ∉ path ∧
        (version = bytes "HTTP/1.0" ∨ version = bytes "HTTP/1.1") := by
  constructor
  · intro h
    unfold parseRequestLine at h
    split at h
    · cases h
    rename_i firstSpace hfirst
    split at h
    · cases h
    rename_i secondSpace hsecond
    split at h
    · cases h
    rename_i hspaces
    obtain ⟨m, afterMethod, hm, -, hi⟩ := find_singleton_eq_some_iff.mp hfirst
    obtain ⟨p, afterPath, hp, hpath, hj⟩ := find_singleton_eq_some_iff.mp hsecond
    rw [Nat.zero_add] at hi
    obtain ⟨k, hk⟩ := Nat.exists_eq_add_of_lt (not_le.mp hspaces)
    have hdata : data = m ++ byte ' ' :: (p ++ byte ' ' :: afterPath) := by
      have hafter : data.drop (firstSpace + 1) = afterMethod := by
        have hdrop := drop_of_drop_cons hm
        rwa [Nat.zero_add, ← hi] at hdrop
      rw [← hp, hafter, ← hm, List.drop_zero]
    have hmethod : substr data 0 firstSpace = m := by
      rw [hi]
      exact substr_of_drop hm
    have hpath' : substr data (firstSpace + 1) (secondSpace - firstSpace - 1) = p := by
      rw [show secondSpace - firstSpace - 1 = p.length by omega]
      exact substr_of_drop hp
    have hversion : substr data (secondSpace + 1) (lineEnd - secondSpace - 1) = afterPath.take k := by
      have hdrop := drop_of_drop_cons hp
      rw [← hj] at hdrop
      rw [show lineEnd - secondSpace - 1 = k by omega, substr]
      exact congrArg (List.take k) hdrop
    rw [hmethod, hpath', hversion] at h
    simp only at h
    split at h
    · cases h
    rename_i hchecks
    split at h
    · cases h
    rename_i hversions
    split at h
    · cases h
    obtain ⟨rfl, rfl⟩ := Prod.mk.inj (Except.ok.inj h)
    simp only [Bool.or_eq_true, Bool.and_eq_true, bne_iff_ne, Bool.not_eq_true', not_or, not_and,
      not_not, Bool.not_eq_false] at hchecks hversions
    refine ⟨afterPath.take k, ?_, ?_, hchecks.2, hpath, ?_⟩
    · have hlen : lineEnd = m.length + (p.length + (k + 1) + 1) := by omega
      rw [hlen, hdata, List.take_length_add_append, List.take_succ_cons,
        List.take_length_add_append, List.take_succ_cons]
    · exact or_iff_not_imp_left.mpr hchecks.1
    · exact or_iff_not_imp_left.mpr hversions
  · rintro ⟨version, hline, hmethod, hpath, hnoSpace, hversion⟩
    have hdata : data = method ++ byte ' ' :: (path ++ byte ' ' :: (version ++ data.drop lineEnd)) := by
      conv_lhs => rw [← List.take_append_drop lineEnd data, hline]
      simp
    have hlen : lineEnd = method.length + 1 + path.length + 1 + version.length := by
      have := congrArg List.length hline
      rw [List.length_take, min_eq_left hle] at this
      simp only [List.length_append, List.length_cons] at this
      omega
    have hafterMethod : data.drop (method.length + 1) =
        path ++ byte ' ' :: (version ++ data.drop lineEnd) := by
      conv_lhs => rw [hdata, ← List.drop_drop, List.drop_left]
      rfl
    have hafterPath : data.drop (method.length + 1 + path.length + 1) =
        version ++ data.drop lineEnd := drop_of_drop_cons hafterMethod
    have hfirst : find data [byte ' '] 0 = some method.length := by
      refine find_singleton_eq_some_iff.mpr ⟨method, _, hdata, ?_, by omega⟩
      rcases hmethod with h | h <;> rw [h] <;> decide
    have hsecond : find data [byte ' '] (method.length + 1) = some (method.length + 1 + path.length) :=
      find_singleton_eq_some_iff.mpr ⟨path, _, hafterMethod, hnoSpace, rfl⟩
    have hm : substr data 0 method.length = method := substr_of_drop hdata
    have hp : substr data (method.length + 1) (method.length + 1 + path.length - method.length - 1) =
        path := by
      rw [show method.length + 1 + path.length - method.length - 1 = path.length by omega]
      exact substr_of_drop hafterMethod
    have hv : substr data (method.length + 1 + path.length + 1)
        (lineEnd - (method.length + 1 + path.length) - 1) = version := by
      rw [show lineEnd - (method.length + 1 + path.length) - 1 = version.length by omega]
      exact substr_of_drop hafterPath
    have htoken : method.all isTokenChar = true := by
      rcases hmethod with h | h <;> rw [h] <;> decide
    have hchecks : ((method != bytes "GET" && method != bytes "POST") || !validPath path) = false := by
      rcases hmethod with h | h <;> simp [h, hpath]
    have hversions : (version != bytes "HTTP/1.0" && version != bytes "HTTP/1.1") = false := by
      rcases hversion with h | h <;> simp [h]
    unfold parseRequestLine
    simp only [hfirst, hsecond, hm, hp, hv, hchecks, hversions, htoken, Bool.false_eq_true, if_false,
      Bool.not_true]
    rw [if_neg (by omega)]

/-! ## The header lines -/

section HeaderLines

variable {target : Target} {config : NativeConfig} {data : Bytes} {headerEnd pos : ℕ}
  {fields : HeaderFields}

/-- The name of a header, as it is cut out of its line. -/
lemma substr_name {name after : Bytes} {colon : ℕ} (hcut : data.drop pos = name ++ byte ':' :: after)
    (hcolon : colon = pos + name.length) : substr data pos (colon - pos) = name := by
  rw [show colon - pos = name.length by omega]
  exact substr_of_drop hcut

/-- The value of a header, as it is cut out of its line; it is trimmed afterwards. -/
lemma substr_value {name value rest : Bytes} {colon lineEnd : ℕ}
    (hcut : data.drop pos = name ++ byte ':' :: (value ++ rest))
    (hcolon : colon = pos + name.length) (hend : lineEnd = pos + name.length + 1 + value.length) :
    substr data (colon + 1) (lineEnd - colon - 1) = value := by
  have hafter := drop_of_drop_cons hcut
  rw [← hcolon] at hafter
  rw [show lineEnd - colon - 1 = value.length by omega]
  exact substr_of_drop hafter

/-- An element that stands inside the line divides it. -/
lemma eq_append_cons_of_append_eq {name after line rest : Bytes} {c : UInt8}
    (h : name ++ c :: after = line ++ rest) (hlt : name.length < line.length) :
    ∃ value, line = name ++ c :: value := by
  rcases List.append_eq_append_iff.mp h with ⟨t, rfl, hrest⟩ | ⟨t, rfl, -⟩
  · cases t with
    | nil => simp at hlt
    | cons d t =>
        obtain ⟨rfl, -⟩ := List.cons.inj hrest
        exact ⟨t, rfl⟩
  · rw [List.length_append] at hlt
    omega

/-- One iteration of the header loop accepts exactly a well-formed line that `readHeader` accepts,
and stops where the next line begins. -/
theorem headerLine_eq_ok_iff {next : HeaderFields} {nextPos : ℕ} :
    headerLine target config data headerEnd pos fields = .ok (next, nextPos) ↔
      ∃ (header : Header) (rest : Bytes), header.WellFormed ∧
        data.drop pos = header.line ++ (crlf ++ rest) ∧ pos + header.line.length ≤ headerEnd ∧
        readHeader target config fields header.name (trim header.value) = .ok next ∧
        nextPos = pos + header.line.length + 2 := by
  constructor
  · intro h
    unfold headerLine at h
    split at h
    · cases h
    rename_i lineEnd hline
    split at h
    · cases h
    rename_i hle
    split at h
    · cases h
    rename_i colon hcolon
    split at h
    · cases h
    rename_i hbounds
    simp only [ge_iff_le, Bool.or_eq_true, decide_eq_true_eq, beq_iff_eq, not_or, not_le] at hbounds
    obtain ⟨line, rest, hdrop, hnoBreak, hend⟩ := find_crlf_eq_some_iff.mp hline
    obtain ⟨name, afterColon, hcut, hnoColon, hpos⟩ := find_singleton_eq_some_iff.mp hcolon
    -- The colon stands inside the line, so that the line is the name, the colon and the value.
    obtain ⟨value, rfl⟩ := eq_append_cons_of_append_eq (hcut.symm.trans hdrop) (by omega)
    have hcut' : data.drop pos = name ++ byte ':' :: (value ++ (crlf ++ rest)) := by
      rw [hdrop, List.append_assoc, List.cons_append]
    have hlen : lineEnd = pos + name.length + 1 + value.length := by
      rw [hend, List.length_append, List.length_cons]
      omega
    simp only [substr_name hcut' hpos, substr_value hcut' hpos hlen] at h
    split at h
    · cases h
    rename_i htoken
    split at h
    · cases h
    rename_i result hread
    obtain ⟨rfl, rfl⟩ := Prod.mk.inj (Except.ok.inj h)
    refine ⟨⟨name, value⟩, rest, ⟨?_, ?_, ?_⟩, hdrop, ?_, hread, by rw [hend]; rfl⟩
    · rintro rfl
      exact hbounds.2 (by simpa using hpos)
    · simpa using htoken
    · exact fun hmatch => hnoBreak (hmatch.trans ⟨name ++ [byte ':'], [], by simp⟩)
    · rw [show (Header.line ⟨name, value⟩).length = (name ++ byte ':' :: value).length from rfl,
        ← hend]
      exact not_lt.mp hle
  · rintro ⟨header, rest, hheader, hdrop, hle, hread, rfl⟩
    have hline : find data crlf pos = some (pos + header.line.length) :=
      find_crlf_eq_some_iff.mpr ⟨header.line, rest, hdrop, hheader.not_infix_line, rfl⟩
    have hcut : data.drop pos = header.name ++ byte ':' :: (header.value ++ (crlf ++ rest)) := by
      rw [hdrop, Header.line]
      simp
    have hcolon : find data [byte ':'] pos = some (pos + header.name.length) :=
      find_singleton_eq_some_iff.mpr ⟨header.name, _, hcut, hheader.colon_not_mem, rfl⟩
    have hlen : pos + header.line.length = pos + header.name.length + 1 + header.value.length := by
      rw [Header.line, List.length_append, List.length_cons]
      omega
    have hname_pos := List.length_pos_iff.mpr hheader.name_ne
    have hname := substr_name hcut rfl
    have hvalue := substr_value hcut rfl hlen
    have hbounds : (decide (pos + header.name.length ≥ pos + header.line.length)
        || pos + header.name.length == pos) = false := by
      simp only [Bool.or_eq_false_iff, decide_eq_false_iff_not, beq_eq_false_iff_ne]
      omega
    have htoken : header.name.all isTokenChar = true := by simpa using hheader.token
    unfold headerLine
    simp only [hline, hcolon, hbounds, hname, hvalue, htoken, hread, if_neg (not_lt.mpr hle),
      Bool.not_true, Bool.false_eq_true, if_false]

/-- Where the header loop can stand: at the beginning of a line before the blank line, or past the
last line.  `headerEnd` is where the blank line was found, the last line's break included. -/
structure LoopPosition (data : Bytes) (headerEnd pos : ℕ) : Prop where
  blank : OccursAt (crlf ++ crlf) data headerEnd
  first : ∀ j, pos ≤ j → j < headerEnd → ¬ OccursAt (crlf ++ crlf) data j
  pos : pos < headerEnd ∨ pos = headerEnd + 2

/-- A line that ends at or before `headerEnd` leaves the loop in such a place again: a line break
just before the blank line's would make an earlier one. -/
lemma LoopPosition.next {line rest : Bytes} (h : LoopPosition data headerEnd pos)
    (hdrop : data.drop pos = line ++ (crlf ++ rest)) (hle : pos + line.length ≤ headerEnd) :
    LoopPosition data headerEnd (pos + line.length + 2) := by
  refine ⟨h.blank, fun j hj => h.first j (by omega), ?_⟩
  have hbreak : OccursAt crlf data (pos + line.length) := ⟨rest, (drop_of_drop hdrop).symm⟩
  have hblank := occursAt_append_pattern.mp h.blank
  rcases Nat.lt_trichotomy (pos + line.length + 2) headerEnd with hlt | heq | hgt
  · exact Or.inl hlt
  · exact absurd (occursAt_append_pattern.mpr ⟨hbreak, by rw [← heq] at hblank; exact hblank.1⟩)
      (h.first _ (by omega) (by omega))
  · by_cases hlast : pos + line.length = headerEnd
    · exact Or.inr (by omega)
    · obtain rfl : headerEnd = pos + line.length + 1 := by omega
      obtain ⟨s, hs⟩ := hbreak
      obtain ⟨t, ht⟩ := hblank.1
      rw [← List.drop_drop, ← hs] at ht
      exact absurd (List.cons.inj ht).1 crlf_ne

/-- **The header loop reads header lines**: it succeeds exactly when what lies between its position
and the blank line is a sequence of well-formed lines that can be read in turn. -/
theorem headerLoop_eq_ok_iff {result : HeaderFields} : ∀ (left : ℕ) {pos : ℕ}
    {fields : HeaderFields}, headerEnd ≤ left + pos → LoopPosition data headerEnd pos →
    (headerLoop target config data headerEnd left pos fields = .ok result ↔
      ∃ (headers : List Header) (rest : Bytes), (∀ header ∈ headers, header.WellFormed) ∧
        data.drop pos = headerLines headers ++ rest ∧
        pos + (headerLines headers).length = headerEnd + 2 ∧
        readHeaders target config fields headers = .ok result) := by
  -- Past the last line, no header is left and none is read.
  have hdone : ∀ {pos : ℕ} {fields : HeaderFields}, pos = headerEnd + 2 →
      (Except.ok fields = (.ok result : Except ParseError HeaderFields) ↔
        ∃ (headers : List Header) (rest : Bytes), (∀ header ∈ headers, header.WellFormed) ∧
          data.drop pos = headerLines headers ++ rest ∧
          pos + (headerLines headers).length = headerEnd + 2 ∧
          readHeaders target config fields headers = .ok result) := by
    intro pos fields hpos
    constructor
    · intro h
      exact ⟨[], data.drop pos, by simp, rfl, by simpa using hpos, h⟩
    · rintro ⟨headers, rest, -, -, hlen, hread⟩
      cases headers with
      | nil => exact hread
      | cons header headers =>
          rw [length_headerLines_cons] at hlen
          omega
  intro left
  induction left with
  | zero =>
      intro pos fields hfuel hpos
      exact hdone (hpos.pos.resolve_left (by omega))
  | succ left ih =>
      intro pos fields hfuel hpos
      by_cases hlt : pos < headerEnd
      · rw [headerLoop, if_pos hlt]
        constructor
        · intro h
          split at h
          · cases h
          rename_i next nextPos hline
          obtain ⟨header, rest, hheader, hdrop, hle, hread, rfl⟩ := headerLine_eq_ok_iff.mp hline
          obtain ⟨headers, rest', hheaders, hdrop', hlen, hreads⟩ :=
            (ih (by omega) (hpos.next hdrop hle)).mp h
          refine ⟨header :: headers, rest', ?_, ?_, ?_, ?_⟩
          · exact List.forall_mem_cons.mpr ⟨hheader, hheaders⟩
          · have hrest : data.drop (pos + header.line.length + 2) = rest := by
              rw [← List.drop_drop, drop_of_drop hdrop]
              rfl
            rw [hdrop, ← hrest, hdrop', headerLines_cons]
            simp only [List.append_assoc]
          · rw [length_headerLines_cons]
            omega
          · exact (readHeaders_cons_eq_ok_iff target config).mpr ⟨next, hread, hreads⟩
        · rintro ⟨headers, rest, hheaders, hdrop, hlen, hreads⟩
          cases headers with
          | nil =>
              rw [headerLines_nil, List.length_nil] at hlen
              omega
          | cons header headers =>
              obtain ⟨hheader, hheaders⟩ := List.forall_mem_cons.mp hheaders
              obtain ⟨next, hread, hreads⟩ := (readHeaders_cons_eq_ok_iff target config).mp hreads
              rw [headerLines_cons, List.append_assoc, List.append_assoc] at hdrop
              rw [length_headerLines_cons] at hlen
              have hle : pos + header.line.length ≤ headerEnd := by omega
              have hline : headerLine target config data headerEnd pos fields =
                  .ok (next, pos + header.line.length + 2) :=
                headerLine_eq_ok_iff.mpr ⟨header, _, hheader, hdrop, hle, hread, rfl⟩
              have hdrop' : data.drop (pos + header.line.length + 2) =
                  headerLines headers ++ rest := by
                rw [← List.drop_drop, drop_of_drop hdrop]
                rfl
              simp only [hline]
              exact (ih (by omega) (hpos.next hdrop hle)).mpr
                ⟨headers, rest, hheaders, hdrop', by omega, hreads⟩
      · rw [headerLoop, if_neg hlt]
        exact hdone (hpos.pos.resolve_left hlt)

end HeaderLines

/-! ## The blank line -/

/-- Between the beginning of the first header line and the break of the last there is no blank line:
each line break but the last is followed by a name. -/
lemma not_occursAt_headerLines (rest : Bytes) : ∀ (headers : List Header) (j : ℕ),
    (∀ header ∈ headers, header.WellFormed) → j + 2 < (headerLines headers).length →
    ¬ OccursAt (crlf ++ crlf) (headerLines headers ++ rest) j
  | [], j, _, hj => by simp at hj
  | header :: headers, j, hheaders, hj => by
      obtain ⟨hheader, hheaders⟩ := List.forall_mem_cons.mp hheaders
      rw [length_headerLines_cons] at hj
      rw [headerLines_cons, List.append_assoc, List.append_assoc]
      intro hocc
      obtain ⟨hfirst, hsecond⟩ := occursAt_append_pattern.mp hocc
      -- The first break of the pattern is at the end of the line or in a later one.
      rcases Nat.lt_trichotomy j header.line.length with hlt | rfl | hgt
      · have hfind := firstIndex_pair_append crlf_ne (b := headerLines headers ++ rest)
          hheader.not_infix_line
        exact ((firstIndex_eq_some_iff (List.cons_ne_nil _ _)).mp hfind).2 j hlt hfirst
      · cases headers with
        | nil =>
            rw [headerLines_nil, List.length_nil] at hj
            omega
        | cons nextHeader headers =>
            rw [OccursAt, ← List.drop_drop, List.drop_left, List.drop_left, headerLines_cons,
              List.append_assoc] at hsecond
            exact (hheaders nextHeader (by simp)).not_crlf_start _ hsecond
      · obtain ⟨k, rfl⟩ := Nat.exists_eq_add_of_lt hgt
        rw [Nat.add_assoc, occursAt_append_right] at hfirst hocc
        cases k with
        | zero => exact crlf_ne (List.cons_prefix_cons.mp hfirst).1
        | succ k =>
            refine not_occursAt_headerLines rest headers k hheaders (by omega) ?_
            have hshift : OccursAt (crlf ++ crlf) (crlf ++ (headerLines headers ++ rest))
                (crlf.length + k) := by
              rw [show crlf.length + k = k + 1 + 1 from Nat.add_comm 2 k]
              exact hocc
            rwa [occursAt_append_right] at hshift

lemma headerLines_concat (headers : List Header) (header : Header) :
    headerLines (headers ++ [header]) = (headerLines headers ++ header.line) ++ crlf := by
  simp [headerLines]

/-- **The blank line** is found at the break of the last header line, and not before: no other line is
empty. -/
theorem find_blankLine {data rest : Bytes} {pos : ℕ} {headers : List Header} (hne : headers ≠ [])
    (hheaders : ∀ header ∈ headers, header.WellFormed)
    (hdrop : data.drop pos = headerLines headers ++ (crlf ++ rest)) :
    ∃ headerEnd, find data (crlf ++ crlf) pos = some headerEnd ∧
      headerEnd + 2 = pos + (headerLines headers).length := by
  obtain ⟨init, last, rfl⟩ := List.eq_nil_or_concat headers |>.resolve_left hne
  rw [List.concat_eq_append] at hheaders hdrop ⊢
  have hlines := headerLines_concat init last
  have hlen : (headerLines (init ++ [last])).length =
      (headerLines init ++ last.line).length + 2 := by
    rw [hlines, List.length_append]
    rfl
  refine ⟨pos + (headerLines init ++ last.line).length, ?_, by omega⟩
  have hfirst : firstIndex (crlf ++ crlf) (data.drop pos) =
      some (headerLines init ++ last.line).length := by
    refine (firstIndex_eq_some_iff blankLine_ne_nil).mpr ⟨?_, fun j hj => ?_⟩
    · rw [hdrop, hlines, List.append_assoc, occursAt_length]
      exact ⟨rest, by simp⟩
    · rw [hdrop]
      exact not_occursAt_headerLines _ _ j hheaders (by omega)
  rw [find, hfirst]
  rfl

/-! ## The head -/

section Heads

variable {target : Target} {config : NativeConfig} {data : Bytes}

/-- What the parser requires of a head besides its form: the limits on its lengths, headers that it
takes, and a length of the body where there has to be one. -/
structure RequestHead.Admissible (target : Target) (config : NativeConfig) (head : RequestHead) :
    Prop where
  requestLine_le : head.requestLine.length ≤ config.maxRequestLine
  text_le : head.text.length ≤ config.maxHeaders
  headers : Acceptable target config head.headers
  post : head.method = bytes "POST" → values .ContentLength head.headers ≠ []

lemma RequestHead.length_text (head : RequestHead) :
    head.text.length = head.requestLine.length + 2 + (headerLines head.headers).length + 2 := by
  simp only [RequestHead.text, List.length_append, crlf, List.length_cons, List.length_nil]
  omega

/-- **A well-formed head is accepted**, whatever follows it, when it has a header: each search of the
parser finds the place where the grammar puts it, and the header loop reads the headers one after the
other. -/
theorem RequestHead.accepted {head : RequestHead} (hhead : head.WellFormed)
    (hadm : head.Admissible target config) (hne : head.headers ≠ []) {rest : Bytes}
    (hdata : data = head.text ++ rest) (hnul : 0 ∉ data) :
    HeadAccepted target config data head.requestLine.length (head.text.length - 4) head.method
      head.path (headerFields target head.headers) := by
  have hcut : data = head.requestLine ++ (crlf ++ (headerLines head.headers ++ (crlf ++ rest))) := by
    rw [hdata, RequestHead.text]
    simp only [List.append_assoc]
  have hline : find data crlf 0 = some head.requestLine.length :=
    find_crlf_eq_some_iff.mpr ⟨_, _, hcut, hhead.not_infix_requestLine, (Nat.zero_add _).symm⟩
  have hdrop : data.drop (head.requestLine.length + 2) =
      headerLines head.headers ++ (crlf ++ rest) := by
    rw [← List.drop_drop]
    conv_lhs => rw [hcut, List.drop_left]
    rfl
  have hlen := head.length_text
  obtain ⟨headerEnd, hblank, hend⟩ := find_blankLine hne hhead.headers hdrop
  obtain rfl : headerEnd = head.text.length - 4 := by omega
  obtain ⟨hle, hocc, hmin⟩ := (find_eq_some_iff blankLine_ne_nil).mp hblank
  refine ⟨hnul, hline, hadm.requestLine_le, ?_, hblank, ?_, ?_, ?_⟩
  · refine (parseRequestLine_eq_ok_iff ?_).mpr ⟨head.version, ?_, hhead.method, hhead.path,
      hhead.path_noSpace, hhead.version⟩
    · rw [hdata, List.length_append]
      omega
    · rw [hcut, List.take_left]
      rfl
  · have := hadm.text_le
    omega
  · have hpos : head.requestLine.length + 2 < head.text.length - 4 := by
      obtain ⟨header, headers, hcons⟩ := List.exists_cons_of_ne_nil hne
      have hline_pos := header.line_length_pos
      rw [hcons, length_headerLines_cons] at hlen
      omega
    refine (headerLoop_eq_ok_iff _ (by omega) ⟨hocc, hmin, Or.inl hpos⟩).mpr
      ⟨head.headers, crlf ++ rest, hhead.headers, hdrop, by omega, ?_⟩
    exact (readHeaders_eq_ok_iff target config head.headers).mpr ⟨hadm.headers, rfl⟩
  · intro hpost
    simpa [headerFields] using hadm.post hpost

/-- **What is accepted is a well-formed head**, unless the request line is followed at once by the
blank line. -/
theorem HeadAccepted.exists_head {lineEnd headerEnd : ℕ} {method path : Bytes}
    {fields : HeaderFields}
    (h : HeadAccepted target config data lineEnd headerEnd method path fields)
    (hblank : headerEnd ≠ lineEnd + 2) :
    ∃ (head : RequestHead) (rest : Bytes), head.WellFormed ∧ head.Admissible target config ∧
      head.headers ≠ [] ∧ data = head.text ++ rest ∧ head.text.length = headerEnd + 4 ∧
      method = head.method ∧ path = head.path ∧ fields = headerFields target head.headers := by
  obtain ⟨line, afterLine, hline, -, hlineEnd⟩ := find_crlf_eq_some_iff.mp h.lineEnd_eq
  rw [Nat.zero_add] at hlineEnd
  rw [List.drop_zero] at hline
  obtain ⟨hle, hocc, hmin⟩ := (find_eq_some_iff blankLine_ne_nil).mp h.headerEnd_eq
  have hlineEnd_le : lineEnd ≤ data.length := by
    rw [hline, List.length_append]
    omega
  obtain ⟨version, htake, hmethod, hpath, hnoSpace, hversion⟩ :=
    (parseRequestLine_eq_ok_iff hlineEnd_le).mp h.requestLine
  obtain ⟨headers, afterHeaders, hheaders, hdrop, hlen, hread⟩ :=
    (headerLoop_eq_ok_iff headerEnd (by omega) ⟨hocc, hmin, Or.inl (by omega)⟩).mp h.headers
  obtain ⟨hacc, rfl⟩ := (readHeaders_eq_ok_iff target config headers).mp hread
  have hlineEq : line = method ++ byte ' ' :: (path ++ byte ' ' :: version) := by
    rw [← htake, hline, hlineEnd, List.take_left]
  -- The second break of the blank line follows the header lines.
  obtain ⟨rest, rfl⟩ : ∃ rest, afterHeaders = crlf ++ rest := by
    obtain ⟨rest, hrest⟩ := (occursAt_append_pattern.mp hocc).2
    refine ⟨rest, ?_⟩
    rw [hrest, show headerEnd + crlf.length = lineEnd + 2 + (headerLines headers).length from
      hlen.symm, drop_of_drop hdrop]
  have hafter : afterLine = headerLines headers ++ (crlf ++ rest) := by
    rw [← hdrop, hlineEnd, ← List.drop_drop]
    conv_rhs => rw [hline, List.drop_left]
    rfl
  let head : RequestHead := ⟨method, path, version, headers⟩
  have hrequestLine : head.requestLine = line := hlineEq.symm
  have hheadersEq : head.headers = headers := rfl
  have htext := head.length_text
  rw [hrequestLine, hheadersEq] at htext
  refine ⟨head, rest, ⟨hmethod, hpath, hnoSpace, hversion, hheaders⟩, ⟨?_, ?_, hacc, ?_⟩, ?_, ?_,
    by omega, rfl, rfl, rfl⟩
  · rw [hrequestLine, ← hlineEnd]
    exact h.lineEnd_le
  · have := h.headerEnd_le
    omega
  · intro hpost
    simpa [headerFields] using h.postLength hpost
  · intro hnil
    rw [← hheadersEq, hnil, headerLines_nil, List.length_nil] at hlen
    omega
  · rw [hline, hafter, RequestHead.text, hrequestLine, hheadersEq]
    simp only [List.append_assoc]

end Heads

end LegacyAlpha
