import LegacyAlphaRemote.Http.Parser

/-!
# What a list of headers means

The header loop reads one line after another and keeps four variables up to date.  Taken over the
whole list, what it computes can be said without the loop: the headers the program looks at are of
four kinds, and each variable is determined by the values of one kind.

* `Acceptable` — the condition on the values under which no header is refused.
* `headerFields` — what the variables are then.

`readHeaders_eq_ok_iff` is the agreement of the two with the loop's own way of reading.  It goes by
induction on the list from its end, which is where the loop stands.
-/

namespace LegacyAlpha

/-- A header line, cut at its first colon, before its value is trimmed. -/
structure Header where
  name : Bytes
  value : Bytes
  deriving DecidableEq, Repr

/-- The kinds of headers that the parser looks at, and one for all the others, whose values it
ignores. -/
inductive HeaderKind
  | ContentLength
  | TransferEncoding
  | Pin
  | ContentType
  | Other
  deriving DecidableEq, Repr

/-- The kind of a header, by its name in lower case, as the chain of comparisons in the loop finds it.
-/
def kindOf (name : Bytes) : HeaderKind :=
  if lower name == bytes "content-length" then .ContentLength
  else if lower name == bytes "transfer-encoding" then .TransferEncoding
  else if lower name == bytes "x-legacyalpha-pin" then .Pin
  else if lower name == bytes "content-type" then .ContentType
  else .Other

/-- The trimmed values of the headers of one kind, in their order.  A kind may come more than once. -/
def values (kind : HeaderKind) (headers : List Header) : List Bytes :=
  (headers.filter fun header => kindOf header.name = kind).map fun header => trim header.value

@[simp] lemma values_nil (kind : HeaderKind) : values kind [] = [] := rfl

lemma values_concat (kind : HeaderKind) (headers : List Header) (header : Header) :
    values kind (headers ++ [header]) =
      values kind headers ++ if kindOf header.name = kind then [trim header.value] else [] := by
  rw [values, List.filter_append, List.map_append, ← values]
  by_cases h : kindOf header.name = kind <;> simp [h]

lemma values_concat_of_eq {kind : HeaderKind} {header : Header} (h : kindOf header.name = kind)
    (headers : List Header) :
    values kind (headers ++ [header]) = values kind headers ++ [trim header.value] := by
  rw [values_concat, if_pos h]

lemma values_concat_of_ne {kind : HeaderKind} {header : Header} (h : kindOf header.name ≠ kind)
    (headers : List Header) : values kind (headers ++ [header]) = values kind headers := by
  rw [values_concat, if_neg h, List.append_nil]

/-! ## Reading the headers in turn -/

section Reading

variable (target : Target) (config : NativeConfig)

/-- The headers read one after the other, up to the first that is refused. -/
def readHeaders (fields : HeaderFields) : List Header → Except ParseError HeaderFields
  | [] => .ok fields
  | header :: headers =>
    match readHeader target config fields header.name (trim header.value) with
    | .error error => .error error
    | .ok fields => readHeaders fields headers

lemma readHeaders_cons_eq_ok_iff {fields result : HeaderFields} {header : Header}
    {headers : List Header} :
    readHeaders target config fields (header :: headers) = .ok result ↔
      ∃ next, readHeader target config fields header.name (trim header.value) = .ok next ∧
        readHeaders target config next headers = .ok result := by
  rw [readHeaders]
  cases readHeader target config fields header.name (trim header.value) <;> simp

lemma readHeaders_concat_eq_ok_iff {result : HeaderFields} {header : Header}
    (headers : List Header) : ∀ {fields : HeaderFields},
    readHeaders target config fields (headers ++ [header]) = .ok result ↔
      ∃ next, readHeaders target config fields headers = .ok next ∧
        readHeader target config next header.name (trim header.value) = .ok result := by
  induction headers with
  | nil =>
      intro fields
      rw [List.nil_append, readHeaders_cons_eq_ok_iff]
      simp [readHeaders]
  | cons first headers ih =>
      intro fields
      rw [List.cons_append, readHeaders_cons_eq_ok_iff]
      simp only [ih, readHeaders_cons_eq_ok_iff]
      constructor
      · rintro ⟨next, hfirst, last, hlast, hheader⟩
        exact ⟨last, ⟨next, hfirst, hlast⟩, hheader⟩
      · rintro ⟨last, ⟨next, hfirst, hlast⟩, hheader⟩
        exact ⟨next, hfirst, last, hlast, hheader⟩

end Reading

/-! ## The condition, and what is read under it -/

/-- The length the last of these values is read as, and zero when there is none. -/
def lengthOf (target : Target) (lengths : List Bytes) : ℕ :=
  (lengths.getLast?.bind (readLength target)).getD 0

/-- The `Content-Length` of a list of headers, zero when there is none: in an acceptable list all of
them name the same one. -/
def contentLength (target : Target) (headers : List Header) : ℕ :=
  lengthOf target (values .ContentLength headers)

/-- What the header loop leaves in its variables, said of the whole list: of each kind the last header
counts. -/
def headerFields (target : Target) (headers : List Header) : HeaderFields :=
  { pin := (values .Pin headers).getLast?.getD []
    contentType := lower ((values .ContentType headers).getLast?.getD [])
    haveLength := !(values .ContentLength headers).isEmpty
    contentLength := contentLength target headers }

/-- No header is refused: the lengths are numbers, the same number, and not too large; no transfer
encoding but the identity is asked for; and a PIN that is not empty is only followed by the same. -/
structure Acceptable (target : Target) (config : NativeConfig) (headers : List Header) : Prop where
  lengths : ∀ value ∈ values .ContentLength headers,
    readLength target value = some (contentLength target headers)
  length_le : contentLength target headers ≤ config.maxBody
  encodings : ∀ value ∈ values .TransferEncoding headers,
    value = [] ∨ lower value = bytes "identity"
  pins : (values .Pin headers).Pairwise fun earlier later => earlier = [] ∨ earlier = later

/-- What `readHeader` accepts, and what it makes of it, kind by kind.  A length must be that of an
earlier one, and a PIN that of an earlier one that is not empty. -/
def HeaderAccepted (target : Target) (config : NativeConfig) (fields : HeaderFields)
    (value : Bytes) (result : HeaderFields) : HeaderKind → Prop
  | .ContentLength =>
      ∃ n, readLength target value = some n ∧
        (fields.haveLength = true → n = fields.contentLength) ∧ n ≤ config.maxBody ∧
        result = { fields with contentLength := n, haveLength := true }
  | .TransferEncoding => (value = [] ∨ lower value = bytes "identity") ∧ result = fields
  | .Pin => (fields.pin = [] ∨ fields.pin = value) ∧ result = { fields with pin := value }
  | .ContentType => result = { fields with contentType := lower value }
  | .Other => result = fields

lemma readHeader_eq_ok_iff {target : Target} {config : NativeConfig} {fields result : HeaderFields}
    {name value : Bytes} :
    readHeader target config fields name value = .ok result ↔
      HeaderAccepted target config fields value result (kindOf name) := by
  unfold readHeader kindOf
  split_ifs with hlength hencoding hidentity hpin hpins htype
  · cases hread : readLength target value with
    | none => simp [HeaderAccepted, hread]
    | some n =>
        simp only [HeaderAccepted, hread, Option.some.injEq, exists_eq_left']
        split_ifs with hagree hmax
        · simp only [false_iff]
          rintro ⟨hsame, -⟩
          simp only [Bool.and_eq_true, bne_iff_ne] at hagree
          exact hagree.2 (hsame hagree.1)
        · simp only [false_iff]
          rintro ⟨-, hle, -⟩
          omega
        · have hsame : fields.haveLength = true → n = fields.contentLength := by
            simpa using hagree
          simp only [Except.ok.injEq]
          constructor
          · rintro rfl
            exact ⟨hsame, by omega, rfl⟩
          · rintro ⟨-, -, rfl⟩
            rfl
  · simp only [HeaderAccepted, false_iff]
    rintro ⟨hvalue, -⟩
    simp only [Bool.and_eq_true, Bool.not_eq_true', List.isEmpty_eq_false_iff, bne_iff_ne]
      at hidentity
    exact hvalue.elim hidentity.1 hidentity.2
  · have hvalue : value = [] ∨ lower value = bytes "identity" := by
      simpa [or_iff_not_imp_left] using hidentity
    simp only [HeaderAccepted, hvalue, true_and, Except.ok.injEq]
    exact eq_comm
  · simp only [HeaderAccepted, false_iff]
    rintro ⟨hvalue, -⟩
    simp only [Bool.and_eq_true, Bool.not_eq_true', List.isEmpty_eq_false_iff, bne_iff_ne]
      at hpins
    exact hvalue.elim hpins.1 hpins.2
  · have hvalue : fields.pin = [] ∨ fields.pin = value := by
      simpa [or_iff_not_imp_left] using hpins
    simp only [HeaderAccepted, hvalue, true_and, Except.ok.injEq]
    exact eq_comm
  · simp [HeaderAccepted, eq_comm]
  · simp [HeaderAccepted, eq_comm]

section Meaning

variable {target : Target} {config : NativeConfig} {headers : List Header} {header : Header}

lemma lengthOf_concat (target : Target) (lengths : List Bytes) (value : Bytes) :
    lengthOf target (lengths ++ [value]) = (readLength target value).getD 0 := by
  simp [lengthOf]

/-- Values that all read as one number have that number as their length. -/
lemma lengthOf_eq {lengths : List Bytes} {n : ℕ} (hne : lengths ≠ [])
    (h : ∀ value ∈ lengths, readLength target value = some n) : lengthOf target lengths = n := by
  obtain ⟨init, last, rfl⟩ := List.eq_nil_or_concat lengths |>.resolve_left hne
  rw [List.concat_eq_append, lengthOf_concat, h last (by simp)]
  rfl

/-- The last PIN decides for all of them. -/
lemma pairwise_pins_concat {pins : List Bytes} {value : Bytes}
    (hpins : pins.Pairwise fun earlier later => earlier = [] ∨ earlier = later) :
    (pins ++ [value]).Pairwise (fun earlier later => earlier = [] ∨ earlier = later) ↔
      pins.getLast?.getD [] = [] ∨ pins.getLast?.getD [] = value := by
  rw [List.pairwise_append]
  rcases List.eq_nil_or_concat pins with rfl | ⟨init, last, rfl⟩
  · simp
  · rw [List.concat_eq_append] at hpins ⊢
    obtain ⟨-, -, hlast⟩ := List.pairwise_append.mp hpins
    simp only [List.getLast?_append, List.getLast?_singleton, Option.some_or, Option.getD_some,
      List.mem_singleton, forall_eq, List.pairwise_singleton, true_and] at hlast ⊢
    constructor
    · exact fun h => h.2 last (by simp)
    · intro h
      refine ⟨hpins, fun earlier hearlier => ?_⟩
      rcases List.mem_append.mp hearlier with hinit | hsame
      · rcases hlast earlier hinit with hempty | rfl
        · exact Or.inl hempty
        · exact h
      · rw [List.mem_singleton.mp hsame]
        exact h

/-- The headers before an acceptable list's last one are acceptable. -/
lemma Acceptable.of_concat (h : Acceptable target config (headers ++ [header])) :
    Acceptable target config headers := by
  have hsub : ∀ kind, ∀ value ∈ values kind headers, value ∈ values kind (headers ++ [header]) := by
    intro kind value hvalue
    rw [values_concat]
    exact List.mem_append_left _ hvalue
  have hread : ∀ value ∈ values .ContentLength headers,
      readLength target value = some (contentLength target (headers ++ [header])) :=
    fun value hvalue => h.lengths value (hsub _ value hvalue)
  have hsame : values .ContentLength headers ≠ [] →
      contentLength target headers = contentLength target (headers ++ [header]) :=
    fun hne => lengthOf_eq hne hread
  refine ⟨fun value hvalue => ?_, ?_, fun value hvalue => h.encodings value (hsub _ value hvalue), ?_⟩
  · rw [hsame (List.ne_nil_of_mem hvalue)]
    exact hread value hvalue
  · by_cases hne : values .ContentLength headers = []
    · simp [contentLength, lengthOf, hne]
    · rw [hsame hne]
      exact h.length_le
  · have hpins := h.pins
    rw [values_concat] at hpins
    exact (List.pairwise_append.mp hpins).1

/-! A header of another kind changes nothing about the lengths, the encodings and the PINs. -/

lemma contentLength_concat (hkind : kindOf header.name ≠ .ContentLength) :
    contentLength target (headers ++ [header]) = contentLength target headers := by
  rw [contentLength, values_concat_of_ne hkind, ← contentLength]

lemma Acceptable.lengths_concat (hacc : Acceptable target config headers)
    (hkind : kindOf header.name ≠ .ContentLength) :
    ∀ value ∈ values .ContentLength (headers ++ [header]),
      readLength target value = some (contentLength target (headers ++ [header])) := by
  rw [contentLength_concat hkind, values_concat_of_ne hkind]
  exact hacc.lengths

lemma Acceptable.length_le_concat (hacc : Acceptable target config headers)
    (hkind : kindOf header.name ≠ .ContentLength) :
    contentLength target (headers ++ [header]) ≤ config.maxBody := by
  rw [contentLength_concat hkind]
  exact hacc.length_le

lemma Acceptable.encodings_concat (hacc : Acceptable target config headers)
    (hkind : kindOf header.name ≠ .TransferEncoding) :
    ∀ value ∈ values .TransferEncoding (headers ++ [header]),
      value = [] ∨ lower value = bytes "identity" := by
  rw [values_concat_of_ne hkind]
  exact hacc.encodings

lemma Acceptable.pins_concat (hacc : Acceptable target config headers)
    (hkind : kindOf header.name ≠ .Pin) :
    (values .Pin (headers ++ [header])).Pairwise
      fun earlier later => earlier = [] ∨ earlier = later := by
  rw [values_concat_of_ne hkind]
  exact hacc.pins

/-- One more header, after acceptable ones: `readHeader` accepts it exactly when the longer list is
acceptable, and makes the longer list's variables of the shorter one's. -/
lemma headerAccepted_iff (hacc : Acceptable target config headers) {result : HeaderFields} :
    HeaderAccepted target config (headerFields target headers) (trim header.value) result
        (kindOf header.name) ↔
      Acceptable target config (headers ++ [header]) ∧
        result = headerFields target (headers ++ [header]) := by
  cases hkind : kindOf header.name with
  | ContentLength =>
      have hvalues := values_concat_of_eq hkind headers
      have hlength : contentLength target (headers ++ [header]) =
          (readLength target (trim header.value)).getD 0 := by
        rw [contentLength, hvalues, lengthOf_concat]
      have hfields : headerFields target (headers ++ [header]) =
          { headerFields target headers with
            contentLength := contentLength target (headers ++ [header]), haveLength := true } := by
        simp [headerFields, values_concat, hkind]
      constructor
      · rintro ⟨n, hread, hsame, hle, rfl⟩
        have hn : contentLength target (headers ++ [header]) = n := by
          rw [hlength, hread]
          rfl
        refine ⟨⟨fun value hvalue => ?_, by rw [hn]; exact hle, ?_, ?_⟩, by rw [hfields, hn]⟩
        · rw [hvalues] at hvalue
          rw [hn]
          rcases List.mem_append.mp hvalue with hbefore | hlast
          · have hhave : (headerFields target headers).haveLength = true := by
              simpa [headerFields] using List.ne_nil_of_mem hbefore
            rw [hsame hhave]
            exact hacc.lengths value hbefore
          · rw [List.mem_singleton.mp hlast]
            exact hread
        · exact hacc.encodings_concat (by simp [hkind])
        · exact hacc.pins_concat (by simp [hkind])
      · rintro ⟨hacc', rfl⟩
        have hread := hacc'.lengths (trim header.value) (by rw [hvalues]; simp)
        refine ⟨_, hread, fun hhave => ?_, hacc'.length_le, hfields⟩
        have hne : values .ContentLength headers ≠ [] := by
          simpa [headerFields] using hhave
        obtain ⟨value, hvalue⟩ := List.exists_mem_of_ne_nil _ hne
        have hbefore := hacc.lengths value hvalue
        rw [hacc'.lengths value (by rw [hvalues]; exact List.mem_append_left _ hvalue)] at hbefore
        exact Option.some.inj hbefore
  | TransferEncoding =>
      have hfields : headerFields target (headers ++ [header]) = headerFields target headers := by
        simp [headerFields, contentLength, values_concat, hkind]
      have hencodings := values_concat_of_eq hkind headers
      rw [hfields]
      constructor
      · rintro ⟨hvalue, rfl⟩
        refine ⟨⟨?_, ?_, fun value hmem => ?_, ?_⟩, rfl⟩
        · exact hacc.lengths_concat (by simp [hkind])
        · exact hacc.length_le_concat (by simp [hkind])
        · rw [hencodings] at hmem
          rcases List.mem_append.mp hmem with hbefore | hlast
          · exact hacc.encodings value hbefore
          · rw [List.mem_singleton.mp hlast]
            exact hvalue
        · exact hacc.pins_concat (by simp [hkind])
      · rintro ⟨hacc', rfl⟩
        exact ⟨hacc'.encodings _ (by rw [hencodings]; simp), rfl⟩
  | Pin =>
      have hpins := values_concat_of_eq hkind headers
      have hfields : headerFields target (headers ++ [header]) =
          { headerFields target headers with pin := trim header.value } := by
        simp [headerFields, contentLength, values_concat, hkind]
      rw [hfields]
      constructor
      · rintro ⟨hvalue, rfl⟩
        refine ⟨⟨?_, ?_, ?_, ?_⟩, rfl⟩
        · exact hacc.lengths_concat (by simp [hkind])
        · exact hacc.length_le_concat (by simp [hkind])
        · exact hacc.encodings_concat (by simp [hkind])
        · rw [hpins]
          exact (pairwise_pins_concat hacc.pins).mpr hvalue
      · rintro ⟨hacc', rfl⟩
        have hlast := hacc'.pins
        rw [hpins] at hlast
        exact ⟨(pairwise_pins_concat hacc.pins).mp hlast, rfl⟩
  | ContentType =>
      have hfields : headerFields target (headers ++ [header]) =
          { headerFields target headers with contentType := lower (trim header.value) } := by
        simp [headerFields, contentLength, values_concat, hkind]
      rw [hfields]
      refine ⟨fun h => ⟨⟨?_, ?_, ?_, ?_⟩, h⟩, fun h => h.2⟩
      · exact hacc.lengths_concat (by simp [hkind])
      · exact hacc.length_le_concat (by simp [hkind])
      · exact hacc.encodings_concat (by simp [hkind])
      · exact hacc.pins_concat (by simp [hkind])
  | Other =>
      have hfields : headerFields target (headers ++ [header]) = headerFields target headers := by
        simp [headerFields, contentLength, values_concat, hkind]
      rw [hfields]
      refine ⟨fun h => ⟨⟨?_, ?_, ?_, ?_⟩, h⟩, fun h => h.2⟩
      · exact hacc.lengths_concat (by simp [hkind])
      · exact hacc.length_le_concat (by simp [hkind])
      · exact hacc.encodings_concat (by simp [hkind])
      · exact hacc.pins_concat (by simp [hkind])

/-- **The loop's reading and the list's meaning agree**: the loop goes through the headers with its
variables and compares each with the one before it, the list is acceptable as a whole. -/
theorem readHeaders_eq_ok_iff (target : Target) (config : NativeConfig) (headers : List Header) :
    ∀ {result : HeaderFields},
    readHeaders target config {} headers = .ok result ↔
      Acceptable target config headers ∧ result = headerFields target headers := by
  induction headers using List.reverseRecOn with
  | nil =>
      intro result
      have hnil : Acceptable target config [] :=
        ⟨by simp, by simp [contentLength, lengthOf], by simp, by simp⟩
      simp [readHeaders, hnil, headerFields, contentLength, lengthOf, eq_comm, lower]
  | append_singleton headers header ih =>
      intro result
      rw [readHeaders_concat_eq_ok_iff]
      constructor
      · rintro ⟨next, hnext, hheader⟩
        obtain ⟨hacc, rfl⟩ := ih.mp hnext
        exact (headerAccepted_iff hacc).mp (readHeader_eq_ok_iff.mp hheader)
      · rintro ⟨hacc, rfl⟩
        exact ⟨headerFields target headers, ih.mpr ⟨hacc.of_concat, rfl⟩,
          readHeader_eq_ok_iff.mpr ((headerAccepted_iff hacc.of_concat).mpr ⟨hacc, rfl⟩)⟩

end Meaning

end LegacyAlpha
