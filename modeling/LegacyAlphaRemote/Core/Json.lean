import LegacyAlphaRemote.Core.Bytes

/-!
# JSON

A reader of JSON texts (`Json.parse`), over bytes: a byte from `0x80` on is a character like any other,
and a `\u` escape stands for the UTF-8 bytes of its code unit.  A list of items, the elements of an
array or the members of an object, is read by one loop (`readItems`); what stands between braces is read
one level deeper.

The lemmas are for those who write JSON piece by piece: a text that reads as a string
(`ReadsAsString`), a text that reads as a value whatever follows it (`ReadsAs`), and an object whose
members are such texts (`parse_objectText`).
-/

namespace LegacyAlpha

/-- A JSON value.  A number is the rational that its text denotes, a string its bytes in UTF-8, and an
object keeps its members in the order of the text, with repetitions. -/
inductive Json
  | null
  | bool (b : Bool)
  | num (q : ℚ)
  | str (s : Bytes)
  | arr (items : List Json)
  | obj (members : List (Bytes × Json))

namespace Json

/-! ## The reader -/

/-- JSON white space: the blank, the tab and the two ends of a line, and nothing else. -/
def isWhite (c : UInt8) : Bool := c == byte ' ' || c == 0x09 || c == 0x0a || c == 0x0d

/-- The text behind the white space at its beginning. -/
def skip (input : Bytes) : Bytes := input.dropWhile isWhite

/-- The value of a hexadecimal digit of either case, and nothing for any other character. -/
def hexValue (c : UInt8) : Option ℕ :=
  if isdigit c then some (c.toNat - 48)
  else if byte 'a' ≤ c && c ≤ byte 'f' then some (c.toNat - 87)
  else if byte 'A' ≤ c && c ≤ byte 'F' then some (c.toNat - 55)
  else none

/-- The UTF-8 bytes of a code unit.  The two halves of a surrogate pair are not put together, as
nothing that is read here writes one. -/
def unitBytes (n : ℕ) : Bytes :=
  if n < 0x80 then [n.toUInt8]
  else if n < 0x800 then [(0xc0 + n / 0x40).toUInt8, (0x80 + n % 0x40).toUInt8]
  else [(0xe0 + n / 0x1000).toUInt8, (0x80 + n / 0x40 % 0x40).toUInt8, (0x80 + n % 0x40).toUInt8]

/-- The character that a short escape stands for, by the letter behind the backslash.  A solidus may
be escaped, and need not be. -/
def shortEscape (e : UInt8) : Option UInt8 :=
  if e == byte '"' || e == byte '\\' || e == byte '/' then some e
  else if e == byte 'b' then some 0x08
  else if e == byte 'f' then some 0x0c
  else if e == byte 'n' then some 0x0a
  else if e == byte 'r' then some 0x0d
  else if e == byte 't' then some 0x09
  else none

/-- An escape behind its backslash: what it stands for, and how many bytes it takes. -/
def readEscape : Bytes → Option (Bytes × ℕ)
  | [] => none
  | e :: rest =>
    if e == byte 'u' then
      match rest with
      | a :: b :: c :: d :: _ =>
        match hexValue a, hexValue b, hexValue c, hexValue d with
        | some a, some b, some c, some d =>
          some (unitBytes (((a * 16 + b) * 16 + c) * 16 + d), 5)
        | _, _, _, _ => none
      | _ => none
    else (shortEscape e).map fun x => ([x], 1)

/-- A string behind its opening quote: its value, and the text behind the closing one.  A control
character must be escaped.  The first argument counts the characters down. -/
def readString : ℕ → Bytes → Option (Bytes × Bytes)
  | 0, _ => none
  | _, [] => none
  | left + 1, c :: rest =>
    if c == byte '"' then some ([], rest)
    else if c < 0x20 then none
    else if c == byte '\\' then
      match readEscape rest with
      | none => none
      | some (x, count) =>
        (readString left (rest.drop count)).map fun (value, rest) => (x ++ value, rest)
    else (readString left rest).map fun (value, rest) => (c :: value, rest)

/-- The number that decimal digits denote, the first digit counting most. -/
def digitsValue (digits : Bytes) : ℕ := digits.foldl (fun n c => 10 * n + (c.toNat - 48)) 0

/-- The whole part of a number.  There must be a digit, and no zero before another one. -/
def readDigits (input : Bytes) : Option (Bytes × Bytes) :=
  let digits := input.takeWhile isdigit
  if digits.isEmpty || (digits.head? == some (byte '0') && digits.length > 1) then none
  else some (digits, input.dropWhile isdigit)

/-- The digits behind the point, if there is one, and the fraction that they denote.  A point must be
followed by a digit. -/
def readFraction (input : Bytes) : Option (ℚ × Bytes) :=
  match input with
  | c :: rest =>
    if c == byte '.' then
      let digits := rest.takeWhile isdigit
      if digits.isEmpty then none
      else some ((digitsValue digits : ℚ) / 10 ^ digits.length, rest.dropWhile isdigit)
    else some (0, input)
  | [] => some (0, [])

/-- The power of ten that a number is multiplied by, if there is one: `e` or `E`, a sign or none, and
at least one digit. -/
def readExponent (input : Bytes) : Option (ℤ × Bytes) :=
  match input with
  | c :: rest =>
    if c == byte 'e' || c == byte 'E' then
      let negative := rest.head? == some (byte '-')
      let rest := if negative || rest.head? == some (byte '+') then rest.tail else rest
      let digits := rest.takeWhile isdigit
      if digits.isEmpty then none
      else some (if negative then -(digitsValue digits : ℤ) else digitsValue digits,
        rest.dropWhile isdigit)
    else some (0, input)
  | [] => some (0, [])

/-- A number: a minus sign or none, the whole part, and then perhaps a fraction and an exponent. -/
def readNumber (input : Bytes) : Option (ℚ × Bytes) :=
  let negative := input.head? == some (byte '-')
  match readDigits (if negative then input.tail else input) with
  | none => none
  | some (digits, rest) =>
    match readFraction rest with
    | none => none
    | some (fraction, rest) =>
      match readExponent rest with
      | none => none
      | some (exponent, rest) =>
        let magnitude := ((digitsValue digits : ℚ) + fraction) * 10 ^ exponent
        some (if negative then -magnitude else magnitude, rest)

/-- A word such as `true`, and the text behind it, if the text begins with it. -/
def readWord (word : Bytes) (input : Bytes) : Option Bytes :=
  if word.isPrefixOf input then some (input.drop word.length) else none

/-- Items with commas between them, up to the closing character.  The empty list is not read here,
since it has no first item; the counter bounds the number of items. -/
def readItems {α : Type} (item : Bytes → Option (α × Bytes)) (close : UInt8) :
    ℕ → Bytes → Option (List α × Bytes)
  | 0, _ => none
  | left + 1, input =>
    match item input with
    | none => none
    | some (x, rest) =>
      match skip rest with
      | [] => none
      | c :: rest =>
        if c == close then some ([x], rest)
        else if c == byte ',' then
          (readItems item close left rest).map fun (xs, rest) => (x :: xs, rest)
        else none

/-- A member of an object: a key, a colon and a value, with white space before each of them.  The
reader of values is a parameter, because it reads members itself. -/
def readMember (value : Bytes → Option (Json × Bytes)) (input : Bytes) :
    Option ((Bytes × Json) × Bytes) :=
  match skip input with
  | [] => none
  | c :: rest =>
    if c != byte '"' then none
    else
      match readString rest.length rest with
      | none => none
      | some (key, rest) =>
        match skip rest with
        | [] => none
        | c :: rest =>
          if c != byte ':' then none
          else (value rest).map fun (v, rest) => ((key, v), rest)

/-- A value, with so many levels of brackets at most.  A text is never nested deeper than it is long,
so that its length is always enough for `parse`. -/
def readValue : ℕ → Bytes → Option (Json × Bytes)
  | 0, _ => none
  | depth + 1, input =>
    match skip input with
    | [] => none
    | c :: rest =>
      if c == byte '"' then
        (readString rest.length rest).map fun (s, rest) => (.str s, rest)
      else if c == byte '\x7b' then
        if (skip rest).head? == some (byte '\x7d') then some (.obj [], (skip rest).tail)
        else (readItems (readMember (readValue depth)) (byte '\x7d') rest.length rest).map
          fun (members, rest) => (.obj members, rest)
      else if c == byte '[' then
        if (skip rest).head? == some (byte ']') then some (.arr [], (skip rest).tail)
        else (readItems (readValue depth) (byte ']') rest.length rest).map
          fun (items, rest) => (.arr items, rest)
      else if c == byte 't' then
        (readWord (bytes "true") (c :: rest)).map fun rest => (.bool true, rest)
      else if c == byte 'f' then
        (readWord (bytes "false") (c :: rest)).map fun rest => (.bool false, rest)
      else if c == byte 'n' then
        (readWord (bytes "null") (c :: rest)).map fun rest => (.null, rest)
      else (readNumber (c :: rest)).map fun (q, rest) => (.num q, rest)

/-- A JSON text: one value, and nothing but white space around it.  This is what `JSON.parse` accepts.
-/
def parse (input : Bytes) : Option Json :=
  match readValue input.length input with
  | none => none
  | some (v, rest) => if skip rest = [] then some v else none

/-! ## Texts that are read -/

/-- Behind an opening quote and before a closing one, the text is read as this string. -/
def ReadsAsString (text value : Bytes) : Prop :=
  ∀ (left : ℕ) (rest : Bytes), text.length < left →
    readString left (text ++ byte '"' :: rest) = some (value, rest)

/-- A number would not go on here, so that the digits before this text are read as a number of their
own. -/
def Ends (rest : Bytes) : Prop :=
  ∀ c ∈ rest.head?, isdigit c = false ∧ c ≠ byte '.' ∧ c ≠ byte 'e' ∧ c ≠ byte 'E'

/-- The text is read as this value, whatever follows it, as long as a number at its end would not go
on there. -/
def ReadsAs (text : Bytes) (value : Json) : Prop :=
  ∀ (depth : ℕ) (rest : Bytes), Ends rest →
    readValue (depth + 1) (text ++ rest) = some (value, rest)

variable {text value rest : Bytes} {c : UInt8}

lemma skip_cons (h : isWhite c = false) (rest : Bytes) : skip (c :: rest) = c :: rest :=
  List.dropWhile_cons_of_neg (by simp [h])

lemma ReadsAsString.nil : ReadsAsString [] [] := by
  intro left rest hleft
  obtain ⟨left, rfl⟩ := Nat.exists_eq_add_of_le' (Nat.succ_le_of_lt hleft)
  simp [readString]

/-- A character that stands for itself: no quote, no backslash and no control character. -/
lemma ReadsAsString.plain (hquote : c ≠ byte '"') (hbackslash : c ≠ byte '\\') (hcontrol : 0x20 ≤ c)
    (h : ReadsAsString text value) : ReadsAsString (c :: text) (c :: value) := by
  intro left rest hleft
  obtain ⟨left, rfl⟩ := Nat.exists_eq_add_of_le' (Nat.succ_le_of_lt (Nat.zero_lt_of_lt hleft))
  have hrest := h left rest (by simpa using hleft)
  rw [List.cons_append, readString, if_neg (by simpa using hquote),
    if_neg (UInt8.not_lt.mpr hcontrol), if_neg (by simpa using hbackslash), hrest]
  rfl

/-- An escape of one letter is looked up in the table of short escapes. -/
lemma readEscape_cons {e : UInt8} (he : e ≠ byte 'u') (rest : Bytes) :
    readEscape (e :: rest) = (shortEscape e).map fun x => ([x], 1) := if_neg (by simpa using he)

/-- An escape, whatever its length, that is read as `x` and leaves the rest of the string to be read.
-/
lemma ReadsAsString.escape {code x : Bytes}
    (hcode : ∀ rest, readEscape (code ++ rest) = some (x, code.length))
    (h : ReadsAsString text value) :
    ReadsAsString (byte '\\' :: (code ++ text)) (x ++ value) := by
  intro left rest hleft
  obtain ⟨left, rfl⟩ := Nat.exists_eq_add_of_le' (Nat.succ_le_of_lt (Nat.zero_lt_of_lt hleft))
  have hlength : text.length < left := by
    simp at hleft
    omega
  have hrest := h left rest hlength
  rw [List.cons_append, readString, if_neg (by decide), if_neg (by decide),
    if_pos (beq_self_eq_true _), List.append_assoc, hcode]
  dsimp only
  rw [List.drop_left, hrest]
  rfl

/-- A string between its quotes is a value, and ends at its closing quote. -/
lemma readValue_str (h : ReadsAsString text value) (depth : ℕ) (rest : Bytes) :
    readValue (depth + 1) (byte '"' :: (text ++ [byte '"']) ++ rest) = some (.str value, rest) := by
  have hstring := h (text ++ byte '"' :: rest).length rest (by simp)
  rw [List.cons_append, List.append_assoc, List.singleton_append, readValue,
    skip_cons (by decide)]
  dsimp only
  rw [if_pos (beq_self_eq_true _), hstring]
  rfl

lemma readsAs_str (h : ReadsAsString text value) :
    ReadsAs (byte '"' :: (text ++ [byte '"'])) (.str value) :=
  fun depth rest _ => readValue_str h depth rest

lemma readWord_append (word rest : Bytes) : readWord word (word ++ rest) = some rest := by
  rw [readWord, if_pos (List.isPrefixOf_iff_prefix.mpr (List.prefix_append _ _)), List.drop_left]

lemma readsAs_bool (b : Bool) : ReadsAs (bytes (if b then "true" else "false")) (.bool b) := by
  intro depth rest _
  cases b with
  | true =>
      have hcons : bytes (if true then "true" else "false") ++ rest =
          byte 't' :: (bytes "rue" ++ rest) := rfl
      have hword : readWord (bytes "true") (byte 't' :: (bytes "rue" ++ rest)) = some rest :=
        readWord_append (bytes "true") rest
      rw [hcons, readValue, skip_cons (by decide)]
      dsimp only
      rw [if_neg (by decide), if_neg (by decide), if_neg (by decide), if_pos (by decide), hword]
      rfl
  | false =>
      have hcons : bytes (if false then "true" else "false") ++ rest =
          byte 'f' :: (bytes "alse" ++ rest) := rfl
      have hword : readWord (bytes "false") (byte 'f' :: (bytes "alse" ++ rest)) = some rest :=
        readWord_append (bytes "false") rest
      rw [hcons, readValue, skip_cons (by decide)]
      dsimp only
      rw [if_neg (by decide), if_neg (by decide), if_neg (by decide), if_neg (by decide),
        if_pos (by decide), hword]
      rfl

/-! ## Numbers -/

/-- The digits of a number, without a zero that is not needed: what `readDigits` takes. -/
structure IsNumeral (digits : Bytes) : Prop where
  ne_nil : digits ≠ []
  all_digits : ∀ c ∈ digits, isdigit c = true
  no_zero : digits.head? = some (byte '0') → digits.length = 1

lemma readDigits_append {digits : Bytes} (h : IsNumeral digits) (hends : Ends rest) :
    readDigits (digits ++ rest) = some (digits, rest) := by
  have hnext : ∀ c ∈ rest.head?, ¬ isdigit c = true := fun c hc => by simp [(hends c hc).1]
  have htake : (digits ++ rest).takeWhile isdigit = digits := by
    rw [List.takeWhile_append_of_pos h.all_digits]
    cases rest with
    | nil => simp
    | cons c rest => rw [List.takeWhile_cons_of_neg (hnext c rfl), List.append_nil]
  have hdrop : (digits ++ rest).dropWhile isdigit = rest := by
    rw [List.dropWhile_append_of_pos h.all_digits]
    cases rest with
    | nil => rfl
    | cons c rest => rw [List.dropWhile_cons_of_neg (hnext c rfl)]
  have hnumeral : ¬ (digits.isEmpty ||
      (digits.head? == some (byte '0') && decide (digits.length > 1))) = true := by
    have hzero := h.no_zero
    simp [h.ne_nil]
    intro hhead
    exact (hzero hhead).le
  rw [readDigits, htake, hdrop]
  exact if_neg hnumeral

/-- How a number begins, and that nothing else does. -/
lemma number_head (h : c = byte '-' ∨ isdigit c = true) :
    isWhite c = false ∧ c ≠ byte '"' ∧ c ≠ byte '\x7b' ∧ c ≠ byte '[' ∧ c ≠ byte 't' ∧
      c ≠ byte 'f' ∧ c ≠ byte 'n' := by
  have hall : ∀ n : Fin 256, UInt8.ofFin n = byte '-' ∨ isdigit (.ofFin n) = true →
      isWhite (.ofFin n) = false ∧ UInt8.ofFin n ≠ byte '"' ∧ UInt8.ofFin n ≠ byte '\x7b' ∧
        UInt8.ofFin n ≠ byte '[' ∧ UInt8.ofFin n ≠ byte 't' ∧ UInt8.ofFin n ≠ byte 'f' ∧
        UInt8.ofFin n ≠ byte 'n' := by
    decide +kernel
  exact hall c.toFin h

lemma readNumber_append {digits : Bytes} (negative : Bool) (h : IsNumeral digits)
    (hends : Ends rest) :
    readNumber ((if negative then [byte '-'] else []) ++ digits ++ rest) =
      some (if negative then -(digitsValue digits : ℚ) else digitsValue digits, rest) := by
  have hdigits := readDigits_append h hends
  have hfraction : readFraction rest = some (0, rest) := by
    cases rest with
    | nil => rfl
    | cons c rest => exact if_neg (by simpa using (hends c rfl).2.1)
  have hexponent : readExponent rest = some (0, rest) := by
    cases rest with
    | nil => rfl
    | cons c rest => exact if_neg (by simpa using (hends c rfl).2.2)
  have hmagnitude : ((digitsValue digits : ℚ) + 0) * 10 ^ (0 : ℤ) = digitsValue digits := by simp
  cases negative with
  | true =>
      have hcons : (if true then [byte '-'] else []) ++ digits ++ rest =
          byte '-' :: (digits ++ rest) := rfl
      have hnegative : ((byte '-' :: (digits ++ rest)).head? == some (byte '-')) = true := by simp
      rw [hcons, readNumber]
      dsimp only
      rw [hnegative, if_pos rfl, List.tail_cons, hdigits]
      dsimp only
      rw [hfraction]
      dsimp only
      rw [hexponent]
      dsimp only
      rw [hmagnitude]
  | false =>
      have hnil : (if false then [byte '-'] else []) ++ digits ++ rest = digits ++ rest := rfl
      have hnegative : ((digits ++ rest).head? == some (byte '-')) = false := by
        obtain ⟨d, t, rfl⟩ := List.exists_cons_of_ne_nil h.ne_nil
        have hd := h.all_digits d List.mem_cons_self
        have hminus : d ≠ byte '-' := by
          rintro rfl
          exact absurd hd (by decide)
        simpa using hminus
      rw [hnil, readNumber]
      dsimp only
      rw [hnegative, if_neg Bool.false_ne_true, hdigits]
      dsimp only
      rw [hfraction]
      dsimp only
      rw [hexponent]
      dsimp only
      rw [hmagnitude]

/-- An integer is read as the number it denotes. -/
lemma readsAs_num {digits : Bytes} (negative : Bool) (h : IsNumeral digits) :
    ReadsAs ((if negative then [byte '-'] else []) ++ digits)
      (.num (if negative then -(digitsValue digits : ℚ) else digitsValue digits)) := by
  intro depth rest hends
  have hnumber := readNumber_append negative h hends
  have hhead : ∃ c t, (if negative then [byte '-'] else []) ++ digits = c :: t ∧
      (c = byte '-' ∨ isdigit c = true) := by
    cases negative with
    | true => exact ⟨byte '-', digits, rfl, Or.inl rfl⟩
    | false =>
        obtain ⟨d, t, rfl⟩ := List.exists_cons_of_ne_nil h.ne_nil
        exact ⟨d, t, rfl, Or.inr (h.all_digits d List.mem_cons_self)⟩
  obtain ⟨c, t, hcons, hc⟩ := hhead
  obtain ⟨hwhite, hquote, hbrace, hbracket, ht, hf, hn⟩ := number_head hc
  rw [hcons] at hnumber ⊢
  rw [List.cons_append] at hnumber ⊢
  rw [readValue, skip_cons hwhite]
  dsimp only
  rw [if_neg (by simpa using hquote), if_neg (by simpa using hbrace),
    if_neg (by simpa using hbracket), if_neg (by simpa using ht), if_neg (by simpa using hf),
    if_neg (by simpa using hn), hnumber]
  rfl

/-! ## Objects -/

/-- A member of an object that is written piece by piece: the text of its key and of its value, what
they stand for, and the proofs that they are read as that. -/
structure Field where
  keyText : Bytes
  key : Bytes
  text : Bytes
  value : Json
  key_reads : ReadsAsString keyText key
  value_reads : ReadsAs text value

/-- The text of the member: the key in quotes, a colon, and the text of the value, without white
space. -/
def Field.member (f : Field) : Bytes := byte '"' :: (f.keyText ++ byte '"' :: byte ':' :: f.text)

/-- The members behind an opening brace, with commas between them, up to the closing brace. -/
def membersText : List Field → Bytes
  | [] => [byte '\x7d']
  | [f] => f.member ++ [byte '\x7d']
  | f :: fs => f.member ++ byte ',' :: membersText fs

lemma membersText_cons (f g : Field) (fs : List Field) :
    membersText (f :: g :: fs) = f.member ++ byte ',' :: membersText (g :: fs) := rfl

/-- The text of the object with these members, in this order and without white space. -/
def objectText (fs : List Field) : Bytes := byte '\x7b' :: membersText fs

/-- What the text of these members is read as: the object of their keys and values in the same order.
-/
def objectOf (fs : List Field) : Json := .obj (fs.map fun f => (f.key, f.value))

lemma ends_comma (rest : Bytes) : Ends (byte ',' :: rest) := by
  intro c hc
  obtain rfl : byte ',' = c := Option.some.inj hc
  decide

lemma ends_closing (rest : Bytes) : Ends (byte '\x7d' :: rest) := by
  intro c hc
  obtain rfl : byte '\x7d' = c := Option.some.inj hc
  decide

lemma readMember_append (f : Field) (depth : ℕ) (hends : Ends rest) :
    readMember (readValue (depth + 1)) (f.member ++ rest) = some ((f.key, f.value), rest) := by
  have hkey := f.key_reads (f.keyText ++ byte '"' :: (byte ':' :: (f.text ++ rest))).length
    (byte ':' :: (f.text ++ rest)) (by simp)
  have hvalue := f.value_reads depth rest hends
  have hmember : f.member ++ rest =
      byte '"' :: (f.keyText ++ byte '"' :: (byte ':' :: (f.text ++ rest))) := by
    simp [Field.member]
  rw [hmember, readMember, skip_cons (by decide)]
  dsimp only
  rw [if_neg (by decide), hkey]
  dsimp only
  rw [skip_cons (by decide)]
  dsimp only
  rw [if_neg (by decide), hvalue]
  rfl

lemma readItems_membersText (depth : ℕ) (rest : Bytes) (fs : List Field) : ∀ left : ℕ,
    fs ≠ [] → fs.length ≤ left →
    readItems (readMember (readValue (depth + 1))) (byte '\x7d') left (membersText fs ++ rest) =
      some (fs.map fun f => (f.key, f.value), rest) := by
  induction fs with
  | nil => exact fun _ h => absurd rfl h
  | cons f fs ih =>
      intro left _ hleft
      obtain ⟨left, rfl⟩ := Nat.exists_eq_add_of_le' (Nat.succ_le_of_lt (Nat.lt_of_lt_of_le
        (Nat.succ_pos _) hleft))
      cases fs with
      | nil =>
          have hread := readMember_append f depth (ends_closing rest)
          rw [membersText, List.append_assoc, List.singleton_append, readItems, hread]
          dsimp only
          rw [skip_cons (by decide)]
          dsimp only
          rw [if_pos (beq_self_eq_true _)]
          rfl
      | cons g gs =>
          have hread := readMember_append f depth (ends_comma (membersText (g :: gs) ++ rest))
          have hrest := ih left (List.cons_ne_nil g gs) (Nat.le_of_succ_le_succ hleft)
          rw [membersText_cons, List.append_assoc, List.cons_append, readItems, hread]
          dsimp only
          rw [skip_cons (by decide)]
          dsimp only
          rw [if_neg (by decide), if_pos (beq_self_eq_true _), hrest]
          rfl

lemma length_le_membersText (fs : List Field) : fs.length ≤ (membersText fs).length := by
  induction fs with
  | nil => exact Nat.zero_le _
  | cons f fs ih =>
      cases fs with
      | nil => simp [membersText]
      | cons g gs =>
          simp only [membersText_cons, List.length_append, List.length_cons] at ih ⊢
          omega

/-- An object that is written piece by piece is read as the object it is meant to be. -/
lemma readValue_objectText {fs : List Field} (hne : fs ≠ []) (depth : ℕ) (rest : Bytes) :
    readValue (depth + 2) (objectText fs ++ rest) = some (objectOf fs, rest) := by
  have hitems := readItems_membersText depth rest fs (membersText fs ++ rest).length hne
    (by
      have hle := length_le_membersText fs
      rw [List.length_append]
      omega)
  have hquote : ∃ t, membersText fs ++ rest = byte '"' :: t := by
    obtain ⟨f, fs, rfl⟩ := List.exists_cons_of_ne_nil hne
    cases fs with
    | nil => exact ⟨_, rfl⟩
    | cons g gs => exact ⟨_, rfl⟩
  obtain ⟨t, ht⟩ := hquote
  rw [objectText, List.cons_append, readValue, skip_cons (by decide)]
  dsimp only
  have hopen : ¬ ((skip (membersText fs ++ rest)).head? == some (byte '\x7d')) = true := by
    rw [ht, skip_cons (by decide)]
    exact Bool.noConfusion
  rw [if_neg (by decide), if_pos (beq_self_eq_true _), if_neg hopen, hitems]
  rfl

/-- **An object that is written piece by piece** is one JSON text, and has the members it was given. -/
theorem parse_objectText {fs : List Field} (hne : fs ≠ []) :
    parse (objectText fs) = some (objectOf fs) := by
  have hlength : 2 ≤ (objectText fs).length := by
    have hle := length_le_membersText fs
    have hpos := List.length_pos_iff.mpr hne
    rw [objectText, List.length_cons]
    omega
  obtain ⟨depth, hdepth⟩ := Nat.exists_eq_add_of_le' hlength
  have hread := readValue_objectText hne depth []
  rw [List.append_nil] at hread
  rw [parse, hdepth, hread]
  rfl

end Json

end LegacyAlpha
