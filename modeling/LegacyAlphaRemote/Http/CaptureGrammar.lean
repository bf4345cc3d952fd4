import LegacyAlphaRemote.Http.Json
import LegacyAlphaRemote.Http.Messages

/-!
# The language of capture requests

What a capture request may look like, apart from how it is read.  Every rule relates the text before
it to the text it leaves (`Token`, `ReadsString`, `ReadsInteger`, `Member.Reads`), and white space may
stand before every token.  The literal of `delay_ms` is kept as it is written.

Each method of `JsonCursor` is one rule: it succeeds exactly where the rule applies, and stands behind
it then (`take_iff`, `stringValue_iff`, `integerValue_iff`, `boolValue_iff`).  The rules are
unambiguous, since a token ends where it ends whatever follows.
-/

namespace LegacyAlpha

/-! ## The rules -/

/-- Behind the opening quote of a string: the text up to the closing one, and what it stands for. -/
inductive Spells : Bytes → Bytes → Prop
  | nil : Spells [] []
  | plain {c : UInt8} {text value : Bytes} (hquote : c ≠ byte '"') (hbackslash : c ≠ byte '\\')
      (hcontrol : 0x20 ≤ c) (h : Spells text value) : Spells (c :: text) (c :: value)
  | escape {e x : UInt8} {text value : Bytes} (hescape : JsonCursor.unescape e = some x)
      (h : Spells text value) : Spells (byte '\\' :: e :: text) (x :: value)

/-- An integer: a minus sign or none, and digits.  Zeros may stand before it. -/
def IsInteger (literal : Bytes) : Prop :=
  ∃ sign digits, (sign = [] ∨ sign = [byte '-']) ∧ digits ≠ [] ∧
    (∀ c ∈ digits, isdigit c = true) ∧ literal = sign ++ digits

/-- The number it denotes, of any size. -/
def integerOf (literal : Bytes) : ℤ :=
  if literal.head? = some (byte '-') then -(decimal literal.tail : ℤ) else decimal literal

/-- White space, and then the token; what comes behind it is the rest. -/
def Token (token input rest : Bytes) : Prop :=
  ∃ space : Bytes, (∀ c ∈ space, isspace c = true) ∧ input = space ++ token ++ rest

/-- A string with this value, in quotes, in one of the ways to spell it. -/
def ReadsString (value input rest : Bytes) : Prop :=
  ∃ text, Spells text value ∧ Token (byte '"' :: text ++ [byte '"']) input rest

/-- This integer, to its last digit: the rest does not begin with another one. -/
def ReadsInteger (literal input rest : Bytes) : Prop :=
  IsInteger literal ∧ Token literal input rest ∧ ∀ c ∈ rest.head?, isdigit c = false

/-- The word `true` or `false`, with anything behind it. -/
def ReadsFlag (flag : Bool) (input rest : Bytes) : Prop :=
  Token (bytes (if flag then "true" else "false")) input rest

/-- A member of the object, with the value that its text stands for; of the number the text itself is
kept. -/
inductive Member
  | RequestId (id : Bytes)
  | DelayMs (literal : Bytes)
  | Autofocus (flag : Bool)
  deriving DecidableEq, Repr

namespace Member

/-- The key of the member, as it stands in the body. -/
def key : Member → Bytes
  | RequestId _ => bytes "request_id"
  | DelayMs _ => bytes "delay_ms"
  | Autofocus _ => bytes "autofocus"

/-- The value of the member, each by the rule of its own type. -/
def ReadsValue : Member → Bytes → Bytes → Prop
  | RequestId id => ReadsString id
  | DelayMs literal => ReadsInteger literal
  | Autofocus flag => ReadsFlag flag

/-- A member in the text: the key, a colon, and the value, with white space before each of them. -/
def Reads (m : Member) (input rest : Bytes) : Prop :=
  ∃ afterKey afterColon, ReadsString m.key input afterKey ∧
    Token [byte ':'] afterKey afterColon ∧ m.ReadsValue afterColon rest

end Member

/-- Members with commas between them, and the closing brace behind the last.  There is at least one.
-/
inductive ReadsMembers : List Member → Bytes → Bytes → Prop
  | last {m : Member} {input behind rest : Bytes} (hmember : m.Reads input behind)
      (hclose : Token [byte '\x7d'] behind rest) : ReadsMembers [m] input rest
  | cons {m : Member} {ms : List Member} {input behind next rest : Bytes}
      (hmember : m.Reads input behind) (hcomma : Token [byte ','] behind next)
      (hmore : ReadsMembers ms next rest) : ReadsMembers (m :: ms) input rest

/-- An object with these members, and nothing but white space behind it. -/
def ReadsObject (ms : List Member) (body : Bytes) : Prop :=
  ∃ inside behind, Token [byte '\x7b'] body inside ∧ ReadsMembers ms inside behind ∧
    ∀ c ∈ behind, isspace c = true

/-- The body of a capture request: an object with the three members, each of them once and in any
order. -/
def ReadsCapture (id literal : Bytes) (flag : Bool) (body : Bytes) : Prop :=
  ∃ ms, ms.Perm [.RequestId id, .DelayMs literal, .Autofocus flag] ∧ ReadsObject ms body

/-! ## Tokens -/

variable {token input rest : Bytes} {c : UInt8}

/-- Where a token does not begin with white space, there is one way to read it. -/
lemma token_iff (htoken : ∃ c t, token = c :: t ∧ isspace c = false) :
    Token token input rest ↔ input.dropWhile isspace = token ++ rest := by
  obtain ⟨c, t, rfl, hc⟩ := htoken
  constructor
  · rintro ⟨space, hspace, rfl⟩
    rw [List.append_assoc, List.dropWhile_append_of_pos hspace, List.cons_append,
      List.dropWhile_cons_of_neg (by simp [hc])]
  · intro h
    refine ⟨input.takeWhile isspace, fun x hx => List.mem_takeWhile_imp hx, ?_⟩
    rw [List.append_assoc, ← h, List.takeWhile_append_dropWhile]

lemma token_singleton_iff (hc : isspace c = false) :
    Token [c] input rest ↔ input.dropWhile isspace = c :: rest :=
  token_iff ⟨c, [], rfl, hc⟩

lemma readsString_iff {value : Bytes} : ReadsString value input rest ↔
    ∃ text, Spells text value ∧
      input.dropWhile isspace = byte '"' :: (text ++ byte '"' :: rest) := by
  refine exists_congr fun text => and_congr_right fun _ => ?_
  rw [token_iff ⟨byte '"', _, List.cons_append, by decide⟩]
  simp

lemma readsFlag_iff {flag : Bool} : ReadsFlag flag input rest ↔
    input.dropWhile isspace = bytes (if flag then "true" else "false") ++ rest := by
  refine token_iff ?_
  cases flag
  · exact ⟨byte 'f', bytes "alse", rfl, by decide⟩
  · exact ⟨byte 't', bytes "rue", rfl, by decide⟩

/-- An integer begins with its sign or a digit, and neither is white space. -/
lemma IsInteger.head {literal : Bytes} (h : IsInteger literal) :
    ∃ c t, literal = c :: t ∧ isspace c = false := by
  obtain ⟨sign, digits, hsign, hne, hdigits, rfl⟩ := h
  rcases hsign with rfl | rfl
  · obtain ⟨c, t, rfl⟩ := List.exists_cons_of_ne_nil hne
    exact ⟨c, t, rfl, (isdigit_ne (hdigits c List.mem_cons_self)).1⟩
  · exact ⟨byte '-', digits, rfl, by decide⟩

/-- White space that has been skipped need not be skipped again. -/
lemma token_singleton_dropWhile (hc : isspace c = false) :
    Token [c] (input.dropWhile isspace) rest ↔ Token [c] input rest := by
  rw [token_singleton_iff hc, token_singleton_iff hc, List.dropWhile_idempotent]

lemma Member.reads_dropWhile {m : Member} :
    m.Reads (input.dropWhile isspace) rest ↔ m.Reads input rest := by
  have hkey : ∀ afterKey, ReadsString m.key (input.dropWhile isspace) afterKey ↔
      ReadsString m.key input afterKey := by
    intro afterKey
    rw [readsString_iff, readsString_iff, List.dropWhile_idempotent]
  simp only [Member.Reads, hkey]

lemma readsMembers_dropWhile {ms : List Member} :
    ReadsMembers ms (input.dropWhile isspace) rest ↔ ReadsMembers ms input rest := by
  constructor
  · intro h
    cases h with
    | last hmember hclose => exact .last (Member.reads_dropWhile.mp hmember) hclose
    | cons hmember hcomma hmore => exact .cons (Member.reads_dropWhile.mp hmember) hcomma hmore
  · intro h
    cases h with
    | last hmember hclose => exact .last (Member.reads_dropWhile.mpr hmember) hclose
    | cons hmember hcomma hmore => exact .cons (Member.reads_dropWhile.mpr hmember) hcomma hmore

/-! ## Unambiguity -/

/-- A string ends at its closing quote, whatever follows. -/
lemma Spells.unique {text text' value value' rest' : Bytes} (h : Spells text value)
    (h' : Spells text' value') (heq : text ++ byte '"' :: rest = text' ++ byte '"' :: rest') :
    value = value' ∧ rest = rest' := by
  have hquote : byte '"' ≠ byte '\\' := by decide
  induction h generalizing text' value' with
  | nil =>
      cases h' with
      | nil => exact ⟨rfl, List.tail_eq_of_cons_eq heq⟩
      | plain hquote' _ _ _ => exact absurd (List.head_eq_of_cons_eq heq).symm hquote'
      | escape _ _ => exact absurd (List.head_eq_of_cons_eq heq) hquote
  | plain hne hbackslash _ _ ih =>
      cases h' with
      | nil => exact absurd (List.head_eq_of_cons_eq heq) hne
      | plain _ _ _ h' =>
          obtain ⟨rfl, htail⟩ := List.cons.inj heq
          obtain ⟨rfl, rfl⟩ := ih h' htail
          exact ⟨rfl, rfl⟩
      | escape _ _ => exact absurd (List.head_eq_of_cons_eq heq) hbackslash
  | escape hescape _ ih =>
      cases h' with
      | nil => exact absurd (List.head_eq_of_cons_eq heq).symm hquote
      | plain _ hbackslash _ _ => exact absurd (List.head_eq_of_cons_eq heq).symm hbackslash
      | escape hescape' h' =>
          obtain ⟨rfl, htail⟩ := List.cons.inj (List.tail_eq_of_cons_eq heq)
          obtain ⟨rfl, rfl⟩ := ih h' htail
          obtain rfl := Option.some.inj (hescape.symm.trans hescape')
          exact ⟨rfl, rfl⟩

lemma ReadsString.unique {value value' rest' : Bytes} (h : ReadsString value input rest)
    (h' : ReadsString value' input rest') : value = value' ∧ rest = rest' := by
  obtain ⟨text, hspells, hinput⟩ := readsString_iff.mp h
  obtain ⟨text', hspells', hinput'⟩ := readsString_iff.mp h'
  exact hspells.unique hspells' (List.tail_eq_of_cons_eq (hinput.symm.trans hinput'))

lemma Token.unique {rest' : Bytes} (htoken : ∃ c t, token = c :: t ∧ isspace c = false)
    (h : Token token input rest) (h' : Token token input rest') : rest = rest' :=
  List.append_cancel_left
    (((token_iff htoken).mp h).symm.trans ((token_iff htoken).mp h'))

/-- The digits of an integer are all there are. -/
lemma takeWhile_isdigit {digits : Bytes} (hdigits : ∀ c ∈ digits, isdigit c = true)
    (hnext : ∀ c ∈ rest.head?, isdigit c = false) :
    (digits ++ rest).takeWhile isdigit = digits := by
  rw [List.takeWhile_append_of_pos hdigits]
  cases rest with
  | nil => simp
  | cons c rest =>
      have hc : isdigit c = false := hnext c rfl
      rw [List.takeWhile_cons_of_neg (by simp [hc]), List.append_nil]

/-- The sign in front of a number, if there is one. -/
def signOf (input : Bytes) : Bytes :=
  if input.head? = some (byte '-') then [byte '-'] else []

/-- All digits behind the sign. -/
def digitsOf (input : Bytes) : Bytes := (input.drop (signOf input).length).takeWhile isdigit

lemma signOf_cases (input : Bytes) : signOf input = [] ∨ signOf input = [byte '-'] := by
  rw [signOf]
  split_ifs
  · exact Or.inr rfl
  · exact Or.inl rfl

lemma isInteger_of_digits (hne : digitsOf input ≠ []) : IsInteger (signOf input ++ digitsOf input) :=
  ⟨_, _, signOf_cases input, hne, fun _ hc => List.mem_takeWhile_imp hc, rfl⟩

/-- The sign and the digits are what the text begins with. -/
lemma prefix_of_digits (input : Bytes) : signOf input ++ digitsOf input <+: input := by
  have hsign : input = signOf input ++ input.drop (signOf input).length := by
    rw [signOf]
    split_ifs with hminus
    · obtain ⟨t, ht⟩ := List.head?_eq_some_iff.mp hminus
      rw [ht]
      rfl
    · rfl
  nth_rewrite 3 [hsign]
  exact (List.prefix_append_right_inj _).mpr (List.takeWhile_prefix isdigit)

/-- How an integer is read: the sign, if there is one, and then all digits. -/
lemma readsInteger_iff {literal : Bytes} : ReadsInteger literal input rest ↔
    literal = signOf (input.dropWhile isspace) ++ digitsOf (input.dropWhile isspace) ∧
      digitsOf (input.dropWhile isspace) ≠ [] ∧ input.dropWhile isspace = literal ++ rest := by
  constructor
  · rintro ⟨hinteger, htoken, hnext⟩
    rw [token_iff hinteger.head] at htoken
    obtain ⟨sign, digits, hsign, hne, hdigits, rfl⟩ := hinteger
    have hsignOf : signOf (input.dropWhile isspace) = sign := by
      rcases hsign with rfl | rfl
      · obtain ⟨c, t, rfl⟩ := List.exists_cons_of_ne_nil hne
        have hc := (isdigit_ne (hdigits c List.mem_cons_self)).2.1
        rw [signOf, htoken, if_neg (by simpa using hc)]
      · simp [signOf, htoken]
    have hdigitsOf : digitsOf (input.dropWhile isspace) = digits := by
      rw [digitsOf, hsignOf, htoken, List.append_assoc, List.drop_left,
        takeWhile_isdigit hdigits hnext]
    rw [hsignOf, hdigitsOf]
    exact ⟨rfl, hne, htoken⟩
  · rintro ⟨rfl, hne, hinput⟩
    have hinteger := isInteger_of_digits hne
    refine ⟨hinteger, (token_iff hinteger.head).mpr hinput, ?_⟩
    -- If a digit followed, the run of digits would be longer.
    have hdrop : (input.dropWhile isspace).drop (signOf (input.dropWhile isspace)).length =
        digitsOf (input.dropWhile isspace) ++ rest := by
      nth_rewrite 2 [hinput]
      rw [List.append_assoc, List.drop_left]
    have hall : ∀ c ∈ digitsOf (input.dropWhile isspace), isdigit c = true :=
      fun c hc => List.mem_takeWhile_imp hc
    have hrun : digitsOf (input.dropWhile isspace) =
        digitsOf (input.dropWhile isspace) ++ rest.takeWhile isdigit := by
      nth_rewrite 1 [digitsOf]
      rw [hdrop, List.takeWhile_append_of_pos hall]
    have hnil : rest.takeWhile isdigit = [] := List.append_right_eq_self.mp hrun.symm
    intro c hc
    cases rest with
    | nil => exact nomatch hc
    | cons x rest =>
        obtain rfl : x = c := Option.some.inj hc
        by_contra hdigit
        rw [List.takeWhile_cons_of_pos (by simpa using hdigit)] at hnil
        exact nomatch hnil

lemma ReadsInteger.unique {literal literal' rest' : Bytes} (h : ReadsInteger literal input rest)
    (h' : ReadsInteger literal' input rest') : literal = literal' ∧ rest = rest' := by
  obtain ⟨hliteral, -, hinput⟩ := readsInteger_iff.mp h
  obtain ⟨hliteral', -, hinput'⟩ := readsInteger_iff.mp h'
  obtain rfl : literal = literal' := hliteral.trans hliteral'.symm
  exact ⟨rfl, List.append_cancel_left (hinput.symm.trans hinput')⟩

lemma ReadsFlag.unique {flag flag' : Bool} {rest' : Bytes} (h : ReadsFlag flag input rest)
    (h' : ReadsFlag flag' input rest') : flag = flag' ∧ rest = rest' := by
  have heq := (readsFlag_iff.mp h).symm.trans (readsFlag_iff.mp h')
  obtain rfl : flag = flag' := by
    have hhead := congrArg List.head? heq
    revert hhead
    cases flag <;> cases flag' <;> simp [bytes] <;> decide
  exact ⟨rfl, List.append_cancel_left heq⟩

/-- The keys are three different ones, so that a key tells which member it begins. -/
lemma keys_ne : bytes "request_id" ≠ bytes "delay_ms" ∧ bytes "request_id" ≠ bytes "autofocus" ∧
    bytes "delay_ms" ≠ bytes "autofocus" := by
  decide

lemma Member.ReadsValue.unique {m m' : Member} {rest' : Bytes} (hkey : m.key = m'.key)
    (h : m.ReadsValue input rest) (h' : m'.ReadsValue input rest') : m = m' ∧ rest = rest' := by
  cases m with
  | RequestId id =>
      cases m' with
      | RequestId id' =>
          obtain ⟨rfl, hrest⟩ := ReadsString.unique h h'
          exact ⟨rfl, hrest⟩
      | DelayMs _ => exact absurd hkey keys_ne.1
      | Autofocus _ => exact absurd hkey keys_ne.2.1
  | DelayMs literal =>
      cases m' with
      | RequestId _ => exact absurd hkey.symm keys_ne.1
      | DelayMs literal' =>
          obtain ⟨rfl, hrest⟩ := ReadsInteger.unique h h'
          exact ⟨rfl, hrest⟩
      | Autofocus _ => exact absurd hkey keys_ne.2.2
  | Autofocus flag =>
      cases m' with
      | RequestId _ => exact absurd hkey.symm keys_ne.2.1
      | DelayMs _ => exact absurd hkey.symm keys_ne.2.2
      | Autofocus flag' =>
          obtain ⟨rfl, hrest⟩ := ReadsFlag.unique h h'
          exact ⟨rfl, hrest⟩

lemma Member.Reads.unique {m m' : Member} {rest' : Bytes} (h : m.Reads input rest)
    (h' : m'.Reads input rest') : m = m' ∧ rest = rest' := by
  obtain ⟨afterKey, afterColon, hkey, hcolon, hvalue⟩ := h
  obtain ⟨afterKey', afterColon', hkey', hcolon', hvalue'⟩ := h'
  obtain ⟨hsame, rfl⟩ := hkey.unique hkey'
  obtain rfl := hcolon.unique ⟨byte ':', [], rfl, by decide⟩ hcolon'
  exact Member.ReadsValue.unique hsame hvalue hvalue'

/-- Two tokens of one character do not both come next. -/
lemma Token.singleton_ne {d : UInt8} {rest' : Bytes} (hc : isspace c = false)
    (hd : isspace d = false) (hne : c ≠ d) (h : Token [c] input rest) : ¬ Token [d] input rest' := by
  intro h'
  rw [token_singleton_iff hc] at h
  rw [token_singleton_iff hd, h] at h'
  exact hne (List.head_eq_of_cons_eq h')

lemma ReadsMembers.unique {ms ms' : List Member} {rest' : Bytes} (h : ReadsMembers ms input rest)
    (h' : ReadsMembers ms' input rest') : ms = ms' ∧ rest = rest' := by
  have hclosing : isspace (byte '\x7d') = false := by decide
  have hcomma : isspace (byte ',') = false := by decide
  induction h generalizing ms' with
  | last hmember hclose =>
      cases h' with
      | last hmember' hclose' =>
          obtain ⟨rfl, rfl⟩ := hmember.unique hmember'
          exact ⟨rfl, hclose.unique ⟨_, [], rfl, hclosing⟩ hclose'⟩
      | cons hmember' hcomma' _ =>
          obtain ⟨rfl, rfl⟩ := hmember.unique hmember'
          exact absurd hcomma' (hclose.singleton_ne hclosing hcomma (by decide))
  | cons hmember hnext _ ih =>
      cases h' with
      | last hmember' hclose' =>
          obtain ⟨rfl, rfl⟩ := hmember.unique hmember'
          exact absurd hclose' (hnext.singleton_ne hcomma hclosing (by decide))
      | cons hmember' hnext' hmore' =>
          obtain ⟨rfl, rfl⟩ := hmember.unique hmember'
          obtain rfl := hnext.unique ⟨_, [], rfl, hcomma⟩ hnext'
          obtain ⟨rfl, hrest⟩ := ih hmore'
          exact ⟨rfl, hrest⟩

/-- **The grammar is unambiguous**: a body has its members in one way only.  Behind the white space
every token is told by its first character, and a number goes as far as its digits. -/
theorem ReadsObject.unique {ms ms' : List Member} {body : Bytes} (h : ReadsObject ms body)
    (h' : ReadsObject ms' body) : ms = ms' := by
  obtain ⟨inside, behind, hopen, hmembers, -⟩ := h
  obtain ⟨inside', behind', hopen', hmembers', -⟩ := h'
  obtain rfl := hopen.unique ⟨byte '\x7b', [], rfl, by decide⟩ hopen'
  exact (hmembers.unique hmembers').1

/-- One id, one literal and one flag are in a body, in whatever order they come. -/
theorem ReadsCapture.unique {id id' literal literal' body : Bytes} {flag flag' : Bool}
    (h : ReadsCapture id literal flag body) (h' : ReadsCapture id' literal' flag' body) :
    id = id' ∧ literal = literal' ∧ flag = flag' := by
  obtain ⟨ms, hperm, hobject⟩ := h
  obtain ⟨ms', hperm', hobject'⟩ := h'
  obtain rfl := hobject.unique hobject'
  have hmem : ∀ m, m ∈ [Member.RequestId id, .DelayMs literal, .Autofocus flag] →
      m ∈ [Member.RequestId id', .DelayMs literal', .Autofocus flag'] :=
    fun m hm => (hperm.symm.trans hperm').mem_iff.mp hm
  have hid := hmem (.RequestId id) (by simp)
  have hliteral := hmem (.DelayMs literal) (by simp)
  have hflag := hmem (.Autofocus flag) (by simp)
  simp at hid hliteral hflag
  exact ⟨hid, hliteral, hflag⟩

/-! ## The cursor -/

namespace JsonCursor

variable {cursor cursor' : JsonCursor} {target : Target}

lemma rest_advance (cursor : JsonCursor) (count : ℕ) :
    (cursor.advance count).rest = cursor.rest.drop count := by
  simp [rest, advance]

/-- `ws` skips the white space, and nothing else. -/
lemma ws_rest (cursor : JsonCursor) : cursor.ws.rest = cursor.rest.dropWhile isspace := by
  rw [ws, rest_advance]
  nth_rewrite 2 [← List.takeWhile_append_dropWhile (p := isspace) (l := cursor.rest)]
  rw [List.drop_left]

/-- `take` reads a token of one character. -/
lemma take_iff (hc : isspace c = false) :
    (∃ cursor', cursor.take c = (true, cursor') ∧ cursor'.rest = rest) ↔
      Token [c] cursor.rest rest := by
  rw [token_singleton_iff hc, take, ws_rest]
  cases hrest : cursor.rest.dropWhile isspace with
  | nil => simp
  | cons x input =>
      have hadvance : (cursor.ws.advance 1).rest = input := by
        rw [rest_advance, ws_rest, hrest, List.drop_one, List.tail_cons]
      by_cases hx : x = c
      · simp [hx, hadvance]
      · simp [hx]

/-- Where it does not, it skips the white space. -/
lemma rest_of_take_eq_false (h : cursor.take c = (false, cursor')) :
    cursor'.rest = cursor.rest.dropWhile isspace := by
  rw [take] at h
  split_ifs at h with hnext
  · exact absurd (congrArg Prod.fst h) Bool.noConfusion
  · rw [← ws_rest]
    exact congrArg rest (congrArg Prod.snd h).symm

/-- What the loop of `stringValue` accepts is spelled in front of it. -/
lemma stringLoop_sound {out input value : Bytes} {count : ℕ} (hout : out.length ≤ 128)
    (h : stringLoop out input = some (value, count)) :
    ∃ text tail rest, Spells text tail ∧ input = text ++ byte '"' :: rest ∧ value = out ++ tail ∧
      count = text.length + 1 ∧ value.length ≤ 128 := by
  fun_induction stringLoop out input generalizing value count with
  | case1 => exact nomatch h
  | case2 out c rest hquote =>
      obtain ⟨rfl, rfl⟩ := Prod.mk.inj (Option.some.inj h)
      exact ⟨[], [], rest, .nil, by rw [beq_iff_eq.mp hquote]; rfl, (List.append_nil _).symm, rfl, hout⟩
  | case3 => exact nomatch h
  | case4 => exact nomatch h
  | case5 => exact nomatch h
  | case6 => exact nomatch h
  | case7 out c hquote hcontrol hbackslash e rest x hescape hlong ih =>
      obtain ⟨⟨value', count'⟩, hloop, heq⟩ := Option.map_eq_some_iff.mp h
      obtain ⟨rfl, rfl⟩ := Prod.mk.inj heq
      obtain ⟨text, tail, rest', hspells, rfl, rfl, rfl, hlength⟩ := ih (not_lt.mp hlong) hloop
      obtain rfl : c = byte '\\' := beq_iff_eq.mp hbackslash
      exact ⟨_, x :: tail, rest', .escape hescape hspells, rfl, by simp, by simp, hlength⟩
  | case8 => exact nomatch h
  | case9 out c rest hquote hcontrol hbackslash hlong ih =>
      obtain ⟨⟨value', count'⟩, hloop, heq⟩ := Option.map_eq_some_iff.mp h
      obtain ⟨rfl, rfl⟩ := Prod.mk.inj heq
      obtain ⟨text, tail, rest', hspells, rfl, rfl, rfl, hlength⟩ := ih (not_lt.mp hlong) hloop
      have hplain : Spells (c :: text) (c :: tail) :=
        .plain (by simpa using hquote) (by simpa using hbackslash) (UInt8.not_lt.mp hcontrol) hspells
      exact ⟨_, c :: tail, rest', hplain, rfl, by simp, by simp, hlength⟩

/-- What is spelled in front of it the loop accepts, unless it is too long. -/
lemma stringLoop_complete {text tail : Bytes} (h : Spells text tail) (rest : Bytes) :
    ∀ out : Bytes, (out ++ tail).length ≤ 128 →
      stringLoop out (text ++ byte '"' :: rest) = some (out ++ tail, text.length + 1) := by
  induction h with
  | nil =>
      intro out _
      rw [List.nil_append, stringLoop.eq_def]
      simp
  | @plain c text value hquote hbackslash hcontrol _ ih =>
      intro out hlength
      have hrest := ih (out ++ [c]) (by simpa using hlength)
      have hshort : ¬ (out ++ [c]).length > 128 := by
        simp at hlength ⊢
        omega
      rw [List.cons_append, stringLoop.eq_def]
      dsimp only
      rw [if_neg (by simpa using hquote), if_neg (UInt8.not_lt.mpr hcontrol),
        if_neg (by simpa using hbackslash), if_neg hshort, hrest]
      simp
  | @escape e x text value hescape _ ih =>
      intro out hlength
      have hrest := ih (out ++ [x]) (by simpa using hlength)
      have hshort : ¬ (out ++ [x]).length > 128 := by
        simp at hlength ⊢
        omega
      rw [List.cons_append, List.cons_append, stringLoop.eq_def]
      dsimp only
      rw [if_neg (by decide), if_neg (by decide), if_pos (beq_self_eq_true _), hescape]
      dsimp only
      rw [if_neg hshort, hrest]
      simp

/-- `stringValue` reads a string of 128 characters at most. -/
lemma stringValue_iff {value : Bytes} :
    (∃ cursor', cursor.stringValue = some (value, cursor') ∧ cursor'.rest = rest) ↔
      ReadsString value cursor.rest rest ∧ value.length ≤ 128 := by
  rw [readsString_iff]
  constructor
  · rintro ⟨cursor', h, rfl⟩
    rw [stringValue] at h
    cases hrest : cursor.ws.rest with
    | nil =>
        rw [hrest] at h
        exact nomatch h
    | cons c input =>
        rw [hrest] at h
        dsimp only at h
        split_ifs at h with hquote
        obtain ⟨⟨value', count⟩, hloop, heq⟩ := Option.map_eq_some_iff.mp h
        obtain ⟨rfl, rfl⟩ := Prod.mk.inj heq
        obtain ⟨text, tail, rest, hspells, rfl, rfl, rfl, hlength⟩ :=
          stringLoop_sound (Nat.zero_le _) hloop
        obtain rfl : c = byte '"' := by simpa using hquote
        refine ⟨⟨text, hspells, ?_⟩, hlength⟩
        rw [← ws_rest, rest_advance, hrest]
        simp
  · rintro ⟨⟨text, hspells, hinput⟩, hlength⟩
    have hloop := stringLoop_complete hspells rest [] (by simpa using hlength)
    rw [← ws_rest] at hinput
    refine ⟨cursor.ws.advance (text.length + 1 + 1), ?_, ?_⟩
    · rw [stringValue, hinput]
      simp [hloop]
    · rw [rest_advance, hinput]
      simp

/-- A word is at the front exactly if so many characters of the text are the word. -/
lemma take_eq_word_iff {word : Bytes} :
    input.take word.length = word ↔ input = word ++ input.drop word.length := by
  constructor
  · intro h
    nth_rewrite 1 [← List.take_append_drop word.length input, h]
    rfl
  · intro h
    rw [h, List.take_left]

/-- `boolValue` reads a flag, as the grammar does: the two words begin with different letters. -/
lemma boolValue_iff {flag : Bool} :
    (∃ cursor', cursor.boolValue = some (flag, cursor') ∧ cursor'.rest = rest) ↔
      ReadsFlag flag cursor.rest rest := by
  have htrue : (bytes "true").length = 4 := rfl
  have hfalse : (bytes "false").length = 5 := rfl
  rw [readsFlag_iff, boolValue, ← ws_rest]
  constructor
  · rintro ⟨cursor', h, rfl⟩
    split_ifs at h with hleft hright
    · obtain ⟨rfl, rfl⟩ := Prod.mk.inj (Option.some.inj h)
      rw [rest_advance]
      exact take_eq_word_iff.mp (beq_iff_eq.mp hleft)
    · obtain ⟨rfl, rfl⟩ := Prod.mk.inj (Option.some.inj h)
      rw [rest_advance]
      exact take_eq_word_iff.mp (beq_iff_eq.mp hright)
  · intro h
    cases flag with
    | true =>
        have hword : cursor.ws.rest = bytes "true" ++ rest := h
        refine ⟨cursor.ws.advance 4, ?_, ?_⟩
        · rw [hword, ← htrue, List.take_left]
          simp
        · rw [rest_advance, hword, ← htrue, List.drop_left]
    | false =>
        have hword : cursor.ws.rest = bytes "false" ++ rest := h
        have hother : ¬ (cursor.ws.rest.take 4 == bytes "true") = true := by
          rw [hword]
          exact Bool.noConfusion
        refine ⟨cursor.ws.advance 5, ?_, ?_⟩
        · rw [if_neg hother, hword, ← hfalse, List.take_left]
          simp
        · rw [rest_advance, hword, ← hfalse, List.drop_left]

end JsonCursor

/-! ## Integers -/

/-- What becomes of a number in a `long`, as `strtol` makes it one: the nearest number that fits. -/
def Target.saturate (target : Target) (n : ℤ) : ℤ :=
  max (-2 ^ (target.longBits - 1)) (min n (2 ^ (target.longBits - 1) - 1))

/-- `strtol` reads an integer to its end. -/
lemma strtol_integer {literal : Bytes} (target : Target) (h : IsInteger literal) :
    strtol target literal = (target.saturate (integerOf literal), []) := by
  obtain ⟨c, t, hliteral, hspace⟩ := h.head
  have hskip : literal.dropWhile isspace = literal := by
    rw [hliteral, List.dropWhile_cons_of_neg (by simp [hspace])]
  obtain ⟨sign, digits, hsign, hne, hdigits, rfl⟩ := h
  have htake : digits.takeWhile isdigit = digits := List.takeWhile_eq_self_iff.mpr hdigits
  have hdrop : digits.dropWhile isdigit = [] := List.dropWhile_eq_nil_iff.mpr hdigits
  rcases hsign with rfl | rfl
  · obtain ⟨d, ds, rfl⟩ := List.exists_cons_of_ne_nil hne
    obtain ⟨-, hminus, hplus⟩ := isdigit_ne (hdigits d List.mem_cons_self)
    rw [strtol, hskip]
    simp [hminus, hplus, htake, hdrop, integerOf, Target.saturate]
  · rw [strtol, hskip]
    simp [hne, htake, hdrop, integerOf, Target.saturate]

namespace JsonCursor

variable {cursor cursor' : JsonCursor} {target : Target}

/-- `integerValue`, with the literal it takes: refused if there are no digits or too many, and
otherwise what `strtol` makes of it, if that fits an `int`. -/
lemma integerValue_eq {literal : Bytes} (target : Target)
    (hliteral : literal = signOf cursor.ws.rest ++ digitsOf cursor.ws.rest) :
    cursor.integerValue target =
      if digitsOf cursor.ws.rest = [] then none
      else if literal.length > 10 then none
      else if target.saturate (integerOf literal) < -2147483647 ∨
          target.saturate (integerOf literal) > 2147483647 then none
      else some (target.saturate (integerOf literal), cursor.ws.advance literal.length) := by
  have htake : cursor.ws.rest.take literal.length = literal := by
    rw [hliteral]
    exact (List.prefix_iff_eq_take.mp (prefix_of_digits _)).symm
  have hcount : (if cursor.ws.rest.head? == some (byte '-') then 1 else 0) =
      (signOf cursor.ws.rest).length := by
    rw [signOf]
    by_cases hminus : cursor.ws.rest.head? = some (byte '-')
    · rw [if_pos hminus, if_pos (beq_iff_eq.mpr hminus), List.length_singleton]
    · rw [if_neg hminus, if_neg (by simpa using hminus), List.length_nil]
  have hlength : (signOf cursor.ws.rest).length + (digitsOf cursor.ws.rest).length =
      literal.length := by
    rw [hliteral, List.length_append]
  rw [integerValue]
  dsimp only
  rw [hcount, show (cursor.ws.rest.drop (signOf cursor.ws.rest).length).takeWhile isdigit =
    digitsOf cursor.ws.rest from rfl, hlength, htake]
  by_cases hne : digitsOf cursor.ws.rest = []
  · rw [if_pos hne, if_pos (by simp [hne])]
  · have hinteger : IsInteger literal := hliteral ▸ isInteger_of_digits hne
    rw [if_neg hne, if_neg (by simpa using hne), strtol_integer target hinteger]
    simp

/-- `integerValue` reads an integer of ten characters at most, which `strtol` may have changed. -/
lemma integerValue_iff {value : ℤ} :
    (∃ cursor', cursor.integerValue target = some (value, cursor') ∧ cursor'.rest = rest) ↔
      ∃ literal, ReadsInteger literal cursor.rest rest ∧ literal.length ≤ 10 ∧
        value = target.saturate (integerOf literal) ∧ -2147483647 ≤ value ∧ value ≤ 2147483647 := by
  simp only [readsInteger_iff, ← ws_rest]
  constructor
  · rintro ⟨cursor', h, rfl⟩
    rw [integerValue_eq target rfl] at h
    split_ifs at h with hne hlong hrange
    obtain ⟨rfl, rfl⟩ := Prod.mk.inj (Option.some.inj h)
    refine ⟨_, ⟨rfl, hne, ?_⟩, not_lt.mp hlong, rfl, by omega, by omega⟩
    rw [rest_advance]
    exact List.prefix_iff_eq_append.mp (prefix_of_digits _) |>.symm
  · rintro ⟨literal, ⟨hliteral, hne, hinput⟩, hlong, rfl, hlower, hupper⟩
    refine ⟨cursor.ws.advance literal.length, ?_, ?_⟩
    · rw [integerValue_eq target hliteral, if_neg hne, if_neg (not_lt.mpr hlong), if_neg (by omega)]
    · rw [rest_advance, hinput, List.drop_left]

end JsonCursor

end LegacyAlpha
