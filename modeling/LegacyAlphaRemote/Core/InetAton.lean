import LegacyAlphaRemote.Core.Bytes

/-!
# `inet_aton`

The C library reads an address of one to four numbers with dots between them.  A number is hexadecimal
after `0x`, octal after `0` and decimal otherwise; each but the last is one byte of the address, and the
last is the rest of it.  White space may follow, and whatever comes after that.

Four groups of digits are read number by number (`inetAton_groups`), and as decimal numbers exactly when
none of them is octal (`NoOctal`, `inetAton_eq_decimal_iff`).
-/

namespace LegacyAlpha

/-! ## Numbers in a base -/

/-- `isxdigit` in the "C" locale: a decimal digit, or one of the letters from a to f in either case.
-/
def isxdigit (c : UInt8) : Bool :=
  isdigit c || (byte 'A' ≤ c && c ≤ byte 'F') || (byte 'a' ≤ c && c ≤ byte 'f')

/-- The value of a digit, decimal or hexadecimal.  Of any other character it has no meaning. -/
def digitValue (c : UInt8) : ℕ :=
  if isdigit c then c.toNat - (byte '0').toNat
  else 10 + ((tolower c).toNat - (byte 'a').toNat)

/-- The number that these digits denote in this base, the first digit counting most. -/
def numeral (base : ℕ) (digits : Bytes) : ℕ :=
  digits.foldl (fun n c => base * n + digitValue c) 0

/-! ## The function -/

/-- The digits at the start of a text, read in a base, and what follows them. -/
def numberIn (base : ℕ) (isDigit : UInt8 → Bool) (text : Bytes) : Option (ℕ × Bytes) :=
  let digits := text.takeWhile isDigit
  if digits.isEmpty || digits.any (fun c => base ≤ digitValue c) then none
  else some (numeral base digits, text.drop digits.length)

/-- A number at the start of a text, and what follows it: hexadecimal behind `0x`, octal behind
another zero, and decimal otherwise, as in C. -/
def atonNumber (text : Bytes) : Option (ℕ × Bytes) :=
  if (bytes "0x").isPrefixOf text || (bytes "0X").isPrefixOf text then
    numberIn 16 isxdigit (text.drop 2)
  else if text.head? = some (byte '0') then numberIn 8 isdigit text
  else numberIn 10 isdigit text

/-- At most so many numbers with dots between them, and what follows them.  A dot must be followed by
one more number, so that a text with a dot at its end is none. -/
def atonNumbers : ℕ → Bytes → Option (List ℕ × Bytes)
  | 0, _ => none
  | n + 1, text =>
    match atonNumber text with
    | none => none
    | some (value, rest) =>
      if rest.head? = some (byte '.') then
        (atonNumbers n rest.tail).map fun (values, rest) => (value :: values, rest)
      else some ([value], rest)

/-- `inet_aton`.  There may be fewer than four numbers: all but the last are one byte each, and the
last one fills the bytes that are left.  What follows must begin with white space, if there is
anything. -/
def inetAton (text : Bytes) : Option UInt32 :=
  match atonNumbers 4 text with
  | none => none
  | some (values, rest) =>
    let unit := 256 ^ (5 - values.length)
    if rest.head?.all isspace && values.dropLast.all (· < 256) && values.getLastD 0 < unit then
      some (unit * values.dropLast.foldl (fun n value => 256 * n + value) 0
        + values.getLastD 0).toUInt32
    else none

/-! ## Groups of digits -/

/-- What a group of digits is read as when it is one of the four numbers: a leading zero makes it
octal, so that a group with an 8 or a 9 is refused then. -/
def octet (group : Bytes) : Option ℕ :=
  if group.head? = some (byte '0') then
    if group.any fun c => 8 ≤ digitValue c then none else some (numeral 8 group)
  else some (numeral 10 group)

/-- The group has no leading zero, or is a single digit but for those. -/
def NoOctal (group : Bytes) : Prop := group.head? = some (byte '0') → numeral 10 group < 8

instance : DecidablePred NoOctal := fun group =>
  inferInstanceAs (Decidable (group.head? = some (byte '0') → numeral 10 group < 8))

/-- The address of four numbers, of which the first is the most significant byte. -/
def quad (a b c d : ℕ) : UInt32 := (256 * (256 * (256 * a + b) + c) + d).toUInt32

/-- A group of an address in dotted notation: digits, and at least one of them. -/
structure IsGroup (group : Bytes) : Prop where
  ne_nil : group ≠ []
  digits : ∀ c ∈ group, isdigit c = true

variable {a b c d group rest : Bytes}

lemma digitValue_of_isdigit {c : UInt8} (h : isdigit c = true) : digitValue c < 10 := by
  have h9 : c ≤ byte '9' := by
    rw [isdigit, Bool.and_eq_true, decide_eq_true_eq, decide_eq_true_eq] at h
    exact h.2
  rw [digitValue, if_pos h]
  have hle : c.toNat ≤ 57 := h9
  have hzero : (byte '0').toNat = 48 := rfl
  omega

lemma numeral_concat (base : ℕ) (digits : Bytes) (c : UInt8) :
    numeral base (digits ++ [c]) = base * numeral base digits + digitValue c := by
  rw [numeral, List.foldl_concat, numeral]

/-- In a smaller base the same digits denote no more. -/
lemma numeral_mono {base base' : ℕ} (h : base ≤ base') (digits : Bytes) :
    numeral base digits ≤ numeral base' digits := by
  induction digits using List.reverseRecOn with
  | nil => simp [numeral]
  | append_singleton digits c ih =>
      rw [numeral_concat, numeral_concat]
      exact Nat.add_le_add_right (Nat.mul_le_mul h ih) _

/-- **Octal digits denote the same in decimal** only if they denote a single digit. -/
lemma numeral_eight_eq_iff (h : ∀ c ∈ group, digitValue c < 8) :
    numeral 8 group = numeral 10 group ↔ numeral 10 group < 8 := by
  induction group using List.reverseRecOn with
  | nil => simp [numeral]
  | append_singleton digits c ih =>
      have hc : digitValue c < 8 := h c (by simp)
      have hle : numeral 8 digits ≤ numeral 10 digits := numeral_mono (by simp) digits
      rw [numeral_concat, numeral_concat]
      omega

/-- A digit that is too large for octal makes the number too large as well. -/
lemma le_numeral_of_mem {c : UInt8} (hc : c ∈ group) : digitValue c ≤ numeral 10 group := by
  induction group using List.reverseRecOn with
  | nil => simp at hc
  | append_singleton digits last ih =>
      rw [numeral_concat]
      rcases List.mem_append.mp hc with hold | hnew
      · have hle := ih hold
        omega
      · rw [List.mem_singleton.mp hnew]
        omega

/-- **What a group is read as is its decimal value** exactly when it is not octal. -/
theorem octet_eq_decimal_iff : octet group = some (numeral 10 group) ↔ NoOctal group := by
  rw [octet, NoOctal]
  split_ifs with hzero hlarge
  · obtain ⟨c, hc, hvalue⟩ := List.any_eq_true.mp hlarge
    have hle := le_numeral_of_mem hc
    have height : 8 ≤ digitValue c := by simpa using hvalue
    simp [hzero]
    omega
  · have hsmall : ∀ c ∈ group, digitValue c < 8 := by simpa using hlarge
    rw [Option.some.injEq, numeral_eight_eq_iff hsmall]
    simp [hzero]
  · simp [hzero]

/-- An octal reading is never more than the decimal reading of the same digits. -/
lemma octet_le {n : ℕ} (h : octet group = some n) : n ≤ numeral 10 group := by
  rw [octet] at h
  split_ifs at h
  · rw [← Option.some.inj h]
    exact numeral_mono (by simp) group
  · exact (Option.some.inj h).ge

/-! ## Four groups -/

lemma numberIn_group (base : ℕ) (h : IsGroup group)
    (hnext : ∀ c ∈ rest.head?, isdigit c = false) :
    numberIn base isdigit (group ++ rest) =
      if group.any fun c => base ≤ digitValue c then none else some (numeral base group, rest) := by
  have hdigits : (group ++ rest).takeWhile isdigit = group := by
    rw [List.takeWhile_append_of_pos h.digits]
    cases rest with
    | nil => simp
    | cons c rest =>
        rw [List.takeWhile_cons_of_neg (by simp [hnext c rfl]), List.append_nil]
  rw [numberIn, hdigits, List.drop_left]
  simp [h.ne_nil]

/-- A group is no hexadecimal number, as the letter that would make it one is no digit. -/
lemma not_isPrefixOf_group {x : UInt8} (h : IsGroup group) (hletter : isdigit x = false)
    (hnext : rest.head? ≠ some x) : List.isPrefixOf [byte '0', x] (group ++ rest) = false := by
  rw [Bool.eq_false_iff]
  intro hprefix
  obtain ⟨tail, htail⟩ := List.isPrefixOf_iff_prefix.mp hprefix
  match group, h with
  | [c], _ =>
      have hrest : x :: tail = rest := (List.cons.inj htail).2
      exact hnext (by simp [← hrest])
  | c :: c' :: group, h =>
      have hsecond : x = c' := (List.cons.inj (List.cons.inj htail).2).1
      have hdigit : isdigit c' = true := h.digits c' (by simp)
      rw [← hsecond, hletter] at hdigit
      exact Bool.false_ne_true hdigit

lemma atonNumber_group (h : IsGroup group) (hrest : rest = [] ∨ rest.head? = some (byte '.')) :
    atonNumber (group ++ rest) = (octet group).map fun value => (value, rest) := by
  have hnext : ∀ c ∈ rest.head?, c = byte '.' := by
    rcases hrest with rfl | hdot
    · simp
    · simp [hdot]
  have hdigit : ∀ c ∈ rest.head?, isdigit c = false := by
    intro c hc
    rw [hnext c hc]
    rfl
  have hlower : (bytes "0x").isPrefixOf (group ++ rest) = false := by
    refine not_isPrefixOf_group h rfl fun hx => ?_
    exact absurd (hnext _ hx) (by decide)
  have hupper : (bytes "0X").isPrefixOf (group ++ rest) = false := by
    refine not_isPrefixOf_group h rfl fun hx => ?_
    exact absurd (hnext _ hx) (by decide)
  have hhead : (group ++ rest).head? = group.head? := by
    cases group with
    | nil => exact absurd rfl h.ne_nil
    | cons c group => rfl
  have hten : group.any (fun c => 10 ≤ digitValue c) = false := by
    rw [Bool.eq_false_iff]
    intro hany
    obtain ⟨c, hc, hvalue⟩ := List.any_eq_true.mp hany
    have hlt := digitValue_of_isdigit (h.digits c hc)
    have hle : 10 ≤ digitValue c := by simpa using hvalue
    omega
  rw [atonNumber, hlower, hupper, octet, hhead, numberIn_group 8 h hdigit,
    numberIn_group 10 h hdigit, hten, Bool.or_self, if_neg Bool.false_ne_true,
    if_neg Bool.false_ne_true]
  split_ifs <;> rfl

/-- **Four groups are read one by one**: a text of four groups of digits is an address exactly if each
of them is read as a number below 256, and then it is the address of the four. -/
theorem inetAton_groups (ha : IsGroup a) (hb : IsGroup b) (hc : IsGroup c) (hd : IsGroup d) :
    inetAton (a ++ byte '.' :: (b ++ byte '.' :: (c ++ byte '.' :: d))) =
      match octet a, octet b, octet c, octet d with
      | some w, some x, some y, some z =>
        if w < 256 ∧ x < 256 ∧ y < 256 ∧ z < 256 then some (quad w x y z) else none
      | _, _, _, _ => none := by
  have hlast : atonNumber d = (octet d).map fun value => (value, []) := by
    have hwhole := atonNumber_group hd (Or.inl rfl : ([] : Bytes) = [] ∨ _)
    rwa [List.append_nil] at hwhole
  rw [inetAton, atonNumbers, atonNumber_group ha (Or.inr rfl)]
  cases octet a with
  | none => rfl
  | some w =>
      rw [Option.map_some]
      dsimp only
      rw [List.head?_cons, if_pos rfl, List.tail_cons, atonNumbers, atonNumber_group hb (Or.inr rfl)]
      cases octet b with
      | none => rfl
      | some x =>
          rw [Option.map_some]
          dsimp only
          rw [List.head?_cons, if_pos rfl, List.tail_cons, atonNumbers,
            atonNumber_group hc (Or.inr rfl)]
          cases octet c with
          | none => rfl
          | some y =>
              rw [Option.map_some]
              dsimp only
              rw [List.head?_cons, if_pos rfl, List.tail_cons, atonNumbers, hlast]
              cases octet d with
              | none => rfl
              | some z =>
                  simp [quad, and_assoc]

/-! ## Decimal groups -/

lemma quad_injective {w x y z w' x' y' z' : ℕ} (hw : w < 256) (hx : x < 256) (hy : y < 256)
    (hz : z < 256) (hw' : w' < 256) (hx' : x' < 256) (hy' : y' < 256) (hz' : z' < 256)
    (h : quad w x y z = quad w' x' y' z') : w = w' ∧ x = x' ∧ y = y' ∧ z = z' := by
  have hnat := congrArg UInt32.toNat h
  rw [quad, quad] at hnat
  simp only [Nat.toUInt32, UInt32.toNat_ofNat'] at hnat
  omega

/-- **An address of four decimal bytes is read as it stands** exactly when no group is octal. -/
theorem inetAton_eq_decimal_iff (ha : IsGroup a) (hb : IsGroup b) (hc : IsGroup c) (hd : IsGroup d)
    (hsmall : ∀ group ∈ [a, b, c, d], numeral 10 group < 256) :
    inetAton (a ++ byte '.' :: (b ++ byte '.' :: (c ++ byte '.' :: d))) =
        some (quad (numeral 10 a) (numeral 10 b) (numeral 10 c) (numeral 10 d)) ↔
      ∀ group ∈ [a, b, c, d], NoOctal group := by
  have hread : ∀ group ∈ [a, b, c, d], ∀ n, octet group = some n → n < 256 := by
    intro group hgroup n hn
    exact (octet_le hn).trans_lt (hsmall group hgroup)
  rw [inetAton_groups ha hb hc hd]
  constructor
  · intro h
    have hall : octet a = some (numeral 10 a) ∧ octet b = some (numeral 10 b) ∧
        octet c = some (numeral 10 c) ∧ octet d = some (numeral 10 d) := by
      cases hoa : octet a with
      | none => simp [hoa] at h
      | some w =>
          cases hob : octet b with
          | none => simp [hoa, hob] at h
          | some x =>
              cases hoc : octet c with
              | none => simp [hoa, hob, hoc] at h
              | some y =>
                  cases hod : octet d with
                  | none => simp [hoa, hob, hoc, hod] at h
                  | some z =>
                      rw [hoa, hob, hoc, hod] at h
                      dsimp only at h
                      have hw := hread a (by simp) w hoa
                      have hx := hread b (by simp) x hob
                      have hy := hread c (by simp) y hoc
                      have hz := hread d (by simp) z hod
                      rw [if_pos ⟨hw, hx, hy, hz⟩] at h
                      have hsame := quad_injective hw hx hy hz (hsmall a (by simp))
                        (hsmall b (by simp)) (hsmall c (by simp)) (hsmall d (by simp))
                        (Option.some.inj h)
                      simp [hsame]
    intro group hgroup
    refine octet_eq_decimal_iff.mp ?_
    simp only [List.mem_cons, List.not_mem_nil, or_false] at hgroup
    rcases hgroup with rfl | rfl | rfl | rfl
    · exact hall.1
    · exact hall.2.1
    · exact hall.2.2.1
    · exact hall.2.2.2
  · intro h
    have hdecimal : ∀ group ∈ [a, b, c, d], octet group = some (numeral 10 group) :=
      fun group hgroup => octet_eq_decimal_iff.mpr (h group hgroup)
    rw [hdecimal a (by simp), hdecimal b (by simp), hdecimal c (by simp), hdecimal d (by simp)]
    dsimp only
    rw [if_pos ⟨hsmall a (by simp), hsmall b (by simp), hsmall c (by simp), hsmall d (by simp)⟩]

end LegacyAlpha
