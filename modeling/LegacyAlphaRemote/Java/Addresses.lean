import LegacyAlphaRemote.Core.InetAton
import LegacyAlphaRemote.Http.Numbers
import LegacyAlphaRemote.Runtime.Listener

/-!
# Addresses in Java and in C++

`WifiDirectController` takes the address of its group from Sony's class and shows it, if it is four
decimal numbers with dots between them, and a default otherwise (`normalizeAddress`).  The server binds
to what `inet_aton` makes of the same text.

Both are to read the same address (`ReadsSameAddress`).  Java reads every group in decimal, and
`inet_aton` one with a leading zero in octal; `readsSameAddress_iff` says that nothing else comes
between them.
-/

namespace LegacyAlpha

/-! ## Strings of Java -/

/-- A `String` of Java, one number for each `char`, halves of surrogate pairs included. -/
abbrev JavaString := List UInt16

/-- A character of the source, all of which are ASCII. -/
def javaChar (literal : Char) : UInt16 := literal.toNat.toUInt16

/-- A literal of the source, character by character. -/
def java (literal : String) : JavaString := literal.toList.map javaChar

/-- `GetStringUTFChars`: one to three bytes for each `char`, none of them zero.  A zero character
takes two bytes, so that the text ends where Java's does. -/
def getStringUTFChars (text : JavaString) : Bytes :=
  let following (c : UInt16) : UInt8 := 0x80 ||| (c &&& 0x3f).toUInt8
  text.flatMap fun (c : UInt16) =>
    if c ≠ 0 ∧ c < 0x80 then [c.toUInt8]
    else if c < 0x800 then [(0xc0 : UInt8) ||| (c >>> 6).toUInt8, following c]
    else [(0xe0 : UInt8) ||| (c >>> 12).toUInt8, following (c >>> 6), following c]

/-! ## Addresses -/

/-- `DEFAULT_ADDRESS`: the address of the camera in its own network, which stands in for any that is
not accepted. -/
def defaultAddress : JavaString := java "192.168.122.1"

/-- The value of a group, as `isIpv4Address` computes it, digit by digit. -/
def groupValue (part : JavaString) : ℕ :=
  part.foldl (fun value digit => value * 10 + digit.toNat - (javaChar '0').toNat) 0

/-- What `isIpv4Address` asks of a group: one to three digits, and a value that fits a byte.  A
leading zero is let pass. -/
def isIpv4Group (part : JavaString) : Bool :=
  part.length != 0 && part.length ≤ 3 &&
    part.all (fun digit => javaChar '0' ≤ digit && digit ≤ javaChar '9') && groupValue part ≤ 255

/-- `isIpv4Address`: four groups, with dots between them.  `split` is called with a negative limit, so
that empty groups at the end count. -/
def isIpv4Address (candidate : Option JavaString) : Bool :=
  let parts :=
    match candidate with
    | none => []
    | some candidate => candidate.splitOn (javaChar '.')
  parts.length == 4 && parts.all isIpv4Group

/-- What `normalizeAddress` leaves of a candidate: neither a slash at its start nor what begins with
the next one. -/
def withoutSlashes (candidate : JavaString) : JavaString :=
  let candidate :=
    if candidate.head? = some (javaChar '/') then candidate.tail else candidate
  candidate.takeWhile (· != javaChar '/')

/-- `normalizeAddress`: what is left of the candidate without its slashes, if that is an address, and
otherwise the default. -/
def normalizeAddress (candidate : Option JavaString) : JavaString :=
  match candidate with
  | none => defaultAddress
  | some candidate =>
    if candidate.isEmpty then defaultAddress
    else if isIpv4Address (some (withoutSlashes candidate)) then withoutSlashes candidate
    else defaultAddress

/-! ## Reading an address twice -/

/-- The text is these four groups, with dots between them, each of them a number of one to three
digits that fits a byte. -/
structure IsIpv4 (text a b c d : JavaString) : Prop where
  text_eq : text = a ++ javaChar '.' :: (b ++ javaChar '.' :: (c ++ javaChar '.' :: d))
  groups : ∀ part ∈ [a, b, c, d], part ≠ [] ∧ part.length ≤ 3 ∧
    (∀ digit ∈ part, javaChar '0' ≤ digit ∧ digit ≤ javaChar '9') ∧ groupValue part ≤ 255

/-- **Both languages read the same address**: four groups of up to three digits, each of at most 255,
which the server binds to as they are shown. -/
def ReadsSameAddress (candidate : Option JavaString) : Prop :=
  ∃ a b c d, IsIpv4 (normalizeAddress candidate) a b c d ∧
    let address := quad (groupValue a) (groupValue b) (groupValue c) (groupValue d)
    inetAton (getStringUTFChars (normalizeAddress candidate)) = some address ∧
      bindAddress inetAton (getStringUTFChars (normalizeAddress candidate)) = address

/-- No group with a leading zero has a value of 8 or more, so that reading it in octal makes no
difference. -/
def NoOctalGroup (text : JavaString) : Prop :=
  ∀ part ∈ text.splitOn (javaChar '.'), part.head? = some (javaChar '0') → groupValue part < 8

variable {text part a b c d : JavaString}

/-! ## The groups -/

/-- The groups are what the text is split into. -/
lemma IsIpv4.splitOn_eq (h : IsIpv4 text a b c d) :
    text.splitOn (javaChar '.') = [a, b, c, d] := by
  have hsingle : ∀ part ∈ [a, b, c, d], part.splitOn (javaChar '.') = [part] := by
    intro part hpart
    refine List.splitOn_eq_singleton fun hdot => ?_
    exact absurd ((h.groups part hpart).2.2.1 _ hdot) (by decide)
  rw [h.text_eq, List.splitOn_append_cons_self, List.splitOn_append_cons_self,
    List.splitOn_append_cons_self, hsingle a (by simp), hsingle b (by simp), hsingle c (by simp),
    hsingle d (by simp)]
  rfl

/-- What `isIpv4Address` accepts: the texts that four groups make, and only they. -/
lemma isIpv4Address_iff : isIpv4Address (some text) = true ↔ ∃ a b c d, IsIpv4 text a b c d := by
  have hgroup : ∀ part, isIpv4Group part = true ↔ part ≠ [] ∧ part.length ≤ 3 ∧
      (∀ digit ∈ part, javaChar '0' ≤ digit ∧ digit ≤ javaChar '9') ∧ groupValue part ≤ 255 := by
    intro part
    simp [isIpv4Group, and_assoc]
  rw [isIpv4Address]
  constructor
  · intro h
    rw [Bool.and_eq_true, beq_iff_eq, List.all_eq_true] at h
    obtain ⟨a, b, c, d, hparts⟩ := List.length_eq_four.mp h.1
    refine ⟨a, b, c, d, ?_, fun part hpart => (hgroup part).mp (h.2 part (hparts ▸ hpart))⟩
    have hjoined : [javaChar '.'].intercalate (text.splitOn (javaChar '.')) = text :=
      List.intercalate_splitOn (javaChar '.')
    rw [hparts] at hjoined
    rw [← hjoined]
    simp [List.intercalate, List.intersperse]
  · rintro ⟨a, b, c, d, h⟩
    rw [h.splitOn_eq]
    simp only [List.length_cons, List.length_nil, Bool.and_eq_true, List.all_eq_true]
    exact ⟨rfl, fun part hpart => (hgroup part).mpr (h.groups part hpart)⟩

/-- A text that is digits only, or empty. -/
def IsDigits (part : JavaString) : Prop :=
  ∀ digit ∈ part, javaChar '0' ≤ digit ∧ digit ≤ javaChar '9'

lemma toNat_of_digit {digit : UInt16} (h : javaChar '0' ≤ digit ∧ digit ≤ javaChar '9') :
    48 ≤ digit.toNat ∧ digit.toNat ≤ 57 ∧ digit.toUInt8.toNat = digit.toNat := by
  have hlower : 48 ≤ digit.toNat := h.1
  have hupper : digit.toNat ≤ 57 := h.2
  refine ⟨hlower, hupper, ?_⟩
  rw [UInt16.toNat_toUInt8]
  omega

lemma getStringUTFChars_append (text rest : JavaString) :
    getStringUTFChars (text ++ rest) = getStringUTFChars text ++ getStringUTFChars rest :=
  List.flatMap_append

/-- A digit is one byte for both. -/
lemma getStringUTFChars_digits (h : IsDigits part) :
    getStringUTFChars part = part.map UInt16.toUInt8 := by
  induction part with
  | nil => rfl
  | cons digit part ih =>
      obtain ⟨hdigit, hrest⟩ := List.forall_mem_cons.mp h
      obtain ⟨hlower, hupper, -⟩ := toNat_of_digit hdigit
      have hascii : digit ≠ 0 ∧ digit < 0x80 := by
        refine ⟨?_, ?_⟩
        · rintro rfl
          simp at hlower
        · rw [UInt16.lt_iff_toNat_lt]
          exact hupper.trans_lt (by decide)
      rw [getStringUTFChars, List.flatMap_cons, if_pos hascii, List.map_cons]
      exact congrArg (List.cons _) (ih hrest)

/-- What a group is in the address that the server is given. -/
lemma isGroup_of_digits (hne : part ≠ []) (h : IsDigits part) :
    IsGroup (getStringUTFChars part) := by
  rw [getStringUTFChars_digits h]
  refine ⟨by simpa using hne, fun c hc => ?_⟩
  obtain ⟨digit, hdigit, rfl⟩ := List.mem_map.mp hc
  obtain ⟨hlower, hupper, htoNat⟩ := toNat_of_digit (h digit hdigit)
  rw [isdigit_iff, htoNat]
  exact ⟨hlower, hupper⟩

lemma numeral_of_digits (h : IsDigits part) :
    numeral 10 (getStringUTFChars part) = groupValue part := by
  rw [getStringUTFChars_digits h]
  induction part using List.reverseRecOn with
  | nil => rfl
  | append_singleton part digit ih =>
      have hdigit := toNat_of_digit (h digit (by simp))
      have hvalue : digitValue digit.toUInt8 = digit.toNat - 48 := by
        have hisdigit : isdigit digit.toUInt8 = true := by
          rw [isdigit_iff, hdigit.2.2]
          exact ⟨hdigit.1, hdigit.2.1⟩
        rw [digitValue, if_pos hisdigit, hdigit.2.2]
        rfl
      have hzero : (javaChar '0').toNat = 48 := rfl
      rw [List.map_append, List.map_singleton, numeral_concat,
        ih fun digit' hdigit' => h digit' (List.mem_append_left _ hdigit'), groupValue, groupValue,
        List.foldl_concat, hvalue, hzero]
      omega

lemma noOctal_of_digits (h : IsDigits part) : NoOctal (getStringUTFChars part) ↔
    (part.head? = some (javaChar '0') → groupValue part < 8) := by
  rw [NoOctal, numeral_of_digits h, getStringUTFChars_digits h]
  cases part with
  | nil => simp
  | cons digit part =>
      have hhead : digit.toUInt8 = byte '0' ↔ digit = javaChar '0' := by
        obtain ⟨-, -, htoNat⟩ := toNat_of_digit (h digit (by simp))
        rw [← UInt8.toNat_inj, htoNat, ← UInt16.toNat_inj]
        rfl
      simp [hhead]

/-! ## The address -/

/-- What the server is given is these groups as well. -/
lemma IsIpv4.inetAton_iff (h : IsIpv4 text a b c d) :
    inetAton (getStringUTFChars text) =
        some (quad (groupValue a) (groupValue b) (groupValue c) (groupValue d)) ↔
      ∀ part ∈ [a, b, c, d], part.head? = some (javaChar '0') → groupValue part < 8 := by
  have hdigits : ∀ part ∈ [a, b, c, d], IsDigits part := fun part hpart => (h.groups part hpart).2.2.1
  have hgroup : ∀ part ∈ [a, b, c, d], IsGroup (getStringUTFChars part) := fun part hpart =>
    isGroup_of_digits (h.groups part hpart).1 (hdigits part hpart)
  have htext : getStringUTFChars text =
      getStringUTFChars a ++ byte '.' :: (getStringUTFChars b ++ byte '.' ::
        (getStringUTFChars c ++ byte '.' :: getStringUTFChars d)) := by
    have hdot : ∀ rest, getStringUTFChars (javaChar '.' :: rest) =
        byte '.' :: getStringUTFChars rest := fun rest => rfl
    rw [h.text_eq, getStringUTFChars_append, hdot, getStringUTFChars_append, hdot,
      getStringUTFChars_append, hdot]
  have hdecimal : ∀ part ∈ [a, b, c, d], numeral 10 (getStringUTFChars part) = groupValue part :=
    fun part hpart => numeral_of_digits (hdigits part hpart)
  have hsmall : ∀ group ∈ [getStringUTFChars a, getStringUTFChars b, getStringUTFChars c,
      getStringUTFChars d], numeral 10 group < 256 := by
    intro group hgroup
    obtain ⟨part, hpart, rfl⟩ : ∃ part ∈ [a, b, c, d], getStringUTFChars part = group :=
      List.mem_map.mp (by simpa using hgroup)
    rw [hdecimal part hpart]
    exact Nat.lt_succ_of_le (h.groups part hpart).2.2.2
  rw [htext, ← hdecimal a (by simp), ← hdecimal b (by simp), ← hdecimal c (by simp),
    ← hdecimal d (by simp), inetAton_eq_decimal_iff (hgroup a (by simp)) (hgroup b (by simp))
      (hgroup c (by simp)) (hgroup d (by simp)) hsmall]
  simp only [List.forall_mem_cons, List.not_mem_nil, false_implies, implies_true, and_true,
    noOctal_of_digits (hdigits a (by simp)), noOctal_of_digits (hdigits b (by simp)),
    noOctal_of_digits (hdigits c (by simp)), noOctal_of_digits (hdigits d (by simp))]

/-- `normalizeAddress` returns an address in every case. -/
lemma isIpv4Address_normalizeAddress (candidate : Option JavaString) :
    isIpv4Address (some (normalizeAddress candidate)) = true := by
  have hdefault : isIpv4Address (some defaultAddress) = true := by decide +kernel
  cases candidate with
  | none => exact hdefault
  | some candidate =>
      rw [normalizeAddress]
      split_ifs with hempty haccepted
      · exact hdefault
      · exact haccepted
      · exact hdefault

/-- The same address is read when the result of `normalizeAddress` has no octal group. -/
lemma readsSameAddress_iff_result (candidate : Option JavaString) :
    ReadsSameAddress candidate ↔ NoOctalGroup (normalizeAddress candidate) := by
  obtain ⟨a, b, c, d, h⟩ := isIpv4Address_iff.mp (isIpv4Address_normalizeAddress candidate)
  constructor
  · rintro ⟨a', b', c', d', h', hread, -⟩
    rw [NoOctalGroup, h'.splitOn_eq]
    exact h'.inetAton_iff.mp hread
  · intro hnone
    rw [NoOctalGroup, h.splitOn_eq] at hnone
    have hread := h.inetAton_iff.mpr hnone
    refine ⟨a, b, c, d, h, hread, ?_⟩
    rw [bindAddress, hread]
    dsimp only
    split_ifs with hany
    · -- `INADDR_ANY` is what the text says in this case.
      rcases Bool.or_eq_true_iff.mp hany with hempty | hzero
      · rw [List.isEmpty_iff.mp hempty] at hread
        exact absurd hread (by simp [inetAton, atonNumbers, atonNumber, numberIn, bytes])
      · rw [beq_iff_eq.mp hzero] at hread
        have hquad : inetAton (bytes "0.0.0.0") = some 0 := by decide +kernel
        exact Option.some.inj (hquad.symm.trans hread)
    · rfl

/-- **When both languages read the same address**: exactly when the candidate, without its slashes, is
no address with an octal group.  Java reads each group as a decimal number, and `inet_aton` one with a
leading zero as an octal one. -/
theorem readsSameAddress_iff (candidate : Option JavaString) :
    ReadsSameAddress candidate ↔ ∀ text, candidate = some text →
      isIpv4Address (some (withoutSlashes text)) = true → NoOctalGroup (withoutSlashes text) := by
  rw [readsSameAddress_iff_result]
  have hdefault : NoOctalGroup defaultAddress := by
    rw [NoOctalGroup]
    decide +kernel
  cases candidate with
  | none => simp [normalizeAddress, hdefault]
  | some text =>
      rw [normalizeAddress]
      split_ifs with hempty haccepted
      · rw [List.isEmpty_iff] at hempty
        simp [hempty, hdefault, withoutSlashes, isIpv4Address]
      · simp [haccepted]
      · simp [haccepted, hdefault]

/-- An address with leading zeros is bound to as another one, or to every one. -/
theorem not_readsSameAddress_leading_zeros :
    ¬ ReadsSameAddress (some (java "/192.168.010.001")) ∧
      normalizeAddress (some (java "/192.168.010.001")) = java "192.168.010.001" ∧
      bindAddress inetAton (getStringUTFChars (java "192.168.010.001")) = quad 192 168 8 1 ∧
      bindAddress inetAton (getStringUTFChars (java "192.168.08.1")) = 0 := by
  refine ⟨?_, by decide +kernel, by decide +kernel, by decide +kernel⟩
  rw [readsSameAddress_iff_result]
  intro hnone
  have hoctal := hnone (java "010") (by decide +kernel) (by decide +kernel)
  exact absurd hoctal (by decide +kernel)

end LegacyAlpha
