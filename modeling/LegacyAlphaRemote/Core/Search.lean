import Mathlib.Tactic

/-!
# Searching a list for a pattern

`find l p start` is the first position of `l`, from `start` on, at which the pattern `p` occurs, and
`substr l start count` cuts a piece out.  Searches over a whole text are easy to run and awkward to
reason about, because they say nothing of where the pieces of the text begin and end.  Three groups
of lemmas make up for it.

**What a search finds.**  `find_eq_some_iff` and `find_eq_none_iff` characterise the answer by the
positions at which the pattern occurs.

**Searching a concatenation.**  `firstIndex_singleton_append` and `firstIndex_pair_append` find a separator
at the end of a piece that does not contain it, and `find_singleton_eq_some_iff` and
`find_pair_eq_some_iff` cut a text there.

**Texts with a common beginning.**  A search that ends within the first `n` elements does not depend
on the rest (`find_congr`), and a text cut off before the end of the first occurrence contains none
(`find_take_eq_none`).
-/

namespace Search

variable {α : Type*}

/-- The pattern `p` occurs in `l` at position `i`: what is left of `l` from there on begins with it.
-/
def OccursAt (p l : List α) (i : ℕ) : Prop := p <+: l.drop i

/-- The piece of `l` of length `count` that begins at `start`, and less when `l` ends before. -/
def substr (l : List α) (start count : ℕ) : List α := (l.drop start).take count

section Occurrences

variable {p q l r : List α} {i n : ℕ}

lemma OccursAt.length_le (h : OccursAt p l i) (hp : p ≠ []) : i + p.length ≤ l.length := by
  have hlen := List.IsPrefix.length_le h
  have hpos := List.length_pos_iff.mpr hp
  rw [List.length_drop] at hlen
  omega

lemma occursAt_append_pattern :
    OccursAt (p ++ q) l i ↔ OccursAt p l i ∧ OccursAt q l (i + p.length) := by
  constructor
  · rintro ⟨t, ht⟩
    refine ⟨⟨q ++ t, by rw [← ht, List.append_assoc]⟩, ⟨t, ?_⟩⟩
    rw [← List.drop_drop, ← ht, List.append_assoc, List.drop_left]
  · rintro ⟨⟨s, hs⟩, ⟨t, ht⟩⟩
    refine ⟨t, ?_⟩
    rw [← List.drop_drop, ← hs, List.drop_left] at ht
    rw [List.append_assoc, ht, hs]

/-- What stands at a position is what a concatenation puts there. -/
lemma occursAt_iff_exists :
    OccursAt p l i ∧ i ≤ l.length ↔ ∃ a b, l = a ++ p ++ b ∧ a.length = i := by
  constructor
  · rintro ⟨⟨t, ht⟩, hi⟩
    refine ⟨l.take i, t, ?_, by simpa using hi⟩
    rw [List.append_assoc, ht, List.take_append_drop]
  · rintro ⟨a, b, rfl, rfl⟩
    refine ⟨⟨b, ?_⟩, by simp⟩
    rw [List.append_assoc, List.drop_left]

lemma occursAt_append_left (h : OccursAt p l i) : OccursAt p (l ++ r) i := by
  obtain ⟨t, ht⟩ := h
  by_cases hi : i ≤ l.length
  · exact ⟨t ++ r, by rw [← List.append_assoc, ht, List.drop_append_of_le_length hi]⟩
  · rw [List.drop_eq_nil_of_le (by omega)] at ht
    rw [(List.append_eq_nil_iff.mp ht).1]
    exact List.nil_prefix

lemma occursAt_append_right (a : List α) : OccursAt p (a ++ l) (a.length + i) ↔ OccursAt p l i := by
  rw [OccursAt, OccursAt, ← List.drop_drop, List.drop_left]

lemma occursAt_length (a : List α) : OccursAt p (a ++ l) a.length ↔ p <+: l := by
  rw [OccursAt, List.drop_left]

/-- An occurrence that ends within the first `n` elements is seen there. -/
lemma occursAt_take (hn : i + p.length ≤ n) : OccursAt p (l.take n) i ↔ OccursAt p l i := by
  rw [OccursAt, OccursAt, List.drop_take, List.prefix_take_iff]
  exact and_iff_left (by omega)

lemma occursAt_congr (hlr : l.take n = r.take n) (hn : i + p.length ≤ n) :
    OccursAt p l i ↔ OccursAt p r i := by
  rw [← occursAt_take hn, hlr, occursAt_take hn]

lemma infix_iff_occursAt : p <:+: l ↔ ∃ i, OccursAt p l i := by
  constructor
  · rintro ⟨a, b, rfl⟩
    exact ⟨a.length, by rw [List.append_assoc, occursAt_length]; exact List.prefix_append p b⟩
  · rintro ⟨i, hi⟩
    exact hi.isInfix.trans (List.drop_suffix i l).isInfix

/-- A pattern does not begin in a piece its first element is missing from. -/
lemma not_infix_append {x : α} {a b : List α} (ha : x ∉ a) (hb : ¬ x :: p <:+: b) :
    ¬ x :: p <:+: a ++ b := by
  induction a with
  | nil => exact hb
  | cons c a ih =>
      rw [List.cons_append, List.infix_cons_iff]
      rintro (h | h)
      · exact ha (by rw [(List.cons_prefix_cons.mp h).1]; exact List.mem_cons_self)
      · exact ih (fun hx => ha (List.mem_cons_of_mem c hx)) h

end Occurrences

/-! ## What a search finds -/

section Search

variable [DecidableEq α]

instance decidableOccursAt (p l : List α) (i : ℕ) : Decidable (OccursAt p l i) :=
  inferInstanceAs (Decidable (p <+: l.drop i))

/-- The first position of `l` at which `p` occurs.  The empty pattern occurs at once, in the empty
list too. -/
def firstIndex (p : List α) : List α → Option ℕ
  | [] => if p = [] then some 0 else none
  | x :: l => if p <+: x :: l then some 0 else (firstIndex p l).map (· + 1)

/-- The first position of `l`, from `start` on, at which `p` occurs.  Positions are those of the whole
of `l`, as `std::string::find` counts them. -/
def find (l p : List α) (start : ℕ) : Option ℕ := (firstIndex p (l.drop start)).map (start + ·)

variable {p q l r : List α} {i j n start : ℕ}

lemma firstIndex_eq_some_iff (hp : p ≠ []) : ∀ {l : List α} {i : ℕ},
    firstIndex p l = some i ↔ OccursAt p l i ∧ ∀ j < i, ¬ OccursAt p l j
  | [], i => by
      simp only [firstIndex, OccursAt, List.drop_nil, List.prefix_nil, hp]
      simp
  | x :: l, i => by
      by_cases hx : p <+: x :: l
      · simp only [firstIndex, if_pos hx, Option.some.injEq]
        constructor
        · rintro rfl
          exact ⟨hx, fun j hj => absurd hj (Nat.not_lt_zero j)⟩
        · rintro ⟨-, hmin⟩
          by_contra hi
          exact hmin 0 (by omega) hx
      · simp only [firstIndex, if_neg hx, Option.map_eq_some_iff]
        constructor
        · rintro ⟨k, hk, rfl⟩
          obtain ⟨hocc, hmin⟩ := (firstIndex_eq_some_iff hp).mp hk
          refine ⟨hocc, fun j hj => ?_⟩
          cases j with
          | zero => exact hx
          | succ j => exact hmin j (by omega)
        · rintro ⟨hocc, hmin⟩
          cases i with
          | zero => exact absurd hocc hx
          | succ i =>
              refine ⟨i, (firstIndex_eq_some_iff hp).mpr ⟨hocc, fun j hj => ?_⟩, rfl⟩
              exact hmin (j + 1) (by omega)

lemma firstIndex_eq_none_iff (hp : p ≠ []) : ∀ {l : List α},
    firstIndex p l = none ↔ ∀ i, ¬ OccursAt p l i
  | [] => by simp [firstIndex, hp, OccursAt]
  | x :: l => by
      by_cases hx : p <+: x :: l
      · simp only [firstIndex, if_pos hx, reduceCtorEq, false_iff, not_forall, not_not]
        exact ⟨0, hx⟩
      · simp only [firstIndex, if_neg hx, Option.map_eq_none_iff, firstIndex_eq_none_iff hp]
        constructor
        · intro h i
          cases i with
          | zero => exact hx
          | succ i => exact h i
        · exact fun h i => h (i + 1)

/-- **What `find` answers**: the least position from `start` on at which the pattern occurs, and no
other. -/
theorem find_eq_some_iff (hp : p ≠ []) :
    find l p start = some i ↔
      start ≤ i ∧ OccursAt p l i ∧ ∀ j, start ≤ j → j < i → ¬ OccursAt p l j := by
  have hdrop : ∀ k, OccursAt p (l.drop start) k ↔ OccursAt p l (start + k) := by
    intro k
    rw [OccursAt, OccursAt, List.drop_drop]
  simp only [find, Option.map_eq_some_iff, firstIndex_eq_some_iff hp, hdrop]
  constructor
  · rintro ⟨k, ⟨hocc, hmin⟩, rfl⟩
    refine ⟨Nat.le_add_right start k, hocc, fun j hj hjk => ?_⟩
    obtain ⟨m, rfl⟩ := Nat.exists_eq_add_of_le hj
    exact hmin m (by omega)
  · rintro ⟨hi, hocc, hmin⟩
    obtain ⟨k, rfl⟩ := Nat.exists_eq_add_of_le hi
    exact ⟨k, ⟨hocc, fun j hj => hmin (start + j) (by omega) (by omega)⟩, rfl⟩

theorem find_eq_none_iff (hp : p ≠ []) :
    find l p start = none ↔ ∀ i, start ≤ i → ¬ OccursAt p l i := by
  simp only [find, Option.map_eq_none_iff, firstIndex_eq_none_iff hp]
  constructor
  · intro h i hi
    obtain ⟨k, rfl⟩ := Nat.exists_eq_add_of_le hi
    have hk := h k
    rwa [OccursAt, List.drop_drop] at hk
  · intro h k
    rw [OccursAt, List.drop_drop]
    exact h (start + k) (by omega)

lemma find_zero_eq_none_iff (hp : p ≠ []) : find l p 0 = none ↔ ¬ p <:+: l := by
  rw [find_eq_none_iff hp, infix_iff_occursAt, not_exists]
  exact ⟨fun h i => h i (Nat.zero_le i), fun h i _ => h i⟩

/-! ## Searching a concatenation -/

/-- Where a search stops, the pattern stands, and it does not stand in what was passed over. -/
lemma firstIndex_split (hp : p ≠ []) (h : firstIndex p l = some i) :
    ∃ a b, l = a ++ (p ++ b) ∧ ¬ p <:+: a ∧ i = a.length := by
  obtain ⟨hocc, hmin⟩ := (firstIndex_eq_some_iff hp).mp h
  have hle := hocc.length_le hp
  obtain ⟨a, b, rfl, rfl⟩ := occursAt_iff_exists.mp ⟨hocc, by omega⟩
  refine ⟨a, b, List.append_assoc _ _ _, ?_, rfl⟩
  intro hmatch
  obtain ⟨j, hj⟩ := infix_iff_occursAt.mp hmatch
  have hlen := hj.length_le hp
  have hpos := List.length_pos_iff.mpr hp
  refine hmin j (by omega) ?_
  rw [List.append_assoc]
  exact occursAt_append_left hj

lemma firstIndex_singleton_append {x : α} {a b : List α} (ha : x ∉ a) :
    firstIndex [x] (a ++ x :: b) = some a.length := by
  rw [firstIndex_eq_some_iff (List.cons_ne_nil _ _)]
  refine ⟨(occursAt_length a).mpr ⟨b, rfl⟩, fun j hj hocc => ha ?_⟩
  rw [OccursAt, List.drop_append_of_le_length (by omega), List.drop_eq_getElem_cons hj] at hocc
  have hx : x = a[j] := (List.cons_prefix_cons.mp hocc).1
  rw [hx]
  exact List.getElem_mem hj

/-- A two-element separator with different elements is found at the end of a piece that does not
contain it: no occurrence straddles the two. -/
lemma firstIndex_pair_append {x y : α} (hxy : x ≠ y) {a b : List α} (ha : ¬ [x, y] <:+: a) :
    firstIndex [x, y] (a ++ x :: y :: b) = some a.length := by
  rw [firstIndex_eq_some_iff (List.cons_ne_nil _ _)]
  refine ⟨(occursAt_length a).mpr ⟨b, rfl⟩, fun j hj hocc => ?_⟩
  by_cases hend : j + 2 ≤ a.length
  · refine ha (infix_iff_occursAt.mpr ⟨j, ?_⟩)
    have htake := (occursAt_take (p := [x, y]) (l := a ++ x :: y :: b) (n := a.length) hend).mpr hocc
    rwa [List.take_left] at htake
  · obtain rfl : j = a.length - 1 := by omega
    rw [OccursAt, List.drop_append_of_le_length (by omega), List.drop_eq_getElem_cons hj,
      List.drop_eq_nil_of_le (by omega)] at hocc
    have hy := (List.cons_prefix_cons.mp hocc).2
    exact hxy (List.cons_prefix_cons.mp hy).1.symm

/-- A text is cut at the first occurrence of an element in one way only. -/
lemma singleton_append_inj {x : α} {a a' b b' : List α} (ha : x ∉ a) (ha' : x ∉ a')
    (h : a ++ x :: b = a' ++ x :: b') : a = a' ∧ b = b' := by
  have hlen := firstIndex_singleton_append (b := b) ha
  rw [h, firstIndex_singleton_append ha'] at hlen
  obtain ⟨rfl, htail⟩ := List.append_inj h (Option.some.inj hlen).symm
  exact ⟨rfl, (List.cons.inj htail).2⟩

/-- A text is cut at the first occurrence of a separator in one way only. -/
lemma pair_append_inj {x y : α} (hxy : x ≠ y) {a a' b b' : List α} (ha : ¬ [x, y] <:+: a)
    (ha' : ¬ [x, y] <:+: a') (h : a ++ x :: y :: b = a' ++ x :: y :: b') :
    a = a' ∧ b = b' := by
  have hlen := firstIndex_pair_append hxy (b := b) ha
  rw [h, firstIndex_pair_append hxy ha'] at hlen
  obtain ⟨rfl, htail⟩ := List.append_inj h (Option.some.inj hlen).symm
  exact ⟨rfl, (List.cons.inj (List.cons.inj htail).2).2⟩

/-- **Searching for one element** cuts a text at its first occurrence: the part before it does not
contain the element. -/
theorem find_singleton_eq_some_iff {x : α} :
    find l [x] start = some i ↔
      ∃ a b, l.drop start = a ++ x :: b ∧ x ∉ a ∧ i = start + a.length := by
  simp only [find, Option.map_eq_some_iff]
  constructor
  · rintro ⟨k, hk, rfl⟩
    obtain ⟨a, b, hab, ha, rfl⟩ := firstIndex_split (List.cons_ne_nil _ _) hk
    exact ⟨a, b, hab, fun hx => ha ((List.singleton_infix_iff _ _).mpr hx), rfl⟩
  · rintro ⟨a, b, hab, ha, rfl⟩
    exact ⟨a.length, by rw [hab, firstIndex_singleton_append ha], rfl⟩

/-- **Searching for a separator of two elements** cuts a text at its first occurrence: no separator
stands in the part before it, or straddles its end. -/
theorem find_pair_eq_some_iff {x y : α} (hxy : x ≠ y) :
    find l [x, y] start = some i ↔
      ∃ a b, l.drop start = a ++ x :: y :: b ∧ ¬ [x, y] <:+: a ∧ i = start + a.length := by
  simp only [find, Option.map_eq_some_iff]
  constructor
  · rintro ⟨k, hk, rfl⟩
    obtain ⟨a, b, hab, ha, rfl⟩ := firstIndex_split (List.cons_ne_nil _ _) hk
    exact ⟨a, b, hab, ha, rfl⟩
  · rintro ⟨a, b, hab, ha, rfl⟩
    exact ⟨a.length, by rw [hab, firstIndex_pair_append hxy ha], rfl⟩

/-! ## Texts with a common beginning -/

/-- A search that ends within a common beginning of two texts finds the same in both, whatever follows
in either. -/
theorem find_congr (hp : p ≠ []) (hlr : l.take n = r.take n) (h : find l p start = some i)
    (hn : i + p.length ≤ n) : find r p start = some i := by
  obtain ⟨hi, hocc, hmin⟩ := (find_eq_some_iff hp).mp h
  refine (find_eq_some_iff hp).mpr ⟨hi, (occursAt_congr hlr hn).mp hocc, fun j hj hji hr => ?_⟩
  exact hmin j hj hji ((occursAt_congr hlr (by omega)).mpr hr)

/-- A text cut off before the end of the first occurrence does not contain the pattern. -/
theorem find_take_eq_none (hp : p ≠ []) (h : find l p start = some i) (hn : n < i + p.length) :
    find (l.take n) p start = none := by
  obtain ⟨-, -, hmin⟩ := (find_eq_some_iff hp).mp h
  refine (find_eq_none_iff hp).mpr fun j hj hocc => ?_
  have hlen := hocc.length_le hp
  rw [List.length_take] at hlen
  exact hmin j hj (by omega) ((occursAt_take (by omega)).mp hocc)

end Search

/-! ## Pieces -/

section Pieces

variable {l r : List α} {n start : ℕ}

lemma substr_of_drop {a b : List α} (h : l.drop start = a ++ b) :
    substr l start a.length = a := by
  rw [substr, h, List.take_left]

lemma drop_of_drop {a b : List α} (h : l.drop start = a ++ b) :
    l.drop (start + a.length) = b := by
  rw [← List.drop_drop, h, List.drop_left]

/-- What follows an element that ends a piece. -/
lemma drop_of_drop_cons {a b : List α} {x : α} (h : l.drop start = a ++ x :: b) :
    l.drop (start + a.length + 1) = b := by
  rw [← List.drop_drop, drop_of_drop h, List.drop_one, List.tail_cons]

lemma substr_append_length (a b c : List α) :
    substr (a ++ (b ++ c)) a.length b.length = b := by
  rw [substr, List.drop_left, List.take_left]

end Pieces

end Search
