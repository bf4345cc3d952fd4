import Mathlib.Data.List.Basic
import Mathlib.Data.List.Infix
import Mathlib.Tactic.Push

/-!
# Numbers as names

Things are stored one after the other, and from time to time everything stored is thrown away.  When
the last thing stored is known by how many there are, two different things may come to have the same
number: they do not exactly when what is stored at any time is the beginning of what is stored at any
other, or the other way round (`names_iff`).
-/

namespace Versions

variable {ε α : Type*}

/-- What the events leave stored: each of them throws everything away, stores one thing, or does
neither. -/
structure Stored (view : List ε → List α) : Prop where
  nil : view [] = []
  concat : ∀ es e, view (es ++ [e]) = [] ∨ view (es ++ [e]) = view es ∨
    ∃ a, view (es ++ [e]) = view es ++ [a]

/-- The number of the last thing stored names it, all the time: whenever as many things have been
stored as at another time, the last one is the same. -/
def Names (view : List ε → List α) (es : List ε) : Prop :=
  ∀ past past', past <+: es → past' <+: es → (view past).length = (view past').length →
    (view past).getLast? = (view past').getLast?

/-- What is stored at two times agrees as far as both go: one of the two lists begins with the other.
-/
def Agrees (view : List ε → List α) (es : List ε) : Prop :=
  ∀ past past', past <+: es → past' <+: es → view past <+: view past' ∨ view past' <+: view past

variable {view : List ε → List α} {es past : List ε} {n : ℕ}

/-- What is stored was built up one by one. -/
lemma Stored.exists_take (h : Stored view) : ∀ es : List ε, n ≤ (view es).length →
    ∃ past, past <+: es ∧ view past = (view es).take n := by
  intro es
  induction es using List.reverseRecOn with
  | nil => exact fun _ => ⟨[], List.prefix_rfl, by simp [h.nil]⟩
  | append_singleton es e ih =>
      intro hn
      have hpast : es <+: es ++ [e] := List.prefix_append es [e]
      rcases h.concat es e with hview | hview | ⟨a, hview⟩
      · rw [hview] at hn ⊢
        exact ⟨[], List.nil_prefix, by simp [h.nil]⟩
      · rw [hview] at hn ⊢
        obtain ⟨past, hbegins, htake⟩ := ih hn
        exact ⟨past, hbegins.trans hpast, htake⟩
      · by_cases hall : n = (view (es ++ [e])).length
        · exact ⟨es ++ [e], List.prefix_rfl, by rw [hall, List.take_length]⟩
        · rw [hview, List.length_append, List.length_singleton] at hn hall
          have hshort : n ≤ (view es).length := by omega
          obtain ⟨past, hbegins, htake⟩ := ih hshort
          refine ⟨past, hbegins.trans hpast, ?_⟩
          rw [htake, hview, List.take_append_of_le_length hshort]

/-- Things with the same number are the same, so that what is stored agrees number by number. -/
lemma Names.take_eq (h : Stored view) (hnames : Names view es) {past past' : List ε}
    (hpast : past <+: es) (hpast' : past' <+: es) : ∀ n, n ≤ (view past).length →
      n ≤ (view past').length → (view past).take n = (view past').take n := by
  intro n
  induction n with
  | zero => simp
  | succ n ih =>
      intro hn hn'
      obtain ⟨early, hearly, htake⟩ := h.exists_take past hn
      obtain ⟨early', hearly', htake'⟩ := h.exists_take past' hn'
      have hlength : (view early).length = (view early').length := by
        rw [htake, htake', List.length_take_of_le hn, List.length_take_of_le hn']
      have hlast := hnames early early' (hearly.trans hpast) (hearly'.trans hpast') hlength
      rw [htake, htake', List.take_succ_eq_append_getElem hn, List.take_succ_eq_append_getElem hn',
        List.getLast?_concat, List.getLast?_concat] at hlast
      rw [List.take_succ_eq_append_getElem hn, List.take_succ_eq_append_getElem hn',
        ih (Nat.le_of_succ_le hn) (Nat.le_of_succ_le hn'), Option.some.inj hlast]

/-- **When numbers are names**: exactly when what is stored at any two times agrees as far as both go.
-/
theorem names_iff (h : Stored view) : Names view es ↔ Agrees view es := by
  constructor
  · intro hnames past past' hpast hpast'
    rcases le_total (view past).length (view past').length with hle | hle
    · refine Or.inl (List.prefix_iff_eq_take.mpr ?_)
      rw [← hnames.take_eq h hpast hpast' _ le_rfl hle, List.take_length]
    · refine Or.inr (List.prefix_iff_eq_take.mpr ?_)
      rw [hnames.take_eq h hpast hpast' _ hle le_rfl, List.take_length]
  · intro hagrees past past' hpast hpast' hlength
    rcases hagrees past past' hpast hpast' with hbegins | hbegins
    · rw [hbegins.eq_of_length hlength]
    · rw [hbegins.eq_of_length hlength.symm]

end Versions
