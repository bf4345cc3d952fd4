import Mathlib.Data.List.DropRight
import Mathlib.Tactic

/-!
# What is left of a log

A memory of bounded size keeps the last entries of a log, and drops those that have expired.  It need
not keep the log for that: `push` looks at the memory only.  `Remains` says that the memory is what
is left of the log, and `Remains.push` that it stays so.  All rests on the log being sorted by
expiry: the entry that has to go is the oldest one of the memory, and no younger one expires before.
-/

namespace LegacyAlpha

namespace Window

variable {α β : Type*} [LinearOrder β] {expiry : α → β} {maximum : ℕ} {now later : β}
  {log entries : List α}

/-- The entries that have not expired, in the order in which they came.  An entry expires at its time,
not after it. -/
def live (expiry : α → β) (now : β) (entries : List α) : List α :=
  entries.filter fun entry => now < expiry entry

/-- One more entry.  Entries that have expired are removed first, and if the memory is still full
then, the oldest live one makes room. -/
def push (expiry : α → β) (maximum : ℕ) (now : β) (entries : List α) (entry : α) : List α :=
  (if (live expiry now entries).length ≥ maximum then (live expiry now entries).tail
    else live expiry now entries) ++ [entry]

/-- From this time on, the live entries are those among the last of the log. -/
def Remains (expiry : α → β) (maximum : ℕ) (now : β) (log entries : List α) : Prop :=
  ∀ later, now ≤ later → live expiry later entries = live expiry later (log.rtake maximum)

@[simp] lemma mem_live {entry : α} :
    entry ∈ live expiry now entries ↔ entry ∈ entries ∧ now < expiry entry := by
  simp [live]

lemma live_append (now : β) (xs ys : List α) :
    live expiry now (xs ++ ys) = live expiry now xs ++ live expiry now ys := by
  simp [live]

/-- What is live later is live now. -/
lemma live_live (hlater : now ≤ later) (entries : List α) :
    live expiry later (live expiry now entries) = live expiry later entries := by
  rw [live, live, live, List.filter_filter]
  refine List.filter_congr fun entry _ => ?_
  have himp : later < expiry entry → now < expiry entry := lt_of_le_of_lt hlater
  simpa using himp

/-- The last entries of a log: what stands before them, and how few stand behind each. -/
lemma mem_rtake_iff {entry : α} :
    entry ∈ log.rtake maximum ↔
      ∃ older newer, log = older ++ entry :: newer ∧ newer.length < maximum := by
  rw [List.rtake]
  constructor
  · intro hmem
    obtain ⟨before, newer, hsplit⟩ := List.append_of_mem hmem
    refine ⟨log.take (log.length - maximum) ++ before, newer, ?_, ?_⟩
    · rw [List.append_assoc, ← hsplit, List.take_append_drop]
    · have hlength := congrArg List.length hsplit
      simp at hlength
      omega
  · rintro ⟨older, newer, rfl, hlength⟩
    rw [List.drop_append_of_le_length (by simp; omega)]
    simp

/-- The window of one place more is the window, but where the log is longer. -/
lemma rtake_succ_cases (log : List α) (n : ℕ) :
    (log.rtake (n + 1) = log.rtake n ∧ log.length ≤ n) ∨
      ∃ oldest, log.rtake (n + 1) = oldest :: log.rtake n ∧ (log.rtake n).length = n := by
  by_cases hshort : log.length ≤ n
  · left
    simp [List.rtake, Nat.sub_eq_zero_of_le hshort, Nat.sub_eq_zero_of_le (Nat.le_succ_of_le hshort),
      hshort]
  · right
    have hlt : log.length - (n + 1) < log.length := by omega
    refine ⟨log[log.length - (n + 1)], ?_, by simp [List.rtake]; omega⟩
    rw [List.rtake, List.rtake, List.drop_eq_getElem_cons hlt]
    congr 2
    omega

/-- Time passes, and what has expired is dropped. -/
lemma Remains.live (h : Remains expiry maximum now log entries) (hlater : now ≤ later) :
    Remains expiry maximum later log (Window.live expiry later entries) := by
  intro t ht
  rw [live_live ht, h t (hlater.trans ht)]

lemma length_live_le (expiry : α → β) (now : β) (entries : List α) :
    (live expiry now entries).length ≤ entries.length :=
  List.length_filter_le _ _

/-- **The memory keeps its bound** when one more entry is pushed into it. -/
lemma length_push_le (hmax : 0 < maximum) (h : entries.length ≤ maximum) (now : β) (entry : α) :
    (push expiry maximum now entries entry).length ≤ maximum := by
  have hlive := (length_live_le expiry now entries).trans h
  rw [push]
  split_ifs with hfull
  · simp
    omega
  · simp
    omega

/-- **The memory is what is left of the log**, also after one more entry: of its last `maximum`
entries those that are live.  Here it counts that entries expire in the order in which they come. -/
theorem Remains.push (hmax : 0 < maximum)
    (hsorted : log.Pairwise fun older newer => expiry older ≤ expiry newer)
    (h : Remains expiry maximum now log entries) (hlater : now ≤ later) (entry : α) :
    Remains expiry maximum later (log ++ [entry])
      (Window.push expiry maximum later entries entry) := by
  obtain ⟨n, rfl⟩ : ∃ n, maximum = n + 1 := ⟨maximum - 1, by omega⟩
  intro t ht
  rw [Window.push, List.rtake_concat_succ, live_append, live_append]
  refine congrArg (· ++ Window.live expiry t [entry]) ?_
  rw [h later hlater]
  rcases rtake_succ_cases log n with ⟨hsame, hshort⟩ | ⟨oldest, hcons, hlength⟩
  · -- The log fits.
    have hfits : ¬ (Window.live expiry later (log.rtake n)).length ≥ n + 1 := by
      have hle := length_live_le expiry later (log.rtake n)
      simp [List.rtake] at hle ⊢
      omega
    rw [hsame, if_neg hfits, live_live ht]
  · by_cases hold : later < expiry oldest
    · -- The oldest is still live, and so are all others.
      have hall : Window.live expiry later (log.rtake (n + 1)) = oldest :: log.rtake n := by
        rw [hcons, Window.live, List.filter_eq_self]
        have hwindow : (oldest :: log.rtake n).Pairwise fun a b => expiry a ≤ expiry b :=
          hcons ▸ hsorted.sublist (List.drop_sublist _ _)
        intro x hx
        rcases List.mem_cons.mp hx with rfl | hx
        · exact decide_eq_true hold
        · exact decide_eq_true (hold.trans_le ((List.pairwise_cons.mp hwindow).1 x hx))
      rw [hall, if_pos (by simp [hlength]), List.tail_cons]
    · have hrest : Window.live expiry later (log.rtake (n + 1)) =
          Window.live expiry later (log.rtake n) := by
        rw [hcons, Window.live, Window.live, List.filter_cons_of_neg (by simpa using hold)]
      have hfits : ¬ (Window.live expiry later (log.rtake n)).length ≥ n + 1 := by
        have hle := length_live_le expiry later (log.rtake n)
        omega
      rw [hrest, if_neg hfits, live_live ht]

end Window

end LegacyAlpha
