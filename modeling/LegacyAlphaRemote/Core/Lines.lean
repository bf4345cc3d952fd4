import LegacyAlphaRemote.Core.Search

/-!
# Lines with an empty line at their end

A head is a sequence of lines, each ended by the same two symbols, with an empty line after the last.
`readLines` takes a text apart again, and `readLines_writeLines` says that it finds the lines that were
written and what follows them.  Of a head that is cut off it reads nothing (`readLines_take`), so that
whoever receives it piece by piece can tell when it is complete.
-/

namespace Lines

open Search

variable {α : Type*} {x y : α} {line : List α} {lines : List (List α)} {n k : ℕ}

/-- A line before its end: it is not empty, and does not contain the end of a line. -/
def IsLine (x y : α) (line : List α) : Prop := line ≠ [] ∧ ¬ [x, y] <:+: line

/-- The lines of a head, each with the separator behind it, and the empty line that ends them. -/
def writeLines (x y : α) (lines : List (List α)) : List α :=
  lines.flatMap (· ++ [x, y]) ++ [x, y]

lemma writeLines_cons (x y : α) (line : List α) (lines : List (List α)) :
    writeLines x y (line :: lines) = line ++ x :: y :: writeLines x y lines := by
  simp [writeLines]

/-- Cutting a text behind the end of its first line cuts the lines behind it. -/
lemma take_append_pair (hk : line.length + 2 ≤ k) (rest : List α) :
    (line ++ x :: y :: rest).take k = line ++ x :: y :: rest.take (k - (line.length + 2)) := by
  obtain ⟨m, rfl⟩ := Nat.exists_eq_add_of_le hk
  rw [Nat.add_sub_cancel_left, add_assoc, List.take_length_add_append, add_comm 2 m]
  rfl

variable [DecidableEq α]

/-- The text up to the end of its first line, and what follows the separator, if there is a whole
line. -/
def readLine (x y : α) (text : List α) : Option (List α × List α) :=
  (firstIndex [x, y] text).map fun i => (text.take i, text.drop (i + 2))

/-- So many lines at most, up to an empty one, and what follows it. -/
def readLines (x y : α) : ℕ → List α → Option (List (List α) × List α)
  | 0, _ => none
  | left + 1, text =>
    match readLine x y text with
    | none => none
    | some (line, rest) =>
      if line = [] then some ([], rest)
      else (readLines x y left rest).map fun (lines, rest) => (line :: lines, rest)

/-! ## One line -/

lemma readLine_append (hxy : x ≠ y) (hline : ¬ [x, y] <:+: line) (rest : List α) :
    readLine x y (line ++ x :: y :: rest) = some (line, rest) := by
  rw [readLine, firstIndex_pair_append hxy hline, Option.map_some, List.take_left,
    ← List.drop_drop, List.drop_left]
  rfl

/-- A line that is cut off is not read. -/
lemma readLine_take (hxy : x ≠ y) (hline : ¬ [x, y] <:+: line) (rest : List α)
    (hk : k < line.length + 2) : readLine x y ((line ++ x :: y :: rest).take k) = none := by
  have hfound : find (line ++ x :: y :: rest) [x, y] 0 = some line.length := by
    rw [find, List.drop_zero, firstIndex_pair_append hxy hline]
    simp
  have hnone := find_take_eq_none (List.cons_ne_nil x [y]) hfound hk
  rw [find, List.drop_zero, Option.map_eq_none_iff] at hnone
  rw [readLine, hnone, Option.map_none]

/-! ## Several lines -/

/-- **The lines are read as they were written**, up to the empty line, and what follows that is left
as it is. -/
theorem readLines_writeLines (hxy : x ≠ y) (hlines : ∀ line ∈ lines, IsLine x y line)
    (hn : lines.length < n) (rest : List α) :
    readLines x y n (writeLines x y lines ++ rest) = some (lines, rest) := by
  induction lines generalizing n with
  | nil =>
      obtain ⟨n, rfl⟩ := Nat.exists_eq_succ_of_ne_zero hn.ne_bot
      have hempty : ¬ [x, y] <:+: [] := by simp
      have hread := readLine_append hxy hempty rest
      rw [List.nil_append] at hread
      simp only [writeLines, List.flatMap_nil, List.nil_append, List.cons_append, readLines, hread,
        if_true]
  | cons line lines ih =>
      obtain ⟨n, rfl⟩ := Nat.exists_eq_succ_of_ne_zero hn.ne_bot
      obtain ⟨hline, hlines⟩ := List.forall_mem_cons.mp hlines
      rw [List.length_cons] at hn
      have hrest := ih hlines (show lines.length < n by omega)
      rw [writeLines_cons, List.append_assoc, List.cons_append, List.cons_append]
      simp only [readLines, readLine_append hxy hline.2, if_neg hline.1, hrest, Option.map_some]

/-- **A head that is cut off** is not read: wherever it ends before the empty line is complete, there
is no answer yet. -/
theorem readLines_take (hxy : x ≠ y) (hlines : ∀ line ∈ lines, IsLine x y line)
    (hk : k < (writeLines x y lines).length) (rest : List α) :
    readLines x y n ((writeLines x y lines ++ rest).take k) = none := by
  induction lines generalizing n k with
  | nil =>
      cases n with
      | zero => rfl
      | succ n =>
          have hempty : ¬ [x, y] <:+: [] := by simp
          have hnone := readLine_take hxy hempty rest (show k < [].length + 2 by simpa [writeLines] using hk)
          rw [List.nil_append] at hnone
          simp only [writeLines, List.flatMap_nil, List.nil_append, List.cons_append, readLines, hnone]
  | cons line lines ih =>
      cases n with
      | zero => rfl
      | succ n =>
          obtain ⟨hline, hlines⟩ := List.forall_mem_cons.mp hlines
          rw [writeLines_cons, List.length_append, List.length_cons, List.length_cons] at hk
          rw [writeLines_cons, List.append_assoc, List.cons_append, List.cons_append]
          by_cases hcut : k < line.length + 2
          · simp only [readLines, readLine_take hxy hline.2 _ hcut]
          · have hrest := ih hlines (n := n) (show k - (line.length + 2) < _ by omega)
            rw [take_append_pair (by omega)]
            simp only [readLines, readLine_append hxy hline.2, if_neg hline.1, hrest, Option.map_none]

end Lines
