import Mathlib.Data.Finset.Card
import Mathlib.Tactic

/-!
# Guessing a secret

Someone moves a system that has a secret and sees what it answers, and may choose each move by what was
answered before (a strategy).  Some moves try a value.  As long as the value is not the secret, what the
system does must not depend on it (`Hides`).

`card_hit_le` counts the secrets that a strategy finds: no more than the values that it tries.  It says
nothing about how the secret is chosen, so that a chance is this number divided by that of all secrets.
-/

namespace Guessing

/-- A system that is moved and answers.  A move may try a value, and the state decides whether it does. -/
structure Game (S M O G : Type*) where
  step : S → M → O × S
  guess : S → M → Option G
  secret : S → G

variable {S M O G ι : Type*} (game : Game S M O G)

/-- The first moves of a strategy, each with the state that it meets.  A strategy chooses a move by
the list of everything observed so far, so that what is left of it after one observation is a strategy
again. -/
def plays : (List O → M) → S → ℕ → List (S × M)
  | _, _, 0 => []
  | strategy, s, n + 1 =>
    let out := game.step s (strategy [])
    (s, strategy []) :: plays (fun seen => strategy (out.1 :: seen)) out.2 n

/-- The values that are tried in these moves, in their order.  A move need not try any. -/
def guesses (moves : List (S × M)) : List G := moves.filterMap fun move => game.guess move.1 move.2

/-- The secret is tried: some move tries the very value that is the secret of the state it meets. -/
def Hit (moves : List (S × M)) : Prop :=
  ∃ move ∈ moves, game.guess move.1 move.2 = some (game.secret move.1)

/-- Twins are the same but for their secrets, and stay so until one of these is tried. -/
structure Hides (Twin : S → S → Prop) : Prop where
  guess : ∀ {s s' m}, Twin s s' → game.guess s' m = game.guess s m
  step : ∀ {s s' m}, Twin s s' → game.guess s m ≠ some (game.secret s) →
    game.guess s m ≠ some (game.secret s') →
    (game.step s' m).1 = (game.step s m).1 ∧ Twin (game.step s m).2 (game.step s' m).2
  secret : ∀ {s m}, Twin s s → game.guess s m ≠ some (game.secret s) →
    game.secret (game.step s m).2 = game.secret s

variable {game} {Twin : S → S → Prop} {strategy : List O → M} {s : S} {n budget : ℕ}

lemma guesses_plays_succ : guesses game (plays game strategy s (n + 1)) =
    (game.guess s (strategy [])).toList ++ guesses game (plays game
      (fun seen => strategy ((game.step s (strategy [])).1 :: seen)) (game.step s (strategy [])).2 n) := by
  rw [plays, guesses, guesses]
  cases hguess : game.guess s (strategy []) with
  | none => exact List.filterMap_cons_none hguess
  | some g => exact List.filterMap_cons_some hguess

lemma hit_plays_succ : Hit game (plays game strategy s (n + 1)) ↔
    game.guess s (strategy []) = some (game.secret s) ∨ Hit game (plays game
      (fun seen => strategy ((game.step s (strategy [])).1 :: seen)) (game.step s (strategy [])).2 n) := by
  simp only [Hit, plays, List.mem_cons, exists_eq_or_imp]

open Classical in
/-- Those who are not found by the first move. -/
lemma card_hit_succ_le (h : Hides game Twin) {indices : Finset ι} {state : ι → S}
    (htwins : ∀ i ∈ indices, ∀ j ∈ indices, Twin (state i) (state j))
    (hsecrets : Set.InjOn (fun i => game.secret (state i)) indices)
    (hmissed : ∀ i ∈ indices, ∀ j ∈ indices,
      game.guess (state i) (strategy []) ≠ some (game.secret (state j)))
    (hbudget : ∀ i ∈ indices, (guesses game (plays game strategy (state i) (n + 1))).length ≤
      (game.guess (state i) (strategy [])).toList.length + budget)
    (ih : ∀ (strategy : List O → M) (state : ι → S),
      (∀ i ∈ indices, ∀ j ∈ indices, Twin (state i) (state j)) →
      Set.InjOn (fun i => game.secret (state i)) indices →
      (∀ i ∈ indices, (guesses game (plays game strategy (state i) n)).length ≤ budget) →
      (indices.filter fun i => Hit game (plays game strategy (state i) n)).card ≤ budget) :
    (indices.filter fun i => Hit game (plays game strategy (state i) (n + 1))).card ≤ budget := by
  rcases indices.eq_empty_or_nonempty with rfl | ⟨i₀, hi₀⟩
  · simp
  -- All answer the same.
  have hanswer : ∀ i ∈ indices, (game.step (state i) (strategy [])).1 =
      (game.step (state i₀) (strategy [])).1 := by
    intro i hi
    exact (h.step (htwins i₀ hi₀ i hi) (hmissed i₀ hi₀ i₀ hi₀) (hmissed i₀ hi₀ i hi)).1
  have hrest := ih (fun seen => strategy ((game.step (state i₀) (strategy [])).1 :: seen))
    (fun i => (game.step (state i) (strategy [])).2) ?_ ?_ ?_
  · refine le_trans (le_of_eq (congrArg Finset.card (Finset.filter_congr fun i hi => ?_))) hrest
    rw [hit_plays_succ, or_iff_right (hmissed i hi i hi), hanswer i hi]
  · intro i hi j hj
    exact (h.step (htwins i hi j hj) (hmissed i hi i hi) (hmissed i hi j hj)).2
  · intro i hi j hj hsame
    dsimp only at hsame
    rw [h.secret (htwins i hi i hi) (hmissed i hi i hi),
      h.secret (htwins j hj j hj) (hmissed j hj j hj)] at hsame
    exact hsecrets hi hj hsame
  · intro i hi
    have hspent := hbudget i hi
    rw [guesses_plays_succ, hanswer i hi, List.length_append] at hspent
    exact Nat.le_of_add_le_add_left hspent

open Classical in
/-- **No more secrets are found than values are tried**: for twins with different secrets, of which each
lets the strategy try so many values at most. -/
theorem card_hit_le (h : Hides game Twin) (n : ℕ) :
    ∀ {budget : ℕ} (strategy : List O → M) (indices : Finset ι) (state : ι → S),
    (∀ i ∈ indices, ∀ j ∈ indices, Twin (state i) (state j)) →
    Set.InjOn (fun i => game.secret (state i)) indices →
    (∀ i ∈ indices, (guesses game (plays game strategy (state i) n)).length ≤ budget) →
    (indices.filter fun i => Hit game (plays game strategy (state i) n)).card ≤ budget := by
  induction n with
  | zero =>
      intro budget strategy indices state _ _ _
      have hnone : (indices.filter fun i => Hit game (plays game strategy (state i) 0)) = ∅ := by
        simp [Hit, plays]
      rw [hnone]
      exact Nat.zero_le _
  | succ n ih =>
      intro budget strategy indices state htwins hsecrets hbudget
      rcases indices.eq_empty_or_nonempty with rfl | ⟨i₀, hi₀⟩
      · simp
      have hguess : ∀ i ∈ indices, game.guess (state i) (strategy []) =
          game.guess (state i₀) (strategy []) := fun i hi => h.guess (htwins i₀ hi₀ i hi)
      cases htried : game.guess (state i₀) (strategy []) with
      | none =>
          apply card_hit_succ_le h htwins hsecrets
          · intro i hi j hj
            rw [hguess i hi, htried]
            exact Option.some_ne_none _ |>.symm
          · intro i hi
            rw [hguess i hi, htried, Option.toList_none, List.length_nil, Nat.zero_add]
            exact hbudget i hi
          · exact fun strategy state => ih strategy indices state
      | some g =>
          -- One of them has this secret at most, and is left out.
          let rest := indices.filter fun i => game.secret (state i) ≠ g
          have hsub : ∀ {i}, i ∈ rest → i ∈ indices := fun hi => (Finset.mem_filter.mp hi).1
          have hone : (indices.filter fun i => game.secret (state i) = g).card ≤ 1 := by
            refine Finset.card_le_one.mpr fun i hi j hj => ?_
            obtain ⟨hi, hsame⟩ := Finset.mem_filter.mp hi
            obtain ⟨hj, hsame'⟩ := Finset.mem_filter.mp hj
            exact hsecrets hi hj (hsame.trans hsame'.symm)
          have hpositive : 1 ≤ budget := by
            have hspent := hbudget i₀ hi₀
            rw [guesses_plays_succ, htried, Option.toList_some, List.length_append,
              List.length_singleton] at hspent
            omega
          have hrest : (rest.filter fun i => Hit game (plays game strategy (state i) (n + 1))).card ≤
              budget - 1 := by
            apply card_hit_succ_le h (fun i hi j hj => htwins i (hsub hi) j (hsub hj))
              (hsecrets.mono fun i hi => hsub hi)
            · intro i hi j hj
              rw [hguess i (hsub hi), htried, ne_eq, Option.some.injEq]
              exact Ne.symm (Finset.mem_filter.mp hj).2
            · intro i hi
              rw [hguess i (hsub hi), htried, Option.toList_some, List.length_singleton,
                Nat.add_sub_cancel' hpositive]
              exact hbudget i (hsub hi)
            · exact fun strategy state => ih strategy rest state
          have hall : (indices.filter fun i => Hit game (plays game strategy (state i) (n + 1))) ⊆
              (indices.filter fun i => game.secret (state i) = g) ∪
                rest.filter fun i => Hit game (plays game strategy (state i) (n + 1)) := by
            intro i hi
            obtain ⟨hi, hhit⟩ := Finset.mem_filter.mp hi
            by_cases hsame : game.secret (state i) = g
            · exact Finset.mem_union_left _ (Finset.mem_filter.mpr ⟨hi, hsame⟩)
            · exact Finset.mem_union_right _
                (Finset.mem_filter.mpr ⟨Finset.mem_filter.mpr ⟨hi, hsame⟩, hhit⟩)
          have hcard := (Finset.card_le_card hall).trans (Finset.card_union_le _ _)
          omega

end Guessing
