import Mathlib.Tactic

/-!
# Properties of traces that look back

A trace is a list of events, oldest first.  The properties here say of every event what must have
come before it, so that a trace satisfies one exactly when each event satisfies it at the moment it
happens, and extending a trace only adds the obligations of the new events (`always_append`).

* `Always P` — every event `e`, with the events `past` before it, satisfies `P past e`.
* `Obligation` — events that open an obligation, events that answer one, and events at which none may
  be open.  `Discharged` says that a trace meets its obligations; `Settles` follows them event by
  event, which is how they are proved (`discharged_append`, `pending_append`).
* `Since mark reset` — the events since the last marked one, as long as nothing has reset them.
* `Latched mark reset` — something was marked, and nothing has reset it since.
-/

namespace TraceLogic

variable {ε : Type*}

/-- How a list with one more element at its end is split at an element: at the last one, or before. -/
lemma concat_eq_append_cons {xs past rest : List ε} {x e : ε} (h : xs ++ [x] = past ++ e :: rest) :
    (xs = past ∧ x = e ∧ rest = []) ∨ ∃ rest', xs = past ++ e :: rest' ∧ rest = rest' ++ [x] := by
  rcases List.eq_nil_or_concat rest with rfl | ⟨rest', y, rfl⟩
  · obtain ⟨hxs, hx⟩ := List.append_inj' h rfl
    exact Or.inl ⟨hxs, List.singleton_inj.mp hx, rfl⟩
  · rw [List.concat_eq_append, ← List.cons_append, ← List.append_assoc] at h
    obtain ⟨hxs, hx⟩ := List.append_inj' h rfl
    rw [List.concat_eq_append, ← List.singleton_inj.mp hx]
    exact Or.inr ⟨rest', hxs, rfl⟩

/-! ## Every event with its past -/

/-- Every event of the trace satisfies `P` together with the events that came before it. -/
def Always (P : List ε → ε → Prop) (tr : List ε) : Prop :=
  ∀ past e future, tr = past ++ e :: future → P past e

/-- Two properties of the events of a trace that come to the same for each of them. -/
lemma always_congr {P Q : List ε → ε → Prop} {tr : List ε}
    (h : ∀ past e future, tr = past ++ e :: future → (P past e ↔ Q past e)) :
    Always P tr ↔ Always Q tr := by
  constructor
  · intro hP past e future htr
    exact (h past e future htr).mp (hP past e future htr)
  · intro hQ past e future htr
    exact (h past e future htr).mpr (hQ past e future htr)

/-- `Always` for the events `es` of a trace that begins with `past`, one event after another. -/
def AlwaysFrom (P : List ε → ε → Prop) (past : List ε) : List ε → Prop
  | [] => True
  | e :: es => P past e ∧ AlwaysFrom P (past ++ [e]) es

instance decidableAlwaysFrom (P : List ε → ε → Prop) [∀ past, DecidablePred (P past)] :
    ∀ (past es : List ε), Decidable (AlwaysFrom P past es)
  | _, [] => inferInstanceAs (Decidable True)
  | past, e :: es =>
      have := decidableAlwaysFrom P (past ++ [e]) es
      inferInstanceAs (Decidable (P past e ∧ AlwaysFrom P (past ++ [e]) es))

@[simp] lemma alwaysFrom_nil (P : List ε → ε → Prop) (past : List ε) :
    AlwaysFrom P past [] ↔ True := Iff.rfl

@[simp] lemma alwaysFrom_cons (P : List ε → ε → Prop) (past : List ε) (e : ε) (es : List ε) :
    AlwaysFrom P past (e :: es) ↔ P past e ∧ AlwaysFrom P (past ++ [e]) es := Iff.rfl

lemma alwaysFrom_iff (P : List ε → ε → Prop) : ∀ (es past : List ε),
    AlwaysFrom P past es ↔ ∀ a e b, es = a ++ e :: b → P (past ++ a) e
  | [], past => by simp
  | x :: es, past => by
      rw [alwaysFrom_cons, alwaysFrom_iff P es]
      constructor
      · rintro ⟨hx, hes⟩ a e b h
        cases a with
        | nil =>
            obtain ⟨rfl, rfl⟩ := List.cons.inj h
            simpa using hx
        | cons y a =>
            obtain ⟨rfl, rfl⟩ := List.cons.inj h
            simpa using hes a e b rfl
      · intro h
        refine ⟨by simpa using h [] x es rfl, fun a e b hab => ?_⟩
        simpa using h (x :: a) e b (by rw [hab]; rfl)

lemma always_iff_alwaysFrom (P : List ε → ε → Prop) (tr : List ε) :
    Always P tr ↔ AlwaysFrom P [] tr := by
  simp [Always, alwaysFrom_iff]

lemma alwaysFrom_append (P : List ε → ε → Prop) : ∀ (es past fs : List ε),
    AlwaysFrom P past (es ++ fs) ↔ AlwaysFrom P past es ∧ AlwaysFrom P (past ++ es) fs
  | [], past, fs => by simp
  | e :: es, past, fs => by
      simp only [List.cons_append, alwaysFrom_cons]
      rw [alwaysFrom_append P es (past ++ [e]) fs, and_assoc, List.append_assoc,
        List.singleton_append]

lemma AlwaysFrom.of_forall_mem {P : List ε → ε → Prop} {es : List ε} :
    ∀ {past : List ε}, (∀ past, ∀ e ∈ es, P past e) → AlwaysFrom P past es := by
  induction es with
  | nil => exact fun _ => trivial
  | cons e es ih =>
      intro past h
      exact ⟨h past e (by simp), ih fun past' e' he' => h past' e' (List.mem_cons_of_mem _ he')⟩

@[simp] lemma always_nil (P : List ε → ε → Prop) : Always P [] := by
  rw [always_iff_alwaysFrom]; trivial

/-- Extending a trace adds the obligations of the new events and keeps the old ones. -/
theorem always_append (P : List ε → ε → Prop) (tr seg : List ε) :
    Always P (tr ++ seg) ↔ Always P tr ∧ AlwaysFrom P tr seg := by
  rw [always_iff_alwaysFrom, always_iff_alwaysFrom, alwaysFrom_append, List.nil_append]

/-! ## Since the last mark -/

/-- `rest` is what came after the last marked event, and no event of it is marked or resets. -/
def Since (mark reset : ε → Prop) (tr rest : List ε) : Prop :=
  ∃ past o, tr = past ++ o :: rest ∧ mark o ∧ ∀ e ∈ rest, ¬ mark e ∧ ¬ reset e

section Since

variable {mark reset : ε → Prop} {tr rest seg : List ε} {e : ε}

@[simp] lemma not_since_nil (mark reset : ε → Prop) (rest : List ε) : ¬ Since mark reset [] rest := by
  rintro ⟨past, o, h, -⟩
  simp at h

/-- One more event: it is the mark itself, with nothing since, or it belongs to what came since the
mark and does not reset it. -/
theorem since_concat : Since mark reset (tr ++ [e]) rest ↔
    (mark e ∧ rest = []) ∨
      ((¬ mark e ∧ ¬ reset e) ∧ ∃ rest', Since mark reset tr rest' ∧ rest = rest' ++ [e]) := by
  constructor
  · rintro ⟨past, o, h, ho, hrest⟩
    rcases concat_eq_append_cons h with ⟨-, rfl, rfl⟩ | ⟨rest', rfl, rfl⟩
    · exact Or.inl ⟨ho, rfl⟩
    · refine Or.inr ⟨hrest e (by simp), rest', ⟨past, o, rfl, ho, fun e' he' => ?_⟩, rfl⟩
      exact hrest e' (List.mem_append_left _ he')
  · rintro (⟨he, rfl⟩ | ⟨he, rest', ⟨past, o, rfl, ho, hrest⟩, rfl⟩)
    · exact ⟨tr, e, rfl, he, by simp⟩
    · refine ⟨past, o, by simp, ho, fun e' he' => ?_⟩
      rcases List.mem_append.mp he' with he' | he'
      · exact hrest e' he'
      · rw [List.mem_singleton.mp he']
        exact he

/-- Events that are neither marks nor resets only lengthen what came since the last mark. -/
theorem since_append (hseg : ∀ e ∈ seg, ¬ mark e ∧ ¬ reset e) :
    Since mark reset (tr ++ seg) rest ↔ ∃ rest', Since mark reset tr rest' ∧ rest = rest' ++ seg := by
  induction seg generalizing tr rest with
  | nil => simp
  | cons e seg ih =>
      have he := hseg e (by simp)
      rw [List.append_cons, ih fun e' he' => hseg e' (List.mem_cons_of_mem _ he')]
      constructor
      · rintro ⟨rest', h, rfl⟩
        rcases since_concat.mp h with ⟨hmark, -⟩ | ⟨-, rest'', h', rfl⟩
        · exact absurd hmark he.1
        · exact ⟨rest'', h', by simp⟩
      · rintro ⟨rest', h, rfl⟩
        exact ⟨rest' ++ [e], since_concat.mpr (Or.inr ⟨he, rest', h, rfl⟩), by simp⟩

/-- A reset ends it: nothing is marked any more behind a reset, unless something is marked after it.
-/
theorem not_since_of_reset {past : List ε} (he : reset e) (hmark : ¬ mark e)
    (hseg : ∀ e ∈ seg, ¬ mark e) : ¬ Since mark reset (past ++ e :: seg) rest := by
  rintro ⟨past', o, h, ho, hrest⟩
  obtain ⟨l, rfl, hl⟩ | ⟨l, hl, hl'⟩ := List.append_eq_append_iff.mp h
  · cases l with
    | nil =>
        obtain ⟨rfl, -⟩ := List.cons.inj hl
        exact hmark ho
    | cons x l =>
        obtain ⟨rfl, rfl⟩ := List.cons.inj hl
        exact hseg o (by simp) ho
  · cases l with
    | nil =>
        obtain ⟨rfl, -⟩ := List.cons.inj hl'
        exact hmark ho
    | cons x l =>
        obtain ⟨rfl, rfl⟩ := List.cons.inj hl'
        exact (hrest e (by simp)).2 he

/-- What has come since the last mark, while nothing has reset it, satisfies `Q`. -/
def Watched (mark reset : ε → Prop) (tr : List ε) (Q : List ε → Prop) : Prop :=
  ∀ rest, Since mark reset tr rest → Q rest

variable {Q Q' : List ε → Prop}

@[simp] lemma watched_nil (mark reset : ε → Prop) (Q : List ε → Prop) :
    Watched mark reset [] Q :=
  fun rest h => absurd h (not_since_nil mark reset rest)

/-- Events that are neither marks nor resets. -/
lemma Watched.append (h : Watched mark reset tr Q) (hseg : ∀ e ∈ seg, ¬ mark e ∧ ¬ reset e)
    (hQ : ∀ rest, Q rest → Q' (rest ++ seg)) : Watched mark reset (tr ++ seg) Q' := by
  intro rest hrest
  obtain ⟨rest', h', rfl⟩ := (since_append hseg).mp hrest
  exact hQ rest' (h rest' h')

/-- A mark, and events after it that are neither marks nor resets. -/
lemma watched_mark (tr : List ε) (he : mark e) (hseg : ∀ e ∈ seg, ¬ mark e ∧ ¬ reset e)
    (hQ : Q seg) : Watched mark reset (tr ++ e :: seg) Q := by
  intro rest hrest
  rw [List.append_cons, since_append hseg] at hrest
  obtain ⟨rest', h', rfl⟩ := hrest
  rcases since_concat.mp h' with ⟨-, rfl⟩ | ⟨⟨hnot, -⟩, -⟩
  · exact hQ
  · exact absurd he hnot

/-- A reset, and no mark after it. -/
lemma watched_reset (tr : List ε) (he : reset e) (hmark : ¬ mark e) (hseg : ∀ e ∈ seg, ¬ mark e)
    (Q : List ε → Prop) : Watched mark reset (tr ++ e :: seg) Q :=
  fun _ hrest => absurd hrest (not_since_of_reset he hmark hseg)

end Since

/-! ## Latches -/

/-- A marked event has happened, and nothing has reset it since.  Unlike `Since`, a later mark does
not matter. -/
def Latched (mark reset : ε → Prop) (tr : List ε) : Prop :=
  ∃ past o rest, tr = past ++ o :: rest ∧ mark o ∧ ∀ e ∈ rest, ¬ reset e

section Latched

variable {mark reset : ε → Prop} {tr seg : List ε} {e : ε}

@[simp] lemma not_latched_nil (mark reset : ε → Prop) : ¬ Latched mark reset [] := by
  rintro ⟨past, o, rest, h, -⟩
  simp at h

theorem latched_concat :
    Latched mark reset (tr ++ [e]) ↔ mark e ∨ (Latched mark reset tr ∧ ¬ reset e) := by
  constructor
  · rintro ⟨past, o, rest, h, ho, hrest⟩
    rcases concat_eq_append_cons h with ⟨-, rfl, rfl⟩ | ⟨rest', rfl, rfl⟩
    · exact Or.inl ho
    · refine Or.inr ⟨⟨past, o, rest', rfl, ho, fun e' he' => ?_⟩, hrest e (by simp)⟩
      exact hrest e' (List.mem_append_left _ he')
  · rintro (he | ⟨⟨past, o, rest, rfl, ho, hrest⟩, he⟩)
    · exact ⟨tr, e, [], rfl, he, by simp⟩
    · refine ⟨past, o, rest ++ [e], by simp, ho, fun e' he' => ?_⟩
      rcases List.mem_append.mp he' with he' | he'
      · exact hrest e' he'
      · rw [List.mem_singleton.mp he']
        exact he

/-- Events that are neither marks nor resets leave a latch as it is. -/
lemma latched_append (hseg : ∀ e ∈ seg, ¬ mark e ∧ ¬ reset e) :
    Latched mark reset (tr ++ seg) ↔ Latched mark reset tr := by
  induction seg generalizing tr with
  | nil => simp
  | cons e seg ih =>
      have he := hseg e (by simp)
      rw [List.append_cons, ih fun e' he' => hseg e' (List.mem_cons_of_mem _ he'), latched_concat]
      simp [he.1, he.2]

end Latched

/-! ## Obligations -/

/-- A kind of obligation: the events that open one, the events that answer an open one, and the
events at which none may be open. -/
structure Obligation (ε : Type*) where
  opens : ε → Prop
  answers : ε → ε → Prop
  due : ε → Prop

namespace Obligation

variable (O : Obligation ε)

/-- The obligations still open: events that opened one, with no answer to them since. -/
def pending (tr : List ε) : Set ε :=
  {o | O.opens o ∧ ∃ a b, tr = a ++ o :: b ∧ ∀ e ∈ b, ¬ O.answers o e}

/-- **Every obligation is met in time**: whenever a due event happens, nothing is pending. -/
def Discharged (tr : List ε) : Prop := Always (fun past e => O.due e → O.pending past = ∅) tr

/-- What is open after one more event: what it opens itself, and what was open before and is not
answered by it. -/
def after (pending : Set ε) (e : ε) : Set ε :=
  {o | (O.opens o ∧ o = e) ∨ (o ∈ pending ∧ ¬ O.answers o e)}

/-- The events `es` meet their obligations, starting with those of `pending`: whenever one is due to
find everything answered, nothing is open. -/
def Settles (pending : Set ε) : List ε → Prop
  | [] => True
  | e :: es => (O.due e → pending = ∅) ∧ Settles (O.after pending e) es

@[simp] lemma pending_nil : O.pending [] = ∅ := by
  ext o
  simp [pending]

@[simp] lemma discharged_nil : O.Discharged [] := always_nil _

lemma pending_concat (tr : List ε) (e : ε) :
    O.pending (tr ++ [e]) = O.after (O.pending tr) e := by
  ext o
  constructor
  · rintro ⟨hopens, a, b, h, hb⟩
    rcases concat_eq_append_cons h with ⟨-, rfl, -⟩ | ⟨b, rfl, rfl⟩
    · exact Or.inl ⟨hopens, rfl⟩
    · refine Or.inr ⟨⟨hopens, a, b, rfl, fun y hy => hb y ?_⟩, hb e (by simp)⟩
      exact List.mem_append_left _ hy
  · rintro (⟨hopens, rfl⟩ | ⟨⟨hopens, a, b, rfl, hb⟩, he⟩)
    · exact ⟨hopens, tr, [], rfl, by simp⟩
    · refine ⟨hopens, a, b ++ [e], by simp, fun y hy => ?_⟩
      rcases List.mem_append.mp hy with hy | hy
      · exact hb y hy
      · rw [List.mem_singleton.mp hy]
        exact he

/-- The open obligations can be followed event by event: what is open after a trace and more events
depends on the trace only by what is open after it. -/
theorem pending_append (seg : List ε) : ∀ tr : List ε,
    O.pending (tr ++ seg) = seg.foldl O.after (O.pending tr) := by
  induction seg with
  | nil => intro tr; simp
  | cons e seg ih =>
      intro tr
      rw [List.foldl_cons, ← pending_concat, ← ih, List.append_assoc, List.singleton_append]

lemma alwaysFrom_iff_settles (seg : List ε) : ∀ tr : List ε,
    AlwaysFrom (fun past e => O.due e → O.pending past = ∅) tr seg ↔
      O.Settles (O.pending tr) seg := by
  induction seg with
  | nil => exact fun tr => Iff.rfl
  | cons e seg ih =>
      intro tr
      rw [alwaysFrom_cons, ih, pending_concat]
      exact Iff.rfl

/-- A longer trace meets its obligations when the shorter one does and the new events settle what
was open. -/
theorem discharged_append (tr seg : List ε) :
    O.Discharged (tr ++ seg) ↔ O.Discharged tr ∧ O.Settles (O.pending tr) seg := by
  rw [Discharged, always_append, alwaysFrom_iff_settles]
  exact Iff.rfl

/-- The events `es` meet their obligations and turn the open ones from `pending` into `left`. -/
def Carries (pending : Set ε) (es : List ε) (left : Set ε) : Prop :=
  O.Settles pending es ∧ es.foldl O.after pending = left

@[simp] lemma settles_nil (pending : Set ε) : O.Settles pending [] ↔ True := Iff.rfl

@[simp] lemma settles_cons (pending : Set ε) (e : ε) (es : List ε) :
    O.Settles pending (e :: es) ↔ (O.due e → pending = ∅) ∧ O.Settles (O.after pending e) es :=
  Iff.rfl

variable {O} {o e : ε}

@[simp] lemma after_empty_of_opens (h : O.opens e) : O.after ∅ e = {e} := by
  ext o
  simp only [after, Set.mem_ofPred_eq, Set.mem_empty_iff_false, false_and, or_false,
    Set.mem_singleton_iff]
  constructor
  · exact fun ho => ho.2
  · rintro rfl
    exact ⟨h, rfl⟩

@[simp] lemma after_empty_of_not_opens (h : ¬ O.opens e) : O.after ∅ e = ∅ := by
  ext o
  simp only [after, Set.mem_ofPred_eq, Set.mem_empty_iff_false, false_and, or_false, iff_false]
  rintro ⟨ho, rfl⟩
  exact h ho

@[simp] lemma after_singleton_of_answers (h : O.answers o e) (he : ¬ O.opens e) :
    O.after {o} e = ∅ := by
  ext x
  simp only [after, Set.mem_ofPred_eq, Set.mem_singleton_iff, Set.mem_empty_iff_false, iff_false]
  rintro (⟨hx, rfl⟩ | ⟨rfl, hx⟩)
  · exact he hx
  · exact hx h

@[simp] lemma after_singleton_of_not_answers (h : ¬ O.answers o e) (he : ¬ O.opens e) :
    O.after {o} e = {o} := by
  ext x
  simp only [after, Set.mem_ofPred_eq, Set.mem_singleton_iff]
  constructor
  · rintro (⟨hx, rfl⟩ | ⟨rfl, -⟩)
    · exact absurd hx he
    · rfl
  · rintro rfl
    exact Or.inr ⟨rfl, h⟩

lemma Carries.append {a b c : Set ε} {s t : List ε} (h : O.Carries a s b) :
    O.Carries b t c → O.Carries a (s ++ t) c := by
  obtain ⟨hs, rfl⟩ := h
  rintro ⟨ht, rfl⟩
  refine ⟨?_, List.foldl_append⟩
  induction s generalizing a with
  | nil => exact ht
  | cons e s ih => exact ⟨hs.1, ih hs.2 ht⟩

end Obligation

end TraceLogic
