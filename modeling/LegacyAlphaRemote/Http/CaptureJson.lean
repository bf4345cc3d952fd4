import LegacyAlphaRemote.Http.CaptureGrammar
import LegacyAlphaRemote.Http.Numbers

/-!
# What `parseCaptureJson` accepts

A pass of the loop reads one member, which must be new and must fit (`captureMember_sound`,
`captureMember_complete`); the loop reads the members up to the closing brace (`captureLoop_sound`,
`captureLoop_complete`).  What is left is that the three keys
have come: then the members are the three, in some order, and the request is made of them
(`parseCaptureJson_eq_some_iff`).

The delay is what `strtol` makes of its literal.  Where `long` is wide enough for ten digits that is
the number, and the parser accepts its language exactly (`parseCaptureJson_language`).  On the camera
a number that does not fit becomes the largest that does, which passes the check of the range
(`exactOn_armeabi_iff`).
-/

namespace LegacyAlpha

variable {target : Target} {cursor cursor' : JsonCursor} {request request' : CaptureRequest}
  {members members' : CaptureMembers} {rest : Bytes}

namespace Member

/-- The member has been read before, for which the loop has a flag of each. -/
def seen (members : CaptureMembers) : Member → Bool
  | RequestId _ => members.id
  | DelayMs _ => members.delay
  | Autofocus _ => members.autofocus

/-- The member has been read now, and may not come again. -/
def mark (members : CaptureMembers) : Member → CaptureMembers
  | RequestId _ => { members with id := true }
  | DelayMs _ => { members with delay := true }
  | Autofocus _ => { members with autofocus := true }

/-- Its value is stored in the request; of a number, what `strtol` makes of it. -/
def store (target : Target) (request : CaptureRequest) : Member → CaptureRequest
  | RequestId id => { request with requestId := id }
  | DelayMs literal => { request with delayMs := target.saturate (integerOf literal) }
  | Autofocus flag => { request with autofocus := flag }

/-- The cursor takes its value: the bounds of `stringValue` and `integerValue`, which the grammar does
not have. -/
def Fits (target : Target) : Member → Prop
  | RequestId id => id.length ≤ 128
  | DelayMs literal => literal.length ≤ 10 ∧ -2147483647 ≤ target.saturate (integerOf literal) ∧
      target.saturate (integerOf literal) ≤ 2147483647
  | Autofocus _ => True

end Member

/-! ## The cursor's way -/

namespace JsonCursor

/-- The cursors the methods make of the one at the beginning of the body. -/
inductive Reached (target : Target) (body : Bytes) : JsonCursor → Prop
  | start : Reached target body { input := body }
  | take {cursor : JsonCursor} (c : UInt8) (h : Reached target body cursor) :
      Reached target body (cursor.take c).2
  | string {cursor cursor' : JsonCursor} {value : Bytes} (h : Reached target body cursor)
      (hread : cursor.stringValue = some (value, cursor')) : Reached target body cursor'
  | integer {cursor cursor' : JsonCursor} {value : ℤ} (h : Reached target body cursor)
      (hread : cursor.integerValue target = some (value, cursor')) : Reached target body cursor'
  | flag {cursor cursor' : JsonCursor} {value : Bool} (h : Reached target body cursor)
      (hread : cursor.boolValue = some (value, cursor')) : Reached target body cursor'

/-- The cursor stands in this body, and not behind its end, so that every character it looks at is
there. -/
def Within (body : Bytes) (cursor : JsonCursor) : Prop :=
  cursor.input = body ∧ cursor.pos ≤ body.length

lemma Within.advance {body : Bytes} {count : ℕ} (h : cursor.Within body)
    (hcount : count ≤ cursor.rest.length) : (cursor.advance count).Within body := by
  have hlength : cursor.rest.length = body.length - cursor.pos := by
    rw [JsonCursor.rest, List.length_drop, h.1]
  have hpos := h.2
  refine ⟨h.1, ?_⟩
  show cursor.pos + count ≤ body.length
  omega

lemma Within.ws {body : Bytes} (h : cursor.Within body) : cursor.ws.Within body :=
  h.advance (List.takeWhile_prefix _).length_le

/-- **The cursor never passes the end of the body**, wherever parsing stops: each of its operations
looks before it moves. -/
theorem Reached.within {body : Bytes} (h : Reached target body cursor) : cursor.Within body := by
  induction h with
  | start => exact ⟨rfl, Nat.zero_le _⟩
  | @take cursor c _ ih =>
      rw [JsonCursor.take]
      split_ifs with hnext
      · refine ih.ws.advance ?_
        obtain ⟨t, ht⟩ := List.head?_eq_some_iff.mp (beq_iff_eq.mp hnext)
        simp [ht]
      · exact ih.ws
  | @string cursor cursor' value _ hread ih =>
      rw [stringValue] at hread
      cases hrest : cursor.ws.rest with
      | nil =>
          rw [hrest] at hread
          cases hread
      | cons c input =>
          rw [hrest] at hread
          dsimp only at hread
          split_ifs at hread
          obtain ⟨⟨value', count⟩, hloop, heq⟩ := Option.map_eq_some_iff.mp hread
          obtain ⟨text, tail, rest, -, rfl, -, rfl, -⟩ := stringLoop_sound (Nat.zero_le _) hloop
          rw [← (Prod.mk.inj heq).2]
          refine ih.ws.advance ?_
          simp [hrest]
  | @integer cursor cursor' value _ hread ih =>
      rw [integerValue_eq target rfl] at hread
      split_ifs at hread
      rw [← (Prod.mk.inj (Option.some.inj hread)).2]
      exact ih.ws.advance (prefix_of_digits _).length_le
  | @flag cursor cursor' value _ hread ih =>
      have hword : ∀ word : Bytes, cursor.ws.rest.take word.length = word →
          word.length ≤ cursor.ws.rest.length := by
        intro word h
        have hlength := congrArg List.length h
        rw [List.length_take] at hlength
        omega
      rw [boolValue] at hread
      split_ifs at hread with htrue hfalse
      · rw [← (Prod.mk.inj (Option.some.inj hread)).2]
        exact ih.ws.advance (hword (bytes "true") (beq_iff_eq.mp htrue))
      · rw [← (Prod.mk.inj (Option.some.inj hread)).2]
        exact ih.ws.advance (hword (bytes "false") (beq_iff_eq.mp hfalse))

/-- Nothing but white space is left when the cursor is done. -/
lemma done_iff {body : Bytes} (h : cursor.Within body) :
    cursor.done = true ↔ ∀ c ∈ cursor.rest, isspace c = true := by
  have hlength : cursor.rest.length = body.length - cursor.pos := by
    rw [JsonCursor.rest, List.length_drop, h.1]
  have hpos := h.2
  have hdone : cursor.done = true ↔ (cursor.rest.takeWhile isspace).length = cursor.rest.length := by
    rw [done, beq_iff_eq, h.1]
    show cursor.pos + (cursor.rest.takeWhile isspace).length = body.length ↔ _
    omega
  rw [hdone, ← List.takeWhile_eq_self_iff]
  exact ⟨fun hall => (List.takeWhile_prefix _).eq_of_length hall, fun hall => by rw [hall]⟩

end JsonCursor

/-! ## One member -/

lemma isspace_colon : isspace (byte ':') = false := by decide

lemma isspace_comma : isspace (byte ',') = false := by decide

lemma isspace_closing : isspace (byte '\x7d') = false := by decide

/-- A pass of the loop that goes well has read a member. -/
lemma captureMember_sound
    (h : captureMember target cursor request members = some (cursor', request', members')) :
    ∃ m : Member, m.Reads cursor.rest cursor'.rest ∧ m.Fits target ∧ m.seen members = false ∧
      request' = m.store target request ∧ members' = m.mark members ∧
      ∀ body, JsonCursor.Reached target body cursor → JsonCursor.Reached target body cursor' := by
  rw [captureMember] at h
  cases hstring : cursor.stringValue with
  | none =>
      rw [hstring] at h
      exact nomatch h
  | some read =>
      obtain ⟨key, atKey⟩ := read
      rw [hstring] at h
      dsimp only at h
      cases htake : atKey.take (byte ':') with
      | mk colon atColon =>
          rw [htake] at h
          cases colon with
          | false => exact nomatch h
          | true =>
              dsimp only at h
              have hkey := (JsonCursor.stringValue_iff.mp ⟨atKey, hstring, rfl⟩).1
              have hcolon := (JsonCursor.take_iff isspace_colon).mp ⟨atColon, htake, rfl⟩
              have hreached : ∀ body, JsonCursor.Reached target body cursor →
                  JsonCursor.Reached target body atColon := by
                intro body hcursor
                have hat := (hcursor.string hstring).take (byte ':')
                rwa [htake] at hat
              split_ifs at h with hid hseen hdelay hseen hflag hseen
              · obtain ⟨⟨id, behind⟩, hvalue, heq⟩ := Option.map_eq_some_iff.mp h
                obtain ⟨rfl, rfl, rfl⟩ := by simpa using heq
                obtain ⟨hreads, hlength⟩ := JsonCursor.stringValue_iff.mp ⟨behind, hvalue, rfl⟩
                rw [beq_iff_eq.mp hid] at hkey
                exact ⟨.RequestId id, ⟨_, _, hkey, hcolon, hreads⟩, hlength,
                  Bool.eq_false_iff.mpr hseen, rfl, rfl, fun body h => (hreached body h).string hvalue⟩
              · obtain ⟨⟨delayMs, behind⟩, hvalue, heq⟩ := Option.map_eq_some_iff.mp h
                obtain ⟨rfl, rfl, rfl⟩ := by simpa using heq
                obtain ⟨literal, hreads, hlength, rfl, hrange⟩ :=
                  JsonCursor.integerValue_iff.mp ⟨behind, hvalue, rfl⟩
                rw [beq_iff_eq.mp hdelay] at hkey
                exact ⟨.DelayMs literal, ⟨_, _, hkey, hcolon, hreads⟩, ⟨hlength, hrange⟩,
                  Bool.eq_false_iff.mpr hseen, rfl, rfl, fun body h => (hreached body h).integer hvalue⟩
              · obtain ⟨⟨flag, behind⟩, hvalue, heq⟩ := Option.map_eq_some_iff.mp h
                obtain ⟨rfl, rfl, rfl⟩ := by simpa using heq
                have hreads := JsonCursor.boolValue_iff.mp ⟨behind, hvalue, rfl⟩
                rw [beq_iff_eq.mp hflag] at hkey
                exact ⟨.Autofocus flag, ⟨_, _, hkey, hcolon, hreads⟩, trivial,
                  Bool.eq_false_iff.mpr hseen, rfl, rfl, fun body h => (hreached body h).flag hvalue⟩

/-- A member that fits and is new is read. -/
lemma captureMember_complete {m : Member} (request : CaptureRequest)
    (h : m.Reads cursor.rest rest) (hfits : m.Fits target) (hnew : m.seen members = false) :
    ∃ cursor', captureMember target cursor request members =
      some (cursor', m.store target request, m.mark members) ∧ cursor'.rest = rest := by
  obtain ⟨afterKey, afterColon, hkey, hcolon, hvalue⟩ := h
  have hshort : m.key.length ≤ 128 := by
    cases m with
    | RequestId _ => exact of_decide_eq_true rfl
    | DelayMs _ => exact of_decide_eq_true rfl
    | Autofocus _ => exact of_decide_eq_true rfl
  have hold : ¬ m.seen members = true := by simp [hnew]
  obtain ⟨atKey, hstring, rfl⟩ := JsonCursor.stringValue_iff.mpr ⟨hkey, hshort⟩
  obtain ⟨atColon, htake, rfl⟩ := (JsonCursor.take_iff isspace_colon).mpr hcolon
  rw [captureMember, hstring]
  dsimp only
  rw [htake]
  dsimp only
  cases m with
  | RequestId id =>
      have hid : ((Member.RequestId id).key == bytes "request_id") = true := beq_self_eq_true _
      obtain ⟨behind, hread, rfl⟩ := JsonCursor.stringValue_iff.mpr ⟨hvalue, hfits⟩
      refine ⟨behind, ?_, rfl⟩
      rw [Member.seen] at hold
      rw [if_pos hid, if_neg hold, hread]
      rfl
  | DelayMs literal =>
      have hid : ¬ ((Member.DelayMs literal).key == bytes "request_id") = true :=
        fun h => keys_ne.1 (beq_iff_eq.mp h).symm
      have hdelay : ((Member.DelayMs literal).key == bytes "delay_ms") = true := beq_self_eq_true _
      obtain ⟨behind, hread, rfl⟩ :=
        JsonCursor.integerValue_iff.mpr ⟨literal, hvalue, hfits.1, rfl, hfits.2⟩
      refine ⟨behind, ?_, rfl⟩
      rw [Member.seen] at hold
      rw [if_neg hid, if_pos hdelay, if_neg hold, hread]
      rfl
  | Autofocus flag =>
      have hid : ¬ ((Member.Autofocus flag).key == bytes "request_id") = true :=
        fun h => keys_ne.2.1 (beq_iff_eq.mp h).symm
      have hdelay : ¬ ((Member.Autofocus flag).key == bytes "delay_ms") = true :=
        fun h => keys_ne.2.2 (beq_iff_eq.mp h).symm
      have hflag : ((Member.Autofocus flag).key == bytes "autofocus") = true := beq_self_eq_true _
      obtain ⟨behind, hread, rfl⟩ := JsonCursor.boolValue_iff.mpr hvalue
      refine ⟨behind, ?_, rfl⟩
      rw [Member.seen] at hold
      rw [if_neg hid, if_neg hdelay, if_pos hflag, if_neg hold, hread]
      rfl

/-! ## All members -/

/-- No member has been read before, and none comes twice: what the flags of the loop see to. -/
def Fresh : CaptureMembers → List Member → Prop
  | _, [] => True
  | members, m :: ms => m.seen members = false ∧ Fresh (m.mark members) ms

/-- What the loop accepts is a list of members and the closing brace. -/
lemma captureLoop_sound (left : ℕ) : ∀ {cursor : JsonCursor} {request : CaptureRequest}
    {members : CaptureMembers},
    captureLoop target left cursor request members = some (cursor', request', members') →
    ∃ ms, ReadsMembers ms cursor.rest cursor'.rest ∧ (∀ m ∈ ms, m.Fits target) ∧
      Fresh members ms ∧ request' = ms.foldl (Member.store target) request ∧
      members' = ms.foldl Member.mark members ∧
      ∀ body, JsonCursor.Reached target body cursor → JsonCursor.Reached target body cursor' := by
  induction left with
  | zero => exact fun h => nomatch h
  | succ left ih =>
      intro cursor request members h
      rw [captureLoop] at h
      cases hmember : captureMember target cursor request members with
      | none =>
          rw [hmember] at h
          exact nomatch h
      | some read =>
          obtain ⟨behind, request₁, members₁⟩ := read
          obtain ⟨m, hreads, hfits, hnew, rfl, rfl, hbehind⟩ := captureMember_sound hmember
          rw [hmember] at h
          dsimp only at h
          cases hclose : behind.take (byte '\x7d') with
          | mk closed atClose =>
              have hclosed : ∀ body, JsonCursor.Reached target body cursor →
                  JsonCursor.Reached target body atClose := by
                intro body hcursor
                have hat := (hbehind body hcursor).take (byte '\x7d')
                rwa [hclose] at hat
              rw [hclose] at h
              cases closed with
              | true =>
                  obtain ⟨rfl, rfl, rfl⟩ := by simpa using h
                  have htoken := (JsonCursor.take_iff isspace_closing).mp ⟨atClose, hclose, rfl⟩
                  exact ⟨[m], .last hreads htoken, by simpa using hfits, ⟨hnew, trivial⟩, rfl, rfl,
                    hclosed⟩
              | false =>
                  have hskipped := JsonCursor.rest_of_take_eq_false hclose
                  dsimp only at h
                  cases hcomma : atClose.take (byte ',') with
                  | mk comma atComma =>
                      rw [hcomma] at h
                      cases comma with
                      | false => exact nomatch h
                      | true =>
                          have htoken :=
                            (JsonCursor.take_iff isspace_comma).mp ⟨atComma, hcomma, rfl⟩
                          rw [hskipped, token_singleton_dropWhile isspace_comma] at htoken
                          obtain ⟨ms, hmore, hall, hfresh, hrequest, hmembers, hreached⟩ := ih h
                          refine ⟨m :: ms, .cons hreads htoken hmore,
                            List.forall_mem_cons.mpr ⟨hfits, hall⟩, ⟨hnew, hfresh⟩, hrequest,
                            hmembers, fun body hcursor => hreached body ?_⟩
                          have hat := (hclosed body hcursor).take (byte ',')
                          rwa [hcomma] at hat

/-- A list of members, in so many passes, is read by the loop when it may be. -/
lemma captureLoop_complete {ms : List Member} {input : Bytes} (h : ReadsMembers ms input rest) :
    ∀ {left : ℕ} {cursor : JsonCursor} (request : CaptureRequest) {members : CaptureMembers},
    cursor.rest = input → ms.length ≤ left → (∀ m ∈ ms, m.Fits target) → Fresh members ms →
    ∃ cursor', captureLoop target left cursor request members =
      some (cursor', ms.foldl (Member.store target) request, ms.foldl Member.mark members) ∧
      cursor'.rest = rest := by
  induction h with
  | last hmember hclose =>
      intro left cursor request members hinput hleft hfits hfresh
      subst hinput
      obtain ⟨left, rfl⟩ := Nat.exists_eq_add_of_le' hleft
      obtain ⟨behind, hread, rfl⟩ :=
        captureMember_complete request hmember (hfits _ (List.mem_singleton_self _)) hfresh.1
      obtain ⟨atClose, htake, rfl⟩ := (JsonCursor.take_iff isspace_closing).mpr hclose
      refine ⟨atClose, ?_, rfl⟩
      rw [List.length_singleton, captureLoop, hread]
      dsimp only
      rw [htake]
      rfl
  | cons hmember hcomma _ ih =>
      intro left cursor request members hinput hleft hfits hfresh
      subst hinput
      obtain ⟨left, rfl⟩ := Nat.exists_eq_add_of_le' hleft
      obtain ⟨hfit, hfits⟩ := List.forall_mem_cons.mp hfits
      obtain ⟨behind, hread, rfl⟩ := captureMember_complete request hmember hfit hfresh.1
      rw [List.length_cons, ← Nat.add_assoc, captureLoop, hread]
      dsimp only
      cases hclose : behind.take (byte '\x7d') with
      | mk closed atClose =>
          cases closed with
          | true =>
              have htoken := (JsonCursor.take_iff isspace_closing).mp ⟨atClose, hclose, rfl⟩
              exact absurd htoken (hcomma.singleton_ne isspace_comma isspace_closing (by decide))
          | false =>
              have hskipped := JsonCursor.rest_of_take_eq_false hclose
              rw [← token_singleton_dropWhile isspace_comma, ← hskipped] at hcomma
              obtain ⟨atComma, htake, hrest⟩ := (JsonCursor.take_iff isspace_comma).mpr hcomma
              dsimp only
              rw [htake]
              exact ih _ hrest (Nat.le_add_left _ _) hfits hfresh.2

/-! ## The three members -/

/-- A member has been read once it has been marked, or another with its key. -/
lemma seen_mark (members : CaptureMembers) (m m' : Member) :
    (m'.seen (m.mark members)) = (m'.seen members || m.key == m'.key) := by
  have h := keys_ne
  cases m <;> cases m' <;>
    simp [Member.seen, Member.mark, Member.key, h.1, h.2.1, h.2.2, h.1.symm, h.2.1.symm, h.2.2.symm]

lemma seen_foldl_mark (m : Member) (ms : List Member) : ∀ members : CaptureMembers,
    m.seen (ms.foldl Member.mark members) = true ↔
      m.seen members = true ∨ m.key ∈ ms.map Member.key := by
  induction ms with
  | nil => simp
  | cons m' ms ih =>
      intro members
      rw [List.foldl_cons, ih, seen_mark, List.map_cons, List.mem_cons, Bool.or_eq_true, beq_iff_eq,
        or_assoc, @eq_comm _ m'.key m.key]

lemma fresh_iff (ms : List Member) : ∀ members : CaptureMembers,
    Fresh members ms ↔ (∀ m ∈ ms, m.seen members = false) ∧ (ms.map Member.key).Nodup := by
  induction ms with
  | nil => simp [Fresh]
  | cons m ms ih =>
      intro members
      rw [Fresh, ih, List.forall_mem_cons, List.map_cons, List.nodup_cons]
      simp only [seen_mark, Bool.or_eq_false_iff, beq_eq_false_iff_ne]
      constructor
      · rintro ⟨hnew, hrest, hnodup⟩
        refine ⟨⟨hnew, fun m' hm' => (hrest m' hm').1⟩, ?_, hnodup⟩
        intro hmem
        obtain ⟨m', hm', hkey⟩ := List.mem_map.mp hmem
        exact (hrest m' hm').2 hkey.symm
      · rintro ⟨⟨hnew, hrest⟩, hout, hnodup⟩
        refine ⟨hnew, fun m' hm' => ⟨hrest m' hm', fun hkey => hout ?_⟩, hnodup⟩
        exact List.mem_map.mpr ⟨m', hm', hkey.symm⟩

/-- Members with one key have one constructor. -/
lemma Member.eq_of_key {m : Member} :
    (m.key = bytes "request_id" → ∃ id, m = .RequestId id) ∧
    (m.key = bytes "delay_ms" → ∃ literal, m = .DelayMs literal) ∧
    (m.key = bytes "autofocus" → ∃ flag, m = .Autofocus flag) := by
  have h := keys_ne
  cases m <;> simp [Member.key, h.1, h.2.1, h.2.2, h.1.symm, h.2.1.symm, h.2.2.symm]

/-- The loop has read all three members exactly if it has read the three, in some order. -/
lemma fresh_complete_iff (ms : List Member) :
    (Fresh {} ms ∧ (ms.foldl Member.mark {}).id = true ∧ (ms.foldl Member.mark {}).delay = true ∧
      (ms.foldl Member.mark {}).autofocus = true) ↔
    ∃ id literal flag, ms.Perm [.RequestId id, .DelayMs literal, .Autofocus flag] := by
  have hid := fun id => seen_foldl_mark (.RequestId id) ms {}
  have hdelay := fun literal => seen_foldl_mark (.DelayMs literal) ms {}
  have hflag := fun flag => seen_foldl_mark (.Autofocus flag) ms {}
  simp only [Member.seen, Bool.false_eq_true, false_or] at hid hdelay hflag
  have hfresh : Fresh {} ms ↔ (ms.map Member.key).Nodup := by
    rw [fresh_iff, and_iff_right]
    intro m _
    cases m <;> rfl
  rw [hfresh, hid [], hdelay [], hflag true]
  constructor
  · rintro ⟨hnodup, hid, hdelay, hflag⟩
    obtain ⟨m₁, hm₁, hkey₁⟩ := List.mem_map.mp hid
    obtain ⟨m₂, hm₂, hkey₂⟩ := List.mem_map.mp hdelay
    obtain ⟨m₃, hm₃, hkey₃⟩ := List.mem_map.mp hflag
    obtain ⟨id, rfl⟩ := Member.eq_of_key.1 hkey₁
    obtain ⟨literal, rfl⟩ := Member.eq_of_key.2.1 hkey₂
    obtain ⟨flag, rfl⟩ := Member.eq_of_key.2.2 hkey₃
    refine ⟨id, literal, flag, ?_⟩
    rw [List.perm_ext_iff_of_nodup hnodup.of_map (by simp)]
    intro m
    constructor
    · intro hm
      cases m with
      | RequestId id' => simp [List.inj_on_of_nodup_map hnodup hm hm₁ rfl]
      | DelayMs literal' => simp [List.inj_on_of_nodup_map hnodup hm hm₂ rfl]
      | Autofocus flag' => simp [List.inj_on_of_nodup_map hnodup hm hm₃ rfl]
    · intro hm
      simp only [List.mem_cons, List.not_mem_nil, or_false] at hm
      rcases hm with rfl | rfl | rfl
      · exact hm₁
      · exact hm₂
      · exact hm₃
  · rintro ⟨id, literal, flag, hperm⟩
    have hkeys := hperm.map Member.key
    have hnodup : ([Member.RequestId id, .DelayMs literal, .Autofocus flag].map Member.key).Nodup := by
      have h := keys_ne
      simp [Member.key, h.1, h.2.1, h.2.2]
    exact ⟨hkeys.nodup_iff.mpr hnodup, hkeys.mem_iff.mpr (by simp [Member.key]),
      hkeys.mem_iff.mpr (by simp [Member.key]), hkeys.mem_iff.mpr (by simp [Member.key])⟩

/-- In whatever order they come, they make the same request. -/
lemma foldl_store_of_perm {ms : List Member} {id literal : Bytes} {flag : Bool}
    (h : ms.Perm [.RequestId id, .DelayMs literal, .Autofocus flag]) (target : Target) :
    ms.foldl (Member.store target) {} =
      { requestId := id, delayMs := target.saturate (integerOf literal), autofocus := flag } := by
  rw [h.foldl_eq']
  · rfl
  · intro m hm m' hm' request
    have hmem := h.mem_iff.mp hm
    have hmem' := h.mem_iff.mp hm'
    simp only [List.mem_cons, List.not_mem_nil, or_false] at hmem hmem'
    rcases hmem with rfl | rfl | rfl <;> rcases hmem' with rfl | rfl | rfl <;> rfl

/-! ## The request -/

/-- What the page makes ids of: one to 64 letters, digits, dots, underscores, colons and hyphens. -/
structure ValidId (id : Bytes) : Prop where
  ne_nil : id ≠ []
  length_le : id.length ≤ 64
  chars : ∀ c ∈ id, isalnum c = true ∨ c ∈ bytes "._:-"

lemma validRequestId_iff {id : Bytes} : validRequestId id = true ↔ ValidId id := by
  have hchars : ∀ c, (bytes "-_.:").contains c = true ↔ c ∈ bytes "._:-" := by
    intro c
    rw [List.contains_iff_mem]
    simp [bytes]
    tauto
  rw [validRequestId, Bool.and_eq_true, Bool.and_eq_true, List.all_eq_true]
  simp only [Bool.or_eq_true, hchars, Bool.not_eq_true', List.isEmpty_eq_false_iff,
    decide_eq_true_eq]
  exact ⟨fun h => ⟨h.1.1, h.1.2, h.2⟩, fun h => ⟨⟨h.ne_nil, h.length_le⟩, h.chars⟩⟩

/-- Members begin with a quote, and not with the closing brace. -/
lemma ReadsMembers.not_closing {ms : List Member} {input behind : Bytes}
    (h : ReadsMembers ms input rest) : ¬ Token [byte '\x7d'] input behind := by
  have hquote : ∀ {m : Member} {next : Bytes}, m.Reads input next →
      ¬ Token [byte '\x7d'] input behind := by
    rintro m next ⟨afterKey, afterColon, hkey, -, -⟩ htoken
    obtain ⟨text, -, hinput⟩ := readsString_iff.mp hkey
    rw [token_singleton_iff isspace_closing, hinput] at htoken
    exact absurd (List.head_eq_of_cons_eq htoken) (by decide)
  cases h with
  | last hmember _ => exact hquote hmember
  | cons hmember _ _ => exact hquote hmember

lemma Token.length_le {token input : Bytes} (h : Token token input rest) :
    token.length + rest.length ≤ input.length := by
  obtain ⟨space, -, rfl⟩ := h
  simp

/-- A member takes a character at least. -/
lemma Member.Reads.length_lt {m : Member} {input : Bytes} (h : m.Reads input rest) :
    rest.length < input.length := by
  obtain ⟨afterKey, afterColon, ⟨text, -, hkey⟩, hcolon, hvalue⟩ := h
  have hvalue : rest.length ≤ afterColon.length := by
    cases m with
    | RequestId id =>
        obtain ⟨text, -, htoken⟩ := hvalue
        exact le_of_add_le_right htoken.length_le
    | DelayMs literal => exact le_of_add_le_right hvalue.2.1.length_le
    | Autofocus flag => exact le_of_add_le_right (Token.length_le hvalue)
  have hkey := hkey.length_le
  have hcolon := hcolon.length_le
  simp only [List.length_cons, List.length_append] at hkey hcolon
  omega

lemma ReadsMembers.length_le {ms : List Member} {input : Bytes} (h : ReadsMembers ms input rest) :
    ms.length ≤ input.length := by
  induction h with
  | last hmember _ =>
      have hlt := hmember.length_lt
      rw [List.length_singleton]
      omega
  | cons hmember hcomma _ ih =>
      have hlt := hmember.length_lt
      have hle := hcomma.length_le
      rw [List.length_cons]
      omega

/-- The passes of the parser: the opening brace, no closing brace, the loop, and the checks behind
it. -/
lemma parseCaptureJson_eq_some {body : Bytes} :
    parseCaptureJson target body = some request ↔
      ∃ opened inside atEnd members,
        JsonCursor.take { input := body } (byte '\x7b') = (true, opened) ∧
        opened.take (byte '\x7d') = (false, inside) ∧
        captureLoop target body.length inside {} {} = some (atEnd, request, members) ∧
        atEnd.done = true ∧ (members.id = true ∧ members.delay = true ∧ members.autofocus = true) ∧
        validRequestId request.requestId = true := by
  constructor
  · intro h
    rw [parseCaptureJson] at h
    split at h
    · exact nomatch h
    · next opened hopen =>
        split at h
        · exact nomatch h
        · next inside hempty =>
            split at h
            · exact nomatch h
            · next atEnd request' members hloop =>
                split_ifs at h with hall
                obtain rfl := Option.some.inj h
                simp only [Bool.and_eq_true] at hall
                obtain ⟨⟨⟨⟨hdone, hid⟩, hdelay⟩, hflag⟩, hvalid⟩ := hall
                exact ⟨opened, inside, atEnd, members, hopen, hempty, hloop, hdone,
                  ⟨hid, hdelay, hflag⟩, hvalid⟩
  · rintro ⟨opened, inside, atEnd, members, hopen, hempty, hloop, hdone, ⟨hid, hdelay, hflag⟩,
      hvalid⟩
    rw [parseCaptureJson, hopen]
    dsimp only
    rw [hempty]
    dsimp only
    rw [hloop]
    dsimp only
    rw [hdone, hid, hdelay, hflag, hvalid]
    rfl

/-- Behind the opening brace the cursor has come by its own methods. -/
lemma JsonCursor.reached_inside {body : Bytes} {opened inside : JsonCursor} {first second : Bool}
    (hopen : JsonCursor.take { input := body } (byte '\x7b') = (first, opened))
    (hempty : opened.take (byte '\x7d') = (second, inside)) :
    JsonCursor.Reached target body inside := by
  have hat := ((JsonCursor.Reached.start : JsonCursor.Reached target body _).take
    (byte '\x7b')).take (byte '\x7d')
  rwa [hopen, hempty] at hat

lemma isspace_opening : isspace (byte '\x7b') = false := by
  decide

/-- What is accepted is a request: three members that fit, with a valid id. -/
lemma parseCaptureJson_sound {body : Bytes} (h : parseCaptureJson target body = some request) :
    ∃ literal, ReadsCapture request.requestId literal request.autofocus body ∧
      ValidId request.requestId ∧ literal.length ≤ 10 ∧
      request.delayMs = target.saturate (integerOf literal) ∧
      -2147483647 ≤ request.delayMs ∧ request.delayMs ≤ 2147483647 := by
  obtain ⟨opened, inside, atEnd, members, hopen, hempty, hloop, hdone, hcomplete, hvalid⟩ :=
    parseCaptureJson_eq_some.mp h
  have htoken := (JsonCursor.take_iff isspace_opening).mp ⟨opened, hopen, rfl⟩
  obtain ⟨ms, hmembers, hfits, hfresh, hrequest, rfl, hbehind⟩ := captureLoop_sound _ hloop
  obtain ⟨id, literal, flag, hperm⟩ := (fresh_complete_iff ms).mp ⟨hfresh, hcomplete⟩
  rw [foldl_store_of_perm hperm] at hrequest
  subst hrequest
  rw [JsonCursor.rest_of_take_eq_false hempty, readsMembers_dropWhile] at hmembers
  have hend := hbehind body (JsonCursor.reached_inside hopen hempty)
  have hspace := (JsonCursor.done_iff hend.within).mp hdone
  obtain ⟨hlength, hrange⟩ := hfits (.DelayMs literal) (hperm.mem_iff.mpr (by simp))
  exact ⟨literal, ⟨ms, hperm, _, _, htoken, hmembers, hspace⟩, validRequestId_iff.mp hvalid,
    hlength, rfl, hrange⟩

/-- A request whose members fit and whose id is valid is accepted. -/
lemma parseCaptureJson_complete {body literal : Bytes}
    (hreads : ReadsCapture request.requestId literal request.autofocus body)
    (hvalid : ValidId request.requestId) (hlength : literal.length ≤ 10)
    (hdelay : request.delayMs = target.saturate (integerOf literal))
    (hrange : -2147483647 ≤ request.delayMs ∧ request.delayMs ≤ 2147483647) :
    parseCaptureJson target body = some request := by
  obtain ⟨ms, hperm, behindBrace, behind, hopen, hmembers, hspace⟩ := hreads
  obtain ⟨opened, hopened, rfl⟩ : ∃ opened, JsonCursor.take { input := body } (byte '\x7b') =
      (true, opened) ∧ opened.rest = behindBrace := (JsonCursor.take_iff isspace_opening).mpr hopen
  have hfits : ∀ m ∈ ms, m.Fits target := by
    intro m hm
    have hmem := hperm.mem_iff.mp hm
    simp only [List.mem_cons, List.not_mem_nil, or_false] at hmem
    rcases hmem with rfl | rfl | rfl
    · exact hvalid.length_le.trans (by decide)
    · exact ⟨hlength, hdelay ▸ hrange⟩
    · trivial
  have hthree : ms.length ≤ body.length :=
    hmembers.length_le.trans (le_of_add_le_right hopen.length_le)
  obtain ⟨hfresh, hcomplete⟩ := (fresh_complete_iff ms).mpr ⟨_, _, _, hperm⟩
  cases hempty : opened.take (byte '\x7d') with
  | mk closed inside =>
      cases closed with
      | true =>
          have htoken := (JsonCursor.take_iff isspace_closing).mp ⟨inside, hempty, rfl⟩
          exact absurd htoken hmembers.not_closing
      | false =>
          rw [← readsMembers_dropWhile, ← JsonCursor.rest_of_take_eq_false hempty] at hmembers
          obtain ⟨atEnd, hloop, rfl⟩ := captureLoop_complete hmembers {} rfl hthree hfits hfresh
          obtain ⟨-, -, -, -, -, -, hend⟩ := captureLoop_sound _ hloop
          have hreached := hend body (JsonCursor.reached_inside hopened hempty)
          have hdone := (JsonCursor.done_iff hreached.within).mpr hspace
          rw [foldl_store_of_perm hperm, ← hdelay] at hloop
          exact parseCaptureJson_eq_some.mpr ⟨opened, inside, atEnd, _, hopened, hempty, hloop,
            hdone, hcomplete, validRequestId_iff.mpr hvalid⟩

/-- **The requests that are accepted**: three members that fit, with a valid id, and with what
`strtol` makes of the delay. -/
theorem parseCaptureJson_eq_some_iff {body : Bytes} :
    parseCaptureJson target body = some request ↔
      ∃ literal, ReadsCapture request.requestId literal request.autofocus body ∧
        ValidId request.requestId ∧ literal.length ≤ 10 ∧
        request.delayMs = target.saturate (integerOf literal) ∧
        -2147483647 ≤ request.delayMs ∧ request.delayMs ≤ 2147483647 := by
  constructor
  · exact parseCaptureJson_sound
  · rintro ⟨literal, hreads, hvalid, hlength, hdelay, hrange⟩
    exact parseCaptureJson_complete hreads hvalid hlength hdelay hrange

/-! ## What the page sends -/

/-- A string without anything to escape, between its quotes, as `JSON.stringify` writes it. -/
def quote (text : Bytes) : Bytes := byte '"' :: text ++ [byte '"']

/-- The text of a capture request as `JSON.stringify` writes it: no white space, and the members in
the order of the page. -/
def captureText (id literal : Bytes) (flag : Bool) : Bytes :=
  [byte '\x7b'] ++ (quote (bytes "request_id") ++ ([byte ':'] ++ (quote id ++ ([byte ','] ++
    (quote (bytes "delay_ms") ++ ([byte ':'] ++ (literal ++ ([byte ','] ++
      (quote (bytes "autofocus") ++ ([byte ':'] ++ (bytes (if flag then "true" else "false") ++
        ([byte '\x7d'] ++ []))))))))))))

/-- `JSON.stringify` of a request of the page, with the members in the order in which the page names
them. -/
def stringify (request : CaptureRequest) : Bytes :=
  captureText request.requestId (formatInt request.delayMs) request.autofocus

example : stringify { requestId := bytes "a-1", delayMs := 250 } =
    bytes "\x7b\"request_id\":\"a-1\",\"delay_ms\":250,\"autofocus\":true\x7d" := by decide

lemma token_append (token rest : Bytes) : Token token (token ++ rest) rest :=
  ⟨[], by simp, rfl⟩

/-- A character that stands for itself in a string, neither a quote nor a backslash nor a control
character. -/
def IsPlain (c : UInt8) : Prop := c ≠ byte '"' ∧ c ≠ byte '\\' ∧ 0x20 ≤ c

lemma spells_self {text : Bytes} (h : ∀ c ∈ text, IsPlain c) : Spells text text := by
  induction text with
  | nil => exact .nil
  | cons c text ih =>
      obtain ⟨⟨hquote, hbackslash, hcontrol⟩, htext⟩ := List.forall_mem_cons.mp h
      exact .plain hquote hbackslash hcontrol (ih htext)

lemma readsString_quote {text : Bytes} (h : ∀ c ∈ text, IsPlain c) (rest : Bytes) :
    ReadsString text (quote text ++ rest) rest :=
  ⟨text, spells_self h, token_append _ rest⟩

lemma Member.isPlain_key (m : Member) : ∀ c ∈ m.key, IsPlain c := by
  have h : ∀ key ∈ [bytes "request_id", bytes "delay_ms", bytes "autofocus"],
      ∀ c ∈ key, c ≠ byte '"' ∧ c ≠ byte '\\' ∧ 0x20 ≤ c := by decide +kernel
  cases m with
  | RequestId _ => exact h _ (by simp [Member.key])
  | DelayMs _ => exact h _ (by simp [Member.key])
  | Autofocus _ => exact h _ (by simp [Member.key])

lemma ValidId.isPlain {id : Bytes} (h : ValidId id) : ∀ c ∈ id, IsPlain c := by
  have hall : ∀ n : Fin 256, isalnum (.ofFin n) = true ∨ .ofFin n ∈ bytes "._:-" →
      UInt8.ofFin n ≠ byte '"' ∧ UInt8.ofFin n ≠ byte '\\' ∧ 0x20 ≤ UInt8.ofFin n := by
    decide +kernel
  exact fun c hc => hall c.toFin (h.chars c hc)

/-- The text has the three members that were put in. -/
lemma readsCapture_captureText {id literal : Bytes} (hid : ∀ c ∈ id, IsPlain c)
    (hliteral : IsInteger literal) (flag : Bool) :
    ReadsCapture id literal flag (captureText id literal flag) := by
  have hkey := Member.isPlain_key
  refine ⟨_, List.Perm.refl _, _, [], token_append _ _, ?_, by simp⟩
  refine .cons ⟨_, _, readsString_quote (hkey (.RequestId id)) _, token_append _ _,
    readsString_quote hid _⟩ (token_append _ _) ?_
  refine .cons ⟨_, _, readsString_quote (hkey (.DelayMs literal)) _, token_append _ _,
    hliteral, token_append _ _, ?_⟩ (token_append _ _) ?_
  · intro c hc
    obtain rfl : byte ',' = c := Option.some.inj hc
    decide
  · exact .last ⟨_, _, readsString_quote (hkey (.Autofocus flag)) _, token_append _ _,
      token_append _ _⟩ (token_append _ _)

lemma formatInt_of_nonneg {n : ℤ} (h : 0 ≤ n) :
    IsInteger (formatInt n) ∧ integerOf (formatInt n) = n := by
  have hformat : formatInt n = formatNat n.natAbs := if_neg (not_lt.mpr h)
  have hdigits : ∀ c ∈ formatNat n.natAbs, isdigit c = true := fun _ hc => isdigit_of_mem_formatNat hc
  rw [hformat]
  refine ⟨⟨[], _, Or.inl rfl, formatNat_ne_nil _, hdigits, rfl⟩, ?_⟩
  have hminus : ¬ (formatNat n.natAbs).head? = some (byte '-') := by
    intro hhead
    exact (isdigit_ne (hdigits _ (List.mem_of_mem_head? hhead))).2.1 rfl
  rw [integerOf, if_neg hminus, decimal_formatNat]
  omega

/-! ## The language -/

/-- The body is a capture request with these values, and with this literal for the delay. -/
structure IsCapture (body literal : Bytes) (request : CaptureRequest) : Prop where
  reads : ReadsCapture request.requestId literal request.autofocus body
  valid : ValidId request.requestId
  length_le : literal.length ≤ 10
  value : integerOf literal = request.delayMs
  lower : -2147483647 ≤ request.delayMs
  upper : request.delayMs ≤ 2147483647

lemma ReadsCapture.isInteger {id literal body : Bytes} {flag : Bool}
    (h : ReadsCapture id literal flag body) : IsInteger literal := by
  obtain ⟨ms, hperm, inside, behind, -, hmembers, -⟩ := h
  have hall : ∀ {ms : List Member} {input rest : Bytes}, ReadsMembers ms input rest →
      ∀ literal, .DelayMs literal ∈ ms → IsInteger literal := by
    intro ms input rest h literal hmem
    induction h with
    | last hmember _ =>
        obtain rfl := List.mem_singleton.mp hmem
        obtain ⟨_, _, -, -, hvalue⟩ := hmember
        exact hvalue.1
    | cons hmember _ _ ih =>
        rcases List.mem_cons.mp hmem with rfl | hmem
        · obtain ⟨_, _, -, -, hvalue⟩ := hmember
          exact hvalue.1
        · exact ih hmem
  exact hall hmembers literal (hperm.mem_iff.mpr (by simp))

/-- So many characters, so large the number. -/
lemma abs_integerOf_lt {literal : Bytes} (h : IsInteger literal) :
    |integerOf literal| < 10 ^ literal.length := by
  obtain ⟨sign, digits, hsign, hne, hdigits, rfl⟩ := h
  have hlt : (decimal digits : ℤ) < 10 ^ digits.length := by exact_mod_cast decimal_lt hdigits
  rcases hsign with rfl | rfl
  · obtain ⟨c, t, rfl⟩ := List.exists_cons_of_ne_nil hne
    have hminus : ¬ (c :: t).head? = some (byte '-') := by
      simpa using (isdigit_ne (hdigits c List.mem_cons_self)).2.1
    rw [List.nil_append, integerOf, if_neg hminus, abs_of_nonneg (Int.natCast_nonneg _)]
    exact hlt
  · have hvalue : integerOf ([byte '-'] ++ digits) = -(decimal digits : ℤ) := rfl
    rw [hvalue, abs_neg, abs_of_nonneg (Int.natCast_nonneg _), List.length_append]
    exact hlt.trans_le (pow_le_pow_right₀ (by norm_num) (Nat.le_add_left _ _))

/-- A `long` that is wide enough for ten digits holds every literal the cursor takes. -/
lemma saturate_integerOf {literal : Bytes} (hwide : (10 : ℤ) ^ 10 ≤ 2 ^ (target.longBits - 1))
    (h : IsInteger literal) (hlength : literal.length ≤ 10) :
    target.saturate (integerOf literal) = integerOf literal := by
  have habs := (abs_integerOf_lt h).trans_le (pow_le_pow_right₀ (by norm_num) hlength)
  obtain ⟨hlower, hupper⟩ := abs_lt.mp habs
  rw [Target.saturate]
  omega

/-- What `parseCaptureJson` takes for a request, and how far it looks: exactly the bodies of the
grammar, each with its own request, never behind the end of the body, and among them every request
that the page makes. -/
structure Language (target : Target) : Prop where
  exact : ∀ body request, parseCaptureJson target body = some request ↔
    ∃ literal, IsCapture body literal request
  within : ∀ body cursor, JsonCursor.Reached target body cursor → cursor.pos ≤ body.length
  page : ∀ request, ValidId request.requestId → 0 ≤ request.delayMs →
    request.delayMs ≤ 2147483647 → parseCaptureJson target (stringify request) = some request

/-- **The language of `parseCaptureJson`**, where `long` is wide enough for ten digits: what the loop
accepts it has read by the rules of the grammar, member by member, and what the grammar makes the loop
reads back, as the keys tell the members apart. -/
theorem parseCaptureJson_language (hwide : (10 : ℤ) ^ 10 ≤ 2 ^ (target.longBits - 1)) :
    Language target where
  exact body request := by
    rw [parseCaptureJson_eq_some_iff]
    refine exists_congr fun literal => ?_
    constructor
    · rintro ⟨hreads, hvalid, hlength, hdelay, hlower, hupper⟩
      rw [saturate_integerOf hwide hreads.isInteger hlength] at hdelay
      exact ⟨hreads, hvalid, hlength, hdelay.symm, hlower, hupper⟩
    · rintro ⟨hreads, hvalid, hlength, hdelay, hlower, hupper⟩
      refine ⟨hreads, hvalid, hlength, ?_, hlower, hupper⟩
      rw [saturate_integerOf hwide hreads.isInteger hlength, hdelay]
  within body cursor h := h.within.2
  page request hvalid hlower hupper := by
    obtain ⟨hinteger, hvalue⟩ := formatInt_of_nonneg hlower
    have hlength : (formatInt request.delayMs).length ≤ 10 := by
      rw [formatInt, if_neg (not_lt.mpr hlower)]
      exact length_formatNat_le (by decide) (by omega)
    rw [parseCaptureJson_eq_some_iff]
    refine ⟨_, readsCapture_captureText hvalid.isPlain hinteger _, hvalid, hlength, ?_, by omega,
      hupper⟩
    rw [saturate_integerOf hwide hinteger hlength, hvalue]

/-- A 64-bit `long`, as on the machine the tests of the repository run on. -/
def Target.host : Target := ⟨64, by decide⟩

theorem parseCaptureJson_language_host : Language .host :=
  parseCaptureJson_language (by decide)

/-! ## The camera -/

/-- Integers are exact in this body: the delay is the number its literal denotes, and a number that is
out of range is refused. -/
def ExactOn (target : Target) (body : Bytes) : Prop :=
  ∀ id literal flag, ReadsCapture id literal flag body →
    (∀ request, parseCaptureJson target body = some request →
      request.delayMs = integerOf literal) ∧
    (2147483647 < |integerOf literal| → parseCaptureJson target body = none)

/-- There is nothing wrong with this body but that its delay, of ten digits, is too large. -/
def Oversized (body : Bytes) : Prop :=
  ∃ id literal flag, ReadsCapture id literal flag body ∧ ValidId id ∧ literal.length ≤ 10 ∧
    2147483647 < integerOf literal

/-- A `long` of the camera has 32 bits. -/
lemma saturate_armeabi (n : ℤ) :
    Target.armeabi.saturate n = max (-2147483648) (min n 2147483647) := rfl

/-- **Integers on the camera** are exact but for those that `strtol` makes fit: with a `long` of 32
bits it brings a number of ten digits to one that the range of an `int` lets pass. -/
theorem exactOn_armeabi_iff (body : Bytes) : ExactOn .armeabi body ↔ ¬ Oversized body := by
  constructor
  · rintro hexact ⟨id, literal, flag, hreads, hvalid, hlength, hlarge⟩
    have hsaturate : Target.armeabi.saturate (integerOf literal) = 2147483647 := by
      rw [saturate_armeabi]
      omega
    have hparse : parseCaptureJson .armeabi body =
        some { requestId := id, delayMs := 2147483647, autofocus := flag } := by
      rw [parseCaptureJson_eq_some_iff]
      exact ⟨literal, hreads, hvalid, hlength, hsaturate.symm, by norm_num, by norm_num⟩
    have hnone := (hexact id literal flag hreads).2 (hlarge.trans_le (le_abs_self _))
    exact nomatch hparse.symm.trans hnone
  · intro hsize id literal flag hreads
    have haccepted : ∀ request, parseCaptureJson .armeabi body = some request →
        request.delayMs = integerOf literal ∧ |request.delayMs| ≤ 2147483647 := by
      intro request hparse
      obtain ⟨literal', hreads', hvalid, hlength, hdelay, hlower, hupper⟩ :=
        parseCaptureJson_eq_some_iff.mp hparse
      obtain ⟨-, rfl, -⟩ := hreads.unique hreads'
      have hfits : integerOf literal ≤ 2147483647 := by
        by_contra hlarge
        exact hsize ⟨_, literal, _, hreads', hvalid, hlength, not_le.mp hlarge⟩
      refine ⟨?_, abs_le.mpr ⟨hlower, hupper⟩⟩
      rw [hdelay] at hlower ⊢
      rw [saturate_armeabi] at hlower ⊢
      omega
    refine ⟨fun request hparse => (haccepted request hparse).1, fun hlarge => ?_⟩
    cases hparse : parseCaptureJson .armeabi body with
    | none => rfl
    | some request =>
        obtain ⟨hdelay, hrange⟩ := haccepted request hparse
        rw [hdelay] at hrange
        exact absurd hlarge (not_lt.mpr hrange)

/-- A request to take a photograph in about seven weeks, by a number that is no `int`. -/
def sevenWeeks : Bytes := captureText (bytes "a") (bytes "4294967296") true

/-- The camera takes it for one in less than four; where `long` has 64 bits it is refused. -/
theorem sevenWeeks_not_exact :
    parseCaptureJson .armeabi sevenWeeks = some { requestId := bytes "a", delayMs := 2147483647 } ∧
      parseCaptureJson .host sevenWeeks = none ∧ ¬ ExactOn .armeabi sevenWeeks := by
  have hparse : parseCaptureJson .armeabi sevenWeeks =
      some { requestId := bytes "a", delayMs := 2147483647 } := by decide +kernel
  have hinteger : IsInteger (bytes "4294967296") :=
    ⟨[], bytes "4294967296", Or.inl rfl, by decide, by decide +kernel, rfl⟩
  have hid : ∀ c ∈ bytes "a", IsPlain c := by
    intro c hc
    rw [List.mem_singleton.mp hc]
    exact ⟨by decide, by decide, by decide⟩
  refine ⟨hparse, by decide +kernel, fun hexact => ?_⟩
  have hdelay := (hexact _ _ _ (readsCapture_captureText hid hinteger true)).1 _ hparse
  exact absurd hdelay (by decide)

end LegacyAlpha
