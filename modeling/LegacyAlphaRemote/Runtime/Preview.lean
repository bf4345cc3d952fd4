import LegacyAlphaRemote.Core.Versions
import LegacyAlphaRemote.Runtime.Calls
import LegacyAlphaRemote.Runtime.Native

/-!
# The version of the preview

The page asks for the picture when the status names a version that it does not have.  The version is
the number of pictures stored since the preview was last cleared, which every `start` and `stop` does
and of course a new runtime; so it begins anew with every session, while the page stays open
(`PreviewVersioned`).

`previewVersioned_iff` says what that comes to: a version names one picture exactly when no two
sessions store different pictures under the same number.
-/

namespace LegacyAlpha

open NativeRuntime

/-! ## What the phone is shown -/

/-- The version in the status and the picture at `/api/v1/preview.jpg`, when there is one. -/
def NativeRuntime.shown (rt : NativeRuntime) : Option (ℤ × Bytes) :=
  if rt.previewJpeg.isEmpty then none else some (rt.previewVersion, rt.previewJpeg)

/-- Without a runtime nothing is shown, and the page is not answered. -/
def Native.shown (native : Native) : Option (ℤ × Bytes) := native.runtime.bind NativeRuntime.shown

/-- The page: `previewVersion`, by which it tells whether a picture is new, and what `photo` shows. -/
structure Page where
  previewVersion : ℤ := 0
  photo : Option Bytes := none

/-- `poll` asks for the picture when the status names another version than that of the picture it
has; `loaded` says whether it gets it. -/
def Page.poll (page : Page) (native : Native) (loaded : Bool) : Page :=
  match native.shown with
  | none => page
  | some (version, jpeg) =>
    if version ≠ page.previewVersion ∧ loaded = true then ⟨version, some jpeg⟩ else page

/-- A page that polls after these steps, in those of them where it does. -/
def Page.polls (visits : List (NativeStep × Bool)) : Page :=
  visits.foldl (fun page visit => page.poll visit.1.after visit.2) {}

/-- **The preview is versioned**: at any two moments with the same version the picture is the same;
and so a page that has the version of the status, and asks for nothing, has the picture. -/
structure PreviewVersioned (steps : List NativeStep) : Prop where
  names : ∀ s ∈ steps, ∀ t ∈ steps, ∀ version jpeg jpeg', s.after.shown = some (version, jpeg) →
    t.after.shown = some (version, jpeg') → jpeg = jpeg'
  page : ∀ visits t, (visits.map Prod.fst ++ [t]).Sublist steps → ∀ jpeg,
    t.after.shown = some ((Page.polls visits).previewVersion, jpeg) →
    (Page.polls visits).photo = some jpeg

/-- What is shown is what is served to a client that has the PIN. -/
lemma NativeRuntime.handleGet_shown (assets : Assets) (rt : NativeRuntime) (io : Io)
    {request : HttpRequest} (hpath : request.path = bytes "/api/v1/preview.jpg")
    (hpin : rt.authenticate request.pin = true) :
    (handleGet assets rt io request).response =
      (rt.shown.map fun shown => ⟨200, bytes "image/jpeg", shown.2⟩).getD
        (jsonError 404 (bytes "preview unavailable")) := by
  rw [handleGet, NativeRuntime.shown, hpath, hpin]
  by_cases hempty : rt.previewJpeg.isEmpty = true
  · rw [if_pos hempty, if_pos hempty]
    rfl
  · rw [if_neg hempty, if_neg hempty]
    rfl

/-! ## What is stored -/

/-- A picture that `setPreview` stores: there is one, and it is within the limits. -/
def storable (data : Bytes) (width height : ℤ) : Bool :=
  !data.isEmpty && !(data.length > 1572864 || width ≤ 0 || height ≤ 0)

/-- The pictures stored since the preview was last cleared, after a step.  A `start` clears it unless
there is a session, and a `stop` when there is one; a new runtime has none. -/
def albumAfter (album : List Bytes) (s : NativeStep) : List Bytes :=
  match s.op, s.before.runtime with
  | .NativeStart _ _ _, none => []
  | .NativeStop, some _ => []
  | .Call (.Start _ _), some rt => if rt.started then album else []
  | .Call .Stop, some rt => if rt.started then [] else album
  | .Call (.SetPreview data width height _ _), some _ =>
      if storable data width height then album ++ [data] else album
  | _, _ => album

/-- The pictures stored since the preview was last cleared, oldest first. -/
def albumOf (steps : List NativeStep) : List Bytes := steps.foldl albumAfter []

/-- No two pictures are stored under the same number: of the pictures stored since the preview was
cleared, at any two times, one list is the beginning of the other. -/
def PicturesAgree (steps : List NativeStep) : Prop := Versions.Agrees albumOf steps

variable {assets : Assets} {target : Target} {config : NativeConfig} {rt rt' : NativeRuntime}
  {io : Io} {native : Native} {steps : List NativeStep} {album : List Bytes}

/-! ## What is shown -/

namespace NativeRuntime

/-- The preview is that of these pictures: there are as many as the version says, and the last is
shown. -/
structure Shows (rt : NativeRuntime) (album : List Bytes) : Prop where
  version : rt.previewVersion = album.length
  jpeg : rt.previewJpeg = album.getLast?.getD []
  pictures : ∀ picture ∈ album, picture ≠ []

lemma shows_nil (hjpeg : rt.previewJpeg = []) (hversion : rt.previewVersion = 0) :
    rt.Shows [] :=
  ⟨by simpa using hversion, by simpa using hjpeg, by simp⟩

lemma Shows.same (h : rt.Shows album) (hjpeg : rt'.previewJpeg = rt.previewJpeg)
    (hversion : rt'.previewVersion = rt.previewVersion) : rt'.Shows album :=
  ⟨hversion.trans h.version, hjpeg.trans h.jpeg, h.pictures⟩

/-- A call of the machine, and an update of the screen, leave the preview as it is. -/
lemma shows_upheld (config : NativeConfig) (album : List Bytes) :
    Upheld config fun rt _ => rt.Shows album where
  aside h haside := h.same haside.previewJpeg haside.previewVersion
  nowMs h := h
  screen h _ := h
  operate h _ _ := h.same rfl rfl

lemma Shows.shown (h : rt.Shows album) :
    rt.shown = album.getLast?.map fun picture => ((album.length : ℤ), picture) := by
  rw [NativeRuntime.shown, h.version, h.jpeg]
  cases hlast : album.getLast? with
  | none => rfl
  | some picture =>
      have hpicture : picture ≠ [] := h.pictures picture (List.mem_of_getLast? hlast)
      cases picture with
      | nil => exact absurd rfl hpicture
      | cons b picture => rfl

lemma Shows.setPreview (h : rt.Shows album) (data : Bytes) (width height : ℤ)
    (source error : Bytes) : (setPreview rt data width height source error).Shows
      (if storable data width height then album ++ [data] else album) := by
  rw [NativeRuntime.setPreview, storable]
  by_cases hempty : data.isEmpty = true
  · rw [if_pos hempty, if_neg (by simp [hempty])]
    exact h.same rfl rfl
  · rw [if_neg hempty]
    by_cases hrisky : (data.length > 1572864 || width ≤ 0 || height ≤ 0) = true
    · rw [if_pos (by simpa using hrisky), if_neg (by simp [hrisky])]
      exact h.same rfl rfl
    · rw [if_neg (by simpa using hrisky), if_pos (by simp [hempty, hrisky])]
      refine ⟨?_, ?_, ?_⟩
      · simp [h.version]
      · simp
      · intro picture hpicture
        rcases List.mem_append.mp hpicture with hold | hnew
        · exact h.pictures picture hold
        · rw [List.mem_singleton.mp hnew]
          exact fun hnil => hempty (by simp [hnil])

lemma Shows.start (h : rt.Shows album) (random : ℕ) (serverStarts : Bool) :
    (rt.start assets config io random serverStarts).runtime.Shows
      (if rt.started then album else []) := by
  rw [NativeRuntime.start]
  by_cases hstarted : rt.started = true
  · rw [if_pos hstarted, if_pos hstarted]
    exact h
  · rw [if_neg hstarted, if_neg hstarted]
    cases serverStarts with
    | false => exact shows_nil rfl rfl
    | true =>
        have hcleared : Shows { (operate config (rt.renew random) io .Start).runtime with
            started := true } [] := shows_nil rfl rfl
        exact (shows_upheld config []).updateScreen hcleared true

lemma Shows.stop (h : rt.Shows album) :
    (rt.stop config io).runtime.Shows (if rt.started then [] else album) := by
  rw [NativeRuntime.stop]
  by_cases hstarted : rt.started = true
  · rw [if_neg (by simp [hstarted]), if_pos hstarted]
    exact shows_nil rfl rfl
  · rw [if_pos (by simpa using hstarted), if_neg hstarted]
    exact h

end NativeRuntime

/-! ## A step -/

/-- The library shows these pictures, the last of them under their number; without a runtime there are
none. -/
def Native.Shows (native : Native) (album : List Bytes) : Prop :=
  match native.runtime with
  | none => album = []
  | some rt => rt.Shows album

lemma Native.Shows.shown (h : native.Shows album) :
    native.shown = album.getLast?.map fun picture => ((album.length : ℤ), picture) := by
  obtain ⟨runtime, activity⟩ := native
  cases runtime with
  | none =>
      obtain rfl : album = [] := h
      rfl
  | some rt => exact NativeRuntime.Shows.shown h

/-- A call of the runtime keeps what is shown in step with the pictures. -/
lemma NativeRuntime.Shows.perform (h : rt.Shows album) (op : RuntimeOp) {s : NativeStep}
    (hop : s.op = .Call op) (hbefore : s.before.runtime = some rt) :
    (rt.perform assets target config io op).runtime.Shows (albumAfter album s) := by
  rw [albumAfter, hop, hbefore]
  cases op with
  | Start random serverStarts => exact h.start random serverStarts
  | Stop => exact h.stop
  | SetPreview data width height source error => exact h.setPreview data width height source error
  | _ =>
      exact (shows_upheld config album).perform h (fun _ _ => nofun) nofun fun _ _ _ _ _ => nofun

/-- **A step** goes on showing what is stored. -/
lemma Native.Shows.step (h : native.Shows album) (op : NativeOp) (clock : ℕ → ℤ)
    (answers : ℕ → Bool) :
    (native.step assets target config op clock answers).after.Shows
      (albumAfter album (native.step assets target config op clock answers)) := by
  obtain ⟨runtime, activity⟩ := native
  cases op with
  | NativeStart activity' random serverStarts =>
      cases runtime with
      | some rt => exact h
      | none =>
          have hnew : (NativeRuntime.new config).Shows [] := shows_nil rfl rfl
          have hstarted : ((NativeRuntime.new config).start assets config { clock, answers } random
              serverStarts).runtime.Shows [] := hnew.start random serverStarts
          show Native.Shows (Native.nativeStart assets config _ _ _ _ _).native []
          rw [Native.nativeStart, if_neg (by simp)]
          dsimp only
          split_ifs
          · exact (rfl : ([] : List Bytes) = [])
          · exact hstarted
  | NativeStop =>
      cases runtime with
      | none => exact h
      | some rt => exact (rfl : ([] : List Bytes) = [])
  | Call op =>
      cases runtime with
      | none =>
          obtain rfl : album = [] := h
          cases op <;> exact (rfl : ([] : List Bytes) = [])
      | some rt => exact NativeRuntime.Shows.perform h op rfl rfl

/-! ## Runs -/

lemma albumOf_concat (steps : List NativeStep) (s : NativeStep) :
    albumOf (steps ++ [s]) = albumAfter (albumOf steps) s :=
  List.foldl_concat ..

/-- What a step makes of the pictures. -/
lemma albumAfter_cases (album : List Bytes) (s : NativeStep) :
    albumAfter album s = [] ∨ albumAfter album s = album ∨
      ∃ picture, albumAfter album s = album ++ [picture] := by
  rw [albumAfter]
  split
  · exact Or.inl rfl
  · exact Or.inl rfl
  · split_ifs
    · exact Or.inr (Or.inl rfl)
    · exact Or.inl rfl
  · split_ifs
    · exact Or.inl rfl
    · exact Or.inr (Or.inl rfl)
  · split_ifs
    · exact Or.inr (Or.inr ⟨_, rfl⟩)
    · exact Or.inr (Or.inl rfl)
  · exact Or.inr (Or.inl rfl)

lemma stored_albumOf : Versions.Stored albumOf where
  nil := rfl
  concat es e := by
    rw [albumOf_concat]
    exact albumAfter_cases (albumOf es) e

/-- At any moment of a run the last picture is shown, under its number. -/
lemma NativeRun.shows (h : NativeRun assets target config steps native) :
    native.Shows (albumOf steps) := by
  induction h with
  | init => exact (rfl : ([] : List Bytes) = [])
  | step op clock answers hrun ih =>
      rw [albumOf_concat]
      exact ih.step op clock answers

lemma NativeRun.shown (h : NativeRun assets target config steps native) :
    ∀ past s, past ++ [s] <+: steps →
      s.after.shown = (albumOf (past ++ [s])).getLast?.map fun picture =>
        (((albumOf (past ++ [s])).length : ℤ), picture) := by
  induction h with
  | init => exact fun past s hbegins => absurd hbegins.length_le (by simp)
  | @step steps native op clock answers hrun ih =>
      intro past s hbegins
      rcases List.prefix_concat_iff.mp hbegins with hwhole | hearly
      · have hshows := (hrun.step op clock answers).shows.shown
        rw [← hwhole] at hshows
        obtain ⟨-, hs⟩ := List.append_inj' hwhole rfl
        rw [List.singleton_inj.mp hs] at hshows ⊢
        exact hshows
      · exact ih past s hearly

lemma exists_prefix_of_mem {s : NativeStep} (hs : s ∈ steps) : ∃ past, past ++ [s] <+: steps := by
  obtain ⟨past, rest, rfl⟩ := List.append_of_mem hs
  exact ⟨past, rest, by simp⟩

/-- There are pictures only after a step. -/
lemma exists_concat_of_getLast? {jpeg : Bytes} (h : (albumOf steps).getLast? = some jpeg) :
    ∃ past s, steps = past ++ [s] := by
  rcases List.eq_nil_or_concat steps with rfl | ⟨past, s, rfl⟩
  · exact nomatch h
  · exact ⟨past, s, List.concat_eq_append⟩

/-- What a version names: the picture of that number since the preview was last cleared. -/
lemma NativeRun.shown_iff (h : NativeRun assets target config steps native) {past : List NativeStep}
    {s : NativeStep} (hbegins : past ++ [s] <+: steps) {version : ℤ} {jpeg : Bytes} :
    s.after.shown = some (version, jpeg) ↔
      version = (albumOf (past ++ [s])).length ∧ (albumOf (past ++ [s])).getLast? = some jpeg := by
  rw [h.shown past s hbegins, Option.map_eq_some_iff]
  constructor
  · rintro ⟨picture, hlast, heq⟩
    obtain ⟨rfl, rfl⟩ := Prod.mk.inj heq
    exact ⟨rfl, hlast⟩
  · rintro ⟨rfl, hlast⟩
    exact ⟨jpeg, hlast, rfl⟩

/-- The versions in use begin with one. -/
lemma NativeRun.version_pos (h : NativeRun assets target config steps native) {s : NativeStep}
    (hs : s ∈ steps) {version : ℤ} {jpeg : Bytes} (hshown : s.after.shown = some (version, jpeg)) :
    0 < version := by
  obtain ⟨past, hbegins⟩ := exists_prefix_of_mem hs
  obtain ⟨rfl, hlast⟩ := (h.shown_iff hbegins).mp hshown
  have hmem := List.length_pos_of_mem (List.mem_of_getLast? hlast)
  exact_mod_cast hmem

/-- The names of the pictures, said of what is shown. -/
lemma NativeRun.names_iff (h : NativeRun assets target config steps native) :
    (∀ s ∈ steps, ∀ t ∈ steps, ∀ version jpeg jpeg', s.after.shown = some (version, jpeg) →
      t.after.shown = some (version, jpeg') → jpeg = jpeg') ↔ Versions.Names albumOf steps := by
  constructor
  · intro hnames past past' hpast hpast' hlength
    cases hlast : (albumOf past).getLast? with
    | none =>
        rw [List.getLast?_eq_none_iff] at hlast
        rw [hlast, List.length_nil, eq_comm, List.length_eq_zero_iff] at hlength
        rw [hlength]
        rfl
    | some jpeg =>
        have hpos : 0 < (albumOf past).length := List.length_pos_of_mem (List.mem_of_getLast? hlast)
        obtain ⟨jpeg', hlast'⟩ : ∃ jpeg', (albumOf past').getLast? = some jpeg' := by
          rw [hlength, List.length_pos_iff] at hpos
          exact ⟨_, List.getLast?_eq_some_getLast hpos⟩
        obtain ⟨early, s, rfl⟩ := exists_concat_of_getLast? hlast
        obtain ⟨early', t, rfl⟩ := exists_concat_of_getLast? hlast'
        have hs : s ∈ steps := hpast.subset (by simp)
        have ht : t ∈ steps := hpast'.subset (by simp)
        have hshown := (h.shown_iff hpast).mpr ⟨rfl, hlast⟩
        have hshown' := (h.shown_iff hpast').mpr ⟨rfl, hlast'⟩
        rw [hlength] at hshown
        rw [hlast', hnames s hs t ht _ jpeg jpeg' hshown hshown']
  · intro hnames s hs t ht version jpeg jpeg' hshown hshown'
    obtain ⟨past, hbegins⟩ := exists_prefix_of_mem hs
    obtain ⟨past', hbegins'⟩ := exists_prefix_of_mem ht
    obtain ⟨rfl, hlast⟩ := (h.shown_iff hbegins).mp hshown
    obtain ⟨hlength, hlast'⟩ := (h.shown_iff hbegins').mp hshown'
    have hsame := hnames _ _ hbegins hbegins' (by exact_mod_cast hlength)
    rw [hlast, hlast'] at hsame
    exact Option.some.inj hsame

/-- A page that polls has a picture that was shown under the version it has. -/
lemma Page.polls_shown (visits : List (NativeStep × Bool)) : Page.polls visits = {} ∨
    ∃ visit ∈ visits, ∃ jpeg, (Page.polls visits).photo = some jpeg ∧
      visit.1.after.shown = some ((Page.polls visits).previewVersion, jpeg) := by
  induction visits using List.reverseRecOn with
  | nil => exact Or.inl rfl
  | append_singleton visits visit ih =>
      have hlast : Page.polls (visits ++ [visit]) =
          (Page.polls visits).poll visit.1.after visit.2 := List.foldl_concat ..
      have hkept : Page.polls (visits ++ [visit]) = Page.polls visits →
          Page.polls (visits ++ [visit]) = {} ∨ ∃ visit' ∈ visits ++ [visit], ∃ jpeg,
            (Page.polls (visits ++ [visit])).photo = some jpeg ∧ visit'.1.after.shown =
              some ((Page.polls (visits ++ [visit])).previewVersion, jpeg) := by
        intro hsame
        rw [hsame]
        rcases ih with hnew | ⟨visit', hvisit, hphoto⟩
        · exact Or.inl hnew
        · exact Or.inr ⟨visit', List.mem_append_left _ hvisit, hphoto⟩
      cases hshown : visit.1.after.shown with
      | none => exact hkept (by rw [hlast, Page.poll, hshown])
      | some picture =>
          obtain ⟨version, jpeg⟩ := picture
          by_cases hload : version ≠ (Page.polls visits).previewVersion ∧ visit.2 = true
          · have hpage : Page.polls (visits ++ [visit]) = ⟨version, some jpeg⟩ := by
              rw [hlast, Page.poll, hshown]
              exact if_pos hload
            refine Or.inr ⟨visit, List.mem_append_right _ (List.mem_singleton_self _), jpeg, ?_⟩
            rw [hpage]
            exact ⟨rfl, hshown⟩
          · refine hkept ?_
            rw [hlast, Page.poll, hshown]
            exact if_neg hload

/-- **When a version names one picture**: in every run, exactly when no two sessions store different
pictures under the same number.  Within a session the versions count up; the next one begins with one
again, and the page cannot tell. -/
theorem previewVersioned_iff (h : NativeRun assets target config steps native) :
    PreviewVersioned steps ↔ PicturesAgree steps := by
  rw [PicturesAgree, ← Versions.names_iff stored_albumOf, ← h.names_iff]
  refine ⟨fun hversioned => hversioned.names, fun hnames => ⟨hnames, ?_⟩⟩
  intro visits t hvisits jpeg hshown
  have ht : t ∈ steps := hvisits.subset (by simp)
  rcases Page.polls_shown visits with hnew | ⟨visit, hvisit, jpeg', hphoto, hshown'⟩
  · -- The page has nothing yet, and its version is none.
    rw [hnew] at hshown
    exact absurd (h.version_pos ht hshown) (lt_irrefl 0)
  · have hs : visit.1 ∈ steps :=
      hvisits.subset (List.mem_append_left _ (List.mem_map_of_mem hvisit))
    rw [hphoto, hnames _ hs t ht _ jpeg' jpeg hshown' hshown]

/-- Java stores a picture, which its last byte tells from the others. -/
def pictureOf (last : UInt8) : NativeOp :=
  .Call (.SetPreview [0xff, 0xd8, last] 640 480 (bytes "captured_jpeg") [])

/-- A session with two pictures, and after a restart one that begins with the same two and goes on. -/
def sameAlbum : List NativeStep :=
  NativeRun.taken {} .armeabi {} {} [(.NativeStart 0 123456 true, 1000), (pictureOf 1, 2000),
    (pictureOf 2, 3000), (.NativeStop, 4000), (.NativeStart 0 654321 true, 5000), (pictureOf 1, 6000),
    (pictureOf 2, 7000), (pictureOf 3, 8000)]

theorem previewVersioned_sameAlbum :
    albumOf (sameAlbum.take 3) = [[0xff, 0xd8, 1], [0xff, 0xd8, 2]] ∧
      albumOf sameAlbum = [[0xff, 0xd8, 1], [0xff, 0xd8, 2], [0xff, 0xd8, 3]] ∧
      PreviewVersioned sameAlbum := by
  obtain ⟨native, hrun⟩ : ∃ native, NativeRun {} .armeabi {} sameAlbum native :=
    NativeRun.taken_run {} .armeabi {} _
  have halbum : ∀ past, past <+: sameAlbum → albumOf past <+: albumOf sameAlbum := by
    intro past hpast
    rw [List.prefix_iff_eq_take] at hpast
    have hlength : past.length ≤ 8 := by
      rw [hpast]
      exact List.length_take_le' ..
    rw [hpast]
    interval_cases past.length <;> decide +kernel
  refine ⟨by decide +kernel, by decide +kernel, (previewVersioned_iff hrun).mpr ?_⟩
  intro past past' hpast hpast'
  exact List.prefix_or_prefix_of_prefix (halbum past hpast) (halbum past' hpast')

/-- Two sessions, with a different picture in each of them, which is the first of its session. -/
def twoSessions : List NativeStep :=
  NativeRun.taken {} .armeabi {} {} [(.NativeStart 0 123456 true, 1000),
    (.Call (.SetPreview [0xff, 0xd8, 0x01] 640 480 (bytes "captured_jpeg") []), 2000),
    (.NativeStop, 3000), (.NativeStart 0 654321 true, 4000),
    (.Call (.SetPreview [0xff, 0xd8, 0x02] 640 480 (bytes "captured_jpeg") []), 5000)]

/-- The two pictures have the same version, since `start` has set it back, so that the page keeps the
old one. -/
theorem not_previewVersioned_twoSessions :
    (∃ native, NativeRun {} .armeabi {} twoSessions native) ∧ ¬ PreviewVersioned twoSessions := by
  refine ⟨NativeRun.taken_run {} .armeabi {} _, fun hversioned => ?_⟩
  obtain ⟨s, hs, hfirst⟩ : ∃ s ∈ twoSessions, s.after.shown = some (1, [0xff, 0xd8, 0x01]) := by
    decide +kernel
  obtain ⟨t, ht, hsecond⟩ : ∃ t ∈ twoSessions, t.after.shown = some (1, [0xff, 0xd8, 0x02]) := by
    decide +kernel
  have hsame := hversioned.names s hs t ht 1 _ _ hfirst hsecond
  exact absurd hsame (by decide)

end LegacyAlpha
