import LegacyAlphaRemote.Core.Trace
import LegacyAlphaRemote.Runtime.JsonBodies
import LegacyAlphaRemote.Runtime.Preview

/-!
# The preview as a whole

The preview is five fields of the runtime, which `setPreview` writes, `start` and `stop` clear, and two
pages show.  What they hold is simple to say: of the pictures that were accepted since the preview was
last cleared the last, and how many there were (`StoresPreview`).  A picture that is refused leaves all
five as they are (`setPreview_refused`).

`previewConsistent` collects what this comes to for the two pages, in every run.
-/

namespace LegacyAlpha

open Json NativeRuntime

/-! ## Pictures -/

/-- A picture that `setPreview` accepts, as it was passed, within the limits. -/
structure Picture where
  data : Bytes
  width : ℤ
  height : ℤ
  source : Bytes
  data_ne : data ≠ []
  data_le : data.length ≤ 1572864
  width_pos : 0 < width
  height_pos : 0 < height

lemma storable_iff {data : Bytes} {width height : ℤ} :
    storable data width height = true ↔
      data ≠ [] ∧ data.length ≤ 1572864 ∧ 0 < width ∧ 0 < height := by
  simp [storable, and_assoc]

/-- The picture of a call of `setPreview`, if it is accepted. -/
def Picture.make? (data : Bytes) (width height : ℤ) (source : Bytes) : Option Picture :=
  if h : storable data width height = true then
    some
      { data, width, height, source
        data_ne := (storable_iff.mp h).1
        data_le := (storable_iff.mp h).2.1
        width_pos := (storable_iff.mp h).2.2.1
        height_pos := (storable_iff.mp h).2.2.2 }
  else none

/-- The pictures accepted since the preview was last cleared, after a step.  A `start` clears it when
there is no session, and a `stop` when there is one. -/
def picturesAfter (pictures : List Picture) (s : RuntimeStep) : List Picture :=
  match s.op with
  | .Start _ _ => if s.before.started then pictures else []
  | .Stop => if s.before.started then [] else pictures
  | .SetPreview data width height source _ =>
      pictures ++ (Picture.make? data width height source).toList
  | _ => pictures

/-- The pictures accepted since the preview was last cleared, oldest first. -/
def picturesOf (steps : List RuntimeStep) : List Picture := steps.foldl picturesAfter []

/-! ## What is stored -/

/-- The five fields are those of the last of these pictures, and their number; or they are cleared. -/
structure StoresPreview (rt : NativeRuntime) (pictures : List Picture) : Prop where
  jpeg : rt.previewJpeg = (pictures.getLast?.map Picture.data).getD []
  width : rt.previewWidth = (pictures.getLast?.map Picture.width).getD 0
  height : rt.previewHeight = (pictures.getLast?.map Picture.height).getD 0
  source : rt.previewSource = (pictures.getLast?.map Picture.source).getD []
  version : rt.previewVersion = pictures.length

variable {assets : Assets} {target : Target} {config : NativeConfig} {rt rt' : NativeRuntime}
  {io : Io} {pictures : List Picture} {steps : List RuntimeStep}

lemma storesPreview_clearPreview (rt : NativeRuntime) : StoresPreview rt.clearPreview [] :=
  ⟨rfl, rfl, rfl, rfl, rfl⟩

/-- What leaves the five fields alone keeps what is stored, whatever else it changes. -/
lemma StoresPreview.same (h : StoresPreview rt pictures) (hjpeg : rt'.previewJpeg = rt.previewJpeg)
    (hwidth : rt'.previewWidth = rt.previewWidth) (hheight : rt'.previewHeight = rt.previewHeight)
    (hsource : rt'.previewSource = rt.previewSource)
    (hversion : rt'.previewVersion = rt.previewVersion) : StoresPreview rt' pictures where
  jpeg := hjpeg.trans h.jpeg
  width := hwidth.trans h.width
  height := hheight.trans h.height
  source := hsource.trans h.source
  version := hversion.trans h.version

lemma StoresPreview.updateScreen (h : StoresPreview rt pictures) (io : Io) (force : Bool) :
    StoresPreview (updateScreen assets config rt io force).1 pictures := by
  obtain ⟨screen, hscreen⟩ := updateScreen_runtime assets config rt io force
  rw [hscreen]
  exact h.same rfl rfl rfl rfl rfl

/-- **A refused picture** only leaves its error. -/
lemma setPreview_refused (rt : NativeRuntime) {data : Bytes} {width height : ℤ}
    (h : storable data width height = false) (source error : Bytes) :
    rt.setPreview data width height source error =
      { rt with
        previewError := if data.isEmpty then error else bytes "preview exceeds safety limits" } := by
  rw [setPreview]
  by_cases hempty : data.isEmpty = true
  · rw [if_pos hempty, if_pos hempty]
  · rw [storable, Bool.eq_false_iff.mpr hempty, Bool.not_false, Bool.true_and, Bool.not_eq_false']
      at h
    rw [if_neg hempty, if_neg hempty, if_pos (by simpa only [Bool.or_eq_true] using h)]

lemma setPreview_accepted (rt : NativeRuntime) {data : Bytes} {width height : ℤ}
    (h : storable data width height = true) (source error : Bytes) :
    rt.setPreview data width height source error =
      { rt with
        previewJpeg := data, previewWidth := width, previewHeight := height
        previewSource := source, previewError := [], previewVersion := rt.previewVersion + 1 } := by
  simp only [storable, Bool.and_eq_true, Bool.not_eq_true'] at h
  rw [setPreview, if_neg (by simp [h.1]), if_neg (by simpa using h.2)]

lemma StoresPreview.setPreview (h : StoresPreview rt pictures) (data : Bytes) (width height : ℤ)
    (source error : Bytes) :
    StoresPreview (setPreview rt data width height source error)
      (pictures ++ (Picture.make? data width height source).toList) := by
  by_cases hstorable : storable data width height = true
  · have hmake : ∃ picture, Picture.make? data width height source = some picture ∧
        picture.data = data ∧ picture.width = width ∧ picture.height = height ∧
        picture.source = source := ⟨_, dif_pos hstorable, rfl, rfl, rfl, rfl⟩
    obtain ⟨picture, hmake, hdata, hwidth, hheight, hsource⟩ := hmake
    rw [setPreview_accepted rt hstorable, hmake, Option.toList_some]
    constructor <;> simp [hdata, hwidth, hheight, hsource, h.version]
  · have hmake : Picture.make? data width height source = none := dif_neg hstorable
    rw [setPreview_refused rt (by simpa using hstorable), hmake, Option.toList_none, List.append_nil]
    exact h.same rfl rfl rfl rfl rfl

lemma StoresPreview.start (h : StoresPreview rt pictures) (random : ℕ) (serverStarts : Bool) :
    StoresPreview (rt.start assets config io random serverStarts).runtime
      (if rt.started then pictures else []) := by
  rw [NativeRuntime.start]
  by_cases hstarted : rt.started = true
  · rw [if_pos hstarted, if_pos hstarted]
    exact h
  · rw [if_neg hstarted, if_neg hstarted]
    cases serverStarts with
    | false => exact ⟨rfl, rfl, rfl, rfl, rfl⟩
    | true =>
        have hcleared : StoresPreview { (operate config (rt.renew random) io .Start).runtime with
            started := true } [] := ⟨rfl, rfl, rfl, rfl, rfl⟩
        exact hcleared.updateScreen _ true

lemma StoresPreview.stop (h : StoresPreview rt pictures) :
    StoresPreview (rt.stop config io).runtime (if rt.started then [] else pictures) := by
  rw [NativeRuntime.stop]
  by_cases hstarted : rt.started = true
  · rw [if_neg (by simp [hstarted]), if_pos hstarted]
    exact storesPreview_clearPreview _
  · rw [if_pos (by simpa using hstarted), if_neg hstarted]
    exact h

/-- Every other operation leaves the preview alone, in all of its parts. -/
lemma StoresPreview.perform (h : StoresPreview rt pictures) (io : Io) {op : RuntimeOp}
    (hstart : ∀ random serverStarts, op ≠ .Start random serverStarts) (hstop : op ≠ .Stop)
    (hpreview : ∀ data width height source error, op ≠ .SetPreview data width height source error) :
    StoresPreview (rt.perform assets target config io op).runtime pictures := by
  have hparts : Parts assets config op (rt, io) ((rt.perform assets target config io op).runtime,
      (rt.perform assets target config io op).io) := parts_perform rt io hstart hstop
  refine hparts.keeps (P := fun rt _ => StoresPreview rt pictures) (fun hpart hs => ?_) h
  cases hpart with
  | read rt io => exact hs
  | operate hinner rt io => exact hs.same rfl rfl rfl rfl rfl
  | screen rt io force => exact hs.updateScreen io force
  | set hsets io =>
      cases op with
      | SetPreview data width height source error =>
          exact absurd rfl (hpreview data width height source error)
      | HandleRequest _ _ =>
          obtain ⟨_, _, _, rfl⟩ := hsets
          exact hs.same rfl rfl rfl rfl rfl
      | SetWifiState _ _ _ _ _ _ | ServerError _ =>
          obtain rfl := hsets
          exact hs.same rfl rfl rfl rfl rfl
      | _ => exact hsets.elim

/-- **One step** keeps the fields in step with the pictures, be it one that stores, one that clears or
any other. -/
lemma StoresPreview.step (h : StoresPreview rt pictures) (op : RuntimeOp) (clock : ℕ → ℤ)
    (answers : ℕ → Bool) :
    StoresPreview (rt.step assets target config op clock answers).after
      (picturesAfter pictures (rt.step assets target config op clock answers)) := by
  cases op with
  | Start random serverStarts => exact h.start random serverStarts
  | Stop => exact h.stop
  | SetPreview data width height source error => exact h.setPreview data width height source error
  | _ => exact h.perform _ (fun _ _ => nofun) nofun fun _ _ _ _ _ => nofun

theorem RuntimePath.storesPreview (hpath : RuntimePath assets target config rt steps rt') :
    ∀ {pictures}, StoresPreview rt pictures →
      StoresPreview rt' (steps.foldl picturesAfter pictures) := by
  induction hpath with
  | refl rt => exact fun h => h
  | step op clock answers hrest ih => exact fun h => ih (h.step op clock answers)

/-! ## Where it comes from -/

/-- The step clears the preview: it begins a session, or ends one. -/
def RuntimeStep.ClearsPreview (s : RuntimeStep) : Prop :=
  match s.op with
  | .Start _ _ => s.before.started = false
  | .Stop => s.before.started = true
  | _ => False

/-- The step stores a picture, whatever was stored before. -/
def RuntimeStep.StoresPicture (s : RuntimeStep) : Prop :=
  match s.op with
  | .SetPreview data width height _ _ => storable data width height = true
  | _ => False

lemma picturesOf_concat (steps : List RuntimeStep) (s : RuntimeStep) :
    picturesOf (steps ++ [s]) = picturesAfter (picturesOf steps) s :=
  List.foldl_concat ..

/-- What a step does to the pictures: it clears them, adds its own, or leaves them. -/
lemma picturesAfter_cases (pictures : List Picture) (s : RuntimeStep) :
    (s.ClearsPreview ∧ ¬ s.StoresPicture ∧ picturesAfter pictures s = []) ∨
      (¬ s.ClearsPreview ∧ s.StoresPicture ∧ ∃ picture error,
        s.op = .SetPreview picture.data picture.width picture.height picture.source error ∧
        picturesAfter pictures s = pictures ++ [picture]) ∨
      (¬ s.ClearsPreview ∧ ¬ s.StoresPicture ∧ picturesAfter pictures s = pictures) := by
  rw [RuntimeStep.ClearsPreview, RuntimeStep.StoresPicture, picturesAfter]
  cases s.op with
  | Start random serverStarts => cases s.before.started <;> simp
  | Stop => cases s.before.started <;> simp
  | SetPreview data width height source error =>
      by_cases hstorable : storable data width height = true
      · have hmake : ∃ picture, Picture.make? data width height source = some picture ∧
            RuntimeOp.SetPreview data width height source error =
              .SetPreview picture.data picture.width picture.height picture.source error :=
          ⟨_, dif_pos hstorable, rfl⟩
        obtain ⟨picture, hmake, hop⟩ := hmake
        refine Or.inr (Or.inl ⟨id, hstorable, picture, error, hop, ?_⟩)
        dsimp only
        rw [hmake, Option.toList_some]
      · have hmake : Picture.make? data width height source = none := dif_neg hstorable
        refine Or.inr (Or.inr ⟨id, hstorable, ?_⟩)
        dsimp only
        rw [hmake, Option.toList_none, List.append_nil]
  | _ => simp

/-- The last picture was stored by a step after which nothing was stored or cleared. -/
lemma exists_storing_step {picture : Picture} (h : (picturesOf steps).getLast? = some picture) :
    ∃ past s rest error, steps = past ++ s :: rest ∧
      s.op = .SetPreview picture.data picture.width picture.height picture.source error ∧
      (∀ s' ∈ rest, ¬ s'.ClearsPreview ∧ ¬ s'.StoresPicture) ∧
      (picturesOf (past ++ [s])).length = (picturesOf steps).length := by
  induction steps using List.reverseRecOn with
  | nil => exact nomatch h
  | append_singleton steps s ih =>
      rw [picturesOf_concat] at h ⊢
      rcases picturesAfter_cases (picturesOf steps) s with
        ⟨-, -, hnone⟩ | ⟨-, -, picture', error, hop, hadd⟩ | ⟨hclears, hstores, hsame⟩
      · rw [hnone] at h
        exact nomatch h
      · rw [hadd, List.getLast?_concat, Option.some.injEq] at h
        subst h
        refine ⟨steps, s, [], error, rfl, hop, by simp, ?_⟩
        rw [picturesOf_concat]
      · rw [hsame] at h ⊢
        obtain ⟨past, s₀, rest, error, rfl, hop, hrest, hlength⟩ := ih h
        refine ⟨past, s₀, rest ++ [s], error, by simp, hop, fun s' hs' => ?_, hlength⟩
        rcases List.mem_append.mp hs' with hold | hnew
        · exact hrest s' hold
        · rw [List.mem_singleton.mp hnew]
          exact ⟨hclears, hstores⟩

/-- When there is no picture, all that were stored have been cleared. -/
lemma exists_clearing_step (h : picturesOf steps = []) {past rest : List RuntimeStep}
    {s : RuntimeStep} (hs : steps = past ++ s :: rest) (hstores : s.StoresPicture) :
    ∃ s' ∈ rest, s'.ClearsPreview := by
  induction steps using List.reverseRecOn generalizing rest with
  | nil => simp at hs
  | append_singleton steps last ih =>
      rw [picturesOf_concat] at h
      rcases TraceLogic.concat_eq_append_cons hs with ⟨rfl, rfl, rfl⟩ | ⟨rest, hsteps, rfl⟩
      · rcases picturesAfter_cases (picturesOf steps) last with
          ⟨-, hnot, -⟩ | ⟨-, -, picture, error, -, hadd⟩ | ⟨-, hnot, -⟩
        · exact absurd hstores hnot
        · rw [hadd] at h
          simp at h
        · exact absurd hstores hnot
      · rcases picturesAfter_cases (picturesOf steps) last with
          ⟨hclears, -, -⟩ | ⟨-, -, picture, error, -, hadd⟩ | ⟨-, -, hsame⟩
        · exact ⟨last, by simp, hclears⟩
        · rw [hadd] at h
          simp at h
        · rw [hsame] at h
          obtain ⟨s', hs', hclears⟩ := ih h hsteps
          exact ⟨s', List.mem_append_left _ hs', hclears⟩

/-- A path ends where its last step does. -/
lemma RuntimePath.eq_after {past : List RuntimeStep} {s : RuntimeStep}
    (h : RuntimePath assets target config rt (past ++ [s]) rt') : rt' = s.after := by
  obtain ⟨mid, -, hlast⟩ := h.append_inv
  obtain ⟨-, hrest⟩ := hlast.cons_inv
  cases hrest with
  | refl => rfl

/-! ## The two pages -/

/-- The preview after these steps, and what the pages make of it: the five fields belong to one call,
the last valid one since they were cleared, or are all clear, and both the status and the picture that
are answered come from them. -/
structure PreviewConsistent (assets : Assets) (target : Target) (config : NativeConfig)
    (steps : List RuntimeStep) (rt : NativeRuntime) : Prop where
  size : rt.previewJpeg.length ≤ 1572864
  version_pos : rt.previewJpeg ≠ [] ↔ 0 < rt.previewVersion
  dimensions_pos : 0 < rt.previewVersion ↔ 0 < rt.previewWidth ∧ 0 < rt.previewHeight
  /-- What is stored was passed in one call, the last valid one, and nothing has cleared it. -/
  stored : rt.previewJpeg ≠ [] → ∃ past s rest error, steps = past ++ s :: rest ∧
    s.op = .SetPreview rt.previewJpeg rt.previewWidth rt.previewHeight rt.previewSource error ∧
    s.StoresPicture ∧ s.after.previewVersion = rt.previewVersion ∧
    ∀ s' ∈ rest, ¬ s'.ClearsPreview ∧ ¬ s'.StoresPicture
  /-- Otherwise all five fields are clear, and every valid call has been followed by a step that
  clears them. -/
  cleared : rt.previewJpeg = [] → rt.previewWidth = 0 ∧ rt.previewHeight = 0 ∧
    rt.previewSource = [] ∧ rt.previewVersion = 0 ∧
    ∀ past s rest, steps = past ++ s :: rest → s.StoresPicture → ∃ s' ∈ rest, s'.ClearsPreview
  /-- A call that is not valid leaves its error and changes nothing else. -/
  refused : ∀ (data : Bytes) (width height : ℤ) (source error : Bytes),
    storable data width height = false → rt.setPreview data width height source error =
      { rt with
        previewError := if data.isEmpty then error else bytes "preview exceeds safety limits" }
  /-- A request for the picture that is allowed and has the PIN gets the bytes that are stored. -/
  served : ∀ (io : Io) (request : HttpRequest) (remoteAddress : Bytes),
    request.path = bytes "/api/v1/preview.jpg" → rt.AllowedGet io.nowMs.1 request remoteAddress →
    rt.authenticate request.pin = true →
    (handleRequest assets target config rt io request remoteAddress).response =
      if rt.previewJpeg.isEmpty then jsonError 404 (bytes "preview unavailable")
      else ⟨200, bytes "image/jpeg", rt.previewJpeg⟩
  /-- The status names their dimensions, source and version. -/
  reported : ∀ io, rt.FieldsFit io → ∃ members, parse (rt.statusJson io).1 = some (.obj members) ∧
    (members.map Prod.fst).Nodup ∧
    (bytes "preview_available", .bool (!rt.previewJpeg.isEmpty)) ∈ members ∧
    (bytes "preview_width", .num rt.previewWidth) ∈ members ∧
    (bytes "preview_height", .num rt.previewHeight) ∈ members ∧
    (bytes "preview_source", .str rt.previewSource) ∈ members ∧
    (bytes "preview_version", .num rt.previewVersion) ∈ members

/-- What is shown does not depend on the limiters. -/
lemma handleRequest_preview {request : HttpRequest} {remoteAddress : Bytes}
    (hpath : request.path = bytes "/api/v1/preview.jpg")
    (hallowed : rt.AllowedGet io.nowMs.1 request remoteAddress)
    (hpin : rt.authenticate request.pin = true) :
    (handleRequest assets target config rt io request remoteAddress).response =
      if rt.previewJpeg.isEmpty then jsonError 404 (bytes "preview unavailable")
      else ⟨200, bytes "image/jpeg", rt.previewJpeg⟩ := by
  have hpost : ¬ rt.AllowedPost io.nowMs.1 request remoteAddress := by
    rintro ⟨hmethod, -⟩
    rw [hallowed.1] at hmethod
    exact absurd hmethod (by decide)
  rcases handleRequest_cases assets target config rt io request remoteAddress with
    ⟨hnot, -⟩ | ⟨-, hr⟩ | ⟨hnot, -⟩
  · exact absurd hallowed hnot
  · have hshown := handleGet_shown assets
      { rt with statusLimiter := (rt.statusLimiter.allow remoteAddress io.nowMs.1).2 } io.nowMs.2
      hpath hpin
    rw [hr, hshown, NativeRuntime.shown]
    by_cases hempty : rt.previewJpeg.isEmpty = true <;> simp [hempty]
  · exact absurd hnot hpost

lemma parse_statusJson_preview (h : rt.FieldsFit io) :
    ∃ members, parse (rt.statusJson io).1 = some (.obj members) ∧
      (members.map Prod.fst).Nodup ∧
      (bytes "preview_available", .bool (!rt.previewJpeg.isEmpty)) ∈ members ∧
      (bytes "preview_width", .num rt.previewWidth) ∈ members ∧
      (bytes "preview_height", .num rt.previewHeight) ∈ members ∧
      (bytes "preview_source", .str rt.previewSource) ∈ members ∧
      (bytes "preview_version", .num rt.previewVersion) ∈ members := by
  refine ⟨_, parse_statusJson h, ?_, ?_⟩
  · simp only [List.map_cons, List.map_nil]
    decide
  · simp

/-- **The preview is consistent**, in every run: the fields are always those of the last of the
pictures, and what is answered is made from the fields. -/
theorem previewConsistent (hrun : RuntimeRun assets target config steps rt) :
    PreviewConsistent assets target config steps rt := by
  have hstores : StoresPreview rt (picturesOf steps) := by
    have hnew : StoresPreview (NativeRuntime.new config) [] := ⟨rfl, rfl, rfl, rfl, rfl⟩
    exact RuntimePath.storesPreview hrun hnew
  have hrest : (∀ (data : Bytes) (width height : ℤ) (source error : Bytes),
      storable data width height = false → rt.setPreview data width height source error =
        { rt with
          previewError :=
            if data.isEmpty then error else bytes "preview exceeds safety limits" }) :=
    fun data width height source error h => setPreview_refused rt h source error
  cases hlast : (picturesOf steps).getLast? with
  | none =>
      have hnone : picturesOf steps = [] := List.getLast?_eq_none_iff.mp hlast
      obtain ⟨hjpeg, hwidth, hheight, hsource, hversion⟩ := hstores
      rw [hnone] at hjpeg hwidth hheight hsource hversion
      have hversion : rt.previewVersion = 0 := hversion
      refine ⟨?_, ?_, ?_, fun hne => absurd hjpeg hne, fun _ => ?_, hrest, fun io request _ =>
        handleRequest_preview, fun io => parse_statusJson_preview⟩
      · simp [hjpeg]
      · simp [hjpeg, hversion]
      · simp [hwidth, hversion]
      · exact ⟨hwidth, hheight, hsource, hversion, fun past s rest => exists_clearing_step hnone⟩
  | some picture =>
      have hpos : 0 < (picturesOf steps).length :=
        List.length_pos_of_mem (List.mem_of_getLast? hlast)
      have hversion := hstores.version
      obtain ⟨hjpeg, hwidth, hheight, hsource, -⟩ := hstores
      rw [hlast] at hjpeg hwidth hheight hsource
      have hjpeg : rt.previewJpeg = picture.data := hjpeg
      have hwidth : rt.previewWidth = picture.width := hwidth
      have hheight : rt.previewHeight = picture.height := hheight
      have hsource : rt.previewSource = picture.source := hsource
      have hne : rt.previewJpeg ≠ [] := hjpeg ▸ picture.data_ne
      have hversion_pos : 0 < rt.previewVersion := by
        rw [hversion]
        exact_mod_cast hpos
      refine ⟨?_, ?_, ?_, fun _ => ?_, fun hnone => absurd hnone hne, hrest,
        fun io request _ => handleRequest_preview, fun io => parse_statusJson_preview⟩
      · rw [hjpeg]
        exact picture.data_le
      · simp [hne, hversion_pos]
      · simp [hversion_pos, hwidth, hheight, picture.width_pos, picture.height_pos]
      · obtain ⟨past, s, rest, error, hsteps, hop, hrest, hlength⟩ := exists_storing_step hlast
        rw [hjpeg, hwidth, hheight, hsource]
        refine ⟨past, s, rest, error, hsteps, hop, ?_, ?_, hrest⟩
        · rw [RuntimeStep.StoresPicture, hop]
          exact storable_iff.mpr
            ⟨picture.data_ne, picture.data_le, picture.width_pos, picture.height_pos⟩
        · have hlonger : steps = (past ++ [s]) ++ rest := by simp [hsteps]
          rw [hlonger] at hrun
          obtain ⟨mid, hmid, -⟩ := RuntimePath.append_inv hrun
          have hnew : StoresPreview (NativeRuntime.new config) [] := ⟨rfl, rfl, rfl, rfl, rfl⟩
          have hthen : StoresPreview mid (picturesOf (past ++ [s])) := hmid.storesPreview hnew
          rw [← hmid.eq_after, hthen.version, hlength, hversion]

/-- A picture, and then one without a width, which is not stored. -/
def pictureOps : List (RuntimeOp × ℤ) :=
  [(.Start 123456 true, 0),
    (.SetPreview [0xff, 0xd8] 640 480 (bytes "captured_jpeg") [], 1000),
    (.SetPreview [0xff, 0xd9] 0 480 (bytes "captured_jpeg") [], 2000)]

/-- The first picture is kept, with the error of the second. -/
theorem previewConsistent_pictureOps :
    let rt := RuntimePath.destination {} .armeabi {} (.new {}) pictureOps
    PreviewConsistent {} .armeabi {}
        (RuntimePath.taken {} .armeabi {} (.new {}) pictureOps) rt ∧
      rt.previewJpeg = [0xff, 0xd8] ∧ rt.previewVersion = 1 ∧
      rt.previewError = bytes "preview exceeds safety limits" :=
  ⟨previewConsistent (RuntimePath.taken_path {} .armeabi {} (.new {}) pictureOps), by decide +kernel,
    by decide +kernel, by decide +kernel⟩

end LegacyAlpha
