import LegacyAlphaRemote.Core.BinaryFloat
import LegacyAlphaRemote.Java.SonyCameraController
import LegacyAlphaRemote.Runtime.PreviewStore

/-!
# What the worker makes of a picture

`processJpeg` and the `run` of `queueLiveView`, of `SonyCameraController.java`: a JPEG is decoded, made
smaller when it is large, encoded again and handed to the listener, which passes it on to the runtime.
What the classes of Android answer is open (`Bitmaps`); the sizes are computed with the `float` of Java.

The log is left out.
-/

namespace LegacyAlpha

open BinaryFloat

/-- `PREVIEW_MAX_DIMENSION`, the longest side of a picture that is published. -/
def previewMaxDimension : ℤ := 1280

/-- `PREVIEW_MAX_BYTES`, the greatest length of a picture that is published. -/
def previewMaxBytes : ℕ := 1536 * 1024

/-- `ImageFormat.NV21`, the one format that frames of the live view are taken in. -/
def nv21 : ℤ := 17

/-- A bitmap, whose sizes are positive numbers of an `int`.  What is on it does not matter here. -/
structure Bitmap where
  width : ℤ
  height : ℤ
  width_pos : 0 < width
  height_pos : 0 < height
  width_lt : width < 2 ^ 31
  height_lt : height < 2 ^ 31
  deriving DecidableEq, Repr

/-- The size of a picture as it stands in its JPEG, in numbers of an `int`; not positive where there is
none. -/
structure Bounds where
  outWidth : ℤ
  outHeight : ℤ
  outWidth_lt : outWidth < 2 ^ 31
  outHeight_lt : outHeight < 2 ^ 31
  deriving DecidableEq, Repr

/-- What the classes of Android answer in one task: the size of the picture in a JPEG, the bitmap that
is decoded with a sample size, what becomes of a bitmap that is scaled, and the bytes of the two
encoders, where they say that they have succeeded. -/
structure Bitmaps where
  decodeBounds : Bytes → Except Thrown Bounds
  decode : Bytes → ℤ → Except Thrown (Option Bitmap)
  createScaledBitmap : Bitmap → ℤ → ℤ → Option Thrown
  compress : ℤ → ℤ → Except Thrown (Option Bytes)
  compressToJpeg : Bytes → ℤ → ℤ → Except Thrown (Option Bytes)

/-- What `onCameraPreview` is called with: a picture and its size, or an error without one. -/
structure Publication where
  jpeg : Option Bytes
  width : ℤ
  height : ℤ
  source : Bytes
  error : Bytes
  deriving DecidableEq, Repr

/-- The two bitmaps of `processJpeg`, the second of which it makes only to scale the first. -/
inductive BitmapName
  | Decoded
  | Scaled
  deriving DecidableEq, Repr

/-- What a task does that can be seen from outside: the bitmaps it makes and gives back, and what it
publishes. -/
inductive TaskCall
  | Create (bitmap : BitmapName)
  | Recycle (bitmap : BitmapName)
  | OnCameraPreview (publication : Publication)
  deriving DecidableEq, Repr

/-- `new IOException(message)`, with the text that `toString` gives of it. -/
def ioException (message : Bytes) : Thrown :=
  ⟨bytes "java.io.IOException", bytes "java.io.IOException: " ++ message, true⟩

/-- `publishPreviewError`: no picture, no size, and the text of an error. -/
def publishPreviewError (source error : Bytes) : Publication :=
  { jpeg := none, width := 0, height := 0, source, error }

/-! ## Sizes -/

/-- The loop that looks for the sample size, for so many rounds at most. -/
def sampleSize (outWidth outHeight : ℤ) : ℕ → ℤ → Option ℤ
  | 0, _ => none
  | fuel + 1, sample =>
    if outWidth.tdiv sample > previewMaxDimension * 2 ∨
        outHeight.tdiv sample > previewMaxDimension * 2 then
      sampleSize outWidth outHeight fuel ((sample * 2).bmod (2 ^ 32))
    else some sample

/-- `(float) n`: the nearest number of the format, ties to even. -/
def toFloat (n : ℤ) : ℚ := binary32.round n

/-- `Math.round` of a `float`.  The half is added in the format, too, so that the sum is rounded
before it is cut off. -/
def mathRound (a : ℚ) : ℤ := ⌊binary32.round (a + 1 / 2)⌋

/-- The factor of `processJpeg`, a quotient of two `float`s. -/
def previewScale (longest : ℤ) : ℚ :=
  binary32.round (toFloat previewMaxDimension / toFloat longest)

/-- A side of the picture after scaling, which is a pixel long at least. -/
def scaledSide (side longest : ℤ) : ℤ :=
  max 1 (mathRound (binary32.round (toFloat side * previewScale longest)))

/-! ## The task -/

/-- How the `try` of `processJpeg` ends, and the bitmaps that there are by then. -/
structure JpegAttempt where
  created : List BitmapName := []
  outcome : Except Thrown Publication
  deriving Repr

/-- The end of the `try`, from the output bitmap on: it is encoded, and refused if it is too long. -/
def encodeJpeg (bitmaps : Bitmaps) (created : List BitmapName) (width height : ℤ) (source : Bytes) :
    JpegAttempt :=
  match bitmaps.compress width height with
  | .error e => { created, outcome := .error e }
  | .ok none => { created, outcome := .error (ioException (bytes "JPEG encode failed")) }
  | .ok (some jpeg) =>
    if jpeg.length > previewMaxBytes then
      { created
        outcome := .error (ioException
          (bytes "Preview exceeds " ++ formatNat previewMaxBytes ++ bytes " bytes")) }
    else { created, outcome := .ok { jpeg := some jpeg, width, height, source, error := [] } }

/-- The same from the sample size on: the bitmap is decoded, and scaled if it is still too large. -/
def decodeJpeg (bitmaps : Bitmaps) (data source : Bytes) (sample : ℤ) : JpegAttempt :=
  match bitmaps.decode data sample with
  | .error e => { outcome := .error e }
  | .ok none => { outcome := .error (ioException (bytes "JPEG decode failed")) }
  | .ok (some decoded) =>
    let longest := max decoded.width decoded.height
    if longest > previewMaxDimension then
      let width := scaledSide decoded.width longest
      let height := scaledSide decoded.height longest
      match bitmaps.createScaledBitmap decoded width height with
      | some e => { created := [.Decoded], outcome := .error e }
      | none => encodeJpeg bitmaps [.Decoded, .Scaled] width height source
    else encodeJpeg bitmaps [.Decoded] decoded.width decoded.height source

/-- The `try` of `processJpeg`; `none` where the loop for the sample size goes on for ever. -/
def tryJpeg (bitmaps : Bitmaps) (data source : Bytes) : Option JpegAttempt :=
  match bitmaps.decodeBounds data with
  | .error e => some { outcome := .error e }
  | .ok bounds =>
    if bounds.outWidth ≤ 0 ∨ bounds.outHeight ≤ 0 then
      some { outcome := .error (ioException (bytes "Invalid JPEG dimensions")) }
    else
      (sampleSize bounds.outWidth bounds.outHeight 32 1).map (decodeJpeg bitmaps data source)

/-- The `catch` and the `finally` of `processJpeg`: one publication, and after it each bitmap that was
made is recycled. -/
def JpegAttempt.calls (attempt : JpegAttempt) (source : Bytes) : List TaskCall :=
  let publication :=
    match attempt.outcome with
    | .ok publication => publication
    | .error e => publishPreviewError source e.text
  attempt.created.map .Create ++ [.OnCameraPreview publication] ++
    attempt.created.reverse.map .Recycle

/-- `processJpeg`, which publishes once, whatever the classes of Android do. -/
def processJpeg (bitmaps : Bitmaps) (data source : Bytes) : Option (List TaskCall) :=
  (tryJpeg bitmaps data source).map (JpegAttempt.calls · source)

/-- The two tasks of the worker: the `run` of `queueJpeg` and that of `queueLiveView`. -/
inductive PreviewTask
  | Jpeg (data source : Bytes)
  | LiveView (data : Bytes) (width height format : ℤ)
  deriving DecidableEq, Repr

/-- The `run` of `queueLiveView`: a frame is made into a JPEG, which goes the way of a captured one.
-/
def processLiveView (bitmaps : Bitmaps) (data : Bytes) (width height format : ℤ) :
    Option (List TaskCall) :=
  let source := bytes "live_view_fallback"
  let failed (e : Thrown) := some [TaskCall.OnCameraPreview (publishPreviewError source e.text)]
  if format ≠ nv21 then
    failed (ioException (bytes "Unsupported preview format " ++ formatInt format))
  else
    match bitmaps.compressToJpeg data width height with
    | .error e => failed e
    | .ok none => failed (ioException (bytes "Preview JPEG conversion failed"))
    | .ok (some jpeg) => processJpeg bitmaps jpeg source

/-- The `run` of a task, of either kind. -/
def PreviewTask.run (bitmaps : Bitmaps) : PreviewTask → Option (List TaskCall)
  | .Jpeg data source => processJpeg bitmaps data source
  | .LiveView data width height format => processLiveView bitmaps data width height format

/-! ## The sample size -/

/-- **The loop ends**: it doubles the sample size until both sides are small enough, and no further. -/
lemma sampleSize_spec {outWidth outHeight : ℤ} (hwidth : 0 < outWidth) (hwidth' : outWidth < 2 ^ 31)
    (hheight : 0 < outHeight) (hheight' : outHeight < 2 ^ 31) :
    ∀ (fuel k : ℕ), k + fuel = 32 → k ≤ 20 →
      (∀ j < k, 2560 < outWidth / 2 ^ j ∨ 2560 < outHeight / 2 ^ j) →
      ∃ n ≤ 20, sampleSize outWidth outHeight fuel (2 ^ k) = some (2 ^ n) ∧
        outWidth / 2 ^ n ≤ 2560 ∧ outHeight / 2 ^ n ≤ 2560 ∧
        ∀ j < n, 2560 < outWidth / 2 ^ j ∨ 2560 < outHeight / 2 ^ j := by
  intro fuel
  induction fuel with
  | zero =>
      intro k hfuel hk
      omega
  | succ fuel ih =>
      intro k hfuel hk hlarge
      rw [sampleSize, Int.tdiv_eq_ediv_of_nonneg hwidth.le, Int.tdiv_eq_ediv_of_nonneg hheight.le,
        previewMaxDimension]
      by_cases hmore : outWidth / 2 ^ k > 1280 * 2 ∨ outHeight / 2 ^ k > 1280 * 2
      · have hk' : k ≠ 20 := by
          rintro rfl
          omega
        have hdouble : ((2 : ℤ) ^ k * 2).bmod (2 ^ 32) = 2 ^ (k + 1) := by
          have hle : (2 : ℤ) ^ (k + 1) ≤ 2 ^ 20 := by
            gcongr
            · norm_num
            · omega
          have hpos : (0 : ℤ) < 2 ^ (k + 1) := by positivity
          rw [← pow_succ]
          apply Int.bmod_eq_of_le <;> norm_num at hle ⊢ <;> omega
        rw [if_pos hmore, hdouble]
        apply ih (k + 1) (by omega) (by omega)
        intro j hj
        rcases Nat.lt_succ_iff_lt_or_eq.mp hj with hj | rfl
        · exact hlarge j hj
        · omega
      · rw [if_neg hmore]
        exact ⟨k, hk, rfl, by omega, by omega, hlarge⟩

/-! ## The sizes of a smaller picture -/

section Scaling

variable {side longest : ℤ}

lemma leastNormal_binary32 : binary32.leastNormal = 1 / 2 ^ 126 := by
  norm_num [binary32, Format.leastNormal]

/-- Rounding to a `float`, for numbers that are not tiny. -/
lemma near_round_binary32 {x : ℚ} (hx : 1 / 2 ^ 40 ≤ x) : Near (1 / 2 ^ 24) x (binary32.round x) := by
  apply Format.near_round
  rw [leastNormal_binary32]
  calc (1 : ℚ) / 2 ^ 126 ≤ 1 / 2 ^ 40 := by norm_num
    _ ≤ x := hx
    _ ≤ |x| := le_abs_self x

/-- **The scaled side before it is rounded** to a whole number: four roundings on the way to it are
not much. -/
lemma near_scaled (hside : 0 < side) (hlarge : 1280 < longest) (hlongest : longest < 2 ^ 31) :
    Near (1 / 2 ^ 21) (1280 * side / longest : ℚ)
      (binary32.round (toFloat side * previewScale longest)) := by
  have hside' : (1 : ℚ) ≤ side := by exact_mod_cast hside
  have hlarge' : (1280 : ℚ) < longest := by exact_mod_cast hlarge
  have hlongest' : (longest : ℚ) < 2 ^ 31 := by exact_mod_cast hlongest
  have hfactor : (1280 : ℚ) / 2 ^ 31 ≤ 1280 * (longest : ℚ)⁻¹ := by
    rw [← div_eq_mul_inv]
    gcongr
  -- The conversions to `float`.
  have hfirst : Near (1 / 2 ^ 24) side (toFloat side) :=
    near_round_binary32 (le_trans (by norm_num) hside')
  have hsecond : Near (1 / 2 ^ 24) longest (toFloat longest) :=
    near_round_binary32 (le_trans (by norm_num) hlarge'.le)
  have hconstant : toFloat previewMaxDimension = 1280 :=
    Format.round_intCast (by decide) (by decide)
  -- The factor.
  have hinv : Near (1 / 2 ^ 23) (1280 * (longest : ℚ)⁻¹) (1280 * (toFloat longest)⁻¹) := by
    have hself : Near 0 1280 1280 := by simp [Near]
    have hmul := hself.mul le_rfl (hsecond.inv (by norm_num) (by linarith))
    exact hmul.mono (by norm_num)
  have hscale : Near (1 / 2 ^ 22) (1280 * (longest : ℚ)⁻¹) (previewScale longest) := by
    have hhalf := hinv.half_le (by norm_num) (by positivity)
    have hround := near_round_binary32 (x := 1280 * (toFloat longest)⁻¹)
      (le_trans (by norm_num) (le_trans (div_le_div_of_nonneg_right hfactor zero_le_two) hhalf))
    rw [previewScale, hconstant, div_eq_mul_inv]
    exact (hinv.trans (by norm_num) hround).mono (by norm_num)
  -- The product.
  have hproduct := hfirst.mul (by norm_num) hscale
  have hexact : (side : ℚ) * (1280 * (longest : ℚ)⁻¹) = 1280 * side / longest := by
    rw [div_eq_mul_inv]
    ring
  rw [hexact] at hproduct
  have hhalf := hproduct.half_le (by norm_num) (by positivity)
  have hbelow : (1280 : ℚ) / 2 ^ 31 ≤ 1280 * side / longest := by
    calc (1280 : ℚ) / 2 ^ 31 ≤ 1 * (1280 * (longest : ℚ)⁻¹) := by linarith
      _ ≤ side * (1280 * (longest : ℚ)⁻¹) := by gcongr
      _ = 1280 * side / longest := hexact
  have hround := near_round_binary32
    (le_trans (by norm_num) (le_trans (div_le_div_of_nonneg_right hbelow zero_le_two) hhalf))
  exact (hproduct.trans (by norm_num) hround).mono (by norm_num)

/-- **A scaled side** is the exact one, rounded, but for a thousandth. -/
lemma abs_mathRound_scaled_sub_le (hside : 0 < side) (hle : side ≤ longest) (hlarge : 1280 < longest)
    (hlongest : longest < 2 ^ 31) :
    |(mathRound (binary32.round (toFloat side * previewScale longest)) : ℚ) -
      1280 * side / longest| ≤ 501 / 1000 := by
  have hnear := near_scaled hside hlarge hlongest
  generalize binary32.round (toFloat side * previewScale longest) = product at hnear ⊢
  have hlongest' : (0 : ℚ) < longest := by exact_mod_cast lt_trans (by norm_num) hlarge
  have hnonneg : (0 : ℚ) ≤ 1280 * side / longest := by positivity
  have hmost : (1280 * side / longest : ℚ) ≤ 1280 := by
    rw [div_le_iff₀ hlongest']
    have hle' : (side : ℚ) ≤ longest := by exact_mod_cast hle
    linarith
  generalize (1280 * side / longest : ℚ) = exact at hnear hnonneg hmost ⊢
  have hhalf := hnear.half_le (by norm_num) hnonneg
  rw [Near, abs_of_nonneg hnonneg] at hnear
  have hsum := near_round_binary32 (x := product + 1 / 2) (by linarith)
  rw [Near, abs_of_nonneg (show 0 ≤ product + 1 / 2 by linarith)] at hsum
  have hfloor := Int.floor_le (binary32.round (product + 1 / 2))
  have hfloor' := Int.lt_floor_add_one (binary32.round (product + 1 / 2))
  rw [abs_le] at hnear hsum
  rw [mathRound, abs_le]
  constructor <;> linarith [hnear.1, hnear.2, hsum.1, hsum.2]

/-- A scaled side fits, and the proportions are kept. -/
lemma scaledSide_spec (hside : 0 < side) (hle : side ≤ longest) (hlarge : 1280 < longest)
    (hlongest : longest < 2 ^ 31) :
    1 ≤ scaledSide side longest ∧ scaledSide side longest ≤ 1280 ∧
      |(scaledSide side longest : ℚ) - 1280 * side / longest| < 1 := by
  have hclose := abs_mathRound_scaled_sub_le hside hle hlarge hlongest
  rw [scaledSide]
  generalize mathRound (binary32.round (toFloat side * previewScale longest)) = n at hclose ⊢
  have hlongest' : (0 : ℚ) < longest := by exact_mod_cast lt_trans (by norm_num) hlarge
  have hpos : (0 : ℚ) < 1280 * side / longest := by
    have hside' : (0 : ℚ) < side := by exact_mod_cast hside
    positivity
  have hmost : (1280 * side / longest : ℚ) ≤ 1280 := by
    rw [div_le_iff₀ hlongest']
    have hle' : (side : ℚ) ≤ longest := by exact_mod_cast hle
    linarith
  generalize (1280 * side / longest : ℚ) = exact at hclose hpos hmost ⊢
  rw [abs_le] at hclose
  have hn : n ≤ 1280 := by
    have hlt : (n : ℚ) < 1281 := by linarith
    exact Int.lt_add_one_iff.mp (by exact_mod_cast hlt)
  refine ⟨le_max_left _ _, max_le (by norm_num) hn, ?_⟩
  rcases le_total n 1 with hsmall | hbig
  · rw [max_eq_left hsmall, abs_lt]
    have hsmall' : (n : ℚ) ≤ 1 := by exact_mod_cast hsmall
    push_cast
    constructor <;> linarith
  · rw [max_eq_right hbig, abs_lt]
    constructor <;> linarith

/-- The longest side becomes the greatest one that is allowed. -/
lemma scaledSide_longest (hlarge : 1280 < longest) (hlongest : longest < 2 ^ 31) :
    scaledSide longest longest = 1280 := by
  have hclose := abs_mathRound_scaled_sub_le (lt_trans (by norm_num) hlarge) le_rfl hlarge hlongest
  have hne : (longest : ℚ) ≠ 0 := by
    have : longest ≠ 0 := by omega
    exact_mod_cast this
  rw [mul_div_assoc, div_self hne, mul_one, abs_le] at hclose
  have hn : mathRound (binary32.round (toFloat longest * previewScale longest)) = 1280 := by
    generalize mathRound (binary32.round (toFloat longest * previewScale longest)) = n at hclose ⊢
    have hlt : (n : ℚ) < 1281 := by linarith
    have hgt : (1279 : ℚ) < n := by linarith
    have hlt' : n < 1281 := by exact_mod_cast hlt
    have hgt' : 1279 < n := by exact_mod_cast hgt
    omega
  rw [scaledSide, hn]
  norm_num

end Scaling

/-! ## What a task comes to -/

/-- The source that a task publishes under, which the phone shows with the picture. -/
def PreviewTask.source : PreviewTask → Bytes
  | .Jpeg _ source => source
  | .LiveView _ _ _ _ => bytes "live_view_fallback"

/-- The JPEG that a task decodes, if it gets that far: a captured one, or that of a frame. -/
def PreviewTask.encoded (bitmaps : Bitmaps) : PreviewTask → Option Bytes
  | .Jpeg data _ => some data
  | .LiveView data width height format =>
    if format ≠ nv21 then none
    else
      match bitmaps.compressToJpeg data width height with
      | .ok jpeg => jpeg
      | .error _ => none

/-- What is published with a call, if it is one that publishes. -/
def TaskCall.published? : TaskCall → Option Publication
  | .OnCameraPreview publication => some publication
  | _ => none

/-- The least power of two that makes both sides small enough, by the division of Java's `int`. -/
structure Sampled (bounds : Bounds) (n : ℕ) : Prop where
  width : bounds.outWidth / 2 ^ n ≤ 2560
  height : bounds.outHeight / 2 ^ n ≤ 2560
  least : ∀ j < n, 2560 < bounds.outWidth / 2 ^ j ∨ 2560 < bounds.outHeight / 2 ^ j

/-- The longest side is as long as it may be, and the proportions are those of the bitmap. -/
structure Fits (decoded : Bitmap) (width height : ℤ) : Prop where
  width_pos : 1 ≤ width
  height_pos : 1 ≤ height
  longest : max width height = min 1280 (max decoded.width decoded.height)
  width_near : |(width : ℚ) - max width height * decoded.width /
    (max decoded.width decoded.height : ℤ)| < 1
  height_near : |(height : ℚ) - max width height * decoded.height /
    (max decoded.width decoded.height : ℤ)| < 1

/-- What is published is a picture of a bitmap that was decoded, or an error without a picture. -/
inductive Publishes (bitmaps : Bitmaps) (encoded : Option Bytes) (source : Bytes) :
    Publication → Prop
  | picture {data jpeg : Bytes} {bounds : Bounds} {n : ℕ} {decoded : Bitmap} {width height : ℤ} :
      encoded = some data → bitmaps.decodeBounds data = .ok bounds → Sampled bounds n →
      bitmaps.decode data (2 ^ n) = .ok (some decoded) → Fits decoded width height →
      jpeg.length ≤ previewMaxBytes →
      Publishes bitmaps encoded source ⟨some jpeg, width, height, source, []⟩
  | error (error : Bytes) : Publishes bitmaps encoded source (publishPreviewError source error)

/-- One publication, and before it and after it the bitmaps: each that is created is recycled, once,
when the picture is published. -/
structure TaskSound (bitmaps : Bitmaps) (encoded : Option Bytes) (source : Bytes)
    (calls : List TaskCall) : Prop where
  published : ∃ publication, calls.filterMap TaskCall.published? = [publication] ∧
    Publishes bitmaps encoded source publication
  recycled : ∀ bitmap, calls.count (.Recycle bitmap) = calls.count (.Create bitmap)
  once : calls.Nodup
  late : ∀ early later bitmap, calls = early ++ .Recycle bitmap :: later →
    .Create bitmap ∈ early ∧ ∃ publication, .OnCameraPreview publication ∈ early

section Tasks

variable {bitmaps : Bitmaps} {encoded : Option Bytes} {source data : Bytes} {created : List BitmapName}

/-- A bitmap that is small enough is taken as it is. -/
lemma Fits.same {decoded : Bitmap} (hsmall : max decoded.width decoded.height ≤ 1280) :
    Fits decoded decoded.width decoded.height := by
  have hpos : 0 < max decoded.width decoded.height := lt_max_of_lt_left decoded.width_pos
  have hne : ((max decoded.width decoded.height : ℤ) : ℚ) ≠ 0 := by exact_mod_cast hpos.ne'
  refine ⟨decoded.width_pos, decoded.height_pos, (min_eq_right hsmall).symm, ?_, ?_⟩ <;>
  · rw [mul_div_right_comm, div_self hne]
    simp

/-- A bitmap that is not is scaled. -/
lemma Fits.scaled {decoded : Bitmap} (hlarge : 1280 < max decoded.width decoded.height) :
    Fits decoded (scaledSide decoded.width (max decoded.width decoded.height))
      (scaledSide decoded.height (max decoded.width decoded.height)) := by
  have hlongest : max decoded.width decoded.height < 2 ^ 31 :=
    max_lt decoded.width_lt decoded.height_lt
  have hwidth := scaledSide_spec decoded.width_pos (le_max_left _ decoded.height) hlarge hlongest
  have hheight := scaledSide_spec decoded.height_pos (le_max_right decoded.width _) hlarge hlongest
  have hmax : max (scaledSide decoded.width (max decoded.width decoded.height))
      (scaledSide decoded.height (max decoded.width decoded.height)) = 1280 := by
    rcases max_choice decoded.width decoded.height with h | h
    · have hside := scaledSide_longest hlarge hlongest
      rw [h] at hside hheight ⊢
      rw [hside]
      exact max_eq_left hheight.2.1
    · have hside := scaledSide_longest hlarge hlongest
      rw [h] at hside hwidth ⊢
      rw [hside]
      exact max_eq_right hwidth.2.1
  refine ⟨hwidth.1, hheight.1, ?_, ?_, ?_⟩
  · rw [hmax, min_eq_left hlarge.le]
  · rw [hmax]
    exact_mod_cast hwidth.2.2
  · rw [hmax]
    exact_mod_cast hheight.2.2

/-- The bitmaps are recycled by the `finally`. -/
lemma JpegAttempt.calls_sound {attempt : JpegAttempt} (hnodup : attempt.created.Nodup)
    (hok : ∀ publication, attempt.outcome = .ok publication →
      Publishes bitmaps encoded source publication) :
    TaskSound bitmaps encoded source (attempt.calls source) := by
  have hpublishes : ∃ publication, Publishes bitmaps encoded source publication ∧
      attempt.calls source = attempt.created.map .Create ++ [.OnCameraPreview publication] ++
        attempt.created.reverse.map .Recycle := by
    rw [JpegAttempt.calls]
    cases houtcome : attempt.outcome with
    | ok publication => exact ⟨publication, hok publication houtcome, by simp⟩
    | error e => exact ⟨_, .error e.text, by simp⟩
  obtain ⟨publication, hpublication, hcalls⟩ := hpublishes
  have hcreate : Function.Injective TaskCall.Create := fun _ _ => TaskCall.Create.inj
  have hrecycle : Function.Injective TaskCall.Recycle := fun _ _ => TaskCall.Recycle.inj
  rw [hcalls]
  constructor
  · refine ⟨publication, ?_, hpublication⟩
    simp [List.filterMap_append, List.filterMap_map, Function.comp_def, TaskCall.published?]
  · intro bitmap
    rw [List.count_append, List.count_append, List.count_append, List.count_append,
      List.count_map_of_injective _ _ hrecycle, List.count_map_of_injective _ _ hcreate,
      List.count_reverse]
    simp [List.count_eq_zero_of_not_mem]
  · simp [List.nodup_append, List.nodup_map_iff hcreate, List.nodup_map_iff hrecycle, hnodup]
  · intro early later bitmap hsplit
    have hmem : bitmap ∈ attempt.created := by
      have hcall : TaskCall.Recycle bitmap ∈ early ++ .Recycle bitmap :: later := by simp
      rw [← hsplit] at hcall
      simpa using hcall
    rcases List.append_eq_append_iff.mp hsplit with ⟨middle, rfl, -⟩ | ⟨middle, hbefore, hafter⟩
    · simp [hmem]
    · cases middle with
      | nil =>
          rw [List.append_nil] at hbefore
          rw [← hbefore]
          simp [hmem]
      | cons call middle =>
          obtain ⟨rfl, -⟩ := List.cons.inj hafter
          have hcall : TaskCall.Recycle bitmap ∈ attempt.created.map TaskCall.Create ++
              [.OnCameraPreview publication] := by
            rw [hbefore]
            simp
          simp at hcall

/-- The end of the `try`, for bitmaps whose sizes are right. -/
lemma encodeJpeg_sound {width height : ℤ} (hnodup : created.Nodup)
    (hpicture : ∀ jpeg, jpeg.length ≤ previewMaxBytes →
      Publishes bitmaps encoded source ⟨some jpeg, width, height, source, []⟩) :
    TaskSound bitmaps encoded source ((encodeJpeg bitmaps created width height source).calls source) := by
  rw [encodeJpeg]
  cases bitmaps.compress width height with
  | error e => exact JpegAttempt.calls_sound hnodup (by simp)
  | ok jpeg =>
      cases jpeg with
      | none => exact JpegAttempt.calls_sound hnodup (by simp)
      | some jpeg =>
          dsimp only
          split_ifs with hlong
          · exact JpegAttempt.calls_sound hnodup (by simp)
          · apply JpegAttempt.calls_sound hnodup
            intro publication hpublication
            rw [← Except.ok.inj hpublication]
            exact hpicture jpeg (not_lt.mp hlong)

/-- From a right sample size on the task does what it should, whether decoding and encoding succeed or
not. -/
lemma decodeJpeg_sound {bounds : Bounds} {n : ℕ} (hbounds : bitmaps.decodeBounds data = .ok bounds)
    (hsampled : Sampled bounds n) :
    TaskSound bitmaps (some data) source ((decodeJpeg bitmaps data source (2 ^ n)).calls source) := by
  rw [decodeJpeg]
  cases hdecode : bitmaps.decode data (2 ^ n) with
  | error e => exact JpegAttempt.calls_sound List.nodup_nil (by simp)
  | ok decoded =>
      cases decoded with
      | none => exact JpegAttempt.calls_sound List.nodup_nil (by simp)
      | some decoded =>
          dsimp only
          split_ifs with hlarge
          · cases bitmaps.createScaledBitmap decoded
              (scaledSide decoded.width (max decoded.width decoded.height))
              (scaledSide decoded.height (max decoded.width decoded.height)) with
            | some e => exact JpegAttempt.calls_sound (by simp) (by simp)
            | none =>
                apply encodeJpeg_sound (by simp)
                intro jpeg hjpeg
                exact .picture rfl hbounds hsampled hdecode (Fits.scaled hlarge) hjpeg
          · apply encodeJpeg_sound (by simp)
            intro jpeg hjpeg
            exact .picture rfl hbounds hsampled hdecode (Fits.same (not_lt.mp hlarge)) hjpeg

lemma processJpeg_sound (bitmaps : Bitmaps) (data source : Bytes) :
    ∃ calls, processJpeg bitmaps data source = some calls ∧
      TaskSound bitmaps (some data) source calls := by
  rw [processJpeg, tryJpeg]
  cases hbounds : bitmaps.decodeBounds data with
  | error e => exact ⟨_, rfl, JpegAttempt.calls_sound List.nodup_nil (by simp)⟩
  | ok bounds =>
      dsimp only
      split_ifs with hnone
      · exact ⟨_, rfl, JpegAttempt.calls_sound List.nodup_nil (by simp)⟩
      · rw [not_or, not_le, not_le] at hnone
        obtain ⟨n, -, hsample, hwidth, hheight, hleast⟩ := sampleSize_spec hnone.1 bounds.outWidth_lt
          hnone.2 bounds.outHeight_lt 32 0 rfl (Nat.zero_le _) (by simp)
        rw [pow_zero] at hsample
        rw [hsample]
        exact ⟨_, rfl, decodeJpeg_sound hbounds ⟨hwidth, hheight, hleast⟩⟩

/-- An error before there is a JPEG. -/
lemma TaskSound.failed (bitmaps : Bitmaps) (encoded : Option Bytes) (source error : Bytes) :
    TaskSound bitmaps encoded source [.OnCameraPreview (publishPreviewError source error)] := by
  have h : TaskSound bitmaps encoded source
      (JpegAttempt.calls { outcome := .error ⟨[], error, false⟩ } source) :=
    JpegAttempt.calls_sound List.nodup_nil (by simp)
  exact h

/-- **A task** comes to an end, and publishes once: a picture whose longest side is no longer than it
may be and whose proportions are those of what was decoded, or an error.  No bitmap is kept. -/
theorem PreviewTask.run_sound (bitmaps : Bitmaps) (task : PreviewTask) :
    ∃ calls, task.run bitmaps = some calls ∧
      TaskSound bitmaps (task.encoded bitmaps) task.source calls := by
  cases task with
  | Jpeg data source => exact processJpeg_sound bitmaps data source
  | LiveView data width height format =>
      rw [run, processLiveView, encoded, PreviewTask.source]
      split_ifs with hformat
      · exact ⟨_, rfl, TaskSound.failed bitmaps _ _ _⟩
      · cases bitmaps.compressToJpeg data width height with
        | error e => exact ⟨_, rfl, TaskSound.failed bitmaps _ _ _⟩
        | ok jpeg =>
            cases jpeg with
            | none => exact ⟨_, rfl, TaskSound.failed bitmaps _ _ _⟩
            | some jpeg => exact processJpeg_sound bitmaps jpeg _

/-! ## What the runtime makes of it -/

/-- A picture that is published is one that the runtime stores, if there is anything in it. -/
lemma Publishes.storable {publication : Publication}
    (h : Publishes bitmaps encoded source publication) :
    storable (publication.jpeg.getD []) publication.width publication.height =
      !(publication.jpeg.getD []).isEmpty := by
  cases h with
  | error error => rfl
  | @picture data jpeg bounds n decoded width height _ _ _ _ hfits hlength =>
      have hbytes : jpeg.length ≤ 1572864 := hlength
      have hwidth := hfits.width_pos
      have hheight := hfits.height_pos
      cases jpeg with
      | nil => rfl
      | cons b jpeg =>
          apply storable_iff.mpr
          exact ⟨List.cons_ne_nil _ _, hbytes, by simp only; omega, by simp only; omega⟩

/-- **From the task to the runtime**: whatever Android answers, the task ends with one publication, and
`setPreview` never refuses the picture: it is stored as it is, or there is none and only the error is
remembered. -/
theorem PreviewTask.run_stored (bitmaps : Bitmaps) (task : PreviewTask) :
    ∃ calls publication, task.run bitmaps = some calls ∧
      calls.filterMap TaskCall.published? = [publication] ∧
      TaskSound bitmaps (task.encoded bitmaps) task.source calls ∧
      ∀ rt : NativeRuntime,
        rt.setPreview (publication.jpeg.getD []) publication.width publication.height
            publication.source publication.error =
          if publication.jpeg.getD [] = [] then { rt with previewError := publication.error }
          else
            { rt with
              previewJpeg := publication.jpeg.getD [], previewWidth := publication.width
              previewHeight := publication.height, previewSource := task.source
              previewError := [], previewVersion := rt.previewVersion + 1 } := by
  obtain ⟨calls, hrun, hsound⟩ := task.run_sound bitmaps
  obtain ⟨publication, hpublished, hpublishes⟩ := hsound.published
  refine ⟨calls, publication, hrun, hpublished, hsound, ?_⟩
  intro rt
  have hstorable := hpublishes.storable
  have hsource : publication.source = task.source := by cases hpublishes <;> rfl
  by_cases hempty : publication.jpeg.getD [] = []
  · rw [hempty] at hstorable ⊢
    rw [if_pos rfl]
    rfl
  · have hfull : (publication.jpeg.getD []).isEmpty = false := by simpa using hempty
    rw [hfull] at hstorable
    rw [if_neg hempty, setPreview_accepted rt hstorable, hsource]

end Tasks

end LegacyAlpha
