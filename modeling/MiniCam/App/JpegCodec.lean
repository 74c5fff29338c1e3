/- Module: MiniCam/App/JpegCodec
   source: app/jpeg_codec.h, app/jpeg_codec.cpp
   digest: The two JPEG encoders: what they hand to the compressor, and the `int` arithmetic on
           the way there. -/

import MiniCam.Buffers.DmaBufAllocator
import MiniCam.Foundation.IntEvaluation
import MiniCam.Hal.Interface

set_option autoImplicit false
set_option relaxedAutoImplicit false

namespace MiniCam.App.JpegCodec

open MiniCam.Foundation.IntEvaluation
open MiniCam.Foundation.IntEvaluation.Evaluation (call)
open MiniCam.Hal.Interface (CaptureResult FramePayloadFormat)
open MiniCam.Buffers.DmaBufAllocator (Address DmaBuf)

section Codec

structure CompressCall where
  width : Int
  height : Int
  rgb : List UInt8
  deriving DecidableEq

/-- What `jpge::compress_image_to_jpeg_file_in_memory` leaves: its answer, the size it stores
and the content of the buffer it was given. -/
structure JpgeAnswer where
  done : Bool
  jpegSize : Int
  encoded : List UInt8

/-- The encoder library, over the buffer, its size, the width, the height, the channels and the
image. -/
abbrev Jpge := List UInt8 → Int → Int → Int → Int → List UInt8 → JpgeAnswer

inductive StorageError where
  | refused
  deriving DecidableEq

/-- An encoder returns a JPEG or `nullopt`, or is left by an exception. -/
abbrev Encoding := Evaluation CompressCall (Except StorageError (Option (List UInt8)))

def clampToByte (value : Int) : UInt8 := UInt8.ofInt (max 0 (min value 255))

/-- The bytes of one pixel; `u` and `v` are centred already. -/
def writePixel (u v y : Int) : Evaluation CompressCall (List UInt8) := do
  let c ← sub y 16
  let red ← shiftRight (← add (← add (← mul 298 c) (← mul 409 v)) 128) 8
  let green ← shiftRight
    (← add (← sub (← sub (← mul 298 c) (← mul 100 u)) (← mul 208 v)) 128) 8
  let blue ← shiftRight (← add (← add (← mul 298 c) (← mul 516 u)) 128) 8
  return [clampToByte red, clampToByte green, clampToByte blue]

/-- Two pixels for each whole group of four bytes, all over the buffer. -/
def appendYuyvAsRgb : List UInt8 → List UInt8 → Evaluation CompressCall (List UInt8)
  | y0 :: u :: y1 :: v :: yuyv, rgb => do
    let u ← sub u.toNat 128
    let v ← sub v.toNat 128
    let first ← writePixel u v y0.toNat
    let second ← writePixel u v y1.toNat
    appendYuyvAsRgb yuyv (rgb ++ first ++ second)
  | _, rgb => return rgb

/-- `width * height * 3U` over `size_t`. -/
def rgbSize (width height : Int) : Nat :=
  castSize width * castSize height % 2 ^ 64 * 3 % 2 ^ 64

def resize (n : Nat) (bytes : List UInt8) : List UInt8 :=
  bytes.take n ++ List.replicate (n - bytes.length) 0

/-- The mapped bytes of a buffer, none without a buffer or a mapping. -/
def imageBytes (memory : Address → UInt8) (outputBuffer : Option DmaBuf) : List UInt8 :=
  match outputBuffer with
  | none => []
  | some buffer =>
    match buffer.mappedData with
    | none => []
    | some data => (List.range buffer.size).map fun i => memory (data + i)

-- `grants` says which sizes a vector gets storage for
variable (jpge : Jpge) (grants : Nat → Bool) (memory : Address → UInt8)

def compressRgbToJpeg (width height : Int) (rgb : List UInt8) : Encoding := do
  call ⟨width, height, rgb⟩
  if width ≤ 0 ∨ height ≤ 0 ∨ rgb = [] then
    return .ok none
  let size : Nat := (rgb.length + 1024) % 2 ^ 64
  -- `jpeg_size` is recorded as it is before the cast
  let _ ← int size
  let jpegSize := castInt size
  if grants (castSize jpegSize) = false then
    return .error .refused
  let answer := jpge (List.replicate (castSize jpegSize) 0) jpegSize width height 3 rgb
  if answer.done = false ∨ answer.jpegSize ≤ 0 then
    return .ok none
  return .ok (some (resize (castSize answer.jpegSize) answer.encoded))

def encodeJpeg (result : CaptureResult) (outputBuffer : Option DmaBuf) : Encoding := do
  let bytes := imageBytes memory outputBuffer
  if result.width ≤ 0 ∨ result.height ≤ 0 ∨ bytes = [] then
    return .ok none
  if grants (rgbSize result.width result.height) = false then
    return .error .refused
  match result.payloadFormat with
  | .rgb24 =>
    if bytes.length < rgbSize result.width result.height then
      return .ok none
    let rgb := bytes.take (rgbSize result.width result.height)
    compressRgbToJpeg jpge grants result.width result.height rgb
  | .yuyv422 =>
    let rgb ← appendYuyvAsRgb bytes []
    compressRgbToJpeg jpge grants result.width result.height rgb
  | .none => return .ok none

def syntheticPixel (result : CaptureResult) (y x : Int) :
    Evaluation CompressCall (List UInt8) := do
  let red ← div (← mul x 255) result.width
  let green ← div (← mul y 255) result.height
  let blue ← div (← mul (← add (← add x y) (castInt result.frameNumber)) 255)
    (← add result.width result.height)
  return [UInt8.ofInt red, UInt8.ofInt green, UInt8.ofInt blue]

def syntheticPicture (result : CaptureResult) : Evaluation CompressCall (List UInt8) :=
  forBelow result.height fun y => forBelow result.width fun x => syntheticPixel result y x

def encodeSyntheticJpeg (result : CaptureResult) : Encoding := do
  if result.width ≤ 0 ∨ result.height ≤ 0 then
    return .ok none
  if grants (rgbSize result.width result.height) = false then
    return .error .refused
  let rgb ← syntheticPicture result
  compressRgbToJpeg jpge grants result.width result.height rgb

end Codec

section Sizes

variable {jpge : Jpge} {grants : Nat → Bool} {memory : Address → UInt8}

theorem length_writePixel (u v y : Int) : (writePixel u v y).value.length = 3 := rfl

theorem calls_writePixel (u v y : Int) : (writePixel u v y).calls = [] := by
  simp [writePixel]

theorem length_appendYuyvAsRgb (yuyv rgb : List UInt8) :
    (appendYuyvAsRgb yuyv rgb).value.length = rgb.length + 6 * (yuyv.length / 4) := by
  fun_induction appendYuyvAsRgb yuyv rgb with
  | case1 y0 u y1 v yuyv rgb ih =>
    simp only [Evaluation.value_bind, ih, List.length_append, length_writePixel, List.length_cons]
    omega
  | case2 yuyv rgb short =>
    have under : yuyv.length / 4 = 0 := by
      rcases yuyv with _ | ⟨y0, _ | ⟨u, _ | ⟨y1, _ | ⟨v, rest⟩⟩⟩⟩
      · simp
      · simp
      · simp
      · simp
      · exact (short y0 u y1 v rest rfl).elim
    simp only [Evaluation.value_pure, under]
    omega

theorem calls_appendYuyvAsRgb (yuyv rgb : List UInt8) : (appendYuyvAsRgb yuyv rgb).calls = [] := by
  fun_induction appendYuyvAsRgb yuyv rgb with
  | case1 y0 u y1 v yuyv rgb ih => simp [-List.append_assoc, calls_writePixel, ih]
  | case2 => simp

theorem calls_compressRgbToJpeg (width height : Int) (rgb : List UInt8) :
    (compressRgbToJpeg jpge grants width height rgb).calls = [⟨width, height, rgb⟩] := by
  simp only [compressRgbToJpeg, Evaluation.calls_bind, Evaluation.calls_call, Evaluation.calls_ite,
    Evaluation.calls_pure, calls_int, List.append_nil, ite_self]

theorem compressRgbToJpeg_nil (width height : Int) :
    (compressRgbToJpeg jpge grants width height []).value = .ok none := by
  unfold compressRgbToJpeg
  rw [Evaluation.value_bind, if_pos (Or.inr (Or.inr rfl))]
  rfl

theorem calls_encodeJpeg (result : CaptureResult) (outputBuffer : Option DmaBuf) :
    (encodeJpeg jpge grants memory result outputBuffer).calls =
      if result.width ≤ 0 ∨ result.height ≤ 0 ∨ imageBytes memory outputBuffer = [] ∨
          grants (rgbSize result.width result.height) = false then []
      else
        match result.payloadFormat with
        | .rgb24 =>
          if (imageBytes memory outputBuffer).length < rgbSize result.width result.height then []
          else [⟨result.width, result.height,
            (imageBytes memory outputBuffer).take (rgbSize result.width result.height)⟩]
        | .yuyv422 => [⟨result.width, result.height,
            (appendYuyvAsRgb (imageBytes memory outputBuffer) []).value⟩]
        | .none => [] := by
  unfold encodeJpeg
  by_cases unusable :
      result.width ≤ 0 ∨ result.height ≤ 0 ∨ imageBytes memory outputBuffer = []
  · have blocked : result.width ≤ 0 ∨ result.height ≤ 0 ∨ imageBytes memory outputBuffer = [] ∨
        grants (rgbSize result.width result.height) = false := by tauto
    rw [if_pos blocked]
    simp [unusable]
  · by_cases refused : grants (rgbSize result.width result.height) = false
    · rw [if_pos (Or.inr (Or.inr (Or.inr refused)))]
      simp [unusable, refused]
    · have usable : ¬ (result.width ≤ 0 ∨ result.height ≤ 0 ∨ imageBytes memory outputBuffer = [] ∨
          grants (rgbSize result.width result.height) = false) := by tauto
      rw [if_neg usable, if_neg unusable, if_neg refused]
      cases result.payloadFormat with
      | rgb24 => simp [calls_compressRgbToJpeg]
      | yuyv422 => simp [calls_appendYuyvAsRgb, calls_compressRgbToJpeg]
      | none => rfl

theorem length_syntheticPixel (result : CaptureResult) (y x : Int) :
    (syntheticPixel result y x).value.length = 3 := rfl

theorem calls_syntheticPixel (result : CaptureResult) (y x : Int) :
    (syntheticPixel result y x).calls = [] := by
  simp [syntheticPixel]

theorem length_syntheticPicture (result : CaptureResult) :
    (syntheticPicture result).value.length = result.height.toNat * (result.width.toNat * 3) := by
  apply length_forBelow
  intro y
  exact length_forBelow (length_syntheticPixel result y) result.width

theorem calls_syntheticPicture (result : CaptureResult) : (syntheticPicture result).calls = [] := by
  apply calls_forBelow
  intro y
  exact calls_forBelow (calls_syntheticPixel result y) result.width

theorem calls_encodeSyntheticJpeg (result : CaptureResult) :
    (encodeSyntheticJpeg jpge grants result).calls =
      if result.width ≤ 0 ∨ result.height ≤ 0 ∨
          grants (rgbSize result.width result.height) = false then []
      else [⟨result.width, result.height, (syntheticPicture result).value⟩] := by
  unfold encodeSyntheticJpeg
  by_cases unusable : result.width ≤ 0 ∨ result.height ≤ 0
  · have blocked : result.width ≤ 0 ∨ result.height ≤ 0 ∨
        grants (rgbSize result.width result.height) = false := by tauto
    rw [if_pos blocked, if_pos unusable]
    rfl
  · by_cases refused : grants (rgbSize result.width result.height) = false
    · rw [if_pos (Or.inr (Or.inr refused)), if_neg unusable, if_pos refused]
      rfl
    · have usable : ¬ (result.width ≤ 0 ∨ result.height ≤ 0 ∨
          grants (rgbSize result.width result.height) = false) := by tauto
      rw [if_neg usable, if_neg unusable, if_neg refused]
      simp [calls_syntheticPicture, calls_compressRgbToJpeg]

theorem rgbSize_eq {width height : Int} (fits_width : Fits width) (fits_height : Fits height)
    (wide : 0 < width) (high : 0 < height) :
    rgbSize width height = width.toNat * height.toNat * 3 := by
  have at_width : castSize width = width.toNat := by
    have same := castSize_of_fits fits_width (Int.le_of_lt wide)
    omega
  have at_height : castSize height = height.toNat := by
    have same := castSize_of_fits fits_height (Int.le_of_lt high)
    omega
  have bounded : width.toNat * height.toNat ≤ (2 ^ 31 - 1) * (2 ^ 31 - 1) := by
    unfold Fits at fits_width fits_height
    apply Nat.mul_le_mul
    · omega
    · omega
  unfold rgbSize
  rw [at_width, at_height]
  omega

end Sizes

section Reads

variable {jpge : Jpge} {grants : Nat → Bool} {memory : Address → UInt8} {result : CaptureResult}
  {outputBuffer : Option DmaBuf}

/-- The vector holds every byte that `jpge` reads. -/
def CompressCall.Enough (c : CompressCall) : Prop :=
  0 < c.width → 0 < c.height → c.rgb ≠ [] → c.width * c.height * 3 ≤ c.rgb.length

theorem pixels_eq {width height : Int} (wide : 0 < width) (high : 0 < height) :
    ((width.toNat * height.toNat : Nat) : Int) = width * height := by
  rw [Int.natCast_mul, Int.toNat_of_nonneg (Int.le_of_lt wide),
    Int.toNat_of_nonneg (Int.le_of_lt high)]

theorem encodeSyntheticJpeg_enough (c : CompressCall)
    (made : c ∈ (encodeSyntheticJpeg jpge grants result).calls) : c.Enough := by
  rw [calls_encodeSyntheticJpeg] at made
  split at made
  · cases made
  · obtain rfl := List.mem_singleton.mp made
    intro wide high _
    have pixels := pixels_eq wide high
    have length := length_syntheticPicture result
    rw [← Nat.mul_assoc, Nat.mul_comm result.height.toNat] at length
    simp only at pixels ⊢
    omega

theorem encodeJpeg_rgb_enough (fits_width : Fits result.width) (fits_height : Fits result.height)
    (other : result.payloadFormat ≠ .yuyv422) (c : CompressCall)
    (made : c ∈ (encodeJpeg jpge grants memory result outputBuffer).calls) : c.Enough := by
  rw [calls_encodeJpeg] at made
  split at made
  · cases made
  · split at made
    · split at made
      · cases made
      · rename_i whole
        obtain rfl := List.mem_singleton.mp made
        intro wide high _
        have pixels := pixels_eq wide high
        simp only at wide high pixels ⊢
        rw [List.length_take_of_le (Nat.le_of_not_lt whole),
          rgbSize_eq fits_width fits_height wide high]
        omega
    · rename_i yuyv
      exact absurd yuyv other
    · cases made

theorem encodeJpeg_yuyv_enough (yuyv : result.payloadFormat = .yuyv422) :
    (∀ c ∈ (encodeJpeg jpge grants memory result outputBuffer).calls, c.Enough) ↔
      result.width ≤ 0 ∨ result.height ≤ 0 ∨ (imageBytes memory outputBuffer).length < 4 ∨
        grants (rgbSize result.width result.height) = false ∨
        result.width * result.height ≤ 2 * ((imageBytes memory outputBuffer).length / 4 : Nat) := by
  have length := length_appendYuyvAsRgb (imageBytes memory outputBuffer) []
  simp only [List.length_nil, Nat.zero_add] at length
  rw [calls_encodeJpeg, yuyv]
  split
  · rename_i blocked
    refine ⟨fun _ => ?_, fun _ c made => by cases made⟩
    rcases blocked with flat | flat | empty | refused
    · exact Or.inl flat
    · exact Or.inr (Or.inl flat)
    · rw [empty]
      exact Or.inr (Or.inr (Or.inl (by decide)))
    · exact Or.inr (Or.inr (Or.inr (Or.inl refused)))
  · rename_i usable
    simp only [not_or, Int.not_le] at usable
    obtain ⟨wide, high, -, granted⟩ := usable
    simp only [List.mem_singleton, forall_eq, CompressCall.Enough, ← List.length_pos_iff_ne_nil,
      length]
    constructor
    · intro enough
      by_cases short : (imageBytes memory outputBuffer).length < 4
      · exact Or.inr (Or.inr (Or.inl short))
      · have whole := enough wide high (by omega)
        right; right; right; right
        omega
    · rintro (flat | flat | short | refused | whole) - - some_group
      · omega
      · omega
      · omega
      · exact absurd refused granted
      · omega

theorem encodeJpeg_short (fits_width : Fits result.width) (fits_height : Fits result.height)
    (granted : grants (rgbSize result.width result.height) = true)
    (short : result.payloadFormat = .rgb24 ∧
        (imageBytes memory outputBuffer).length < result.width * result.height * 3 ∨
      result.payloadFormat = .yuyv422 ∧ (imageBytes memory outputBuffer).length < 4) :
    (encodeJpeg jpge grants memory result outputBuffer).value = .ok none := by
  unfold encodeJpeg
  simp only [granted, Bool.true_eq_false, if_false]
  split
  · rfl
  · rename_i usable
    simp only [not_or, Int.not_le] at usable
    obtain ⟨wide, high, -⟩ := usable
    rcases short with ⟨rgb, short⟩ | ⟨yuyv, short⟩
    · have pixels := pixels_eq wide high
      have under : (imageBytes memory outputBuffer).length <
          rgbSize result.width result.height := by
        rw [rgbSize_eq fits_width fits_height wide high]
        omega
      simp only [rgb, under, if_true, Evaluation.value_pure]
    · have nothing : (appendYuyvAsRgb (imageBytes memory outputBuffer) []).value = [] := by
        rw [← List.length_eq_zero_iff, length_appendYuyvAsRgb]
        simp only [List.length_nil]
        omega
      simp only [yuyv, Evaluation.value_bind, nothing]
      exact compressRgbToJpeg_nil result.width result.height

/-- Both encoders hand whole frames to the compressor except for a YUYV frame whose buffer holds
at least one group of four bytes, but not one for every two pixels. Other buffers that are too
small give no JPEG. -/
theorem compressor_gets_whole_frames (jpge : Jpge) (grants : Nat → Bool)
    (memory : Address → UInt8) (result : CaptureResult) (outputBuffer : Option DmaBuf)
    (fits_width : Fits result.width) (fits_height : Fits result.height) :
    (((∀ c ∈ (encodeJpeg jpge grants memory result outputBuffer).calls, c.Enough) ∧
        ∀ c ∈ (encodeSyntheticJpeg jpge grants result).calls, c.Enough) ↔
      result.payloadFormat ≠ .yuyv422 ∨ result.width ≤ 0 ∨ result.height ≤ 0 ∨
        (imageBytes memory outputBuffer).length < 4 ∨
        grants (rgbSize result.width result.height) = false ∨
        result.width * result.height ≤
          2 * ((imageBytes memory outputBuffer).length / 4 : Nat)) ∧
    (grants (rgbSize result.width result.height) = true →
      (result.payloadFormat = .rgb24 ∧
          (imageBytes memory outputBuffer).length < result.width * result.height * 3 ∨
        result.payloadFormat = .yuyv422 ∧ (imageBytes memory outputBuffer).length < 4) →
      (encodeJpeg jpge grants memory result outputBuffer).value = .ok none) := by
  refine ⟨?_, encodeJpeg_short fits_width fits_height⟩
  rw [and_iff_left encodeSyntheticJpeg_enough]
  by_cases yuyv : result.payloadFormat = .yuyv422
  · rw [encodeJpeg_yuyv_enough yuyv]
    constructor
    · exact Or.inr
    · rintro (other | condition)
      · exact absurd yuyv other
      · exact condition
  · constructor
    · intro _
      exact Or.inl yuyv
    · intro _
      exact encodeJpeg_rgb_enough fits_width fits_height yuyv

def greyMemory (_ : Address) : UInt8 := 128

def fillingJpge : Jpge := fun encoded jpegSize _ _ _ _ => ⟨true, jpegSize, encoded⟩

theorem compressor_gets_whole_frame_of_two_pixels :
    (encodeJpeg fillingJpge (fun _ => true) greyMemory
      { width := 2, height := 1, payloadFormat := .yuyv422 }
      (some { size := 4, mappedData := some 0 })).calls = [⟨2, 1, List.replicate 6 130⟩] ∧
    ∀ c ∈ (encodeJpeg fillingJpge (fun _ => true) greyMemory
      { width := 2, height := 1, payloadFormat := .yuyv422 }
      (some { size := 4, mappedData := some 0 })).calls, c.Enough := by
  have whole := (compressor_gets_whole_frames fillingJpge (fun _ => true) greyMemory
    { width := 2, height := 1, payloadFormat := .yuyv422 }
    (some { size := 4, mappedData := some 0 }) (by decide) (by decide)).1.mpr (by decide)
  exact ⟨by decide +kernel, whole.1⟩

/-- Three YUYV pixels in six bytes: the compressor is to read nine bytes of a vector of six. -/
theorem compressor_gets_short_yuyv_frame :
    ∃ c ∈ (encodeJpeg fillingJpge (fun _ => true) greyMemory
      { width := 3, height := 1, payloadFormat := .yuyv422 }
      (some { size := 6, mappedData := some 0 })).calls,
      c.width = 3 ∧ c.height = 1 ∧ c.rgb.length = 6 ∧ ¬ c.Enough := by
  refine ⟨⟨3, 1, List.replicate 6 130⟩, by decide +kernel, rfl, rfl, rfl, ?_⟩
  intro enough
  have nine_in_six := enough (by decide) (by decide) (by decide)
  exact absurd nine_in_six (by decide)

end Reads

section Overflow

variable {jpge : Jpge} {grants : Nat → Bool} {result : CaptureResult}

theorem defined_writePixel {u v y : Int} (at_u : -128 ≤ u ∧ u < 128) (at_v : -128 ≤ v ∧ v < 128)
    (at_y : 0 ≤ y ∧ y < 256) : (writePixel u v y).Defined := by
  simp only [writePixel, sub, add, mul, shiftRight, Evaluation.defined_bind, value_int,
    defined_int, Evaluation.defined_pure, and_true, Fits, Int.shiftRight_eq_div_pow]
  omega

theorem defined_appendYuyvAsRgb (yuyv rgb : List UInt8) : (appendYuyvAsRgb yuyv rgb).Defined := by
  fun_induction appendYuyvAsRgb yuyv rgb with
  | case1 y0 u y1 v yuyv rgb ih =>
    have below_y0 := y0.toNat_lt
    have below_u := u.toNat_lt
    have below_y1 := y1.toNat_lt
    have below_v := v.toNat_lt
    have at_u : -128 ≤ (u.toNat : Int) - 128 ∧ (u.toNat : Int) - 128 < 128 := by omega
    have at_v : -128 ≤ (v.toNat : Int) - 128 ∧ (v.toNat : Int) - 128 < 128 := by omega
    simp only [Evaluation.defined_bind, sub, value_int, defined_int]
    refine ⟨?_, ?_, defined_writePixel at_u at_v ?_, defined_writePixel at_u at_v ?_, ih _ _⟩
    · unfold Fits
      omega
    · unfold Fits
      omega
    · omega
    · omega
  | case2 => simp

theorem defined_syntheticPixel (width : 1 ≤ result.width ∧ result.width ≤ 16384)
    (height : 1 ≤ result.height ∧ result.height ≤ 16384) {x y : Int}
    (column : 0 ≤ x ∧ x < result.width) (row : 0 ≤ y ∧ y < result.height) :
    (syntheticPixel result y x).Defined ↔ Fits ((x + y + castInt result.frameNumber) * 255) := by
  simp only [syntheticPixel, add, mul, Evaluation.defined_bind, value_int, value_div, defined_int,
    defined_div, Evaluation.defined_pure, and_true]
  constructor
  · rintro ⟨-, -, -, -, -, -, scaled, -⟩
    exact scaled
  · intro scaled
    have red : Fits (x * 255) := by
      unfold Fits
      omega
    have green : Fits (y * 255) := by
      unfold Fits
      omega
    have divisor : 0 < result.width + result.height := by omega
    refine ⟨red, ⟨by omega, red.tdiv (by omega)⟩, green, ⟨by omega, green.tdiv (by omega)⟩,
      ?_, ?_, scaled, ?_, divisor, scaled.tdiv divisor⟩
    all_goals unfold Fits at *
    all_goals omega

theorem defined_syntheticPicture (width : 1 ≤ result.width ∧ result.width ≤ 16384)
    (height : 1 ≤ result.height ∧ result.height ≤ 16384) :
    (syntheticPicture result).Defined ↔
      -8421504 ≤ castInt result.frameNumber ∧
        castInt result.frameNumber + result.width + result.height - 2 ≤ 8421504 := by
  have fits_width : Fits result.width := by
    unfold Fits
    omega
  have fits_height : Fits result.height := by
    unfold Fits
    omega
  have pixels : (syntheticPicture result).Defined ↔
      ∀ y, 0 ≤ y → y < result.height → ∀ x, 0 ≤ x → x < result.width →
        Fits ((x + y + castInt result.frameNumber) * 255) := by
    simp only [syntheticPicture, defined_forBelow fits_height, defined_forBelow fits_width]
    constructor
    · intro all y from_y below_y x from_x below_x
      exact (defined_syntheticPixel width height ⟨from_x, below_x⟩ ⟨from_y, below_y⟩).mp
        (all y from_y below_y x from_x below_x)
    · intro all y from_y below_y x from_x below_x
      exact (defined_syntheticPixel width height ⟨from_x, below_x⟩ ⟨from_y, below_y⟩).mpr
        (all y from_y below_y x from_x below_x)
  rw [pixels]
  constructor
  · intro all
    have first := (all 0 (by omega) (by omega) 0 (by omega) (by omega)).1
    have last := (all (result.height - 1) (by omega) (by omega) (result.width - 1) (by omega)
      (by omega)).2
    omega
  · intro bounds y from_y below_y x from_x below_x
    unfold Fits
    omega

theorem defined_compressRgbToJpeg {width height : Int} {rgb : List UInt8}
    (small : rgb.length + 1024 < 2 ^ 31) :
    (compressRgbToJpeg jpge grants width height rgb).Defined := by
  have size : Fits ((rgb.length + 1024) % 2 ^ 64 : Nat) := by
    unfold Fits
    omega
  simp only [compressRgbToJpeg, Evaluation.defined_bind, Evaluation.defined_call, true_and]
  split
  · exact Evaluation.defined_pure _
  · simp only [Evaluation.defined_bind, defined_int, size, true_and, Evaluation.defined_ite,
      Evaluation.defined_pure, ite_self]

/-- The encoder of the camera's own bytes computes without overflow, whatever the frame. -/
theorem camera_frame_within_int (jpge : Jpge) (grants : Nat → Bool) (memory : Address → UInt8)
    (result : CaptureResult) (outputBuffer : Option DmaBuf)
    (small : (imageBytes memory outputBuffer).length ≤ 2 ^ 30) :
    (encodeJpeg jpge grants memory result outputBuffer).Defined := by
  have rgb : (List.take (rgbSize result.width result.height)
      (imageBytes memory outputBuffer)).length + 1024 < 2 ^ 31 := by
    have shorter := List.length_take_le' (rgbSize result.width result.height)
      (imageBytes memory outputBuffer)
    omega
  have converted :
      (appendYuyvAsRgb (imageBytes memory outputBuffer) []).value.length + 1024 < 2 ^ 31 := by
    rw [length_appendYuyvAsRgb, List.length_nil]
    omega
  unfold encodeJpeg
  simp only [Evaluation.defined_ite]
  split
  · exact Evaluation.defined_pure _
  split
  · exact Evaluation.defined_pure _
  split
  · split
    · exact Evaluation.defined_pure _
    · exact defined_compressRgbToJpeg rgb
  · rw [Evaluation.defined_bind]
    exact ⟨defined_appendYuyvAsRgb _ _, defined_compressRgbToJpeg converted⟩
  · exact Evaluation.defined_pure _

theorem defined_encodeSyntheticJpeg (width : 1 ≤ result.width ∧ result.width ≤ 16384)
    (height : 1 ≤ result.height ∧ result.height ≤ 16384) :
    (encodeSyntheticJpeg jpge grants result).Defined ↔
      grants (rgbSize result.width result.height) = false ∨ (syntheticPicture result).Defined := by
  have positive : ¬ (result.width ≤ 0 ∨ result.height ≤ 0) := by omega
  have small : (syntheticPicture result).value.length + 1024 < 2 ^ 31 := by
    have bounded : result.height.toNat * (result.width.toNat * 3) ≤ 16384 * (16384 * 3) := by
      apply Nat.mul_le_mul
      · omega
      · omega
    rw [length_syntheticPicture]
    omega
  unfold encodeSyntheticJpeg
  rw [if_neg positive]
  by_cases refused : grants (rgbSize result.width result.height) = false
  · rw [if_pos refused]
    simp [refused]
  · rw [if_neg refused, Evaluation.defined_bind]
    simp [refused, defined_compressRgbToJpeg small]

/-- In pictures of up to 16384 by 16384 pixels the synthetic encoder computes without overflow
exactly when the frame number, cast to `int`, keeps 255 times every sum of it with a pixel's
coordinates in range (or when the picture gets no storage). -/
theorem synthetic_frame_within_int (jpge : Jpge) (grants : Nat → Bool) (result : CaptureResult)
    (width : 1 ≤ result.width ∧ result.width ≤ 16384)
    (height : 1 ≤ result.height ∧ result.height ≤ 16384) :
    (encodeSyntheticJpeg jpge grants result).Defined ↔
      grants (rgbSize result.width result.height) = false ∨
        -8421504 ≤ castInt result.frameNumber ∧
          castInt result.frameNumber + result.width + result.height - 2 ≤ 8421504 := by
  rw [defined_encodeSyntheticJpeg width height, defined_syntheticPicture width height]

theorem synthetic_frame_within_int_first_capture :
    (encodeSyntheticJpeg fillingJpge (fun _ => true)
      { frameNumber := 1, width := 640, height := 480 }).Defined := by
  apply (synthetic_frame_within_int fillingJpge (fun _ => true) _ (by decide) (by decide)).mpr
  right
  decide

/-- The first preview frame of a session: its number is cast to -727379968, and 255 times that
is no `int`. -/
theorem synthetic_frame_overflows_at_first_preview :
    castInt 1000000000000 = -727379968 ∧
    ¬ (encodeSyntheticJpeg fillingJpge (fun _ => true)
      { frameNumber := 1000000000000, width := 640, height := 480 }).Defined := by
  refine ⟨by decide, ?_⟩
  rw [defined_encodeSyntheticJpeg (by decide) (by decide),
    defined_syntheticPicture (by decide) (by decide)]
  decide

end Overflow

end MiniCam.App.JpegCodec
