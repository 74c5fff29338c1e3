/- Module: MiniCam/App/FramePictures
   source: app/jpeg_codec.cpp
   digest: The picture in a raw frame, and the picture that the compressor is given: every byte
     is within one of the exact colour. -/

import Mathlib.Tactic.FieldSimp
import Mathlib.Tactic.NormNum
import MiniCam.App.JpegCodec
import MiniCam.Foundation.FixedPoint

set_option autoImplicit false
set_option relaxedAutoImplicit false

namespace MiniCam.App.FramePictures

open MiniCam.Foundation.FixedPoint
open MiniCam.Foundation.IntEvaluation
open MiniCam.Hal.Interface (CaptureResult FramePayloadFormat)
open MiniCam.Buffers.DmaBufAllocator (Address DmaBuf)
open MiniCam.App.JpegCodec

section Colours

inductive Channel where
  | red
  | green
  | blue
  deriving DecidableEq

def Channel.place : Channel → Nat
  | .red => 0
  | .green => 1
  | .blue => 2

abbrev Colour := Channel → ℚ

/-- A luma and two chroma samples of studio range, as exact numbers. -/
structure Sample where
  y : ℚ
  u : ℚ
  v : ℚ

def share : Channel → ℚ
  | .red => 299 / 1000
  | .green => 587 / 1000
  | .blue => 114 / 1000

def luma (colour : Colour) : ℚ :=
  share .red * colour .red + share .green * colour .green + share .blue * colour .blue

/-- The sample that stands for a colour: luma from 16 to 235, chroma around 128. -/
def sampleOf (colour : Colour) : Sample where
  y := 16 + 219 / 255 * luma colour
  u := 128 + 112 / 255 * ((colour .blue - luma colour) / (1 - share .blue))
  v := 128 + 112 / 255 * ((colour .red - luma colour) / (1 - share .red))

/-- The weights of `y - 16`, `u - 128` and `v - 128` in a channel, and the integers that the code
has for them at the scale 256. -/
def terms (channel : Channel) (y u v : Int) : List Term :=
  match channel with
  | .red =>
    [⟨255 / 219, 298, y - 16, 239⟩, ⟨255 / 112 * (1 - share .red), 409, v, 128⟩]
  | .green =>
    [⟨255 / 219, 298, y - 16, 239⟩,
      ⟨-(255 / 112 * (1 - share .blue) * share .blue / share .green), -100, u, 128⟩,
      ⟨-(255 / 112 * (1 - share .red) * share .red / share .green), -208, v, 128⟩]
  | .blue =>
    [⟨255 / 219, 298, y - 16, 239⟩, ⟨255 / 112 * (1 - share .blue), 516, u, 128⟩]

/-- The colour of a sample whose chroma is centred already; outside the range of a byte it is
held at its ends. -/
def exactColour (y u v : Int) : Colour := fun channel =>
  hold 0 255 (exactSum (terms channel y u v))

theorem exactSum_sampleOf (colour : Colour) {y u v : Int}
    (at_y : (y : ℚ) = (sampleOf colour).y) (at_u : ((u : ℚ) + 128) = (sampleOf colour).u)
    (at_v : ((v : ℚ) + 128) = (sampleOf colour).v) (channel : Channel) :
    exactSum (terms channel y u v) = colour channel := by
  have at_u : (u : ℚ) = 112 / 255 * ((colour .blue - luma colour) / (1 - share .blue)) := by
    simp only [sampleOf] at at_u
    linarith
  have at_v : (v : ℚ) = 112 / 255 * ((colour .red - luma colour) / (1 - share .red)) := by
    simp only [sampleOf] at at_v
    linarith
  simp only [sampleOf] at at_y
  cases channel <;>
    · simp only [terms, exactSum, List.map_cons, List.map_nil, List.sum_cons, List.sum_nil]
      push_cast
      rw [at_y]
      simp only [at_u, at_v, luma, share]
      ring

theorem drift_terms (channel : Channel) (y u v : Int) :
    drift (2 ^ 8) (terms channel y u v) < 1 / 2 := by
  cases channel <;>
    · simp only [terms, drift, share, List.map_cons, List.map_nil, List.sum_cons, List.sum_nil]
      norm_num [abs_of_pos, abs_of_neg]

end Colours

section Bytes

theorem clampToByte_toNat (value : Int) :
    ((clampToByte value).toNat : ℚ) = hold 0 255 value := by
  have inside : 0 ≤ max 0 (min value 255) ∧ max 0 (min value 255) < 256 := by omega
  have same : ((clampToByte value).toNat : Int) = max 0 (min value 255) := by
    unfold clampToByte UInt8.ofInt
    rw [UInt8.toNat_ofNat']
    omega
  have cast : ((clampToByte value).toNat : ℚ) = ((max 0 (min value 255) : Int) : ℚ) := by
    exact_mod_cast same
  rw [cast, hold]
  push_cast
  rfl

def channelByte (y u v : Int) (channel : Channel) : UInt8 :=
  clampToByte (roundShift 7 (scaledSum (terms channel y u v)))

theorem writePixel_value (y u v : Int) :
    (writePixel u v y).value = [.red, .green, .blue].map (channelByte y u v) := by
  have red : 298 * (y - 16) + 409 * v + 128 =
      scaledSum (terms .red y u v) + 2 ^ 7 := by
    simp only [scaledSum, terms, List.map_cons, List.map_nil, List.sum_cons, List.sum_nil]
    ring
  have green : 298 * (y - 16) - 100 * u - 208 * v + 128 =
      scaledSum (terms .green y u v) + 2 ^ 7 := by
    simp only [scaledSum, terms, List.map_cons, List.map_nil, List.sum_cons, List.sum_nil]
    ring
  have blue : 298 * (y - 16) + 516 * u + 128 =
      scaledSum (terms .blue y u v) + 2 ^ 7 := by
    simp only [scaledSum, terms, List.map_cons, List.map_nil, List.sum_cons, List.sum_nil]
    ring
  simp only [writePixel, add, sub, mul, shiftRight, Evaluation.value_bind, value_int,
    Evaluation.value_pure, List.map_cons, List.map_nil, channelByte, roundShift]
  rw [red, green, blue]

theorem channelByte_near {y u v : Int} (luma : 0 ≤ y ∧ y ≤ 255) (first : -128 ≤ u ∧ u ≤ 127)
    (second : -128 ≤ v ∧ v ≤ 127) (channel : Channel) :
    |((channelByte y u v channel).toNat : ℚ) - exactColour y u v channel| < 1 := by
  have at_y : |((y - 16 : Int) : ℚ)| ≤ 239 := by
    have inside : |y - 16| ≤ 239 := abs_le.mpr (by omega)
    exact_mod_cast inside
  have at_u : |(u : ℚ)| ≤ 128 := by
    have inside : |u| ≤ 128 := abs_le.mpr (by omega)
    exact_mod_cast inside
  have at_v : |(v : ℚ)| ≤ 128 := by
    have inside : |v| ≤ 128 := abs_le.mpr (by omega)
    exact_mod_cast inside
  have bounded : ∀ t ∈ terms channel y u v, |(t.value : ℚ)| ≤ t.radius := by
    intro t member
    cases channel <;> simp only [terms, List.mem_cons, List.not_mem_nil, or_false] at member
    · rcases member with rfl | rfl
      · exact at_y
      · exact at_v
    · rcases member with rfl | rfl | rfl
      · exact at_y
      · exact at_u
      · exact at_v
    · rcases member with rfl | rfl
      · exact at_y
      · exact at_u
  rw [channelByte, clampToByte_toNat, exactColour]
  refine (hold_near _ _ _ _).trans_lt ?_
  have near := roundShift_scaledSum 7 (terms channel y u v) bounded
  have small := drift_terms channel y u v
  norm_num at near small ⊢
  linarith

end Bytes

section Pictures

/-- What a raw frame means: the colour of a pixel, in the order of the rows. Two pixels of YUYV
share their chroma. -/
def rawColour (format : FramePayloadFormat) (bytes : List UInt8) (pixel : Nat)
    (channel : Channel) : Option ℚ :=
  match format with
  | .rgb24 => (bytes[3 * pixel + channel.place]?).map fun byte => (byte.toNat : ℚ)
  | .yuyv422 => do
    let y ← bytes[2 * pixel]?
    let u ← bytes[4 * (pixel / 2) + 1]?
    let v ← bytes[4 * (pixel / 2) + 3]?
    return exactColour y.toNat (u.toNat - 128) (v.toNat - 128) channel
  | .none => none

def pixelBytes (y u v : UInt8) : List UInt8 :=
  [.red, .green, .blue].map (channelByte y.toNat (u.toNat - 128) (v.toNat - 128))

theorem getElem?_pixelBytes (y u v : UInt8) (channel : Channel) (rest : List UInt8) :
    (pixelBytes y u v ++ rest)[channel.place]? =
      some (channelByte y.toNat (u.toNat - 128) (v.toNat - 128) channel) := by
  cases channel <;> rfl

theorem appendYuyvAsRgb_value : ∀ yuyv rgb : List UInt8,
    (appendYuyvAsRgb yuyv rgb).value = rgb ++ (appendYuyvAsRgb yuyv []).value
  | y0 :: u :: y1 :: v :: yuyv, rgb => by
    simp only [appendYuyvAsRgb, Evaluation.value_bind]
    rw [appendYuyvAsRgb_value yuyv (rgb ++ _ ++ _), appendYuyvAsRgb_value yuyv ([] ++ _ ++ _)]
    simp only [List.nil_append, List.append_assoc]
  | [], rgb | [_], rgb | [_, _], rgb | [_, _, _], rgb => by simp [appendYuyvAsRgb]

theorem appendYuyvAsRgb_group (y0 u y1 v : UInt8) (yuyv : List UInt8) :
    (appendYuyvAsRgb (y0 :: u :: y1 :: v :: yuyv) []).value =
      pixelBytes y0 u v ++ (pixelBytes y1 u v ++ (appendYuyvAsRgb yuyv []).value) := by
  simp only [appendYuyvAsRgb, sub, Evaluation.value_bind, value_int]
  rw [appendYuyvAsRgb_value, writePixel_value, writePixel_value]
  simp [pixelBytes]

theorem appendYuyvAsRgb_pixel : ∀ (yuyv : List UInt8) (pixel : Nat) (channel : Channel),
    pixel < 2 * (yuyv.length / 4) → ∃ y u v : UInt8,
      yuyv[2 * pixel]? = some y ∧ yuyv[4 * (pixel / 2) + 1]? = some u ∧
      yuyv[4 * (pixel / 2) + 3]? = some v ∧
      (appendYuyvAsRgb yuyv []).value[3 * pixel + channel.place]? =
        some (channelByte y.toNat (u.toNat - 128) (v.toNat - 128) channel)
  | y0 :: u :: y1 :: v :: yuyv, pixel, channel, inside => by
    rw [appendYuyvAsRgb_group]
    have three : ∀ y : UInt8, (pixelBytes y u v).length = 3 := fun y => rfl
    match pixel with
    | 0 => exact ⟨y0, u, v, rfl, rfl, rfl, by simpa using getElem?_pixelBytes y0 u v channel _⟩
    | 1 =>
      refine ⟨y1, u, v, rfl, rfl, rfl, ?_⟩
      rw [List.getElem?_append_right (by rw [three]; omega), three]
      have place : 3 * 1 + channel.place - 3 = channel.place := by omega
      rw [place]
      exact getElem?_pixelBytes y1 u v channel _
    | pixel + 2 =>
      have short : pixel < 2 * (yuyv.length / 4) := by
        simp only [List.length_cons] at inside
        omega
      obtain ⟨y, u', v', at_y, at_u, at_v, at_byte⟩ :=
        appendYuyvAsRgb_pixel yuyv pixel channel short
      have group : (pixel + 2) / 2 = pixel / 2 + 1 := by omega
      refine ⟨y, u', v', ?_, ?_, ?_, ?_⟩
      · rw [← at_y]
        rfl
      · rw [group, ← at_u]
        rfl
      · rw [group, ← at_v]
        rfl
      · rw [List.getElem?_append_right (by rw [three]; omega), three,
          List.getElem?_append_right (by rw [three]; omega), three]
        have place : 3 * (pixel + 2) + channel.place - 3 - 3 = 3 * pixel + channel.place := by
          omega
        rw [place]
        exact at_byte
  | [], pixel, _, inside | [_], pixel, _, inside | [_, _], pixel, _, inside
  | [_, _, _], pixel, _, inside => by simp at inside

theorem place_lt (channel : Channel) : channel.place < 3 := by cases channel <;> decide

/-- The compressor is given the picture that is in the raw frame: the byte of every channel of
every pixel that it is given is less than one off the exact colour, and is that colour in an RGB
frame. -/
theorem compressor_gets_picture (jpge : Jpge) (grants : Nat → Bool) (memory : Address → UInt8)
    (result : CaptureResult) (outputBuffer : Option DmaBuf) (c : CompressCall)
    (made : c ∈ (encodeJpeg jpge grants memory result outputBuffer).calls) (pixel : Nat)
    (channel : Channel) (inside : 3 * pixel + channel.place < c.rgb.length) :
    ∃ byte colour, c.rgb[3 * pixel + channel.place]? = some byte ∧
      rawColour result.payloadFormat (imageBytes memory outputBuffer) pixel channel =
        some colour ∧ |(byte.toNat : ℚ) - colour| < 1 ∧
      (result.payloadFormat = .rgb24 → colour = byte.toNat) := by
  rw [calls_encodeJpeg] at made
  split at made
  · cases made
  · split at made
    · rename_i rgb
      split at made
      · cases made
      · obtain rfl := List.mem_singleton.mp made
        simp only at inside ⊢
        have at_byte := List.getElem?_eq_getElem inside
        refine ⟨_, _, at_byte, ?_, ?_, fun _ => rfl⟩
        · rw [rgb, rawColour]
          rw [List.getElem?_take_of_lt (by rw [List.length_take] at inside; omega)] at at_byte
          rw [at_byte]
          rfl
        · simp
    · rename_i yuyv
      obtain rfl := List.mem_singleton.mp made
      simp only [length_appendYuyvAsRgb, List.length_nil, Nat.zero_add] at inside
      obtain ⟨y, u, v, at_y, at_u, at_v, at_byte⟩ := appendYuyvAsRgb_pixel
        (imageBytes memory outputBuffer) pixel channel (by have := place_lt channel; omega)
      refine ⟨_, exactColour y.toNat (u.toNat - 128) (v.toNat - 128) channel, at_byte, ?_, ?_,
        ?_⟩
      · rw [yuyv]
        simp only [rawColour, at_y, at_u, at_v]
        rfl
      · have luma := y.toNat_lt
        have first := u.toNat_lt
        have second := v.toNat_lt
        exact channelByte_near (by omega) (by omega) (by omega) channel
      · rw [yuyv]
        intro other
        cases other
    · cases made

def whiteMemory (a : Address) : UInt8 := if a % 2 = 0 then 235 else 128

theorem white_call : (⟨2, 1, List.replicate 6 255⟩ : CompressCall) ∈
    (encodeJpeg fillingJpge (fun _ => true) whiteMemory
      { width := 2, height := 1, payloadFormat := .yuyv422 }
      (some { size := 4, mappedData := some 0 })).calls := by
  decide +kernel

theorem compressor_gets_picture_white :
    ∃ byte colour, (List.replicate 6 (255 : UInt8))[4]? = some byte ∧
      rawColour .yuyv422 (imageBytes whiteMemory (some { size := 4, mappedData := some 0 })) 1
        .green = some colour ∧ |(byte.toNat : ℚ) - colour| < 1 := by
  obtain ⟨byte, colour, at_byte, at_colour, near, -⟩ := compressor_gets_picture _ _ _ _ _ _
    white_call 1 .green (by decide)
  exact ⟨byte, colour, at_byte, at_colour, near⟩

/-- A YUYV frame that was made from a picture gives the picture back: where the bytes of a pixel
are the exact sample of a colour, the compressor is given that colour to less than one. -/
theorem yuyv_frame_gives_picture (jpge : Jpge) (grants : Nat → Bool) (memory : Address → UInt8)
    (result : CaptureResult) (outputBuffer : Option DmaBuf) (c : CompressCall)
    (made : c ∈ (encodeJpeg jpge grants memory result outputBuffer).calls)
    (yuyv : result.payloadFormat = .yuyv422) (pixel : Nat) (colour : Colour)
    (inRange : ∀ channel, 0 ≤ colour channel ∧ colour channel ≤ 255) (y u v : UInt8)
    (at_y : (imageBytes memory outputBuffer)[2 * pixel]? = some y)
    (at_u : (imageBytes memory outputBuffer)[4 * (pixel / 2) + 1]? = some u)
    (at_v : (imageBytes memory outputBuffer)[4 * (pixel / 2) + 3]? = some v)
    (sample : sampleOf colour = ⟨y.toNat, u.toNat, v.toNat⟩) (channel : Channel) :
    ∃ byte, c.rgb[3 * pixel + channel.place]? = some byte ∧
      |(byte.toNat : ℚ) - colour channel| < 1 := by
  rw [calls_encodeJpeg, yuyv] at made
  split at made
  · cases made
  · obtain rfl := List.mem_singleton.mp made
    have last := (List.getElem?_eq_some_iff.mp at_v).1
    obtain ⟨y', u', v', at_y', at_u', at_v', at_byte⟩ := appendYuyvAsRgb_pixel
      (imageBytes memory outputBuffer) pixel channel (by omega)
    obtain rfl := Option.some.inj (at_y.symm.trans at_y')
    obtain rfl := Option.some.inj (at_u.symm.trans at_u')
    obtain rfl := Option.some.inj (at_v.symm.trans at_v')
    refine ⟨_, at_byte, ?_⟩
    have luma := y.toNat_lt
    have first := u.toNat_lt
    have second := v.toNat_lt
    have near := channelByte_near (y := y.toNat) (u := u.toNat - 128) (v := v.toNat - 128)
      (by omega) (by omega) (by omega) channel
    have exact_colour : exactColour y.toNat (u.toNat - 128) (v.toNat - 128) channel =
        colour channel := by
      rw [exactColour, exactSum_sampleOf colour (by rw [sample]; push_cast; rfl)
        (by rw [sample]; push_cast; ring) (by rw [sample]; push_cast; ring), hold]
      rw [min_eq_left (inRange channel).2, max_eq_right (inRange channel).1]
    rw [exact_colour] at near
    exact near

theorem yuyv_frame_gives_picture_white :
    ∃ byte : UInt8, (List.replicate 6 (255 : UInt8))[4]? = some byte ∧
      |(byte.toNat : ℚ) - 255| < 1 := by
  refine yuyv_frame_gives_picture _ _ _ _ _ _ white_call rfl 1 (fun _ => 255) ?_ 235 128 128
    (by decide +kernel) (by decide +kernel) (by decide +kernel) ?_ .green
  · intro channel
    norm_num
  · have grey : luma (fun _ => 255) = 255 := by norm_num [luma, share]
    have at_luma : UInt8.toNat 235 = 235 := rfl
    have at_chroma : UInt8.toNat 128 = 128 := rfl
    simp only [sampleOf, grey, at_luma, at_chroma, sub_self, zero_div, mul_zero, add_zero]
    norm_num

end Pictures

end MiniCam.App.FramePictures
