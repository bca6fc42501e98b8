import Minigbm.Basic

/-!
# Formats, modifiers and plane layouts

DRM fourcc codes, the two modifiers `hbm.c` names, and the per-plane helpers of minigbm's
`drv_helpers.c` and `util.h` that `create_resource` and `hbm_sync` call. Neither file is among the
sources: the helpers are modelled from minigbm's, with the whole standard table of
`layout_from_format`. Arithmetic on `uint32_t` values is written on `Nat` with the wrap-around
`% 2 ^ 32` made explicit wherever the C code can overflow.
-/

namespace Minigbm

/-- `fourcc_code(a, b, c, d)`: four characters packed little-endian into a 32-bit code. -/
def fourccCode (a b c d : Char) : UInt32 :=
  a.toNat.toUInt32 ||| (b.toNat.toUInt32 <<< 8) ||| (c.toNat.toUInt32 <<< 16) |||
    (d.toNat.toUInt32 <<< 24)

def drmFormatInvalid : UInt32 := 0
def drmFormatC8 : UInt32 := fourccCode 'C' '8' ' ' ' '
def drmFormatR8 : UInt32 := fourccCode 'R' '8' ' ' ' '
def drmFormatRgb332 : UInt32 := fourccCode 'R' 'G' 'B' '8'
def drmFormatBgr233 : UInt32 := fourccCode 'B' 'G' 'R' '8'
def drmFormatR16 : UInt32 := fourccCode 'R' '1' '6' ' '
def drmFormatRg88 : UInt32 := fourccCode 'R' 'G' '8' '8'
def drmFormatGr88 : UInt32 := fourccCode 'G' 'R' '8' '8'
def drmFormatXrgb4444 : UInt32 := fourccCode 'X' 'R' '1' '2'
def drmFormatXbgr4444 : UInt32 := fourccCode 'X' 'B' '1' '2'
def drmFormatRgbx4444 : UInt32 := fourccCode 'R' 'X' '1' '2'
def drmFormatBgrx4444 : UInt32 := fourccCode 'B' 'X' '1' '2'
def drmFormatArgb4444 : UInt32 := fourccCode 'A' 'R' '1' '2'
def drmFormatAbgr4444 : UInt32 := fourccCode 'A' 'B' '1' '2'
def drmFormatRgba4444 : UInt32 := fourccCode 'R' 'A' '1' '2'
def drmFormatBgra4444 : UInt32 := fourccCode 'B' 'A' '1' '2'
def drmFormatXrgb1555 : UInt32 := fourccCode 'X' 'R' '1' '5'
def drmFormatXbgr1555 : UInt32 := fourccCode 'X' 'B' '1' '5'
def drmFormatRgbx5551 : UInt32 := fourccCode 'R' 'X' '1' '5'
def drmFormatBgrx5551 : UInt32 := fourccCode 'B' 'X' '1' '5'
def drmFormatArgb1555 : UInt32 := fourccCode 'A' 'R' '1' '5'
def drmFormatAbgr1555 : UInt32 := fourccCode 'A' 'B' '1' '5'
def drmFormatRgba5551 : UInt32 := fourccCode 'R' 'A' '1' '5'
def drmFormatBgra5551 : UInt32 := fourccCode 'B' 'A' '1' '5'
def drmFormatRgb565 : UInt32 := fourccCode 'R' 'G' '1' '6'
def drmFormatBgr565 : UInt32 := fourccCode 'B' 'G' '1' '6'
def drmFormatYuyv : UInt32 := fourccCode 'Y' 'U' 'Y' 'V'
def drmFormatYvyu : UInt32 := fourccCode 'Y' 'V' 'Y' 'U'
def drmFormatUyvy : UInt32 := fourccCode 'U' 'Y' 'V' 'Y'
def drmFormatVyuy : UInt32 := fourccCode 'V' 'Y' 'U' 'Y'
def drmFormatRgb888 : UInt32 := fourccCode 'R' 'G' '2' '4'
def drmFormatBgr888 : UInt32 := fourccCode 'B' 'G' '2' '4'
def drmFormatXrgb8888 : UInt32 := fourccCode 'X' 'R' '2' '4'
def drmFormatXbgr8888 : UInt32 := fourccCode 'X' 'B' '2' '4'
def drmFormatRgbx8888 : UInt32 := fourccCode 'R' 'X' '2' '4'
def drmFormatBgrx8888 : UInt32 := fourccCode 'B' 'X' '2' '4'
def drmFormatArgb8888 : UInt32 := fourccCode 'A' 'R' '2' '4'
def drmFormatAbgr8888 : UInt32 := fourccCode 'A' 'B' '2' '4'
def drmFormatRgba8888 : UInt32 := fourccCode 'R' 'A' '2' '4'
def drmFormatBgra8888 : UInt32 := fourccCode 'B' 'A' '2' '4'
def drmFormatXrgb2101010 : UInt32 := fourccCode 'X' 'R' '3' '0'
def drmFormatXbgr2101010 : UInt32 := fourccCode 'X' 'B' '3' '0'
def drmFormatRgbx1010102 : UInt32 := fourccCode 'R' 'X' '3' '0'
def drmFormatBgrx1010102 : UInt32 := fourccCode 'B' 'X' '3' '0'
def drmFormatArgb2101010 : UInt32 := fourccCode 'A' 'R' '3' '0'
def drmFormatAbgr2101010 : UInt32 := fourccCode 'A' 'B' '3' '0'
def drmFormatRgba1010102 : UInt32 := fourccCode 'R' 'A' '3' '0'
def drmFormatBgra1010102 : UInt32 := fourccCode 'B' 'A' '3' '0'
def drmFormatAyuv : UInt32 := fourccCode 'A' 'Y' 'U' 'V'
def drmFormatAbgr16161616f : UInt32 := fourccCode 'A' 'B' '4' 'H'
def drmFormatNv12 : UInt32 := fourccCode 'N' 'V' '1' '2'
def drmFormatNv21 : UInt32 := fourccCode 'N' 'V' '2' '1'
def drmFormatP010 : UInt32 := fourccCode 'P' '0' '1' '0'
def drmFormatYvu420 : UInt32 := fourccCode 'Y' 'V' '1' '2'
def drmFormatYvu420Android : UInt32 := fourccCode '9' '9' '9' '7'

def drmFormatModLinear : UInt64 := 0
def drmFormatModInvalid : UInt64 := 0x00ffffffffffffff

def drvMaxPlanes : Nat := 4

/-! ## Plane layouts -/

/-- `struct planar_layout`: plane count, and per plane its subsampling and bytes per pixel. -/
structure PlanarLayout where
  numPlanes : Nat
  horizontalSubsampling : List Nat
  verticalSubsampling : List Nat
  bytesPerPixel : List Nat
  deriving DecidableEq, Repr

def packedLayout (bpp : Nat) : PlanarLayout := ⟨1, [1], [1], [bpp]⟩
def biplanarYuv420Layout : PlanarLayout := ⟨2, [1, 2], [1, 2], [1, 2]⟩
def triplanarYuv420Layout : PlanarLayout := ⟨3, [1, 2, 2], [1, 2, 2], [1, 1, 1]⟩
def biplanarYuvP010Layout : PlanarLayout := ⟨2, [1, 2], [1, 2], [2, 4]⟩

/-- The cases of `layout_from_format`: the formats of each layout. MediaTek's private
`DRM_FORMAT_MTISP_SXYZW10` is left out. -/
def layoutTable : List (List UInt32 × PlanarLayout) :=
  [([drmFormatBgr233, drmFormatC8, drmFormatR8, drmFormatRgb332], packedLayout 1),
   ([drmFormatR16], packedLayout 2),
   ([drmFormatYvu420, drmFormatYvu420Android], triplanarYuv420Layout),
   ([drmFormatNv12, drmFormatNv21], biplanarYuv420Layout),
   ([drmFormatP010], biplanarYuvP010Layout),
   ([drmFormatAbgr1555, drmFormatAbgr4444, drmFormatArgb1555, drmFormatArgb4444, drmFormatBgr565,
     drmFormatBgra4444, drmFormatBgra5551, drmFormatBgrx4444, drmFormatBgrx5551, drmFormatGr88,
     drmFormatRg88, drmFormatRgb565, drmFormatRgba4444, drmFormatRgba5551, drmFormatRgbx4444,
     drmFormatRgbx5551, drmFormatUyvy, drmFormatVyuy, drmFormatXbgr1555, drmFormatXbgr4444,
     drmFormatXrgb1555, drmFormatXrgb4444, drmFormatYuyv, drmFormatYvyu], packedLayout 2),
   ([drmFormatBgr888, drmFormatRgb888], packedLayout 3),
   ([drmFormatAbgr2101010, drmFormatAbgr8888, drmFormatArgb2101010, drmFormatArgb8888,
     drmFormatAyuv, drmFormatBgra1010102, drmFormatBgra8888, drmFormatBgrx1010102,
     drmFormatBgrx8888, drmFormatRgba1010102, drmFormatRgba8888, drmFormatRgbx1010102,
     drmFormatRgbx8888, drmFormatXbgr2101010, drmFormatXbgr8888, drmFormatXrgb2101010,
     drmFormatXrgb8888], packedLayout 4),
   ([drmFormatAbgr16161616f], packedLayout 8)]

/-- Modelled from `layout_from_format` of minigbm's `drv_helpers.c`, which is not among the
sources: the standard bytes-per-pixel and subsampling table, `NULL` for a format it does not
know. -/
def layoutFromFormat (format : UInt32) : Option PlanarLayout :=
  (layoutTable.find? fun entry => entry.1.contains format).map (·.2)

/-- Modelled from `DIV_ROUND_UP(n, d)` of minigbm's `util.h`, which is not among the sources, on a
`uint32_t` numerator. -/
def divRoundUp (n d : Nat) : Nat := (n + d - 1) % 2 ^ 32 / d

/-- Modelled from `ALIGN(n, b)` of minigbm's `util.h`, which is not among the sources, on a
`uint32_t`, for a power of two `b`. -/
def align (n b : Nat) : Nat := (n + b - 1) % 2 ^ 32 / b * b

/-- Modelled from `drv_num_planes_from_format` of `drv_helpers.c`, which is not among the
sources: `0` for a format `layout_from_format` does not know. -/
def drvNumPlanesFromFormat (format : UInt32) : Nat :=
  match layoutFromFormat format with
  | some layout => layout.numPlanes
  | none => 0

/-- Modelled from `drv_bytes_per_pixel_from_format` of `drv_helpers.c`, which is not among the
sources. -/
def drvBytesPerPixelFromFormat (format : UInt32) (plane : Nat) : Nat :=
  match layoutFromFormat format with
  | some layout => layout.bytesPerPixel.getD plane 0
  | none => 0

/-- Modelled from `drv_height_from_format` of `drv_helpers.c`, which is not among the sources. -/
def drvHeightFromFormat (format : UInt32) (height plane : Nat) : Nat :=
  match layoutFromFormat format with
  | some layout => divRoundUp height (layout.verticalSubsampling.getD plane 1)
  | none => 0

/-- Modelled from `drv_stride_from_format` of `drv_helpers.c`, which is not among the sources:
bytes per row of `plane`; Android YV12 rows are aligned to 32 (luma) or 16 (chroma). -/
def drvStrideFromFormat (format : UInt32) (width plane : Nat) : Nat :=
  match layoutFromFormat format with
  | some layout =>
    let planeWidth := divRoundUp width (layout.horizontalSubsampling.getD plane 1)
    let stride := planeWidth * layout.bytesPerPixel.getD plane 0 % 2 ^ 32
    if format = drmFormatYvu420Android then
      if plane = 0 then align stride 32 else align stride 16
    else stride
  | none => 0

/-- Modelled from `drv_size_from_format` of `drv_helpers.c`, which is not among the sources. -/
def drvSizeFromFormat (format : UInt32) (stride height plane : Nat) : Nat :=
  stride * drvHeightFromFormat format height plane % 2 ^ 32

end Minigbm
