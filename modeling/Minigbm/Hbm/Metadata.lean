import Minigbm.Hbm.Resource

/-!
# The metadata a resource reports

`hbm_allocate` and `hbm_import` fill in minigbm's `struct bo_metadata` from an `hbm_layout` by
`init_bo_metadata`: plane `i` at `offsets[i]`, running up to the next plane's offset and the last
one up to the layout's size, with `uint32_t` sizes. `PlaneLaw` states the plane-layout law the
rest of minigbm reads the metadata by. It holds for ordered offsets in a layout whose size fits
in 32 bits (`initBoMetadata_planeLaw`).

`hbm_import` builds its layout itself (`init_layout`): the size is what `lseek` reports, and an
image has one plane per leading nonnegative descriptor, so an image import reports at least one
plane, the last one running to the end of the backing (`hbmImport_image_meta`). A blob
(`DRM_FORMAT_INVALID`) gets a layout with no plane at all, and so does its metadata
(`hbmImport_blob_no_planes`).
-/

namespace Minigbm

/-- The plane-layout law of bo metadata: one offset and one size per plane, each plane running
up to the next one's offset and the last one up to the end of the buffer. -/
structure PlaneLaw (meta : BoMetadata) : Prop where
  offsets_length : meta.offsets.length = meta.numPlanes
  sizes_length : meta.sizes.length = meta.numPlanes
  next : ∀ i, i + 1 < meta.numPlanes →
    meta.offsets.getD i 0 + meta.sizes.getD i 0 = meta.offsets.getD (i + 1) 0
  last : ∀ i, i + 1 = meta.numPlanes →
    meta.offsets.getD i 0 + meta.sizes.getD i 0 = meta.totalSize

theorem getD_map_range {f : Nat → Nat} {n i : Nat} (h : i < n) :
    ((List.range n).map f).getD i 0 = f i := by
  simp [List.getD_eq_getElem?_getD, h]

/-- A `uint32_t` difference that does not wrap. -/
theorem sub_mod_two_pow {a b : Nat} (hab : b ≤ a) (ha : a < 2 ^ 32) :
    (a + (2 ^ 32 - b % 2 ^ 32)) % 2 ^ 32 = a - b := by
  rw [Nat.mod_eq_of_lt (show b < 2 ^ 32 by omega), show a + (2 ^ 32 - b) = a - b + 2 ^ 32 by omega,
    Nat.add_mod_right, Nat.mod_eq_of_lt (by omega)]

/-- The end of plane `i` in `init_bo_metadata`: the next plane's offset, or the layout's size. -/
def HbmLayout.planeEnd (layout : HbmLayout) (i : Nat) : Nat :=
  if i + 1 < layout.planeCount then layout.offsets.getD (i + 1) 0 else layout.size

theorem initBoMetadata_sizes_getD (layout : HbmLayout) {i : Nat} (hi : i < layout.planeCount) :
    (initBoMetadata layout).sizes.getD i 0 =
      (layout.planeEnd i + (2 ^ 32 - layout.offsets.getD i 0 % 2 ^ 32)) % 2 ^ 32 := by
  simp only [initBoMetadata, getD_map_range hi]
  rfl

/-- In order, every plane ends at or below the layout's size. -/
theorem HbmLayout.planeEnd_le (layout : HbmLayout)
    (hord : ∀ i < layout.planeCount, layout.offsets.getD i 0 ≤ layout.planeEnd i) :
    ∀ i < layout.planeCount, layout.planeEnd i ≤ layout.size := by
  suffices ∀ d i, i + d + 1 = layout.planeCount → layout.planeEnd i ≤ layout.size from
    fun i hi => this (layout.planeCount - i - 1) i (by omega)
  intro d
  induction d with
  | zero => intro i hi; rw [HbmLayout.planeEnd, if_neg (by omega)]
  | succ d ih =>
    intro i hi
    rw [HbmLayout.planeEnd, if_pos (by omega)]
    exact (hord (i + 1) (by omega)).trans (ih (i + 1) (by omega))

/-- With offsets in order and a size below `2 ^ 32`, `init_bo_metadata` satisfies the law, with
the layout's plane count and size. -/
theorem initBoMetadata_planeLaw (layout : HbmLayout)
    (hord : ∀ i < layout.planeCount, layout.offsets.getD i 0 ≤ layout.planeEnd i)
    (hsize : layout.size < 2 ^ 32) :
    PlaneLaw (initBoMetadata layout) ∧ (initBoMetadata layout).numPlanes = layout.planeCount ∧
      (initBoMetadata layout).totalSize = layout.size := by
  -- plane `i` of the metadata runs from its offset to `planeEnd i`, without wrapping
  have hplane : ∀ i < layout.planeCount,
      (initBoMetadata layout).offsets.getD i 0 + (initBoMetadata layout).sizes.getD i 0 =
        layout.planeEnd i := by
    intro i hi
    have hle := hord i hi
    rw [initBoMetadata_sizes_getD _ hi,
      sub_mod_two_pow hle ((layout.planeEnd_le hord i hi).trans_lt hsize)]
    simp only [initBoMetadata, getD_map_range hi]
    omega
  refine ⟨⟨by simp [initBoMetadata], by simp [initBoMetadata], fun i hi => ?_,
    fun i hi => ?_⟩, rfl, rfl⟩
  · have hi' : i + 1 < layout.planeCount := hi
    rw [hplane i (by omega), HbmLayout.planeEnd, if_pos hi']
    exact (getD_map_range (f := (layout.offsets.getD · 0)) hi').symm
  · have hi' : i + 1 = layout.planeCount := hi
    rw [hplane i (by omega), HbmLayout.planeEnd, if_neg (by omega)]
    rfl

-- From `2 ^ 32` bytes on the last plane's `uint32_t` size wraps: one plane of `2 ^ 32 + 4096`
-- bytes reports 4096.
example : (initBoMetadata ⟨2 ^ 32 + 4096, 0, 1, [0], [0]⟩).sizes = [4096] := by decide

/-! ## `hbm_import` -/

theorem initDescription_format (fmt : UInt32) (mod useFlags : UInt64) (hasLinear : Bool) :
    (initDescription fmt mod useFlags hasLinear).format =
      if useBlob useFlags then drmFormatInvalid else fmt := rfl

/-- The metadata `hbm_import` reports is `init_bo_metadata` of the layout `init_layout` made. -/
theorem hbmImport_meta {host host' : Host} {data : ImportData} {o : ImportOutcome}
    {res : Resource} {meta : BoMetadata} (h : hbmImport host data o = (some (res, meta), host')) :
    ∃ layout, initLayout (initDescription data.format data.formatModifier data.useFlags
        o.hasLinear).format data o.seek = some layout ∧ meta = initBoMetadata layout := by
  unfold hbmImport at h
  cases hl : initLayout _ data o.seek with
  | none => simp only [hl] at h; cases h
  | some layout =>
    refine ⟨layout, rfl, ?_⟩
    simp only [hl, Host.newBo] at h
    split_ifs at h
    · cases h
    split at h
    · cases h
    · cases h; rfl

/-- An image import with a descriptor in `fds[0]` reports between one and `DRV_MAX_PLANES`
planes, a total size that is what `lseek` reported, and, for offsets in order and a size below
`2 ^ 32`, metadata satisfying the plane-layout law: its last plane runs to the end of the
backing. -/
theorem hbmImport_image_meta {host host' : Host} {data : ImportData} {o : ImportOutcome}
    {res : Resource} {meta : BoMetadata} (himage : useBlob data.useFlags = false)
    (hfmt : data.format ≠ drmFormatInvalid) (hfd : 0 ≤ data.fds.getD 0 (-1))
    (h : hbmImport host data o = (some (res, meta), host')) :
    1 ≤ meta.numPlanes ∧ meta.numPlanes ≤ drvMaxPlanes ∧ o.seek = some meta.totalSize ∧
      ((∀ i < meta.numPlanes, data.offsets.getD i 0 ≤
          if i + 1 < meta.numPlanes then data.offsets.getD (i + 1) 0 else meta.totalSize) →
        meta.totalSize < 2 ^ 32 → PlaneLaw meta) := by
  obtain ⟨layout, hl, rfl⟩ := hbmImport_meta h
  rw [initDescription_format, himage, if_neg (by decide)] at hl
  unfold initLayout at hl
  split at hl
  · cases hl
  rename_i size hseek
  rw [if_neg hfmt] at hl
  cases hl
  have hone : 1 ≤ ((data.fds.take drvMaxPlanes).takeWhile (0 ≤ ·)).length := by
    cases hfds : data.fds with
    | nil => simp [hfds] at hfd
    | cons fd fds =>
      have hfd' : 0 ≤ fd := by simpa [hfds] using hfd
      simp [drvMaxPlanes, List.takeWhile_cons, hfd']
  refine ⟨hone, ?_, hseek,
    fun hord hsize => (initBoMetadata_planeLaw _ (fun i hi => ?_) hsize).1⟩
  · exact ((List.takeWhile_sublist _).length_le).trans (List.length_take_le _ _)
  · have := hord i hi
    simp only [initBoMetadata] at this
    simp only [HbmLayout.planeEnd, getD_map_range hi]
    split_ifs at this ⊢ with hnext
    · rwa [getD_map_range hnext]
    · exact this

/-- A blob import (a `DRM_FORMAT_INVALID` description, as for a blob use or a caller's
`DRM_FORMAT_INVALID`) that `hbm_import` accepts reports metadata with no plane at all: no
offset and no size, only the total size `lseek` reported. -/
theorem hbmImport_blob_no_planes {host host' : Host} {data : ImportData} {o : ImportOutcome}
    {res : Resource} {meta : BoMetadata}
    (hblob : useBlob data.useFlags = true ∨ data.format = drmFormatInvalid)
    (h : hbmImport host data o = (some (res, meta), host')) :
    meta.numPlanes = 0 ∧ meta.offsets = [] ∧ meta.sizes = [] ∧
      o.seek = some meta.totalSize := by
  obtain ⟨layout, hl, rfl⟩ := hbmImport_meta h
  have hinv : (initDescription data.format data.formatModifier data.useFlags o.hasLinear).format =
      drmFormatInvalid := by
    rw [initDescription_format]
    rcases hblob with hb | hf
    · rw [if_pos hb]
    · split_ifs <;> [rfl; exact hf]
  rw [hinv] at hl
  unfold initLayout at hl
  split at hl
  · cases hl
  rename_i size hseek
  rw [if_pos rfl] at hl
  cases hl
  exact ⟨rfl, rfl, rfl, hseek⟩

/-- An R8 buffer for GPU data (a blob) of 4096 bytes, imported from descriptor `3` with a LINEAR
modifier and a pitch of 4096. -/
theorem hbmImport_blob_no_planes_gpuData :
    ∃ res meta host', hbmImport ⟨0, 0, []⟩
        ⟨[3], [4096], [0], drmFormatModLinear, 4096, 1, drmFormatR8, boUseGpuDataBuffer⟩
        ⟨true, some 4096, true, ⟨some [hbmMemoryTypeLocal], true, true, true⟩⟩ =
          (some (res, meta), host') ∧
      meta.numPlanes = 0 ∧ meta.offsets = [] ∧ meta.sizes = [] ∧
      some 4096 = some meta.totalSize := by
  obtain ⟨res, meta, host', h⟩ : ∃ res meta host', hbmImport ⟨0, 0, []⟩
      ⟨[3], [4096], [0], drmFormatModLinear, 4096, 1, drmFormatR8, boUseGpuDataBuffer⟩
      ⟨true, some 4096, true, ⟨some [hbmMemoryTypeLocal], true, true, true⟩⟩ =
        (some (res, meta), host') := ⟨_, _, _, rfl⟩
  exact ⟨res, meta, host', h, hbmImport_blob_no_planes (.inl (by decide)) h⟩

end Minigbm
