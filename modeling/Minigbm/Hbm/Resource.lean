import Minigbm.Hbm.MemoryType
import Minigbm.Hbm.Call

/-!
# Resources

`create_resource` picks a memory type for a new bo, binds it, and, when CPU access goes through
a staging bo, lays the planes out linearly for that bo: plane `p` at `staging_offsets[p]` with
pitch `staging_strides[p]`, one after the other in a `uint32_t` running offset whose final value
is `staging_size`. `hbm_allocate` and `hbm_import` create the bo and call it.

The running offset is a `uint32_t`. The staging layout is the prefix-sum layout of the plane
sizes modulo `2 ^ 32` (`layoutPlanes_scanl`), exact when the sizes fit (`layoutPlanes_exact`).
When they do not, `staging_size` is too small for the planes, and it can even wrap to `0`, the
value `hbm_map` reads as "no staging".
-/

namespace Minigbm

/-- `struct hbm_resource`. Its bo is a real bo, `HbmBo.real bo`. -/
structure Resource where
  bo : Nat
  format : UInt32
  useSw : Bool
  implicitFenceDmabuf : Int
  stagingSize : Nat
  stagingOffsets : List Nat
  stagingStrides : List Nat
  deriving DecidableEq, Repr

/-! ## The staging layout -/

/-- The plane loop of `create_resource`, over each plane's `(stride, size)`: the plane gets the
running offset and its stride, and the offset grows by its size as a `uint32_t`. Returns the
planes' `(offset, stride)` and the final offset. -/
def layoutPlanes : List (Nat × Nat) → Nat → List (Nat × Nat) × Nat
  | [], offset => ([], offset)
  | (stride, size) :: planes, offset =>
    let rest := layoutPlanes planes ((offset + size) % 2 ^ 32)
    ((offset, stride) :: rest.1, rest.2)

/-- Each plane's `(stride, size)`, as `drv_stride_from_format` and `drv_size_from_format` give
them. -/
def planeStridesAndSizes (format : UInt32) (width height : Nat) : List (Nat × Nat) :=
  (List.range (drvNumPlanesFromFormat format)).map fun plane =>
    let stride := drvStrideFromFormat format width plane
    (stride, drvSizeFromFormat format stride height plane)

/-- The staging fields `create_resource` fills in when it uses staging:
`(staging_size, staging_offsets, staging_strides)`. A blob is one plane of `extent.buffer.size`
bytes; the arrays are zero for it, as `calloc` left them. -/
def stagingLayout (format : UInt32) (extent : Extent) : Nat × List Nat × List Nat :=
  if format = drmFormatInvalid then (extent.bufferSize % 2 ^ 32, [], [])
  else
    let planes :=
      layoutPlanes (planeStridesAndSizes format extent.imageWidth extent.imageHeight) 0
    (planes.2, planes.1.map Prod.fst, planes.1.map Prod.snd)

theorem layoutPlanes_length (planes : List (Nat × Nat)) (offset : Nat) :
    (layoutPlanes planes offset).1.length = planes.length := by
  induction planes generalizing offset with
  | nil => rfl
  | cons plane planes ih => simp [layoutPlanes, ih]

/-- Plane `p` keeps the stride it was given. -/
theorem layoutPlanes_strides (planes : List (Nat × Nat)) (offset : Nat) :
    (layoutPlanes planes offset).1.map Prod.snd = planes.map Prod.fst := by
  induction planes generalizing offset with
  | nil => rfl
  | cons plane planes ih => simp [layoutPlanes, ih]

theorem scanl_add_mod (a : Nat) (xs : List Nat) :
    (List.scanl (· + ·) (a % 2 ^ 32) xs).map (· % 2 ^ 32) =
      (List.scanl (· + ·) a xs).map (· % 2 ^ 32) := by
  induction xs generalizing a with
  | nil => simp
  | cons x xs ih =>
    simp only [List.scanl, List.map_cons, Nat.mod_mod]
    rw [← ih (a % 2 ^ 32 + x), ← ih (a + x), Nat.add_mod, Nat.mod_mod, ← Nat.add_mod]

/-- The offsets the loop hands out, followed by the final one, are the running sums of the
plane sizes modulo `2 ^ 32`. -/
theorem layoutPlanes_scanl (planes : List (Nat × Nat)) {offset : Nat} (h : offset < 2 ^ 32) :
    (layoutPlanes planes offset).1.map Prod.fst ++ [(layoutPlanes planes offset).2] =
      (List.scanl (· + ·) offset (planes.map Prod.snd)).map (· % 2 ^ 32) := by
  induction planes generalizing offset with
  | nil => simpa [layoutPlanes, List.scanl] using (Nat.mod_eq_of_lt h).symm
  | cons plane planes ih =>
    obtain ⟨stride, size⟩ := plane
    simp only [layoutPlanes, List.map_cons, List.cons_append, List.scanl,
      Nat.mod_eq_of_lt h, ih (Nat.mod_lt _ (Nat.two_pow_pos 32)), scanl_add_mod]

theorem le_of_mem_scanl {a v : Nat} {xs : List Nat} (h : v ∈ List.scanl (· + ·) a xs) :
    v ≤ a + xs.sum := by
  induction xs generalizing a with
  | nil => simp_all
  | cons x xs ih =>
    simp only [List.scanl, List.mem_cons] at h
    rcases h with rfl | h
    · omega
    · have := ih h; simp only [List.sum_cons]; omega

/-- When the sizes fit in 32 bits the layout is exact: each plane starts where the previous one
ends, and the final offset is their total. -/
theorem layoutPlanes_exact (planes : List (Nat × Nat)) {offset : Nat}
    (h : offset + (planes.map Prod.snd).sum < 2 ^ 32) :
    (layoutPlanes planes offset).1.map Prod.fst ++ [(layoutPlanes planes offset).2] =
      List.scanl (· + ·) offset (planes.map Prod.snd) := by
  rw [layoutPlanes_scanl planes (by omega)]
  conv_rhs => rw [← List.map_id (List.scanl _ _ _)]
  exact List.map_congr_left fun v hv => Nat.mod_eq_of_lt ((le_of_mem_scanl hv).trans_lt h)

/-! ## `create_resource` -/

/-- What the external calls of `create_resource` return: the memory types of the bo (`none` when
`get_memory_types` cannot allocate), and whether `dup`, `hbm_bo_bind_memory` and `calloc`
succeed. -/
structure CreateOutcome where
  memoryTypes : Option (List UInt32)
  dup : Bool
  bind : Bool
  calloc : Bool
  deriving DecidableEq, Repr

/-- A new `struct hbm_resource`: no fence yet, and the given staging fields. -/
def Resource.init (bo : Nat) (format : UInt32) (useSw : Bool)
    (staging : Nat × List Nat × List Nat) : Resource :=
  ⟨bo, format, useSw, -1, staging.1, staging.2.1, staging.2.2⟩

/-- The descriptor `create_resource` binds: a duplicate of `dmabuf ≥ 0` (`none` when `dup`
fails), or `dmabuf` itself when it is negative. -/
def dupForBind (host : Host) (dmabuf : Int) (ok : Bool) : Option Int × Host :=
  if 0 ≤ dmabuf then
    let dupped := host.dup dmabuf ok
    (if dupped.1 < 0 then none else some dupped.1, dupped.2)
  else (some dmabuf, host)

/-- `create_resource`. The descriptor it binds is handed to `hbm_bo_bind_memory`, which always
takes ownership of it. -/
def createResource (host : Host) (bo : Nat) (desc : Description) (extent : Extent)
    (layout : HbmLayout) (useFlags : UInt64) (dmabuf : Int) (o : CreateOutcome) :
    Option Resource × Host :=
  match pickMemoryType layout.modifier useFlags o.memoryTypes with
  | none => (none, host)
  | some (mt, useStaging) =>
    match dupForBind host dmabuf o.dup with
    | (none, host) => (none, host)
    | (some fd, host) =>
      let host := host.emit (.bindMemory (.real bo) mt fd o.bind)
      if o.bind && o.calloc then
        (some (Resource.init bo desc.format (useSw useFlags)
          (if useStaging then stagingLayout desc.format extent else (0, [], []))), host)
      else (none, host)

/-- A resource `create_resource` returns wraps `bo`, has no fence yet, and has the staging
layout exactly when `pick_memory_type` chose staging; the last call was the successful binding
of `bo` to the memory type `pick_memory_type` picked. -/
theorem createResource_spec {host host' : Host} {bo : Nat} {desc : Description}
    {extent : Extent} {layout : HbmLayout} {useFlags : UInt64} {dmabuf : Int}
    {o : CreateOutcome} {res : Resource}
    (h : createResource host bo desc extent layout useFlags dmabuf o = (some res, host')) :
    ∃ mt useStaging fd,
      pickMemoryType layout.modifier useFlags o.memoryTypes = some (mt, useStaging) ∧
      host'.calls.head? = some (.bindMemory (.real bo) mt fd true) ∧
      res.bo = bo ∧ res.format = desc.format ∧ res.useSw = useSw useFlags ∧
      res.implicitFenceDmabuf = -1 ∧
      (res.stagingSize, res.stagingOffsets, res.stagingStrides) =
        if useStaging then stagingLayout desc.format extent else (0, [], []) := by
  unfold createResource at h
  split at h
  · cases h
  · rename_i mt useStaging hpick
    split at h
    · cases h
    · rename_i fd host₁ _
      split at h
      · rename_i hok
        simp only [Prod.mk.injEq, Option.some.injEq] at h
        obtain ⟨rfl, rfl⟩ := h
        simp only [Bool.and_eq_true] at hok
        exact ⟨mt, useStaging, fd, hpick, by simp [hok.1], rfl, rfl, rfl, rfl, rfl⟩
      · cases h

/-- The memory type a new resource's bo is bound to meets the overlay constraint. A resource
with CPU usage and `staging_size = 0` has a MAPPABLE type, unless its staging layout itself
came out with size `0`. -/
theorem createResource_memory_type {host host' : Host} {bo : Nat} {desc : Description}
    {extent : Extent} {layout : HbmLayout} {useFlags : UInt64} {dmabuf : Int}
    {o : CreateOutcome} {res : Resource}
    (h : createResource host bo desc extent layout useFlags dmabuf o = (some res, host')) :
    ∃ mt fd, host'.calls.head? = some (.bindMemory (.real bo) mt fd true) ∧
      OverlayOk useFlags mt ∧
      (useSw useFlags = true → res.stagingSize = 0 →
        mt &&& hbmMemoryTypeMappable ≠ 0 ∨ (stagingLayout desc.format extent).1 = 0) := by
  obtain ⟨mt, useStaging, fd, hpick, hbind, -, -, -, -, hlayout⟩ := createResource_spec h
  cases mts : o.memoryTypes with
  | none => simp [mts, pickMemoryType] at hpick
  | some mts =>
    rw [mts] at hpick
    obtain ⟨-, hadm, rfl⟩ := pickMemoryType_spec hpick
    refine ⟨mt, fd, hbind, overlayOk_of_admissible hadm, fun hsw hsize => ?_⟩
    by_cases hdir : DirectMap layout.modifier useFlags
    · left; rw [mappable_of_admissible hsw hdir hadm]; decide
    · right
      simp only [memoryTypeFlags_useStaging, hsw, hdir, decide_False, Bool.not_false,
        Bool.and_self, if_true] at hlayout
      rw [← hlayout, hsize]

/-! ## Descriptions, extents and metadata -/

/-- `init_description`, on the format and the modifier. `hasLinear` is hbm's answer to
`hbm_device_has_modifier(..., DRM_FORMAT_MOD_LINEAR)`. -/
def initDescription (fmt : UInt32) (mod useFlags : UInt64) (hasLinear : Bool) : Description :=
  -- translate R8 to INVALID
  let fmt := if useBlob useFlags then drmFormatInvalid else fmt
  let mod :=
    if mod = drmFormatModInvalid ∧ useFlags &&& (boUseLinear ||| boUseCursor) ≠ 0 then
      drmFormatModLinear
    else mod
  let mod :=
    if useSw useFlags ∧ mod = drmFormatModInvalid ∧ preferMap useFlags ∧ hasLinear then
      drmFormatModLinear
    else mod
  ⟨fmt, mod⟩

def initExtent (fmt : UInt32) (width height : Nat) : Extent :=
  if fmt = drmFormatInvalid then .buffer width else .image width height

/-- `struct bo_metadata`, with the fields `init_bo_metadata` fills in. -/
structure BoMetadata where
  totalSize : Nat
  formatModifier : UInt64
  numPlanes : Nat
  offsets : List Nat
  strides : List Nat
  sizes : List Nat
  deriving DecidableEq, Repr

/-- `init_bo_metadata`: plane `i` runs up to the next plane's offset, the last one up to the
layout's size ("assume planes are ordered"); sizes are `uint32_t` differences. -/
def initBoMetadata (layout : HbmLayout) : BoMetadata where
  totalSize := layout.size
  formatModifier := layout.modifier
  numPlanes := layout.planeCount
  offsets := (List.range layout.planeCount).map (layout.offsets.getD · 0)
  strides := (List.range layout.planeCount).map (layout.strides.getD · 0)
  sizes := (List.range layout.planeCount).map fun i =>
    let nextOffset :=
      if i + 1 < layout.planeCount then layout.offsets.getD (i + 1) 0 else layout.size
    (nextOffset + (2 ^ 32 - layout.offsets.getD i 0 % 2 ^ 32)) % 2 ^ 32

/-! ## `hbm_allocate` and `hbm_import` -/

/-- What the external calls of `hbm_allocate` return. -/
structure AllocateOutcome where
  hasLinear : Bool
  bo : Bool
  layout : HbmLayout
  create : CreateOutcome
  deriving DecidableEq, Repr

def hbmAllocate (host : Host) (width height fmt : Nat) (useFlags : UInt64) (mods : List UInt64)
    (o : AllocateOutcome) : Option (Resource × BoMetadata) × Host :=
  let descMod := match mods with
    | [mod] => mod
    | _ => drmFormatModInvalid
  let desc := initDescription fmt.toUInt32 descMod useFlags o.hasLinear
  let extent := initExtent desc.format width height
  let constraint := if 1 < mods.length then some mods else none
  if !o.bo then (none, host.emit (.boCreate none desc extent constraint))
  else
    let (id, host) := host.newBo
    let host := host.emit (.boCreate (some (.real id)) desc extent constraint)
    match createResource host id desc extent o.layout useFlags (-1) o.create with
    | (none, host) => (none, host.emit (.boDestroy (.real id)))
    | (some res, host) => (some (res, initBoMetadata o.layout), host)

/-! ## The modifier hbm is asked for -/

/-- `init_description` keeps the modifier it is given, except that it replaces INVALID by
LINEAR for LINEAR or CURSOR use, or for CPU use that prefers mapping on a device with LINEAR. -/
theorem initDescription_modifier (fmt : UInt32) (mod useFlags : UInt64) (hasLinear : Bool) :
    (initDescription fmt mod useFlags hasLinear).modifier =
      if mod = drmFormatModInvalid ∧ (useFlags &&& (boUseLinear ||| boUseCursor) ≠ 0 ∨
          useSw useFlags = true ∧ preferMap useFlags = true ∧ hasLinear = true) then
        drmFormatModLinear
      else mod := by
  have hne : drmFormatModLinear ≠ drmFormatModInvalid := by decide
  unfold initDescription
  by_cases hmod : mod = drmFormatModInvalid <;>
    by_cases hl : useFlags &&& (boUseLinear ||| boUseCursor) ≠ 0 <;> simp [hmod, hl, hne]

theorem dupForBind_calls (host : Host) (dmabuf : Int) (ok : Bool) :
    ∃ new, (dupForBind host dmabuf ok).2.calls = new ++ host.calls := by
  unfold dupForBind Host.dup Host.openFd
  split_ifs <;> first | exact ⟨[], rfl⟩ | exact ⟨[_], rfl⟩

/-- `create_resource` only adds calls to the log. -/
theorem createResource_calls (host : Host) (bo : Nat) (desc : Description) (extent : Extent)
    (layout : HbmLayout) (useFlags : UInt64) (dmabuf : Int) (o : CreateOutcome) :
    ∃ new, (createResource host bo desc extent layout useFlags dmabuf o).2.calls =
      new ++ host.calls := by
  obtain ⟨new, hnew⟩ := dupForBind_calls host dmabuf o.dup
  unfold createResource
  split
  · exact ⟨[], rfl⟩
  split <;> rename_i heq <;> rw [heq] at hnew <;> dsimp only at hnew
  · exact ⟨new, hnew⟩
  · split_ifs <;> exact ⟨_ :: new, by rw [Host.emit_calls, hnew]; rfl⟩

theorem createResource_mem {host host' : Host} {bo : Nat} {desc : Description} {extent : Extent}
    {layout : HbmLayout} {useFlags : UInt64} {dmabuf : Int} {o : CreateOutcome}
    {r : Option Resource}
    (h : createResource host bo desc extent layout useFlags dmabuf o = (r, host')) {c : Call} (hc : c ∈ host.calls) : c ∈ host'.calls := by
  obtain ⟨new, hnew⟩ := createResource_calls host bo desc extent layout useFlags dmabuf o
  rw [h] at hnew
  exact hnew ▸ List.mem_append_right _ hc

/-- With two or more candidate modifiers, `hbm_allocate` calls `hbm_bo_create_with_constraint`
with the description `init_description` makes from INVALID, and with `mods` as the
constraint. -/
theorem hbmAllocate_boCreate (host : Host) (width height fmt : Nat) (useFlags : UInt64)
    {mods : List UInt64} (o : AllocateOutcome) (hmods : 2 ≤ mods.length) :
    ∃ bo extent, Call.boCreate bo (initDescription fmt.toUInt32 drmFormatModInvalid useFlags
        o.hasLinear) extent (some mods) ∈
      (hbmAllocate host width height fmt useFlags mods o).2.calls := by
  obtain ⟨a, b, rest, rfl⟩ : ∃ a b rest, mods = a :: b :: rest := by
    rcases mods with _ | ⟨a, _ | ⟨b, rest⟩⟩
    · simp at hmods
    · simp at hmods
    · exact ⟨a, b, rest, rfl⟩
  dsimp only [hbmAllocate, Host.newBo]
  rw [if_pos (show 1 < (a :: b :: rest).length by simp)]
  split_ifs
  · exact ⟨_, _, List.mem_cons_self _ _⟩
  · split <;> rename_i heq
    · exact ⟨_, _, List.mem_cons_of_mem _ (createResource_mem heq (List.mem_cons_self _ _))⟩
    · exact ⟨_, _, createResource_mem heq (List.mem_cons_self _ _)⟩

/-- With two or more candidate modifiers, for LINEAR or CURSOR use, or for CPU use that prefers
mapping on a device with LINEAR, `hbm_allocate` asks hbm for a LINEAR bo together with the
caller's list as the constraint: when the list lacks LINEAR the description's modifier is
neither INVALID nor one of the candidates. -/
theorem hbmAllocate_modifier_outside_mods (host : Host) (width height fmt : Nat)
    (useFlags : UInt64) {mods : List UInt64} (o : AllocateOutcome) (hmods : 2 ≤ mods.length)
    (hsub : useFlags &&& (boUseLinear ||| boUseCursor) ≠ 0 ∨
      useSw useFlags = true ∧ preferMap useFlags = true ∧ o.hasLinear = true)
    (hlin : drmFormatModLinear ∉ mods) :
    ∃ bo desc extent, Call.boCreate bo desc extent (some mods) ∈
        (hbmAllocate host width height fmt useFlags mods o).2.calls ∧
      desc.modifier ∉ mods ∧ desc.modifier ≠ drmFormatModInvalid := by
  obtain ⟨bo, extent, hmem⟩ := hbmAllocate_boCreate host width height fmt useFlags o hmods
  refine ⟨bo, _, extent, hmem, ?_⟩
  rw [initDescription_modifier, if_pos ⟨rfl, hsub⟩]
  exact ⟨hlin, by decide⟩

/-- The failing request: an ARGB8888 bo for LINEAR texture use, with the two candidates
I915_FORMAT_MOD_X_TILED and I915_FORMAT_MOD_Y_TILED. -/
theorem hbmAllocate_modifier_outside_mods_tiled :
    ∃ bo desc extent, Call.boCreate bo desc extent (some [0x0100000000000001, 0x0100000000000002]) ∈
        (hbmAllocate ⟨0, 0, []⟩ 64 64 drmFormatArgb8888.toNat (boUseLinear ||| boUseTexture)
          [0x0100000000000001, 0x0100000000000002]
          ⟨true, true, ⟨16384, 0, 1, [0], [256]⟩, ⟨some [hbmMemoryTypeLocal], true, true, true⟩⟩).2.calls ∧
      desc.modifier ∉ [0x0100000000000001, 0x0100000000000002] ∧ desc.modifier ≠ drmFormatModInvalid :=
  hbmAllocate_modifier_outside_mods ⟨0, 0, []⟩ 64 64 drmFormatArgb8888.toNat _
    ⟨true, true, ⟨16384, 0, 1, [0], [256]⟩, ⟨some [hbmMemoryTypeLocal], true, true, true⟩⟩
    (by decide) (.inl (by decide)) (by decide)

/-- `struct drv_import_fd_data`, with the fields `hbm_import` reads. -/
structure ImportData where
  fds : List Int
  strides : List Nat
  offsets : List Nat
  formatModifier : UInt64
  width : Nat
  height : Nat
  format : UInt32
  useFlags : UInt64
  deriving DecidableEq, Repr

/-- `init_layout`: the size is what `lseek(fds[0], 0, SEEK_END)` returns (`seek`, `none` for
`-1`); an image has one plane per leading nonnegative descriptor, at most `DRV_MAX_PLANES`. -/
def initLayout (fmt : UInt32) (data : ImportData) (seek : Option Nat) : Option HbmLayout :=
  match seek with
  | none => none
  | some size =>
    if fmt = drmFormatInvalid then some ⟨size, 0, 0, [], []⟩
    else
      let planeCount := ((data.fds.take drvMaxPlanes).takeWhile (0 ≤ ·)).length
      some ⟨size, data.formatModifier, planeCount,
        (List.range planeCount).map (data.offsets.getD · 0),
        (List.range planeCount).map (data.strides.getD · 0)⟩

/-- What the external calls of `hbm_import` return. -/
structure ImportOutcome where
  hasLinear : Bool
  seek : Option Nat
  bo : Bool
  create : CreateOutcome
  deriving DecidableEq, Repr

def hbmImport (host : Host) (data : ImportData) (o : ImportOutcome) :
    Option (Resource × BoMetadata) × Host :=
  let desc := initDescription data.format data.formatModifier data.useFlags o.hasLinear
  let extent := initExtent desc.format data.width data.height
  match initLayout desc.format data o.seek with
  | none => (none, host)
  | some layout =>
    let fd := data.fds.getD 0 (-1)
    if !o.bo then (none, host.emit (.boCreateWithLayout none desc extent layout fd))
    else
      let (id, host) := host.newBo
      let host := host.emit (.boCreateWithLayout (some (.real id)) desc extent layout fd)
      match createResource host id desc extent layout data.useFlags fd o.create with
      | (none, host) => (none, host.emit (.boDestroy (.real id)))
      | (some res, host) => (some (res, initBoMetadata layout), host)

/-! ## Wrap-around of the staging size -/

/-- NV12 at 55000 × 55000: each plane's size is the exact product of its stride and height, but
the planes total 4537500000 bytes and the `uint32_t` running offset keeps 242532704 of them,
less than plane 0 alone. -/
theorem stagingLayout_nv12_wraps :
    planeStridesAndSizes drmFormatNv12 55000 55000 =
        [(55000, 55000 * 55000), (55000, 55000 * 27500)] ∧
      stagingLayout drmFormatNv12 (.image 55000 55000) =
        (242532704, [0, 3025000000], [55000, 55000]) := by
  decide

/-- NV12 at 32768 × 87381 for CPU reads on a texture, on a device whose only memory type is
LOCAL: the planes total exactly `2 ^ 32` bytes, `staging_size` wraps to `0`, and the resource
reads as one without staging while its bo is bound to memory that is not MAPPABLE. -/
theorem hbmAllocate_staging_size_wraps_to_zero :
    ∃ res meta host, hbmAllocate ⟨0, 0, []⟩ 32768 87381 drmFormatNv12.toNat
        (boUseTexture ||| boUseSwReadRarely) []
        ⟨false, true, ⟨4294967296, drmFormatModInvalid, 2, [0, 2863300608], [32768, 32768]⟩,
          ⟨some [hbmMemoryTypeLocal], true, true, true⟩⟩ = (some (res, meta), host) ∧
      res.useSw = true ∧ res.stagingSize = 0 ∧
      Call.bindMemory (.real res.bo) hbmMemoryTypeLocal (-1) true ∈ host.calls ∧
      hbmMemoryTypeLocal &&& hbmMemoryTypeMappable = 0 :=
  ⟨_, _, _, rfl, by decide, by decide, by decide, by decide⟩

end Minigbm
