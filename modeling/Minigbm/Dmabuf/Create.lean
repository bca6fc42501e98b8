import Minigbm.Hbm.Resource

/-!
# `dmabuf_bo_create2` of the dma-buf heap backend

`dmabuf_internals.cpp` first resolves the flexible Android formats to formats in its table
(`dmabufResolveFormatAndUseFlags_supported`). It checks a request against that table, then
consumes the use flags it understands one group at a time with `unmask64`. A group it finds sets
what the request needs: the CMA heap, a stride aligned to 32, a size alignment. A request with
any bit left over is refused with `-EINVAL`, and a `test_only` request stops there with `0`. An
accepted request is laid out by `drv_bo_from_format` and allocated from the chosen heap with
`DMA_HEAP_IOCTL_ALLOC`, for `ALIGN(total_size, size_align)` bytes.

Each `unmask64` clears its group whether or not it was set, so the bits left over are the flags
outside the union of the groups, in every order of the groups (`consumeUseFlags_residual`,
`unmaskAll_perm`). The order does decide the size alignment: the codec group comes after the
camera group and sets `size_align` back to `4096`. minigbm's `ALIGN` is the mask form
`((A) + (B) - 1) & ~((B) - 1)`, which rounds up only for a power of two `B` and whose mask is a
32-bit word here; `heapDataLen` keeps both.
-/

namespace Minigbm

/-! ## Bits of a use-flag word -/

theorem uint64_ext {a b : UInt64} (h : ∀ i < 64, a.toBitVec.getLsbD i = b.toBitVec.getLsbD i) :
    a = b :=
  UInt64.eq_of_toBitVec_eq (BitVec.eq_of_getLsbD_eq fun i => h i i.2)

theorem uint64_getLsbD_and (a b : UInt64) (i : Nat) :
    (a &&& b).toBitVec.getLsbD i = (a.toBitVec.getLsbD i && b.toBitVec.getLsbD i) :=
  BitVec.getLsbD_and ..

/-- Clearing bits that are not set changes nothing. -/
theorem uint64_and_not_of_and_eq_zero {v m : UInt64} (h : v &&& m = 0) : v &&& ~~~m = v := by
  refine uint64_ext fun i hi => ?_
  have hi' : (v &&& m).toBitVec.getLsbD i = (0 : UInt64).toBitVec.getLsbD i := by rw [h]
  rw [uint64_getLsbD_and, show (0 : UInt64).toBitVec = 0#64 from rfl, BitVec.getLsbD_zero] at hi'
  show (v.toBitVec &&& ~~~m.toBitVec).getLsbD i = _
  simp only [BitVec.getLsbD_and, BitVec.getLsbD_not, hi, decide_True, Bool.true_and]
  revert hi'
  cases v.toBitVec.getLsbD i <;> cases m.toBitVec.getLsbD i <;> decide

/-- Clearing two masks one after the other clears their union. -/
theorem uint64_and_not_and_not (v a b : UInt64) : v &&& ~~~a &&& ~~~b = v &&& ~~~(a ||| b) := by
  refine uint64_ext fun i hi => ?_
  show (v.toBitVec &&& ~~~a.toBitVec &&& ~~~b.toBitVec).getLsbD i =
    (v.toBitVec &&& ~~~(a.toBitVec ||| b.toBitVec)).getLsbD i
  simp only [BitVec.getLsbD_and, BitVec.getLsbD_not, BitVec.getLsbD_or, hi, decide_True,
    Bool.true_and, Bool.not_or, Bool.and_assoc]

/-- Clearing a mask leaves the bits of a disjoint mask as they were. -/
theorem uint64_and_not_and_of_disjoint (v : UInt64) {a c : UInt64} (h : a &&& c = 0) :
    v &&& ~~~a &&& c = v &&& c := by
  refine uint64_ext fun i hi => ?_
  have hi' : (a &&& c).toBitVec.getLsbD i = (0 : UInt64).toBitVec.getLsbD i := by rw [h]
  rw [uint64_getLsbD_and, show (0 : UInt64).toBitVec = 0#64 from rfl, BitVec.getLsbD_zero] at hi'
  show (v.toBitVec &&& ~~~a.toBitVec &&& c.toBitVec).getLsbD i =
    (v.toBitVec &&& c.toBitVec).getLsbD i
  simp only [BitVec.getLsbD_and, BitVec.getLsbD_not, hi, decide_True, Bool.true_and]
  revert hi'
  cases a.toBitVec.getLsbD i <;> cases c.toBitVec.getLsbD i <;> simp

/-- Bits kept and bits cleared by a 32-bit mask add up to the word. -/
theorem land_compl_add_land {x m : Nat} (hx : x < 2 ^ 32) (hm : m < 2 ^ 32) :
    (x &&& (2 ^ 32 - 1 - m)) + (x &&& m) = x := by
  have hdis : (BitVec.ofNat 32 x &&& ~~~BitVec.ofNat 32 m) &&&
      (BitVec.ofNat 32 x &&& BitVec.ofNat 32 m) = 0#32 := by
    apply BitVec.eq_of_getLsbD_eq
    intro i
    simp only [BitVec.getLsbD_and, BitVec.getLsbD_not, BitVec.getLsbD_zero, i.2, decide_True,
      Bool.true_and]
    cases (BitVec.ofNat 32 x).getLsbD i <;> cases (BitVec.ofNat 32 m).getLsbD i <;> rfl
  have hjoin : (BitVec.ofNat 32 x &&& ~~~BitVec.ofNat 32 m) |||
      (BitVec.ofNat 32 x &&& BitVec.ofNat 32 m) = BitVec.ofNat 32 x := by
    apply BitVec.eq_of_getLsbD_eq
    intro i
    simp only [BitVec.getLsbD_and, BitVec.getLsbD_not, BitVec.getLsbD_or, i.2, decide_True,
      Bool.true_and]
    cases (BitVec.ofNat 32 x).getLsbD i <;> cases (BitVec.ofNat 32 m).getLsbD i <;> rfl
  have h := congrArg BitVec.toNat ((BitVec.add_eq_or_of_and_eq_zero _ _ hdis).trans hjoin)
  rwa [BitVec.toNat_add_of_and_eq_zero hdis, BitVec.toNat_and, BitVec.toNat_and, BitVec.toNat_not,
    BitVec.toNat_ofNat, BitVec.toNat_ofNat, Nat.mod_eq_of_lt hx, Nat.mod_eq_of_lt hm] at h

/-! ## The request checks -/

def einval : Nat := 22

/-- `unmask64`: clear the bits of `mask` in `*value`, and say whether any of them was set. -/
def unmask64 (value mask : UInt64) : Bool × UInt64 :=
  if value &&& mask != 0 then (true, value &&& ~~~mask) else (false, value)

/-- Both branches of `unmask64` leave `value &&& ~mask`. -/
theorem unmask64_eq (value mask : UInt64) :
    unmask64 value mask = (value &&& mask != 0, value &&& ~~~mask) := by
  unfold unmask64
  split_ifs with h
  · rw [h]
  · simp only [bne_iff_ne, ne_eq, not_not] at h
    rw [h, uint64_and_not_of_and_eq_zero h]
    rfl

def supportedFormats : List UInt32 :=
  [drmFormatArgb8888, drmFormatXrgb8888, drmFormatAbgr8888, drmFormatXbgr8888, drmFormatRgb565,
    drmFormatBgr888, drmFormatNv12, drmFormatYvu420, drmFormatYvu420Android, drmFormatR8]

def isFormatSupported (format : UInt32) : Bool := supportedFormats.contains format

/-! ## Resolving a format before the request -/

/-- The flexible Android formats of minigbm's `drv.h`. -/
def drmFormatFlexImplementationDefined : UInt32 := fourccCode '9' '9' '9' '8'
def drmFormatFlexYCbCr420888 : UInt32 := fourccCode '9' '9' '9' '9'

/-- `dmabuf_resolve_format_and_use_flags`: an implementation-defined format is NV12 for a camera
and XBGR8888 otherwise, flexible YCbCr 4:2:0 is NV12, and BGR565 is RGB565; the use flags are
kept. -/
def dmabufResolveFormatAndUseFlags (format : UInt32) (useFlags : UInt64) : UInt32 × UInt64 :=
  if format = drmFormatFlexImplementationDefined then
    (if useFlags &&& (boUseCameraRead ||| boUseCameraWrite) ≠ 0 then drmFormatNv12
      else drmFormatXbgr8888, useFlags)
  else if format = drmFormatFlexYCbCr420888 then (drmFormatNv12, useFlags)
  else if format = drmFormatBgr565 then (drmFormatRgb565, useFlags)
  else (format, useFlags)

/-- Every format the backend resolves to is one `dmabuf_bo_create2` has in its table, so that a
resolved request is refused only for its use flags. -/
theorem dmabufResolveFormatAndUseFlags_supported {format : UInt32} (useFlags : UInt64)
    (h : format ∈ supportedFormats ∨ format = drmFormatFlexImplementationDefined ∨
      format = drmFormatFlexYCbCr420888 ∨ format = drmFormatBgr565) :
    (dmabufResolveFormatAndUseFlags format useFlags).1 ∈ supportedFormats ∧
      (dmabufResolveFormatAndUseFlags format useFlags).2 = useFlags := by
  unfold dmabufResolveFormatAndUseFlags
  refine ⟨?_, by split_ifs <;> rfl⟩
  split_ifs with h1 h2 h3 h4
  · exact (by decide : drmFormatNv12 ∈ supportedFormats)
  · exact (by decide : drmFormatXbgr8888 ∈ supportedFormats)
  · exact (by decide : drmFormatNv12 ∈ supportedFormats)
  · exact (by decide : drmFormatRgb565 ∈ supportedFormats)
  · simpa [h1, h3, h4] using h

/-- `BO_USE_SW_MASK` of minigbm's `drv.h`: every CPU use, and front rendering. -/
def boUseSwMask : UInt64 :=
  boUseSwReadOften ||| boUseSwReadRarely ||| boUseSwWriteOften ||| boUseSwWriteRarely |||
    boUseFrontRendering

/-- `(ALIGN(width, 32) * ALIGN(height, 16) * 3) >> 1`, a camera frame of 12 bits per pixel,
computed in `uint32_t`. -/
def cameraSizeAlign (width height : Nat) : Nat :=
  align width 32 * align height 16 % 2 ^ 32 * 3 % 2 ^ 32 / 2

/-- The locals of `dmabuf_bo_create2` once its use flags are consumed: `stride`, `force_cma`,
`size_align`, `sw_mask` and what is left of `l_use_flags`. -/
structure UsePlan where
  stride : Nat
  forceCma : Bool
  sizeAlign : Nat
  swMask : Bool
  residual : UInt64
  deriving DecidableEq, Repr

/-- The `unmask64` steps of `dmabuf_bo_create2`, in its order. `stride` is an `int` in the source;
its value is a `uint32_t` stride, and its arithmetic is written in 32 bits. -/
def consumeUseFlags (width height : Nat) (format : UInt32) (useFlags : UInt64) : UsePlan :=
  let stride := drvStrideFromFormat format width 0
  let (swMask, l) := unmask64 useFlags boUseSwMask
  let (scanout, l) := unmask64 l boUseScanout
  let (camera, l) := unmask64 l (boUseCameraRead ||| boUseCameraWrite)
  let stride := if camera then align stride 32 else stride
  let sizeAlign := if camera && decide (1 < height) then cameraSizeAlign width height else 4096
  let (codec, l) := unmask64 l (boUseHwVideoDecoder ||| boUseHwVideoEncoder)
  let stride := if codec then align stride 32 else stride
  let sizeAlign := if codec then 4096 else sizeAlign
  let (_, l) := unmask64 l (boUseCursor ||| boUseTexture ||| boUseRendering)
  ⟨stride, scanout || camera || codec, sizeAlign, swMask, l⟩

/-- The groups `consumeUseFlags` clears, in its order. -/
def dmabufUseGroups : List UInt64 :=
  [boUseSwMask, boUseScanout, boUseCameraRead ||| boUseCameraWrite,
    boUseHwVideoDecoder ||| boUseHwVideoEncoder, boUseCursor ||| boUseTexture ||| boUseRendering]

/-- Every use flag `dmabuf_bo_create2` accepts. -/
def dmabufUseMask : UInt64 :=
  boUseSwMask ||| boUseScanout ||| boUseCameraRead ||| boUseCameraWrite ||| boUseHwVideoDecoder |||
    boUseHwVideoEncoder ||| boUseCursor ||| boUseTexture ||| boUseRendering

/-- The use flags `consumeUseFlags` does not recognise are those outside `dmabufUseMask`. -/
theorem consumeUseFlags_residual (width height : Nat) (format : UInt32) (useFlags : UInt64) :
    (consumeUseFlags width height format useFlags).residual = useFlags &&& ~~~dmabufUseMask := by
  unfold consumeUseFlags
  simp only [unmask64_eq, uint64_and_not_and_not]
  exact congrArg (fun mask => useFlags &&& ~~~mask) (by decide)

/-- The `unmask64` steps over `groups`, in their order. -/
def unmaskAll (groups : List UInt64) (useFlags : UInt64) : UInt64 :=
  groups.foldl (fun l mask => (unmask64 l mask).2) useFlags

/-- In whatever order the groups are cleared, the same bits are left. -/
theorem unmaskAll_perm {groups groups' : List UInt64} (h : groups.Perm groups')
    (useFlags : UInt64) : unmaskAll groups useFlags = unmaskAll groups' useFlags := by
  refine h.foldl_eq' (fun a _ b _ l => ?_) useFlags
  simp only [unmask64_eq, uint64_and_not_and_not]
  rw [show b ||| a = a ||| b from UInt64.eq_of_toBitVec_eq (BitVec.or_comm _ _)]

/-- `dmabuf_bo_create2` clears the groups of `dmabufUseGroups` in their order. -/
theorem consumeUseFlags_residual_unmaskAll (width height : Nat) (format : UInt32)
    (useFlags : UInt64) :
    (consumeUseFlags width height format useFlags).residual =
      unmaskAll dmabufUseGroups useFlags := by
  unfold consumeUseFlags
  simp only [unmask64_eq, unmaskAll, dmabufUseGroups, List.foldl]

/-- The CMA heap is forced by a scanout, camera or codec use. -/
theorem consumeUseFlags_forceCma (width height : Nat) (format : UInt32) (useFlags : UInt64) :
    (consumeUseFlags width height format useFlags).forceCma =
      (useFlags &&& boUseScanout != 0 || useFlags &&& (boUseCameraRead ||| boUseCameraWrite) != 0 ||
        useFlags &&& (boUseHwVideoDecoder ||| boUseHwVideoEncoder) != 0) := by
  unfold consumeUseFlags
  simp (disch := decide) only [unmask64_eq, uint64_and_not_and_not,
    uint64_and_not_and_of_disjoint]

/-- The size alignment is `4096`, but for a camera use on more than one row and no codec use. -/
theorem consumeUseFlags_sizeAlign (width height : Nat) (format : UInt32) (useFlags : UInt64) :
    (consumeUseFlags width height format useFlags).sizeAlign =
      if useFlags &&& (boUseHwVideoDecoder ||| boUseHwVideoEncoder) != 0 then 4096
      else if (useFlags &&& (boUseCameraRead ||| boUseCameraWrite) != 0) && decide (1 < height)
        then cameraSizeAlign width height
      else 4096 := by
  unfold consumeUseFlags
  simp (disch := decide) only [unmask64_eq, uint64_and_not_and_not,
    uint64_and_not_and_of_disjoint]

/-! ## The layout and the allocation -/

/-- Modelled from the spec: `subsample_stride` of `drv_helpers.c`, which is not among the
sources. The chroma planes of the YV12 formats take half the luma stride, rounded up and aligned
to the stride alignment. -/
def subsampleStride (stride strideAlign : Nat) (format : UInt32) (plane : Nat) : Nat :=
  if plane ≠ 0 ∧ (format = drmFormatYvu420 ∨ format = drmFormatYvu420Android) then
    align (divRoundUp stride 2) strideAlign
  else stride

/-- Modelled from the spec: `drv_bo_from_format` of `drv_helpers.c`, which is not among the
sources. Plane `p` gets `subsample_stride` of the stride and `drv_size_from_format` bytes, one
after the other in a `uint32_t` running offset (`layoutPlanes`) whose final value is
`total_size`. The modifier stays as `calloc` left it, LINEAR. -/
def drvBoFromFormat (stride strideAlign alignedHeight : Nat) (format : UInt32) : BoMetadata :=
  let planes := (List.range (drvNumPlanesFromFormat format)).map fun plane =>
    let stride := subsampleStride stride strideAlign format plane
    (stride, drvSizeFromFormat format stride alignedHeight plane)
  let laid := layoutPlanes planes 0
  ⟨laid.2, drmFormatModLinear, planes.length, laid.1.map Prod.fst, laid.1.map Prod.snd,
    planes.map Prod.snd⟩

/-- `heap_data.len = ALIGN(bo->meta.total_size, size_align)`. minigbm's `ALIGN(A, B)` is
`((A) + (B) - 1) & ~((B) - 1)`: the sum is a `uint64_t`, and the mask is the complement of a
`uint32_t`, zero-extended, so that it also clears the upper 32 bits of the sum. -/
def heapDataLen (totalSize sizeAlign : Nat) : Nat :=
  (totalSize + sizeAlign + 2 ^ 64 - 1) % 2 ^ 64 &&& (2 ^ 32 - 1 - (sizeAlign + 2 ^ 32 - 1) % 2 ^ 32)

/-- Whenever `total_size + size_align` fits in 32 bits, `ALIGN` does not go below `total_size`,
for any size alignment: the mask clears at most the bits of `size_align - 1`. -/
theorem le_heapDataLen {totalSize sizeAlign : Nat} (hpos : 0 < sizeAlign)
    (hfit : totalSize + sizeAlign ≤ 2 ^ 32) : totalSize ≤ heapDataLen totalSize sizeAlign := by
  have hsum : (totalSize + sizeAlign + 2 ^ 64 - 1) % 2 ^ 64 = totalSize + (sizeAlign - 1) := by
    rw [show totalSize + sizeAlign + 2 ^ 64 - 1 = totalSize + (sizeAlign - 1) + 2 ^ 64 by omega,
      Nat.add_mod_right, Nat.mod_eq_of_lt (by omega)]
  have hmask : (sizeAlign + 2 ^ 32 - 1) % 2 ^ 32 = sizeAlign - 1 := by
    rw [show sizeAlign + 2 ^ 32 - 1 = sizeAlign - 1 + 2 ^ 32 by omega, Nat.add_mod_right,
      Nat.mod_eq_of_lt (by omega)]
  have hpart := land_compl_add_land (x := totalSize + (sizeAlign - 1)) (m := sizeAlign - 1)
    (by omega) (by omega)
  have hlow : (totalSize + (sizeAlign - 1)) &&& (sizeAlign - 1) ≤ sizeAlign - 1 :=
    Nat.and_le_right
  rw [heapDataLen, hsum, hmask]
  omega

inductive Heap where
  | system
  | cma
  deriving DecidableEq, Repr

/-- The `DMA_HEAP_IOCTL_ALLOC` request of `dmabuf_bo_create2`: the heap whose descriptor it goes
to, the layout written into `bo->meta` just before, and `heap_data.len`. -/
structure HeapAlloc where
  heap : Heap
  meta : BoMetadata
  len : Nat
  deriving DecidableEq, Repr

/-- The heap chosen, `drv_bo_from_format` with a stride alignment of `1`, and `heap_data`. -/
def heapData (plan : UsePlan) (height : Nat) (format : UInt32) : HeapAlloc :=
  let heap := if plan.forceCma then Heap.cma else .system
  let meta := drvBoFromFormat plan.stride 1 height format
  ⟨heap, meta, heapDataLen meta.totalSize plan.sizeAlign⟩

/-- What `dmabuf_bo_create2` returns once it has made the ioctl: `-errno` if the ioctl failed. -/
def allocRet : Option Nat → Int
  | none => 0
  | some errno => -(errno : Int)

/-- `dmabuf_bo_create2`, for `hasDriver` saying that `dmabuf_get_or_init_driver` opened the
system heap and `allocErrno` the ioctl's failure. Returns the return value and the allocation
request made, if any. After a successful ioctl the bo keeps one duplicate of the buffer's
descriptor per plane; a failure to name the buffer is only logged. -/
def dmabufBoCreate2 (width height : Nat) (format : UInt32) (useFlags : UInt64)
    (testOnly hasDriver : Bool) (allocErrno : Option Nat) : Int × Option HeapAlloc :=
  if !isFormatSupported format then (-(einval : Int), none)
  else if !hasDriver then (-(einval : Int), none)
  else
    let plan := consumeUseFlags width height format useFlags
    if plan.residual != 0 then (-(einval : Int), none)
    else if testOnly then (0, none)
    else (allocRet allocErrno, some (heapData plan height format))

/-- With the driver initialised, a request is accepted when its format is in the table and it
has no use flag outside `dmabufUseMask`. -/
theorem dmabufBoCreate2_eq (width height : Nat) (format : UInt32) (useFlags : UInt64)
    (testOnly : Bool) (allocErrno : Option Nat) :
    dmabufBoCreate2 width height format useFlags testOnly true allocErrno =
      if format ∈ supportedFormats ∧ useFlags &&& ~~~dmabufUseMask = 0 then
        if testOnly then (0, none)
        else (allocRet allocErrno, some (heapData (consumeUseFlags width height format useFlags)
          height format))
      else (-(einval : Int), none) := by
  simp only [dmabufBoCreate2, consumeUseFlags_residual]
  by_cases hf : format ∈ supportedFormats <;> by_cases hu : useFlags &&& ~~~dmabufUseMask = 0 <;>
    simp [isFormatSupported, hf, hu]

/-- An allocation is made only for an accepted request, and it is `heap_data` of the use plan. -/
theorem dmabufBoCreate2_alloc {width height : Nat} {format : UInt32} {useFlags : UInt64}
    {allocErrno : Option Nat} {alloc : HeapAlloc}
    (h : (dmabufBoCreate2 width height format useFlags false true allocErrno).2 = some alloc) :
    (format ∈ supportedFormats ∧ useFlags &&& ~~~dmabufUseMask = 0) ∧
      alloc = heapData (consumeUseFlags width height format useFlags) height format := by
  rw [dmabufBoCreate2_eq] at h
  by_cases hacc : format ∈ supportedFormats ∧ useFlags &&& ~~~dmabufUseMask = 0
  · simp only [if_pos hacc, Bool.false_eq_true, ↓reduceIte] at h
    exact ⟨hacc, (Option.some.inj h).symm⟩
  · simp only [if_neg hacc, reduceCtorEq] at h

-- A camera size alignment is rarely a power of two, and the mask form of `ALIGN` does not round
-- up to it: R8 at 1 × 2 for a camera lays out 64 bytes and asks for 256, below its 768-byte frame.
example : (dmabufBoCreate2 1 2 drmFormatR8 boUseCameraWrite false true none).2.map
    (fun alloc => (alloc.meta.totalSize, alloc.len, cameraSizeAlign 1 2)) =
      some (64, 256, 768) := by
  decide

-- The 32-bit mask drops the carry of the sum: R8 at 65535 × 65537 lays out `2 ^ 32 - 1` bytes and
-- asks for none.
example : (dmabufBoCreate2 65535 65537 drmFormatR8 0 false true none).2.map
    (fun alloc => (alloc.meta.totalSize, alloc.len)) = some (2 ^ 32 - 1, 0) := by
  decide

/-- Take any format and any use flags, with the driver initialised. The request is refused with
`-EINVAL` before any ioctl exactly when the format is not in the table or a use flag is outside
`dmabufUseMask`, and clearing the groups in any order leaves what `dmabuf_bo_create2` leaves.
A `test_only` call returns `0` exactly when the real call makes the ioctl, and the ioctl goes to
the CMA heap exactly for a scanout, camera or codec use. -/
theorem dmabufBoCreate2_verdict (width height : Nat) (format : UInt32) (useFlags : UInt64)
    (allocErrno : Option Nat) :
    (∀ testOnly, ((dmabufBoCreate2 width height format useFlags testOnly true allocErrno).1 =
          -(einval : Int) ∧
        (dmabufBoCreate2 width height format useFlags testOnly true allocErrno).2 = none) ↔
        format ∉ supportedFormats ∨ useFlags &&& ~~~dmabufUseMask ≠ 0) ∧
      (∀ groups, groups.Perm dmabufUseGroups →
        unmaskAll groups useFlags = (consumeUseFlags width height format useFlags).residual) ∧
      ((dmabufBoCreate2 width height format useFlags true true allocErrno).1 = 0 ↔
        (dmabufBoCreate2 width height format useFlags false true allocErrno).2.isSome) ∧
      ∀ alloc,
        (dmabufBoCreate2 width height format useFlags false true allocErrno).2 = some alloc →
        (alloc.heap = .cma ↔ useFlags &&& boUseScanout ≠ 0 ∨
          useFlags &&& (boUseCameraRead ||| boUseCameraWrite) ≠ 0 ∨
          useFlags &&& (boUseHwVideoDecoder ||| boUseHwVideoEncoder) ≠ 0) := by
  refine ⟨fun testOnly => ?_, fun groups hg => ?_, ?_, fun alloc h => ?_⟩
  · rw [dmabufBoCreate2_eq]
    by_cases hacc : format ∈ supportedFormats ∧ useFlags &&& ~~~dmabufUseMask = 0
    · rw [if_pos hacc]
      cases testOnly <;> simp [hacc, einval]
    · rw [if_neg hacc]
      exact iff_of_true ⟨rfl, rfl⟩ (not_and_or.mp hacc)
  · rw [consumeUseFlags_residual_unmaskAll]
    exact unmaskAll_perm hg useFlags
  · simp only [dmabufBoCreate2_eq]
    by_cases hacc : format ∈ supportedFormats ∧ useFlags &&& ~~~dmabufUseMask = 0
    · simp [hacc]
    · simp [hacc, einval]
  · obtain ⟨-, rfl⟩ := dmabufBoCreate2_alloc h
    simp only [heapData, consumeUseFlags_forceCma]
    split_ifs with hcma <;> simp_all [or_assoc]

/-- A scanout texture in ARGB8888 at 64 × 64: clearing the scanout group first leaves what
`dmabuf_bo_create2` leaves, and the allocation goes to the CMA heap. -/
theorem dmabufBoCreate2_verdict_scanout :
    unmaskAll [boUseScanout, boUseSwMask, boUseCameraRead ||| boUseCameraWrite,
        boUseHwVideoDecoder ||| boUseHwVideoEncoder,
        boUseCursor ||| boUseTexture ||| boUseRendering]
        (boUseScanout ||| boUseTexture) =
      (consumeUseFlags 64 64 drmFormatArgb8888 (boUseScanout ||| boUseTexture)).residual ∧
    ∃ alloc, dmabufBoCreate2 64 64 drmFormatArgb8888 (boUseScanout ||| boUseTexture) false true
        none = (0, some alloc) ∧ alloc.heap = .cma := by
  have hv := dmabufBoCreate2_verdict 64 64 drmFormatArgb8888 (boUseScanout ||| boUseTexture) none
  exact ⟨hv.2.1 _ (by decide), _, rfl, (hv.2.2.2 _ rfl).2 (.inl (by decide))⟩

/-! ## The size alignment of a codec buffer -/

/-- A codec use sets `size_align` back to `4096` after the camera group has set it, so with a
codec flag the heap length is `total_size` aligned to `4096`, for a camera use as well. -/
theorem dmabufBoCreate2_codec_size_align (width height : Nat) (format : UInt32)
    (useFlags : UInt64) (allocErrno : Option Nat) {alloc : HeapAlloc}
    (hcodec : useFlags &&& (boUseHwVideoDecoder ||| boUseHwVideoEncoder) ≠ 0)
    (h : (dmabufBoCreate2 width height format useFlags false true allocErrno).2 = some alloc) :
    alloc.len = heapDataLen alloc.meta.totalSize 4096 := by
  obtain ⟨-, rfl⟩ := dmabufBoCreate2_alloc h
  simp only [heapData, consumeUseFlags_sizeAlign, bne_iff_ne, ne_eq, hcodec, not_false_eq_true,
    ↓reduceIte]

/-- NV12 at 640 × 481 for a camera feeding a video decoder: `total_size` is 462080 bytes and the
heap is asked for 462848, less than the 476160-byte camera frame the camera rule aligns to. -/
theorem dmabufBoCreate2_nv12_camera_decoder :
    ∃ alloc, dmabufBoCreate2 640 481 drmFormatNv12 (boUseCameraWrite ||| boUseHwVideoDecoder)
        false true none = (0, some alloc) ∧
      alloc.len = heapDataLen alloc.meta.totalSize 4096 ∧ alloc.meta.totalSize = 462080 ∧
      alloc.len = 462848 ∧ alloc.len < cameraSizeAlign 640 481 :=
  ⟨_, rfl, dmabufBoCreate2_codec_size_align 640 481 drmFormatNv12
    (boUseCameraWrite ||| boUseHwVideoDecoder) none (by decide) rfl, rfl, rfl,
    by decide⟩

end Minigbm
