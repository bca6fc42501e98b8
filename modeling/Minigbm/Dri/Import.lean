import Mathlib.Data.List.Nodup
import Minigbm.Hbm.Metadata

/-!
# `import_into_minigbm` of the DRI backend

`dri.c` fills in `bo->meta` from the `__DRIimage` Mesa made for the bo. It queries the image's
modifier and plane count, exports the image as a dma-buf, takes the dma-buf's size from `lseek`
and turns the descriptor into a GEM handle. It then queries each plane's stride and offset, from
the plane image `fromPlanar` returns or else from the image itself. Plane `i - 1` runs up to
plane `i`'s offset and the last plane up to the end of the dma-buf, with `uint32_t` sizes.

The plane arrays of `struct bo_metadata` hold `DRV_MAX_PLANES` entries. A write outside them is
undefined, and the model returns `none` for it: the image reports more planes than that and the
queries of plane `4` succeed, or it reports no plane at all.

The model follows the C function: it writes into the bo as it goes and returns an `int`, `0` or
`-errno`, with the calls that make or release something. `importIntoMinigbm_cases` says what
each path does. When the failed calls leave a nonzero `errno`, an import that returns `0` has
between one and `DRV_MAX_PLANES` planes, and its sizes are those `init_bo_metadata` gives for
the same offsets and dma-buf size (`importIntoMinigbm_sizes`).
-/

namespace Minigbm.Dri

/-- What `fromPlanar` and the stride and offset queries answer for one plane. -/
structure PlaneAnswer where
  planar : Bool
  stride : Option Int
  offset : Option Int
  deriving DecidableEq, Repr

/-- What the calls of `import_into_minigbm` answer: the image queries (`none` when one fails),
`lseek` to the end of the exported dma-buf (`none` for `-1`), and `drmPrimeFDToHandle` with the
handle it writes. A failed call leaves `errno`. -/
structure DriImage where
  modifierUpper : Option Int
  modifierLower : Option Int
  numPlanes : Option Int
  primeFd : Option Int
  dmabufSize : Option Nat
  primeRet : Int
  handle : Nat
  plane : Nat → PlaneAnswer
  errno : Int

/-- An image of the DRI backend: the bo's own `__DRIimage`, kept in `bo->priv`, or the image of
one of its planes that `fromPlanar` made. -/
inductive DriImageRef where
  | bo
  | plane (i : Nat)
  deriving DecidableEq, Repr

/-- What the bo's image is asked of: `createImage` with a DRI format and use, or
`createImageWithModifiers` with a DRI format and modifiers; on import, `createImageFromDmaBufs2`
with the import's modifier, or `createImageFromFds`. -/
inductive ImageRequest where
  | create (format : Int) (use : UInt32)
  | withModifiers (format : Int) (modifiers : List UInt64)
  | fromDmaBufs2 (modifier : UInt64)
  | fromFds
  deriving DecidableEq, Repr

/-- The calls of the DRI backend's bo functions that make or release something, in the order
they are made: the request for the bo's image and whether it returned one, the export of the
image as a dma-buf descriptor and its `close`, the GEM handle `drmPrimeFDToHandle` gives and its
`drv_gem_close`, the images `fromPlanar` makes of the planes, and the mappings of the bo's image:
`mapImage` into a `vma` and whether it returned an address, `unmapImage`, and the flush of the
context after it. -/
inductive DriCall where
  | createImage (width height : Nat) (request : ImageRequest) (ok : Bool)
  | exportFd (fd : Int)
  | close (fd : Int)
  | primeFdToHandle (handle : Nat)
  | gemClose (handle : Nat)
  | fromPlanar (i : Nat)
  | destroyImage (image : DriImageRef)
  | mapImage (vma : Nat) (ok : Bool)
  | unmapImage (vma : Nat)
  | flush
  deriving DecidableEq, Repr

/-- `bo->meta` as `dri.c` writes it, and `bo->handle`. The plane arrays are
`uint32_t[DRV_MAX_PLANES]`, read by index. -/
structure DriBo where
  formatModifier : UInt64
  numPlanes : Nat
  strides : Nat → Nat
  offsets : Nat → Nat
  sizes : Nat → Nat
  totalSize : Nat
  handle : Nat

/-- An `int` stored into a `uint32_t`. -/
def uint32OfInt (x : Int) : Nat := (x % 2 ^ 32).toNat

/-- The writes of the loop body for plane `i < DRV_MAX_PLANES`: `strides[i]` and `offsets[i]`,
and past plane `0` the `uint32_t` difference `sizes[i - 1] = offsets[i] - offsets[i - 1]`. -/
def DriBo.writePlane (bo : DriBo) (i : Nat) (stride offset : Int) : DriBo :=
  let bo := { bo with strides := Function.update bo.strides i (uint32OfInt stride),
                      offsets := Function.update bo.offsets i (uint32OfInt offset) }
  let size := (bo.offsets i + (2 ^ 32 - bo.offsets (i - 1) % 2 ^ 32)) % 2 ^ 32
  if 0 < i then { bo with sizes := Function.update bo.sizes (i - 1) size } else bo

/-- `fromPlanar` of plane `i`, and the `destroyImage` of the image it made, if it made one. -/
def planeImageCalls (img : DriImage) (i : Nat) : List DriCall :=
  if (img.plane i).planar then [.fromPlanar i, .destroyImage (.plane i)] else []

/-- The plane loop of `import_into_minigbm` from plane `i`, with `n` planes left: `none` when it
runs through, `some ret` when it jumps to `cleanup`. A failed query destroys the plane's image and
closes the GEM handle, unless it is `0`, before returning `ret = -errno`. -/
def planeLoop (img : DriImage) : (n i : Nat) → DriBo → List DriCall →
    Option (Option Int × DriBo × List DriCall)
  | 0, _, bo, calls => some (none, bo, calls)
  | n + 1, i, bo, calls =>
    let answer := img.plane i
    match answer.stride, answer.offset with
    | some stride, some offset =>
      if i < drvMaxPlanes then
        planeLoop img n (i + 1) (bo.writePlane i stride offset) (calls ++ planeImageCalls img i)
      else none
    | _, _ =>
      let gemClose := if img.handle ≠ 0 then [DriCall.gemClose img.handle] else []
      some (some (-img.errno), bo, calls ++ planeImageCalls img i ++ gemClose)

/-- The modifier `import_into_minigbm` sets: `((uint64_t)modifier_upper << 32) |
(uint32_t)modifier_lower` when both queries succeed, `DRM_FORMAT_MOD_INVALID` otherwise. -/
def driFormatModifier (img : DriImage) : UInt64 :=
  match img.modifierUpper, img.modifierLower with
  | some upper, some lower =>
    UInt64.ofNat (upper % 2 ^ 64).toNat <<< 32 ||| UInt64.ofNat (uint32OfInt lower)
  | _, _ => drmFormatModInvalid

/-- `import_into_minigbm`: its return value, `bo->meta` and `bo->handle` as it leaves them, and
the calls made. The second `lseek`, back to the start, has no effect the model keeps. -/
def importIntoMinigbm (img : DriImage) (bo : DriBo) : Option (Int × DriBo × List DriCall) :=
  let bo := { bo with formatModifier := driFormatModifier img }
  match img.numPlanes with
  | none => some (-img.errno, bo, [])
  | some numPlanes =>
    let bo := { bo with numPlanes := (numPlanes % 2 ^ 64).toNat }
    match img.primeFd with
    | none => some (-img.errno, bo, [])
    | some primeFd =>
      match img.dmabufSize with
      | none => some (-img.errno, bo, [.exportFd primeFd, .close primeFd])
      | some dmabufSize =>
        if img.primeRet ≠ 0 then some (img.primeRet, bo, [.exportFd primeFd, .close primeFd])
        else
          let bo := { bo with handle := img.handle }
          match planeLoop img numPlanes.toNat 0 bo
              [.exportFd primeFd, .primeFdToHandle img.handle, .close primeFd] with
          | none => none
          | some (some ret, bo, calls) => some (ret, bo, calls)
          | some (none, bo, calls) =>
            if 0 < numPlanes ∧ numPlanes ≤ drvMaxPlanes then
              let last := numPlanes.toNat - 1
              some (0, { bo with
                sizes := Function.update bo.sizes last
                  (((dmabufSize : Int) - bo.offsets last) % 2 ^ 32).toNat,
                totalSize := dmabufSize }, calls)
            else none

/-! ## One plane, then the loop -/

section writePlane

variable (bo : DriBo) (i : Nat) (stride offset : Int)

@[simp] theorem DriBo.writePlane_offsets :
    (bo.writePlane i stride offset).offsets =
      Function.update bo.offsets i (uint32OfInt offset) := by
  unfold DriBo.writePlane; split_ifs <;> rfl

@[simp] theorem DriBo.writePlane_numPlanes :
    (bo.writePlane i stride offset).numPlanes = bo.numPlanes := by
  unfold DriBo.writePlane; split_ifs <;> rfl

@[simp] theorem DriBo.writePlane_handle :
    (bo.writePlane i stride offset).handle = bo.handle := by
  unfold DriBo.writePlane; split_ifs <;> rfl

theorem DriBo.writePlane_sizes (j : Nat) :
    (bo.writePlane i stride offset).sizes j =
      if 0 < i ∧ j = i - 1 then
        (uint32OfInt offset + (2 ^ 32 - bo.offsets (i - 1) % 2 ^ 32)) % 2 ^ 32
      else bo.sizes j := by
  unfold DriBo.writePlane
  by_cases hi : 0 < i
  · by_cases hj : j = i - 1
    · subst hj
      simp [hi, Function.update_noteq (show i - 1 ≠ i by omega)]
    · simp [hi, hj]
  · simp [hi]

end writePlane

/-- One turn of the loop: plane `i` answers both queries and is below `DRV_MAX_PLANES`, and the
loop goes on with its writes; or a query fails and the loop jumps to `cleanup` with `-errno`,
after releasing the plane image and the GEM handle. -/
theorem planeLoop_succ {img : DriImage} {n i : Nat} {bo bo' : DriBo} {calls calls' : List DriCall}
    {exit : Option Int} (h : planeLoop img (n + 1) i bo calls = some (exit, bo', calls')) :
    (∃ stride offset, (img.plane i).stride = some stride ∧
      (img.plane i).offset = some offset ∧ i < drvMaxPlanes ∧
      planeLoop img n (i + 1) (bo.writePlane i stride offset) (calls ++ planeImageCalls img i) =
        some (exit, bo', calls')) ∨
    (((img.plane i).stride = none ∨ (img.plane i).offset = none) ∧ exit = some (-img.errno) ∧
      bo' = bo ∧ calls' = calls ++ planeImageCalls img i ++
        if img.handle ≠ 0 then [.gemClose img.handle] else []) := by
  simp only [planeLoop] at h
  split at h
  · rename_i stride offset hs ho
    by_cases hi : i < drvMaxPlanes
    · rw [if_pos hi] at h
      exact .inl ⟨stride, offset, hs, ho, hi, h⟩
    · rw [if_neg hi] at h
      cases h
  · rename_i hfail
    simp only [Option.some.injEq, Prod.mk.injEq] at h
    obtain ⟨rfl, rfl, rfl⟩ := h
    refine .inr ⟨?_, rfl, rfl, rfl⟩
    cases hs : (img.plane i).stride <;> cases ho : (img.plane i).offset <;> simp_all

/-- A loop that runs through: every plane it visits is below `DRV_MAX_PLANES` and answered its
offset, which the loop stored; `sizes[j]` is the `uint32_t` difference of the offsets of planes
`j + 1` and `j` once plane `j + 1` is visited; nothing else changes. -/
theorem planeLoop_ok {img : DriImage} {n i : Nat} {bo bo' : DriBo} {calls calls' : List DriCall}
    (h : planeLoop img n i bo calls = some (none, bo', calls')) :
    (0 < n → i + n ≤ drvMaxPlanes) ∧ bo'.numPlanes = bo.numPlanes ∧
      (∀ j < i, bo'.offsets j = bo.offsets j) ∧
      (∀ j, j + 1 < i → bo'.sizes j = bo.sizes j) ∧
      (∀ j, i ≤ j → j < i + n →
        ∃ o, (img.plane j).offset = some o ∧ bo'.offsets j = uint32OfInt o) ∧
      ∀ j, i ≤ j + 1 → j + 1 < i + n →
        bo'.sizes j = (bo'.offsets (j + 1) + (2 ^ 32 - bo'.offsets j % 2 ^ 32)) % 2 ^ 32 := by
  induction n generalizing i bo calls with
  | zero =>
    simp only [planeLoop, Option.some.injEq, Prod.mk.injEq] at h
    obtain ⟨-, rfl, -⟩ := h
    exact ⟨by omega, rfl, fun _ _ => rfl, fun _ _ => rfl, fun j h1 h2 => by omega,
      fun j h1 h2 => by omega⟩
  | succ n ih =>
    rcases planeLoop_succ h with ⟨stride, offset, -, ho, hi, h⟩ | ⟨-, hr, -⟩
    · obtain ⟨hlen, hnum, hoff, hsz, hq, hstep⟩ := ih h
      refine ⟨fun _ => ?_, by rw [hnum, DriBo.writePlane_numPlanes], fun j hj => ?_,
        fun j hj => ?_, fun j hj1 hj2 => ?_, fun j hj1 hj2 => ?_⟩
      · rcases Nat.eq_zero_or_pos n with rfl | hn
        · omega
        · have := hlen hn
          omega
      · rw [hoff j (by omega), DriBo.writePlane_offsets, Function.update_noteq (by omega)]
      · rw [hsz j (by omega), DriBo.writePlane_sizes, if_neg (by omega)]
      · rcases Nat.eq_or_lt_of_le hj1 with heq | hlt
        · subst heq
          exact ⟨offset, ho, by rw [hoff i (by omega), DriBo.writePlane_offsets,
            Function.update_same]⟩
        · exact hq j hlt (by omega)
      · rcases Nat.eq_or_lt_of_le hj1 with rfl | hlt
        · rw [hsz j (by omega), hoff (j + 1) (by omega), hoff j (by omega),
            DriBo.writePlane_sizes, if_pos ⟨by omega, by omega⟩, DriBo.writePlane_offsets,
            Function.update_same, Function.update_noteq (by omega)]
          rfl
        · exact hstep j hlt (by omega)
    · cases hr

/-- A loop that jumps to `cleanup` returns `-errno`. -/
theorem planeLoop_cleanup {img : DriImage} {n i : Nat} {bo bo' : DriBo}
    {calls calls' : List DriCall} {ret : Int}
    (h : planeLoop img n i bo calls = some (some ret, bo', calls')) : ret = -img.errno := by
  induction n generalizing i bo calls with
  | zero => simp [planeLoop] at h
  | succ n ih =>
    rcases planeLoop_succ h with ⟨_, _, -, -, -, h⟩ | ⟨-, hr, -⟩
    · exact ih h
    · exact Option.some.inj hr

/-- The plane loop leaves `bo->handle` alone. -/
theorem planeLoop_handle {img : DriImage} {n i : Nat} {bo bo' : DriBo}
    {calls calls' : List DriCall} {exit : Option Int}
    (h : planeLoop img n i bo calls = some (exit, bo', calls')) : bo'.handle = bo.handle := by
  induction n generalizing i bo calls with
  | zero =>
    simp only [planeLoop, Option.some.injEq, Prod.mk.injEq] at h
    rw [h.2.1]
  | succ n ih =>
    rcases planeLoop_succ h with ⟨_, _, -, -, -, h⟩ | ⟨-, -, rfl, -⟩
    · rw [ih h, DriBo.writePlane_handle]
    · rfl

/-- What `import_into_minigbm` can do: return `-errno` before exporting the image; return
`-errno` or the error of `drmPrimeFDToHandle` once it has exported the image and closed the
descriptor; or run the plane loop on the bo with the image's modifier, plane count and GEM handle,
and return what `cleanup` returns or, when the loop runs through, `0` with the last plane's size
and the total size written. -/
theorem importIntoMinigbm_cases {img : DriImage} {bo bo' : DriBo} {ret : Int}
    {calls : List DriCall} (h : importIntoMinigbm img bo = some (ret, bo', calls)) :
    (ret = -img.errno ∧ calls = []) ∨
    (∃ fd, img.primeFd = some fd ∧ calls = [.exportFd fd, .close fd] ∧
      (ret = -img.errno ∨ ret = img.primeRet ∧ img.primeRet ≠ 0)) ∨
    ∃ numPlanes fd size exit bo₁, img.numPlanes = some numPlanes ∧ img.primeFd = some fd ∧
      img.dmabufSize = some size ∧ img.primeRet = 0 ∧
      planeLoop img numPlanes.toNat 0
        { bo with
          formatModifier := driFormatModifier img
          numPlanes := (numPlanes % 2 ^ 64).toNat
          handle := img.handle }
        [.exportFd fd, .primeFdToHandle img.handle, .close fd] = some (exit, bo₁, calls) ∧
      (exit = some ret ∨ exit = none ∧ ret = 0 ∧ 0 < numPlanes ∧ numPlanes ≤ drvMaxPlanes ∧
        bo' = { bo₁ with
          sizes := Function.update bo₁.sizes (numPlanes.toNat - 1)
            (((size : Int) - bo₁.offsets (numPlanes.toNat - 1)) % 2 ^ 32).toNat
          totalSize := size }) := by
  unfold importIntoMinigbm at h
  split at h
  · cases h
    exact .inl ⟨rfl, rfl⟩
  rename_i numPlanes hnp
  split at h
  · cases h
    exact .inl ⟨rfl, rfl⟩
  rename_i fd hfd
  split at h
  · cases h
    exact .inr (.inl ⟨fd, hfd, rfl, .inl rfl⟩)
  rename_i size hsize
  by_cases hret : img.primeRet = 0
  swap
  · simp only [hret, ne_eq, not_false_eq_true, ↓reduceIte, Option.some.injEq] at h
    cases h
    exact .inr (.inl ⟨fd, hfd, rfl, .inr ⟨rfl, hret⟩⟩)
  simp only [hret, ne_eq, not_true_eq_false, ↓reduceIte] at h
  split at h
  · cases h
  · rename_i ret₁ bo₁ calls₁ hloop
    cases h
    exact .inr (.inr ⟨numPlanes, fd, size, _, _, hnp, hfd, hsize, hret, hloop, .inl rfl⟩)
  · rename_i bo₁ calls₁ hloop
    split_ifs at h with hrange
    cases h
    exact .inr (.inr ⟨numPlanes, fd, size, _, _, hnp, hfd, hsize, hret, hloop,
      .inr ⟨rfl, rfl, hrange.1, hrange.2, rfl⟩⟩)

/-! ## The metadata of a successful import -/

/-- The `hbm_layout` with the plane count, offsets and size of a DRI bo. -/
def DriBo.toLayout (bo : DriBo) : HbmLayout :=
  ⟨bo.totalSize, bo.formatModifier, bo.numPlanes, (List.range bo.numPlanes).map bo.offsets,
    (List.range bo.numPlanes).map bo.strides⟩

/-- When the failed calls leave a nonzero `errno`, an `import_into_minigbm` that returns `0` has
between one and `DRV_MAX_PLANES` planes, the image's plane count, the dma-buf's size and the
offsets the planes answered; its sizes are those `init_bo_metadata` gives for these offsets and
this size. -/
theorem importIntoMinigbm_sizes {img : DriImage} {bo bo' : DriBo} {calls : List DriCall}
    (herr : img.errno ≠ 0) (h : importIntoMinigbm img bo = some (0, bo', calls)) :
    1 ≤ bo'.numPlanes ∧ bo'.numPlanes ≤ drvMaxPlanes ∧
      img.numPlanes = some (bo'.numPlanes : Int) ∧
      img.dmabufSize = some bo'.totalSize ∧
      (∀ i < bo'.numPlanes,
        ∃ o, (img.plane i).offset = some o ∧ bo'.offsets i = uint32OfInt o) ∧
      ∀ i < bo'.numPlanes, bo'.sizes i = (initBoMetadata bo'.toLayout).sizes.getD i 0 := by
  rcases importIntoMinigbm_cases h with ⟨hr, -⟩ | ⟨_, -, -, hr | ⟨hr, hne⟩⟩ |
    ⟨numPlanes, _, size, exit, bo1, hnp, -, hsize, -, hloop, hexit⟩
  · omega
  · omega
  · exact absurd hr.symm hne
  rcases hexit with rfl | ⟨rfl, -, hpos, hle, rfl⟩
  · have := planeLoop_cleanup hloop
    omega
  obtain ⟨-, hnum, -, -, hq, hstep⟩ := planeLoop_ok hloop
  have hmax : drvMaxPlanes = 4 := rfl
  have hn : bo1.numPlanes = numPlanes.toNat := by
    rw [hnum]
    show (numPlanes % 2 ^ 64).toNat = _
    omega
  refine ⟨by rw [hn]; omega, by rw [hn]; omega, by rw [hnp, hn]; congr 1; omega, hsize,
    fun i hi => hq i (Nat.zero_le i) (by rw [hn] at hi; omega), fun i hi => ?_⟩
  rw [initBoMetadata_sizes_getD _ hi]
  simp only [DriBo.toLayout, HbmLayout.planeEnd, getD_map_range hi] at hi ⊢
  split_ifs with hnext
  · rw [getD_map_range hnext, Function.update_noteq (by omega)]
    exact hstep i (by omega) (by omega)
  · rw [show i = numPlanes.toNat - 1 by omega, Function.update_same]
    omega

/-- A two-plane image whose planes start at `0` and `4096` in a dma-buf of `6144` bytes:
`import_into_minigbm` returns `0`, with sizes `4096` and `2048`. -/
theorem importIntoMinigbm_sizes_two_planes :
    ∃ (img : DriImage) (bo' : DriBo) (calls : List DriCall),
      img = ⟨some 0, some 0, some 2, some 8, some 6144, 0, 9,
        fun i => ⟨false, some 64, some (if i = 0 then 0 else 4096)⟩, 12⟩ ∧
      importIntoMinigbm img ⟨0, 0, fun _ => 0, fun _ => 0, fun _ => 0, 0, 0⟩ =
        some (0, bo', calls) ∧
      bo'.sizes 0 = 4096 ∧ bo'.sizes 1 = 2048 ∧
      1 ≤ bo'.numPlanes ∧ bo'.numPlanes ≤ drvMaxPlanes ∧
      img.numPlanes = some (bo'.numPlanes : Int) ∧
      img.dmabufSize = some bo'.totalSize ∧
      (∀ i < bo'.numPlanes,
        ∃ o, (img.plane i).offset = some o ∧ bo'.offsets i = uint32OfInt o) ∧
      ∀ i < bo'.numPlanes, bo'.sizes i = (initBoMetadata bo'.toLayout).sizes.getD i 0 :=
  ⟨_, _, _, rfl, rfl, rfl, rfl, importIntoMinigbm_sizes (by decide) rfl⟩

end Minigbm.Dri
