import Minigbm.Dri.Driver
import Minigbm.Dri.Import

/-!
# The bo functions of the DRI backend

`dri_bo_create`, `dri_bo_create_with_modifiers` and `dri_bo_import` ask Mesa's image extension
for the bo's image, then fill in `bo->meta` with `import_into_minigbm`; when that returns an
error they destroy the image and return the error. `dri_bo_release` destroys the image, and
`dri_bo_destroy` closes the GEM handle the import obtained.

`boLedger` says what each call makes and releases: the bo's image, the images of its planes,
which go before it, the descriptor the image is exported as, and the GEM handle. Replayed
against it, every entry point leaves nothing held when it fails, and the image and the GEM handle
when it succeeds, which `dri_bo_release` and `dri_bo_destroy` then release (`driBo_settles`).
`dri_bo_map` and `dri_bo_unmap` make and release mappings of the image, which go before it: along
any maps and unmaps the caller keeps to, the image extension holds the caller's mappings, and a
`dri_bo_release` with one left destroys the image under it (`driBo_mappings`).

This rests on `errno`. The functions report a failed call as `-errno`, and the calls of the image
extension need not set it. When it is `0`, a failure is taken for success: the bo handed out
holds no GEM handle, or no image at all, and destroying it releases what it does not hold
(`driBoCreate_errno_zero`).
-/

namespace Minigbm.Dri

/-! ## What the bo functions make and release -/

/-- What the bo functions make and have to release: an image, the descriptor the image is
exported as, the GEM handle, and a mapping of the bo's image. -/
inductive DriBoResource where
  | image (image : DriImageRef)
  | fd (fd : Int)
  | handle (handle : Nat)
  | mapping (vma : Nat)
  deriving DecidableEq, Repr

/-- What a call makes: a request that returns no image, or a `mapImage` that returns no address,
makes nothing. -/
def DriCall.acquires : DriCall → Option DriBoResource
  | .createImage _ _ _ true => some (.image .bo)
  | .exportFd fd => some (.fd fd)
  | .primeFdToHandle handle => some (.handle handle)
  | .fromPlanar i => some (.image (.plane i))
  | .mapImage vma true => some (.mapping vma)
  | _ => none

/-- What a call releases. -/
def DriCall.releases : DriCall → Option DriBoResource
  | .close fd => some (.fd fd)
  | .gemClose handle => some (.handle handle)
  | .destroyImage image => some (.image image)
  | .unmapImage vma => some (.mapping vma)
  | _ => none

/-- The images of the planes and the mappings are made out of the bo's image, and are released
before it. -/
def DriBoResource.uses : DriBoResource → DriBoResource → Bool
  | .image (.plane _), .image .bo => true
  | .mapping _, .image .bo => true
  | _, _ => false

/-- The ledger of the bo functions. -/
def boLedger : Ledger DriCall DriBoResource :=
  ⟨DriCall.acquires, DriCall.releases, DriBoResource.uses⟩

@[simp] theorem DriBoResource.uses_plane (r : DriBoResource) (i : Nat) :
    r.uses (.image (.plane i)) = false := by
  rcases r with (_ | _) | _ | _ | _ <;> rfl

@[simp] theorem DriBoResource.uses_fd (r : DriBoResource) (fd : Int) :
    r.uses (.fd fd) = false := by
  rcases r with (_ | _) | _ | _ | _ <;> rfl

@[simp] theorem DriBoResource.uses_handle (r : DriBoResource) (handle : Nat) :
    r.uses (.handle handle) = false := by
  rcases r with (_ | _) | _ | _ | _ <;> rfl

@[simp] theorem DriBoResource.uses_mapping (r : DriBoResource) (vma : Nat) :
    r.uses (.mapping vma) = false := by
  rcases r with (_ | _) | _ | _ | _ <;> rfl

/-! ## The bo functions -/

/-- `ENOENT` and `ENOSYS`. -/
def enoent : Nat := 2

def enosys : Nat := 38

/-- `drm_to_dri_image_formats`, with the values of the `__DRI_IMAGE_FORMAT_*` names from Mesa's
`dri_interface.h`. -/
def drmToDriImageFormats : List (UInt32 × Int) :=
  [(drmFormatR8, 0x1006), (drmFormatGr88, 0x1007), (drmFormatRgb565, 0x1001),
   (drmFormatXrgb8888, 0x1002), (drmFormatArgb8888, 0x1003), (drmFormatXbgr8888, 0x1005),
   (drmFormatAbgr8888, 0x1004), (drmFormatXrgb2101010, 0x1009),
   (drmFormatXbgr2101010, 0x1010), (drmFormatArgb2101010, 0x100a),
   (drmFormatAbgr2101010, 0x1011), (drmFormatAbgr16161616f, 0x1015)]

/-- `drm_format_to_dri_format`: the DRI format of the table's first entry for the format, `0`
when there is none. -/
def drmFormatToDriFormat (format : UInt32) : Int :=
  ((drmToDriImageFormats.find? (·.1 == format)).map (·.2)).getD 0

/-- `drm_format_to_dri_format` gives `0` exactly for a format outside the table, and
`dri_bo_create` hands that to `createImage` without a check. -/
theorem drmFormatToDriFormat_eq_zero (format : UInt32) :
    drmFormatToDriFormat format = 0 ↔ format ∉ drmToDriImageFormats.map Prod.fst := by
  have hne : ∀ e ∈ drmToDriImageFormats, e.2 ≠ 0 := by decide
  unfold drmFormatToDriFormat
  cases hf : drmToDriImageFormats.find? (·.1 == format) with
  | none =>
    simp only [Option.map_none', Option.getD_none, true_iff, List.mem_map, not_exists, not_and]
    intro e he heq
    simpa [heq] using List.find?_eq_none.1 hf e he
  | some e =>
    have he := List.mem_of_find?_eq_some hf
    simp only [Option.map_some', Option.getD_some, hne e he, false_iff, not_not, List.mem_map]
    exact ⟨e, he, by simpa using List.find?_some hf⟩

/-- `__DRI_IMAGE_USE_SHARE`, `__DRI_IMAGE_USE_SCANOUT`, `__DRI_IMAGE_USE_CURSOR` and
`__DRI_IMAGE_USE_LINEAR`, from `dri_interface.h`. -/
def driImageUseShare : UInt32 := 0x0001

def driImageUseScanout : UInt32 := 0x0002

def driImageUseCursor : UInt32 := 0x0004

def driImageUseLinear : UInt32 := 0x0008

/-- The `dri_use` of `dri_bo_create`: always shared, which Gallium drivers need to hand out the
handle and stride, and scanout, cursor or linear as the use flags ask. -/
def driUse (useFlags : UInt64) : UInt32 :=
  let use := driImageUseShare
  let use := if useFlags &&& boUseScanout ≠ 0 then use ||| driImageUseScanout else use
  let use := if useFlags &&& boUseCursor ≠ 0 then use ||| driImageUseCursor else use
  if useFlags &&& boUseLinear ≠ 0 then use ||| driImageUseLinear else use

/-- What the calls of a bo function answer: whether the request returned an image, the `errno`
it left if not, and what the calls of `import_into_minigbm` answer. -/
structure DriBoAnswers where
  image : Bool
  errno : Int
  img : DriImage

/-- The end the three functions share: the request for the bo's image, returning `failed` when it
returns none, then `ret = import_into_minigbm(dri, bo)`; a nonzero `ret` destroys the image and is
returned. -/
def createAndImport (width height : Nat) (request : ImageRequest) (failed : Int)
    (ans : DriBoAnswers) (bo : DriBo) : Option (Int × DriBo × List DriCall) :=
  if ans.image then
    (importIntoMinigbm ans.img bo).map fun (ret, bo, calls) =>
      let calls := .createImage width height request true :: calls
      if ret ≠ 0 then (ret, bo, calls ++ [.destroyImage .bo]) else (0, bo, calls)
  else some (failed, bo, [.createImage width height request false])

/-- `dri_bo_create`. -/
def driBoCreate (width height : Nat) (format : UInt32) (useFlags : UInt64) (ans : DriBoAnswers)
    (bo : DriBo) : Option (Int × DriBo × List DriCall) :=
  createAndImport width height (.create (drmFormatToDriFormat format) (driUse useFlags))
    (-ans.errno) ans bo

/-- `dri_bo_create_with_modifiers`: `-ENOENT` when the image extension has no
`createImageWithModifiers`. -/
def driBoCreateWithModifiers (dri : DriDriver) (width height : Nat) (format : UInt32)
    (modifiers : List UInt64) (ans : DriBoAnswers) (bo : DriBo) :
    Option (Int × DriBo × List DriCall) :=
  if "createImageWithModifiers" ∈ dri.imageExtension.entries then
    createAndImport width height (.withModifiers (drmFormatToDriFormat format) modifiers)
      (-ans.errno) ans bo
  else some (-(enoent : Int), bo, [])

/-- `dri_bo_import`: with a modifier through `createImageFromDmaBufs2`, whose absence or failure
gives `-ENOSYS`, and without one through `createImageFromFds`. -/
def driBoImport (dri : DriDriver) (data : ImportData) (ans : DriBoAnswers) (bo : DriBo) :
    Option (Int × DriBo × List DriCall) :=
  if data.formatModifier ≠ drmFormatModInvalid then
    if "createImageFromDmaBufs2" ∈ dri.imageExtension.entries then
      createAndImport data.width data.height (.fromDmaBufs2 data.formatModifier)
        (-(enosys : Int)) ans bo
    else some (-(enosys : Int), bo, [])
  else createAndImport data.width data.height .fromFds (-ans.errno) ans bo

/-- `dri_bo_release`: the bo's image is destroyed. `bo->priv` is kept, to choose the destroy. -/
def driBoRelease : List DriCall := [.destroyImage .bo]

/-- `dri_bo_destroy`: the bo's GEM handle is closed. -/
def driBoDestroy (bo : DriBo) : List DriCall := [.gemClose bo.handle]

/-- What a bo function has to leave: nothing held when it fails; when it returns `0`, the bo's
image and its GEM handle, which `dri_bo_release` and `dri_bo_destroy` then release. -/
def Settles : Int × DriBo × List DriCall → Prop
  | (ret, bo, calls) =>
    if ret = 0 then
      boLedger.replay calls [] = some [.handle bo.handle, .image .bo] ∧
        boLedger.replay (calls ++ driBoRelease ++ driBoDestroy bo) [] = some []
    else boLedger.replay calls [] = some []

/-! ## What an import holds -/

theorem replay_planeImageCalls {held : List DriBoResource} (img : DriImage) (i : Nat)
    (hplanes : ∀ j, .image (.plane j) ∉ held) :
    boLedger.replay (planeImageCalls img i) held = some held := by
  unfold planeImageCalls
  split_ifs
  · simp [boLedger, Ledger.replay, DriCall.acquires, DriCall.releases, hplanes]
  · rfl

/-- The plane loop releases every plane image it makes, and when it jumps to `cleanup` the GEM
handle too, unless that is `0`. -/
theorem planeLoop_replay {img : DriImage} {n i : Nat} {bo bo' : DriBo}
    {calls calls' : List DriCall} {exit : Option Int} (held : List DriBoResource)
    (h : planeLoop img n i bo calls = some (exit, bo', calls'))
    (hplanes : ∀ j, .image (.plane j) ∉ held) (hh : .handle img.handle ∈ held) :
    ∃ new, calls' = calls ++ new ∧ boLedger.replay new held =
      some (if exit.isSome ∧ img.handle ≠ 0 then held.erase (.handle img.handle) else held) := by
  induction n generalizing i bo calls with
  | zero =>
    simp only [planeLoop, Option.some.injEq, Prod.mk.injEq] at h
    obtain ⟨rfl, -, rfl⟩ := h
    exact ⟨[], by simp, by simp [Ledger.replay]⟩
  | succ n ih =>
    rcases planeLoop_succ h with ⟨_, _, -, -, -, h⟩ | ⟨-, rfl, -, rfl⟩
    · obtain ⟨new, rfl, hnew⟩ := ih h
      refine ⟨planeImageCalls img i ++ new, by simp, ?_⟩
      rw [Ledger.replay_append, replay_planeImageCalls img i hplanes]
      exact hnew
    · refine ⟨planeImageCalls img i ++ if img.handle ≠ 0 then [.gemClose img.handle] else [],
        by simp, ?_⟩
      rw [Ledger.replay_append, replay_planeImageCalls img i hplanes]
      by_cases h0 : img.handle = 0
      · simp [h0, Ledger.replay]
      · simp [h0, boLedger, Ledger.replay, DriCall.acquires, DriCall.releases, hh]

/-- Against the bo's image, `import_into_minigbm` releases everything it makes but the GEM
handle. It keeps the handle, in `bo->handle`, exactly when it runs through and returns `0`; on
every other path it returns `-errno` or the error of `drmPrimeFDToHandle`, which is `0` only when
`errno` is. -/
theorem importIntoMinigbm_replay {img : DriImage} {bo bo' : DriBo} {ret : Int}
    {calls : List DriCall} (hh : img.handle ≠ 0)
    (h : importIntoMinigbm img bo = some (ret, bo', calls)) :
    (ret = 0 ∧ bo'.handle = img.handle ∧
      boLedger.replay calls [.image .bo] = some [.handle img.handle, .image .bo]) ∨
    ((ret = 0 → img.errno = 0) ∧ boLedger.replay calls [.image .bo] = some [.image .bo]) := by
  rcases importIntoMinigbm_cases h with ⟨rfl, rfl⟩ | ⟨fd, -, rfl, hr⟩ |
    ⟨numPlanes, fd, size, exit, bo₁, -, -, -, -, hloop, hexit⟩
  · exact .inr ⟨fun h0 => by omega, rfl⟩
  · refine .inr ⟨fun h0 => by rcases hr with hr | ⟨hr, hne⟩ <;> omega, ?_⟩
    simp [boLedger, Ledger.replay, DriCall.acquires, DriCall.releases]
  obtain ⟨new, rfl, hnew⟩ := planeLoop_replay [.handle img.handle, .image .bo] hloop
    (by simp) (by simp)
  have hstart : boLedger.replay [.exportFd fd, .primeFdToHandle img.handle, .close fd]
      [.image .bo] = some [.handle img.handle, .image .bo] := by
    simp [boLedger, Ledger.replay, DriCall.acquires, DriCall.releases]
  rw [Ledger.replay_append, hstart, Option.some_bind]
  rcases hexit with rfl | ⟨rfl, rfl, -, -, rfl⟩
  · have := planeLoop_cleanup hloop
    exact .inr ⟨fun h0 => by omega, by simpa [hh] using hnew⟩
  · exact .inl ⟨rfl, planeLoop_handle hloop, by simpa using hnew⟩

theorem replay_release_destroy (bo : DriBo) :
    boLedger.replay (driBoRelease ++ driBoDestroy bo) [.handle bo.handle, .image .bo] =
      some [] := by
  simp [driBoRelease, driBoDestroy, boLedger, Ledger.replay, DriCall.acquires, DriCall.releases,
    DriBoResource.uses]

theorem settles_of_replay {bo : DriBo} {calls : List DriCall}
    (h : boLedger.replay calls [] = some [.handle bo.handle, .image .bo]) :
    Settles (0, bo, calls) := by
  simp only [Settles, ↓reduceIte]
  exact ⟨h, by rw [List.append_assoc, Ledger.replay_append, h, Option.some_bind,
    replay_release_destroy]⟩

/-- The request for the bo's image followed by `import_into_minigbm` settles, unless it returns
`0` after a failure: when the request failed with `failed = 0`, or a call of the import failed
with `errno` at `0`. `dri_bo_release` and `dri_bo_destroy` then release what the bo does not
hold. -/
theorem createAndImport_settles {width height : Nat} {request : ImageRequest} {failed : Int}
    {ans : DriBoAnswers} {bo : DriBo} {r : Int × DriBo × List DriCall}
    (hh : ans.img.handle ≠ 0) (h : createAndImport width height request failed ans bo = some r) :
    Settles r ∨ r.1 = 0 ∧ (failed = 0 ∨ ans.img.errno = 0) ∧
      boLedger.replay (r.2.2 ++ driBoRelease ++ driBoDestroy r.2.1) [] = none := by
  unfold createAndImport at h
  split_ifs at h with himage
  · obtain ⟨⟨ret, bo', calls⟩, himp, rfl⟩ := Option.map_eq_some'.1 h
    have hcons (calls' : List DriCall) :
        boLedger.replay (.createImage width height request true :: calls') [] =
          boLedger.replay calls' [.image .bo] := by
      rw [← List.singleton_append, Ledger.replay_append]
      rfl
    rcases importIntoMinigbm_replay hh himp with ⟨rfl, hbo, hrep⟩ | ⟨hzero, hrep⟩
    · exact .inl (settles_of_replay (by rw [hcons, hrep, hbo]))
    by_cases hret : ret = 0
    · subst hret
      refine .inr ⟨rfl, .inr (hzero rfl), ?_⟩
      simp only [ne_eq, not_true_eq_false, ↓reduceIte]
      rw [List.append_assoc, List.cons_append, hcons, Ledger.replay_append, hrep,
        Option.some_bind]
      rfl
    · refine .inl ?_
      simp only [Settles, hret, ne_eq, not_false_eq_true, ↓reduceIte, List.cons_append, hcons,
        Ledger.replay_append, hrep, Option.some_bind]
      simp [boLedger, Ledger.replay, DriCall.acquires, DriCall.releases]
  · cases h
    by_cases hf : failed = 0
    · refine .inr ⟨hf, .inl hf, ?_⟩
      simp [driBoRelease, driBoDestroy, boLedger, Ledger.replay, DriCall.acquires,
        DriCall.releases]
    · exact .inl (by simp only [Settles, hf, ↓reduceIte]; rfl)

/-! ## The entry points -/

/-- Take any driver, request and answers in which a failed call leaves a nonzero `errno` and the
GEM handle the kernel gives is not `0`. Each of `dri_bo_create`, `dri_bo_create_with_modifiers`
and `dri_bo_import` leaves nothing held when it fails; when it returns `0` it holds the bo's image
and GEM handle, and `dri_bo_release` then `dri_bo_destroy` release both. -/
theorem driBo_settles {dri : DriDriver} {width height : Nat} {format : UInt32}
    {useFlags : UInt64} {modifiers : List UInt64} {data : ImportData} {ans : DriBoAnswers}
    {bo : DriBo} (hh : ans.img.handle ≠ 0) (herr : ans.errno ≠ 0) (herr' : ans.img.errno ≠ 0) :
    (∀ r ∈ driBoCreate width height format useFlags ans bo, Settles r) ∧
      (∀ r ∈ driBoCreateWithModifiers dri width height format modifiers ans bo, Settles r) ∧
      ∀ r ∈ driBoImport dri data ans bo, Settles r := by
  have hsettle {width height : Nat} {request : ImageRequest} {failed : Int} (hf : failed ≠ 0)
      (r) (h : createAndImport width height request failed ans bo = some r) : Settles r :=
    (createAndImport_settles hh h).resolve_right fun ⟨_, h0, _⟩ => h0.elim hf herr'
  have hrefused {ret : Int} (hret : ret ≠ 0) : Settles (ret, bo, []) := by
    simp only [Settles, hret, ↓reduceIte]
    rfl
  refine ⟨fun r h => hsettle (by omega) r h, fun r h => ?_, fun r h => ?_⟩
  · unfold driBoCreateWithModifiers at h
    split_ifs at h
    · exact hsettle (by omega) r h
    · cases h
      exact hrefused (by simp [enoent])
  · unfold driBoImport at h
    split_ifs at h
    · exact hsettle (by simp [enosys]) r h
    · cases h
      exact hrefused (by simp [enosys])
    · exact hsettle (by omega) r h

/-- An ARGB8888 scanout buffer of 64 × 64 and one plane, from a driver whose image extension has
every entry point: made, made with modifiers or imported, the bo settles. -/
theorem driBo_settles_argb8888 :
    ∃ (dri : DriDriver) (data : ImportData) (ans : DriBoAnswers) (bo : DriBo),
      dri = ⟨3, ⟨some driCore, 2, []⟩, ⟨some driDri2, 4, []⟩,
        ⟨some driImage, 12, ["createImageWithModifiers", "createImageFromDmaBufs2"]⟩,
        ⟨some dri2Flush, 4, []⟩⟩ ∧
      data = ⟨[7], [256], [0], drmFormatModLinear, 64, 64, drmFormatArgb8888, boUseScanout⟩ ∧
      ans = ⟨true, 12, ⟨some 0, some 0, some 1, some 8, some 16384, 0, 9,
        fun _ => ⟨false, some 256, some 0⟩, 12⟩⟩ ∧
      bo = ⟨0, 0, fun _ => 0, fun _ => 0, fun _ => 0, 0, 0⟩ ∧
      (driBoCreate 64 64 drmFormatArgb8888 boUseScanout ans bo).map (·.1) = some 0 ∧
      (∀ r ∈ driBoCreate 64 64 drmFormatArgb8888 boUseScanout ans bo, Settles r) ∧
      (∀ r ∈ driBoCreateWithModifiers dri 64 64 drmFormatArgb8888 [drmFormatModLinear] ans bo,
        Settles r) ∧
      ∀ r ∈ driBoImport dri data ans bo, Settles r :=
  ⟨_, _, _, _, rfl, rfl, rfl, rfl, rfl, driBo_settles (by decide) (by decide) (by decide)⟩

/-- A `dri_bo_create` that returns and does not settle is one whose request or import failed with
`errno` at `0`. It returns `0`, and `dri_bo_release` and `dri_bo_destroy` then release what the bo
does not hold: its image when the request failed, its GEM handle when the import did. -/
theorem driBoCreate_errno_zero {width height : Nat} {format : UInt32} {useFlags : UInt64}
    {ans : DriBoAnswers} {bo : DriBo} {r : Int × DriBo × List DriCall}
    (hh : ans.img.handle ≠ 0) (h : driBoCreate width height format useFlags ans bo = some r) :
    Settles r ∨ r.1 = 0 ∧ (ans.errno = 0 ∨ ans.img.errno = 0) ∧
      boLedger.replay (r.2.2 ++ driBoRelease ++ driBoDestroy r.2.1) [] = none :=
  (createAndImport_settles hh h).imp_right fun ⟨h0, hf, hnone⟩ =>
    ⟨h0, hf.imp_left fun hf => by omega, hnone⟩

/-- The stride query of the only plane fails with `errno` at `0`: `dri_bo_create` closes the GEM
handle `9` in `cleanup` yet returns `0`, and `dri_bo_destroy` closes `9` again. -/
theorem driBoCreate_errno_zero_stride :
    ∃ (ans : DriBoAnswers) (bo : DriBo) (r : Int × DriBo × List DriCall),
      ans = ⟨true, 12, ⟨some 0, some 0, some 1, some 8, some 16384, 0, 9,
        fun _ => ⟨false, none, some 0⟩, 0⟩⟩ ∧
      bo = ⟨0, 0, fun _ => 0, fun _ => 0, fun _ => 0, 0, 0⟩ ∧
      driBoCreate 64 64 drmFormatArgb8888 boUseScanout ans bo = some r ∧
      r.1 = 0 ∧ r.2.1.handle = 9 ∧ r.2.2.count (.gemClose 9) = 1 ∧
      boLedger.replay (r.2.2 ++ driBoRelease ++ driBoDestroy r.2.1) [] = none ∧
      (Settles r ∨ r.1 = 0 ∧ (ans.errno = 0 ∨ ans.img.errno = 0) ∧
        boLedger.replay (r.2.2 ++ driBoRelease ++ driBoDestroy r.2.1) [] = none) :=
  ⟨_, _, _, rfl, rfl, rfl, rfl, rfl, rfl, rfl, driBoCreate_errno_zero (by decide) rfl⟩

/-! ## Mapping the bo -/

/-- `dri_bo_map`: `mapImage` of the whole bo into `vma`, which also sets `vma->priv`;
`MAP_FAILED`, here `none`, when it returns `NULL`. -/
def driBoMap (vma : Nat) (ok : Bool) : Option Nat × List DriCall :=
  (if ok then some vma else none, [.mapImage vma ok])

/-- `dri_bo_unmap`: `unmapImage` of `vma->priv`, then `flush_with_flags` on the context. -/
def driBoUnmap (vma : Nat) : Int × List DriCall :=
  (0, [.unmapImage vma, .flush])

/-- What the caller does with a bo it holds: map it into `vma`, with the answer of `mapImage`, or
unmap `vma`. -/
inductive DriMapOp where
  | map (vma : Nat) (ok : Bool)
  | unmap (vma : Nat)
  deriving DecidableEq, Repr

namespace DriMapOp

/-- The calls `dri.c` makes for an operation. -/
def calls : DriMapOp → List DriCall
  | .map vma ok => (driBoMap vma ok).2
  | .unmap vma => (driBoUnmap vma).2

/-- The mappings the caller holds after `ops`, from `vmas`: it keeps the mapping `dri_bo_map`
returns, maps only into a `vma` it does not hold and unmaps only one it holds; `none` when it does
otherwise. The caller, `drv.c`, is not in this repository. -/
def live : List DriMapOp → List Nat → Option (List Nat)
  | [], vmas => some vmas
  | .map vma ok :: ops, vmas =>
    if vma ∈ vmas then none else live ops ((driBoMap vma ok).1.toList ++ vmas)
  | .unmap vma :: ops, vmas => if vma ∈ vmas then live ops (vmas.erase vma) else none

end DriMapOp

section mappings

variable {base : List DriBoResource}

theorem replay_map (hbase : ∀ v, .mapping v ∉ base) {vmas : List Nat} {vma : Nat}
    (hvma : vma ∉ vmas) (ok : Bool) :
    boLedger.replay (DriMapOp.map vma ok).calls (vmas.map .mapping ++ base) =
      some (((driBoMap vma ok).1.toList ++ vmas).map .mapping ++ base) := by
  cases ok <;> simp [DriMapOp.calls, driBoMap, boLedger, Ledger.replay, DriCall.acquires,
    DriCall.releases, hvma, hbase]

theorem replay_unmap {vmas : List Nat} {vma : Nat} (hvma : vma ∈ vmas) :
    boLedger.replay (DriMapOp.unmap vma).calls (vmas.map .mapping ++ base) =
      some ((vmas.erase vma).map .mapping ++ base) := by
  have herase : (vmas.map DriBoResource.mapping ++ base).erase (.mapping vma) =
      (vmas.erase vma).map .mapping ++ base := by
    rw [List.erase_append_left _ (List.mem_map_of_mem _ hvma),
      List.map_erase (fun _ _ => DriBoResource.mapping.inj)]
  simp [DriMapOp.calls, driBoUnmap, boLedger, Ledger.replay, DriCall.acquires, DriCall.releases,
    hvma, herase]

/-- Along operations the caller keeps to, the image extension holds the caller's mappings on top
of what the bo held. -/
theorem replay_mapOps (hbase : ∀ v, .mapping v ∉ base) {ops : List DriMapOp}
    {vmas vmas' : List Nat} (h : DriMapOp.live ops vmas = some vmas') :
    boLedger.replay (ops.flatMap DriMapOp.calls) (vmas.map .mapping ++ base) =
      some (vmas'.map .mapping ++ base) := by
  induction ops generalizing vmas with
  | nil =>
    cases h
    rfl
  | cons op ops ih =>
    rw [List.flatMap_cons, Ledger.replay_append]
    cases op with
    | map vma ok =>
      simp only [DriMapOp.live] at h
      split_ifs at h with hvma
      rw [replay_map hbase hvma ok, Option.some_bind]
      exact ih h
    | unmap vma =>
      simp only [DriMapOp.live] at h
      split_ifs at h with hvma
      rw [replay_unmap hvma, Option.some_bind]
      exact ih h

end mappings

/-- `dri_bo_release` with a mapping left destroys the image the mapping is made of. -/
theorem replay_release_mapped {vmas : List Nat} (hvmas : vmas ≠ []) (handle : Nat) :
    boLedger.replay driBoRelease (vmas.map .mapping ++ [.handle handle, .image .bo]) = none := by
  obtain ⟨v, vs, rfl⟩ := List.exists_cons_of_ne_nil hvmas
  simp [driBoRelease, boLedger, Ledger.replay, DriCall.acquires, DriCall.releases,
    DriBoResource.uses]

/-- Take a bo a bo function returned with `0` holding its image and GEM handle, and any maps and
unmaps of it in which the caller keeps to what `dri_bo_map` returned. The image extension then
holds the caller's mappings on top of the bo's; with none left, `dri_bo_release` and
`dri_bo_destroy` release everything, and with one left, `dri_bo_release` destroys the image under
it. -/
theorem driBo_mappings {bo : DriBo} {calls : List DriCall} {ops : List DriMapOp}
    {vmas : List Nat} (hs : Settles (0, bo, calls)) (hops : DriMapOp.live ops [] = some vmas) :
    boLedger.replay (calls ++ ops.flatMap DriMapOp.calls) [] =
        some (vmas.map .mapping ++ [.handle bo.handle, .image .bo]) ∧
      boLedger.replay (calls ++ ops.flatMap DriMapOp.calls ++ driBoRelease ++ driBoDestroy bo) [] =
        if vmas = [] then some [] else none := by
  have hheld : boLedger.replay calls [] = some [.handle bo.handle, .image .bo] := hs.1
  have hmaps : boLedger.replay (calls ++ ops.flatMap DriMapOp.calls) [] =
      some (vmas.map .mapping ++ [.handle bo.handle, .image .bo]) := by
    rw [Ledger.replay_append, hheld, Option.some_bind]
    exact replay_mapOps (by simp) hops
  refine ⟨hmaps, ?_⟩
  rw [List.append_assoc, Ledger.replay_append, hmaps, Option.some_bind]
  split_ifs with hv
  · subst hv
    exact replay_release_destroy bo
  · rw [Ledger.replay_append, replay_release_mapped hv, Option.none_bind]

/-- An ARGB8888 bo from `dri_bo_create`, mapped into `1`, a map into `2` that returns `NULL`, `1`
unmapped and `3` mapped: the image extension holds the mapping `3`, and `dri_bo_release` now
destroys the image under it. -/
theorem driBo_mappings_left_mapped :
    ∃ (ans : DriBoAnswers) (bo : DriBo) (calls : List DriCall),
      ans = ⟨true, 12, ⟨some 0, some 0, some 1, some 8, some 16384, 0, 9,
        fun _ => ⟨false, some 256, some 0⟩, 12⟩⟩ ∧
      driBoCreate 64 64 drmFormatArgb8888 boUseScanout ans ⟨0, 0, fun _ => 0, fun _ => 0,
        fun _ => 0, 0, 0⟩ = some (0, bo, calls) ∧
      boLedger.replay (calls ++ [.map 1 true, .map 2 false, .unmap 1, .map 3 true].flatMap
          DriMapOp.calls) [] = some ([3].map .mapping ++ [.handle bo.handle, .image .bo]) ∧
      boLedger.replay (calls ++ [.map 1 true, .map 2 false, .unmap 1, .map 3 true].flatMap
          DriMapOp.calls ++ driBoRelease ++ driBoDestroy bo) [] =
        if [3] = [] then some [] else none :=
  ⟨_, _, _, rfl, rfl, driBo_mappings (settles_of_replay rfl) rfl⟩

end Minigbm.Dri
