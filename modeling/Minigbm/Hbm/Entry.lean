import Minigbm.Ledger
import Minigbm.Hbm.Reimport

/-!
# The bo entry points of `hbm.c`

Built with `DRV_AMDGPU`, `hbm.c` implements the bo functions of `dri.h` on its resources.
`dri_bo_create_with_modifiers` allocates a resource with `hbm_allocate`, guessing
`BO_USE_TEXTURE` when no use flag is given, and `dri_bo_import` imports one with `hbm_import`.
Both then re-import the resource into the driver's device for the bo's GEM handle, and free it
again and return `-1` when there is none. `dri_bo_create` is `dri_bo_create_with_modifiers`
without modifiers, and `dri_bo_release` frees the resource.

A failed call must leave nothing behind. Beside the ledger of descriptors (`Host.Owns`),
`Host.Bos` replays the real hbm bos made and destroyed against `hbmBoLedger`. Every entry point
that returns `-1` has given up each descriptor it obtained and destroyed the hbm bo it made; one
that returns `0` holds the resource's bo, and `dri_bo_release` then gives up everything
(`hbmDriBo_rolls_back`).
-/

namespace Minigbm

/-! ## The entry points -/

/-- What `dri_bo_create_with_modifiers` and `dri_bo_import` return: `0` with `bo->priv`,
`bo->meta` and `bo->handle`, or `-1`. After a failed re-import `bo->priv` still points at the
resource `hbm_free` freed; the model returns none. -/
abbrev BoResult := (Int × Option (Resource × BoMetadata × Nat)) × Host

/-- The end both share, on the resource made: `bo->handle.u32 = hbm_reimport_to_driver(...)`,
and when that is `0`, `hbm_free` and `-1`. -/
def reimportOrFree (host : Host) (created : Option (Resource × BoMetadata))
    (importData : Option ImportData) (o : ReimportOutcome) : BoResult :=
  match created with
  | none => ((-1, none), host)
  | some (res, meta) =>
    let (handle, res, host) := hbmReimportToDriver host res importData o
    if handle = 0 then ((-1, none), hbmFree host res) else ((0, some (res, meta, handle)), host)

/-- `dri_bo_create_with_modifiers` of `hbm.c`: with no use flags it has to guess, and takes
`BO_USE_TEXTURE`. -/
def driBoCreateWithModifiers (host : Host) (width height fmt : Nat) (useFlags : UInt64)
    (mods : List UInt64) (o : AllocateOutcome) (r : ReimportOutcome) : BoResult :=
  let useFlags := if useFlags = 0 then boUseTexture else useFlags
  let (created, host) := hbmAllocate host width height fmt useFlags mods o
  reimportOrFree host created none r

/-- `dri_bo_create` of `hbm.c`. -/
def driBoCreate (host : Host) (width height fmt : Nat) (useFlags : UInt64) (o : AllocateOutcome)
    (r : ReimportOutcome) : BoResult :=
  driBoCreateWithModifiers host width height fmt useFlags [] o r

/-- `dri_bo_import` of `hbm.c`. A dma-buf with neither a modifier nor a first stride is handed to
`drv_prime_bo_import` of `drv_helpers.c`, which is not among the sources: the model returns
`none` there. -/
def driBoImport (host : Host) (data : ImportData) (o : ImportOutcome) (r : ReimportOutcome) :
    Option BoResult :=
  if data.formatModifier = drmFormatModInvalid ∧ data.strides.getD 0 0 = 0 then none
  else
    let (created, host) := hbmImport host data o
    some (reimportOrFree host created (some data) r)

/-- `dri_bo_release` of `hbm.c`. -/
def driBoRelease (host : Host) (res : Resource) : Host := hbmFree host res

/-! ## The hbm bos the glue layer makes -/

/-- The real hbm bo a call makes: `hbm_bo_create`, with or without a constraint, and
`hbm_bo_create_with_layout` that return one. -/
def Call.boMade : Call → Option Nat
  | .boCreate (some (.real id)) _ _ _ | .boCreateWithLayout (some (.real id)) _ _ _ _ => some id
  | _ => none

/-- The real hbm bo a call destroys. -/
def Call.boDestroyed : Call → Option Nat
  | .boDestroy (.real id) => some id
  | _ => none

/-- The ledger of the real hbm bos. -/
def hbmBoLedger : Ledger Call Nat := ⟨Call.boMade, Call.boDestroyed, fun _ _ => false⟩

/-- From `host` to `host'` the glue layer only adds calls, and replayed in the order made they
take the real hbm bos held from `held` to `held'`. -/
def Host.Bos (host host' : Host) (held held' : List Nat) : Prop :=
  ∃ new, host'.calls = new ++ host.calls ∧ hbmBoLedger.replay new.reverse held = some held'

namespace Host.Bos

variable {host h₁ h₂ : Host} {held held₁ held₂ : List Nat}

theorem of_calls (h : h₁.calls = host.calls) (held : List Nat) : host.Bos h₁ held held :=
  ⟨[], by simp [h], rfl⟩

theorem trans (hb₁ : host.Bos h₁ held held₁) (hb₂ : h₁.Bos h₂ held₁ held₂) :
    host.Bos h₂ held held₂ := by
  obtain ⟨new₁, hc₁, hr₁⟩ := hb₁
  obtain ⟨new₂, hc₂, hr₂⟩ := hb₂
  exact ⟨new₂ ++ new₁, by rw [hc₂, hc₁, List.append_assoc],
    by rw [List.reverse_append, Ledger.replay_append, hr₁, Option.some_bind, hr₂]⟩

/-- One more call, replayed against what is held. -/
theorem emit {call : Call} (hb : host.Bos h₁ held held₁)
    (hc : hbmBoLedger.replay [call] held₁ = some held₂) : host.Bos (h₁.emit call) held held₂ := by
  obtain ⟨new, hcalls, hr⟩ := hb
  exact ⟨call :: new, by simp [hcalls],
    by rw [List.reverse_cons, Ledger.replay_append, hr, Option.some_bind, hc]⟩

end Host.Bos

section bos

variable {host h₁ h₂ : Host} {held : List Nat}

theorem Host.openFd_calls (host : Host) (ok : Bool) : (host.openFd ok).2.calls = host.calls := by
  unfold Host.openFd
  split <;> rfl

theorem Host.dup_bos (host : Host) (fd : Int) (ok : Bool) (held : List Nat) :
    host.Bos (host.dup fd ok).2 held held :=
  (Host.Bos.of_calls (Host.openFd_calls host ok) held).emit rfl

theorem dupForBind_bos (host : Host) (dmabuf : Int) (ok : Bool) (held : List Nat) :
    host.Bos (dupForBind host dmabuf ok).2 held held := by
  unfold dupForBind
  split_ifs
  · exact Host.dup_bos host dmabuf ok held
  · exact Host.Bos.of_calls rfl held

/-- `create_resource` makes and destroys no hbm bo. -/
theorem createResource_bos {bo : Nat} {desc : Description} {extent : Extent}
    {layout : HbmLayout} {useFlags : UInt64} {dmabuf : Int} {o : CreateOutcome}
    {r : Option Resource} (h : createResource h₁ bo desc extent layout useFlags dmabuf o = (r, h₂))
    (held : List Nat) : h₁.Bos h₂ held held := by
  unfold createResource at h
  split at h
  · cases h
    exact Host.Bos.of_calls rfl held
  have hd := dupForBind_bos h₁ dmabuf o.dup held
  split at h <;> rename_i heq <;> rw [heq] at hd
  · cases h
    exact hd
  · split_ifs at h <;> cases h <;> exact hd.emit rfl

/-- A fresh bo made by `hbm_bo_create` or `hbm_bo_create_with_layout`, then `create_resource`, as
`hbm_allocate` and `hbm_import` both end: the bo is destroyed again when `create_resource` fails,
and held when it returns a resource, which wraps it. -/
theorem createAndWrap_bos {create : Call} {desc : Description} {extent : Extent}
    {layout : HbmLayout} {useFlags : UInt64} {dmabuf : Int} {o : CreateOutcome}
    {meta : BoMetadata} {r : Option (Resource × BoMetadata)}
    (h : (match createResource (h₁.newBo.2.emit create) h₁.nextBo desc extent layout useFlags
        dmabuf o with
      | (none, host) => (none, host.emit (.boDestroy (.real h₁.nextBo)))
      | (some res, host) => (some (res, meta), host)) = (r, h₂))
    (hmade : create.boMade = some h₁.nextBo) (hdestroyed : create.boDestroyed = none)
    (hfresh : h₁.nextBo ∉ held) :
    h₁.Bos h₂ held ((r.map (·.1.bo)).toList ++ held) := by
  have hc : h₁.Bos (h₁.newBo.2.emit create) held (h₁.nextBo :: held) :=
    (Host.Bos.of_calls rfl held).emit (by
      simp [hbmBoLedger, Ledger.replay, hmade, hdestroyed, hfresh])
  rcases hcr : createResource _ _ _ _ _ _ _ _ with ⟨_ | res, h₃⟩ <;> rw [hcr] at h <;> cases h
  · exact (hc.trans (createResource_bos hcr _)).emit
      (by simp [hbmBoLedger, Ledger.replay, Call.boMade, Call.boDestroyed])
  · obtain ⟨_, _, _, -, -, hres, -⟩ := createResource_spec hcr
    show h₁.Bos _ held (res.bo :: held)
    rw [hres]
    exact hc.trans (createResource_bos hcr _)

theorem hbmAllocate_bos {width height fmt : Nat} {useFlags : UInt64} {mods : List UInt64}
    {o : AllocateOutcome} {r : Option (Resource × BoMetadata)}
    (h : hbmAllocate h₁ width height fmt useFlags mods o = (r, h₂)) (hfresh : h₁.nextBo ∉ held) :
    h₁.Bos h₂ held ((r.map (·.1.bo)).toList ++ held) := by
  unfold hbmAllocate at h
  cases hbo : o.bo
  · simp only [hbo, Bool.not_false, ↓reduceIte, Prod.mk.injEq] at h
    obtain ⟨rfl, rfl⟩ := h
    exact (Host.Bos.of_calls rfl held).emit rfl
  simp only [hbo, Bool.not_true, Bool.false_eq_true, ↓reduceIte] at h
  exact createAndWrap_bos h rfl rfl hfresh

theorem hbmImport_bos {data : ImportData} {o : ImportOutcome} {r : Option (Resource × BoMetadata)}
    (h : hbmImport h₁ data o = (r, h₂)) (hfresh : h₁.nextBo ∉ held) :
    h₁.Bos h₂ held ((r.map (·.1.bo)).toList ++ held) := by
  unfold hbmImport at h
  dsimp only at h
  split at h
  · cases h
    exact Host.Bos.of_calls rfl held
  cases hbo : o.bo
  · simp only [hbo, Bool.not_false, ↓reduceIte, Prod.mk.injEq] at h
    obtain ⟨rfl, rfl⟩ := h
    exact (Host.Bos.of_calls rfl held).emit rfl
  simp only [hbo, Bool.not_true, Bool.false_eq_true, ↓reduceIte] at h
  exact createAndWrap_bos h rfl rfl hfresh

/-- `hbm_reimport_to_driver` makes and destroys no hbm bo, and keeps the resource's bo. -/
theorem hbmReimportToDriver_bos {res : Resource} {importData : Option ImportData}
    {o : ReimportOutcome} {handle : Nat} {res' : Resource}
    (h : hbmReimportToDriver h₁ res importData o = (handle, res', h₂)) (held : List Nat) :
    h₁.Bos h₂ held held ∧ res'.bo = res.bo := by
  have hd : h₁.Bos (reimportDmabuf h₁ res importData o.fd).2 held held := by
    unfold reimportDmabuf
    rcases importData with _ | data
    · exact (Host.Bos.of_calls (Host.openFd_calls h₁ o.fd) held).emit rfl
    · split_ifs
      · exact Host.dup_bos h₁ _ o.fd held
      · exact Host.Bos.of_calls rfl held
  unfold hbmReimportToDriver at h
  generalize reimportDmabuf h₁ res importData o.fd = got at h hd
  obtain ⟨⟨dmabuf, owned⟩, h₃⟩ := got
  dsimp only at h hd
  by_cases hneg : dmabuf < 0
  · rw [if_pos hneg] at h
    cases h
    exact ⟨hd, rfl⟩
  rw [if_neg hneg] at h
  have hp : h₁.Bos (h₃.emit (.primeFdToHandle dmabuf o.handle.isSome)) held held := hd.emit rfl
  split at h <;> (try split_ifs at h) <;> cases h <;>
    first | exact ⟨hp, rfl⟩ | exact ⟨hp.emit rfl, rfl⟩

/-- `hbm_free` destroys the resource's bo. -/
theorem hbmFree_bos (host : Host) (res : Resource) (hbo : res.bo ∈ held) :
    host.Bos (hbmFree host res) held (held.erase res.bo) := by
  have hd : host.Bos (host.emit (.boDestroy (.real res.bo))) held (held.erase res.bo) :=
    (Host.Bos.of_calls rfl held).emit (by
      simp [hbmBoLedger, Ledger.replay, Call.boMade, Call.boDestroyed, hbo])
  unfold hbmFree
  split_ifs
  · exact hd.emit rfl
  · exact hd

end bos

/-! ## Every entry point rolls back -/

/-- What an entry point has to leave, from `host`: when it fails, `-1` with every descriptor it
obtained given up and every hbm bo it made destroyed; when it succeeds, `0` with a GEM handle,
the resource's bo held and, for a resource with CPU use, its fence the one descriptor held, and
nothing held once `dri_bo_release` has freed the resource. -/
def RollsBack (host : Host) : BoResult → Prop
  | ((ret, none), host') => ret = -1 ∧ host.Owns host' [] ∧ host.Bos host' [] []
  | ((ret, some (res, _, handle)), host') =>
    ret = 0 ∧ handle ≠ 0 ∧ host.Bos host' [] [res.bo] ∧
      host.Owns host' (if res.useSw then [res.implicitFenceDmabuf] else []) ∧
      host.Owns (driBoRelease host' res) [] ∧ host.Bos (driBoRelease host' res) [] []

theorem reimportOrFree_rollsBack {host h₁ : Host} {created : Option (Resource × BoMetadata)}
    (hown : host.Owns h₁ [])
    (hbos : host.Bos h₁ [] (created.map (·.1.bo)).toList)
    (hfence : ∀ res meta, created = some (res, meta) → res.implicitFenceDmabuf = -1)
    (importData : Option ImportData) (o : ReimportOutcome) :
    RollsBack host (reimportOrFree h₁ created importData o) := by
  unfold reimportOrFree
  rcases created with _ | ⟨res, meta⟩
  · exact ⟨rfl, hown, hbos⟩
  have hres := hfence res meta rfl
  dsimp only
  generalize hr : hbmReimportToDriver h₁ res importData o = r
  obtain ⟨handle, res', h₂⟩ := r
  obtain ⟨hb₂, hbo⟩ := hbmReimportToDriver_bos hr [res.bo]
  have hkept : host.Bos h₂ [] [res'.bo] := hbo ▸ hbos.trans hb₂
  have hfreeBos : host.Bos (hbmFree h₂ res') [] [] := by
    simpa using hkept.trans (hbmFree_bos h₂ res' (List.mem_singleton_self _))
  have hfreeOwn : host.Owns (hbmFree h₂ res') [] := by
    rcases hbmReimportToDriver_owns hown hr with ⟨rfl, hown₂, -⟩ | ⟨rfl, hown₂, -⟩
    · simpa [hres] using hbmFree_owns hown₂ res' (by omega)
    · simpa [Int.ofNat_nonneg] using hbmFree_owns hown₂
        { res with implicitFenceDmabuf := h₁.nextFd } fun _ => List.mem_cons_self _ _
  dsimp only
  split_ifs with h0
  · exact ⟨rfl, hfreeOwn, hfreeBos⟩
  refine ⟨rfl, h0, hkept, ?_, hfreeOwn, hfreeBos⟩
  -- the fence of a resource with CPU use is the one descriptor kept
  rcases hbmReimportToDriver_owns hown hr with ⟨rfl, hown₂, hsw⟩ | ⟨rfl, hown₂, hsw⟩
  · simpa [hsw h0] using hown₂
  · simpa [hsw] using hown₂

/-- Take any answers of the hbm library and the kernel. A `dri_bo_create_with_modifiers` or
`dri_bo_import` of `hbm.c` that fails returns `-1` having given up every descriptor it obtained
and destroyed the hbm bo it made; one that succeeds returns `0` with a GEM handle and holds the
resource's bo and, for CPU use, its fence, and `dri_bo_release` then gives up everything. -/
theorem hbmDriBo_rolls_back (host : Host) (width height fmt : Nat) (useFlags : UInt64)
    (mods : List UInt64) (o : AllocateOutcome) (data : ImportData) (o' : ImportOutcome)
    (r : ReimportOutcome) :
    RollsBack host (driBoCreateWithModifiers host width height fmt useFlags mods o r) ∧
      ∀ out ∈ driBoImport host data o' r, RollsBack host out := by
  refine ⟨?_, fun out hout => ?_⟩
  · unfold driBoCreateWithModifiers
    generalize (if useFlags = 0 then boUseTexture else useFlags) = flags
    dsimp only
    generalize hc : hbmAllocate host width height fmt flags mods o = c
    obtain ⟨created, h₁⟩ := c
    refine reimportOrFree_rollsBack ?_ ?_ ?_ none r
    · simpa [hc] using hbmAllocate_owns (Host.Owns.refl host) width height fmt flags mods o
    · simpa using hbmAllocate_bos hc (List.not_mem_nil _)
    · exact fun res meta h => Creation.run_fence (show (Creation.run host (.allocate width height
        fmt flags mods o)).1 = some (res, meta) by rw [Creation.run, hc, h])
  · unfold driBoImport at hout
    split_ifs at hout
    · cases hout
    generalize hc : hbmImport host data o' = c at hout
    obtain ⟨created, h₁⟩ := c
    obtain rfl := Option.some.inj hout
    refine reimportOrFree_rollsBack ?_ ?_ ?_ (some data) r
    · simpa [hc] using hbmImport_owns (Host.Owns.refl host) data o'
    · simpa using hbmImport_bos hc (List.not_mem_nil _)
    · exact fun res meta h => Creation.run_fence (show (Creation.run host (.import data o')).1 =
        some (res, meta) by rw [Creation.run, hc, h])

end Minigbm
