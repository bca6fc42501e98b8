import Minigbm.Hbm.Resource

/-!
# Mapping, synchronising and unmapping

`hbm_map` maps a resource's bo directly when `staging_size` is `0`, and otherwise creates a
staging bo of `staging_size` bytes, binds it to the staging memory type, maps it and keeps it in
`vma->priv`; `hbm_unmap` undoes either. `hbm_sync` waits on the resource's implicit fence, then
flushes or invalidates the bo, or copies plane `plane` between the bo and the staging bo.
`dri_bo_map` syncs plane `0` after a mapping for reading, `dri_bo_unmap` before unmapping one
for writing.

A call that does not return has result `none`: the poll loop is still waiting when the results
given for `poll` run out, or the staging path meets a NULL `vma->priv`.
-/

namespace Minigbm

/-- `struct hbm`, with what the glue layer keeps besides the device: the staging memory type. -/
structure Hbm where
  stagingMt : UInt32
  deriving DecidableEq, Repr

/-- `struct vma`, with the fields the glue layer reads or writes. -/
structure Vma where
  priv : Option HbmBo
  mapFlags : UInt32
  mapStrides : List Nat
  deriving DecidableEq, Repr

/-- `struct rectangle`. -/
structure Rectangle where
  x : Nat
  y : Nat
  width : Nat
  height : Nat
  deriving DecidableEq, Repr

/-- `struct mapping`. -/
structure Mapping where
  vma : Vma
  rect : Rectangle
  deriving DecidableEq, Repr

/-- minigbm's `struct bo`, with what `dri_bo_map` reads: the size in its metadata and the
resource in `priv`. -/
structure Bo where
  width : Nat
  height : Nat
  priv : Resource
  deriving DecidableEq, Repr

def pollIn : Nat := 0x1
def pollOut : Nat := 0x4
def eintr : Nat := 4
def eagain : Nat := 11

/-! ## `wait_resource` -/

/-- The event `wait_resource` waits for: POLLOUT for a write mapping, POLLIN otherwise. -/
def waitEvents (mapFlags : UInt32) : Nat := if mapFlags &&& boMapWrite ≠ 0 then pollOut else pollIn

/-- The loop of `wait_resource`, over what successive `poll`s return: a positive result ends it
with whether `revents` has the event, zero or an error other than EINTR and EAGAIN with
`false`, and EINTR or EAGAIN polls again. -/
def pollLoop (host : Host) (fd : Int) (events : Nat) : List PollResult → Option Bool × Host
  | [] => (none, host)
  | r :: rs =>
    let host := host.emit (.poll fd events r)
    if 0 < r.ret then (some (r.revents &&& events != 0), host)
    else if r.ret = 0 ∨ ¬(r.errno = eintr ∨ r.errno = eagain) then (some false, host)
    else pollLoop host fd events rs

def waitResource (host : Host) (res : Resource) (mapFlags : UInt32) (polls : List PollResult) :
    Option Bool × Host :=
  if res.implicitFenceDmabuf < 0 then (some true, host)
  else pollLoop host res.implicitFenceDmabuf (waitEvents mapFlags) polls

/-- A poll the loop repeats: a failure with `errno` EINTR or EAGAIN. -/
def PollResult.Retry (r : PollResult) : Prop := r.ret < 0 ∧ (r.errno = eintr ∨ r.errno = eagain)

instance : DecidablePred PollResult.Retry := fun _ => inferInstanceAs (Decidable (_ ∧ _))

/-- The host after polls with these results, most recent first in its log. -/
def Host.polled (host : Host) (fd : Int) (events : Nat) (polls : List PollResult) : Host :=
  { host with calls := (polls.map (Call.poll fd events)).reverse ++ host.calls }

theorem Host.polled_cons (host : Host) (fd : Int) (events : Nat) (r : PollResult)
    (rs : List PollResult) :
    host.polled fd events (r :: rs) = (host.emit (.poll fd events r)).polled fd events rs := by
  simp [Host.polled, Host.emit]

theorem Host.emit_polled (host : Host) (fd : Int) (events : Nat) (pre : List PollResult)
    (r : PollResult) :
    (host.polled fd events pre).emit (.poll fd events r) = host.polled fd events (pre ++ [r]) := by
  simp [Host.polled, Host.emit]

theorem pollLoop_retry {host : Host} {fd : Int} {events : Nat} {r : PollResult}
    (rs : List PollResult) (hr : r.Retry) :
    pollLoop host fd events (r :: rs) = pollLoop (host.emit (.poll fd events r)) fd events rs := by
  obtain ⟨hneg, herr⟩ := hr
  simp only [pollLoop, if_neg (show ¬0 < r.ret by omega), herr, not_true_eq_false, or_false,
    if_neg (show ¬r.ret = 0 by omega)]

/-- A poll the loop does not repeat ends it: with whether `revents` has the event after a
positive result, and with `false` after any other. -/
theorem pollLoop_stop {host : Host} {fd : Int} {events : Nat} {r : PollResult}
    (rs : List PollResult) (hr : ¬r.Retry) :
    pollLoop host fd events (r :: rs) =
      (some (decide (0 < r.ret) && r.revents &&& events != 0), host.emit (.poll fd events r)) := by
  simp only [pollLoop]
  by_cases hpos : 0 < r.ret
  · simp [hpos]
  · have : r.ret = 0 ∨ ¬(r.errno = eintr ∨ r.errno = eagain) := by
      simp only [PollResult.Retry, not_and] at hr
      by_cases h0 : r.ret = 0
      · exact .inl h0
      · exact .inr (hr (by omega))
    rw [if_neg hpos, if_pos this, decide_eq_false hpos, Bool.false_and]

/-- Over retries the loop polls again; it stops at the first other result. -/
theorem pollLoop_append {host : Host} {fd : Int} {events : Nat} {pre : List PollResult}
    (hpre : ∀ p ∈ pre, p.Retry) (rest : List PollResult) :
    pollLoop host fd events (pre ++ rest) =
      pollLoop (host.polled fd events pre) fd events rest := by
  induction pre generalizing host with
  | nil => rfl
  | cons p pre ih =>
    rw [List.cons_append, pollLoop_retry _ (hpre p (List.mem_cons_self _ _)),
      ih fun q hq => hpre q (List.mem_cons_of_mem _ hq), Host.polled_cons]

/-- `wait_resource` over any sequence of poll results. With no fence it returns true and polls
nothing. Otherwise it polls again exactly after a failure with EINTR or EAGAIN and stops at the
first other result, returning whether that result is positive with the requested event (POLLOUT
for a write mapping, POLLIN otherwise) in `revents`; while only retries come, it keeps
waiting. -/
theorem waitResource_retries_until_outcome (host : Host) (res : Resource) (mapFlags : UInt32)
    (polls : List PollResult) :
    (res.implicitFenceDmabuf < 0 → waitResource host res mapFlags polls = (some true, host)) ∧
    (0 ≤ res.implicitFenceDmabuf →
      (∀ pre r rest, (∀ p ∈ pre, p.Retry) → ¬r.Retry → polls = pre ++ r :: rest →
        waitResource host res mapFlags polls =
          (some (decide (0 < r.ret) && r.revents &&& waitEvents mapFlags != 0),
            host.polled res.implicitFenceDmabuf (waitEvents mapFlags) (pre ++ [r]))) ∧
      ((∀ p ∈ polls, p.Retry) → waitResource host res mapFlags polls =
          (none, host.polled res.implicitFenceDmabuf (waitEvents mapFlags) polls))) := by
  refine ⟨fun hneg => if_pos hneg, fun hfence => ⟨?_, fun hall => ?_⟩⟩
  · rintro pre r rest hpre hr rfl
    rw [waitResource, if_neg (by omega), pollLoop_append hpre, pollLoop_stop _ hr,
      Host.emit_polled]
  · rw [waitResource, if_neg (by omega)]
    conv_lhs => rw [← List.append_nil polls, pollLoop_append hall]
    rfl

/-- A read mapping of a resource fenced by descriptor `5`: an EINTR, then POLLIN. -/
theorem waitResource_retries_until_outcome_eintr :
    waitResource ⟨0, 0, []⟩ ⟨0, drmFormatArgb8888, true, 5, 0, [], []⟩ boMapRead
        [⟨-1, 0, eintr⟩, ⟨1, pollIn, 0⟩] =
      (some true, ⟨0, 0, [.poll 5 pollIn ⟨1, pollIn, 0⟩, .poll 5 pollIn ⟨-1, 0, eintr⟩]⟩) :=
  ((waitResource_retries_until_outcome ⟨0, 0, []⟩ ⟨0, drmFormatArgb8888, true, 5, 0, [], []⟩
    boMapRead _).2 (by decide)).1 [⟨-1, 0, eintr⟩] ⟨1, pollIn, 0⟩ [] (by decide) (by decide)
    rfl

/-! ## `hbm_sync` -/

/-- What the external calls of `hbm_sync` return: the `poll` results, and whether the copy
succeeds. -/
structure SyncOutcome where
  polls : List PollResult
  copy : Bool
  deriving DecidableEq, Repr

/-- The copy `hbm_sync` asks hbm for, from `src` to `dst`: bytes `[x, x + width)` of a blob, or
the rectangle of an image plane at its place in the staging layout. The offset is computed as
in C: `bpp * rect->x` in 32 bits, the sum in 64. -/
def syncCopy (res : Resource) (rect : Rectangle) (plane : Nat) (dst src : HbmBo) (ok : Bool) :
    Call :=
  if res.format = drmFormatInvalid then .copyBuffer dst src ⟨rect.x, rect.x, rect.width⟩ ok
  else
    let bpp := drvBytesPerPixelFromFormat res.format plane
    let stride := res.stagingStrides.getD plane 0
    let offset :=
      (res.stagingOffsets.getD plane 0 + stride * rect.y + bpp * rect.x % 2 ^ 32) % 2 ^ 64
    .copyBufferImage dst src ⟨offset, stride, plane, rect.x, rect.y, rect.width, rect.height⟩ ok

def hbmSync (host : Host) (res : Resource) (mapping : Mapping) (plane : Nat) (flush : Bool)
    (o : SyncOutcome) : Option Bool × Host :=
  match waitResource host res mapping.vma.mapFlags o.polls with
  | (some true, host) =>
    if res.stagingSize = 0 then
      (some true, host.emit (if flush then .boFlush (.real res.bo) else .boInvalidate (.real res.bo)))
    else
      -- create_staging requires HBM_MEMORY_TYPE_COHERENT: no flush or invalidate
      match mapping.vma.priv with
      | none => (none, host)
      | some staging =>
        let call := if flush then syncCopy res mapping.rect plane (.real res.bo) staging o.copy
          else syncCopy res mapping.rect plane staging (.real res.bo) o.copy
        (some o.copy, host.emit call)
  | (waited, host) => (waited, host)

/-- Once a poll result other than a retry comes, the loop returns. -/
theorem pollLoop_isSome {host : Host} {fd : Int} {events : Nat} {polls : List PollResult}
    (hend : ∃ r ∈ polls, ¬r.Retry) : (pollLoop host fd events polls).1.isSome := by
  induction polls generalizing host with
  | nil =>
    obtain ⟨r, hr, -⟩ := hend
    cases hr
  | cons r rs ih =>
    by_cases hr : r.Retry
    · obtain ⟨r', hr', hnr⟩ := hend
      rw [pollLoop_retry rs hr]
      exact ih ⟨r', (List.mem_cons.1 hr').resolve_left (by rintro rfl; exact hnr hr), hnr⟩
    · rw [pollLoop_stop rs hr]
      rfl

/-- `hbm_sync` returns once its wait ends, unless the mapping of a staged resource has no staging
bo; whatever the copy reports. -/
theorem hbmSync_isSome (host : Host) (res : Resource) (mapping : Mapping) (plane : Nat)
    (flush : Bool) {o : SyncOutcome} (hend : ∃ r ∈ o.polls, ¬r.Retry)
    (hpriv : res.stagingSize ≠ 0 → mapping.vma.priv ≠ none) :
    (hbmSync host res mapping plane flush o).1.isSome := by
  have hw : (waitResource host res mapping.vma.mapFlags o.polls).1.isSome := by
    unfold waitResource
    split_ifs
    · rfl
    · exact pollLoop_isSome hend
  unfold hbmSync
  rcases hr : waitResource host res mapping.vma.mapFlags o.polls with ⟨_ | _ | _, host₁⟩
  · rw [hr] at hw
    cases hw
  · rfl
  · dsimp only
    by_cases h0 : res.stagingSize = 0
    · rw [if_pos h0]
      rfl
    · rw [if_neg h0]
      cases hp : mapping.vma.priv
      · exact absurd hp (hpriv h0)
      · rfl

/-! ## `hbm_map` and `hbm_unmap` -/

/-- What the external calls of `hbm_map` return: whether `create_staging` yields a bo, whether
`hbm_bo_bind_memory` succeeds, and whether `hbm_bo_map` yields a pointer. -/
structure MapOutcome where
  staging : Bool
  bind : Bool
  map : Bool
  deriving DecidableEq, Repr

/-- The description `create_staging` gives hbm. -/
def stagingDescription : Description := ⟨drmFormatInvalid, drmFormatModInvalid⟩

/-- `hbm_map`: the mapped bo (`none` for NULL) and the vma. -/
def hbmMap (host : Host) (hbm : Hbm) (res : Resource) (vma : Vma) (o : MapOutcome) :
    Option HbmBo × Vma × Host :=
  if res.stagingSize = 0 then
    (if o.map then some (.real res.bo) else none, vma, host.emit (.boMap (.real res.bo) o.map))
  else if !o.staging then
    (none, vma, host.emit (.boCreate none stagingDescription (.buffer res.stagingSize) none))
  else
    let fresh := host.newBo
    let staging := HbmBo.staging fresh.1
    let host := (fresh.2.emit (.boCreate (some staging) stagingDescription
      (.buffer res.stagingSize) none)).emit (.bindMemory staging hbm.stagingMt (-1) o.bind)
    if !o.bind then (none, vma, host.emit (.boDestroy staging))
    else
      let host := host.emit (.boMap staging o.map)
      if !o.map then (none, vma, host.emit (.boDestroy staging))
      else (some staging, { vma with priv := some staging }, host)

def hbmUnmap (host : Host) (res : Resource) (vma : Vma) : Option Host :=
  if res.stagingSize = 0 then some (host.emit (.boUnmap (.real res.bo)))
  else
    match vma.priv with
    | none => none
    | some staging => some ((host.emit (.boUnmap staging)).emit (.boDestroy staging))

/-- A staged mapping `hbm_map` returns keeps its staging bo in `vma->priv`. -/
theorem hbmMap_priv {host : Host} {hbm : Hbm} {res : Resource} {vma vma' : Vma} {o : MapOutcome}
    {ptr : HbmBo} {host' : Host} (h : hbmMap host hbm res vma o = (some ptr, vma', host'))
    (h0 : res.stagingSize ≠ 0) : vma'.priv ≠ none := by
  unfold hbmMap at h
  simp only [h0, if_false] at h
  split_ifs at h <;> cases h
  simp

/-! ## `hbm_create` and the staging memory type -/

/-- What the external calls of `hbm_create` return: whether `get_device_id` finds the render
node, whether `hbm_device_create` and `calloc` succeed, and the memory types
`pick_staging_memory_type` sees for its one-byte probe bo (`none` when the probe bo or the list
cannot be allocated). -/
structure HbmCreateOutcome where
  deviceId : Bool
  device : Bool
  calloc : Bool
  stagingMemoryTypes : Option (List UInt32)
  deriving DecidableEq, Repr

/-- `hbm_create`, `none` for NULL. It runs before any resource exists, and the probe bo it
creates and destroys is not in the log. -/
def hbmCreate (o : HbmCreateOutcome) : Option Hbm :=
  if !o.deviceId || !o.device || !o.calloc then none
  else
    let stagingMt := pickStagingMemoryType o.stagingMemoryTypes
    if stagingMt = 0 then none else some ⟨stagingMt⟩

/-- Every memory type `hbm_map` binds a bo to is the staging memory type. -/
theorem hbmMap_binds (host : Host) (hbm : Hbm) (res : Resource) (vma : Vma) (o : MapOutcome) :
    ∃ new, (hbmMap host hbm res vma o).2.2.calls = new ++ host.calls ∧
      ∀ bo mt fd ok, Call.bindMemory bo mt fd ok ∈ new → mt = hbm.stagingMt := by
  unfold hbmMap
  split_ifs
  all_goals first
    | exact ⟨[_], rfl, fun _ _ _ _ h => by simp at h⟩
    | exact ⟨[_, _, _], rfl, fun _ _ _ _ h => by simp at h; exact h.2.1⟩
    | exact ⟨[_, _, _, _], rfl, fun _ _ _ _ h => by simp at h; exact h.2.1⟩

/-- `pick_staging_memory_type` on any list of reported types: the first MAPPABLE and COHERENT
type that is also CACHED, else the first MAPPABLE and COHERENT one, else `0`, which it returns
exactly when there is none. So an `hbm` that `hbm_create` returns has a MAPPABLE and COHERENT
staging type, and every staging bo `hbm_map` binds is bound to memory of that type. -/
theorem hbmCreate_staging_capable (mts : List UInt32) :
    pickStagingMemoryType (some mts) =
        (mts.find? fun mt => decide (StagingCapable mt ∧ mt &&& hbmMemoryTypeCached ≠ 0)).getD
          ((mts.find? fun mt => decide (StagingCapable mt)).getD 0) ∧
      (pickStagingMemoryType (some mts) = 0 ↔ ∀ mt ∈ mts, ¬StagingCapable mt) ∧
      ∀ o hbm, hbmCreate o = some hbm → StagingCapable hbm.stagingMt ∧
        ∀ host res vma mo, ∃ new, (hbmMap host hbm res vma mo).2.2.calls = new ++ host.calls ∧
          ∀ n mt fd ok, Call.bindMemory (.staging n) mt fd ok ∈ new → StagingCapable mt := by
  refine ⟨pickStagingMemoryType_eq_find mts, pickStagingMemoryType_eq_zero_iff mts,
    fun o hbm h => ?_⟩
  have hcap : StagingCapable hbm.stagingMt := by
    unfold hbmCreate at h
    dsimp only at h
    split_ifs at h with _ h0
    cases h
    exact pickStagingMemoryType_capable h0
  refine ⟨hcap, fun host res vma mo => ?_⟩
  obtain ⟨new, hnew, hbind⟩ := hbmMap_binds host hbm res vma mo
  exact ⟨new, hnew, fun n mt fd ok hmem => hbind _ mt fd ok hmem ▸ hcap⟩

/-- A device reporting LOCAL, MAPPABLE | COHERENT and MAPPABLE | COHERENT | CACHED for the probe
bo: `hbm_create` takes the cached one. -/
theorem hbmCreate_staging_capable_cached :
    hbmCreate ⟨true, true, true, some [hbmMemoryTypeLocal,
        hbmMemoryTypeMappable ||| hbmMemoryTypeCoherent,
        hbmMemoryTypeMappable ||| hbmMemoryTypeCoherent ||| hbmMemoryTypeCached]⟩ =
      some ⟨hbmMemoryTypeMappable ||| hbmMemoryTypeCoherent ||| hbmMemoryTypeCached⟩ ∧
      StagingCapable (hbmMemoryTypeMappable ||| hbmMemoryTypeCoherent ||| hbmMemoryTypeCached) :=
  have h : hbmCreate ⟨true, true, true, some [hbmMemoryTypeLocal,
      hbmMemoryTypeMappable ||| hbmMemoryTypeCoherent,
      hbmMemoryTypeMappable ||| hbmMemoryTypeCoherent ||| hbmMemoryTypeCached]⟩ =
      some ⟨hbmMemoryTypeMappable ||| hbmMemoryTypeCoherent ||| hbmMemoryTypeCached⟩ := rfl
  ⟨h, ((hbmCreate_staging_capable [hbmMemoryTypeLocal,
      hbmMemoryTypeMappable ||| hbmMemoryTypeCoherent,
      hbmMemoryTypeMappable ||| hbmMemoryTypeCoherent ||| hbmMemoryTypeCached]).2.2 _ _ h).1⟩

/-! ## `dri_bo_map` and `dri_bo_unmap` of `hbm.c` -/

/-- What `dri_bo_map` returns: a pointer into a bo, or `MAP_FAILED`. -/
inductive MapResult where
  | ptr (bo : HbmBo)
  | mapFailed
  deriving DecidableEq, Repr

/-- The whole-buffer mapping `dri_bo_map` and `dri_bo_unmap` sync. -/
def Bo.mapping (bo : Bo) (vma : Vma) : Mapping := ⟨vma, ⟨0, 0, bo.width, bo.height⟩⟩

/-- `dri_bo_map` (which asserts `plane == 0`). The result of `hbm_sync` is not looked at. -/
def driBoMap (host : Host) (hbm : Hbm) (bo : Bo) (vma : Vma) (mapFlags : UInt32)
    (o : MapOutcome) (sync : SyncOutcome) : Option MapResult × Vma × Host :=
  match hbmMap host hbm bo.priv vma o with
  | (none, vma, host) => (some .mapFailed, vma, host)
  | (some ptr, vma, host) =>
    if mapFlags &&& boMapRead ≠ 0 then
      match hbmSync host bo.priv (bo.mapping vma) 0 false sync with
      | (none, host) => (none, vma, host)
      | (some _, host) => (some (.ptr ptr), vma, host)
    else (some (.ptr ptr), vma, host)

/-- `dri_bo_map` returns once its wait ends, whatever the copy of `hbm_sync` reports. -/
theorem driBoMap_returns (host : Host) (hbm : Hbm) (bo : Bo) (vma : Vma) (mapFlags : UInt32)
    (o : MapOutcome) {sync : SyncOutcome} (hend : ∃ r ∈ sync.polls, ¬r.Retry) :
    (driBoMap host hbm bo vma mapFlags o sync).1.isSome := by
  unfold driBoMap
  rcases hm : hbmMap host hbm bo.priv vma o with ⟨_ | ptr, vma', host'⟩
  · rfl
  · dsimp only
    split_ifs
    · have hs := hbmSync_isSome host' bo.priv (bo.mapping vma') 0 false hend (hbmMap_priv hm)
      rcases hr : hbmSync host' bo.priv (bo.mapping vma') 0 false sync with ⟨_ | _, host''⟩
      · rw [hr] at hs
        cases hs
      · rfl
    · rfl

/-- The `hbm_sync` that `dri_bo_unmap` makes before unmapping a write mapping. -/
def unmapSync (host : Host) (bo : Bo) (vma : Vma) (sync : SyncOutcome) : Option Bool × Host :=
  if vma.mapFlags &&& boMapWrite ≠ 0 then hbmSync host bo.priv (bo.mapping vma) 0 true sync
  else (some true, host)

/-- `dri_bo_unmap`, which returns `0`. The result of `hbm_sync` is not looked at. -/
def driBoUnmap (host : Host) (bo : Bo) (vma : Vma) (sync : SyncOutcome) : Option Int × Host :=
  match unmapSync host bo vma sync with
  | (none, host) => (none, host)
  | (some _, host) =>
    match hbmUnmap host bo.priv vma with
    | none => (none, host)
    | some host => (some 0, host)

/-! ## What `dri_bo_map` and `dri_bo_unmap` leave out -/

def Call.isPoll : Call → Bool
  | .poll .. => true
  | _ => false

theorem hbmMap_mapStrides (host : Host) (hbm : Hbm) (res : Resource) (vma : Vma)
    (o : MapOutcome) : (hbmMap host hbm res vma o).2.1.mapStrides = vma.mapStrides := by
  unfold hbmMap
  split_ifs <;> rfl

theorem hbmMap_polls (host : Host) (hbm : Hbm) (res : Resource) (vma : Vma) (o : MapOutcome) :
    (hbmMap host hbm res vma o).2.2.calls.countP Call.isPoll = host.calls.countP Call.isPoll := by
  unfold hbmMap Host.newBo
  split_ifs <;> simp [List.countP_cons, Call.isPoll]

/-- `dri_bo_map` never writes the row pitches it advertises in `vma->map_strides`. -/
theorem driBoMap_mapStrides (host : Host) (hbm : Hbm) (bo : Bo) (vma : Vma) (mapFlags : UInt32)
    (o : MapOutcome) (sync : SyncOutcome) :
    (driBoMap host hbm bo vma mapFlags o sync).2.1.mapStrides = vma.mapStrides := by
  have h := hbmMap_mapStrides host hbm bo.priv vma o
  unfold driBoMap
  split
  · rename_i hm; rw [hm] at h; exact h
  · rename_i hm
    rw [hm] at h
    split_ifs
    · split <;> exact h
    · exact h

/-- A mapping that is not for reading polls nothing: `dri_bo_map` waits on the implicit fence
only inside the `hbm_sync` it makes for reading. -/
theorem driBoMap_polls_of_not_read (host : Host) (hbm : Hbm) (bo : Bo) (vma : Vma)
    {mapFlags : UInt32} (hread : mapFlags &&& boMapRead = 0) (o : MapOutcome)
    (sync : SyncOutcome) :
    (driBoMap host hbm bo vma mapFlags o sync).2.2.calls.countP Call.isPoll =
      host.calls.countP Call.isPoll := by
  have h := hbmMap_polls host hbm bo.priv vma o
  unfold driBoMap
  split
  · rename_i hm; rw [hm] at h; exact h
  · rename_i hm; rw [hm] at h; simp only [hread, ne_eq, not_true_eq_false, if_false]; exact h

/-- `dri_bo_unmap` returns `0` whenever it returns, whatever `hbm_sync` reported. -/
theorem driBoUnmap_eq_zero {host : Host} {bo : Bo} {vma : Vma} {sync : SyncOutcome} {r : Int}
    (h : (driBoUnmap host bo vma sync).1 = some r) : r = 0 := by
  unfold driBoUnmap at h
  split at h
  · cases h
  · split at h
    · cases h
    · exact (Option.some.inj h).symm

/-- A write mapping of a resource with an implicit fence, mapped directly: the pointer comes
back and the only call made is the map; the fence was never polled. -/
theorem driBoMap_write_skips_fence :
    ∃ vma host, driBoMap ⟨0, 0, []⟩ ⟨hbmMemoryTypeMappable ||| hbmMemoryTypeCoherent⟩
        ⟨100, 100, ⟨0, drmFormatArgb8888, true, 3, 0, [], []⟩⟩ ⟨none, 0, []⟩ boMapWrite
        ⟨true, true, true⟩ ⟨[], true⟩ = (some (.ptr (.real 0)), vma, host) ∧
      host.calls = [.boMap (.real 0) true] :=
  ⟨_, _, rfl, rfl⟩

/-- An ARGB8888 resource of width 100 mapped through staging, whose vma advertises the bo's
pitch of 512: the staging pitch is 400, and the mapping still advertises 512. -/
theorem driBoMap_keeps_bo_pitch :
    stagingLayout drmFormatArgb8888 (.image 100 100) = (40000, [0], [400]) ∧
      ∃ vma host, driBoMap ⟨0, 0, []⟩ ⟨hbmMemoryTypeMappable ||| hbmMemoryTypeCoherent⟩
          ⟨100, 100, ⟨0, drmFormatArgb8888, true, -1, 40000, [0], [400]⟩⟩
          ⟨none, 0, [512, 0, 0, 0]⟩ boMapRead ⟨true, true, true⟩ ⟨[], true⟩ =
          (some (.ptr (.staging 0)), vma, host) ∧
        vma.mapStrides.head? = some 512 :=
  ⟨by decide, _, _, rfl, rfl⟩

/-- A staged resource whose copies fail: mapping it for reading still returns a pointer into a
staging bo that stays alive, and unmapping a write mapping of it returns `0`. -/
theorem driBoMap_unmap_ignore_failed_copy :
    ∃ vma host host', driBoMap ⟨0, 0, []⟩ ⟨hbmMemoryTypeMappable ||| hbmMemoryTypeCoherent⟩
          ⟨100, 100, ⟨0, drmFormatArgb8888, true, -1, 40000, [0], [400]⟩⟩ ⟨none, 0, []⟩
          boMapRead ⟨true, true, true⟩ ⟨[], false⟩ = (some (.ptr (.staging 0)), vma, host) ∧
      Call.boDestroy (.staging 0) ∉ host.calls ∧
      driBoUnmap host ⟨100, 100, ⟨0, drmFormatArgb8888, true, -1, 40000, [0], [400]⟩⟩
          { vma with mapFlags := boMapWrite } ⟨[], false⟩ = (some 0, host') ∧
      Call.boDestroy (.staging 0) ∈ host'.calls :=
  ⟨_, _, _, rfl, by decide, rfl, by decide⟩

end Minigbm
