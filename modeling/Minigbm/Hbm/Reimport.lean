import Mathlib.Data.List.Nodup
import Minigbm.Hbm.Resource

/-!
# Descriptors across a resource's life

A resource is created by `hbm_allocate` or `hbm_import`, re-imported into the driver's device
any number of times by `hbm_reimport_to_driver`, and released by `hbm_free`. Along the way the
glue layer obtains descriptors (a `dup` of the caller's dma-buf, or an export of the bo) and
gives each one up by `close` or by handing it to `hbm_bo_bind_memory`, which takes ownership.

A resource with CPU usage keeps the re-imported descriptor as its implicit fence. Each
re-import stores a new one over the old without closing it, so from the second successful
re-import on a descriptor is lost (`lifecycle_two_reimports_leak`). Descriptors are never given
up twice, and the caller's are never closed (`lifecycle_releases_at_most_once`); with at most one
re-import, as the repository's callers do, every descriptor is given up exactly once
(`lifecycle_releases_once`).
-/

namespace Minigbm

/-! ## The ledger of descriptors -/

/-- The descriptor a call obtains for the glue layer. -/
def Call.acquired : Call → Option Int
  | .dup _ fd | .exportDmaBuf _ fd => if 0 ≤ fd then some fd else none
  | _ => none

/-- The descriptor a call gives up: a `close`, or a binding that takes ownership. -/
def Call.released : Call → Option Int
  | .close fd => some fd
  | .bindMemory _ _ fd _ => if 0 ≤ fd then some fd else none
  | _ => none

def acquiredFds (calls : List Call) : List Int := calls.filterMap Call.acquired

def releaseCount (calls : List Call) (fd : Int) : Nat :=
  calls.countP fun call => call.released = some fd

@[simp] theorem acquiredFds_nil : acquiredFds [] = [] := rfl

@[simp] theorem acquiredFds_cons (call : Call) (calls : List Call) :
    acquiredFds (call :: calls) = call.acquired.toList ++ acquiredFds calls := by
  cases h : call.acquired <;> simp [acquiredFds, List.filterMap_cons, h]

@[simp] theorem releaseCount_cons (call : Call) (calls : List Call) (fd : Int) :
    releaseCount (call :: calls) fd =
      releaseCount calls fd + if call.released = some fd then 1 else 0 := by
  simp [releaseCount, List.countP_cons]

theorem acquiredFds_append (xs ys : List Call) :
    acquiredFds (xs ++ ys) = acquiredFds xs ++ acquiredFds ys :=
  List.filterMap_append ..

theorem releaseCount_append (xs ys : List Call) (fd : Int) :
    releaseCount (xs ++ ys) fd = releaseCount xs fd + releaseCount ys fd :=
  List.countP_append ..

/-- From `host` to `host'` the glue layer obtains each descriptor at most once, fresh from the
counter, and gives up only descriptors it obtained, each at most once: those it still holds are
`held`. -/
def Host.Owns (host host' : Host) (held : List Int) : Prop :=
  ∃ new, host'.calls = new ++ host.calls ∧ host.nextFd ≤ host'.nextFd ∧
    (acquiredFds new).Nodup ∧ (∀ fd ∈ acquiredFds new, host.nextFd ≤ fd ∧ fd < host'.nextFd) ∧
    ∀ fd, releaseCount new fd + held.count fd = (acquiredFds new).count fd

namespace Host.Owns

variable {host h₁ h₂ : Host} {held held₁ held₂ : List Int}

theorem refl (host : Host) : host.Owns host [] :=
  ⟨[], rfl, le_rfl, List.nodup_nil, fun _ h => by simp at h, fun _ => rfl⟩

theorem trans (hown₁ : host.Owns h₁ held₁) (hown₂ : h₁.Owns h₂ held₂) :
    host.Owns h₂ (held₂ ++ held₁) := by
  obtain ⟨new₁, hc₁, hn₁, hnd₁, hf₁, hb₁⟩ := hown₁
  obtain ⟨new₂, hc₂, hn₂, hnd₂, hf₂, hb₂⟩ := hown₂
  refine ⟨new₂ ++ new₁, by rw [hc₂, hc₁, List.append_assoc], hn₁.trans hn₂, ?_, ?_,
    fun fd => ?_⟩
  · rw [acquiredFds_append]
    refine List.nodup_append.2 ⟨hnd₂, hnd₁, fun a ha hb => ?_⟩
    have := (hf₂ a ha).1
    have := (hf₁ a hb).2
    omega
  · intro fd hfd
    rw [acquiredFds_append, List.mem_append] at hfd
    rcases hfd with hfd | hfd
    · have := hf₂ fd hfd; omega
    · have := hf₁ fd hfd; omega
  · have := hb₁ fd
    have := hb₂ fd
    rw [releaseCount_append, acquiredFds_append, List.count_append, List.count_append]
    omega

/-- A call that neither obtains nor gives up a descriptor. -/
theorem emit_quiet {call : Call} (hown : host.Owns h₁ held) (ha : call.acquired = none)
    (hr : call.released = none) : host.Owns (h₁.emit call) held := by
  obtain ⟨new, hc, hn, hnd, hf, hb⟩ := hown
  refine ⟨call :: new, by simp [hc], hn, by simpa [ha] using hnd, by simpa [ha] using hf,
    fun fd => by simpa [ha, hr] using hb fd⟩

/-- A call that gives up a descriptor held. -/
theorem emit_release {call : Call} {fd : Int} (hown : host.Owns h₁ held) (hfd : fd ∈ held)
    (ha : call.acquired = none) (hr : call.released = some fd) :
    host.Owns (h₁.emit call) (held.erase fd) := by
  obtain ⟨new, hc, hn, hnd, hf, hb⟩ := hown
  refine ⟨call :: new, by simp [hc], hn, by simpa [ha] using hnd, by simpa [ha] using hf,
    fun fd' => ?_⟩
  have := hb fd'
  by_cases h : fd' = fd
  · subst h
    have := List.count_erase_self fd' held
    have := List.count_pos_iff.2 hfd
    simp only [releaseCount_cons, hr, if_true, acquiredFds_cons, ha, Option.toList_none,
      List.nil_append]
    omega
  · simp [ha, hr, Ne.symm h, List.count_erase_of_ne h, this]

/-- Closing the descriptor obtained last. -/
theorem close_head {fd : Int} (hown : host.Owns h₁ (fd :: held)) :
    host.Owns (h₁.close fd) held := by
  simpa using hown.emit_release (List.mem_cons_self _ _) (rfl : (Call.close fd).acquired = none) rfl

/-- A fresh descriptor, obtained by a call that gives up nothing. -/
theorem acquire {call : Call} (hown : host.Owns h₁ held)
    (ha : call.acquired = some (h₁.nextFd : Int))
    (hr : call.released = none) :
    host.Owns ({ h₁ with nextFd := h₁.nextFd + 1 }.emit call) (h₁.nextFd :: held) := by
  obtain ⟨new, hc, hn, hnd, hf, hb⟩ := hown
  refine ⟨call :: new, by simp [hc], by simp only [Host.emit_nextFd]; omega, ?_, ?_,
    fun fd => ?_⟩
  · simp only [acquiredFds_cons, ha, Option.toList_some, List.singleton_append, List.nodup_cons]
    exact ⟨fun h => by have := (hf _ h).2; omega, hnd⟩
  · simp only [acquiredFds_cons, ha, Option.toList_some, List.singleton_append, List.mem_cons,
      Host.emit_nextFd]
    rintro fd (rfl | hfd)
    · omega
    · have := hf fd hfd; omega
  · have := hb fd
    simp only [releaseCount_cons, hr, reduceCtorEq, if_false, acquiredFds_cons, ha,
      Option.toList_some, List.singleton_append, List.count_cons]
    omega

theorem newBo (hown : host.Owns h₁ held) : host.Owns h₁.newBo.2 held := hown

/-- `dup`: a fresh descriptor when it succeeds. -/
theorem dup (hown : host.Owns h₁ held) (fd : Int) (ok : Bool) :
    (h₁.dup fd ok).1 = (if ok then (h₁.nextFd : Int) else -1) ∧
      host.Owns (h₁.dup fd ok).2 (if ok then (h₁.nextFd : Int) :: held else held) := by
  cases ok
  · exact ⟨rfl, hown.emit_quiet (by simp [Call.acquired]) rfl⟩
  · exact ⟨rfl, hown.acquire (by simp [Call.acquired, Int.ofNat_nonneg]) rfl⟩

/-- Binding a descriptor hands it to hbm: a nonnegative one is given up. -/
theorem bind (hown : host.Owns h₁ held) (fd : Int) (hfd : 0 ≤ fd → fd ∈ held) (bo : HbmBo)
    (mt : UInt32) (ok : Bool) :
    host.Owns (h₁.emit (.bindMemory bo mt fd ok)) (if 0 ≤ fd then held.erase fd else held) := by
  split_ifs with h
  · exact hown.emit_release (hfd h) rfl (by simp [Call.released, h])
  · exact hown.emit_quiet rfl (by simp [Call.released, h])

end Host.Owns

/-! ## `hbm_reimport_to_driver` and `hbm_free` -/

/-- What the external calls of `hbm_reimport_to_driver` return: whether `dup` or
`hbm_bo_export_dma_buf` yields a descriptor, and the GEM handle `drmPrimeFDToHandle` gives. -/
structure ReimportOutcome where
  fd : Bool
  handle : Option Nat
  deriving DecidableEq, Repr

/-- The descriptor `hbm_reimport_to_driver` imports, and whether it owns it: the caller's
`fds[0]` as it is, a duplicate of it for a resource with CPU usage, or an export of the bo. -/
def reimportDmabuf (host : Host) (res : Resource) (importData : Option ImportData)
    (ok : Bool) : (Int × Bool) × Host :=
  match importData with
  | some data =>
    if res.useSw then
      let dupped := host.dup (data.fds.getD 0 (-1)) ok
      ((dupped.1, true), dupped.2)
    else ((data.fds.getD 0 (-1), false), host)
  | none =>
    let exported := host.openFd ok
    ((exported.1, true), exported.2.emit (.exportDmaBuf (.real res.bo) exported.1))

/-- `hbm_reimport_to_driver`: the GEM handle (`0` on failure) and the resource, whose fence
becomes the imported descriptor when it has CPU usage. -/
def hbmReimportToDriver (host : Host) (res : Resource) (importData : Option ImportData)
    (o : ReimportOutcome) : Nat × Resource × Host :=
  let got := reimportDmabuf host res importData o.fd
  let dmabuf := got.1.1
  let owned := got.1.2
  if dmabuf < 0 then (0, res, got.2)
  else
    let host := got.2.emit (.primeFdToHandle dmabuf o.handle.isSome)
    match o.handle with
    | none => (0, res, if owned then host.close dmabuf else host)
    | some handle =>
      if res.useSw then
        -- dmabuf ownership is transferred
        (handle, { res with implicitFenceDmabuf := dmabuf }, host)
      else (handle, res, if owned then host.close dmabuf else host)

/-- `hbm_free`. -/
def hbmFree (host : Host) (res : Resource) : Host :=
  let host := host.emit (.boDestroy (.real res.bo))
  if 0 ≤ res.implicitFenceDmabuf then host.close res.implicitFenceDmabuf else host

/-! ## A resource's life -/

/-- How the resource is created. -/
inductive Creation where
  | allocate (width height fmt : Nat) (useFlags : UInt64) (mods : List UInt64)
      (o : AllocateOutcome)
  | import (data : ImportData) (o : ImportOutcome)
  deriving DecidableEq, Repr

def Creation.run (host : Host) : Creation → Option (Resource × BoMetadata) × Host
  | .allocate width height fmt useFlags mods o => hbmAllocate host width height fmt useFlags mods o
  | .import data o => hbmImport host data o

/-- Re-imports one after another, each with or without import data. -/
def reimports (host : Host) (res : Resource) :
    List (Option ImportData × ReimportOutcome) → Resource × Host
  | [] => (res, host)
  | (importData, o) :: rest =>
    let r := hbmReimportToDriver host res importData o
    reimports r.2.2 r.2.1 rest

/-- Create a resource; if that succeeds, re-import it as given, then free it. -/
def lifecycle (host : Host) (creation : Creation)
    (steps : List (Option ImportData × ReimportOutcome)) : Host :=
  match creation.run host with
  | (none, host) => host
  | (some (res, _), host) =>
    let r := reimports host res steps
    hbmFree r.2 r.1

/-- A CPU-read resource re-imported twice by export: descriptor `0`, the first fence, is
overwritten by descriptor `1` and never closed. -/
theorem lifecycle_two_reimports_leak :
    ∃ host, lifecycle ⟨0, 0, []⟩
        (.allocate 64 64 drmFormatArgb8888.toNat boUseSwReadOften []
          ⟨false, true, ⟨16384, drmFormatModInvalid, 1, [0], [256]⟩,
            ⟨some [hbmMemoryTypeLocal], true, true, true⟩⟩)
        [(none, ⟨true, some 1⟩), (none, ⟨true, some 2⟩)] = host ∧
      acquiredFds host.calls = [1, 0] ∧ releaseCount host.calls 0 = 0 ∧
      releaseCount host.calls 1 = 1 :=
  ⟨_, rfl, by decide, by decide, by decide⟩

/-! ## The ledger over a resource's life -/

section Ledger

variable {host h₁ h₂ : Host} {held : List Int}

/-- The descriptor `create_resource` binds: none, a fresh duplicate, or the negative `dmabuf`. -/
theorem dupForBind_owns (hown : host.Owns h₁ held) {dmabuf : Int} {ok : Bool} {r : Option Int}
    (h : dupForBind h₁ dmabuf ok = (r, h₂)) :
    r = none ∧ host.Owns h₂ held ∨
      ∃ fd, r = some fd ∧ host.Owns h₂ (if 0 ≤ fd then fd :: held else held) := by
  unfold dupForBind at h
  split_ifs at h with hfd
  · obtain ⟨h1, h2⟩ := hown.dup dmabuf ok
    dsimp only at h
    rw [h1] at h
    cases ok <;> simp only [Prod.mk.injEq] at h <;> obtain ⟨rfl, rfl⟩ := h
    · exact .inl ⟨by simp, h2⟩
    · exact .inr ⟨(h₁.nextFd : Int), by simp [Int.ofNat_nonneg],
        by simpa [Int.ofNat_nonneg] using h2⟩
  · simp only [Prod.mk.injEq] at h
    obtain ⟨rfl, rfl⟩ := h
    exact .inr ⟨_, rfl, by simpa [hfd] using hown⟩

/-- `create_resource` gives up the duplicate it makes, by binding it, and nothing else. -/
theorem createResource_owns (hown : host.Owns h₁ held) {bo : Nat} {desc : Description}
    {extent : Extent} {layout : HbmLayout} {useFlags : UInt64} {dmabuf : Int}
    {o : CreateOutcome} {r : Option Resource}
    (h : createResource h₁ bo desc extent layout useFlags dmabuf o = (r, h₂)) :
    host.Owns h₂ held := by
  unfold createResource at h
  split at h
  · cases h; exact hown
  rename_i mt _ _
  split at h
  · rename_i h₃ hd
    cases h
    obtain ⟨-, hown'⟩ | ⟨_, hr, -⟩ := dupForBind_owns hown hd
    · exact hown'
    · cases hr
  · rename_i fd h₃ hd
    obtain ⟨hr, -⟩ | ⟨_, hr, hown'⟩ := dupForBind_owns hown hd
    · cases hr
    cases hr
    have := hown'.bind fd (fun h => by simp [h]) (.real bo) mt o.bind
    split_ifs at this with hfd
    · simp only [List.erase_cons_head] at this
      split at h <;> (cases h; exact this)
    · split at h <;> (cases h; exact this)

theorem hbmAllocate_owns (hown : host.Owns h₁ held) (width height fmt : Nat) (useFlags : UInt64)
    (mods : List UInt64) (o : AllocateOutcome) :
    host.Owns (hbmAllocate h₁ width height fmt useFlags mods o).2 held := by
  dsimp only [hbmAllocate, Host.newBo]
  -- four branches: with or without a constraint, and whether `hbm_bo_create` yields a bo
  split_ifs
  all_goals first
    | exact hown.emit_quiet rfl rfl
    | generalize hcr : createResource _ _ _ _ _ _ _ _ = cr
      have hown' := createResource_owns (hown.newBo.emit_quiet (by rfl) (by rfl)) hcr
      rcases cr with ⟨_ | _, h₃⟩
      · exact hown'.emit_quiet rfl rfl
      · exact hown'

theorem hbmImport_owns (hown : host.Owns h₁ held) (data : ImportData) (o : ImportOutcome) :
    host.Owns (hbmImport h₁ data o).2 held := by
  dsimp only [hbmImport, Host.newBo]
  split
  · exact hown
  split_ifs
  · exact hown.emit_quiet rfl rfl
  · generalize hcr : createResource _ _ _ _ _ _ _ _ = cr
    have hown' := createResource_owns (hown.newBo.emit_quiet (by rfl) (by rfl)) hcr
    rcases cr with ⟨_ | _, h₃⟩
    · exact hown'.emit_quiet rfl rfl
    · exact hown'

/-- Creating a resource gives up every descriptor it obtains. -/
theorem Creation.run_owns (hown : host.Owns h₁ held) (creation : Creation) :
    host.Owns (creation.run h₁).2 held := by
  cases creation
  · exact hbmAllocate_owns hown ..
  · exact hbmImport_owns hown ..

/-- The descriptor `hbm_reimport_to_driver` imports: obtained fresh (or `-1`), or borrowed from
the caller for a resource without CPU usage. -/
theorem reimportDmabuf_owns (hown : host.Owns h₁ held) {res : Resource}
    {importData : Option ImportData} {ok : Bool} {dmabuf : Int} {owned : Bool}
    (h : reimportDmabuf h₁ res importData ok = ((dmabuf, owned), h₂)) :
    owned = true ∧ (0 ≤ dmabuf → dmabuf = h₁.nextFd) ∧
        host.Owns h₂ (if 0 ≤ dmabuf then dmabuf :: held else held) ∨
      owned = false ∧ h₂ = h₁ ∧ res.useSw = false := by
  unfold reimportDmabuf at h
  rcases importData with _ | data
  · dsimp only [Host.openFd] at h
    cases ok <;> simp only [if_true, if_false, Prod.mk.injEq, Bool.false_eq_true] at h <;>
      obtain ⟨⟨rfl, rfl⟩, rfl⟩ := h
    · refine .inl ⟨rfl, by omega, ?_⟩
      rw [if_neg (by omega)]
      exact hown.emit_quiet rfl rfl
    · refine .inl ⟨rfl, fun _ => rfl, ?_⟩
      rw [if_pos (Int.ofNat_nonneg _)]
      exact hown.acquire (by simp [Call.acquired, Int.ofNat_nonneg]) rfl
  · split_ifs at h with hsw
    · obtain ⟨hd, hown'⟩ := hown.dup (data.fds.getD 0 (-1)) ok
      simp only [Prod.mk.injEq] at h
      obtain ⟨⟨rfl, rfl⟩, rfl⟩ := h
      rw [hd]
      cases ok
      · exact .inl ⟨rfl, by simp, by simpa using hown'⟩
      · exact .inl ⟨rfl, by simp, by simpa [Int.ofNat_nonneg] using hown'⟩
    · simp only [Prod.mk.injEq] at h
      obtain ⟨⟨rfl, rfl⟩, rfl⟩ := h
      exact .inr ⟨rfl, rfl, by simpa using hsw⟩

/-- `hbm_reimport_to_driver` either gives up every descriptor it obtains, or obtains a fresh one
and keeps it as the resource's fence, over the one there. It keeps one for a resource with CPU
use only, and always when it returns a GEM handle for one. -/
theorem hbmReimportToDriver_owns (hown : host.Owns h₁ held) {res : Resource}
    {importData : Option ImportData} {o : ReimportOutcome} {handle : Nat} {res' : Resource}
    (h : hbmReimportToDriver h₁ res importData o = (handle, res', h₂)) :
    res' = res ∧ host.Owns h₂ held ∧ (handle ≠ 0 → res.useSw = false) ∨
      res' = { res with implicitFenceDmabuf := h₁.nextFd } ∧
        host.Owns h₂ ((h₁.nextFd : Int) :: held) ∧ res.useSw = true := by
  unfold hbmReimportToDriver at h
  generalize hr : reimportDmabuf h₁ res importData o.fd = r at h
  obtain ⟨⟨dmabuf, owned⟩, h₃⟩ := r
  dsimp only at h
  by_cases hneg : dmabuf < 0
  · rw [if_pos hneg] at h
    cases h
    rcases reimportDmabuf_owns hown hr with ⟨-, -, hown'⟩ | ⟨-, rfl, -⟩
    · exact .inl ⟨rfl, by simpa [show ¬0 ≤ dmabuf by omega] using hown', absurd rfl⟩
    · exact .inl ⟨rfl, hown, absurd rfl⟩
  rw [if_neg hneg] at h
  rcases reimportDmabuf_owns hown hr with ⟨rfl, hd, hown'⟩ | ⟨rfl, rfl, hsw⟩
  · -- a descriptor of its own: closed, or kept as the fence
    obtain rfl := hd (by omega)
    rw [if_pos (by omega)] at hown'
    have hprime : host.Owns (h₃.emit (.primeFdToHandle h₁.nextFd o.handle.isSome))
        ((h₁.nextFd : Int) :: held) := hown'.emit_quiet rfl rfl
    simp only [if_true] at h
    split at h
    · cases h; exact .inl ⟨rfl, hprime.close_head, absurd rfl⟩
    · split_ifs at h with hsw <;> cases h
      · exact .inr ⟨rfl, hprime, hsw⟩
      · exact .inl ⟨rfl, hprime.close_head, fun _ => by simpa using hsw⟩
  · -- the caller's descriptor: imported, never closed
    simp only [Bool.false_eq_true, if_false, hsw] at h
    split at h <;> cases h <;> exact .inl ⟨rfl, hown.emit_quiet rfl rfl, fun _ => hsw⟩

/-- `hbm_free` gives up the resource's fence. -/
theorem hbmFree_owns (hown : host.Owns h₁ held) (res : Resource)
    (hfence : 0 ≤ res.implicitFenceDmabuf → res.implicitFenceDmabuf ∈ held) :
    host.Owns (hbmFree h₁ res)
      (if 0 ≤ res.implicitFenceDmabuf then held.erase res.implicitFenceDmabuf else held) := by
  unfold hbmFree
  have hd : host.Owns (h₁.emit (.boDestroy (.real res.bo))) held := hown.emit_quiet rfl rfl
  split_ifs with h
  · exact hd.emit_release (hfence h) rfl rfl
  · exact hd

/-- Along re-imports, the resource's fence is among the descriptors held. -/
theorem reimports_owns (hown : host.Owns h₁ held) (res : Resource)
    (hfence : 0 ≤ res.implicitFenceDmabuf → res.implicitFenceDmabuf ∈ held)
    (steps : List (Option ImportData × ReimportOutcome)) :
    ∃ held', host.Owns (reimports h₁ res steps).2 held' ∧
      (0 ≤ (reimports h₁ res steps).1.implicitFenceDmabuf →
        (reimports h₁ res steps).1.implicitFenceDmabuf ∈ held') := by
  induction steps generalizing h₁ res held with
  | nil => exact ⟨held, hown, hfence⟩
  | cons step steps ih =>
    obtain ⟨importData, o⟩ := step
    simp only [reimports]
    generalize hr : hbmReimportToDriver h₁ res importData o = r
    obtain ⟨handle, res', h₂⟩ := r
    rcases hbmReimportToDriver_owns hown hr with ⟨rfl, hown', -⟩ | ⟨rfl, hown', -⟩
    · exact ih hown' _ hfence
    · exact ih hown' _ fun _ => List.mem_cons_self _ _

/-- A resource just created has no fence. -/
theorem Creation.run_fence {creation : Creation} {res : Resource} {meta : BoMetadata}
    (h : (creation.run h₁).1 = some (res, meta)) : res.implicitFenceDmabuf = -1 := by
  cases creation <;> dsimp only [Creation.run, hbmAllocate, hbmImport, Host.newBo] at h
  all_goals
    repeat' split at h
    all_goals first
      | (cases h; done)
      | (cases h
         rename_i hcr
         obtain ⟨_, _, _, -, -, -, -, -, hfence, -⟩ := createResource_spec hcr
         exact hfence)

/-- Over a resource's life the descriptors obtained are held or given up once; with at most one
re-import none is held at the end. -/
theorem lifecycle_owns (host : Host) (creation : Creation)
    (steps : List (Option ImportData × ReimportOutcome)) :
    ∃ held, host.Owns (lifecycle host creation steps) held ∧ (steps.length ≤ 1 → held = []) := by
  unfold lifecycle
  have hown₁ := Creation.run_owns (Host.Owns.refl host) creation
  have hfence : ∀ {res meta}, (creation.run host).1 = some (res, meta) →
      res.implicitFenceDmabuf = -1 := Creation.run_fence
  generalize creation.run host = c at hown₁ hfence ⊢
  obtain ⟨_ | ⟨res, meta⟩, h₁⟩ := c
  · exact ⟨[], hown₁, fun _ => rfl⟩
  have hres : res.implicitFenceDmabuf = -1 := hfence rfl
  dsimp only at hown₁ ⊢
  rcases steps with _ | ⟨⟨importData, o⟩, _ | ⟨step, steps⟩⟩
  · exact ⟨[], by simpa [hres] using hbmFree_owns hown₁ res (by omega), fun _ => rfl⟩
  · -- one re-import: the fence it keeps, if any, is the only descriptor held
    simp only [reimports]
    generalize hr : hbmReimportToDriver h₁ res importData o = r
    obtain ⟨handle, res', h₂⟩ := r
    rcases hbmReimportToDriver_owns hown₁ hr with ⟨rfl, hown₂, -⟩ | ⟨rfl, hown₂, -⟩
    · exact ⟨[], by simpa [hres] using hbmFree_owns hown₂ res' (by omega), fun _ => rfl⟩
    · refine ⟨[], ?_, fun _ => rfl⟩
      simpa [Int.ofNat_nonneg] using hbmFree_owns hown₂
        { res with implicitFenceDmabuf := h₁.nextFd } fun _ => List.mem_cons_self _ _
  · obtain ⟨held, hown₂, hf₂⟩ :=
      reimports_owns hown₁ res (by omega) ((importData, o) :: step :: steps)
    refine ⟨_, hbmFree_owns hown₂
      (reimports h₁ res ((importData, o) :: step :: steps)).1 hf₂, fun h => ?_⟩
    simp only [List.length_cons] at h
    omega

/-- Along a resource's life, from a host whose descriptors below `nextFd` are the caller's, no
descriptor is given up twice, and each one given up was obtained by the glue layer along it: the
caller's are never closed. -/
theorem lifecycle_releases_at_most_once {host : Host} (hcalls : host.calls = [])
    (creation : Creation) (steps : List (Option ImportData × ReimportOutcome)) (fd : Int) :
    releaseCount (lifecycle host creation steps).calls fd ≤ 1 ∧
      (0 < releaseCount (lifecycle host creation steps).calls fd →
        fd ∈ acquiredFds (lifecycle host creation steps).calls ∧ host.nextFd ≤ fd) := by
  obtain ⟨held, ⟨new, hc, -, hnd, hf, hb⟩, -⟩ := lifecycle_owns host creation steps
  rw [hcalls, List.append_nil] at hc
  rw [hc]
  have hone := List.nodup_iff_count_le_one.1 hnd fd
  have := hb fd
  refine ⟨by omega, fun hpos => ?_⟩
  have hmem : fd ∈ acquiredFds new := List.count_pos_iff.1 (by omega)
  exact ⟨hmem, (hf fd hmem).1⟩

/-- A CPU-read resource re-imported twice by export, from a host whose caller holds descriptors
`0` to `2`: the first fence, `3`, is never given up, and the second, `4`, is given up once and
was obtained by the glue layer. -/
theorem lifecycle_releases_at_most_once_fences :
    ∃ (creation : Creation) (steps : List (Option ImportData × ReimportOutcome)),
      creation = .allocate 64 64 drmFormatArgb8888.toNat boUseSwReadOften []
          ⟨false, true, ⟨16384, drmFormatModInvalid, 1, [0], [256]⟩,
            ⟨some [hbmMemoryTypeLocal], true, true, true⟩⟩ ∧
      steps = [(none, ⟨true, some 1⟩), (none, ⟨true, some 2⟩)] ∧
      releaseCount (lifecycle ⟨0, 3, []⟩ creation steps).calls 3 = 0 ∧
      releaseCount (lifecycle ⟨0, 3, []⟩ creation steps).calls 4 = 1 ∧
      releaseCount (lifecycle ⟨0, 3, []⟩ creation steps).calls 4 ≤ 1 ∧
        (0 < releaseCount (lifecycle ⟨0, 3, []⟩ creation steps).calls 4 →
          4 ∈ acquiredFds (lifecycle ⟨0, 3, []⟩ creation steps).calls ∧
            ((⟨0, 3, []⟩ : Host).nextFd : Int) ≤ 4) :=
  ⟨_, _, rfl, rfl, by decide, by decide, lifecycle_releases_at_most_once rfl _ _ 4⟩

/-- With at most one re-import, every descriptor the glue layer obtains is given up exactly
once. -/
theorem lifecycle_releases_once {host : Host} (hcalls : host.calls = []) (creation : Creation)
    {steps : List (Option ImportData × ReimportOutcome)} (hsteps : steps.length ≤ 1) (fd : Int) :
    releaseCount (lifecycle host creation steps).calls fd =
      (acquiredFds (lifecycle host creation steps).calls).count fd := by
  obtain ⟨held, ⟨new, hc, -, -, -, hb⟩, hheld⟩ := lifecycle_owns host creation steps
  rw [hcalls, List.append_nil] at hc
  simpa [hc, hheld hsteps] using hb fd

/-- The same resource re-imported once: its fence, `3`, is obtained once and given up once. -/
theorem lifecycle_releases_once_fence :
    ∃ (creation : Creation) (steps : List (Option ImportData × ReimportOutcome)),
      creation = .allocate 64 64 drmFormatArgb8888.toNat boUseSwReadOften []
          ⟨false, true, ⟨16384, drmFormatModInvalid, 1, [0], [256]⟩,
            ⟨some [hbmMemoryTypeLocal], true, true, true⟩⟩ ∧
      steps = [(none, ⟨true, some 1⟩)] ∧
      (acquiredFds (lifecycle ⟨0, 3, []⟩ creation steps).calls).count 3 = 1 ∧
      releaseCount (lifecycle ⟨0, 3, []⟩ creation steps).calls 3 =
        (acquiredFds (lifecycle ⟨0, 3, []⟩ creation steps).calls).count 3 :=
  ⟨_, _, rfl, rfl, by decide, lifecycle_releases_once rfl _ (by decide) 3⟩

end Ledger

end Minigbm
