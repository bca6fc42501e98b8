import Mathlib.Data.List.Nodup
import Minigbm.Hbm.Map

/-!
# Staging bos over runs of mappings

What a staging bo may go through is an abstract machine over the call log, replayed oldest
first: it is created once, used only while alive, and destroyed once; a copy between it and a
resource's bo also needs its size to be that resource's `staging_size`. `Host.staging` is the
machine's state after the log, `none` once the log breaks one of these rules.

A run is a sequence of `dri_bo_map` and `dri_bo_unmap` calls by a caller that holds each mapping
under its own vma and unmaps it with that vma, with every external call free to fail. Along
every run the log obeys the machine, and the staging bos alive are exactly those the held
mappings keep in `vma->priv` (`MapInv`). So a run that ends with every mapping unmapped has
destroyed every staging bo it created exactly once (`mapRun_staging`). The run never gets
stuck: from every state it reaches, `dri_bo_unmap` of a held mapping and `dri_bo_map` of a
known bo return once their waits in `hbm_sync` end, whatever the copy reports.
-/

namespace Minigbm

/-! ## The machine -/

/-- What a call does to staging bos. -/
inductive StagingEffect where
  | create (n size : Nat)
  | destroy (n : Nat)
  | use (bo : HbmBo)
  | copy (dst src : HbmBo)
  | none
  deriving DecidableEq, Repr

def Call.stagingEffect : Call → StagingEffect
  | .boCreate (some (.staging n)) _ extent _ => .create n extent.bufferSize
  | .boDestroy (.staging n) => .destroy n
  | .bindMemory bo .. | .boMap bo _ | .boUnmap bo | .boFlush bo | .boInvalidate bo
  | .exportDmaBuf bo _ => .use bo
  | .copyBuffer dst src .. | .copyBufferImage dst src .. => .copy dst src
  | _ => .none

def Call.createsStaging (n : Nat) (call : Call) : Bool :=
  match call.stagingEffect with
  | .create m _ => m == n
  | _ => false

def Call.destroysStaging (n : Nat) (call : Call) : Bool :=
  match call.stagingEffect with
  | .destroy m => m == n
  | _ => false

/-- Staging bos alive, with their sizes, and those destroyed. -/
structure StagingState where
  live : List (Nat × Nat)
  dead : List Nat
  deriving DecidableEq, Repr

def isLive (live : List (Nat × Nat)) (n : Nat) : Bool := live.any (·.1 == n)

/-- Whether staging bo `n` has been created: it is alive or destroyed. -/
def StagingState.known (st : StagingState) (n : Nat) : Bool := isLive st.live n || st.dead.contains n

/-- A bo handle a call may use: a real bo, or a staging bo alive. -/
def usable (live : List (Nat × Nat)) : HbmBo → Bool
  | .staging n => isLive live n
  | .real _ => true

/-- A copy between a staging bo and a resource's bo: the staging bo is alive with that
resource's staging size. -/
def copyOk (bos : List Bo) (live : List (Nat × Nat)) : HbmBo → HbmBo → Bool
  | .staging n, other | other, .staging n =>
    bos.any fun bo => HbmBo.real bo.priv.bo == other && live.contains (n, bo.priv.stagingSize)
  | _, _ => true

def stagingStep (bos : List Bo) (st : StagingState) (call : Call) : Option StagingState :=
  match call.stagingEffect with
  | .create n size => if st.known n then none else some ⟨(n, size) :: st.live, st.dead⟩
  | .destroy n => if isLive st.live n then some ⟨st.live.filter (·.1 != n), n :: st.dead⟩ else none
  | .use bo => if usable st.live bo then some st else none
  | .copy dst src => if copyOk bos st.live dst src then some st else none
  | .none => some st

@[simp] theorem isLive_nil (n : Nat) : isLive [] n = false := rfl

@[simp] theorem isLive_cons (x : Nat × Nat) (live : List (Nat × Nat)) (n : Nat) :
    isLive (x :: live) n = (x.1 == n || isLive live n) := rfl

@[simp] theorem isLive_filter (live : List (Nat × Nat)) (m n : Nat) :
    isLive (live.filter (·.1 != m)) n = (isLive live n && m != n) := by
  induction live with
  | nil => rfl
  | cons x live ih =>
    rw [List.filter_cons]
    by_cases hx : x.1 = m
    · subst hx
      simp only [bne_self_eq_false, Bool.false_eq_true, if_false, ih]
      cases h : x.1 == n <;> simp [bne, h]
    · simp only [hx, bne_iff_ne, ne_eq, not_false_eq_true, if_true, isLive_cons, ih]
      cases h : x.1 == n <;> simp only [Bool.false_or, Bool.true_or, Bool.true_and]
      exact (bne_iff_ne.2 fun hm => hx (by simpa [hm] using h)).symm

/-- What one step does to the machine's knowledge of staging bo `n`: a creation makes it alive,
and only when it was unknown; a destruction kills it; nothing else changes whether it is
alive, and nothing makes it unknown. -/
theorem stagingStep_count {bos : List Bo} {st st' : StagingState} {call : Call} (n : Nat)
    (h : stagingStep bos st call = some st') :
    (isLive st.live n).toNat + (call.createsStaging n).toNat =
      (call.destroysStaging n).toNat + (isLive st'.live n).toNat ∧
    (st.known n → st'.known n) ∧
    (call.createsStaging n → st.known n = false ∧ isLive st'.live n) := by
  unfold stagingStep at h
  unfold Call.createsStaging Call.destroysStaging
  split at h <;> rename_i heff <;> simp only [heff]
  · rename_i m size
    split_ifs at h with hk
    cases h
    by_cases hm : m = n
    · subst hm; simp_all [StagingState.known]
    · simp_all [StagingState.known, beq_eq_false_iff_ne.2 hm]
  · rename_i m
    split_ifs at h with hl
    cases h
    by_cases hm : m = n
    · subst hm; simp_all [StagingState.known]
    · simp_all [StagingState.known, beq_eq_false_iff_ne.2 hm, bne_iff_ne.2 hm]
      exact fun h => h.imp_right Or.inr
  · split_ifs at h; cases h; simp
  · split_ifs at h; cases h; simp
  · cases h; simp

def stagingReplay (bos : List Bo) : StagingState → List Call → Option StagingState
  | st, [] => some st
  | st, call :: calls => (stagingStep bos st call).bind fun st => stagingReplay bos st calls

theorem ite_true_one_zero (b : Bool) : (if b = true then 1 else 0) = b.toNat := by
  cases b <;> rfl

/-- Over a replay, staging bo `n` is created at most once, and not at all if it was known at
the start; every creation is matched by one destruction unless `n` is alive at the end. -/
theorem stagingReplay_count {bos : List Bo} {st st' : StagingState} {calls : List Call}
    (n : Nat) (h : stagingReplay bos st calls = some st') :
    (isLive st.live n).toNat + calls.countP (Call.createsStaging n) =
      calls.countP (Call.destroysStaging n) + (isLive st'.live n).toNat ∧
    (st.known n → calls.countP (Call.createsStaging n) = 0) ∧
    calls.countP (Call.createsStaging n) ≤ 1 := by
  induction calls generalizing st with
  | nil => cases h; simp
  | cons call calls ih =>
    obtain ⟨st1, h1, h2⟩ := Option.bind_eq_some.1 h
    obtain ⟨hcount, hknown, hfresh⟩ := stagingStep_count n h1
    obtain ⟨icount, iknown, ione⟩ := ih h2
    simp only [List.countP_cons, ite_true_one_zero]
    refine ⟨by omega, ?_, ?_⟩ <;> cases hc : call.createsStaging n
    · exact fun hk => by simpa using iknown (hknown hk)
    · exact fun hk => absurd hk (by simp [(hfresh hc).1])
    · simpa using ione
    · simp [iknown (by simp [StagingState.known, (hfresh hc).2])]

theorem stagingReplay_append (bos : List Bo) (st : StagingState) (xs ys : List Call) :
    stagingReplay bos st (xs ++ ys) = (stagingReplay bos st xs).bind (stagingReplay bos · ys) := by
  induction xs generalizing st with
  | nil => rfl
  | cons call xs ih =>
    simp only [List.cons_append, stagingReplay]
    cases stagingStep bos st call <;> simp [ih]

/-- The machine's state after the whole log. -/
def Host.staging (host : Host) (bos : List Bo) : Option StagingState :=
  stagingReplay bos ⟨[], []⟩ host.calls.reverse

@[simp] theorem Host.staging_emit (host : Host) (bos : List Bo) (call : Call) :
    (host.emit call).staging bos = (host.staging bos).bind (stagingStep bos · call) := by
  simp only [Host.staging, Host.emit, List.reverse_cons, stagingReplay_append]
  cases stagingReplay bos ⟨[], []⟩ host.calls.reverse with
  | none => rfl
  | some st => simp [stagingReplay]

@[simp] theorem Host.staging_newBo (host : Host) (bos : List Bo) :
    host.newBo.2.staging bos = host.staging bos := rfl

theorem isLive_eq_false_iff {live : List (Nat × Nat)} {n : Nat} :
    isLive live n = false ↔ n ∉ live.map Prod.fst := by
  simp only [isLive, List.any_eq_false, beq_iff_eq, List.mem_map, not_exists, not_and]

theorem stagingStep_nodup {bos : List Bo} {st st' : StagingState} {call : Call}
    (h : stagingStep bos st call = some st') (hnd : (st.live.map Prod.fst).Nodup) :
    (st'.live.map Prod.fst).Nodup := by
  unfold stagingStep at h
  split at h
  · split_ifs at h with hk
    cases h
    simp only [StagingState.known, Bool.or_eq_true, not_or, Bool.not_eq_true] at hk
    exact List.nodup_cons.2 ⟨isLive_eq_false_iff.1 hk.1, hnd⟩
  · split_ifs at h
    cases h
    exact hnd.sublist ((List.filter_sublist _).map _)
  · split_ifs at h; cases h; exact hnd
  · split_ifs at h; cases h; exact hnd
  · cases h; exact hnd

/-! ## The log of a host -/

theorem Host.staging_nodup {host : Host} {bos : List Bo} {st : StagingState}
    (h : host.staging bos = some st) : (st.live.map Prod.fst).Nodup := by
  suffices ∀ calls (st0 : StagingState), (st0.live.map Prod.fst).Nodup →
      stagingReplay bos st0 calls = some st → (st.live.map Prod.fst).Nodup from
    this _ ⟨[], []⟩ List.nodup_nil h
  intro calls
  induction calls with
  | nil => intro st0 hnd h; cases h; exact hnd
  | cons call calls ih =>
    intro st0 hnd h
    obtain ⟨st1, h1, h2⟩ := Option.bind_eq_some.1 h
    exact ih st1 (stagingStep_nodup h1 hnd) h2

/-- Along a log the machine accepts, each staging bo is created at most once and destroyed once
for each creation, unless it is still alive. -/
theorem Host.staging_count {host : Host} {bos : List Bo} {st : StagingState}
    (h : host.staging bos = some st) (n : Nat) :
    host.calls.countP (Call.createsStaging n) =
      host.calls.countP (Call.destroysStaging n) + (isLive st.live n).toNat ∧
    host.calls.countP (Call.createsStaging n) ≤ 1 := by
  obtain ⟨hcount, -, hone⟩ := stagingReplay_count n h
  simp only [List.countP_reverse, isLive_nil, Bool.toNat_false, zero_add] at hcount hone
  exact ⟨hcount, hone⟩

/-- The log obeys the machine, the staging bos alive are `live`, and every staging bo the
machine knows has an id below the next fresh one. -/
def Host.StagingOk (host : Host) (bos : List Bo) (live : List (Nat × Nat)) : Prop :=
  ∃ st, host.staging bos = some st ∧ st.live = live ∧ ∀ n, st.known n → n < host.nextBo

namespace Host.StagingOk

variable {host : Host} {bos : List Bo} {live : List (Nat × Nat)}

theorem nodup (hok : host.StagingOk bos live) : (live.map Prod.fst).Nodup := by
  obtain ⟨st, hst, rfl, -⟩ := hok
  exact Host.staging_nodup hst

theorem lt (hok : host.StagingOk bos live) {x : Nat × Nat} (hx : x ∈ live) :
    x.1 < host.nextBo := by
  obtain ⟨st, -, rfl, hfresh⟩ := hok
  exact hfresh _ (by simp [StagingState.known, isLive, List.any_eq_true]; exact .inl ⟨x.2, hx⟩)

theorem of_staging_eq {host' : Host} (hok : host.StagingOk bos live)
    (h : host'.staging bos = host.staging bos) (hn : host.nextBo ≤ host'.nextBo) :
    host'.StagingOk bos live := by
  obtain ⟨st, hst, hlive, hfresh⟩ := hok
  exact ⟨st, h.trans hst, hlive, fun n hk => (hfresh n hk).trans_le hn⟩

/-- A call that leaves the machine's state as it is. -/
theorem emit {call : Call} (hok : host.StagingOk bos live)
    (h : ∀ st : StagingState, st.live = live → stagingStep bos st call = some st) :
    (host.emit call).StagingOk bos live := by
  obtain ⟨st, hst, hlive, hfresh⟩ := hok
  exact ⟨st, by simp [hst, h st hlive], hlive, hfresh⟩

/-- Creating a staging bo under the next fresh id. -/
theorem create (hok : host.StagingOk bos live) (desc : Description) (size : Nat)
    (c : Option (List UInt64)) :
    (host.newBo.2.emit (.boCreate (some (.staging host.nextBo)) desc (.buffer size) c)).StagingOk
      bos ((host.nextBo, size) :: live) := by
  obtain ⟨st, hst, rfl, hfresh⟩ := hok
  have hnew : st.known host.nextBo = false := by
    cases hk : st.known host.nextBo
    · rfl
    · exact absurd (hfresh _ hk) (lt_irrefl _)
  refine ⟨⟨(host.nextBo, size) :: st.live, st.dead⟩,
    by simp [hst, stagingStep, Call.stagingEffect, hnew, Extent.bufferSize], rfl, ?_⟩
  intro n hk
  simp only [Host.newBo, Host.emit_nextBo]
  by_cases hn : n = host.nextBo
  · omega
  · have := hfresh n (by simpa [StagingState.known, Ne.symm hn] using hk)
    omega

theorem destroy (hok : host.StagingOk bos live) {n : Nat} (hn : isLive live n) :
    (host.emit (.boDestroy (.staging n))).StagingOk bos (live.filter (·.1 != n)) := by
  obtain ⟨st, hst, rfl, hfresh⟩ := hok
  refine ⟨⟨st.live.filter (·.1 != n), n :: st.dead⟩,
    by simp [hst, stagingStep, Call.stagingEffect, hn], rfl, fun m hk => ?_⟩
  refine hfresh m ?_
  simp only [StagingState.known, isLive_filter, List.contains_cons, Bool.or_eq_true,
    Bool.and_eq_true, beq_iff_eq] at hk ⊢
  rcases hk with ⟨h, -⟩ | rfl | h
  · exact .inl h
  · exact .inl hn
  · exact .inr h

/-- A call that uses a staging bo alive. -/
theorem use (call : Call) {n : Nat} (hok : host.StagingOk bos live)
    (he : call.stagingEffect = .use (.staging n)) (hn : isLive live n) :
    (host.emit call).StagingOk bos live :=
  hok.emit fun st hst => by simp [stagingStep, he, usable, hst, hn]

/-- A call that leaves staging bos alone. -/
theorem quiet {call : Call} (hok : host.StagingOk bos live)
    (he : call.stagingEffect = .none ∨ ∃ r, call.stagingEffect = .use (.real r)) :
    (host.emit call).StagingOk bos live := by
  refine hok.emit fun st _ => ?_
  rcases he with he | ⟨r, he⟩ <;> simp [stagingStep, he, usable]

end Host.StagingOk

theorem filter_cons_fresh {n size : Nat} {live : List (Nat × Nat)} (h : ∀ x ∈ live, x.1 < n) :
    ((n, size) :: live).filter (·.1 != n) = live := by
  simp only [List.filter_cons, bne_self_eq_false, Bool.false_eq_true, if_false]
  exact List.filter_eq_self.2 fun x hx => by simpa using (h x hx).ne

/-! ## The glue layer's calls -/

theorem pollLoop_staging (host : Host) (fd : Int) (events : Nat) (polls : List PollResult)
    (bos : List Bo) :
    (pollLoop host fd events polls).2.staging bos = host.staging bos ∧
      (pollLoop host fd events polls).2.nextBo = host.nextBo := by
  induction polls generalizing host with
  | nil => exact ⟨rfl, rfl⟩
  | cons r rs ih =>
    have hpoll : (host.emit (.poll fd events r)).staging bos = host.staging bos := by
      simp [stagingStep, Call.stagingEffect]
    unfold pollLoop
    split_ifs
    · exact ⟨hpoll, rfl⟩
    · exact ⟨hpoll, rfl⟩
    · exact ⟨(ih _).1.trans hpoll, (ih _).2⟩

theorem waitResource_staging (host : Host) (res : Resource) (mapFlags : UInt32)
    (polls : List PollResult) (bos : List Bo) :
    (waitResource host res mapFlags polls).2.staging bos = host.staging bos ∧
      (waitResource host res mapFlags polls).2.nextBo = host.nextBo := by
  unfold waitResource
  split_ifs
  · exact ⟨rfl, rfl⟩
  · exact pollLoop_staging ..

theorem copyOk_of_mem {bos : List Bo} {bo : Bo} (hbo : bo ∈ bos) {live : List (Nat × Nat)}
    {n : Nat} (hn : (n, bo.priv.stagingSize) ∈ live) :
    copyOk bos live (.real bo.priv.bo) (.staging n) ∧
      copyOk bos live (.staging n) (.real bo.priv.bo) := by
  have : bos.any fun b => HbmBo.real b.priv.bo == .real bo.priv.bo &&
      live.contains (n, b.priv.stagingSize) := List.any_eq_true.2 ⟨bo, hbo, by simp [hn]⟩
  exact ⟨this, this⟩

theorem stagingStep_syncCopy {bos : List Bo} {st : StagingState} {res : Resource}
    {rect : Rectangle} {plane : Nat} {dst src : HbmBo} {ok : Bool}
    (h : copyOk bos st.live dst src) :
    stagingStep bos st (syncCopy res rect plane dst src ok) = some st := by
  unfold syncCopy
  split_ifs <;> simp [stagingStep, Call.stagingEffect, h]

/-- `hbm_sync` copies only between the resource's bo and a staging bo alive with the resource's
staging size, and otherwise touches no staging bo. -/
theorem hbmSync_stagingOk {bos : List Bo} {host : Host} {bo : Bo} (hbo : bo ∈ bos)
    (mapping : Mapping) (plane : Nat) (flush : Bool) (o : SyncOutcome)
    {live : List (Nat × Nat)} (hok : host.StagingOk bos live)
    (hpriv : bo.priv.stagingSize ≠ 0 → ∀ staging, mapping.vma.priv = some staging →
      ∃ n, staging = .staging n ∧ (n, bo.priv.stagingSize) ∈ live) :
    (hbmSync host bo.priv mapping plane flush o).2.StagingOk bos live := by
  have hwait := waitResource_staging host bo.priv mapping.vma.mapFlags o.polls bos
  unfold hbmSync
  split
  · rename_i host' hw
    rw [hw] at hwait
    have hok' := hok.of_staging_eq hwait.1 hwait.2.ge
    split
    · exact hok'.quiet (.inr ⟨bo.priv.bo, by cases flush <;> rfl⟩)
    · rename_i h0
      split
      · exact hok'
      · rename_i staging hs
        obtain ⟨n, rfl, hn⟩ := hpriv h0 staging hs
        have hc := copyOk_of_mem hbo hn
        exact hok'.emit fun st hst => by
          subst hst; cases flush <;> exact stagingStep_syncCopy (by simp [hc])
  · rename_i host' _ hw
    rw [hw] at hwait
    exact hok.of_staging_eq hwait.1 hwait.2.ge

/-- `hbm_map` either leaves the vma and the staging bos alive as they were (a direct mapping, or
any failure, where the staging bo it created is destroyed again), or maps a fresh staging bo of
`staging_size` bytes and keeps it in `vma->priv`. -/
theorem hbmMap_stagingOk {bos : List Bo} {host : Host} {hbm : Hbm} {res : Resource} {vma : Vma}
    {o : MapOutcome} {r : Option HbmBo} {vma' : Vma} {host' : Host} {live : List (Nat × Nat)}
    (h : hbmMap host hbm res vma o = (r, vma', host')) (hok : host.StagingOk bos live) :
    ((res.stagingSize = 0 ∨ r = none) → vma' = vma ∧ host'.StagingOk bos live) ∧
    (res.stagingSize ≠ 0 → ∀ p, r = some p → p = .staging host.nextBo ∧
      vma' = { vma with priv := some p } ∧
      host'.StagingOk bos ((host.nextBo, res.stagingSize) :: live)) := by
  have hcreated := hok.create stagingDescription res.stagingSize none
  have hbound := hcreated.use (.bindMemory (.staging host.nextBo) hbm.stagingMt (-1) o.bind) rfl
    (by simp)
  have hmapped := hbound.use (.boMap (.staging host.nextBo) o.map) rfl (by simp)
  have hfailed : ∀ {host₁ : Host},
      host₁.StagingOk bos ((host.nextBo, res.stagingSize) :: live) →
      (host₁.emit (.boDestroy (.staging host.nextBo))).StagingOk bos live := fun h₁ => by
    simpa [filter_cons_fresh fun x hx => hok.lt hx] using h₁.destroy (n := host.nextBo) (by simp)
  unfold hbmMap at h
  by_cases h0 : res.stagingSize = 0
  · simp only [h0, if_true, Prod.mk.injEq] at h
    obtain ⟨-, rfl, rfl⟩ := h
    exact ⟨fun _ => ⟨rfl, hok.quiet (.inr ⟨res.bo, rfl⟩)⟩, fun h => absurd h0 h⟩
  refine ⟨?_, fun _ => ?_⟩ <;> simp only [h0, if_false] at h <;>
    split_ifs at h <;> simp only [Prod.mk.injEq] at h <;> obtain ⟨rfl, rfl, rfl⟩ := h
  · exact fun _ => ⟨rfl, hok.quiet (.inl rfl)⟩
  · exact fun _ => ⟨rfl, hfailed hbound⟩
  · exact fun _ => ⟨rfl, hfailed hmapped⟩
  · simp [h0]
  · exact fun _ h => nomatch h
  · exact fun _ h => nomatch h
  · exact fun _ h => nomatch h
  · exact fun p hp => by cases hp; exact ⟨rfl, rfl, hmapped⟩

/-- `dri_bo_map`, for the staging bos: as `hbm_map`, its read `hbm_sync` copying only into the
staging bo just mapped. -/
theorem driBoMap_stagingOk {bos : List Bo} {host : Host} {hbm : Hbm} {bo : Bo} (hbo : bo ∈ bos)
    {vma : Vma} {mapFlags : UInt32} {o : MapOutcome} {sync : SyncOutcome} {r : MapResult}
    {vma' : Vma} {host' : Host} {live : List (Nat × Nat)}
    (h : driBoMap host hbm bo vma mapFlags o sync = (some r, vma', host'))
    (hok : host.StagingOk bos live) :
    ((bo.priv.stagingSize = 0 ∨ r = .mapFailed) → vma' = vma ∧ host'.StagingOk bos live) ∧
    (bo.priv.stagingSize ≠ 0 → ∀ p, r = .ptr p →
      vma' = { vma with priv := some (.staging host.nextBo) } ∧
      host'.StagingOk bos ((host.nextBo, bo.priv.stagingSize) :: live)) := by
  unfold driBoMap at h
  split at h
  · rename_i vma₁ host₁ hm
    simp only [Prod.mk.injEq, Option.some.injEq] at h
    obtain ⟨rfl, rfl, rfl⟩ := h
    exact ⟨fun _ => (hbmMap_stagingOk hm hok).1 (.inr rfl), fun _ _ h => nomatch h⟩
  · rename_i p vma₁ host₁ hm
    have hmap := hbmMap_stagingOk hm hok
    -- the read sync keeps whatever the map left alive, since it copies into `vma->priv`
    have hsync : ∀ live₁, host₁.StagingOk bos live₁ → (bo.priv.stagingSize ≠ 0 →
        ∀ s, vma₁.priv = some s →
          ∃ n, s = .staging n ∧ (n, bo.priv.stagingSize) ∈ live₁) →
        r = .ptr p ∧ vma' = vma₁ ∧ host'.StagingOk bos live₁ := by
      intro live₁ hok₁ hpriv
      split_ifs at h
      · split at h
        · cases h
        · rename_i host₂ hs
          simp only [Prod.mk.injEq, Option.some.injEq] at h
          obtain ⟨rfl, rfl, rfl⟩ := h
          have := hbmSync_stagingOk hbo (bo.mapping vma₁) 0 false sync hok₁ hpriv
          rw [hs] at this
          exact ⟨rfl, rfl, this⟩
      · simp only [Prod.mk.injEq, Option.some.injEq] at h
        obtain ⟨rfl, rfl, rfl⟩ := h
        exact ⟨rfl, rfl, hok₁⟩
    by_cases h0 : bo.priv.stagingSize = 0
    · obtain ⟨rfl, hok₁⟩ := hmap.1 (.inl h0)
      obtain ⟨rfl, rfl, hok'⟩ := hsync live hok₁ fun h => absurd h0 h
      exact ⟨fun _ => ⟨rfl, hok'⟩, fun h => absurd h0 h⟩
    · obtain ⟨rfl, rfl, hok₁⟩ := hmap.2 h0 p rfl
      obtain ⟨rfl, rfl, hok'⟩ := hsync _ hok₁ fun _ s hs =>
        ⟨_, (Option.some.inj hs).symm, List.mem_cons_self _ _⟩
      exact ⟨fun h => by simp [h0] at h, fun _ _ _ => ⟨rfl, hok'⟩⟩

theorem isLive_of_mem {live : List (Nat × Nat)} {n size : Nat} (h : (n, size) ∈ live) :
    isLive live n := List.any_eq_true.2 ⟨_, h, by simp⟩

/-- `hbm_unmap` unmaps the bo of a direct mapping, or unmaps and destroys the staging bo in
`vma->priv`. -/
theorem hbmUnmap_stagingOk {bos : List Bo} {host : Host} {res : Resource} {vma : Vma}
    {host' : Host} {live : List (Nat × Nat)} (h : hbmUnmap host res vma = some host')
    (hok : host.StagingOk bos live) :
    (res.stagingSize = 0 → host'.StagingOk bos live) ∧
    (∀ n, res.stagingSize ≠ 0 → vma.priv = some (.staging n) → isLive live n →
      host'.StagingOk bos (live.filter (·.1 != n))) := by
  unfold hbmUnmap at h
  split_ifs at h with h0
  · cases h
    exact ⟨fun _ => hok.quiet (.inr ⟨res.bo, rfl⟩), fun _ h => absurd h0 h⟩
  · split at h
    · cases h
    · rename_i staging hs
      cases h
      refine ⟨fun h => absurd h h0, fun n _ hp hn => ?_⟩
      rw [hs] at hp
      cases hp
      exact (hok.use (.boUnmap (.staging n)) rfl hn).destroy hn

theorem unmapSync_stagingOk {bos : List Bo} {host : Host} {bo : Bo} (hbo : bo ∈ bos) {vma : Vma}
    (sync : SyncOutcome) {live : List (Nat × Nat)} (hok : host.StagingOk bos live)
    (hpriv : bo.priv.stagingSize ≠ 0 → ∀ s, vma.priv = some s →
      ∃ n, s = .staging n ∧ (n, bo.priv.stagingSize) ∈ live) :
    (unmapSync host bo vma sync).2.StagingOk bos live := by
  unfold unmapSync
  split_ifs
  · exact hbmSync_stagingOk hbo (bo.mapping vma) 0 true sync hok hpriv
  · exact hok

/-- `dri_bo_unmap`, for the staging bos: its write `hbm_sync` copies only out of the staging bo
in `vma->priv`, which `hbm_unmap` then destroys. -/
theorem driBoUnmap_stagingOk {bos : List Bo} {host : Host} {bo : Bo} (hbo : bo ∈ bos)
    {vma : Vma} {sync : SyncOutcome} {r : Int} {host' : Host} {live : List (Nat × Nat)}
    (h : driBoUnmap host bo vma sync = (some r, host')) (hok : host.StagingOk bos live)
    (hpriv : bo.priv.stagingSize ≠ 0 → ∀ s, vma.priv = some s →
      ∃ n, s = .staging n ∧ (n, bo.priv.stagingSize) ∈ live) :
    (bo.priv.stagingSize = 0 → host'.StagingOk bos live) ∧
    (∀ n, bo.priv.stagingSize ≠ 0 → vma.priv = some (.staging n) →
      host'.StagingOk bos (live.filter (·.1 != n))) := by
  unfold driBoUnmap at h
  split at h
  · cases h
  · rename_i host₁ hs
    have hok₁ := unmapSync_stagingOk hbo sync hok hpriv
    rw [hs] at hok₁
    split at h
    · cases h
    · rename_i host₂ hu
      cases h
      have hunmap := hbmUnmap_stagingOk hu hok₁
      refine ⟨hunmap.1, fun n h0 hp => hunmap.2 n h0 hp ?_⟩
      obtain ⟨_, hn, hmem⟩ := hpriv h0 _ hp
      cases hn
      exact isLive_of_mem hmem

/-! ## Runs of mappings -/

/-- A mapping the caller holds: the name it knows it by, the index of its bo, and its vma. -/
structure Held where
  id : Nat
  bo : Nat
  vma : Vma
  deriving DecidableEq, Repr

/-- The staging bo a held mapping keeps in `vma->priv`, with its bo's staging size. -/
def Held.staging (bos : List Bo) (m : Held) : Option (Nat × Nat) :=
  match m.vma.priv, bos[m.bo]? with
  | some (.staging n), some bo => some (n, bo.priv.stagingSize)
  | _, _ => none

/-- The path `hbm_map` took for a mapping of `bo`, as `vma->priv` records it: direct with no
staging bo, or through one. -/
def MapPath (bo : Bo) (vma : Vma) : Prop :=
  bo.priv.stagingSize = 0 ∧ vma.priv = none ∨
    bo.priv.stagingSize ≠ 0 ∧ ∃ n, vma.priv = some (.staging n)

/-- On the path `hbm_map` took, `hbm_unmap` always returns: it never meets a NULL
`vma->priv`. -/
theorem hbmUnmap_isSome {bo : Bo} {vma : Vma} (hpath : MapPath bo vma) (host : Host) :
    (hbmUnmap host bo.priv vma).isSome := by
  unfold hbmUnmap
  rcases hpath with ⟨h0, -⟩ | ⟨h0, n, hp⟩
  · simp [h0]
  · simp [h0, hp]

/-- `dri_bo_unmap` of a mapping on the path `hbm_map` took returns `0` once its wait ends,
whatever the copy of `hbm_sync` reports. -/
theorem driBoUnmap_returns {bo : Bo} {vma : Vma} (hpath : MapPath bo vma) (host : Host)
    {sync : SyncOutcome} (hend : ∃ r ∈ sync.polls, ¬r.Retry) :
    (driBoUnmap host bo vma sync).1 = some 0 := by
  have hs : (unmapSync host bo vma sync).1.isSome := by
    unfold unmapSync
    split_ifs
    · refine hbmSync_isSome _ _ _ _ _ hend fun h0 => ?_
      rcases hpath with ⟨h, -⟩ | ⟨-, n, hn⟩
      · exact absurd h h0
      · simp [Bo.mapping, hn]
    · rfl
  unfold driBoUnmap
  rcases hu : unmapSync host bo vma sync with ⟨_ | r, host₁⟩
  · rw [hu] at hs
    cases hs
  · obtain ⟨host₂, hh⟩ := Option.isSome_iff_exists.1 (hbmUnmap_isSome hpath host₁)
    simp only [hh]

structure MapState where
  host : Host
  held : List Held
  deriving DecidableEq, Repr

/-- The vma minigbm's `drv_bo_map` allocates zeroed for a new mapping. -/
def freshVma : Vma := ⟨none, 0, []⟩

/-- A call of the caller, with what the external calls it makes return: map bo `bo` as the
mapping it names `id`, or unmap the mapping named `id`. -/
inductive MapAction where
  | map (bo id : Nat) (mapFlags : UInt32) (o : MapOutcome) (sync : SyncOutcome)
  | unmap (id : Nat) (sync : SyncOutcome)
  deriving DecidableEq, Repr

/-- One call; `none` when it does not return, or when the caller breaks its side of the
contract (an unknown bo, a name in use, an unmap of a mapping it does not hold). As in
`drv_bo_map`, a successful mapping's vma gets its map flags after `dri_bo_map` returns. -/
def mapStep (bos : List Bo) (hbm : Hbm) (s : MapState) : MapAction → Option MapState
  | .map b id mapFlags o sync =>
    match bos[b]? with
    | none => none
    | some bo =>
      if s.held.any (·.id == id) then none
      else
        match driBoMap s.host hbm bo freshVma mapFlags o sync with
        | (some .mapFailed, _, host) => some ⟨host, s.held⟩
        | (some (.ptr _), vma, host) => some ⟨host, ⟨id, b, { vma with mapFlags }⟩ :: s.held⟩
        | (none, _, _) => none
  | .unmap id sync =>
    match s.held.find? (·.id == id) with
    | none => none
    | some m =>
      match bos[m.bo]? with
      | none => none
      | some bo =>
        match driBoUnmap s.host bo m.vma sync with
        | (some _, host) => some ⟨host, s.held.filter (·.id != id)⟩
        | (none, _) => none

def mapRun (bos : List Bo) (hbm : Hbm) : MapState → List MapAction → Option MapState
  | s, [] => some s
  | s, a :: as => (mapStep bos hbm s a).bind (mapRun bos hbm · as)

/-! ## The invariant -/

/-- In a list whose images have no duplicates, an image comes from one element. -/
theorem eq_of_filterMap_nodup {α β : Type} {g : α → Option β} {l : List α}
    (hnd : (l.filterMap g).Nodup) {a b : α} (ha : a ∈ l) (hb : b ∈ l) {k : β}
    (hka : g a = some k) (hkb : g b = some k) : a = b := by
  induction l with
  | nil => cases ha
  | cons c t ih =>
    rw [List.filterMap_cons] at hnd
    rcases List.mem_cons.1 ha with rfl | ha' <;> rcases List.mem_cons.1 hb with rfl | hb'
    · rfl
    · rw [hka] at hnd
      exact absurd (List.mem_filterMap.2 ⟨b, hb', hkb⟩) (List.nodup_cons.1 hnd).1
    · rw [hkb] at hnd
      exact absurd (List.mem_filterMap.2 ⟨a, ha', hka⟩) (List.nodup_cons.1 hnd).1
    · refine ih ?_ ha' hb'
      split at hnd
      · exact hnd
      · exact (List.nodup_cons.1 hnd).2

/-- Dropping a held mapping drops its staging bo, and only it, from those the mappings keep. -/
theorem filterMap_filter_held {bos : List Bo} {held : List Held} {m : Held} (hm : m ∈ held)
    (hid : (held.map Held.id).Nodup)
    (hnd : ((held.filterMap (Held.staging bos)).map Prod.fst).Nodup) :
    (held.filter (·.id != m.id)).filterMap (Held.staging bos) =
      (held.filterMap (Held.staging bos)).filter fun x => (m.staging bos).all (x.1 != ·.1) := by
  rw [List.filterMap_filter, List.filter_filterMap]
  rw [List.map_filterMap] at hnd
  refine List.filterMap_congr fun e he => ?_
  by_cases hid' : e.id = m.id
  · obtain rfl := List.inj_on_of_nodup_map hid he hm hid'
    cases h : e.staging bos <;> simp [h, Option.filter]
  · simp only [hid', bne_iff_ne, ne_eq, not_false_eq_true, if_true]
    cases he' : e.staging bos with
    | none => rfl
    | some x =>
      cases hm' : m.staging bos with
      | none => simp [Option.filter]
      | some y =>
        have hxy : x.1 ≠ y.1 := fun hxy => hid' (congrArg Held.id
          (eq_of_filterMap_nodup (k := x.1) hnd he hm (by simp [he']) (by simp [hm', hxy])))
        simp [Option.filter, hxy]

/-- What holds after every run: the log obeys the staging machine with exactly the held
mappings' staging bos alive, no two held mappings share a name, and every held mapping's vma
records the path its bo takes. -/
structure MapInv (bos : List Bo) (s : MapState) : Prop where
  staging : s.host.StagingOk bos (s.held.filterMap (Held.staging bos))
  ids : (s.held.map Held.id).Nodup
  path : ∀ m ∈ s.held, ∃ bo, bos[m.bo]? = some bo ∧ MapPath bo m.vma

theorem mapInv_init (bos : List Bo) {host : Host} (hcalls : host.calls = []) :
    MapInv bos ⟨host, []⟩ := by
  refine ⟨⟨⟨[], []⟩, by simp [Host.staging, hcalls, stagingReplay], rfl, ?_⟩,
    List.nodup_nil, fun _ h => nomatch h⟩
  intro n hk
  simp [StagingState.known] at hk

theorem mapInv_map {bos : List Bo} {hbm : Hbm} {s s' : MapState} {b id : Nat}
    {mapFlags : UInt32} {o : MapOutcome} {sync : SyncOutcome} (hinv : MapInv bos s)
    (h : mapStep bos hbm s (.map b id mapFlags o sync) = some s') : MapInv bos s' := by
  simp only [mapStep] at h
  split at h
  · cases h
  rename_i bo hb
  have hbo : bo ∈ bos := List.getElem?_mem hb
  split_ifs at h with hid
  have hfresh : id ∉ s.held.map Held.id := by simpa using hid
  split at h
  · rename_i vma₁ host₁ hm
    cases h
    exact ⟨((driBoMap_stagingOk hbo hm hinv.staging).1 (.inr rfl)).2, hinv.ids, hinv.path⟩
  · rename_i p vma₁ host₁ hm
    cases h
    have hd := driBoMap_stagingOk hbo hm hinv.staging
    by_cases h0 : bo.priv.stagingSize = 0
    · obtain ⟨rfl, hok⟩ := hd.1 (.inl h0)
      exact ⟨by simpa [Held.staging, freshVma] using hok,
        List.nodup_cons.2 ⟨hfresh, hinv.ids⟩,
        List.forall_mem_cons.2 ⟨⟨bo, hb, .inl ⟨h0, rfl⟩⟩, hinv.path⟩⟩
    · obtain ⟨rfl, hok⟩ := hd.2 h0 p rfl
      exact ⟨by simpa [Held.staging, hb] using hok, List.nodup_cons.2 ⟨hfresh, hinv.ids⟩,
        List.forall_mem_cons.2 ⟨⟨bo, hb, .inr ⟨h0, _, rfl⟩⟩, hinv.path⟩⟩
  · cases h

theorem mapInv_unmap {bos : List Bo} {hbm : Hbm} {s s' : MapState} {id : Nat}
    {sync : SyncOutcome} (hinv : MapInv bos s) (h : mapStep bos hbm s (.unmap id sync) = some s') :
    MapInv bos s' := by
  simp only [mapStep] at h
  split at h
  · cases h
  rename_i m hfind
  have hm : m ∈ s.held := List.mem_of_find?_eq_some hfind
  obtain rfl : m.id = id := by simpa using List.find?_some hfind
  split at h
  · cases h
  rename_i bo hb
  have hbo : bo ∈ bos := List.getElem?_mem hb
  obtain ⟨bo', hb', hpath⟩ := hinv.path m hm
  rw [hb] at hb'
  cases hb'
  split at h
  · rename_i r host₁ hu
    cases h
    have hmem : ∀ n, m.vma.priv = some (.staging n) →
        (n, bo.priv.stagingSize) ∈ s.held.filterMap (Held.staging bos) := fun n hn =>
      List.mem_filterMap.2 ⟨m, hm, by simp [Held.staging, hn, hb]⟩
    have hd := driBoUnmap_stagingOk hbo hu hinv.staging fun h0 st hs => by
      rcases hpath with ⟨h0', -⟩ | ⟨-, n, hn⟩
      · exact absurd h0' h0
      · rw [hn] at hs; cases hs; exact ⟨n, rfl, hmem n hn⟩
    refine ⟨?_, hinv.ids.sublist ((List.filter_sublist _).map _),
      fun m' hm' => hinv.path m' (List.mem_filter.1 hm').1⟩
    rw [filterMap_filter_held hm hinv.ids hinv.staging.nodup]
    rcases hpath with ⟨h0, hp⟩ | ⟨h0, n, hp⟩
    · simpa [Held.staging, hp] using hd.1 h0
    · simpa [Held.staging, hp, hb] using hd.2 n h0 hp
  · cases h

theorem mapInv_step {bos : List Bo} {hbm : Hbm} {s s' : MapState} {a : MapAction}
    (hinv : MapInv bos s) (h : mapStep bos hbm s a = some s') : MapInv bos s' := by
  cases a with
  | map b id mapFlags o sync => exact mapInv_map hinv h
  | unmap id sync => exact mapInv_unmap hinv h

theorem mapInv_run {bos : List Bo} {hbm : Hbm} {s s' : MapState} {actions : List MapAction}
    (hinv : MapInv bos s) (h : mapRun bos hbm s actions = some s') : MapInv bos s' := by
  induction actions generalizing s with
  | nil => cases h; exact hinv
  | cons a actions ih =>
    obtain ⟨s₁, h₁, h₂⟩ := Option.bind_eq_some.1 h
    exact ih (mapInv_step hinv h₁) h₂

/-! ## Every call returns -/

/-- Held mappings have distinct names, so a name finds its mapping. -/
theorem find?_id {held : List Held} (hid : (held.map Held.id).Nodup) {m : Held} (hm : m ∈ held) :
    held.find? (·.id == m.id) = some m := by
  have hs : (held.find? (·.id == m.id)).isSome := List.find?_isSome.2 ⟨m, hm, by simp⟩
  obtain ⟨m', hf⟩ := Option.isSome_iff_exists.1 hs
  rw [hf, List.inj_on_of_nodup_map hid (List.mem_of_find?_eq_some hf) hm
    (by simpa using List.find?_some hf)]

/-- From every state a run reaches, unmapping a held mapping returns once its wait ends, whatever
the copy of `hbm_sync` reports, and drops that mapping. -/
theorem mapStep_unmap_returns {bos : List Bo} {hbm : Hbm} {s : MapState} (hinv : MapInv bos s)
    {m : Held} (hm : m ∈ s.held) {sync : SyncOutcome} (hend : ∃ r ∈ sync.polls, ¬r.Retry) :
    ∃ host', mapStep bos hbm s (.unmap m.id sync) = some ⟨host', s.held.filter (·.id != m.id)⟩ := by
  obtain ⟨bo, hb, hpath⟩ := hinv.path m hm
  have hu := driBoUnmap_returns hpath s.host hend
  simp only [mapStep, find?_id hinv.ids hm, hb]
  rcases hd : driBoUnmap s.host bo m.vma sync with ⟨_ | r, host'⟩
  · rw [hd] at hu
    cases hu
  · exact ⟨host', rfl⟩

/-- From every state, a map of a known bo under a name not in use returns once its wait ends,
whatever the copy of `hbm_sync` reports. -/
theorem mapStep_map_returns {bos : List Bo} {hbm : Hbm} (s : MapState) {b id : Nat}
    (hb : b < bos.length) (hid : id ∉ s.held.map Held.id) (mapFlags : UInt32) (o : MapOutcome)
    {sync : SyncOutcome} (hend : ∃ r ∈ sync.polls, ¬r.Retry) :
    (mapStep bos hbm s (.map b id mapFlags o sync)).isSome := by
  have hany : s.held.any (·.id == id) = false := by simpa using hid
  have hm := driBoMap_returns s.host hbm bos[b] freshVma mapFlags o hend
  simp only [mapStep, List.getElem?_eq_getElem hb, hany]
  rcases hd : driBoMap s.host hbm bos[b] freshVma mapFlags o sync with ⟨_ | (_ | _), vma, host'⟩
  · rw [hd] at hm
    cases hm
  · rfl
  · rfl

/-! ## Staging bos over a run -/

/-- Every run of `dri_bo_map` and `dri_bo_unmap` from a host that has made no call yet, with any
external call free to fail. The log obeys the staging machine: a staging bo is used and copied
only while alive, every copy between it and a resource's bo is of that resource's
`staging_size`, and none is destroyed twice. The staging bos alive are exactly those the held
mappings keep in `vma->priv`, so a map that returned `MAP_FAILED` leaves none behind. Each
staging bo is created at most once, and destroyed once unless a held mapping keeps it. Every
held mapping's vma records the path its bo takes, and `hbm_unmap` of it takes that path.
The run can always go on: once its wait ends, an unmap of a held mapping returns and drops it,
and a map of a known bo under a name not in use returns. -/
theorem mapRun_staging {bos : List Bo} {hbm : Hbm} {host : Host} {actions : List MapAction}
    {s : MapState} (hcalls : host.calls = []) (h : mapRun bos hbm ⟨host, []⟩ actions = some s) :
    (∃ st, s.host.staging bos = some st ∧ st.live = s.held.filterMap (Held.staging bos)) ∧
    (∀ n, s.host.calls.countP (Call.createsStaging n) ≤ 1 ∧
      s.host.calls.countP (Call.createsStaging n) =
        s.host.calls.countP (Call.destroysStaging n) +
          (isLive (s.held.filterMap (Held.staging bos)) n).toNat) ∧
    (∀ m ∈ s.held, ∃ bo, bos[m.bo]? = some bo ∧ MapPath bo m.vma ∧
      ∀ host', (hbmUnmap host' bo.priv m.vma).isSome) ∧
    (∀ m ∈ s.held, ∀ sync : SyncOutcome, (∃ r ∈ sync.polls, ¬r.Retry) →
      ∃ host', mapStep bos hbm s (.unmap m.id sync) = some ⟨host', s.held.filter (·.id != m.id)⟩) ∧
    (∀ b < bos.length, ∀ id ∉ s.held.map Held.id, ∀ mapFlags o, ∀ sync : SyncOutcome,
      (∃ r ∈ sync.polls, ¬r.Retry) → (mapStep bos hbm s (.map b id mapFlags o sync)).isSome) := by
  have hinv := mapInv_run (mapInv_init bos hcalls) h
  obtain ⟨st, hst, hlive, -⟩ := hinv.staging
  refine ⟨⟨st, hst, hlive⟩, fun n => ?_, fun m hm => ?_,
    fun _ hm _ hend => mapStep_unmap_returns hinv hm hend,
    fun _ hb _ hid mapFlags o _ hend => mapStep_map_returns s hb hid mapFlags o hend⟩
  · obtain ⟨hcount, hone⟩ := Host.staging_count hst n
    exact ⟨hone, hlive ▸ hcount⟩
  · obtain ⟨bo, hb, hpath⟩ := hinv.path m hm
    exact ⟨bo, hb, hpath, hbmUnmap_isSome hpath⟩

/-- A staged resource whose first mapping fails at `hbm_bo_bind_memory`, then is mapped for
reading and writing and unmapped, while a directly mapped resource stays mapped. -/
theorem mapRun_staging_mixed :
    ∃ (bos : List Bo) (hbm : Hbm),
      bos = [⟨100, 100, ⟨0, drmFormatArgb8888, true, -1, 40000, [0], [400]⟩⟩,
        ⟨64, 64, ⟨1, drmFormatArgb8888, true, -1, 0, [], []⟩⟩] ∧
      hbm = ⟨hbmMemoryTypeMappable ||| hbmMemoryTypeCoherent⟩ ∧
      ∃ s, mapRun bos hbm ⟨⟨0, 0, []⟩, []⟩
        [.map 0 0 boMapRead ⟨true, false, true⟩ ⟨[], true⟩,
          .map 0 1 (boMapRead ||| boMapWrite) ⟨true, true, true⟩ ⟨[], true⟩,
          .map 1 2 boMapWrite ⟨true, true, true⟩ ⟨[], true⟩,
          .unmap 1 ⟨[], true⟩] = some s ∧
      (∃ st, s.host.staging bos = some st ∧ st.live = s.held.filterMap (Held.staging bos)) ∧
      (∀ n, s.host.calls.countP (Call.createsStaging n) ≤ 1 ∧
        s.host.calls.countP (Call.createsStaging n) =
          s.host.calls.countP (Call.destroysStaging n) +
            (isLive (s.held.filterMap (Held.staging bos)) n).toNat) ∧
      (∀ m ∈ s.held, ∃ bo, bos[m.bo]? = some bo ∧ MapPath bo m.vma ∧
        ∀ host', (hbmUnmap host' bo.priv m.vma).isSome) ∧
      (∀ m ∈ s.held, ∀ sync : SyncOutcome, (∃ r ∈ sync.polls, ¬r.Retry) →
        ∃ host', mapStep bos hbm s (.unmap m.id sync) =
          some ⟨host', s.held.filter (·.id != m.id)⟩) ∧
      (∀ b < bos.length, ∀ id ∉ s.held.map Held.id, ∀ mapFlags o, ∀ sync : SyncOutcome,
        (∃ r ∈ sync.polls, ¬r.Retry) → (mapStep bos hbm s (.map b id mapFlags o sync)).isSome) :=
  ⟨_, _, rfl, rfl, Exists.imp (fun _ h => ⟨h, mapRun_staging rfl h⟩) ⟨_, rfl⟩⟩

end Minigbm
