import Minigbm.Dmabuf.Backend

/-!
# Brackets of CPU access in the dma-buf backend

`dmabuf_bo_map` opens a bracket of CPU access on a bo's first descriptor with
`DMA_BUF_SYNC_START` once `mmap` succeeds, `dmabuf_bo_unmap` closes it with `DMA_BUF_SYNC_END`
before `munmap`, and `dmabuf_bo_flush` closes and reopens it. No other entry point syncs
(`Kernel.Quiet`, `DmabufSystem.step_quiet`).

Along every run from a fresh driver the brackets balance (`dmabufRun_syncBalanced`): on the
descriptor of every bo the caller holds, the starts are the ends plus one for each mapping of
that bo the caller holds, and on no descriptor are there more ends than starts. The ledger of
`dmabufRun_descriptors` is what makes this hold: two bos never share a descriptor, so a sync on
one bo's descriptor is not counted for another, and a new bo's descriptors are fresh, so no
earlier sync is counted for it.
-/

namespace Minigbm

/-! ## Calls that do not sync -/

/-- The entry points that bracket CPU access: `map`, `unmap` and `flush`. -/
def DmabufOp.syncs : DmabufOp → Bool
  | .map .. | .unmap _ | .flush _ => true
  | _ => false

/-- From `k` to `k'` the backend makes no `DMA_BUF_IOCTL_SYNC` call. -/
def Kernel.Quiet (k k' : Kernel) : Prop :=
  ∀ fd, k'.calls.count (.syncStart fd) = k.calls.count (.syncStart fd) ∧
    k'.calls.count (.syncEnd fd) = k.calls.count (.syncEnd fd)

namespace Kernel.Quiet

variable {k k₁ k' : Kernel}

theorem refl (k : Kernel) : k.Quiet k := fun _ => ⟨rfl, rfl⟩

theorem trans (h₁ : k.Quiet k₁) (h₂ : k₁.Quiet k') : k.Quiet k' :=
  fun fd => ⟨(h₂ fd).1.trans (h₁ fd).1, (h₂ fd).2.trans (h₁ fd).2⟩

theorem emit {call : DmabufCall} (hs : ∀ fd, call ≠ .syncStart fd)
    (he : ∀ fd, call ≠ .syncEnd fd) : k.Quiet (k.emit call) := fun fd => by
  simp [Kernel.emit, List.count_cons, hs fd, he fd]

theorem fresh_emit (ok : Bool) {mk : Int → DmabufCall} (hs : ∀ fd fd', mk fd ≠ .syncStart fd')
    (he : ∀ fd fd', mk fd ≠ .syncEnd fd') :
    k.Quiet ((k.fresh ok).2.emit (mk (k.fresh ok).1)) := by
  have hc : (k.fresh ok).2.calls = k.calls := by cases ok <;> rfl
  intro fd
  rw [← hc]
  exact emit (hs _) (he _) fd

theorem openHeap {path : HeapPath} {ok : Bool} {fd : Int} (h : k.openHeap path ok = (fd, k')) :
    k.Quiet k' := by
  obtain ⟨rfl, rfl⟩ := Prod.ext_iff.1 h
  exact fresh_emit ok (fun _ _ => DmabufCall.noConfusion) fun _ _ => DmabufCall.noConfusion

theorem dup {fd result : Int} {ok : Bool} (h : k.dup fd ok = (result, k')) : k.Quiet k' := by
  obtain ⟨rfl, rfl⟩ := Prod.ext_iff.1 h
  exact fresh_emit _ (fun _ _ => DmabufCall.noConfusion) fun _ _ => DmabufCall.noConfusion

theorem heapAlloc {heapFd fd : Int} {len : Nat} {ok : Bool}
    (h : k.heapAlloc heapFd len ok = (fd, k')) : k.Quiet k' := by
  obtain ⟨rfl, rfl⟩ := Prod.ext_iff.1 h
  exact fresh_emit ok (fun _ _ => DmabufCall.noConfusion) fun _ _ => DmabufCall.noConfusion

theorem uniqueFdReset (fd : Int) : k.Quiet (uniqueFdReset k fd) := by
  unfold Minigbm.uniqueFdReset
  split_ifs
  · exact refl k
  · exact emit (fun _ => DmabufCall.noConfusion) fun _ => DmabufCall.noConfusion

theorem destroyFds (fds : List Int) : k.Quiet (Minigbm.destroyFds fds k) := by
  induction fds with
  | nil => exact refl k
  | cons fd fds ih => exact ih.trans (uniqueFdReset fd)

end Kernel.Quiet

section quiet

variable {k k' : Kernel}

theorem openHeapOrDup_quiet {path : HeapPath} {ok dupOk : Bool} {fallback fd : Int}
    (h : openHeapOrDup k path ok fallback dupOk = (fd, k')) : k.Quiet k' := by
  unfold openHeapOrDup at h
  rcases h1 : k.openHeap path ok with ⟨fd1, k1⟩
  rw [h1] at h
  dsimp only at h
  split_ifs at h
  · exact (Kernel.Quiet.openHeap h1).trans (.dup h)
  · cases h
    exact .openHeap h1

theorem dmabufOpenHeaps_quiet {ans : HeapAnswers} {drv : Option DmabufDriver}
    (h : dmabufOpenHeaps ans k = (drv, k')) : k.Quiet k' := by
  unfold dmabufOpenHeaps at h
  rcases h1 : k.openHeap .system ans.system with ⟨system, k1⟩
  rw [h1] at h
  dsimp only at h
  split_ifs at h
  · cases h
    exact .openHeap h1
  · rcases h2 : openHeapOrDup k1 .systemUncached ans.systemUncached system ans.dupUncached
      with ⟨uncached, k2⟩
    rw [h2] at h
    rcases h3 : openHeapOrDup k2 .cma ans.cma system ans.dupCma with ⟨cma, k3⟩
    rw [h3] at h
    cases h
    exact ((Kernel.Quiet.openHeap h1).trans (openHeapOrDup_quiet h2)).trans
      (openHeapOrDup_quiet h3)

theorem dmabufGetOrInitDriver_quiet {priv drv : Option DmabufDriver} {ans : HeapAnswers}
    (h : dmabufGetOrInitDriver priv ans k = (drv, k')) : k.Quiet k' := by
  cases priv with
  | some d =>
    cases h
    exact .refl k
  | none => exact dmabufOpenHeaps_quiet h

theorem dmabufDriverClose_quiet (priv : Option DmabufDriver) :
    k.Quiet (dmabufDriverClose priv k) := by
  cases priv with
  | some d => exact .destroyFds d.fds
  | none => exact .refl k

theorem dupPlanes_quiet {src : Nat → Int} {dupOk : Nat → Bool} {n plane : Nat}
    {priv priv' : DmabufBoPriv} (h : dupPlanes src dupOk n plane priv k = some (priv', k')) :
    k.Quiet k' := by
  induction n generalizing plane priv k with
  | zero =>
    simp only [dupPlanes, Option.some.injEq, Prod.mk.injEq] at h
    obtain ⟨-, rfl⟩ := h
    exact .refl k
  | succ n ih =>
    simp only [dupPlanes] at h
    split_ifs at h
    · rcases hd : k.dup (src plane) (dupOk plane) with ⟨fd, k1⟩
      rw [hd] at h
      exact ((Kernel.Quiet.dup hd).trans (.uniqueFdReset _)).trans (ih h)

/-- `dmabuf_bo_create2` does not sync, and hands back the driver `dmabuf_get_or_init_driver`
gave it. -/
theorem dmabufBoCreate2Fds_quiet {priv drv : Option DmabufDriver} {width height : Nat}
    {format : UInt32} {useFlags : UInt64} {testOnly : Bool} {ans : CreateAnswers} {ret : Int}
    {bo : Option (DmabufBoPriv × Nat)}
    (h : dmabufBoCreate2Fds priv width height format useFlags testOnly ans k =
      some (ret, bo, drv, k')) :
    k.Quiet k' ∧ drv = (dmabufGetOrInitDriver priv ans.heaps k).1 := by
  unfold dmabufBoCreate2Fds at h
  rcases hi : dmabufGetOrInitDriver priv ans.heaps k with ⟨drv₀, k₁⟩
  rw [hi] at h
  dsimp only at h ⊢
  have q₁ := dmabufGetOrInitDriver_quiet hi
  split at h
  · rename_i alloc d _
    rcases ha : k₁.heapAlloc (if alloc.heap = .cma then d.cmaHeapFd else d.systemHeapFd)
      alloc.len ans.allocErrno.isNone with ⟨bufFd, k₂⟩
    rw [ha] at h
    dsimp only at h
    have q₂ := q₁.trans (Kernel.Quiet.heapAlloc ha)
    split_ifs at h
    · cases h
      exact ⟨q₂, rfl⟩
    · split at h
      · rename_i hplanes
        cases h
        refine ⟨((q₂.trans (.emit (fun _ => DmabufCall.noConfusion)
          fun _ => DmabufCall.noConfusion)).trans (dupPlanes_quiet hplanes)).trans
          (.uniqueFdReset _), rfl⟩
      · cases h
  · cases h
    exact ⟨q₁, rfl⟩

theorem dmabufBoImport_quiet {numPlanes : Nat} {fds : Nat → Int} {dupOk : Nat → Bool}
    {ret : Int} {priv : Option DmabufBoPriv}
    (h : dmabufBoImport none numPlanes fds dupOk k = some (ret, priv, k')) : k.Quiet k' := by
  simp only [dmabufBoImport, Option.map_eq_some'] at h
  obtain ⟨⟨bo, k₁⟩, hplanes, heq⟩ := h
  cases heq
  exact dupPlanes_quiet hplanes

theorem dmabufBoDestroy_quiet (priv : Option DmabufBoPriv) :
    k.Quiet (dmabufBoDestroy priv k) := by
  cases priv with
  | some p => exact .destroyFds p.fds
  | none => exact .refl k

theorem dmabufBoGetPlaneFd_quiet {priv : Option DmabufBoPriv} {plane : Nat} {ok : Bool}
    {fd : Int} (h : dmabufBoGetPlaneFd priv plane ok k = some (fd, k')) : k.Quiet k' := by
  cases priv with
  | none => cases h
  | some p =>
    simp only [dmabufBoGetPlaneFd] at h
    split_ifs at h
    exact .dup (Option.some.inj h)

end quiet

/-! ## What the ledger says of bos -/

/-- A descriptor held after a stretch of calls and not before it was obtained in it. -/
theorem Kernel.Moves.le_of_not_held {k k' : Kernel} {before after given : List Int} {fd : Int}
    (h : k.Moves k' before after given) (hb : before.count fd = 0) (ha : fd ∈ after) :
    k.nextFd ≤ fd := by
  obtain ⟨new, -, -, -, hf, hcount⟩ := h
  have h1 := hcount fd
  have h2 := List.count_pos_iff.2 ha
  exact (hf fd (List.count_pos_iff.1 (by omega))).1

/-- From a kernel with no call yet, what is held was obtained, so lies below the counter. -/
theorem Kernel.Moves.lt_of_held {n : Nat} {k' : Kernel} {held given : List Int} {fd : Int}
    (h : (⟨n, []⟩ : Kernel).Moves k' [] held given) (hfd : fd ∈ held) : fd < k'.nextFd := by
  obtain ⟨new, -, -, -, hf, hcount⟩ := h
  have h1 := hcount fd
  have h2 := List.count_pos_iff.2 hfd
  simp only [List.count_nil, add_zero] at h1
  exact (hf fd (List.count_pos_iff.1 (by omega))).2

theorem Kernel.Moves.nextFd_le {k k' : Kernel} {before after given : List Int}
    (h : k.Moves k' before after given) : k.nextFd ≤ k'.nextFd := by
  obtain ⟨_, -, hn, -⟩ := h
  exact hn

/-- `priv->fds[0]`: the descriptor `dmabuf_bo_map`, `dmabuf_bo_unmap` and `dmabuf_bo_flush` map
and sync. -/
def DmabufBoPriv.firstFd (priv : DmabufBoPriv) : Int := priv.fds.getD 0 (-1)

theorem DmabufBoPriv.firstFd_mem {priv : DmabufBoPriv} (h : priv.firstFd ≠ -1) :
    priv.firstFd ∈ live priv.fds := by
  have hlen : 0 < priv.fds.length := by rw [priv.length_fds]; decide
  refine List.mem_filter.2 ⟨?_, by simpa using h⟩
  rw [firstFd, List.getD_eq_getElem?_getD, List.getElem?_eq_getElem hlen]
  exact List.getElem_mem hlen

/-- `dmabuf_bo_map` maps the first descriptor and opens a bracket on it exactly when `mmap`
succeeds, which needs a descriptor. -/
theorem dmabufBoMap_spec (priv : DmabufBoPriv) (totalSize : Nat) (ok : Bool) (k : Kernel) :
    dmabufBoMap priv totalSize ok k =
      if ok && priv.firstFd != -1 then
        (true, (k.emit (.mmap priv.firstFd totalSize true)).emit (.syncStart priv.firstFd))
      else (false, k.emit (.mmap priv.firstFd totalSize false)) := by
  unfold DmabufBoPriv.firstFd
  cases h : (ok && priv.fds.getD 0 (-1) != -1) <;>
    simp only [dmabufBoMap, h, ↓reduceIte, Bool.false_eq_true]

/-- The first descriptor of a bo that is held after a stretch of calls, besides all that was
held before, is `-1` or was obtained in the stretch. -/
theorem DmabufBoPriv.firstFd_fresh {k k' : Kernel} {before after given : List Int}
    (h : k.Moves k' before after given) (hone : ∀ fd, after.count fd ≤ 1) {priv : DmabufBoPriv}
    (hafter : ∀ fd, before.count fd + (live priv.fds).count fd ≤ after.count fd) :
    priv.firstFd = -1 ∨ k.nextFd ≤ priv.firstFd := by
  by_cases h0 : priv.firstFd = -1
  · exact .inl h0
  · have h1 := hafter priv.firstFd
    have h2 := List.count_pos_iff.2 (firstFd_mem h0)
    have h3 := hone priv.firstFd
    exact .inr (h.le_of_not_held (by omega) (List.count_pos_iff.1 (by omega)))

/-- `dmabuf_get_or_init_driver` keeps every heap descriptor the driver had. -/
theorem driverHeld_le_getOrInit (priv : Option DmabufDriver) (ans : HeapAnswers) (k : Kernel)
    (fd : Int) :
    (driverHeld priv).count fd ≤ (driverHeld (dmabufGetOrInitDriver priv ans k).1).count fd := by
  cases priv with
  | some d => exact le_rfl
  | none => exact Nat.zero_le _

namespace DmabufSystem

theorem bo_lt {s : DmabufSystem} {i : Nat} {bo : DmabufBo} (h : s.bo i = some bo) :
    i < s.bos.length := by
  by_contra hi
  simp [DmabufSystem.bo, List.getD_eq_getElem?_getD, List.getElem?_eq_none (not_lt.1 hi)] at h

theorem vma_lt {s : DmabufSystem} {v : Nat} {vma : DmabufVma} (h : s.vma v = some vma) :
    v < s.vmas.length := by
  by_contra hv
  simp [DmabufSystem.vma, List.getD_eq_getElem?_getD, List.getElem?_eq_none (not_lt.1 hv)] at h

theorem getD_append_none {α : Type} {l : List (Option α)} {x : Option α} {i : Nat} {a : α}
    (h : (l ++ [x]).getD i none = some a) :
    (i < l.length ∧ l.getD i none = some a) ∨ (i = l.length ∧ x = some a) := by
  rw [List.getD_eq_getElem?_getD] at h
  rcases Nat.lt_or_ge i l.length with hi | hi
  · rw [List.getElem?_append_left hi] at h
    exact .inl ⟨hi, by rwa [List.getD_eq_getElem?_getD]⟩
  · rw [List.getElem?_append_right hi] at h
    rcases Nat.eq_or_lt_of_le hi with rfl | hi'
    · simpa using h
    · rw [List.getElem?_eq_none (by rw [List.length_singleton]; omega)] at h
      cases h

theorem getD_set_none {α : Type} (l : List (Option α)) (i j : Nat) :
    (l.set i none).getD j none = if i = j then none else l.getD j none := by
  simp only [List.getD_eq_getElem?_getD, List.getElem?_set]
  split_ifs <;> simp

theorem bosHeld_cons (bo : Option DmabufBo) (bos : List (Option DmabufBo)) :
    bosHeld (bo :: bos) = privHeld (bo.map DmabufBo.priv) ++ bosHeld bos := rfl

theorem mem_of_getD {α : Type} {l : List (Option α)} {i : Nat} {a : α}
    (h : l.getD i none = some a) : some a ∈ l := by
  rw [List.getD_eq_getElem?_getD] at h
  rcases hx : l[i]? with _ | x
  · rw [hx] at h
    cases h
  · rw [hx, Option.getD_some] at h
    exact h ▸ List.getElem?_mem hx

theorem mem_bosHeld {bos : List (Option DmabufBo)} {i : Nat} {bo : DmabufBo}
    (h : bos.getD i none = some bo) {fd : Int} (hfd : fd ∈ live bo.priv.fds) :
    fd ∈ bosHeld bos :=
  List.mem_flatMap.2 ⟨some bo, mem_of_getD h, hfd⟩

/-- The descriptors of a bo the caller holds are held by the backend. -/
theorem mem_held {s : DmabufSystem} {i : Nat} {bo : DmabufBo} (h : s.bo i = some bo) {fd : Int}
    (hfd : fd ∈ live bo.priv.fds) : fd ∈ s.held :=
  List.mem_append_right _ (mem_bosHeld h hfd)

/-- Two bos that hold the same descriptor make the bos hold it twice. -/
theorem count_bosHeld_two {bos : List (Option DmabufBo)} {i j : Nat} (hij : i ≠ j)
    {b b' : DmabufBo} (hi : bos.getD i none = some b) (hj : bos.getD j none = some b')
    {fd : Int} (hb : fd ∈ live b.priv.fds) (hb' : fd ∈ live b'.priv.fds) :
    2 ≤ (bosHeld bos).count fd := by
  induction bos generalizing i j with
  | nil => cases hi
  | cons x bos ih =>
    rw [bosHeld_cons, List.count_append]
    cases i with
    | zero =>
      cases j with
      | zero => exact absurd rfl hij
      | succ j =>
        rw [List.getD_cons_zero] at hi
        rw [List.getD_cons_succ] at hj
        subst hi
        have h1 : 1 ≤ (privHeld ((some b).map DmabufBo.priv)).count fd := List.count_pos_iff.2 hb
        have h2 := List.count_pos_iff.2 (mem_bosHeld hj hb')
        omega
    | succ i =>
      cases j with
      | zero =>
        rw [List.getD_cons_zero] at hj
        rw [List.getD_cons_succ] at hi
        subst hj
        have h1 : 1 ≤ (privHeld ((some b').map DmabufBo.priv)).count fd :=
          List.count_pos_iff.2 hb'
        have h2 := List.count_pos_iff.2 (mem_bosHeld hi hb)
        omega
      | succ j =>
        have := ih (fun h => hij (by rw [h])) hi hj
        omega

/-- While the backend holds each descriptor at most once, a descriptor names at most one bo. -/
theorem bo_eq_of_fd {s : DmabufSystem} (hone : ∀ fd, s.held.count fd ≤ 1) {i j : Nat}
    {b b' : DmabufBo} (hi : s.bo i = some b) (hj : s.bo j = some b') {fd : Int}
    (hb : fd ∈ live b.priv.fds) (hb' : fd ∈ live b'.priv.fds) : i = j := by
  by_contra hij
  have h2 := count_bosHeld_two hij hi hj hb hb'
  have h1 := hone fd
  simp only [held, List.count_append] at h1
  omega

/-- The mappings the caller holds of bo `i`. -/
def mappings (s : DmabufSystem) (i : Nat) : Nat := s.vmas.countP fun v => v.any (·.bo == i)

/-! ## The invariant -/

/-- The brackets of CPU access balance. -/
structure SyncBalanced (s : DmabufSystem) : Prop where
  /-- A mapping is of a bo the caller made. -/
  vma_bo : ∀ vma, some vma ∈ s.vmas → vma.bo < s.bos.length
  /-- A bo the caller has mapped has a first descriptor. -/
  vma_firstFd : ∀ vma bo, some vma ∈ s.vmas → s.bo vma.bo = some bo → bo.priv.firstFd ≠ -1
  /-- No sync on `-1` or on a descriptor not handed out yet. -/
  sync_fresh : ∀ fd : Int, fd = -1 ∨ s.kernel.nextFd ≤ fd →
    s.kernel.calls.count (.syncStart fd) = 0 ∧ s.kernel.calls.count (.syncEnd fd) = 0
  /-- No bracket is closed more often than it was opened. -/
  ends_le : ∀ fd, s.kernel.calls.count (.syncEnd fd) ≤ s.kernel.calls.count (.syncStart fd)
  /-- The brackets open on a bo's descriptor are its mappings. -/
  balanced : ∀ i bo, s.bo i = some bo →
    s.kernel.calls.count (.syncStart bo.priv.firstFd) =
      s.kernel.calls.count (.syncEnd bo.priv.firstFd) + s.mappings i

theorem SyncBalanced.init (nextFd : Nat) : (init nextFd).SyncBalanced where
  vma_bo _ h := by cases h
  vma_firstFd _ _ h := by cases h
  sync_fresh _ _ := ⟨rfl, rfl⟩
  ends_le _ := le_rfl
  balanced _ _ h := by cases h

theorem mappings_eq_zero {s : DmabufSystem} (hb : s.SyncBalanced) {i : Nat}
    (hi : s.bos.length ≤ i) : s.mappings i = 0 := by
  refine List.countP_eq_zero.2 fun v hv hp => ?_
  rcases v with _ | vma
  · cases hp
  · have := hb.vma_bo vma hv
    simp only [Option.any_some, beq_iff_eq] at hp
    omega

theorem count_emit (k : Kernel) (c x : DmabufCall) :
    (k.emit c).calls.count x = k.calls.count x + if c = x then 1 else 0 := by
  simp [Kernel.emit, List.count_cons]

/-- A step that makes no sync, keeps the mappings and only adds bos whose descriptors are fresh
keeps the brackets balanced. -/
theorem SyncBalanced.quiet {s s' : DmabufSystem} (hb : s.SyncBalanced)
    (hq : s.kernel.Quiet s'.kernel) (hn : s.kernel.nextFd ≤ s'.kernel.nextFd)
    (hv : s'.vmas = s.vmas) (hlen : s.bos.length ≤ s'.bos.length)
    (hbo : ∀ i bo, s'.bo i = some bo → s.bo i = some bo ∨
      s.bos.length ≤ i ∧ (bo.priv.firstFd = -1 ∨ s.kernel.nextFd ≤ bo.priv.firstFd)) :
    s'.SyncBalanced where
  vma_bo vma h := (hb.vma_bo vma (hv ▸ h)).trans_le hlen
  vma_firstFd vma bo h h' := by
    rcases hbo _ _ h' with h' | ⟨hge, -⟩
    · exact hb.vma_firstFd vma bo (hv ▸ h) h'
    · exact absurd (hb.vma_bo vma (hv ▸ h)) (not_lt.2 hge)
  sync_fresh fd hfd := by
    rw [(hq fd).1, (hq fd).2]
    exact hb.sync_fresh fd (hfd.imp_right fun h => by omega)
  ends_le fd := by
    rw [(hq fd).1, (hq fd).2]
    exact hb.ends_le fd
  balanced i bo h := by
    have hm : s'.mappings i = s.mappings i := by rw [mappings, mappings, hv]
    rw [(hq _).1, (hq _).2, hm]
    rcases hbo i bo h with h' | ⟨hge, hfd⟩
    · exact hb.balanced i bo h'
    · rw [(hb.sync_fresh _ hfd).1, (hb.sync_fresh _ hfd).2, mappings_eq_zero hb hge]

theorem mappings_append {s s' : DmabufSystem} {i len : Nat}
    (hv : s'.vmas = s.vmas ++ [some ⟨i, len⟩]) (j : Nat) :
    s'.mappings j = s.mappings j + if i = j then 1 else 0 := by
  simp [mappings, hv, List.countP_append, List.countP_cons]

theorem mappings_set {s s' : DmabufSystem} {v : Nat} {vma : DmabufVma}
    (hvma : s.vma v = some vma) (hv : s'.vmas = s.vmas.set v none) (j : Nat) :
    s'.mappings j + (if vma.bo = j then 1 else 0) = s.mappings j := by
  have hvl := vma_lt hvma
  have hget : s.vmas[v] = some vma := by
    rwa [DmabufSystem.vma, List.getD_eq_getElem?_getD, List.getElem?_eq_getElem hvl,
      Option.getD_some] at hvma
  have hpos : (if vma.bo = j then 1 else 0) ≤ s.mappings j := by
    split_ifs with hj
    · exact List.countP_pos_iff.2 ⟨some vma, mem_of_getD hvma, by simp [hj]⟩
    · exact Nat.zero_le _
  unfold mappings at hpos ⊢
  rw [hv, List.countP_set _ _ _ _ hvl, hget]
  simp only [Option.any_some, Option.any_none, beq_iff_eq, Bool.false_eq_true, if_false,
    add_zero]
  omega

section cpuAccess

variable {s : DmabufSystem} (hlt : ∀ fd ∈ s.held, fd < s.kernel.nextFd)
include hlt

/-- A descriptor of a bo the caller holds is not one `sync_fresh` speaks of. -/
theorem firstFd_ne_of_fresh {i : Nat} {bo : DmabufBo} (hbo : s.bo i = some bo)
    (hfd : bo.priv.firstFd ≠ -1) {fd : Int} (h : fd = -1 ∨ s.kernel.nextFd ≤ fd) :
    bo.priv.firstFd ≠ fd := by
  have := hlt _ (mem_held hbo (DmabufBoPriv.firstFd_mem hfd))
  omega

/-- A successful `dmabuf_bo_map` opens one bracket for the one mapping it adds. -/
theorem SyncBalanced.map (hb : s.SyncBalanced) (hone : ∀ fd, s.held.count fd ≤ 1) {i : Nat}
    {bo : DmabufBo} (hbo : s.bo i = some bo) (hfd : bo.priv.firstFd ≠ -1) {len : Nat} {m : Bool}
    {s' : DmabufSystem} (hbos : s'.bos = s.bos) (hv : s'.vmas = s.vmas ++ [some ⟨i, len⟩])
    (hk : s'.kernel = (s.kernel.emit (.mmap bo.priv.firstFd len m)).emit
      (.syncStart bo.priv.firstFd)) :
    s'.SyncBalanced := by
  have hbo' : ∀ j, s'.bo j = s.bo j := fun j => by rw [DmabufSystem.bo, hbos]; rfl
  have hcount : ∀ fd, s'.kernel.calls.count (.syncStart fd) =
      s.kernel.calls.count (.syncStart fd) + (if bo.priv.firstFd = fd then 1 else 0) ∧
      s'.kernel.calls.count (.syncEnd fd) = s.kernel.calls.count (.syncEnd fd) := by
    simp [hk, count_emit]
  refine ⟨fun vma h => ?_, fun vma bo' h h' => ?_, fun fd hfd' => ?_, fun fd => ?_,
    fun j bo' h => ?_⟩
  · rw [hv] at h
    rcases List.mem_append.1 h with h | h
    · exact hbos ▸ hb.vma_bo vma h
    · cases List.mem_singleton.1 h
      exact hbos ▸ bo_lt hbo
  · rw [hv] at h
    rw [hbo'] at h'
    rcases List.mem_append.1 h with h | h
    · exact hb.vma_firstFd vma bo' h h'
    · cases List.mem_singleton.1 h
      cases hbo.symm.trans h'
      exact hfd
  · have hfd'' : fd = -1 ∨ s.kernel.nextFd ≤ fd := by rwa [hk] at hfd'
    rw [(hcount fd).1, (hcount fd).2, if_neg (firstFd_ne_of_fresh hlt hbo hfd hfd'')]
    exact hb.sync_fresh fd hfd''
  · rw [(hcount fd).1, (hcount fd).2]
    have := hb.ends_le fd
    omega
  · rw [hbo'] at h
    rw [(hcount _).1, (hcount _).2, mappings_append hv]
    have := hb.balanced j bo' h
    by_cases hij : i = j
    · subst hij
      cases hbo.symm.trans h
      simp only [if_true]
      omega
    · have hne : bo.priv.firstFd ≠ bo'.priv.firstFd := fun heq => by
        have hfd' : bo'.priv.firstFd ≠ -1 := heq ▸ hfd
        exact hij (bo_eq_of_fd hone hbo h (DmabufBoPriv.firstFd_mem hfd)
          (heq ▸ DmabufBoPriv.firstFd_mem hfd'))
      simp only [hne, hij, if_false, add_zero]
      exact this

/-- `dmabuf_bo_unmap` closes the bracket of the mapping it drops. -/
theorem SyncBalanced.unmap (hb : s.SyncBalanced) (hone : ∀ fd, s.held.count fd ≤ 1) {v : Nat}
    {vma : DmabufVma} (hvma : s.vma v = some vma) {bo : DmabufBo} (hbo : s.bo vma.bo = some bo)
    {s' : DmabufSystem} (hbos : s'.bos = s.bos) (hv : s'.vmas = s.vmas.set v none)
    (hk : s'.kernel = (s.kernel.emit (.syncEnd bo.priv.firstFd)).emit (.munmap vma.length)) :
    s'.SyncBalanced := by
  have hfd := hb.vma_firstFd vma bo (mem_of_getD hvma) hbo
  have hbo' : ∀ j, s'.bo j = s.bo j := fun j => by rw [DmabufSystem.bo, hbos]; rfl
  have hstart : ∀ fd, s'.kernel.calls.count (.syncStart fd) =
      s.kernel.calls.count (.syncStart fd) := by simp [hk, count_emit]
  have hend : ∀ fd, s'.kernel.calls.count (.syncEnd fd) =
      s.kernel.calls.count (.syncEnd fd) + if bo.priv.firstFd = fd then 1 else 0 := by
    simp [hk, count_emit]
  have hm := mappings_set hvma hv
  have hbal := hb.balanced _ _ hbo
  have hpos := hm vma.bo
  rw [if_pos rfl] at hpos
  refine ⟨fun vma' h => ?_, fun vma' bo' h h' => ?_, fun fd hfd' => ?_, fun fd => ?_,
    fun j bo' h => ?_⟩
  · rw [hv] at h
    rcases List.mem_or_eq_of_mem_set h with h | h
    · exact hbos ▸ hb.vma_bo vma' h
    · cases h
  · rw [hv] at h
    rcases List.mem_or_eq_of_mem_set h with h | h
    · exact hb.vma_firstFd vma' bo' h (hbo' _ ▸ h')
    · cases h
  · have hfd'' : fd = -1 ∨ s.kernel.nextFd ≤ fd := by rwa [hk] at hfd'
    rw [hstart, hend, if_neg (firstFd_ne_of_fresh hlt hbo hfd hfd'')]
    exact hb.sync_fresh fd hfd''
  · rw [hstart, hend]
    have := hb.ends_le fd
    split_ifs with h
    · subst h
      omega
    · omega
  · rw [hbo'] at h
    rw [hstart, hend]
    have := hb.balanced j bo' h
    have := hm j
    by_cases hj : vma.bo = j
    · subst hj
      cases hbo.symm.trans h
      simp only [if_true] at *
      omega
    · have hne : bo.priv.firstFd ≠ bo'.priv.firstFd := fun heq => by
        have hfd' : bo'.priv.firstFd ≠ -1 := heq ▸ hfd
        exact hj (bo_eq_of_fd hone hbo h (DmabufBoPriv.firstFd_mem hfd)
          (heq ▸ DmabufBoPriv.firstFd_mem hfd'))
      simp only [hne, hj, if_false, add_zero] at *
      omega

/-- `dmabuf_bo_flush` closes and reopens the bracket of a mapping. -/
theorem SyncBalanced.flush (hb : s.SyncBalanced) {v : Nat} {vma : DmabufVma}
    (hvma : s.vma v = some vma) {bo : DmabufBo} (hbo : s.bo vma.bo = some bo)
    {s' : DmabufSystem} (hbos : s'.bos = s.bos) (hv : s'.vmas = s.vmas)
    (hk : s'.kernel =
      (s.kernel.emit (.syncEnd bo.priv.firstFd)).emit (.syncStart bo.priv.firstFd)) :
    s'.SyncBalanced := by
  have hfd := hb.vma_firstFd vma bo (mem_of_getD hvma) hbo
  have hbo' : ∀ j, s'.bo j = s.bo j := fun j => by rw [DmabufSystem.bo, hbos]; rfl
  have hcount : ∀ fd, s'.kernel.calls.count (.syncStart fd) =
      s.kernel.calls.count (.syncStart fd) + (if bo.priv.firstFd = fd then 1 else 0) ∧
      s'.kernel.calls.count (.syncEnd fd) =
      s.kernel.calls.count (.syncEnd fd) + if bo.priv.firstFd = fd then 1 else 0 := by
    simp [hk, count_emit]
  have hm : ∀ j, s'.mappings j = s.mappings j := fun j => by rw [mappings, mappings, hv]
  refine ⟨fun vma' h => hbos ▸ hb.vma_bo vma' (hv ▸ h),
    fun vma' bo' h h' => hb.vma_firstFd vma' bo' (hv ▸ h) (hbo' _ ▸ h'), fun fd hfd' => ?_,
    fun fd => ?_, fun j bo' h => ?_⟩
  · have hfd'' : fd = -1 ∨ s.kernel.nextFd ≤ fd := by rwa [hk] at hfd'
    rw [(hcount fd).1, (hcount fd).2, if_neg (firstFd_ne_of_fresh hlt hbo hfd hfd'')]
    exact hb.sync_fresh fd hfd''
  · rw [(hcount fd).1, (hcount fd).2]
    have := hb.ends_le fd
    omega
  · rw [hbo'] at h
    rw [(hcount _).1, (hcount _).2, hm]
    have := hb.balanced j bo' h
    omega

end cpuAccess

/-- A call other than `map`, `unmap` and `flush` makes no sync. -/
theorem step_quiet {s s' : DmabufSystem} {op : DmabufOp} (hop : op.syncs = false)
    (h : s.step op = some s') : s.kernel.Quiet s'.kernel := by
  cases op with
  | create width height format useFlags testOnly ans =>
    simp only [step, Option.map_eq_some'] at h
    obtain ⟨⟨ret, bo, drv, k⟩, hc, rfl⟩ := h
    exact (dmabufBoCreate2Fds_quiet hc).1
  | importBo numPlanes totalSize fds dupOk =>
    simp only [step, Option.map_eq_some'] at h
    obtain ⟨⟨ret, priv, k⟩, hc, rfl⟩ := h
    exact dmabufBoImport_quiet hc
  | destroy i =>
    cases h
    exact dmabufBoDestroy_quiet _
  | getPlaneFd i plane ok =>
    simp only [step, Option.map_eq_some'] at h
    obtain ⟨⟨fd, k⟩, hc, rfl⟩ := h
    exact dmabufBoGetPlaneFd_quiet hc
  | driverClose =>
    cases h
    exact dmabufDriverClose_quiet _
  | map | unmap | flush => cases hop

/-- Each call keeps the brackets balanced, given the ledger before and after it. -/
theorem step_syncBalanced {s s' : DmabufSystem} {op : DmabufOp} (hb : s.SyncBalanced)
    (hone : ∀ fd, s.held.count fd ≤ 1) (hone' : ∀ fd, s'.held.count fd ≤ 1)
    (hlt : ∀ fd ∈ s.held, fd < s.kernel.nextFd) (h : s.step op = some s') :
    s'.SyncBalanced := by
  obtain ⟨given, -, hmoves⟩ := step_moves h
  cases op with
  | create width height format useFlags testOnly ans =>
    simp only [step, Option.map_eq_some'] at h
    obtain ⟨⟨ret, bo, drv, k⟩, hc, rfl⟩ := h
    obtain ⟨hq, hdrv⟩ := dmabufBoCreate2Fds_quiet hc
    refine hb.quiet hq hmoves.nextFd_le rfl (by simp) fun j b hj => ?_
    rcases getD_append_none hj with ⟨-, hj⟩ | ⟨rfl, hx⟩
    · exact .inl hj
    · rcases bo with _ | ⟨priv, size⟩
      · cases hx
      cases hx
      refine .inr ⟨le_rfl, DmabufBoPriv.firstFd_fresh hmoves hone' fun fd => ?_⟩
      have := driverHeld_le_getOrInit s.driverPriv ans.heaps s.kernel fd
      simp only [held, bosHeld_append, List.count_append, hdrv, Option.map_some', privHeld]
      omega
  | importBo numPlanes totalSize fds dupOk =>
    simp only [step, Option.map_eq_some'] at h
    obtain ⟨⟨ret, priv, k⟩, hc, rfl⟩ := h
    refine hb.quiet (dmabufBoImport_quiet hc) hmoves.nextFd_le rfl (by simp) fun j b hj => ?_
    rcases getD_append_none hj with ⟨-, hj⟩ | ⟨rfl, hx⟩
    · exact .inl hj
    · rcases priv with _ | priv
      · cases hx
      cases hx
      refine .inr ⟨le_rfl, DmabufBoPriv.firstFd_fresh hmoves hone' fun fd => ?_⟩
      simp only [held, bosHeld_append, List.count_append, Option.map_some', privHeld]
      omega
  | destroy i =>
    simp only [step, Option.some.injEq] at h
    subst h
    refine hb.quiet (dmabufBoDestroy_quiet _) hmoves.nextFd_le rfl (by simp) fun j b hj => ?_
    simp only [DmabufSystem.bo, getD_set_none] at hj
    split_ifs at hj
    exact .inl hj
  | getPlaneFd i plane ok =>
    simp only [step, Option.map_eq_some'] at h
    obtain ⟨⟨fd, k⟩, hc, rfl⟩ := h
    exact hb.quiet (dmabufBoGetPlaneFd_quiet hc) hmoves.nextFd_le rfl le_rfl fun _ _ => .inl
  | map i ok =>
    simp only [step, Option.map_eq_some'] at h
    obtain ⟨bo, hbo, rfl⟩ := h
    by_cases hmap : (ok && bo.priv.firstFd != -1) = true
    · rw [dmabufBoMap_spec, if_pos hmap]
      simp only [Bool.and_eq_true, bne_iff_ne] at hmap
      exact hb.map hlt hone hbo hmap.2 rfl rfl rfl
    · rw [dmabufBoMap_spec, if_neg hmap]
      exact hb.quiet (.emit (fun _ => DmabufCall.noConfusion) fun _ => DmabufCall.noConfusion)
        le_rfl rfl le_rfl fun _ _ => .inl
  | unmap v =>
    simp only [step, Option.bind_eq_some, Option.map_eq_some'] at h
    obtain ⟨vma, hvma, bo, hbo, rfl⟩ := h
    exact hb.unmap hlt hone hvma hbo rfl rfl rfl
  | flush v =>
    simp only [step, Option.bind_eq_some, Option.map_eq_some'] at h
    obtain ⟨vma, hvma, bo, hbo, rfl⟩ := h
    exact hb.flush hlt hvma hbo rfl rfl rfl
  | driverClose =>
    simp only [step, Option.some.injEq] at h
    subst h
    exact hb.quiet (dmabufDriverClose_quiet _) hmoves.nextFd_le rfl le_rfl fun _ _ => .inl

/-- Along a run from a state the ledger reaches from a kernel with no call yet, the brackets
stay balanced. -/
theorem run_syncBalanced {n : Nat} {s s' : DmabufSystem} {ops : List DmabufOp}
    {given : List Int} (hs : (⟨n, []⟩ : Kernel).Moves s.kernel [] s.held given)
    (hb : s.SyncBalanced) (h : s.run ops = some s') : s'.SyncBalanced := by
  induction ops generalizing s given with
  | nil =>
    cases h
    exact hb
  | cons op ops ih =>
    simp only [run, Option.bind_eq_some] at h
    obtain ⟨s₁, h₁, h₂⟩ := h
    obtain ⟨g₁, -, m₁⟩ := step_moves h₁
    have hs₁ := hs.trans m₁
    exact ih hs₁ (step_syncBalanced hb (fun fd => (hs.held_open fd).1)
      (fun fd => (hs₁.held_open fd).1) (fun _ hfd => hs.lt_of_held hfd) h₁) h₂

end DmabufSystem

/-- Along every run of the backend from a fresh driver, `DMA_BUF_SYNC_END` is never issued on a
descriptor more often than `DMA_BUF_SYNC_START`, and on the first descriptor of every bo the
caller holds the starts are the ends plus one for each mapping of that bo the caller holds. No
call other than `map`, `unmap` and `flush` syncs, from any state. -/
theorem dmabufRun_syncBalanced {nextFd : Nat} {ops : List DmabufOp} {s : DmabufSystem}
    (h : (DmabufSystem.init nextFd).run ops = some s) :
    (∀ fd, s.kernel.calls.count (.syncEnd fd) ≤ s.kernel.calls.count (.syncStart fd)) ∧
      (∀ i bo, s.bo i = some bo →
        s.kernel.calls.count (.syncStart bo.priv.firstFd) =
          s.kernel.calls.count (.syncEnd bo.priv.firstFd) + s.mappings i) ∧
      ∀ (op : DmabufOp) (s₀ s₁ : DmabufSystem), op.syncs = false → s₀.step op = some s₁ →
        s₀.kernel.Quiet s₁.kernel := by
  have hb := DmabufSystem.run_syncBalanced (Kernel.Moves.refl ⟨nextFd, []⟩ [])
    (DmabufSystem.SyncBalanced.init nextFd) h
  exact ⟨hb.ends_le, hb.balanced, fun _ _ _ => DmabufSystem.step_quiet⟩

/-- NV12 with every heap present: the planes hold `7` and `8`. The bo is mapped, flushed, mapped
again and unmapped once, so `7` has seen three starts and two ends, and one mapping is held. -/
theorem dmabufRun_syncBalanced_remap :
    ∃ s, (DmabufSystem.init 3).run
        [.create 64 64 drmFormatNv12 boUseTexture false
          ⟨⟨true, true, true, true, true⟩, none, fun _ => true⟩,
         .map 0 true, .flush 0, .map 0 true, .unmap 0] = some s ∧
      s.kernel.calls.count (.syncStart 7) = 3 ∧ s.kernel.calls.count (.syncEnd 7) = 2 ∧
      s.mappings 0 = 1 ∧
      (∀ fd, s.kernel.calls.count (.syncEnd fd) ≤ s.kernel.calls.count (.syncStart fd)) ∧
      (∀ i bo, s.bo i = some bo →
        s.kernel.calls.count (.syncStart bo.priv.firstFd) =
          s.kernel.calls.count (.syncEnd bo.priv.firstFd) + s.mappings i) ∧
      ∀ (op : DmabufOp) (s₀ s₁ : DmabufSystem), op.syncs = false → s₀.step op = some s₁ →
        s₀.kernel.Quiet s₁.kernel :=
  ⟨_, rfl, rfl, rfl, rfl, @dmabufRun_syncBalanced 3
    [.create 64 64 drmFormatNv12 boUseTexture false
      ⟨⟨true, true, true, true, true⟩, none, fun _ => true⟩,
     .map 0 true, .flush 0, .map 0 true, .unmap 0] _ rfl⟩

end Minigbm
