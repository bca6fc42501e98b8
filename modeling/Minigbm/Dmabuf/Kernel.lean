import Mathlib.Data.List.Nodup
import Minigbm.Dmabuf.Create

/-!
# The kernel under the dma-buf heap backend

`dmabuf_internals.cpp` obtains descriptors from `open` on a heap device, from `dup` and from
`DMA_HEAP_IOCTL_ALLOC`. It never calls `close` itself: every descriptor it keeps sits in a
`UniqueFd`, which closes it when it is destroyed or assigned over. The model records the
backend's kernel calls in a log, with the descriptors they returned; a successful call returns
the next descriptor of a counter, a failed one `-1`.

`Kernel.Moves` is the ledger a stretch of calls keeps. The descriptors obtained in it are fresh,
each obtained once, and every descriptor held before the stretch or obtained in it is afterwards
closed once, still held, or handed to the caller. Stretches compose (`Kernel.Moves.trans`) and
leave alone what they do not touch (`Kernel.Moves.frame`).
-/

namespace Minigbm

/-- The heaps `dmabuf_get_or_init_driver` opens: `/dev/dma_heap/system`,
`/dev/dma_heap/system-uncached` and `/dev/dma_heap/linux,cma`. -/
inductive HeapPath where
  | system
  | systemUncached
  | cma
  deriving DecidableEq, Repr

/-- A kernel call of the backend and what it returned: a descriptor, or `-1`. -/
inductive DmabufCall where
  | openHeap (path : HeapPath) (fd : Int)
  | dup (fd result : Int)
  | close (fd : Int)
  /-- `DMA_HEAP_IOCTL_ALLOC` on a heap for `len` bytes, and the buffer's descriptor. -/
  | heapAlloc (heapFd : Int) (len : Nat) (fd : Int)
  /-- `DMA_BUF_SET_NAME`. -/
  | setName (fd : Int)
  | mmap (fd : Int) (length : Nat) (ok : Bool)
  | munmap (length : Nat)
  /-- `DMA_BUF_IOCTL_SYNC` with `DMA_BUF_SYNC_START | DMA_BUF_SYNC_RW`. -/
  | syncStart (fd : Int)
  /-- `DMA_BUF_IOCTL_SYNC` with `DMA_BUF_SYNC_END | DMA_BUF_SYNC_RW`. -/
  | syncEnd (fd : Int)
  deriving DecidableEq, Repr

/-- The next descriptor the kernel hands out, and the calls made so far, most recent first. -/
structure Kernel where
  nextFd : Nat
  calls : List DmabufCall
  deriving DecidableEq, Repr

namespace Kernel

def emit (k : Kernel) (call : DmabufCall) : Kernel := { k with calls := call :: k.calls }

/-- The descriptor a call returns: the next one when it succeeds, `-1` when it fails. -/
def fresh (k : Kernel) (ok : Bool) : Int × Kernel :=
  if ok then (k.nextFd, { k with nextFd := k.nextFd + 1 }) else (-1, k)

/-- `open(path, O_RDONLY | O_CLOEXEC)` of a heap. -/
def openHeap (k : Kernel) (path : HeapPath) (ok : Bool) : Int × Kernel :=
  let (fd, k) := k.fresh ok
  (fd, k.emit (.openHeap path fd))

/-- `dup(fd)`, which fails on `-1`. -/
def dup (k : Kernel) (fd : Int) (ok : Bool) : Int × Kernel :=
  let (result, k) := k.fresh (ok && fd != -1)
  (result, k.emit (.dup fd result))

/-- `DMA_HEAP_IOCTL_ALLOC`: `heap_data.fd` when it succeeds. -/
def heapAlloc (k : Kernel) (heapFd : Int) (len : Nat) (ok : Bool) : Int × Kernel :=
  let (fd, k) := k.fresh ok
  (fd, k.emit (.heapAlloc heapFd len fd))

end Kernel

/-- Modelled from `UniqueFd::reset` of `UniqueFd.h`, which is not among the sources: as the
backend uses it, a `UniqueFd` holds a descriptor or `-1` and closes the one it holds, unless that
is `-1`, when it is destroyed or assigned over. -/
def uniqueFdReset (k : Kernel) (fd : Int) : Kernel := if fd = -1 then k else k.emit (.close fd)

/-- The destruction of an object made of `UniqueFd`s: its members are destroyed last first. -/
def destroyFds (fds : List Int) (k : Kernel) : Kernel :=
  fds.foldr (fun fd k => uniqueFdReset k fd) k

/-- The descriptors of a list of `UniqueFd`s that are not empty. -/
def live (fds : List Int) : List Int := fds.filter (· != -1)

@[simp] theorem live_nil : live [] = [] := rfl

theorem live_append (xs ys : List Int) : live (xs ++ ys) = live xs ++ live ys :=
  List.filter_append ..

theorem count_live (fds : List Int) (fd : Int) :
    (live fds).count fd = if fd = -1 then 0 else fds.count fd := by
  split_ifs with h
  · exact List.count_eq_zero_of_not_mem (by simp [live, h])
  · exact List.count_filter (by simpa using h)

/-! ## The ledger -/

/-- The descriptor a call obtains for the backend. -/
def DmabufCall.acquired : DmabufCall → Option Int
  | .openHeap _ fd | .dup _ fd | .heapAlloc _ _ fd => if fd = -1 then none else some fd
  | _ => none

def acquiredOf (calls : List DmabufCall) : List Int := calls.filterMap DmabufCall.acquired

theorem acquiredOf_append (xs ys : List DmabufCall) :
    acquiredOf (xs ++ ys) = acquiredOf xs ++ acquiredOf ys :=
  List.filterMap_append ..

/-- From `k` to `k'` the backend obtains fresh descriptors, each once, and every descriptor it
held as `before` or obtained in between is afterwards closed once, held as `after`, or handed
to the caller as `given`. -/
def Kernel.Moves (k k' : Kernel) (before after given : List Int) : Prop :=
  ∃ new, k'.calls = new ++ k.calls ∧ k.nextFd ≤ k'.nextFd ∧ (acquiredOf new).Nodup ∧
    (∀ fd ∈ acquiredOf new, k.nextFd ≤ fd ∧ fd < k'.nextFd) ∧
    ∀ fd, new.count (.close fd) + after.count fd + given.count fd =
      (acquiredOf new).count fd + before.count fd

/-- Setting one entry of a list trades its old value for the new one, count by count. -/
theorem count_set_add {l : List Int} {i : Nat} (hi : i < l.length) (x d fd : Int) :
    (l.set i x).count fd + [l.getD i d].count fd = l.count fd + [x].count fd := by
  induction l generalizing i with
  | nil => cases hi
  | cons y l ih =>
    cases i with
    | zero => simp only [List.set_cons_zero, List.getD_cons_zero, List.count_cons]; omega
    | succ i =>
      have := ih (Nat.lt_of_succ_lt_succ hi)
      simp only [List.set_cons_succ, List.getD_cons_succ, List.count_cons] at this ⊢
      omega

theorem count_live_set {l : List Int} {i : Nat} (hi : i < l.length) (x fd : Int) :
    (live (l.set i x)).count fd + (live [l.getD i (-1)]).count fd =
      (live l).count fd + (live [x]).count fd := by
  simp only [count_live]
  split_ifs
  · rfl
  · exact count_set_add hi x (-1) fd

namespace Kernel.Moves

variable {k k₁ k₂ k' : Kernel} {held before mid after given given₁ given₂ : List Int}

theorem refl (k : Kernel) (held : List Int) : k.Moves k held held [] :=
  ⟨[], rfl, le_rfl, List.nodup_nil, by simp [acquiredOf], fun _ => by simp [acquiredOf]⟩

theorem trans (h₁ : k.Moves k₁ before mid given₁) (h₂ : k₁.Moves k₂ mid after given₂) :
    k.Moves k₂ before after (given₁ ++ given₂) := by
  obtain ⟨new₁, hc₁, hn₁, hnd₁, hf₁, hb₁⟩ := h₁
  obtain ⟨new₂, hc₂, hn₂, hnd₂, hf₂, hb₂⟩ := h₂
  refine ⟨new₂ ++ new₁, by rw [hc₂, hc₁, List.append_assoc], hn₁.trans hn₂, ?_, ?_,
    fun fd => ?_⟩
  · rw [acquiredOf_append]
    refine List.nodup_append.2 ⟨hnd₂, hnd₁, ?_⟩
    intro fd h₂ h₁
    have := (hf₂ fd h₂).1
    have := (hf₁ fd h₁).2
    omega
  · intro fd hfd
    rw [acquiredOf_append, List.mem_append] at hfd
    rcases hfd with hfd | hfd
    · have := hf₂ fd hfd
      exact ⟨by omega, this.2⟩
    · have := hf₁ fd hfd
      exact ⟨this.1, by omega⟩
  · have := hb₁ fd
    have := hb₂ fd
    simp only [List.count_append, acquiredOf_append]
    omega

/-- What a stretch of calls does not touch stays held. -/
theorem frame (held : List Int) (h : k.Moves k' before after given) :
    k.Moves k' (held ++ before) (held ++ after) given := by
  obtain ⟨new, hc, hn, hnd, hf, hb⟩ := h
  exact ⟨new, hc, hn, hnd, hf, fun fd => by have := hb fd; simp only [List.count_append]; omega⟩

/-- Only how often a descriptor is held counts, not where. -/
theorem congr {before' after' : List Int} (hb : ∀ fd, before.count fd = before'.count fd)
    (ha : ∀ fd, after.count fd = after'.count fd) (h : k.Moves k' before after given) :
    k.Moves k' before' after' given := by
  obtain ⟨new, hc, hn, hnd, hf, hcount⟩ := h
  exact ⟨new, hc, hn, hnd, hf, fun fd => by rw [← hb, ← ha]; exact hcount fd⟩

/-- Descriptors held at the end of a stretch may be handed to the caller instead. -/
theorem give {extra : List Int} (h : k.Moves k' before (after ++ extra) given) :
    k.Moves k' before after (given ++ extra) := by
  obtain ⟨new, hc, hn, hnd, hf, hb⟩ := h
  refine ⟨new, hc, hn, hnd, hf, fun fd => ?_⟩
  have := hb fd
  simp only [List.count_append] at *
  omega

/-- A call that neither obtains nor closes a descriptor. -/
theorem emit (held : List Int) {call : DmabufCall} (hacq : call.acquired = none)
    (hclose : ∀ fd, call ≠ .close fd) : k.Moves (k.emit call) held held [] := by
  refine ⟨[call], rfl, le_rfl, by simp [acquiredOf, hacq], by simp [acquiredOf, hacq],
    fun fd => ?_⟩
  simp [acquiredOf, hacq, List.count_singleton', (hclose fd).symm]

/-- A call that returns a fresh descriptor or `-1`: the descriptor is held afterwards. -/
theorem fresh_emit (held : List Int) (ok : Bool) {mk : Int → DmabufCall}
    (hmk : ∀ fd, (mk fd).acquired = if fd = -1 then none else some fd)
    (hclose : ∀ fd fd', mk fd ≠ .close fd') :
    k.Moves ((k.fresh ok).2.emit (mk (k.fresh ok).1)) held (held ++ live [(k.fresh ok).1]) [] := by
  cases ok
  · refine ⟨[mk (-1)], rfl, le_rfl, ?_, ?_, fun fd => ?_⟩ <;>
      simp [Kernel.fresh, acquiredOf, hmk, live, List.count_singleton', (hclose _ _).symm]
  · refine ⟨[mk k.nextFd], rfl, Nat.le_succ _, ?_, ?_, fun fd => ?_⟩ <;>
      simp [Kernel.fresh, Kernel.emit, acquiredOf, hmk, live, List.count_singleton',
        (hclose _ _).symm]
    omega

theorem openHeap (held : List Int) {path : HeapPath} {ok : Bool} {fd : Int}
    (h : k.openHeap path ok = (fd, k')) : k.Moves k' held (held ++ live [fd]) [] := by
  obtain ⟨rfl, rfl⟩ := Prod.ext_iff.1 h
  exact fresh_emit held ok (fun _ => rfl) fun _ _ => DmabufCall.noConfusion

theorem dup (held : List Int) {fd result : Int} {ok : Bool} (h : k.dup fd ok = (result, k')) :
    k.Moves k' held (held ++ live [result]) [] := by
  obtain ⟨rfl, rfl⟩ := Prod.ext_iff.1 h
  exact fresh_emit held _ (fun _ => rfl) fun _ _ => DmabufCall.noConfusion

theorem heapAlloc (held : List Int) {heapFd fd : Int} {len : Nat} {ok : Bool}
    (h : k.heapAlloc heapFd len ok = (fd, k')) : k.Moves k' held (held ++ live [fd]) [] := by
  obtain ⟨rfl, rfl⟩ := Prod.ext_iff.1 h
  exact fresh_emit held ok (fun _ => rfl) fun _ _ => DmabufCall.noConfusion

/-- A `UniqueFd` given up closes what it held. -/
theorem uniqueFdReset (held : List Int) (fd : Int) :
    k.Moves (uniqueFdReset k fd) (held ++ live [fd]) held [] := by
  unfold Minigbm.uniqueFdReset
  split_ifs with h
  · simpa [live, h] using refl k held
  · refine ⟨[.close fd], rfl, le_rfl, by simp [acquiredOf, DmabufCall.acquired],
      by simp [acquiredOf, DmabufCall.acquired], fun fd' => ?_⟩
    simp [acquiredOf, DmabufCall.acquired, live, h, List.count_singleton']
    omega

/-- Destroying an object of `UniqueFd`s closes every descriptor it held. -/
theorem destroyFds (held fds : List Int) :
    k.Moves (Minigbm.destroyFds fds k) (held ++ live fds) held [] := by
  induction fds generalizing held with
  | nil => simpa using refl k held
  | cons fd fds ih =>
    rw [show fd :: fds = [fd] ++ fds from rfl, live_append, ← List.append_assoc]
    exact (ih (held ++ live [fd])).trans (uniqueFdReset held fd)

/-- From a kernel with no call yet, a descriptor is held at most once, and one still held was
obtained and never closed. -/
theorem held_open {nextFd : Nat} (h : (⟨nextFd, []⟩ : Kernel).Moves k' [] held given)
    (fd : Int) :
    held.count fd ≤ 1 ∧
      (fd ∈ held → fd ∈ acquiredOf k'.calls ∧ k'.calls.count (.close fd) = 0) := by
  obtain ⟨new, hc, -, hnd, -, hcount⟩ := h
  rw [List.append_nil] at hc
  have h1 := hcount fd
  have h2 := List.nodup_iff_count_le_one.1 hnd fd
  simp only [List.count_nil, add_zero] at h1
  rw [hc]
  refine ⟨by omega, fun hfd => ?_⟩
  have h3 := List.count_pos_iff.2 hfd
  exact ⟨List.count_pos_iff.1 (by omega), by omega⟩

end Kernel.Moves

end Minigbm
