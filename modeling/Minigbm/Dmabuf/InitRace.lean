import Mathlib.Data.FinEnum
import Minigbm.Dmabuf.Backend

/-!
# Concurrent calls of `dmabuf_get_or_init_driver`

`dmabuf_get_or_init_driver` tests `drv->priv`, opens the heaps when it is empty, and stores a
new `DmabufDriverPriv` there, with no lock. `dmabuf_bo_create2` calls it first, for every
request. A call here takes three atomic steps: reading `drv->priv`, opening the heaps
(`dmabufOpenHeaps`), and storing `drv->priv`. One call per thread of a finite type `τ`, the
calls interleave at these steps in any order (`InitRace.run` over a schedule); alone, a call
is `dmabufGetOrInitDriver` (`InitRace.run_alone`).

Every `DmabufDriverPriv` the calls make is recorded, oldest first; `dmabuf_driver_close` deletes
only the one `drv->priv` points to. When two calls both read `drv->priv` before either stores
it, both open the heaps and the second store overwrites the first `DmabufDriverPriv`. One call
then returns a driver that `drv->priv` does not hold, and its heap descriptors stay open after
`dmabuf_driver_close` (`initRace_leaks`, for two threads). That overlap is the only way to lose
a driver: on a schedule where no two calls are ever both between the read and the store, every
call that returns a driver returns `drv->priv`, and once no call holds heaps it has not stored,
`dmabuf_driver_close` closes every heap descriptor opened, once each (`initRace_serial_closes`,
for any number of threads).
-/

namespace Minigbm

/-- Where a call of `dmabuf_get_or_init_driver` is. -/
inductive InitPc where
  | check
  | openHeaps
  | store (drv : DmabufDriver)
  | done (drv : Option DmabufDriver)
  deriving DecidableEq, Repr

/-- A call that has read an empty `drv->priv` and not yet stored its driver. -/
def InitPc.SawEmpty : InitPc → Prop
  | .openHeaps | .store _ => True
  | _ => False

instance InitPc.decidableSawEmpty : DecidablePred InitPc.SawEmpty
  | .openHeaps | .store _ => isTrue trivial
  | .check | .done _ => isFalse id

/-- What a call returned, once it has. -/
def InitPc.returned : InitPc → Option DmabufDriver
  | .done drv => drv
  | _ => none

@[simp] theorem InitPc.returned_done (drv : Option DmabufDriver) :
    (InitPc.done drv).returned = drv := rfl

/-- The descriptors of the driver a call has made and not yet stored. -/
def InitPc.held : InitPc → List Int
  | .store drv => live drv.fds
  | _ => []

/-- Calls on one `struct driver`, one for each thread of `τ`: `drv->priv`, every
`DmabufDriverPriv` made so far (oldest first), the kernel, and where each call is. -/
structure InitRace (τ : Type) where
  priv : Option DmabufDriver
  made : List DmabufDriver
  kernel : Kernel
  pc : τ → InitPc

/-- With the system heap, opening the heaps makes a driver. -/
theorem dmabufOpenHeaps_some {ans : HeapAnswers} (h : ans.system = true) (k : Kernel) :
    ∃ drv, (dmabufOpenHeaps ans k).1 = some drv := by
  simp only [dmabufOpenHeaps, Kernel.openHeap, Kernel.fresh, h, ↓reduceIte]
  rw [if_neg (by omega)]
  exact ⟨_, rfl⟩

theorem dmabufOpenHeaps_systemHeapFd {ans : HeapAnswers} {k k' : Kernel} {drv : DmabufDriver}
    (h : dmabufOpenHeaps ans k = (some drv, k')) : drv.systemHeapFd ≠ -1 := by
  unfold dmabufOpenHeaps at h
  rcases h1 : k.openHeap .system ans.system with ⟨system, k1⟩
  rw [h1] at h
  dsimp only at h
  split_ifs at h with hs
  · cases h
  · cases h
    exact hs

/-- The two threads of a race between two calls. -/
instance finEnumBool : FinEnum Bool := FinEnum.ofList [false, true] (by decide)

@[simp] theorem toList_bool : FinEnum.toList Bool = [false, true] := rfl

namespace InitRace

section run

variable {τ : Type}

/-- Every call about to start, on a driver with an empty `drv->priv`. -/
def init (nextFd : Nat) : InitRace τ := ⟨none, [], ⟨nextFd, []⟩, fun _ => .check⟩

section held

variable [FinEnum τ]

/-- What the kernel holds for the calls: the heaps of every `DmabufDriverPriv` made, and of the
drivers made and not yet stored. -/
def heldOf (made : List DmabufDriver) (pc : τ → InitPc) : List Int :=
  made.flatMap (fun drv => live drv.fds) ++ (FinEnum.toList τ).flatMap fun t => (pc t).held

def held (s : InitRace τ) : List Int := heldOf s.made s.pc

theorem held_init (nextFd : Nat) : (init nextFd : InitRace τ).held = [] := by
  simp [held, heldOf, init, InitPc.held]

end held

variable [DecidableEq τ]

/-- One step of call `t`. -/
def step (ans : τ → HeapAnswers) (s : InitRace τ) (t : τ) : InitRace τ :=
  match s.pc t with
  | .check =>
    match s.priv with
    | some drv => { s with pc := Function.update s.pc t (.done (some drv)) }
    | none => { s with pc := Function.update s.pc t .openHeaps }
  | .openHeaps =>
    let (drv, k) := dmabufOpenHeaps (ans t) s.kernel
    { s with kernel := k,
             pc := Function.update s.pc t (match drv with
               | some drv => .store drv
               | none => .done none) }
  | .store drv =>
    { s with priv := some drv, made := s.made ++ [drv],
             pc := Function.update s.pc t (.done (some drv)) }
  | .done _ => s

section stepEq

variable {ans : τ → HeapAnswers} {s : InitRace τ} {t : τ}

theorem step_check_none (hpc : s.pc t = .check) (hp : s.priv = none) :
    s.step ans t = { s with pc := Function.update s.pc t .openHeaps } := by
  simp [step, hpc, hp]

theorem step_check_some {drv : DmabufDriver} (hpc : s.pc t = .check) (hp : s.priv = some drv) :
    s.step ans t = { s with pc := Function.update s.pc t (.done (some drv)) } := by
  simp [step, hpc, hp]

theorem step_openHeaps (hpc : s.pc t = .openHeaps) :
    s.step ans t =
      { s with
        kernel := (dmabufOpenHeaps (ans t) s.kernel).2
        pc := Function.update s.pc t (match (dmabufOpenHeaps (ans t) s.kernel).1 with
          | some drv => .store drv
          | none => .done none) } := by
  simp only [step, hpc]

theorem step_store {drv : DmabufDriver} (hpc : s.pc t = .store drv) :
    s.step ans t =
      { s with
        priv := some drv
        made := s.made ++ [drv]
        pc := Function.update s.pc t (.done (some drv)) } := by
  simp only [step, hpc]

theorem step_of_done {drv : Option DmabufDriver} (hpc : s.pc t = .done drv) :
    s.step ans t = s := by
  simp only [step, hpc]

end stepEq

/-- The steps of a schedule, each naming the call that moves. -/
def run (ans : τ → HeapAnswers) (s : InitRace τ) (sched : List τ) : InitRace τ :=
  sched.foldl (step ans) s

theorem run_append (ans : τ → HeapAnswers) (s : InitRace τ) (xs ys : List τ) :
    s.run ans (xs ++ ys) = (s.run ans xs).run ans ys :=
  List.foldl_append ..

/-- A call that runs alone does what `dmabuf_get_or_init_driver` does. -/
theorem run_alone (ans : τ → HeapAnswers) (s : InitRace τ) (t : τ) (hpc : s.pc t = .check) :
    (s.run ans [t, t, t]).pc t = .done (dmabufGetOrInitDriver s.priv (ans t) s.kernel).1 ∧
      (s.run ans [t, t, t]).kernel = (dmabufGetOrInitDriver s.priv (ans t) s.kernel).2 := by
  rcases hp : s.priv with _ | drv
  · rcases ho : dmabufOpenHeaps (ans t) s.kernel with ⟨_ | drv, k⟩ <;>
      simp [run, step, hpc, hp, ho, dmabufGetOrInitDriver]
  · simp [run, step, hpc, hp, dmabufGetOrInitDriver]

/-- Over threads each listed once, moving thread `t` from `g t` to `v` trades what it held. -/
theorem count_flatMap_update {l : List τ} (hl : l.Nodup) {t : τ} (ht : t ∈ l)
    (g : τ → List Int) (v : List Int) (fd : Int) :
    (l.flatMap (Function.update g t v)).count fd + (g t).count fd =
      (l.flatMap g).count fd + v.count fd := by
  induction l with
  | nil => cases ht
  | cons a l ih =>
    obtain ⟨ha, hl⟩ := List.nodup_cons.1 hl
    simp only [List.flatMap_cons, List.count_append]
    by_cases hat : a = t
    · subst hat
      rw [List.flatMap_congr fun x hx => Function.update_noteq (ne_of_mem_of_not_mem hx ha) v g,
        Function.update_same]
      omega
    · have := ih hl ((List.mem_cons.1 ht).resolve_left (Ne.symm hat))
      rw [Function.update_noteq hat]
      omega

section ledger

variable [FinEnum τ]

theorem heldOf_update (made : List DmabufDriver) (pc : τ → InitPc) (t : τ) (p : InitPc)
    (fd : Int) :
    (heldOf made (Function.update pc t p)).count fd + (pc t).held.count fd =
      (heldOf made pc).count fd + p.held.count fd := by
  have hpc : (fun t' => (Function.update pc t p t').held) =
      Function.update (fun t' => (pc t').held) t p.held :=
    funext (Function.apply_update (fun _ => InitPc.held) pc t p)
  have := count_flatMap_update FinEnum.nodup_toList (FinEnum.mem_toList t)
    (fun t' => (pc t').held) p.held fd
  simp only [heldOf, List.count_append, hpc]
  omega

/-- Each step keeps the ledger of the heap descriptors. -/
theorem step_moves (ans : τ → HeapAnswers) (s : InitRace τ) (t : τ) :
    s.kernel.Moves (s.step ans t).kernel s.held (s.step ans t).held [] := by
  -- moving call `t` from a place that holds nothing to `p`
  have hupd : ∀ p : InitPc, (s.pc t).held = [] → ∀ fd,
      (s.held ++ p.held).count fd = (heldOf s.made (Function.update s.pc t p)).count fd := by
    intro p h0 fd
    have := heldOf_update s.made s.pc t p fd
    rw [h0, List.count_nil] at this
    rw [List.count_append, held]
    omega
  have hnone : ∀ p : InitPc, (s.pc t).held = [] → p.held = [] →
      s.kernel.Moves s.kernel s.held (heldOf s.made (Function.update s.pc t p)) [] :=
    fun p h0 hp => ((Kernel.Moves.refl _ []).frame s.held).congr (by simp) fun fd => by
      rw [← hp]
      exact hupd p h0 fd
  rcases hpc : s.pc t with _ | _ | drv | drv
  · have h0 : (s.pc t).held = [] := by rw [hpc]; rfl
    rcases hp : s.priv with _ | drv
    · rw [step_check_none hpc hp]
      exact hnone _ h0 rfl
    · rw [step_check_some hpc hp]
      exact hnone _ h0 rfl
  · rw [step_openHeaps hpc]
    rcases ho : dmabufOpenHeaps (ans t) s.kernel with ⟨drv, k⟩
    have h0 : (s.pc t).held = [] := by rw [hpc]; rfl
    refine ((dmabufOpenHeaps_moves ho).frame s.held).congr (by simp) fun fd => ?_
    rcases drv with _ | drv
    · exact hupd (.done none) h0 fd
    · exact hupd (.store drv) h0 fd
  · rw [step_store hpc]
    refine (Kernel.Moves.refl _ _).congr (fun _ => rfl) fun fd => ?_
    have hupd := heldOf_update (s.made ++ [drv]) s.pc t (.done (some drv)) fd
    have hmade : (heldOf (s.made ++ [drv]) s.pc).count fd =
        s.held.count fd + (live drv.fds).count fd := by
      simp only [held, heldOf, List.flatMap_append, List.flatMap_singleton, List.count_append]
      omega
    rw [hpc] at hupd
    simp only [InitPc.held, List.count_nil] at hupd
    show _ = (heldOf (s.made ++ [drv]) (Function.update s.pc t (.done (some drv)))).count fd
    omega
  · rw [step_of_done hpc]
    exact .refl _ _

theorem run_moves (ans : τ → HeapAnswers) (s : InitRace τ) (sched : List τ) :
    s.kernel.Moves (s.run ans sched).kernel s.held (s.run ans sched).held [] := by
  induction sched generalizing s with
  | nil => exact .refl _ _
  | cons t sched ih => exact (step_moves ans s t).trans (ih (s.step ans t))

end ledger

/-! ## Until a call returns, nothing is stored -/

theorem step_pc_other {ans : τ → HeapAnswers} {s : InitRace τ} {t t' : τ} (htt : t' ≠ t) :
    (s.step ans t).pc t' = s.pc t' := by
  unfold step
  split <;> (try split) <;> simp [Function.update_noteq htt]

theorem step_done {ans : τ → HeapAnswers} {s : InitRace τ} {t t' : τ}
    {drv : Option DmabufDriver} (h : s.pc t' = .done drv) : (s.step ans t).pc t' = .done drv := by
  by_cases htt : t' = t
  · subst htt
    rw [step_of_done h, h]
  · rw [step_pc_other htt, h]

/-- A driver made and not yet stored has its system heap. -/
def Opened (s : InitRace τ) : Prop := ∀ t drv, s.pc t = .store drv → drv.systemHeapFd ≠ -1

theorem step_opened (ans : τ → HeapAnswers) {s : InitRace τ} (t : τ) (h : s.Opened) :
    (s.step ans t).Opened := by
  intro t' drv hst
  by_cases htt : t' = t
  · subst htt
    revert hst
    unfold step
    rcases hpc : s.pc t' with _ | _ | drv' | drv'
    · rcases s.priv with _ | drv' <;> simp only [Function.update_same, reduceCtorEq, false_implies]
    · rcases ho : dmabufOpenHeaps (ans t') s.kernel with ⟨_ | drv', k⟩
      · simp only [Function.update_same, reduceCtorEq, false_implies]
      · simp only [Function.update_same, InitPc.store.injEq]
        rintro rfl
        exact dmabufOpenHeaps_systemHeapFd ho
    · simp only [Function.update_same, reduceCtorEq, false_implies]
    · simp only [hpc, reduceCtorEq, false_implies]
  · rw [step_pc_other htt] at hst
    exact h t' drv hst

theorem run_opened (ans : τ → HeapAnswers) {s : InitRace τ} (sched : List τ) (h : s.Opened) :
    (s.run ans sched).Opened := by
  induction sched generalizing s with
  | nil => exact h
  | cons t sched ih => exact ih (step_opened ans t h)

/-- Nothing is stored while no call has returned. -/
def Unstored (s : InitRace τ) : Prop :=
  (∀ t drv, s.pc t ≠ .done drv) → s.priv = none ∧ s.made = []

theorem step_unstored (ans : τ → HeapAnswers) {s : InitRace τ} (t : τ) (h : s.Unstored) :
    (s.step ans t).Unstored := by
  intro hnd
  obtain ⟨hp, hm⟩ := h fun t' drv hd => hnd t' drv (step_done hd)
  unfold step
  split
  · rw [hp]
    exact ⟨rfl, hm⟩
  · exact ⟨hp, hm⟩
  · rename_i drv hpc
    exact absurd (by simp [step, hpc]) (hnd t (some drv))
  · exact ⟨hp, hm⟩

theorem run_unstored (ans : τ → HeapAnswers) {s : InitRace τ} (sched : List τ)
    (h : s.Unstored) : (s.run ans sched).Unstored := by
  induction sched generalizing s with
  | nil => exact h
  | cons t sched ih => exact ih (step_unstored ans t h)

end run

/-! ## After two calls both read an empty `drv->priv` -/

/-- The drivers the two calls have returned. -/
def returned (s : InitRace Bool) : List DmabufDriver :=
  [(s.pc false).returned, (s.pc true).returned].filterMap id

/-- Both calls are past an empty `drv->priv`: each is opening the heaps, storing its driver, or
has returned the driver it stored. The `DmabufDriverPriv`s made are those of the drivers
returned, and `drv->priv` is the last made. -/
def Racing (s : InitRace Bool) : Prop :=
  (∀ t, s.pc t = .openHeaps ∨ (∃ drv, s.pc t = .store drv ∧ drv.systemHeapFd ≠ -1) ∨
      ∃ drv, s.pc t = .done (some drv) ∧ drv.systemHeapFd ≠ -1) ∧
    s.made.Perm s.returned ∧ s.priv = s.made.getLast?

theorem returned_update (s : InitRace Bool) (t : Bool) (drv : DmabufDriver)
    (h : (s.pc t).returned = none) :
    (returned { s with pc := Function.update s.pc t (.done (some drv)) }).Perm
      (drv :: s.returned) := by
  cases t <;> simp [returned, Function.update_apply, h]
  rcases (s.pc false).returned with _ | drv'
  · rfl
  · exact .swap _ _ _

theorem step_racing {ans : Bool → HeapAnswers} (hopen : ∀ t, (ans t).system = true)
    {s : InitRace Bool} (t : Bool) (h : s.Racing) : (s.step ans t).Racing := by
  obtain ⟨hpc, hmade, hpriv⟩ := h
  -- the other call keeps its place
  have hother : ∀ p : InitPc, (p = .openHeaps ∨ (∃ drv, p = .store drv ∧ drv.systemHeapFd ≠ -1) ∨
      ∃ drv, p = .done (some drv) ∧ drv.systemHeapFd ≠ -1) → ∀ t',
      Function.update s.pc t p t' = .openHeaps ∨
        (∃ drv, Function.update s.pc t p t' = .store drv ∧ drv.systemHeapFd ≠ -1) ∨
        ∃ drv, Function.update s.pc t p t' = .done (some drv) ∧ drv.systemHeapFd ≠ -1 := by
    intro p hp t'
    rw [Function.update_apply]
    split_ifs
    exacts [hp, hpc t']
  rcases hpc t with hopenpc | ⟨drv, hstore, hfd⟩ | ⟨drv, hdone, -⟩
  · obtain ⟨drv, hdrv⟩ := dmabufOpenHeaps_some (hopen t) s.kernel
    have hfd := dmabufOpenHeaps_systemHeapFd (Prod.ext hdrv rfl)
    rw [step_openHeaps hopenpc, hdrv]
    refine ⟨hother _ (.inr (.inl ⟨drv, rfl, hfd⟩)), hmade.trans (List.Perm.of_eq ?_), hpriv⟩
    cases t <;> simp only [returned, Function.update_apply, hopenpc, InitPc.returned,
      Bool.true_eq_false, Bool.false_eq_true, ↓reduceIte]
  · rw [step_store hstore]
    refine ⟨hother _ (.inr (.inr ⟨drv, rfl, hfd⟩)), ?_, by simp⟩
    exact (List.perm_append_singleton _ _).trans ((hmade.cons drv).trans
      (returned_update { s with made := s.made ++ [drv], priv := some drv } t drv
        (by simp [hstore, InitPc.returned])).symm)
  · rw [step_of_done hdone]
    exact ⟨hpc, hmade, hpriv⟩

theorem run_racing {ans : Bool → HeapAnswers} (hopen : ∀ t, (ans t).system = true)
    {s : InitRace Bool} (sched : List Bool) (h : s.Racing) : (s.run ans sched).Racing := by
  induction sched generalizing s with
  | nil => exact h
  | cons t sched ih => exact ih (step_racing hopen t h)

/-- From two calls on an empty `drv->priv`, a point where both have read it and none has stored
is a race. -/
theorem racing_of_sawEmpty {ans : Bool → HeapAnswers} {nextFd : Nat} {pre : List Bool}
    (hboth : ∀ t, (((init nextFd).run ans pre).pc t).SawEmpty) :
    ((init nextFd).run ans pre).Racing := by
  have hnd : ∀ t drv, ((init nextFd).run ans pre).pc t ≠ .done drv := fun t drv h => by
    simpa [h, InitPc.SawEmpty] using hboth t
  obtain ⟨hp, hm⟩ := run_unstored ans pre (s := init nextFd) (fun _ => ⟨rfl, rfl⟩) hnd
  have hop := run_opened ans pre (s := init nextFd) fun _ _ h => by cases h
  refine ⟨fun t => ?_, ?_, by rw [hp, hm]; rfl⟩
  · have := hboth t
    rcases hpc : ((init nextFd).run ans pre).pc t with _ | _ | drv | drv <;>
      rw [hpc] at this
    · exact this.elim
    · exact .inl rfl
    · exact .inr (.inl ⟨drv, rfl, hop t drv hpc⟩)
    · exact this.elim
  · have hret : ∀ t, (((init nextFd).run ans pre).pc t).returned = none := fun t => by
      rcases hpc : ((init nextFd).run ans pre).pc t with _ | _ | drv | drv
      · rfl
      · rfl
      · rfl
      · exact absurd hpc (hnd t drv)
    simp [hm, returned, hret]

/-! ## Calls that do not overlap -/

section serial

variable {τ : Type}

/-- Two calls are both between reading an empty `drv->priv` and storing their driver. -/
def Overlap (s : InitRace τ) : Prop := ∃ t t', t ≠ t' ∧ (s.pc t).SawEmpty ∧ (s.pc t').SawEmpty

/-- What holds while the calls do not overlap: a call that returned a driver returned
`drv->priv`, the only `DmabufDriverPriv` made is the one `drv->priv` holds, and a call past an
empty `drv->priv` finds it still empty. -/
structure Serial (s : InitRace τ) : Prop where
  returned : ∀ t drv, s.pc t = .done (some drv) → s.priv = some drv
  made : s.made = s.priv.toList
  sawEmpty : ∀ t, (s.pc t).SawEmpty → s.priv = none

theorem Serial.init (nextFd : Nat) : (init nextFd : InitRace τ).Serial where
  returned _ _ h := by cases h
  made := rfl
  sawEmpty _ _ := rfl

variable [DecidableEq τ]

instance decidableOverlap (s : InitRace τ) [Fintype τ] : Decidable s.Overlap := by
  unfold Overlap
  infer_instance

theorem step_serial {ans : τ → HeapAnswers} {s : InitRace τ} (t : τ) (h : s.Serial)
    (hno : ¬s.Overlap) : (s.step ans t).Serial := by
  obtain ⟨hret, hmade, hsaw⟩ := h
  rcases hpc : s.pc t with _ | _ | drv | drv
  · -- `check`: read `drv->priv`
    rcases hp : s.priv with _ | d
    · rw [step_check_none hpc hp]
      refine ⟨fun t' drv h' => ?_, hmade, fun _ _ => hp⟩
      simp only [Function.update_apply] at h' ⊢
      split_ifs at h'
      exact hret t' drv h'
    · rw [step_check_some hpc hp]
      refine ⟨fun t' drv h' => ?_, hmade, fun t' h' => ?_⟩ <;>
        simp only [Function.update_apply] at h' ⊢ <;> split_ifs at h'
      · cases h'
        exact hp
      · exact hret t' drv h'
      · exact h'.elim
      · exact hsaw t' h'
  · -- `openHeaps`: the heaps are opened, nothing is stored
    rw [step_openHeaps hpc]
    refine ⟨fun t' drv' h' => ?_, hmade, hsaw t (by rw [hpc]; trivial) ▸ fun _ _ => rfl⟩
    simp only [Function.update_apply] at h' ⊢
    split_ifs at h'
    · split at h' <;> cases h'
    · exact hret t' drv' h'
  · -- `store`: the other call has not read an empty `drv->priv`, nor returned a driver
    have hp := hsaw t (by rw [hpc]; trivial)
    rw [step_store hpc]
    refine ⟨fun t' drv' h' => ?_, by simp [hmade, hp], fun t' h' => ?_⟩ <;>
      simp only [Function.update_apply] at h' ⊢ <;> split_ifs at h' with htt
    · cases h'
      rfl
    · exact absurd (hp ▸ hret t' drv' h') (by simp)
    · exact h'.elim
    · exact absurd ⟨t, t', Ne.symm htt, by rw [hpc]; trivial, h'⟩ hno
  · rw [step_of_done hpc]
    exact ⟨hret, hmade, hsaw⟩

theorem run_serial {ans : τ → HeapAnswers} {s : InitRace τ} (sched : List τ) (h : s.Serial)
    (hno : ∀ n ≤ sched.length, ¬(s.run ans (sched.take n)).Overlap) :
    (s.run ans sched).Serial := by
  induction sched generalizing s with
  | nil => exact h
  | cons t sched ih =>
    refine ih (step_serial t h (hno 0 (Nat.zero_le _))) fun n hn => ?_
    simpa [run] using hno (n + 1) (by simpa using hn)

end serial

end InitRace

/-- Take two calls of `dmabuf_get_or_init_driver` on a driver whose `drv->priv` is empty, heaps
that open, and any schedule of their steps. If both calls read `drv->priv` before either stores
it, then once both have returned, one of them has returned a driver that `drv->priv` does not
hold, and after `dmabuf_driver_close` every heap descriptor of that driver is still open. -/
theorem initRace_leaks {ans : Bool → HeapAnswers} {nextFd : Nat} {pre post : List Bool}
    {s : InitRace Bool} (hopen : ∀ t, (ans t).system = true)
    (hboth : ∀ t, (((InitRace.init nextFd).run ans pre).pc t).SawEmpty)
    (hs : (InitRace.init nextFd).run ans (pre ++ post) = s)
    (hdone : ∀ t, ∃ drv, s.pc t = .done drv) :
    ∃ t drv, s.pc t = .done (some drv) ∧ s.priv ≠ some drv ∧
      ∀ fd ∈ live drv.fds, fd ∈ acquiredOf (dmabufDriverClose s.priv s.kernel).calls ∧
        (dmabufDriverClose s.priv s.kernel).calls.count (.close fd) = 0 := by
  have hr : s.Racing := by
    rw [← hs, InitRace.run_append]
    exact InitRace.run_racing hopen post (InitRace.racing_of_sawEmpty hboth)
  obtain ⟨hpc, hmade, hpriv⟩ := hr
  have hret : ∀ t, ∃ drv, s.pc t = .done (some drv) ∧ drv.systemHeapFd ≠ -1 := fun t => by
    obtain ⟨r, hr⟩ := hdone t
    rcases hpc t with h | ⟨drv, h, -⟩ | h
    · rw [hr] at h; cases h
    · rw [hr] at h; cases h
    · exact h
  obtain ⟨a, ha, ha'⟩ := hret false
  obtain ⟨b, hb, hb'⟩ := hret true
  rw [show s.returned = [a, b] by simp [InitRace.returned, ha, hb]] at hmade
  obtain ⟨x, y, hxy⟩ := List.length_eq_two.1 (hmade.length_eq.trans rfl)
  rw [hxy] at hmade hpriv
  have hled := InitRace.run_moves ans (InitRace.init nextFd) (pre ++ post)
  rw [hs, InitRace.held_init] at hled
  have hheld : s.held = live x.fds ++ live y.fds := by
    simp [InitRace.held, InitRace.heldOf, hxy, ha, hb, InitPc.held]
  rw [hheld] at hled
  have hmem : ∀ z ∈ [x, y], z = a ∨ z = b := fun z hz => by simpa using hmade.mem_iff.1 hz
  have hsys : ∀ z ∈ [x, y], z.systemHeapFd ∈ live z.fds := fun z hz => by
    rcases hmem z hz with rfl | rfl <;> simp [live, DmabufDriver.fds, ha', hb']
  have hxy' : x ≠ y := by
    rintro rfl
    have := (hled.held_open x.systemHeapFd).1
    have h1 := List.count_pos_iff.2 (hsys x (by simp))
    simp only [List.count_append] at this
    omega
  have hclose := hled.trans (dmabufDriverClose_moves (live x.fds) (some y))
  have hleak : (⟨nextFd, []⟩ : Kernel).Moves (dmabufDriverClose s.priv s.kernel) [] (live x.fds)
      [] := by
    rw [hpriv]
    exact hclose
  obtain ⟨t, ht⟩ : ∃ t, s.pc t = .done (some x) := by
    rcases hmem x (by simp) with rfl | rfl
    · exact ⟨false, ha⟩
    · exact ⟨true, hb⟩
  exact ⟨t, x, ht, by rw [hpriv]; simpa using hxy'.symm, fun fd hfd => (hleak.held_open fd).2 hfd⟩

/-- Both calls read `drv->priv`, then open the heaps and store in turn: the first call's driver
(heaps `3`, `4`, `5`) is overwritten by the second's (`6`, `7`, `8`), and stays open. -/
theorem initRace_leaks_both_read_first :
    ∃ s, (InitRace.init 3).run (fun _ => ⟨true, true, true, true, true⟩)
        ([false, true] ++ [false, true, false, true]) = s ∧
      s.priv = some ⟨6, 7, 8⟩ ∧ s.pc false = .done (some ⟨3, 4, 5⟩) ∧
      ∃ t drv, s.pc t = .done (some drv) ∧ s.priv ≠ some drv ∧
        ∀ fd ∈ live drv.fds, fd ∈ acquiredOf (dmabufDriverClose s.priv s.kernel).calls ∧
          (dmabufDriverClose s.priv s.kernel).calls.count (.close fd) = 0 :=
  ⟨_, rfl, rfl, rfl, initRace_leaks (by intro t; rfl) (by intro t; cases t <;> exact trivial) rfl
    (by intro t; cases t <;> exact ⟨_, rfl⟩)⟩

/-- Take calls of `dmabuf_get_or_init_driver` from any number of threads on a driver whose
`drv->priv` is empty, and any schedule of their steps in which no two calls are ever both between
reading an empty `drv->priv` and storing their driver. Every call that has returned a driver
returned the one `drv->priv` holds. Once no call holds heaps it has not stored (as when every call
has returned), `dmabuf_driver_close` closes every heap descriptor the calls opened, once each. -/
theorem initRace_serial_closes {τ : Type} [DecidableEq τ] [FinEnum τ] {ans : τ → HeapAnswers}
    {nextFd : Nat} {sched : List τ} {s : InitRace τ}
    (hs : (InitRace.init nextFd).run ans sched = s)
    (hno : ∀ n ≤ sched.length, ¬((InitRace.init nextFd).run ans (sched.take n)).Overlap) :
    (∀ t drv, s.pc t = .done (some drv) → s.priv = some drv) ∧
      ((∀ t, (s.pc t).held = []) → ∀ fd ∈ acquiredOf (dmabufDriverClose s.priv s.kernel).calls,
        (dmabufDriverClose s.priv s.kernel).calls.count (.close fd) = 1) := by
  have hser := InitRace.run_serial sched (InitRace.Serial.init nextFd) hno
  have hled := InitRace.run_moves ans (InitRace.init nextFd) sched
  rw [hs, InitRace.held_init] at hled
  rw [hs] at hser
  refine ⟨hser.returned, fun hcalls fd hfd => ?_⟩
  -- no call holds heaps of its own, so the kernel holds only those of `drv->priv`
  have hthreads : (FinEnum.toList τ).flatMap (fun t => (s.pc t).held) = [] :=
    List.flatMap_eq_nil_iff.2 fun t _ => hcalls t
  have hheld : ∀ fd, ([] ++ driverHeld s.priv).count fd = s.held.count fd := fun fd => by
    rcases hp : s.priv with _ | d <;>
      simp [InitRace.held, InitRace.heldOf, hthreads, hser.made, hp, driverHeld]
  obtain ⟨new, hc, -, hnd, -, hcount⟩ :=
    hled.trans ((dmabufDriverClose_moves [] s.priv).congr hheld fun _ => rfl)
  simp only [InitRace.init, List.append_nil] at hc
  rw [hc] at hfd ⊢
  have := hcount fd
  rw [List.count_eq_one_of_mem hnd hfd] at this
  simpa using this

/-- Three threads, one after another: the first opens the heaps `3`, `4`, `5` and stores its
driver, the other two return it, and closing the driver closes all three heaps. -/
theorem initRace_serial_closes_one_after_other :
    ∃ s, (InitRace.init 3).run (fun _ : Fin 3 => ⟨true, true, true, true, true⟩)
        [0, 0, 0, 1, 2] = s ∧
      s.priv = some ⟨3, 4, 5⟩ ∧ s.pc 2 = .done (some ⟨3, 4, 5⟩) ∧
      (∀ t drv, s.pc t = .done (some drv) → s.priv = some drv) ∧
      ∀ fd ∈ acquiredOf (dmabufDriverClose s.priv s.kernel).calls,
        (dmabufDriverClose s.priv s.kernel).calls.count (.close fd) = 1 :=
  ⟨_, rfl, rfl, rfl, (initRace_serial_closes rfl (by decide)).1,
    (initRace_serial_closes rfl (by decide)).2 (by decide)⟩

end Minigbm
