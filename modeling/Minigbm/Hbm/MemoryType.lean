import Minigbm.Format

/-!
# Choosing a memory type

`pick_memory_type` derives required, disallowed and preferred memory-type flags from the use
flags and the bo's modifier, then scans the memory types hbm reports for the bo. The scan keeps
`int32_t best_mt`, which starts at `-1`; it is a `UInt32` here, `-1` being `0xFFFFFFFF`.

The scan's fallback branch `else if (!best_mt)` tests for `0`, not for `-1`, so it is never
taken: `pickLoop_of_ne_zero` shows that the scan is a `List.find?` for an admissible type that
carries the preferred flag. `pick_staging_memory_type` starts its scan from `0` instead, and
there the fallback does pick the first admissible type.
-/

namespace Minigbm

/-- A memory type carries all `required` flags and no `disallowed` flag. -/
def Admissible (required disallowed mt : UInt32) : Prop :=
  mt &&& required = required ∧ mt &&& disallowed = 0

instance (required disallowed : UInt32) : DecidablePred (Admissible required disallowed) :=
  fun _ => inferInstanceAs (Decidable (_ ∧ _))

/-- The overlay constraint: SCANOUT and CURSOR buffers need LOCAL, non-CACHED memory. -/
def OverlayOk (useFlags : UInt64) (mt : UInt32) : Prop :=
  useOverlay useFlags = true → mt &&& hbmMemoryTypeLocal ≠ 0 ∧ mt &&& hbmMemoryTypeCached = 0

instance (useFlags : UInt64) (mt : UInt32) : Decidable (OverlayOk useFlags mt) :=
  inferInstanceAs (Decidable (_ → _))

/-! ## The flags of `pick_memory_type` -/

/-- What `pick_memory_type` asks of a memory type, and whether CPU access goes through a
staging bo. -/
structure MemoryTypeFlags where
  requiredFlags : UInt32
  disallowedFlags : UInt32
  preferredFlag : UInt32
  useStaging : Bool
  deriving DecidableEq, Repr

/-- Direct mapping: a LINEAR bo whose CPU usage prefers mapping to copying. -/
def DirectMap (modifier useFlags : UInt64) : Prop :=
  modifier = drmFormatModLinear ∧ preferMap useFlags = true

instance (modifier useFlags : UInt64) : Decidable (DirectMap modifier useFlags) :=
  inferInstanceAs (Decidable (_ ∧ _))

/-- A preferred flag that is also disallowed is dropped. -/
def MemoryTypeFlags.clearDisallowedPreference (flags : MemoryTypeFlags) : MemoryTypeFlags :=
  if flags.disallowedFlags &&& flags.preferredFlag ≠ 0 then { flags with preferredFlag := 0 }
  else flags

@[simp] theorem MemoryTypeFlags.clearDisallowedPreference_requiredFlags (flags : MemoryTypeFlags) :
    flags.clearDisallowedPreference.requiredFlags = flags.requiredFlags := by
  unfold clearDisallowedPreference; split <;> rfl

@[simp] theorem MemoryTypeFlags.clearDisallowedPreference_disallowedFlags
    (flags : MemoryTypeFlags) :
    flags.clearDisallowedPreference.disallowedFlags = flags.disallowedFlags := by
  unfold clearDisallowedPreference; split <;> rfl

@[simp] theorem MemoryTypeFlags.clearDisallowedPreference_useStaging (flags : MemoryTypeFlags) :
    flags.clearDisallowedPreference.useStaging = flags.useStaging := by
  unfold clearDisallowedPreference; split <;> rfl

def memoryTypeFlags (modifier useFlags : UInt64) : MemoryTypeFlags :=
  let overlay : MemoryTypeFlags :=
    if useOverlay useFlags then ⟨hbmMemoryTypeLocal, hbmMemoryTypeCached, 0, false⟩
    else ⟨0, 0, 0, false⟩
  let cpu : MemoryTypeFlags :=
    if useSw useFlags then
      -- "this is an oversimplification"
      if DirectMap modifier useFlags then
        { overlay with requiredFlags := overlay.requiredFlags ||| hbmMemoryTypeMappable,
                       preferredFlag := hbmMemoryTypeCached }
      else { overlay with preferredFlag := hbmMemoryTypeLocal, useStaging := true }
    else { overlay with preferredFlag := hbmMemoryTypeLocal }
  cpu.clearDisallowedPreference

theorem memoryTypeFlags_useStaging (modifier useFlags : UInt64) :
    (memoryTypeFlags modifier useFlags).useStaging =
      (useSw useFlags && !decide (DirectMap modifier useFlags)) := by
  simp only [memoryTypeFlags, MemoryTypeFlags.clearDisallowedPreference_useStaging]
  split_ifs <;> simp_all

/-- Every type admissible for the derived flags meets the overlay constraint. -/
theorem overlayOk_of_admissible {modifier useFlags : UInt64} {mt : UInt32}
    (h : Admissible (memoryTypeFlags modifier useFlags).requiredFlags
      (memoryTypeFlags modifier useFlags).disallowedFlags mt) : OverlayOk useFlags mt := by
  intro hov
  have hr : (memoryTypeFlags modifier useFlags).requiredFlags &&& hbmMemoryTypeLocal =
      hbmMemoryTypeLocal := by
    simp only [memoryTypeFlags, MemoryTypeFlags.clearDisallowedPreference_requiredFlags, hov]
    split_ifs <;> decide
  have hd : (memoryTypeFlags modifier useFlags).disallowedFlags &&& hbmMemoryTypeCached =
      hbmMemoryTypeCached := by
    simp only [memoryTypeFlags, MemoryTypeFlags.clearDisallowedPreference_disallowedFlags, hov]
    split_ifs <;> decide
  refine ⟨?_, and_eq_zero_of_carries h.2 hd⟩
  rw [carries_trans h.1 hr]
  decide

/-- With CPU usage that maps directly, every admissible type is MAPPABLE. -/
theorem mappable_of_admissible {modifier useFlags : UInt64} {mt : UInt32}
    (hsw : useSw useFlags = true) (hdir : DirectMap modifier useFlags)
    (h : Admissible (memoryTypeFlags modifier useFlags).requiredFlags
      (memoryTypeFlags modifier useFlags).disallowedFlags mt) :
    mt &&& hbmMemoryTypeMappable = hbmMemoryTypeMappable := by
  have hr : (memoryTypeFlags modifier useFlags).requiredFlags &&& hbmMemoryTypeMappable =
      hbmMemoryTypeMappable := by
    simp only [memoryTypeFlags, MemoryTypeFlags.clearDisallowedPreference_requiredFlags, hsw, hdir]
    split_ifs <;> decide
  exact carries_trans h.1 hr

/-! ## The scan -/

/-- `int32_t best_mt = -1`, as the 32 bits it stores. -/
def noMemoryType : UInt32 := 0xFFFFFFFF

/-- The loop of `pick_memory_type` over the reported types, from the current `best_mt`. -/
def pickLoop (required disallowed preferred : UInt32) : UInt32 → List UInt32 → UInt32
  | best, [] => best
  | best, mt :: mts =>
    if mt &&& required ≠ required ∨ mt &&& disallowed ≠ 0 then
      pickLoop required disallowed preferred best mts
    else if mt &&& preferred ≠ 0 then mt
    else if best = 0 then
      if preferred = 0 then mt else pickLoop required disallowed preferred mt mts
    else pickLoop required disallowed preferred best mts

/-- An admissible type carrying the preferred flag: the only kind the scan ever stores. -/
def Preferred (required disallowed preferred mt : UInt32) : Prop :=
  Admissible required disallowed mt ∧ mt &&& preferred ≠ 0

instance (required disallowed preferred : UInt32) :
    DecidablePred (Preferred required disallowed preferred) :=
  fun _ => inferInstanceAs (Decidable (_ ∧ _))

/-- From a nonzero `best_mt` the fallback branch is dead: the scan returns the first admissible
type carrying the preferred flag, and otherwise leaves `best_mt` as it was. -/
theorem pickLoop_of_ne_zero (required disallowed preferred best : UInt32) (mts : List UInt32)
    (hb : best ≠ 0) :
    pickLoop required disallowed preferred best mts =
      (mts.find? fun mt => decide (Preferred required disallowed preferred mt)).getD best := by
  induction mts with
  | nil => rfl
  | cons mt mts ih =>
    by_cases ha : Admissible required disallowed mt
    · have ha' : ¬(mt &&& required ≠ required ∨ mt &&& disallowed ≠ 0) := by
        simpa [Admissible] using ha
      by_cases hp : mt &&& preferred ≠ 0
      · simp [pickLoop, ha', hp, Preferred, ha]
      · simp only [ne_eq, not_not] at hp
        simp [pickLoop, ha', hp, hb, ih, Preferred]
    · have ha' : mt &&& required ≠ required ∨ mt &&& disallowed ≠ 0 := by
        simpa [Admissible, or_iff_not_imp_left] using ha
      simp [pickLoop, ha', ih, Preferred, ha]

/-! ## `pick_memory_type` -/

/-- `pick_memory_type`: the chosen type and `use_staging`, or `none` when it returns false.
`mts` is what `get_memory_types` returns, `none` when its allocation fails. -/
def pickMemoryType (modifier useFlags : UInt64) (mts : Option (List UInt32)) :
    Option (UInt32 × Bool) :=
  let flags := memoryTypeFlags modifier useFlags
  match mts with
  | none => none
  | some mts =>
    let best := pickLoop flags.requiredFlags flags.disallowedFlags flags.preferredFlag
      noMemoryType mts
    if best = noMemoryType then none else some (best, flags.useStaging)

/-- What `pick_memory_type` computes: the first reported type that is admissible and carries
the preferred flag, unless its 32 bits read as `-1`. -/
theorem pickMemoryType_eq_find (modifier useFlags : UInt64) (mts : List UInt32) :
    pickMemoryType modifier useFlags (some mts) =
      let flags := memoryTypeFlags modifier useFlags
      ((mts.find? fun mt => decide (Preferred flags.requiredFlags flags.disallowedFlags
          flags.preferredFlag mt)).filter (· ≠ noMemoryType)).map (·, flags.useStaging) := by
  simp only [pickMemoryType, pickLoop_of_ne_zero _ _ _ _ _ (by decide : noMemoryType ≠ 0)]
  cases mts.find? _ <;> simp [Option.filter]; split_ifs <;> simp_all

/-- The type `pick_memory_type` picks is one of the reported types, admissible for the derived
flags, and `use_staging` is the derived one. -/
theorem pickMemoryType_spec {modifier useFlags : UInt64} {mts : List UInt32} {mt : UInt32}
    {useStaging : Bool} (h : pickMemoryType modifier useFlags (some mts) = some (mt, useStaging)) :
    mt ∈ mts ∧ Admissible (memoryTypeFlags modifier useFlags).requiredFlags
      (memoryTypeFlags modifier useFlags).disallowedFlags mt ∧
      useStaging = (memoryTypeFlags modifier useFlags).useStaging := by
  rw [pickMemoryType_eq_find] at h
  simp only [Option.map_eq_some', Prod.mk.injEq] at h
  obtain ⟨x, hx, rfl, rfl⟩ := h
  obtain ⟨hfind, -⟩ := Option.filter_eq_some.mp hx
  have hmem := List.mem_of_find?_eq_some hfind
  have hp := List.find?_some hfind
  simp only [decide_eq_true_eq] at hp
  exact ⟨hmem, hp.1, rfl⟩

/-- When the preferred flag was dropped, no type carries it and `pick_memory_type` fails on
every list of memory types. -/
theorem pickMemoryType_eq_none_of_preferredFlag {modifier useFlags : UInt64}
    (h : (memoryTypeFlags modifier useFlags).preferredFlag = 0) (mts : List UInt32) :
    pickMemoryType modifier useFlags (some mts) = none := by
  have hnone : (mts.find? fun mt => decide (Preferred
      (memoryTypeFlags modifier useFlags).requiredFlags
      (memoryTypeFlags modifier useFlags).disallowedFlags 0 mt)) = none :=
    List.find?_eq_none.mpr fun mt _ => by simp [Preferred]
  rw [pickMemoryType_eq_find]
  simp only [h, hnone, Option.filter_none, Option.map_none']

/-- Scanout and cursor bos that map directly prefer CACHED, which they disallow: the preference
is dropped, so `pick_memory_type` fails for them whatever hbm reports. -/
theorem pickMemoryType_overlay_direct {modifier useFlags : UInt64}
    (hov : useOverlay useFlags = true) (hsw : useSw useFlags = true)
    (hdir : DirectMap modifier useFlags) (mts : List UInt32) :
    pickMemoryType modifier useFlags (some mts) = none := by
  apply pickMemoryType_eq_none_of_preferredFlag _ mts
  simp only [memoryTypeFlags, hov, hsw, hdir, MemoryTypeFlags.clearDisallowedPreference]
  decide

/-- A texture bo on a device whose only memory type is MAPPABLE and not LOCAL: that type is
admissible, but it lacks the preferred LOCAL flag, and `pick_memory_type` fails. -/
theorem pickMemoryType_texture_without_local :
    Admissible (memoryTypeFlags drmFormatModLinear boUseTexture).requiredFlags
        (memoryTypeFlags drmFormatModLinear boUseTexture).disallowedFlags hbmMemoryTypeMappable ∧
      pickMemoryType drmFormatModLinear boUseTexture (some [hbmMemoryTypeMappable]) = none := by
  decide

/-! ## CPU-accessible bos -/

/-- A CPU-read-often LINEAR bo maps directly; a LOCAL type that is not MAPPABLE meets its
overlay constraint, yet `pick_memory_type` fails instead of falling back to staging. -/
theorem pickMemoryType_direct_without_mappable :
    useSw boUseSwReadOften = true ∧ DirectMap drmFormatModLinear boUseSwReadOften ∧
      OverlayOk boUseSwReadOften hbmMemoryTypeLocal ∧
      hbmMemoryTypeLocal &&& hbmMemoryTypeMappable = 0 ∧
      pickMemoryType drmFormatModLinear boUseSwReadOften (some [hbmMemoryTypeLocal]) = none := by
  decide

/-- For CPU-accessible bos: a picked type meets the overlay constraint; direct mapping picks a
MAPPABLE type and no staging, other CPU usage picks staging; and direct mapping with no MAPPABLE
type meeting the overlay constraint fails, with no fallback to staging. -/
theorem pickMemoryType_cpu_access {modifier useFlags : UInt64} (mts : List UInt32)
    (hsw : useSw useFlags = true) :
    (∀ mt useStaging, pickMemoryType modifier useFlags (some mts) = some (mt, useStaging) →
      OverlayOk useFlags mt ∧ (useStaging = false ↔ DirectMap modifier useFlags) ∧
        (DirectMap modifier useFlags → mt &&& hbmMemoryTypeMappable ≠ 0)) ∧
    (DirectMap modifier useFlags →
      (∀ mt ∈ mts, OverlayOk useFlags mt → mt &&& hbmMemoryTypeMappable = 0) →
      pickMemoryType modifier useFlags (some mts) = none) := by
  have mappable {mt : UInt32} (hdir : DirectMap modifier useFlags)
      (hadm : Admissible (memoryTypeFlags modifier useFlags).requiredFlags
        (memoryTypeFlags modifier useFlags).disallowedFlags mt) :
      mt &&& hbmMemoryTypeMappable ≠ 0 := by
    rw [mappable_of_admissible hsw hdir hadm]; decide
  refine ⟨fun mt useStaging h => ?_, fun hdir hnone => ?_⟩
  · obtain ⟨-, hadm, rfl⟩ := pickMemoryType_spec h
    refine ⟨overlayOk_of_admissible hadm, ?_, fun hdir => mappable hdir hadm⟩
    simp [memoryTypeFlags_useStaging, hsw]
  · cases h : pickMemoryType modifier useFlags (some mts) with
    | none => rfl
    | some r =>
      obtain ⟨hmem, hadm, -⟩ := pickMemoryType_spec h
      exact absurd (hnone _ hmem (overlayOk_of_admissible hadm)) (mappable hdir hadm)

theorem pickMemoryType_cpu_access_readOften :
    useSw boUseSwReadOften = true ∧
      pickMemoryType drmFormatModLinear boUseSwReadOften (some [hbmMemoryTypeLocal]) = none :=
  ⟨by decide, (pickMemoryType_cpu_access [hbmMemoryTypeLocal] (by decide)).2 (by decide)
    (by decide)⟩

/-! ## `pick_staging_memory_type` -/

/-- The loop of `pick_staging_memory_type`, which keeps `uint32_t best_mt` and so has `0` for
"none yet". -/
def stagingLoop (required preferred : UInt32) : UInt32 → List UInt32 → UInt32
  | best, [] => best
  | best, mt :: mts =>
    if mt &&& required ≠ required then stagingLoop required preferred best mts
    else if mt &&& preferred ≠ 0 then mt
    else if best = 0 then stagingLoop required preferred mt mts
    else stagingLoop required preferred best mts

/-- `pick_staging_memory_type`: the memory type of staging bos, `0` for none. `mts` is the list
reported for a one-byte probe bo, `none` when the probe or the list allocation fails. -/
def pickStagingMemoryType (mts : Option (List UInt32)) : UInt32 :=
  match mts with
  | none => 0
  | some mts => stagingLoop (hbmMemoryTypeMappable ||| hbmMemoryTypeCoherent) hbmMemoryTypeCached 0 mts

/-- A memory type staging bos can use: MAPPABLE and COHERENT, the flags
`pick_staging_memory_type` requires. -/
def StagingCapable (mt : UInt32) : Prop :=
  mt &&& (hbmMemoryTypeMappable ||| hbmMemoryTypeCoherent) =
    hbmMemoryTypeMappable ||| hbmMemoryTypeCoherent

instance : DecidablePred StagingCapable := fun _ => inferInstanceAs (Decidable (_ = _))

theorem ne_zero_of_carries {mt required : UInt32} (hreq : required ≠ 0)
    (h : mt &&& required = required) : mt ≠ 0 := by
  rintro rfl
  exact hreq (h.symm.trans (UInt32.eq_of_toBitVec_eq BitVec.zero_and))

theorem StagingCapable.ne_zero {mt : UInt32} (h : StagingCapable mt) : mt ≠ 0 :=
  ne_zero_of_carries (by decide) h

/-- From a nonzero `best_mt` the staging scan returns the first type with the required flags and
the preferred one, and otherwise keeps `best_mt`. -/
theorem stagingLoop_of_ne_zero (required preferred best : UInt32) (mts : List UInt32)
    (hb : best ≠ 0) :
    stagingLoop required preferred best mts =
      (mts.find? fun mt => decide (mt &&& required = required ∧ mt &&& preferred ≠ 0)).getD
        best := by
  induction mts with
  | nil => rfl
  | cons mt mts ih =>
    by_cases hr : mt &&& required = required
    · by_cases hp : mt &&& preferred = 0
      · simp [stagingLoop, hr, hp, hb, ih]
      · simp [stagingLoop, hr, hp]
    · simp [stagingLoop, hr, ih]

/-- From `0` the staging scan returns the first type with the required flags and the preferred
one, else the first type with the required flags, else `0`. -/
theorem stagingLoop_zero (required preferred : UInt32) (mts : List UInt32) (hreq : required ≠ 0) :
    stagingLoop required preferred 0 mts =
      (mts.find? fun mt => decide (mt &&& required = required ∧ mt &&& preferred ≠ 0)).getD
        ((mts.find? fun mt => decide (mt &&& required = required)).getD 0) := by
  induction mts with
  | nil => rfl
  | cons mt mts ih =>
    by_cases hr : mt &&& required = required
    · by_cases hp : mt &&& preferred = 0
      · simp [stagingLoop, hr, hp,
          stagingLoop_of_ne_zero _ _ _ _ (ne_zero_of_carries hreq hr)]
      · simp [stagingLoop, hr, hp]
    · simp [stagingLoop, hr, ih]

theorem pickStagingMemoryType_eq_find (mts : List UInt32) :
    pickStagingMemoryType (some mts) =
      (mts.find? fun mt => decide (StagingCapable mt ∧ mt &&& hbmMemoryTypeCached ≠ 0)).getD
        ((mts.find? fun mt => decide (StagingCapable mt)).getD 0) :=
  stagingLoop_zero _ _ mts (by decide)

/-- `pick_staging_memory_type` finds no type exactly when no reported type is MAPPABLE and
COHERENT. -/
theorem pickStagingMemoryType_eq_zero_iff (mts : List UInt32) :
    pickStagingMemoryType (some mts) = 0 ↔ ∀ mt ∈ mts, ¬StagingCapable mt := by
  rw [pickStagingMemoryType_eq_find]
  cases hp : mts.find? fun mt =>
      decide (StagingCapable mt ∧ mt &&& hbmMemoryTypeCached ≠ 0) with
  | some mt =>
    have hmt := List.find?_some hp
    simp only [decide_eq_true_eq] at hmt
    exact ⟨fun h => absurd h hmt.1.ne_zero,
      fun h => absurd hmt.1 (h mt (List.mem_of_find?_eq_some hp))⟩
  | none =>
    cases hq : mts.find? fun mt => decide (StagingCapable mt) with
    | some mt =>
      have hmt := List.find?_some hq
      simp only [decide_eq_true_eq] at hmt
      exact ⟨fun h => absurd h hmt.ne_zero,
        fun h => absurd hmt (h mt (List.mem_of_find?_eq_some hq))⟩
    | none => simpa using List.find?_eq_none.1 hq

/-- A nonzero staging memory type is MAPPABLE and COHERENT. -/
theorem pickStagingMemoryType_capable {mts : Option (List UInt32)}
    (h : pickStagingMemoryType mts ≠ 0) : StagingCapable (pickStagingMemoryType mts) := by
  rcases mts with _ | mts
  · exact absurd rfl h
  rw [pickStagingMemoryType_eq_find] at h ⊢
  cases hp : mts.find? fun mt =>
      decide (StagingCapable mt ∧ mt &&& hbmMemoryTypeCached ≠ 0) with
  | some mt =>
    have hmt := List.find?_some hp
    simp only [decide_eq_true_eq] at hmt
    simpa using hmt.1
  | none =>
    rw [hp, Option.getD_none] at h
    rw [Option.getD_none]
    cases hq : mts.find? fun mt => decide (StagingCapable mt) with
    | some mt =>
      have hmt := List.find?_some hq
      simp only [decide_eq_true_eq] at hmt
      simpa using hmt
    | none => rw [hq] at h; exact absurd rfl h

end Minigbm
