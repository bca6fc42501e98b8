import Mathlib.Data.Nat.Bitwise
import Mathlib.Algebra.Order.Ring.Nat
import Mathlib.Algebra.Group.Int

/-!
# Use flags, map flags and memory-type flags

The bit masks that the hbm glue layer reads. Use flags are 64-bit and memory-type words 32-bit,
as in the C code. The `BO_USE_*` and `BO_MAP_*` values are minigbm's own (`drv.h`), and the
memory-type bits are the hbm library's. Only their being distinct single bits matters below.

Each flag test of `hbm.c` (`use_overlay`, `use_sw`, `prefer_map`, ...) is a `Bool` of the same
name, so that later modules case on it.
-/

namespace Minigbm

/-! ## Use flags -/

def boUseScanout : UInt64 := (1 : UInt64) <<< 0
def boUseCursor : UInt64 := (1 : UInt64) <<< 1
def boUseRendering : UInt64 := (1 : UInt64) <<< 2
def boUseLinear : UInt64 := (1 : UInt64) <<< 4
def boUseTexture : UInt64 := (1 : UInt64) <<< 5
def boUseCameraWrite : UInt64 := (1 : UInt64) <<< 6
def boUseCameraRead : UInt64 := (1 : UInt64) <<< 7
def boUseProtected : UInt64 := (1 : UInt64) <<< 8
def boUseSwReadOften : UInt64 := (1 : UInt64) <<< 9
def boUseSwReadRarely : UInt64 := (1 : UInt64) <<< 10
def boUseSwWriteOften : UInt64 := (1 : UInt64) <<< 11
def boUseSwWriteRarely : UInt64 := (1 : UInt64) <<< 12
def boUseHwVideoDecoder : UInt64 := (1 : UInt64) <<< 13
def boUseHwVideoEncoder : UInt64 := (1 : UInt64) <<< 14
def boUseFrontRendering : UInt64 := (1 : UInt64) <<< 16
def boUseGpuDataBuffer : UInt64 := (1 : UInt64) <<< 18
def boUseSensorDirectData : UInt64 := (1 : UInt64) <<< 19

/-! ## Map flags -/

def boMapRead : UInt32 := (1 : UInt32) <<< 0
def boMapWrite : UInt32 := (1 : UInt32) <<< 1

/-! ## Memory-type flags -/

def hbmMemoryTypeLocal : UInt32 := (1 : UInt32) <<< 0
def hbmMemoryTypeMappable : UInt32 := (1 : UInt32) <<< 1
def hbmMemoryTypeCoherent : UInt32 := (1 : UInt32) <<< 2
def hbmMemoryTypeCached : UInt32 := (1 : UInt32) <<< 3

/-! ## Flag tests of `hbm.c` -/

/-- SCANOUT and CURSOR buffers must live in LOCAL, non-CACHED memory. -/
def useOverlay (useFlags : UInt64) : Bool := useFlags &&& (boUseScanout ||| boUseCursor) != 0

def useGpu (useFlags : UInt64) : Bool :=
  useFlags &&& (boUseRendering ||| boUseTexture ||| boUseGpuDataBuffer) != 0

def useBlob (useFlags : UInt64) : Bool :=
  useFlags &&& (boUseGpuDataBuffer ||| boUseSensorDirectData) != 0

def useSwRead (useFlags : UInt64) : Bool :=
  useFlags &&& (boUseSwReadOften ||| boUseSwReadRarely) != 0

def useSwWrite (useFlags : UInt64) : Bool :=
  useFlags &&& (boUseSwWriteOften ||| boUseSwWriteRarely) != 0

def useSw (useFlags : UInt64) : Bool := useSwRead useFlags || useSwWrite useFlags

def useSwOften (useFlags : UInt64) : Bool :=
  useFlags &&& (boUseSwReadOften ||| boUseSwWriteOften) != 0

/-- The choice between mapping the bo directly and copying through a staging bo. The C function
asserts `use_sw`; every caller tests it first. -/
def preferMap (useFlags : UInt64) : Bool :=
  if useOverlay useFlags then useSwOften useFlags && !useSwRead useFlags
  else if useGpu useFlags then useSwOften useFlags
  else true

/-! ## Bits of a word

A word `x` carries the flags `f` when `x &&& f = f`. Carrying is transitive, and a word with
none of the bits of `d` has none of the bits `d` carries.
-/

theorem uint32_and_assoc (x y z : UInt32) : x &&& y &&& z = x &&& (y &&& z) :=
  UInt32.eq_of_toBitVec_eq (BitVec.and_assoc _ _ _)

@[simp] theorem uint32_and_zero (x : UInt32) : x &&& 0 = 0 :=
  UInt32.eq_of_toBitVec_eq BitVec.and_zero

theorem carries_trans {x r f : UInt32} (hx : x &&& r = r) (hr : r &&& f = f) :
    x &&& f = f := by
  rw [← hr, ← uint32_and_assoc, hx]

theorem and_eq_zero_of_carries {x d f : UInt32} (hx : x &&& d = 0) (hd : d &&& f = f) :
    x &&& f = 0 := by
  rw [← hd, ← uint32_and_assoc, hx]
  exact UInt32.eq_of_toBitVec_eq BitVec.zero_and

end Minigbm
