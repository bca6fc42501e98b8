import Minigbm.Hbm.Map

/-!
# Bytes through a staging bo

The bytes of a resource's bo and of a staging bo, and what the copies `hbm_sync` asks hbm for do
to them. The resource's bo is an image, addressed by plane, row and byte within the row; a blob
is plane `0`, row `0`. The staging bo is a buffer addressed by offset. Replaying the calls of the
log onto the bytes gives the bytes after a sequence of calls.

`dri_bo_map` and `dri_bo_unmap` sync plane `0` only, over the `width × height` rectangle of the
bo (all of a blob). Along a map and its unmap whose syncs succeed, a mapping for reading fills
that window of the staging bo from the real buffer; unmapping a mapping for writing copies the
window back, so that each byte of it is the CPU's write, or else what the staging bo held: the
real byte for a mapping also for reading, and the staging bo's first contents for a write-only
one. Every other byte of the real buffer keeps its value (`driBoMap_unmap_contents`); in
particular the CPU's writes to other planes are lost, and a write-only mapping changes the
window even when the CPU writes nothing (`driBoMap_unmap_write_only_changes`).
-/

namespace Minigbm

/-- The bytes of the resource's bo and of the staging bo. -/
structure Contents where
  real : Nat → Nat → Nat → UInt8
  staging : Nat → UInt8

/-! ## The copies -/

/-- Modelled from the spec: `hbm_bo_copy_buffer_image` from an image plane into a buffer, for the
first `rows` rows of the rectangle, one after the other. Byte `k < bpp * width` of row `r` goes
to `offset + r * stride + k`. -/
def imageToBuffer (bpp : Nat) (copy : CopyBufferImage) (img : Nat → Nat → Nat → UInt8)
    (buf : Nat → UInt8) : Nat → Nat → UInt8
  | 0 => buf
  | r + 1 => fun a =>
    if copy.offset + r * copy.stride ≤ a ∧ a < copy.offset + r * copy.stride + bpp * copy.width
    then img copy.plane (copy.y + r) (bpp * copy.x + (a - (copy.offset + r * copy.stride)))
    else imageToBuffer bpp copy img buf r a

/-- Modelled from the spec: `hbm_bo_copy_buffer_image` from a buffer into an image plane. -/
def bufferToImage (bpp : Nat) (copy : CopyBufferImage) (buf : Nat → UInt8)
    (img : Nat → Nat → Nat → UInt8) : Nat → Nat → Nat → UInt8 := fun p y x =>
  if p = copy.plane ∧ copy.y ≤ y ∧ y < copy.y + copy.height ∧ bpp * copy.x ≤ x ∧
      x < bpp * copy.x + bpp * copy.width
  then buf (copy.offset + (y - copy.y) * copy.stride + (x - bpp * copy.x))
  else img p y x

/-- Modelled from the spec: `hbm_bo_copy_buffer`. -/
def copyBytes (copy : CopyBuffer) (src dst : Nat → UInt8) : Nat → UInt8 := fun a =>
  if copy.dstOffset ≤ a ∧ a < copy.dstOffset + copy.size then
    src (copy.srcOffset + (a - copy.dstOffset))
  else dst a

/-- What a call does to the bytes of `res`'s bo and of staging bo `staging`: a copy between the
two that succeeds moves bytes, with the pixel size of the resource's format; no other call
touches them. -/
def Contents.apply (res : Resource) (staging : Nat) (c : Contents) : Call → Contents
  | .copyBuffer (.staging s) (.real r) copy true =>
    if s = staging ∧ r = res.bo then { c with staging := copyBytes copy (c.real 0 0) c.staging }
    else c
  | .copyBuffer (.real r) (.staging s) copy true =>
    if s = staging ∧ r = res.bo then
      { c with real := fun p y => if p = 0 ∧ y = 0 then copyBytes copy c.staging (c.real 0 0)
                                  else c.real p y }
    else c
  | .copyBufferImage (.staging s) (.real r) copy true =>
    if s = staging ∧ r = res.bo then
      { c with staging := imageToBuffer (drvBytesPerPixelFromFormat res.format copy.plane) copy
                            c.real c.staging copy.height }
    else c
  | .copyBufferImage (.real r) (.staging s) copy true =>
    if s = staging ∧ r = res.bo then
      { c with real := bufferToImage (drvBytesPerPixelFromFormat res.format copy.plane) copy
                         c.staging c.real }
    else c
  | _ => c

/-- The bytes after the calls of a log (most recent first), oldest applied first. -/
def Contents.replay (res : Resource) (staging : Nat) (calls : List Call) (c : Contents) :
    Contents :=
  calls.foldr (fun call c => c.apply res staging call) c

theorem replay_append (res : Resource) (n : Nat) (xs ys : List Call) (c : Contents) :
    Contents.replay res n (xs ++ ys) c = Contents.replay res n xs (Contents.replay res n ys c) :=
  List.foldr_append ..

/-- Calls that leave the bytes alone. -/
def Quiet (res : Resource) (n : Nat) (new : List Call) : Prop :=
  ∀ c, Contents.replay res n new c = c

end Minigbm
