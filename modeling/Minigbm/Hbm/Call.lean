import Minigbm.Format

/-!
# The calls the glue layer makes

Everything `hbm.c` asks of the hbm library, of the kernel and of libc is an external call whose
result is not decided by the glue layer. Each modelled function takes those results as an
argument and records every call it makes, with its arguments and result, in the `Host` log.
What the model says about descriptors, staging bos, fences and copies is read off that log.

Bos and descriptors the glue layer obtains come fresh from counters: a new handle never aliases
one that exists already. A bo handle also says whether it is a staging bo, which is what
`hbm_map` creates.
-/

namespace Minigbm

/-- An `hbm_bo` handle. -/
inductive HbmBo where
  | real (id : Nat)
  | staging (id : Nat)
  deriving DecidableEq, Repr

/-- `struct hbm_description`, with the fields the glue layer decides on. -/
structure Description where
  format : UInt32
  modifier : UInt64
  deriving DecidableEq, Repr

/-- `union hbm_extent`: a byte size for a blob, width and height for an image. -/
inductive Extent where
  | buffer (size : Nat)
  | image (width height : Nat)
  deriving DecidableEq, Repr

def Extent.bufferSize : Extent → Nat
  | .buffer size => size
  | .image .. => 0

def Extent.imageWidth : Extent → Nat
  | .image width _ => width
  | .buffer _ => 0

def Extent.imageHeight : Extent → Nat
  | .image _ height => height
  | .buffer _ => 0

/-- `struct hbm_layout`, as hbm reports it or `init_layout` builds it. -/
structure HbmLayout where
  size : Nat
  modifier : UInt64
  planeCount : Nat
  offsets : List Nat
  strides : List Nat
  deriving DecidableEq, Repr

/-- `struct hbm_copy_buffer`. -/
structure CopyBuffer where
  srcOffset : Nat
  dstOffset : Nat
  size : Nat
  deriving DecidableEq, Repr

/-- `struct hbm_copy_buffer_image`: the rectangle of an image plane and where it sits in the
buffer (byte offset of its first pixel and row pitch). -/
structure CopyBufferImage where
  offset : Nat
  stride : Nat
  plane : Nat
  x : Nat
  y : Nat
  width : Nat
  height : Nat
  deriving DecidableEq, Repr

/-- What one `poll` returns: its result, the `revents` it filled in, and `errno`. -/
structure PollResult where
  ret : Int
  revents : Nat
  errno : Nat
  deriving DecidableEq, Repr

/-- An external call and what it returned. -/
inductive Call where
  | boCreate (bo : Option HbmBo) (desc : Description) (extent : Extent)
      (constraint : Option (List UInt64))
  | boCreateWithLayout (bo : Option HbmBo) (desc : Description) (extent : Extent)
      (layout : HbmLayout) (dmabuf : Int)
  | bindMemory (bo : HbmBo) (mt : UInt32) (dmabuf : Int) (ok : Bool)
  | boDestroy (bo : HbmBo)
  | boMap (bo : HbmBo) (ok : Bool)
  | boUnmap (bo : HbmBo)
  | boFlush (bo : HbmBo)
  | boInvalidate (bo : HbmBo)
  | copyBuffer (dst src : HbmBo) (copy : CopyBuffer) (ok : Bool)
  | copyBufferImage (dst src : HbmBo) (copy : CopyBufferImage) (ok : Bool)
  | exportDmaBuf (bo : HbmBo) (fd : Int)
  | dup (fd result : Int)
  | close (fd : Int)
  | primeFdToHandle (fd : Int) (ok : Bool)
  | poll (fd : Int) (events : Nat) (result : PollResult)
  deriving DecidableEq, Repr

/-- The outside world as the glue layer sees it: the next fresh bo and descriptor, and the calls
made so far, most recent first. -/
structure Host where
  nextBo : Nat
  nextFd : Nat
  calls : List Call
  deriving DecidableEq, Repr

namespace Host

def emit (host : Host) (call : Call) : Host := { host with calls := call :: host.calls }

@[simp] theorem emit_calls (host : Host) (call : Call) :
    (host.emit call).calls = call :: host.calls := rfl
@[simp] theorem emit_nextBo (host : Host) (call : Call) :
    (host.emit call).nextBo = host.nextBo := rfl
@[simp] theorem emit_nextFd (host : Host) (call : Call) :
    (host.emit call).nextFd = host.nextFd := rfl

/-- A fresh bo handle id. -/
def newBo (host : Host) : Nat × Host := (host.nextBo, { host with nextBo := host.nextBo + 1 })

/-- A call that yields a descriptor: the next fresh one when it succeeds, `-1` when it fails. -/
def openFd (host : Host) (ok : Bool) : Int × Host :=
  if ok then (host.nextFd, { host with nextFd := host.nextFd + 1 }) else (-1, host)

/-- `dup(fd)`. -/
def dup (host : Host) (fd : Int) (ok : Bool) : Int × Host :=
  let (result, host) := host.openFd ok
  (result, host.emit (.dup fd result))

/-- `close(fd)`. -/
def close (host : Host) (fd : Int) : Host := host.emit (.close fd)

end Host

end Minigbm
