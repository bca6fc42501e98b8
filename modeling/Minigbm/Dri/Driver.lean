import Minigbm.Ledger

/-!
# `dri_init` and `dri_close` of the DRI backend

`dri.c` builds a `struct dri_driver` out of six acquisitions: the structure itself (`calloc`),
the name of the render node (`drmGetRenderDeviceNameFromFd`), a descriptor of that node
(`open`), the Mesa driver library (`dlopen`), a screen (`createNewScreen2`) and a context
(`createNewContext`). The name is freed right after `open`. Every later failure jumps into a
ladder of labels, `free_context`, `free_screen`, `free_handle`, `close_dri_fd` and `free_dri`,
each falling through to the next. `dri_close` releases a driver's context, screen, library,
descriptor and structure.

Beside the calls, a `Ledger` says what each call acquires and releases, and `Ledger.replay` what
releasing safely means: nothing is acquired while held, nothing is released unless held, and
nothing is released while something still held uses it.
A screen runs the library's code on the node's descriptor, a context belongs to a screen and is
destroyed through the library, and everything but the name is kept in the structure. On every
path `dri_init` passes that check. It leaves nothing held when it fails and exactly a driver's
resources when it succeeds, and `dri_close` then releases all of them (`driInit_releases`).

The declarations live in `Minigbm.Dri`: `hbm.c` implements the same `dri.h` interface, and its
functions keep the plain names in `Minigbm`.
-/

namespace Minigbm.Dri

/-! ## Extensions -/

/-- A `__DRIextension` of Mesa: its name (possibly `NULL`), its version, and the names of the
entry points it fills in (the optional ones of `__DRIimageExtension` may be `NULL`). -/
structure DriExtension where
  name : Option String
  version : Int
  entries : List String
  deriving DecidableEq, Repr

/-- `lookup_extension`: the first extension of the `NULL`-terminated array with this name and at
least this version. -/
def lookupExtension : List DriExtension → String → Int → Option DriExtension
  | [], _, _ => none
  | e :: extensions, name, minVersion =>
    if e.name = some name ∧ minVersion ≤ e.version then some e
    else lookupExtension extensions name minVersion

/-- `__DRI_CORE`, from Mesa's `dri_interface.h`, which is not among the sources; so are the three
names below. Only their being different matters to the proofs. -/
def driCore : String := "DRI_Core"

/-- `__DRI_DRI2`. -/
def driDri2 : String := "DRI_DRI2"

/-- `__DRI_IMAGE`. -/
def driImage : String := "DRI_IMAGE"

/-- `__DRI2_FLUSH`. -/
def dri2Flush : String := "DRI2_Flush"

/-- What `lookup_extension` finds is in the array, has the name and at least the version. -/
theorem lookupExtension_some {extensions : List DriExtension} {name : String} {minVersion : Int}
    {e : DriExtension} (h : lookupExtension extensions name minVersion = some e) :
    e ∈ extensions ∧ e.name = some name ∧ minVersion ≤ e.version := by
  induction extensions with
  | nil => cases h
  | cons e' extensions ih =>
    simp only [lookupExtension] at h
    split_ifs at h with hmatch
    · cases h
      exact ⟨List.mem_cons_self _ _, hmatch⟩
    · exact (ih h).imp_left (List.mem_cons_of_mem _)

/-! ## The calls -/

/-- The calls of `dri_init` and `dri_close` that acquire or release something, with the answer
of those that may fail. -/
inductive DriSetupCall where
  | calloc (ok : Bool)
  | drmGetRenderDeviceNameFromFd (ok : Bool)
  | openNode (fd : Int)
  | freeNodeName
  | dlopen (ok : Bool)
  | createNewScreen2 (ok : Bool)
  | createNewContext (ok : Bool)
  | destroyContext
  | destroyScreen
  | dlclose
  | close (fd : Int)
  | free
  deriving DecidableEq, Repr

/-- What `dri_init` acquires: `*dri`, the node name, and the members `fd`, `driver_handle`,
`device` and `context` of `*dri`. -/
inductive DriResource where
  | dri
  | nodeName
  | fd
  | driverHandle
  | device
  | context
  deriving DecidableEq, Repr

/-- `r.uses r'`: `r` has to be released before `r'`. The four members are kept in `*dri`; the
screen was made on `dri->fd` by the library's code and is destroyed through it; the context was
made on the screen and is destroyed through the library. -/
def DriResource.uses : DriResource → DriResource → Bool
  | .fd, .dri | .driverHandle, .dri | .device, .dri | .context, .dri => true
  | .device, .fd | .device, .driverHandle => true
  | .context, .device | .context, .driverHandle => true
  | _, _ => false

/-- What a call acquires: a failed call acquires nothing, and `open` fails with a negative
descriptor. -/
def DriSetupCall.acquires : DriSetupCall → Option DriResource
  | .calloc true => some .dri
  | .drmGetRenderDeviceNameFromFd true => some .nodeName
  | .openNode fd => if 0 ≤ fd then some .fd else none
  | .dlopen true => some .driverHandle
  | .createNewScreen2 true => some .device
  | .createNewContext true => some .context
  | _ => none

/-- What a call releases. -/
def DriSetupCall.releases : DriSetupCall → Option DriResource
  | .freeNodeName => some .nodeName
  | .destroyContext => some .context
  | .destroyScreen => some .device
  | .dlclose => some .driverHandle
  | .close _ => some .fd
  | .free => some .dri
  | _ => none

/-- The ledger of `dri_init` and `dri_close`. -/
def setupLedger : Ledger DriSetupCall DriResource :=
  ⟨DriSetupCall.acquires, DriSetupCall.releases, DriResource.uses⟩

/-- Replays the calls of `dri_init` and `dri_close` against what is held. -/
def replay : List DriSetupCall → List DriResource → Option (List DriResource) :=
  setupLedger.replay

theorem replay_append (calls calls' : List DriSetupCall) (held : List DriResource) :
    replay (calls ++ calls') held = (replay calls held).bind (replay calls') :=
  setupLedger.replay_append calls calls' held

/-! ## `dri_init` -/

/-- What the calls of `dri_init` answer: `calloc`, `drmGetRenderDeviceNameFromFd`, `open`,
`dlopen`, the driver's extensions (`none` when `dlsym` finds no `__driDriverGetExtensions_`
entry point for the suffix or it returns `NULL`), `createNewScreen2`, `createNewContext`, and the
extensions of the screen that `core_extension->getExtensions` returns. -/
structure DriInitAnswers where
  calloc : Bool
  nodeName : Bool
  fd : Int
  dlopen : Bool
  extensions : Option (List DriExtension)
  device : Bool
  context : Bool
  screenExtensions : List DriExtension

/-- The `struct dri_driver` a successful `dri_init` returns: its descriptor and the extensions it
looked up. Its library, screen and context are what `replay` tracks. -/
structure DriDriver where
  fd : Int
  coreExtension : DriExtension
  dri2Extension : DriExtension
  imageExtension : DriExtension
  flushExtension : DriExtension
  deriving DecidableEq, Repr

/-- `free_dri:` free `*dri`; `dri_init` returns `NULL`. -/
def freeDri (calls : List DriSetupCall) : Option DriDriver × List DriSetupCall :=
  (none, calls ++ [.free])

/-- `close_dri_fd:` close `dri->fd`, then `free_dri`. -/
def closeDriFd (fd : Int) (calls : List DriSetupCall) : Option DriDriver × List DriSetupCall :=
  freeDri (calls ++ [.close fd])

/-- `free_handle:` `dri_dlclose` the library and clear `dri->driver_handle`, then
`close_dri_fd`. -/
def freeHandle (fd : Int) (calls : List DriSetupCall) : Option DriDriver × List DriSetupCall :=
  closeDriFd fd (calls ++ [.dlclose])

/-- `free_screen:` destroy the screen, then `free_handle`. -/
def freeScreen (fd : Int) (calls : List DriSetupCall) : Option DriDriver × List DriSetupCall :=
  freeHandle fd (calls ++ [.destroyScreen])

/-- `free_context:` destroy the context, then `free_screen`. -/
def freeContext (fd : Int) (calls : List DriSetupCall) : Option DriDriver × List DriSetupCall :=
  freeScreen fd (calls ++ [.destroyContext])

/-- `dri_init`: the driver, or `NULL`, with the calls made, oldest first. The two lookups of the
driver's extensions and the two of the screen's are side-effect free, so the model makes each
pair at once. -/
def driInit (ans : DriInitAnswers) : Option DriDriver × List DriSetupCall :=
  if !ans.calloc then (none, [.calloc false]) else
  if !ans.nodeName then freeDri [.calloc true, .drmGetRenderDeviceNameFromFd false] else
  let calls := [.calloc true, .drmGetRenderDeviceNameFromFd true, .openNode ans.fd, .freeNodeName]
  if ans.fd < 0 then freeDri calls else
  if !ans.dlopen then closeDriFd ans.fd (calls ++ [.dlopen false]) else
  let calls := calls ++ [.dlopen true]
  match ans.extensions with
  | none => freeHandle ans.fd calls
  | some extensions =>
    match lookupExtension extensions driCore 2, lookupExtension extensions driDri2 4 with
    | some core, some dri2 =>
      if !ans.device then freeHandle ans.fd (calls ++ [.createNewScreen2 false]) else
      let calls := calls ++ [.createNewScreen2 true]
      if !ans.context then freeScreen ans.fd (calls ++ [.createNewContext false]) else
      let calls := calls ++ [.createNewContext true]
      match lookupExtension ans.screenExtensions driImage 12,
          lookupExtension ans.screenExtensions dri2Flush 4 with
      | some image, some flush => (some ⟨ans.fd, core, dri2, image, flush⟩, calls)
      | _, _ => freeContext ans.fd calls
    | _, _ => freeHandle ans.fd calls

/-- `dri_close`: destroy the context and the screen, `dri_dlclose` the library, close the
descriptor and free `*dri`. -/
def driClose (dri : DriDriver) : List DriSetupCall :=
  [.destroyContext, .destroyScreen, .dlclose, .close dri.fd, .free]

/-- What a successful `dri_init` holds, most recent first. -/
def driverHeld : List DriResource := [.context, .device, .driverHandle, .fd, .dri]

/-! ## The ladder releases what each label is reached with -/

section ladder

variable {fd : Int} {calls : List DriSetupCall}

theorem freeDri_replay (h : replay calls [] = some [.dri]) :
    replay (freeDri calls).2 [] = some [] := by
  rw [freeDri, replay_append, h]
  rfl

theorem closeDriFd_replay (h : replay calls [] = some [.fd, .dri]) :
    replay (closeDriFd fd calls).2 [] = some [] :=
  freeDri_replay (by rw [replay_append, h]; rfl)

theorem freeHandle_replay (h : replay calls [] = some [.driverHandle, .fd, .dri]) :
    replay (freeHandle fd calls).2 [] = some [] :=
  closeDriFd_replay (by rw [replay_append, h]; rfl)

theorem freeScreen_replay (h : replay calls [] = some [.device, .driverHandle, .fd, .dri]) :
    replay (freeScreen fd calls).2 [] = some [] :=
  freeHandle_replay (by rw [replay_append, h]; rfl)

theorem freeContext_replay (h : replay calls [] = some driverHeld) :
    replay (freeContext fd calls).2 [] = some [] :=
  freeScreen_replay (by rw [replay_append, h]; rfl)

end ladder

/-- Once `open` has answered a descriptor, the node name is freed and `*dri` and the descriptor
are held. -/
theorem replay_opened {fd : Int} (hfd : ¬fd < 0) (calls : List DriSetupCall) :
    replay ([.calloc true, .drmGetRenderDeviceNameFromFd true, .openNode fd, .freeNodeName] ++
      calls) [] = replay calls [.fd, .dri] := by
  have h0 : 0 ≤ fd := by omega
  simp [replay, setupLedger, Ledger.replay, DriSetupCall.acquires, DriSetupCall.releases, h0,
    DriResource.uses]

/-- A failed `open` acquires nothing, and the node name is freed. -/
theorem replay_open_failed {fd : Int} (hfd : fd < 0) :
    replay [.calloc true, .drmGetRenderDeviceNameFromFd true, .openNode fd, .freeNodeName] [] =
      some [.dri] := by
  have h0 : ¬0 ≤ fd := by omega
  simp [replay, setupLedger, Ledger.replay, DriSetupCall.acquires, DriSetupCall.releases, h0,
    DriResource.uses]

/-! ## Every path of `dri_init` -/

/-- On every path of `dri_init` nothing is acquired while held, released unless held, or
released while something that uses it is held. A failed `dri_init` leaves nothing held; a
successful one holds its context, screen, library, descriptor and structure, and `dri_close`
releases all of them. -/
theorem driInit_releases (ans : DriInitAnswers) :
    match driInit ans with
    | (none, calls) => replay calls [] = some []
    | (some dri, calls) =>
      replay calls [] = some driverHeld ∧ replay (calls ++ driClose dri) [] = some [] := by
  unfold driInit
  cases ans.calloc
  · rfl
  cases ans.nodeName
  · exact freeDri_replay rfl
  by_cases hfd : ans.fd < 0
  · rw [if_pos hfd]
    exact freeDri_replay (replay_open_failed hfd)
  rw [if_neg hfd]
  cases ans.dlopen
  · exact closeDriFd_replay (by rw [replay_opened hfd]; rfl)
  have hloaded : replay ([.calloc true, .drmGetRenderDeviceNameFromFd true, .openNode ans.fd,
      .freeNodeName] ++ [.dlopen true]) [] = some [.driverHandle, .fd, .dri] := by
    rw [replay_opened hfd]; rfl
  cases ans.extensions with
  | none => exact freeHandle_replay hloaded
  | some extensions =>
    simp only [Bool.not_true, Bool.false_eq_true, ↓reduceIte]
    cases lookupExtension extensions driCore 2 with
    | none => exact freeHandle_replay hloaded
    | some core =>
    cases lookupExtension extensions driDri2 4 with
    | none => exact freeHandle_replay hloaded
    | some dri2 =>
    cases ans.device
    · refine freeHandle_replay ?_
      rw [replay_append, hloaded]; rfl
    cases ans.context
    · refine freeScreen_replay ?_
      rw [replay_append, replay_append, hloaded]; rfl
    have hheld : replay ([.calloc true, .drmGetRenderDeviceNameFromFd true, .openNode ans.fd,
        .freeNodeName] ++ [.dlopen true] ++ [.createNewScreen2 true] ++ [.createNewContext true])
        [] = some driverHeld := by
      rw [replay_append, replay_append, hloaded]; rfl
    cases lookupExtension ans.screenExtensions driImage 12 with
    | none => exact freeContext_replay hheld
    | some image =>
    cases lookupExtension ans.screenExtensions dri2Flush 4 with
    | none => exact freeContext_replay hheld
    | some flush => exact ⟨hheld, by rw [replay_append, hheld]; rfl⟩

end Minigbm.Dri
