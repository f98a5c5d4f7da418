import BlockVault.Failure.Text
import BlockVault.Mount.Plan
import BlockVault.Settings
import BlockVault.Text.Line

/-!
# Cleaning up mount points

A stale mount is unmounted and its directory removed. The directory goes only after a probe has said
that nothing is mounted there. `reconcile` leaves a mount of the expected kind alone and cleans up
every other one.
-/

namespace BlockVault.Mount

/-- Unmounts a path and makes sure that nothing is mounted there any more. -/
def release (path : String) (force : Option Quantity) : Task Unit := do
  match ← Task.ask (.unmount path force) with
  | .error f =>
    if f.isOwn then throw f
    else throw (.cleanup s!"Failed to unmount {path}" path (some f))
  | .ok () =>
    match ← Task.ask (.isMountPoint path) with
    | .error f => throw (.cleanup s!"Failed to check {path} after unmount" path (some f))
    | .ok true => throw (.cleanup s!"Failed to unmount path {path}: still mounted" path none)
    | .ok false => return ()

/-- Removes the directory at a path, if there is one. -/
def remove (path : String) : Task Unit := do
  match ← Task.ask (.removeDirectory path) with
  | .ok () | .error .noEntry => Task.report .info s!"Cleaned up mount point {path}"
  | .error fault =>
    let f := fault.failure path
    if f.isFault .system then
      throw (.cleanup s!"Failed to remove mount point {path}" path (some f))
    else throw f

/-- Unmounts a path unless a probe says that nothing is mounted there. A mount that cannot be probed
counts as mounted. -/
def detach (path : String) (force : Option Quantity) : Task Unit := do
  match ← Task.ask (.isMountPoint path) with
  | .ok false => return ()
  | .ok true => release path force
  | .error f =>
    Task.report .warning s!"Treating {path} as a corrupted mount: {f.message}"
    release path force

/-- Unmounts a path if needed and removes its directory. With a time limit it is unmounted by
force. -/
def cleanUp (path : String) (force : Option Quantity) : Task Unit := do
  match ← Task.ask (.pathExists path) with
  | .error f => throw f
  | .ok false => Task.report .warning s!"Unmount skipped because path does not exist: {path}"
  | .ok true =>
    detach path force
    remove path

/-- Cleans up by force where the probe can. -/
def cleanUpStale (settings : Settings) (canForce : Bool) (path : String) : Task Unit :=
  if canForce then do
    Task.report .info s!"Trying to force clean up mountpoint {path}"
    cleanUp path (some settings.forceTimeout)
  else do
    Task.report .info s!"Trying to clean up mountpoint {path}"
    cleanUp path none

/-- Tells whether a mount of the expected kind is at a path; a mount of another kind is cleaned up.
A mount that cannot be probed is cleaned up too, but reported as a failure. -/
def reconcile (settings : Settings) (canForce : Bool) (expected path : String) : Task Bool := do
  match ← Task.ask (.isMountPoint path) with
  | .error f =>
    match ← (cleanUpStale settings canForce path).outcome with
    | .error g =>
      Task.report .error s!"Failed to unmount corrupted mountpoint {path}: {g.message}"
    | .ok () => pure ()
    throw (.probe s!"Failed to determine mount state of {path}" path (some f))
  | .ok false => return false
  | .ok true =>
    match ← Task.ask (.filesystemType path) with
    | .error f => throw (.probe s!"Failed to get mount for {path}" path (some f))
    | .ok kind =>
      if Text.occurs expected.toList kind.toList then return true
      Task.report .info s!"Mountpoint {path} is {kind}, expected {expected}"
      match ← (cleanUpStale settings canForce path).outcome with
      | .error g =>
        Task.report .error
          s!"Failed to unmount mountpoint {path} ({kind}) for {expected} protocol: {g.message}"
        throw (.wrongKind path kind expected (some g))
      | .ok () => return false

end BlockVault.Mount
