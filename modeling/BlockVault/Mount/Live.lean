import BlockVault.Failure.Text
import BlockVault.Mount.Plan
import BlockVault.Mount.Table

/-!
# The system's mounts

A host has files and a table of mounts. `Live.world` answers the queries of plans by them, and
unmounts by running commands.
-/

namespace BlockVault.Mount

/-- Runs a command with arguments and a time limit, and moves a state on. -/
abbrev Runner (ρ : Type) :=
  String → List String → Option Quantity → ρ → Logged (Except Failure String × ρ)

structure Host where
  tree : FileTree
  table : Table := []
  /-- What every look behind a path fails with. -/
  lookFault : Option Failure := none

namespace Host

/-- Looks at what a path leads to. -/
def look (h : Host) (path : String) : Except Failure Unit :=
  match h.lookFault with
  | some f => .error f
  | none =>
    match h.tree.look path with
    | .ok _ => .ok ()
    | .error e => .error (e.failure path)

/-- Whether there is something at a path. What cannot be looked at is not there. -/
def pathExists (h : Host) (path : String) : Except Failure Bool :=
  match h.look path with
  | .ok () => .ok true
  | .error f => if f.isFault .system || f.isFault .value then .ok false else .error f

/-- The last entry of the table for the place that a path names. -/
def mountAt? (h : Host) (path : String) : Except Failure (Option Entry) :=
  if path.toList.contains '\x00' then .error (PathFault.holdsNul.failure path)
  else .ok (h.table.find? (h.tree.canonical path))

/-- Whether something is mounted at a path. A path that cannot be looked at gives no answer. -/
def isMountPoint (h : Host) (path : String) : Except Failure Bool :=
  match h.look path with
  | .ok () => (h.mountAt? path).map (·.isSome)
  | .error f => if f.isFault .fileNotFound then .ok false else .error f

/-- The kind of the file system mounted at a path. -/
def filesystemType (h : Host) (path : String) : Except Failure String := do
  match ← h.mountAt? path with
  | some e => return e.filesystemType
  | none => throw (.probe s!"No mount table entry for {path}" path none)

end Host

/-- A host, and the state of what runs commands on it. -/
structure Live (ρ : Type) where
  host : Host
  runner : ρ

namespace Live

variable {ρ : Type}

def report (level : Journal.Level) (message : String) : Logged Unit :=
  .write level .mounts message

/-- Unmounts a path; if that takes too long, by force, with as much time again. -/
def unmountByForce (run : Runner ρ) (path : String) (limit : Quantity) (r : ρ) :
    Logged (Except Failure Unit × ρ) := do
  match ← run "umount" [path] (some limit) r with
  | (.ok _, r) => return (.ok (), r)
  | (.error (.timeout ..), r) =>
    report .warning s!"Unmount of {path} timed out after {limit.text}s, forcing"
    let (result, r) ← run "umount" ["-f", path] (some limit) r
    return (result.map fun _ => (), r)
  | (.error f, r) => return (.error f, r)

/-- Unmounts a path. -/
def unmount (run : Runner ρ) (canForce : Bool) (path : String) (force : Option Quantity) (r : ρ) :
    Logged (Except Failure Unit × ρ) := do
  match force with
  | none =>
    let (result, r) ← run "umount" [path] none r
    return (result.map fun _ => (), r)
  | some limit =>
    if canForce then unmountByForce run path limit r
    else
      return (.error (.saying .attributeAccess
        "'SystemMountProbe' object has no attribute 'unmount_with_force'"), r)

/-- Answers queries by the host. -/
def world (run : Runner ρ) (canForce : Bool) : World (Live ρ)
  | .pathExists path, s => pure (s.host.pathExists path, s)
  | .isMountPoint path, s => pure (s.host.isMountPoint path, s)
  | .filesystemType path, s => pure (s.host.filesystemType path, s)
  | .unmount path force, s => do
    let (result, runner) ← unmount run canForce path force s.runner
    return (result, { s with runner })
  | .removeDirectory path, s =>
    match s.host.tree.removeDirectory path with
    | .ok tree => pure (.ok (), { s with host := { s.host with tree } })
    | .error e => pure (.error e, s)

end Live

/-- Whether a listing of mounts names a path. Where there is no listing, nothing is mounted. -/
def isMounted {ρ : Type} (run : Runner ρ) (path : String) (r : ρ) :
    Logged (Except Failure Bool × ρ) := do
  match ← run "mount" [] none r with
  | (.ok listing, r) => return (.ok (isListed listing path), r)
  | (.error f, r) => return (if f.isOwn then .ok false else .error f, r)

end BlockVault.Mount
