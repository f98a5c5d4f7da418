import BlockVault.Mount.Live
import BlockVault.Proofs.FileTree.Removal
import BlockVault.Proofs.Mount.Cleanup

/-!
# Cleaning up over a disk

A probe may answer in any way, and otherwise from call to call, and an unmount may leave any disk behind. All
that cleaning up does to the disk beside the unmount is to remove one empty directory, behind a look that has
found nothing mounted there.

Main statement: `cleanUp_ends`.
-/

namespace BlockVault

/-- A path that cannot be used is a matter of the system, or of the path itself. -/
theorem PathFault.isFault_failure (fault : PathFault) (path : String) :
    fault = .holdsNul ∧ (fault.failure path).isFault .value ∨ (fault.failure path).isFault .system := by
  cases fault
  case holdsNul => exact .inl ⟨rfl, rfl⟩
  all_goals exact .inr rfl

namespace Mount

/-- A host whose looks fail, if they do, as those of a system. It may refuse what its tree allows. -/
structure Disk where
  host : Host
  lookFault_cases : ∀ f, host.lookFault = some f → f.isFault .system ∨ f.isFault .value
  /-- What the removal of a path is refused with, if the tree allows it. -/
  refusal? : String → Option PathFault
  refusal_cases : ∀ path fault, refusal? path = some fault → fault ≠ .noEntry ∧ fault ≠ .holdsNul

namespace Disk

variable {path : String} {d d' : Disk}

/-- The disk with another tree. -/
def withTree (d : Disk) (tree : FileTree) : Disk := { d with host := { d.host with tree } }

/-- Removes an empty directory. -/
def removeDirectory (d : Disk) (path : String) : Except PathFault Disk :=
  match d.host.tree.removeDirectory path with
  | .error fault => .error fault
  | .ok tree =>
    match d.refusal? path with
    | some fault => .error fault
    | none => .ok (d.withTree tree)

/-- The disk has lost the empty directory that the path names, and is else as it was. -/
def Loses (d d' : Disk) (path : String) : Prop :=
  ∃ place tree, d.host.tree.find (FileTree.withoutTail path) false = .ok place ∧
    d.host.tree.Loses tree place ∧ d' = d.withTree tree

/-- Whether there is something at a path: the tree has it, or a look at it fails. -/
theorem pathExists_cases (d : Disk) (path : String) :
    (∃ node, d.host.tree.look path = .ok node ∧ d.host.pathExists path = .ok true) ∨
      d.host.pathExists path = .ok false := by
  have failing : ∀ f, d.host.look path = .error f → f.isFault .system ∨ f.isFault .value →
      d.host.pathExists path = .ok false := by
    intro f looked kind
    have refused : (f.isFault .system || f.isFault .value) = true := by simpa using kind
    simp only [Host.pathExists, looked, refused, if_true]
  cases fault : d.host.lookFault with
  | some f =>
    right
    have looked : d.host.look path = .error f := by simp only [Host.look, fault]
    exact failing f looked (d.lookFault_cases f fault)
  | none =>
    cases seen : d.host.tree.look path with
    | ok node =>
      left
      have looked : d.host.look path = .ok () := by simp only [Host.look, fault, seen]
      exact ⟨node, rfl, by rw [Host.pathExists, looked]⟩
    | error e =>
      right
      have looked : d.host.look path = .error (e.failure path) := by simp only [Host.look, fault, seen]
      refine failing _ looked ?_
      rcases PathFault.isFault_failure e path with ⟨-, value⟩ | system
      · exact .inr value
      · exact .inl system

/-- What the tree does not have is not there. -/
theorem pathExists_of_missing (missing : ∀ node, d.host.tree.look path ≠ .ok node) :
    d.host.pathExists path = .ok false := by
  rcases d.pathExists_cases path with ⟨node, seen, -⟩ | absent
  · exact absurd seen (missing node)
  · exact absent

/-- A removal that succeeds takes the directory away, and there is nothing at the path any more. -/
theorem removeDirectory_ok (h : d.removeDirectory path = .ok d') :
    d.Loses d' path ∧ d'.host.pathExists path = .ok false := by
  unfold removeDirectory at h
  split at h
  · cases h
  · rename_i tree gone
    split at h
    · cases h
    · obtain rfl := Except.ok.inj h
      have told := d.host.tree.tells_removeDirectory path
      rw [gone] at told
      obtain ⟨place, found, loses⟩ := told
      exact ⟨⟨place, tree, found, loses, rfl⟩, pathExists_of_missing (FileTree.look_of_removed gone)⟩

/-- A removal that fails has found nothing at the path, or it is refused. -/
theorem removeDirectory_error {fault : PathFault} (h : d.removeDirectory path = .error fault) :
    (fault = .noEntry → d.host.pathExists path = .ok false) ∧
      (fault = .holdsNul → '\x00' ∈ path.toList) := by
  unfold removeDirectory at h
  split at h
  · rename_i kept
    obtain rfl := Except.error.inj h
    have told := d.host.tree.tells_removeDirectory path
    rw [kept] at told
    refine ⟨?_, told.1⟩
    rintro rfl
    exact pathExists_of_missing (FileTree.look_of_noEntry kept)
  · split at h
    · rename_i refused
      obtain rfl := Except.error.inj h
      obtain ⟨entry, usable⟩ := d.refusal_cases path _ refused
      exact ⟨fun missing => absurd missing entry, fun nul => absurd nul usable⟩
    · cases h

end Disk

/-- What tells about mounts and undoes them, with a state of its own. An unmount may leave any disk. -/
structure Probe (π : Type) where
  isMountPoint : String → Disk → π → Logged (Except Failure Bool × π)
  filesystemType : String → Disk → π → Logged (Except Failure String × π)
  unmount : String → Option Quantity → Disk → π → Logged (Except Failure Unit × Disk × π)

namespace Probe

variable {π : Type}

/-- Answers queries by a probe and a disk. -/
def world (p : Probe π) : World (Disk × π)
  | .pathExists path, (d, s) => pure (d.host.pathExists path, d, s)
  | .isMountPoint path, (d, s) => do
    let (answer, s) ← p.isMountPoint path d s
    return (answer, d, s)
  | .filesystemType path, (d, s) => do
    let (answer, s) ← p.filesystemType path d s
    return (answer, d, s)
  | .unmount path force, (d, s) => p.unmount path force d s
  | .removeDirectory path, (d, s) =>
    match d.removeDirectory path with
    | .ok d => pure (.ok (), d, s)
    | .error fault => pure (.error fault, d, s)

end Probe

/-- The system's own probe. -/
def Live.probe {ρ : Type} (run : Runner ρ) (canForce : Bool) : Probe ρ where
  isMountPoint path d r := pure (d.host.isMountPoint path, r)
  filesystemType path d r := pure (d.host.filesystemType path, r)
  unmount path force d r := do
    let (result, r) ← Live.unmount run canForce path force r
    return (result, d, r)

/-- Over a disk that refuses nothing, the system answers as its probe does. -/
theorem Live.world_probe {ρ : Type} {d : Disk} (allows : ∀ path, d.refusal? path = none) (run : Runner ρ)
    (canForce : Bool) (q : Query) (r : ρ) :
    let told := ((Live.probe run canForce).world q (d, r)).value
    (Live.world run canForce q ⟨d.host, r⟩).value = (told.1, ⟨told.2.1.host, told.2.2⟩) := by
  cases q with
  | removeDirectory path =>
    simp only [Live.world, Probe.world, Disk.removeDirectory, allows]
    cases d.host.tree.removeDirectory path <;> rfl
  | _ => rfl

variable {π : Type} (p : Probe π) (path : String) (force : Option Quantity) (d : Disk) (s : π)

/-- A release leaves the disk that its unmount leaves. -/
theorem disk_release : ((release path force).perform p.world (d, s)).2.1 =
    (p.unmount path force d s).value.2.1 := by
  cases told : (p.world (.unmount path force) (d, s)).value with
  | mk answer rest =>
  obtain ⟨left, s₁⟩ := rest
  have unmounted : (p.unmount path force d s).value = (answer, left, s₁) := told
  rw [unmounted]
  cases answer with
  | error f => rw [(release_of_refused told).1]
  | ok =>
    have again : (p.world (.isMountPoint path) (left, s₁)).value =
      ((p.isMountPoint path left s₁).value.1, left, (p.isMountPoint path left s₁).value.2) := rfl
    rw [(release_of_unmounted told again).1]

/-- Detaching changes the disk by an unmount or not at all. -/
theorem disk_detach :
    unmounts ((detach path force).history p.world (d, s)) = [] ∧
        ((detach path force).perform p.world (d, s)).2.1 = d ∨
      unmounts ((detach path force).history p.world (d, s)) = [.unmount path force] ∧
        ((detach path force).perform p.world (d, s)).2.1 =
          (p.unmount path force d (p.isMountPoint path d s).value.2).value.2.1 := by
  have first : (p.world (.isMountPoint path) (d, s)).value =
    ((p.isMountPoint path d s).value.1, d, (p.isMountPoint path d s).value.2) := rfl
  by_cases free : (p.isMountPoint path d s).value.1 = .ok false
  · left
    rw [free] at first
    rw [(detach_of_free first).1, (detach_of_free first).2]
    exact ⟨rfl, rfl⟩
  · right
    rw [(detach_of_taken first free).1, (detach_of_taken first free).2, disk_release]
    refine ⟨?_, rfl⟩
    simp [unmounts_release]

/-- A removal that succeeds leaves another disk. -/
theorem remove_of_gone {d' : Disk} (gone : d.removeDirectory path = .ok d') :
    (remove path).perform p.world (d, s) = (.ok (), d', s) ∧
      (remove path).history p.world (d, s) = [⟨.removeDirectory path, Except.ok ()⟩] := by
  have told : (p.world (.removeDirectory path) (d, s)).value = (.ok (), d', s) := by
    simp only [Probe.world, gone, Logged.pure_value]
  exact remove_of_told told

/-- A removal that fails leaves the disk. -/
theorem remove_of_kept {fault : PathFault} (kept : d.removeDirectory path = .error fault) :
    (remove path).perform p.world (d, s) = (removed path (.error fault), d, s) ∧
      (remove path).history p.world (d, s) = [⟨.removeDirectory path, Except.error fault⟩] := by
  have told : (p.world (.removeDirectory path) (d, s)).value = (.error fault, d, s) := by
    simp only [Probe.world, kept, Logged.pure_value]
  exact remove_of_told told

/-- What cleaning up a path asks and how it ends, with the disk that the unmount has left and the last one. -/
structure Cleans (path : String) (force : Option Quantity) (asked : List Exchange)
    (ends : Except Failure Unit) (left after : Disk) : Prop where
  /-- The one removal is the last query, and the last look before it has found nothing mounted. -/
  guarded : (∀ e ∈ asked, e.query.removes = false) ∨
    ∃ before answer, asked = before ++ [⟨.removeDirectory path, answer⟩] ∧
      (∀ e ∈ before, e.query.removes = false) ∧ (looks path before).getLast? = some (.ok false)
  /-- Where a directory goes, the cleaning up has succeeded. -/
  frame : after = left ∨ ends = .ok () ∧ left.Loses after path
  gone : ends = .ok () → after.host.pathExists path = .ok false
  blames : ∀ e, ends = .error e → e.isOwn ∧ ∃ last, asked.getLast? = some last ∧ Blames path force last e
  own : ∀ f, ⟨.unmount path force, Except.error f⟩ ∈ asked → f.isOwn → ends = .error f

theorem Blames.isOwn {last : Exchange} {e : Failure} (h : Blames path force last e) : e.isOwn := by
  cases h with
  | own layer => exact layer
  | unmount => rfl
  | look => rfl
  | stillMounted => rfl
  | removal => rfl

variable {path} in
theorem removed_of_refused {fault : PathFault} (entry : fault ≠ .noEntry) (usable : fault ≠ .holdsNul) :
    removed path (.error fault) =
      .error (.cleanup s!"Failed to remove mount point {path}" path (some (fault.failure path))) := by
  cases fault with
  | noEntry => exact absurd rfl entry
  | holdsNul => exact absurd rfl usable
  | _ => rfl

variable {path force} in
/-- The removal of a path that is there and has been detached. -/
theorem cleans_remove {before : List Exchange} (detaches : Detaches path force before (.ok ()))
    (noNul : '\x00' ∉ path.toList) :
    Cleans path force
      (⟨.pathExists path, Except.ok true⟩ :: (before ++ (remove path).history p.world (d, s)))
      ((remove path).perform p.world (d, s)).1 d ((remove path).perform p.world (d, s)).2.1 := by
  have quiet : ∀ e ∈ ⟨.pathExists path, Except.ok true⟩ :: before, e.query.removes = false := by
    intro e inside
    rcases List.mem_cons.1 inside with rfl | later
    · rfl
    · exact detaches.keeps e later
  have free : (looks path (⟨.pathExists path, Except.ok true⟩ :: before)).getLast? = some (.ok false) := by
    simpa using detaches.free rfl
  -- Detaching has succeeded, so the unmount, if there was one, has not failed in this layer.
  have unmounted : ∀ (answer : (Query.removeDirectory path).Answer) f,
      (⟨.unmount path force, Except.error f⟩ : Exchange) ∈
          ⟨.pathExists path, Except.ok true⟩ :: (before ++ [⟨.removeDirectory path, answer⟩]) →
        ¬ f.isOwn := by
    intro answer f inside layer
    rcases List.mem_cons.1 inside with same | later
    · cases same
    · rcases List.mem_append.1 later with early | last
      · cases detaches.own f early layer
      · cases List.mem_singleton.1 last
  cases gone : d.removeDirectory path with
  | ok d' =>
    rw [(remove_of_gone p path d s gone).1, (remove_of_gone p path d s gone).2]
    obtain ⟨loses, absent⟩ := Disk.removeDirectory_ok gone
    constructor
    · exact .inr ⟨_, _, rfl, quiet, free⟩
    · exact .inr ⟨rfl, loses⟩
    · exact fun _ => absent
    · nofun
    · intro f inside layer
      exact absurd layer (unmounted _ f inside)
  | error fault =>
    rw [(remove_of_kept p path d s gone).1, (remove_of_kept p path d s gone).2]
    obtain ⟨absent, nul⟩ := Disk.removeDirectory_error gone
    have usable : fault ≠ .holdsNul := fun same => noNul (nul same)
    constructor
    · exact .inr ⟨_, _, rfl, quiet, free⟩
    · exact .inl rfl
    · intro ends
      by_cases missing : fault = .noEntry
      · exact absent missing
      · rw [removed_of_refused missing usable] at ends
        cases ends
    · intro e fails
      by_cases missing : fault = .noEntry
      · subst missing
        cases fails
      · rw [removed_of_refused missing usable] at fails
        cases fails
        have system := (fault.isFault_failure path).resolve_left fun value => usable value.1
        refine ⟨rfl, _, ?_, .removal missing system⟩
        rw [List.getLast?_cons, List.getLast?_concat]
        rfl
    · intro f inside layer
      exact absurd layer (unmounted _ f inside)

/-- **What cleaning up does**, by any probe over any disk. An unmount is asked for once at most, and what it
leaves is the disk that everything else is measured by: that is the disk in the end too, or it has lost the
empty directory at the path. It loses it only behind a last look that has found nothing mounted, and only if
the cleaning up succeeds. Then there is nothing at the path. Otherwise the failure is one of this layer,
and what the unmount failed with if that is one. -/
theorem cleanUp_ends (p : Probe π) (path : String) (force : Option Quantity) (d : Disk) (s : π) :
    let task := cleanUp path force
    let asked := task.history p.world (d, s)
    let looked := (p.isMountPoint path d s).value
    let unmounted := (p.unmount path force d looked.2).value
    ∃ left, (unmounts asked = [] ∧ left = d ∨
        unmounts asked = [.unmount path force] ∧ left = unmounted.2.1) ∧
      Cleans path force asked (task.perform p.world (d, s)).1 left (task.perform p.world (d, s)).2.1 := by
  intro task asked looked unmounted
  rcases d.pathExists_cases path with ⟨node, seen, present⟩ | absent
  · have first : (p.world (.pathExists path) (d, s)).value = (.ok true, d, s) := by
      simp only [Probe.world, present, Logged.pure_value]
    have noNul : '\x00' ∉ path.toList := by
      obtain ⟨place, found, -⟩ := FileTree.look_eq_ok_iff.1 seen
      exact (FileTree.find_eq_ok_iff.1 found).1
    have detaches := @detaches_detach _ p.world path force (d, s)
    have disk := disk_detach p path force d s
    cases went : (detach path force).perform p.world (d, s) with
    | mk result rest =>
    obtain ⟨left, s₂⟩ := rest
    rw [went] at detaches disk
    cases result with
    | error f =>
      simp only [asked, task]
      rw [(cleanUp_of_attached first went).1, (cleanUp_of_attached first went).2]
      refine ⟨left, by simpa using disk, ?_⟩
      constructor
      · left
        intro e inside
        rcases List.mem_cons.1 inside with rfl | later
        · rfl
        · exact detaches.keeps e later
      · exact .inl rfl
      · intro ends
        cases ends
      · intro e fails
        obtain ⟨last, later, blamed⟩ := detaches.blames e fails
        exact ⟨blamed.isOwn, last, by rw [List.getLast?_cons, later]; rfl, blamed⟩
      · intro g inside
        rcases List.mem_cons.1 inside with same | later
        · cases same
        · exact detaches.own g later
    | ok =>
      simp only [asked, task]
      rw [(cleanUp_of_detached first went).1, (cleanUp_of_detached first went).2]
      refine ⟨left, ?_, ?_⟩
      · simpa [unmounts_remove] using disk
      · exact cleans_remove p left s₂ detaches noNul
  · have first : (p.world (.pathExists path) (d, s)).value = (.ok false, d, s) := by
      simp only [Probe.world, absent, Logged.pure_value]
    simp only [asked, task]
    rw [(cleanUp_of_absent first).1, (cleanUp_of_absent first).2]
    refine ⟨d, .inl ⟨rfl, rfl⟩, ?_⟩
    constructor
    · left
      simp [Query.removes]
    · exact .inl rfl
    · exact fun _ => absent
    · intro e fails
      cases fails
    · intro g inside
      cases List.mem_singleton.1 inside

/-- A directory in the root, and nothing else. -/
def plainDisk : Disk where
  host := { tree := .ofDirectories "/" ["/mnt"] }
  lookFault_cases := nofun
  refusal? _ := none
  refusal_cases := nofun

theorem pathExists_plainDisk : plainDisk.host.pathExists "/mnt" = .ok true := by
  have root : plainDisk.host.tree.root.surface? [] = some (.directory []) := rfl
  have there : plainDisk.host.tree.root.surface? ["mnt"] = some (.directory []) := rfl
  have ordinary : FileTree.Ordinary "mnt" := ⟨by decide, by decide, by decide⟩
  have leads : FileTree.Leads plainDisk.host.tree.root true FileTree.linkLimit [] ["mnt"] ["mnt"] :=
    .into root ordinary there nofun (.here _ _)
  have found : plainDisk.host.tree.find "/mnt" true = .ok ["mnt"] :=
    FileTree.find_eq_ok_iff.2 ⟨by decide, by decide, leads⟩
  have seen : plainDisk.host.tree.look "/mnt" = .ok (.directory []) :=
    FileTree.look_eq_ok_iff.2 ⟨_, found, rfl⟩
  have sound : plainDisk.host.lookFault = none := rfl
  simp only [Host.pathExists, Host.look, sound, seen]

/-- A probe that fails at the first look and finds the path mounted at every other one, although it unmounts
without a failure. -/
def stubbornProbe (fault : Failure) : Probe Bool where
  isMountPoint _ _ first := pure (if first then .error fault else .ok true, false)
  filesystemType _ _ first := pure (.ok "nfs4", first)
  unmount _ _ d first := pure (.ok (), d, first)

/-- The probe has failed, but the failure of the cleaning up has no cause. -/
theorem cleanUp_without_cause :
    let fault : Failure := .fault (.system .system 116 "Stale file handle" none)
    let task := cleanUp "/mnt" none
    ⟨.isMountPoint "/mnt", Except.error fault⟩ ∈ task.history (stubbornProbe fault).world (plainDisk, true) ∧
      (task.perform (stubbornProbe fault).world (plainDisk, true)).1 =
        .error (.cleanup "Failed to unmount path /mnt: still mounted" "/mnt" none) := by
  intro fault task
  have first : ((stubbornProbe fault).world (.pathExists "/mnt") (plainDisk, true)).value =
      (.ok true, plainDisk, true) := by
    simp only [Probe.world, pathExists_plainDisk, Logged.pure_value]
  have fails : (detach "/mnt" none).perform (stubbornProbe fault).world (plainDisk, true) =
      (.error (.cleanup "Failed to unmount path /mnt: still mounted" "/mnt" none), plainDisk, false) := rfl
  simp only [task, (cleanUp_of_attached first fails).1, (cleanUp_of_attached first fails).2]
  exact ⟨.tail _ (.head _), trivial⟩

end Mount

end BlockVault
