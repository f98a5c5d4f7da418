import BlockVault.Mount.Live
import BlockVault.Proofs.Mount.Reconcile

/-!
# Reconciling the system's mounts

The system's own probe looks at a path before it asks the table of mounts, and fails where the look does.
Cleaning up looks at the path again, and takes one that cannot be looked at for one that is not there. So
a mount whose path cannot be looked at, such as one with a stale handle, is reported and never unmounted
(`reconcile_unreadable`).
-/

namespace BlockVault.Mount

variable {ρ : Type} {host : Host} {path : String} {f : Failure}

/-- A look at the path is refused by the system, and not because nothing is there. -/
structure Host.Unreadable (host : Host) (path : String) (f : Failure) : Prop where
  looked : host.look path = .error f
  system : f.isFault .system
  present : ¬ f.isFault .fileNotFound

namespace Host.Unreadable

/-- No answer to whether something is mounted. -/
theorem isMountPoint (h : host.Unreadable path f) : host.isMountPoint path = .error f := by
  simp only [Host.isMountPoint, h.looked, if_neg h.present]

/-- To clean up, the path counts as one that is not there. -/
theorem pathExists (h : host.Unreadable path f) : host.pathExists path = .ok false := by
  simp only [Host.pathExists, h.looked, h.system, Bool.true_or, if_true]

/-- Cleaning up ends with the second look. -/
theorem cleanUpStale (h : host.Unreadable path f) (settings : Settings) (canForce : Bool) (run : Runner ρ)
    (r : ρ) :
    (cleanUpStale settings canForce path).perform (Live.world run canForce) ⟨host, r⟩ =
        (.ok (), ⟨host, r⟩) ∧
      (Mount.cleanUpStale settings canForce path).history (Live.world run canForce) ⟨host, r⟩ =
        [⟨.pathExists path, Except.ok false⟩] := by
  have absent : (Live.world run canForce (.pathExists path) ⟨host, r⟩).value =
      (.ok false, ⟨host, r⟩) := by
    simp [Live.world, h.pathExists]
  cases canForce with
  | true => simp [Mount.cleanUpStale, cleanUp, absent]
  | false => simp [Mount.cleanUpStale, cleanUp, absent]

end Host.Unreadable

/-- **A mount that cannot be looked at stays mounted.** Whatever the table has, whatever runs commands and
whether or not the probe can force, reconciling it asks for no unmount and runs no command. It ends in the
failure of the look. -/
theorem reconcile_unreadable (h : host.Unreadable path f) (settings : Settings) (canForce : Bool)
    (expected : String) (run : Runner ρ) (r : ρ) :
    let task := reconcile settings canForce expected path
    task.perform (Live.world run canForce) ⟨host, r⟩ =
        (.error (.probe s!"Failed to determine mount state of {path}" path (some f)), ⟨host, r⟩) ∧
      unmounts (task.history (Live.world run canForce) ⟨host, r⟩) = [] := by
  intro task
  have looked : (Live.world run canForce (.isMountPoint path) ⟨host, r⟩).value =
      (.error f, ⟨host, r⟩) := by
    simp [Live.world, h.isMountPoint]
  obtain ⟨performed, history⟩ := reconcile_of_unreadable settings canForce expected looked
  obtain ⟨cleaned, seen⟩ := h.cleanUpStale settings canForce run r
  rw [cleaned] at performed
  rw [seen] at history
  exact ⟨performed, by simp [task, history]⟩

/-- Commands that print nothing and succeed, written down as they are run. -/
def writtenDown : Runner (List (String × List String)) := fun binary args _ ran =>
  pure (.ok "", ran ++ [(binary, args)])

def staleHandle : Failure := .fault (.system .system 116 "Stale file handle" none)

/-- An export is mounted on a directory, and its handle is stale. -/
def staleHost : Host where
  tree := .ofDirectories "/" ["/mnt"]
  table := [⟨"srv:/export", "/mnt", "nfs4", ["rw"]⟩]
  lookFault := some staleHandle

theorem unreadable_staleHost : staleHost.Unreadable "/mnt" staleHandle where
  looked := rfl
  system := by decide
  present := by decide

/-- The path of the directory is what the table has. -/
theorem canonical_staleHost : staleHost.tree.canonical "/mnt" = "/mnt" := by
  have names : (FileTree.components "/mnt").map FileTree.Step.follow = [.follow "mnt"] := rfl
  have start : staleHost.tree.start "/mnt" = [] := rfl
  have there : staleHost.tree.root.at? ["mnt"] = some (.directory []) := rfl
  have place : FileTree.resolve staleHost.tree.root staleHost.tree.root.linkCount [] []
      [.follow "mnt"] = ["mnt"] := by
    simp [FileTree.resolve, there]
  rw [FileTree.canonical, names, start, place]
  rfl

theorem mountAt?_staleHost :
    staleHost.mountAt? "/mnt" = .ok (some ⟨"srv:/export", "/mnt", "nfs4", ["rw"]⟩) := by
  rw [Host.mountAt?, canonical_staleHost]
  rfl

theorem reconcile_staleHost :
    staleHost.Unreadable "/mnt" staleHandle ∧
      (reconcile {} true "nfs" "/mnt").perform (Live.world writtenDown true) ⟨staleHost, []⟩ =
        (.error (.probe "Failed to determine mount state of /mnt" "/mnt" (some staleHandle)),
          ⟨staleHost, []⟩) :=
  ⟨unreadable_staleHost, (reconcile_unreadable unreadable_staleHost {} true "nfs" writtenDown []).1⟩

/-- The table has an entry for the directory and its handle is stale, but no unmount is run, with a probe
that can force or with one that cannot. -/
theorem stale_handle_stays_mounted :
    staleHost.mountAt? "/mnt" = .ok (some ⟨"srv:/export", "/mnt", "nfs4", ["rw"]⟩) ∧
    staleHost.Unreadable "/mnt" staleHandle ∧
    ∀ canForce, ("umount", ["/mnt"]) ∉
      ((reconcile {} canForce "nfs" "/mnt").perform (Live.world writtenDown canForce)
        ⟨staleHost, []⟩).2.runner := by
  refine ⟨mountAt?_staleHost, unreadable_staleHost, ?_⟩
  decide

end BlockVault.Mount
