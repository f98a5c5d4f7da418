import BlockVault.Proofs.Mount.Disk

/-!
# What a reported absence means

Reconciling a path reports that nothing is mounted there any more if the probe has said so at its last look.
There is one other way: the probe has named a mount of the wrong kind at a path where nothing is found, and
cleaning up such a path is skipped.

Main statement: `reconcile_false`.
-/

namespace BlockVault.Mount

variable {σ : Type} {world : World σ} {settings : Settings} {canForce : Bool} {path : String} {s : σ}

/-- How cleaning up a stale mount succeeds. -/
theorem cleanUpStale_ok (ends : ((cleanUpStale settings canForce path).perform world s).1 = .ok ()) :
    (cleanUpStale settings canForce path).history world s = [⟨.pathExists path, Except.ok false⟩] ∨
      (looks path ((cleanUpStale settings canForce path).history world s)).getLast? = some (.ok false) := by
  cases canForce with
  | true =>
    simp only [cleanUpStale, if_true, Task.perform_bind, Task.perform_report] at ends
    simpa [cleanUpStale] using cleanUp_ok ends
  | false =>
    simp only [cleanUpStale, Bool.false_eq_true, if_false, Task.perform_bind, Task.perform_report] at ends
    simpa [cleanUpStale] using cleanUp_ok ends

/-- **What a reported absence means**, whatever a probe answers from query to query. The last look at the path
has found nothing mounted, or the probe has named a mount of the wrong kind and the cleaning up has been
skipped, since there is nothing at the path. A mount that was seen is reported as gone only if a later look
has found it gone, or in that second case. -/
theorem reconcile_false (world : World σ) (settings : Settings) (canForce : Bool) (expected path : String)
    (s : σ) :
    let task := reconcile settings canForce expected path
    let asked := task.history world s
    let ends := (task.perform world s).1
    let skipped := ∃ kind, ¬ expected.toList <:+: kind.toList ∧
      asked = [⟨.isMountPoint path, Except.ok true⟩, ⟨.filesystemType path, Except.ok kind⟩,
        ⟨.pathExists path, Except.ok false⟩]
    (ends = .ok false → (looks path asked).getLast? = some (.ok false) ∨ skipped) ∧
      (ends = .ok false → ∀ kind, ⟨.filesystemType path, Except.ok kind⟩ ∈ asked →
        .ok false ∈ (looks path asked).tail ∨ skipped) := by
  intro task asked ends skipped
  cases told : (world (.isMountPoint path) s).value with
  | mk looked s₁ =>
  rcases looked with f | _ | _
  · obtain ⟨performed, -⟩ := reconcile_of_unreadable settings canForce expected told
    have failed : ends ≠ .ok false := by simp [ends, task, performed]
    exact ⟨fun h => absurd h failed, fun h => absurd h failed⟩
  · obtain ⟨-, history⟩ := reconcile_of_free settings canForce expected told
    simp only [asked, task, history]
    refine ⟨fun _ => .inl (by simp), fun _ kind inside => ?_⟩
    cases List.mem_singleton.1 inside
  · cases named : (world (.filesystemType path) s₁).value with
    | mk answer s₂ =>
    rcases answer with f | kind
    · obtain ⟨performed, -⟩ := reconcile_of_unnamed settings canForce expected told named
      have failed : ends ≠ .ok false := by simp [ends, task, performed]
      exact ⟨fun h => absurd h failed, fun h => absurd h failed⟩
    · by_cases right : Text.occurs expected.toList kind.toList
      · obtain ⟨performed, -⟩ := reconcile_of_expected settings canForce expected told named right
        have failed : ends ≠ .ok false := by simp [ends, task, performed]
        exact ⟨fun h => absurd h failed, fun h => absurd h failed⟩
      · obtain ⟨performed, history⟩ := reconcile_of_stale settings canForce expected told named right
        have wrong : ¬ expected.toList <:+: kind.toList := fun fits => right (Text.occurs_iff.2 fits)
        have gone : ends = .ok false →
            (looks path ((cleanUpStale settings canForce path).history world s₂)).getLast? =
                some (.ok false) ∨ skipped := by
          intro reported
          simp only [ends, task, performed] at reported
          split at reported
          · rename_i cleaned
            rcases cleanUpStale_ok cleaned with absent | free
            · exact .inr ⟨kind, wrong, by simp only [asked, task, history, absent]⟩
            · exact .inl free
          · cases reported
        have seen : looks path asked =
            .ok true :: looks path ((cleanUpStale settings canForce path).history world s₂) := by
          simp [asked, task, history]
        rw [seen]
        constructor
        · intro reported
          exact (gone reported).imp_left fun last => by rw [List.getLast?_cons, last]; rfl
        · intro reported _ _
          exact (gone reported).imp_left fun last => List.mem_of_getLast? last

/-- A probe that finds a file system of one kind mounted everywhere, and unmounts nothing. -/
def ghostProbe : Probe Unit where
  isMountPoint _ _ _ := pure (.ok true, ())
  filesystemType _ _ _ := pure (.ok "ext4", ())
  unmount _ _ d _ := pure (.ok (), d, ())

theorem pathExists_lost : plainDisk.host.pathExists "/lost" = .ok false := by
  refine Disk.pathExists_of_missing fun node seen => ?_
  have walked : FileTree.walk plainDisk.host.tree.root true FileTree.linkLimit [] ["lost"] =
      .error .noEntry := by
    rw [FileTree.walk]
    rfl
  obtain ⟨place, found, -⟩ := FileTree.look_eq_ok_iff.1 seen
  have leads := (FileTree.find_eq_ok_iff.1 found).2.2.walk
  cases leads.symm.trans walked

/-- The one look at the path finds a mount, and nothing is unmounted. -/
theorem seen_mount_reported_gone :
    let task := reconcile {} false "nfs" "/lost"
    (task.perform ghostProbe.world (plainDisk, ())).1 = .ok false ∧
      looks "/lost" (task.history ghostProbe.world (plainDisk, ())) = [.ok true] ∧
      unmounts (task.history ghostProbe.world (plainDisk, ())) = [] := by
  intro task
  have first : (ghostProbe.world (.isMountPoint "/lost") (plainDisk, ())).value =
      (.ok true, plainDisk, ()) := rfl
  have second : (ghostProbe.world (.filesystemType "/lost") (plainDisk, ())).value =
      (.ok "ext4", plainDisk, ()) := rfl
  have absent : (ghostProbe.world (.pathExists "/lost") (plainDisk, ())).value =
      (.ok false, plainDisk, ()) := by
    simp only [Probe.world, pathExists_lost, Logged.pure_value]
  have wrong : ¬ Text.occurs "nfs".toList "ext4".toList := by decide
  obtain ⟨performed, history⟩ := reconcile_of_stale {} false "nfs" first second wrong
  simp only [task, performed, history]
  simp [cleanUpStale, cleanUp, absent]

end BlockVault.Mount
