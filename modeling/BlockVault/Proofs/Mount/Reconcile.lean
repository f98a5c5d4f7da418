import BlockVault.Mount.Cleanup
import BlockVault.Proofs.Mount.History

/-!
# What reconciling does

Two answers decide what becomes of a mount point: the first one to whether something is mounted there,
and the one to what kind of file system that is. There is a lemma for each way that they can turn out.
The rest of the work is cleaning up, which asks for one unmount at most, in whatever way a probe answers
(`unmounts_cleanUpStale`).

Main statement: `reconcile_ends`.
-/

namespace BlockVault.Mount

variable {σ : Type} {world : World σ} {settings : Settings} {canForce : Bool}
  {expected path kind : String} {force : Option Quantity} {s s₁ s₂ : σ} {f g : Failure}

/-- The unmounts that were asked for. -/
def unmounts (history : List Exchange) : List Query := (history.map (·.query)).filter Query.isUnmount

@[simp] theorem unmounts_nil : unmounts [] = [] := rfl

@[simp] theorem unmounts_append (h h' : List Exchange) : unmounts (h ++ h') = unmounts h ++ unmounts h' := by
  simp [unmounts]

@[simp] theorem unmounts_cons (e : Exchange) (h : List Exchange) :
    unmounts (e :: h) = if e.query.isUnmount then e.query :: unmounts h else unmounts h := by
  simp [unmounts, List.filter_cons]

namespace Query

@[simp] theorem isUnmount_unmount : (unmount path force).isUnmount = true := rfl

@[simp] theorem isUnmount_pathExists : (pathExists path).isUnmount = false := rfl

@[simp] theorem isUnmount_isMountPoint : (isMountPoint path).isUnmount = false := rfl

@[simp] theorem isUnmount_filesystemType : (filesystemType path).isUnmount = false := rfl

@[simp] theorem isUnmount_removeDirectory : (removeDirectory path).isUnmount = false := rfl

@[simp] theorem changes_isMountPoint : (isMountPoint path).changes = false := rfl

@[simp] theorem changes_filesystemType : (filesystemType path).changes = false := rfl

end Query

/-- How a probe unmounts a stale mount. -/
def unmounting (settings : Settings) (canForce : Bool) (path : String) : Query :=
  .unmount path (if canForce then some settings.forceTimeout else none)

/-! ## Cleaning up -/

/-- To release a path is to ask for one unmount; what comes after it are looks. -/
theorem unmounts_release : unmounts ((release path force).history world s) = [.unmount path force] := by
  simp only [release, Task.history_bind, Task.history_ask, Task.perform_ask, unmounts_append]
  split
  · split <;> simp
  · simp only [Task.history_bind, Task.history_ask, Task.perform_ask, unmounts_append]
    split <;> simp

theorem unmounts_remove : unmounts ((remove path).history world s) = [] := by
  simp only [remove, Task.history_bind, Task.history_ask, Task.perform_ask, unmounts_append]
  split
  · simp
  · simp
  · split <;> simp

/-- A path that a probe calls free is not unmounted. -/
theorem unmounts_detach : unmounts ((detach path force).history world s) = [] ∨
    unmounts ((detach path force).history world s) = [.unmount path force] := by
  simp only [detach, Task.history_bind, Task.history_ask, Task.perform_ask, unmounts_append]
  split
  · left
    simp
  · right
    simp [unmounts_release]
  · right
    simp [unmounts_release]

theorem unmounts_cleanUp : unmounts ((cleanUp path force).history world s) = [] ∨
    unmounts ((cleanUp path force).history world s) = [.unmount path force] := by
  simp only [cleanUp, Task.history_bind, Task.history_ask, Task.perform_ask, unmounts_append]
  split
  · left
    simp
  · left
    simp
  · -- What follows the detaching, if anything does, is the removal.
    rcases ends : (detach path force).perform world (world (.pathExists path) s).value.2 with ⟨_ | _, _⟩
    · simpa [ends] using unmounts_detach
    · simpa [ends, unmounts_remove] using unmounts_detach

/-- Cleaning up asks for one unmount at most, by force exactly if the probe can. -/
theorem unmounts_cleanUpStale :
    unmounts ((cleanUpStale settings canForce path).history world s) = [] ∨
      unmounts ((cleanUpStale settings canForce path).history world s) =
        [unmounting settings canForce path] := by
  cases canForce with
  | true => simpa [cleanUpStale, unmounting] using unmounts_cleanUp
  | false => simpa [cleanUpStale, unmounting] using unmounts_cleanUp

/-! ## The ways to reconcile -/

section

variable (settings : Settings) (canForce : Bool) (expected : String)

/-- A probe that cannot tell whether something is mounted: the path is cleaned up as far as it goes, and
what the probe failed with is reported. -/
theorem reconcile_of_unreadable (first : (world (.isMountPoint path) s).value = (.error f, s₁)) :
    (reconcile settings canForce expected path).perform world s =
        (.error (.probe s!"Failed to determine mount state of {path}" path (some f)),
          ((cleanUpStale settings canForce path).perform world s₁).2) ∧
      (reconcile settings canForce expected path).history world s =
        ⟨.isMountPoint path, Except.error f⟩ ::
          (cleanUpStale settings canForce path).history world s₁ := by
  simp only [reconcile, Task.perform_bind, Task.perform_ask, Task.history_bind, Task.history_ask, first,
    Task.perform_outcome, Task.history_outcome]
  constructor
  · split <;> rfl
  · split <;> simp

/-- Nothing is mounted. -/
theorem reconcile_of_free (first : (world (.isMountPoint path) s).value = (.ok false, s₁)) :
    (reconcile settings canForce expected path).perform world s = (.ok false, s₁) ∧
      (reconcile settings canForce expected path).history world s =
        [⟨.isMountPoint path, Except.ok false⟩] := by
  simp [reconcile, first]

/-- A probe that cannot tell what is mounted. -/
theorem reconcile_of_unnamed (first : (world (.isMountPoint path) s).value = (.ok true, s₁))
    (second : (world (.filesystemType path) s₁).value = (.error f, s₂)) :
    (reconcile settings canForce expected path).perform world s =
        (.error (.probe s!"Failed to get mount for {path}" path (some f)), s₂) ∧
      (reconcile settings canForce expected path).history world s =
        [⟨.isMountPoint path, Except.ok true⟩, ⟨.filesystemType path, Except.error f⟩] := by
  simp [reconcile, first, second]

/-- A mount of the expected kind is left alone. -/
theorem reconcile_of_expected (first : (world (.isMountPoint path) s).value = (.ok true, s₁))
    (second : (world (.filesystemType path) s₁).value = (.ok kind, s₂))
    (right : Text.occurs expected.toList kind.toList) :
    (reconcile settings canForce expected path).perform world s = (.ok true, s₂) ∧
      (reconcile settings canForce expected path).history world s =
        [⟨.isMountPoint path, Except.ok true⟩, ⟨.filesystemType path, Except.ok kind⟩] := by
  simp [reconcile, first, second, right]

/-- A mount of another kind is cleaned up, and a failure to do so is reported. -/
theorem reconcile_of_stale (first : (world (.isMountPoint path) s).value = (.ok true, s₁))
    (second : (world (.filesystemType path) s₁).value = (.ok kind, s₂))
    (wrong : ¬ Text.occurs expected.toList kind.toList) :
    (reconcile settings canForce expected path).perform world s =
        (match ((cleanUpStale settings canForce path).perform world s₂).1 with
          | .ok () => .ok false
          | .error g => .error (.wrongKind path kind expected (some g)),
          ((cleanUpStale settings canForce path).perform world s₂).2) ∧
      (reconcile settings canForce expected path).history world s =
        ⟨.isMountPoint path, Except.ok true⟩ :: ⟨.filesystemType path, Except.ok kind⟩ ::
          (cleanUpStale settings canForce path).history world s₂ := by
  simp only [reconcile, Task.perform_bind, Task.perform_ask, Task.history_bind, Task.history_ask, first,
    second, if_neg wrong, Task.perform_report, Task.history_report, Task.perform_outcome,
    Task.history_outcome]
  cases ((cleanUpStale settings canForce path).perform world s₂).1 with
  | ok => simp
  | error g => simp

end

/-- **What reconciling does**, whatever a probe answers from query to query. Two answers come first: whether
something is mounted, and what kind it is of. A mount of the expected kind is reported as such, and then
nothing is changed; nor is anything where nothing is mounted. A probe that fails at one of the two is
reported with its own failure, however the cleaning up went, and a mount of another kind with the failure
of the cleaning up. No other failure is reported. There is one unmount at most in the whole run, by force
and with the settings' time for it exactly if the probe can. -/
theorem reconcile_ends (world : World σ) (settings : Settings) (canForce : Bool) (expected path : String)
    (s : σ) :
    let task := reconcile settings canForce expected path
    let ends := (task.perform world s).1
    let asked := task.history world s
    let first : Except Failure Bool × σ := (world (.isMountPoint path) s).value
    let second : Except Failure String × σ := (world (.filesystemType path) first.2).value
    let cleaned := ((cleanUpStale settings canForce path).perform world second.2).1
    let fits : String → Prop := fun kind => expected.toList <:+: kind.toList
    (∃ rest, asked = ⟨.isMountPoint path, first.1⟩ :: rest ∧
      (first.1 = .ok true → rest.head? = some ⟨.filesystemType path, second.1⟩)) ∧
    (ends = .ok true ↔ first.1 = .ok true ∧ ∃ kind, second.1 = .ok kind ∧ fits kind) ∧
    (ends = .ok true → ∀ e ∈ asked, ¬ e.query.changes) ∧
    (first.1 = .ok false → ends = .ok false ∧ ∀ e ∈ asked, ¬ e.query.changes) ∧
    (∀ f, (∃ message, ends = .error (.probe message path (some f))) ↔
      first.1 = .error f ∨ first.1 = .ok true ∧ second.1 = .error f) ∧
    (∀ kind g, ends = .error (.wrongKind path kind expected (some g)) ↔
      first.1 = .ok true ∧ second.1 = .ok kind ∧ ¬ fits kind ∧ cleaned = .error g) ∧
    (∀ e, ends = .error e → (∃ message f, e = .probe message path (some f)) ∨
      ∃ kind g, e = .wrongKind path kind expected (some g)) ∧
    (unmounts asked = [] ∨ unmounts asked = [unmounting settings canForce path]) := by
  intro task ends asked first second cleaned fits
  have told : (world (.isMountPoint path) s).value = (first.1, first.2) := rfl
  have named : (world (.filesystemType path) first.2).value = (second.1, second.2) := rfl
  have once := @unmounts_cleanUpStale σ world settings canForce path
  cases looked : first.1 with
  | error f =>
    rw [looked] at told
    obtain ⟨performed, history⟩ := reconcile_of_unreadable settings canForce expected told
    simp only [ends, asked, task, performed, history]
    simpa using once
  | ok mounted =>
    rw [looked] at told
    cases mounted with
    | false =>
      obtain ⟨performed, history⟩ := reconcile_of_free settings canForce expected told
      simp [ends, asked, task, performed, history]
    | true =>
      cases read : second.1 with
      | error f =>
        rw [read] at named
        obtain ⟨performed, history⟩ := reconcile_of_unnamed settings canForce expected told named
        simp [ends, asked, task, performed, history]
      | ok kind =>
        rw [read] at named
        by_cases right : Text.occurs expected.toList kind.toList
        · obtain ⟨performed, history⟩ :=
            reconcile_of_expected settings canForce expected told named right
          have fitting : fits kind := Text.occurs_iff.1 right
          have other : ∀ kind' g, kind = kind' → ¬ fits kind' → cleaned ≠ .error g := by
            rintro _ g rfl wrong
            exact absurd fitting wrong
          simpa [ends, asked, task, performed, history, fitting] using other
        · obtain ⟨performed, history⟩ := reconcile_of_stale settings canForce expected told named right
          have wrong : ¬ fits kind := fun fitting => right (Text.occurs_iff.2 fitting)
          simp only [ends, asked, task, performed, history]
          cases went : ((cleanUpStale settings canForce path).perform world second.2).1 with
          | ok => simpa [cleaned, went, wrong] using once
          | error g => simpa [cleaned, went, wrong] using once

end BlockVault.Mount
