import BlockVault.Proofs.Mount.Reconcile

/-!
# What cleaning up asks

A path is detached before it is removed, and detaching ends well only with a look that finds nothing
mounted. So in every world the removal comes behind such a look. Where detaching fails, its last query tells
why (`Blames`). There is a lemma for each way that cleaning up can go.

Main statements: `detaches_detach`, `cleanUp_ok`.
-/

namespace BlockVault.Mount

variable {σ : Type} {world : World σ} {path : String} {force : Option Quantity} {s s₁ s₂ : σ}

/-- Removing a directory. -/
def Query.removes : Query → Bool
  | .removeDirectory _ => true
  | _ => false

/-- What a look says about the path. -/
def Exchange.look? (path : String) : Exchange → Option (Except Failure Bool)
  | ⟨.isMountPoint place, answer⟩ => if place = path then some answer else none
  | _ => none

/-- What the looks at a path say, in order. -/
def looks (path : String) (history : List Exchange) : List (Except Failure Bool) :=
  history.filterMap (Exchange.look? path)

@[simp] theorem looks_nil : looks path [] = [] := rfl

@[simp] theorem looks_cons (e : Exchange) (h : List Exchange) :
    looks path (e :: h) = (e.look? path).toList ++ looks path h := by
  rw [looks, List.filterMap_cons]
  cases e.look? path <;> rfl

@[simp] theorem looks_append (h h' : List Exchange) : looks path (h ++ h') = looks path h ++ looks path h' :=
  List.filterMap_append

@[simp] theorem look?_isMountPoint (answer : Except Failure Bool) :
    Exchange.look? path ⟨.isMountPoint path, answer⟩ = some answer := if_pos rfl

@[simp] theorem look?_pathExists (answer : Except Failure Bool) :
    Exchange.look? path ⟨.pathExists path, answer⟩ = none := rfl

@[simp] theorem look?_filesystemType (answer : Except Failure String) :
    Exchange.look? path ⟨.filesystemType path, answer⟩ = none := rfl

@[simp] theorem look?_unmount (answer : Except Failure Unit) :
    Exchange.look? path ⟨.unmount path force, answer⟩ = none := rfl

@[simp] theorem look?_removeDirectory (answer : (Query.removeDirectory path).Answer) :
    Exchange.look? path ⟨.removeDirectory path, answer⟩ = none := rfl

/-- What cleaning up fails with if this is the last thing it was told. -/
inductive Blames (path : String) (force : Option Quantity) : Exchange → Failure → Prop where
  /-- A failure of this layer goes through as it is. -/
  | own {f : Failure} (layer : f.isOwn = true) : Blames path force ⟨.unmount path force, Except.error f⟩ f
  | unmount {f : Failure} (fault : f.isOwn = false) :
      Blames path force ⟨.unmount path force, Except.error f⟩
        (.cleanup s!"Failed to unmount {path}" path (some f))
  | look {f : Failure} :
      Blames path force ⟨.isMountPoint path, Except.error f⟩
        (.cleanup s!"Failed to check {path} after unmount" path (some f))
  /-- The unmount went well and has not helped. There is no cause. -/
  | stillMounted :
      Blames path force ⟨.isMountPoint path, Except.ok true⟩
        (.cleanup s!"Failed to unmount path {path}: still mounted" path none)
  | removal {fault : PathFault} (entry : fault ≠ .noEntry) (system : (fault.failure path).isFault .system) :
      Blames path force ⟨.removeDirectory path, Except.error fault⟩
        (.cleanup s!"Failed to remove mount point {path}" path (some (fault.failure path)))

/-- What detaching a path asks, with how it ends. -/
structure Detaches (path : String) (force : Option Quantity) (asked : List Exchange)
    (ends : Except Failure Unit) : Prop where
  keeps : ∀ e ∈ asked, e.query.removes = false
  free : ends = .ok () → (looks path asked).getLast? = some (.ok false)
  blames : ∀ e, ends = .error e → ∃ last, asked.getLast? = some last ∧ Blames path force last e
  own : ∀ f, ⟨.unmount path force, Except.error f⟩ ∈ asked → f.isOwn → ends = .error f

/-! ## The ways to clean up -/

section

variable {f : Failure} {looked : Except Failure Bool}

/-- What is made of a look behind an unmount. -/
def checked (path : String) : Except Failure Bool → Except Failure Unit
  | .error f => .error (.cleanup s!"Failed to check {path} after unmount" path (some f))
  | .ok true => .error (.cleanup s!"Failed to unmount path {path}: still mounted" path none)
  | .ok false => .ok ()

/-- An unmount that fails ends the release. -/
theorem release_of_refused (told : (world (.unmount path force) s).value = (.error f, s₁)) :
    (release path force).perform world s =
        (.error (if f.isOwn then f else .cleanup s!"Failed to unmount {path}" path (some f)), s₁) ∧
      (release path force).history world s = [⟨.unmount path force, Except.error f⟩] := by
  simp only [release, Task.history_bind, Task.history_ask, Task.perform_bind, Task.perform_ask, told]
  split <;> simp

/-- Behind an unmount the probe is asked again. -/
theorem release_of_unmounted (told : (world (.unmount path force) s).value = (.ok (), s₁))
    (again : (world (.isMountPoint path) s₁).value = (looked, s₂)) :
    (release path force).perform world s = (checked path looked, s₂) ∧
      (release path force).history world s =
        [⟨.unmount path force, Except.ok ()⟩, ⟨.isMountPoint path, looked⟩] := by
  simp only [release, Task.history_bind, Task.history_ask, Task.perform_bind, Task.perform_ask, told, again]
  split <;> simp [checked]

/-- A path that is free is left alone. -/
theorem detach_of_free (first : (world (.isMountPoint path) s).value = (.ok false, s₁)) :
    (detach path force).perform world s = (.ok (), s₁) ∧
      (detach path force).history world s = [⟨.isMountPoint path, Except.ok false⟩] := by
  simp [detach, first]

/-- A path that may be mounted is released. -/
theorem detach_of_taken (first : (world (.isMountPoint path) s).value = (looked, s₁))
    (taken : looked ≠ .ok false) :
    (detach path force).perform world s = (release path force).perform world s₁ ∧
      (detach path force).history world s =
        ⟨.isMountPoint path, looked⟩ :: (release path force).history world s₁ := by
  rcases looked with f | _ | _
  · simp [detach, first]
  · exact absurd rfl taken
  · simp [detach, first]

/-- What is made of a removal. -/
def removed (path : String) : Except PathFault Unit → Except Failure Unit
  | .ok () | .error .noEntry => .ok ()
  | .error fault =>
    if (fault.failure path).isFault .system then
      .error (.cleanup s!"Failed to remove mount point {path}" path (some (fault.failure path)))
    else .error (fault.failure path)

/-- A removal is one query. -/
theorem remove_of_told {answer : Except PathFault Unit}
    (told : (world (.removeDirectory path) s).value = (answer, s₁)) :
    (remove path).perform world s = (removed path answer, s₁) ∧
      (remove path).history world s = [⟨.removeDirectory path, answer⟩] := by
  simp only [remove, Task.history_bind, Task.history_ask, Task.perform_bind, Task.perform_ask, told]
  rcases answer with fault | _
  · cases fault <;> exact ⟨rfl, rfl⟩
  · exact ⟨rfl, rfl⟩

/-- A path that is not there is left alone. -/
theorem cleanUp_of_absent (first : (world (.pathExists path) s).value = (.ok false, s₁)) :
    (cleanUp path force).perform world s = (.ok (), s₁) ∧
      (cleanUp path force).history world s = [⟨.pathExists path, Except.ok false⟩] := by
  simp [cleanUp, first]

theorem cleanUp_of_unknown (first : (world (.pathExists path) s).value = (.error f, s₁)) :
    (cleanUp path force).perform world s = (.error f, s₁) ∧
      (cleanUp path force).history world s = [⟨.pathExists path, Except.error f⟩] := by
  simp [cleanUp, first]

/-- A path that cannot be detached is not removed. -/
theorem cleanUp_of_attached (first : (world (.pathExists path) s).value = (.ok true, s₁))
    (fails : (detach path force).perform world s₁ = (.error f, s₂)) :
    (cleanUp path force).perform world s = (.error f, s₂) ∧
      (cleanUp path force).history world s =
        ⟨.pathExists path, Except.ok true⟩ :: (detach path force).history world s₁ := by
  simp [cleanUp, first, fails]

/-- A path that is detached is removed. -/
theorem cleanUp_of_detached (first : (world (.pathExists path) s).value = (.ok true, s₁))
    (succeeds : (detach path force).perform world s₁ = (.ok (), s₂)) :
    (cleanUp path force).perform world s = (remove path).perform world s₂ ∧
      (cleanUp path force).history world s =
        ⟨.pathExists path, Except.ok true⟩ ::
          ((detach path force).history world s₁ ++ (remove path).history world s₂) := by
  simp [cleanUp, first, succeeds]

end

/-! ## What they have in common -/

/-- Behind an unmount that succeeds, the release ends as the second look says. -/
theorem detaches_release : Detaches path force ((release path force).history world s)
    ((release path force).perform world s).1 := by
  cases told : (world (.unmount path force) s).value with
  | mk answer s₁ =>
  cases answer with
  | error f =>
    obtain ⟨performed, history⟩ := release_of_refused told
    rw [performed, history]
    constructor
    · simp [Query.removes]
    · nofun
    · rintro e ⟨⟩
      refine ⟨_, rfl, ?_⟩
      by_cases layer : f.isOwn
      · rw [if_pos layer]
        exact .own layer
      · rw [if_neg layer]
        exact .unmount (by simpa using layer)
    · intro g asked layer
      cases List.mem_singleton.1 asked
      rw [if_pos layer]
  | ok =>
    cases again : (world (.isMountPoint path) s₁).value with
    | mk looked s₂ =>
    obtain ⟨performed, history⟩ := release_of_unmounted told again
    rw [performed, history]
    constructor
    · simp [Query.removes]
    · intro free
      rcases looked with f | _ | _
      · cases free
      · simp
      · cases free
    · intro e fails
      refine ⟨_, rfl, ?_⟩
      rcases looked with f | _ | _
      · cases fails
        exact .look
      · cases fails
      · cases fails
        exact .stillMounted
    · intro g asked
      rcases List.mem_cons.1 asked with same | later
      · cases same
      · cases List.mem_singleton.1 later

/-- Detaching is a look, and a release unless that has found nothing mounted. -/
theorem detaches_detach : Detaches path force ((detach path force).history world s)
    ((detach path force).perform world s).1 := by
  cases first : (world (.isMountPoint path) s).value with
  | mk looked s₁ =>
  by_cases free : looked = .ok false
  · subst free
    obtain ⟨performed, history⟩ := detach_of_free first
    rw [performed, history]
    constructor
    · simp [Query.removes]
    · simp
    · nofun
    · intro g asked
      cases List.mem_singleton.1 asked
  · obtain ⟨performed, history⟩ := detach_of_taken first free
    have released := @detaches_release σ world path force s₁
    rw [performed, history]
    constructor
    · intro e asked
      rcases List.mem_cons.1 asked with rfl | later
      · rfl
      · exact released.keeps e later
    · intro ends
      have last := released.free ends
      rw [looks_cons, List.getLast?_append, last]
      rfl
    · intro e ends
      obtain ⟨last, later, blamed⟩ := released.blames e ends
      exact ⟨last, by rw [List.getLast?_cons, later]; rfl, blamed⟩
    · intro g asked
      rcases List.mem_cons.1 asked with same | later
      · cases same
      · exact released.own g later

/-- Where cleaning up succeeds, it has found nothing at the path, or its last look has found nothing mounted
there. -/
theorem cleanUp_ok (ends : ((cleanUp path force).perform world s).1 = .ok ()) :
    (cleanUp path force).history world s = [⟨.pathExists path, Except.ok false⟩] ∨
      (looks path ((cleanUp path force).history world s)).getLast? = some (.ok false) := by
  cases first : (world (.pathExists path) s).value with
  | mk answer s₁ =>
  rcases answer with f | _ | _
  · rw [(cleanUp_of_unknown first).1] at ends
    cases ends
  · exact .inl (cleanUp_of_absent first).2
  · have detaches := @detaches_detach σ world path force s₁
    cases went : (detach path force).perform world s₁ with
    | mk result s₂ =>
    rw [went] at detaches
    cases result with
    | error f =>
      rw [(cleanUp_of_attached first went).1] at ends
      cases ends
    | ok =>
      right
      rw [(cleanUp_of_detached first went).2]
      cases told : (world (.removeDirectory path) s₂).value with
      | mk answer s₃ =>
      have last := detaches.free rfl
      rw [(remove_of_told told).2]
      simp [last]

end BlockVault.Mount
