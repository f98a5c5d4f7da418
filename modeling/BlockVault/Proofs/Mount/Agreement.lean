import BlockVault.Proofs.FileTree.Canonical
import BlockVault.Proofs.Mount.Cleanup
import BlockVault.Proofs.Mount.Live

/-!
# What the system's probe says about a path

The probe is asked twice, whether something is mounted and what kind it is of, and works out the place each
time. Both answers come from the stack of entries for the canonical path. So they agree on one table, and as
a place has one canonical path (`canonical_of_find`) they are those of every path that leads there. Reconciling
judges the stack by its last entry.

Main statement: `probe_agrees`.
-/

namespace BlockVault.Mount

variable {ρ : Type} {host : Host} {path other : String} {top : Entry}

/-! ## The stack at a place -/

namespace Table

variable {t : Table} {place : String}

/-- The entries for a directory, in the order of the table. Each one hides those before it. -/
def stack (t : Table) (mountPoint : String) : Table := t.filter (·.mountPoint == mountPoint)

theorem find?_eq_getLast? (t : Table) (place : String) : t.find? place = (t.stack place).getLast? := by
  rw [find?, stack, List.getLast?_filter]

theorem find?_eq_none_iff : t.find? place = none ↔ ∀ e ∈ t, e.mountPoint ≠ place := by
  simp [find?]

theorem isSome_find?_iff : (t.find? place).isSome ↔ ∃ e ∈ t, e.mountPoint = place := by
  simp [find?]

end Table

/-! ## Paths that can be looked at -/

namespace Host

theorem look_eq_ok_iff : host.look path = .ok () ↔
    host.lookFault = none ∧ ∃ node, host.tree.look path = .ok node := by
  rw [look]
  cases host.lookFault with
  | some f => simp
  | none =>
    cases host.tree.look path with
    | ok node => simp
    | error fault => simp

theorem find_of_look (seen : host.look path = .ok ()) :
    ∃ place, host.tree.find path true = .ok place ∧ ∃ node, host.tree.root.at? place = some node := by
  obtain ⟨-, node, looked⟩ := look_eq_ok_iff.1 seen
  obtain ⟨place, found, stands⟩ := FileTree.look_eq_ok_iff.1 looked
  exact ⟨place, found, node, stands⟩

/-- A path can be looked at if another one that leads to the same place can. -/
theorem look_of_alias (seen : host.look path = .ok ()) (same : host.tree.find other true = host.tree.find path true) :
    host.look other = .ok () := by
  obtain ⟨noFault, node, looked⟩ := look_eq_ok_iff.1 seen
  obtain ⟨place, found, stands⟩ := FileTree.look_eq_ok_iff.1 looked
  exact look_eq_ok_iff.2 ⟨noFault, node, FileTree.look_eq_ok_iff.2 ⟨place, same.trans found, stands⟩⟩

/-- Paths to one place have one canonical path. -/
theorem canonical_of_alias (seen : host.look path = .ok ())
    (same : host.tree.find other true = host.tree.find path true) :
    host.tree.canonical other = host.tree.canonical path := by
  obtain ⟨place, found, -⟩ := find_of_look seen
  rw [FileTree.canonical_of_find found, FileTree.canonical_of_find (same.trans found)]

/-- The last entry of the stack is what the probe goes by. -/
theorem mountAt?_of_look (seen : host.look path = .ok ()) :
    host.mountAt? path = .ok (host.table.find? (host.tree.canonical path)) := by
  obtain ⟨place, found, -⟩ := find_of_look seen
  obtain ⟨noNul, -, -⟩ := FileTree.find_eq_ok_iff.1 found
  rw [mountAt?, if_neg (by simpa using noNul)]

theorem isMountPoint_of_look (seen : host.look path = .ok ()) :
    host.isMountPoint path = .ok (host.table.find? (host.tree.canonical path)).isSome := by
  rw [isMountPoint, seen]
  show (host.mountAt? path).map (·.isSome) = _
  rw [mountAt?_of_look seen]
  rfl

theorem filesystemType_of_look (seen : host.look path = .ok ()) :
    host.filesystemType path =
      match host.table.find? (host.tree.canonical path) with
      | some e => .ok e.filesystemType
      | none => .error (.probe s!"No mount table entry for {path}" path none) := by
  rw [filesystemType, mountAt?_of_look seen]
  cases host.table.find? (host.tree.canonical path) with
  | some e => rfl
  | none => rfl

/-- The kind is that of the last entry. -/
theorem filesystemType_eq_ok_iff (seen : host.look path = .ok ()) {kind : String} :
    host.filesystemType path = .ok kind ↔
      ∃ top, host.table.find? (host.tree.canonical path) = some top ∧ top.filesystemType = kind := by
  rw [filesystemType_of_look seen]
  cases host.table.find? (host.tree.canonical path) with
  | some e => simp
  | none => simp

/-- It is refused where there is no entry, and for no other reason. -/
theorem filesystemType_eq_error_iff (seen : host.look path = .ok ()) {f : Failure} :
    host.filesystemType path = .error f ↔
      f = .probe s!"No mount table entry for {path}" path none ∧
        host.table.find? (host.tree.canonical path) = none := by
  rw [filesystemType_of_look seen]
  cases host.table.find? (host.tree.canonical path) with
  | some e => simp
  | none => simp [eq_comm]

/-- Paths to one place get the same answers. -/
theorem answers_of_alias (seen : host.look path = .ok ())
    (same : host.tree.find other true = host.tree.find path true) :
    host.isMountPoint other = host.isMountPoint path ∧
      ∀ kind, host.filesystemType other = .ok kind ↔ host.filesystemType path = .ok kind := by
  have seenToo := look_of_alias seen same
  have name := canonical_of_alias seen same
  constructor
  · rw [isMountPoint_of_look seen, isMountPoint_of_look seenToo, name]
  · intro kind
    rw [filesystemType_eq_ok_iff seen, filesystemType_eq_ok_iff seenToo, name]

theorem pathExists_of_look (seen : host.look path = .ok ()) : host.pathExists path = .ok true := by
  rw [pathExists, seen]

end Host

/-! ## A mount that stays -/

section

variable (run : Runner ρ) (canForce : Bool) (r : ρ)

/-- An unmount that leaves the table as it is does not help, whether or not the command succeeds. -/
theorem release_live (force : Option Quantity) (mounted : host.isMountPoint path = .ok true) :
    ∃ g s, (release path force).perform (Live.world run canForce) ⟨host, r⟩ = (.error g, s) := by
  cases went : (Live.unmount run canForce path force r).value with
  | mk answer r' =>
  have told : (Live.world run canForce (.unmount path force) ⟨host, r⟩).value = (answer, ⟨host, r'⟩) := by
    rw [Live.world, Logged.bind_value, went]
    rfl
  cases answer with
  | error f => exact ⟨_, _, (release_of_refused told).1⟩
  | ok =>
    have again : (Live.world run canForce (.isMountPoint path) ⟨host, r'⟩).value = (.ok true, ⟨host, r'⟩) := by
      simp [Live.world, mounted]
    exact ⟨_, _, (release_of_unmounted told again).1⟩

/-- Cleaning it up asks for the unmount, and fails. -/
theorem cleanUp_live (force : Option Quantity) (seen : host.look path = .ok ())
    (mounted : host.isMountPoint path = .ok true) :
    (∃ g s, (cleanUp path force).perform (Live.world run canForce) ⟨host, r⟩ = (.error g, s)) ∧
      unmounts ((cleanUp path force).history (Live.world run canForce) ⟨host, r⟩) = [.unmount path force] := by
  have first : (Live.world run canForce (.pathExists path) ⟨host, r⟩).value = (.ok true, ⟨host, r⟩) := by
    simp [Live.world, Host.pathExists_of_look seen]
  have second : (Live.world run canForce (.isMountPoint path) ⟨host, r⟩).value = (.ok true, ⟨host, r⟩) := by
    simp [Live.world, mounted]
  obtain ⟨detached, asked⟩ :=
    @detach_of_taken (Live ρ) (Live.world run canForce) path force ⟨host, r⟩ ⟨host, r⟩ _ second (by simp)
  obtain ⟨g, s, released⟩ := release_live run canForce r force mounted
  obtain ⟨performed, history⟩ := cleanUp_of_attached first (detached.trans released)
  constructor
  · exact ⟨g, s, performed⟩
  · rw [history, asked]
    simp [unmounts_release]

theorem cleanUpStale_live (settings : Settings) (seen : host.look path = .ok ())
    (mounted : host.isMountPoint path = .ok true) :
    (∃ g, ((cleanUpStale settings canForce path).perform (Live.world run canForce) ⟨host, r⟩).1 = .error g) ∧
      unmounts ((cleanUpStale settings canForce path).history (Live.world run canForce) ⟨host, r⟩) =
        [unmounting settings canForce path] := by
  cases canForce with
  | true =>
    obtain ⟨⟨g, s, performed⟩, asked⟩ := cleanUp_live run true r (some settings.forceTimeout) seen mounted
    simp [cleanUpStale, unmounting, performed, asked]
  | false =>
    obtain ⟨⟨g, s, performed⟩, asked⟩ := cleanUp_live run false r none seen mounted
    simp [cleanUpStale, unmounting, performed, asked]

/-- Reconciling a mount goes by the entry that the probe has found. -/
theorem reconcile_live (settings : Settings) (expected : String) (seen : host.look path = .ok ())
    (found : host.table.find? (host.tree.canonical path) = some top) :
    let task := reconcile settings canForce expected path
    let ends := (task.perform (Live.world run canForce) ⟨host, r⟩).1
    let asked := task.history (Live.world run canForce) ⟨host, r⟩
    let fits : Prop := expected.toList <:+: top.filesystemType.toList
    (fits → ends = .ok true ∧ unmounts asked = []) ∧
      (¬ fits → (∃ g, ends = .error (.wrongKind path top.filesystemType expected (some g))) ∧
        unmounts asked = [unmounting settings canForce path]) := by
  intro task ends asked fits
  have mounted : host.isMountPoint path = .ok true := by
    rw [Host.isMountPoint_of_look seen, found]
    rfl
  have named : host.filesystemType path = .ok top.filesystemType :=
    (Host.filesystemType_eq_ok_iff seen).2 ⟨top, found, rfl⟩
  have first : (Live.world run canForce (.isMountPoint path) ⟨host, r⟩).value = (.ok true, ⟨host, r⟩) := by
    simp [Live.world, mounted]
  have second : (Live.world run canForce (.filesystemType path) ⟨host, r⟩).value =
      (.ok top.filesystemType, ⟨host, r⟩) := by
    simp [Live.world, named]
  constructor
  · intro right
    obtain ⟨performed, history⟩ :=
      reconcile_of_expected settings canForce expected first second (Text.occurs_iff.2 right)
    simp [ends, asked, task, performed, history]
  · intro wrong
    obtain ⟨performed, history⟩ :=
      reconcile_of_stale settings canForce expected first second fun occurs => wrong (Text.occurs_iff.1 occurs)
    obtain ⟨⟨g, fails⟩, asks⟩ := cleanUpStale_live run canForce r settings seen mounted
    constructor
    · exact ⟨g, by simp only [ends, task, performed, fails]⟩
    · simp [asked, task, history, asks]

/-- Where nothing is mounted there is nothing to do. -/
theorem reconcile_live_of_free (settings : Settings) (expected : String) (seen : host.look path = .ok ())
    (free : host.table.find? (host.tree.canonical path) = none) :
    let task := reconcile settings canForce expected path
    (task.perform (Live.world run canForce) ⟨host, r⟩).1 = .ok false ∧
      unmounts (task.history (Live.world run canForce) ⟨host, r⟩) = [] := by
  intro task
  have first : (Live.world run canForce (.isMountPoint path) ⟨host, r⟩).value = (.ok false, ⟨host, r⟩) := by
    simp [Live.world, Host.isMountPoint_of_look seen, free]
  obtain ⟨performed, history⟩ := reconcile_of_free settings canForce expected first
  simp [task, performed, history]

end

/-- **What the system's probe says about a path that can be looked at**, for every tree with links and every
table. The path leads to a place, and what the table has for the canonical path of that place is a stack of
entries. The path is a mount point exactly if the stack has an entry, and its kind is that of the last one; the
kind is refused exactly if there is none, so never on a path that is a mount point. Every other path that leads
to the place gets the same answers. Reconciling goes by the last entry: it ends well if that one is of the
expected kind, and else asks for one unmount. As the table stays as it is, that does not help, and the kind of
that entry is reported. -/
theorem probe_agrees (seen : host.look path = .ok ()) (settings : Settings) (canForce : Bool) (expected : String)
    (run : Runner ρ) (r : ρ) :
    let name := host.tree.canonical path
    let stack := host.table.stack name
    let task := reconcile settings canForce expected path
    let ends := (task.perform (Live.world run canForce) ⟨host, r⟩).1
    let asked := task.history (Live.world run canForce) ⟨host, r⟩
    (∃ place, host.tree.find path true = .ok place ∧ name = FileTree.pathOf place) ∧
    (∃ mounted, host.isMountPoint path = .ok mounted ∧
      (mounted = true ↔ ∃ e ∈ host.table, e.mountPoint = name)) ∧
    (∀ kind, host.filesystemType path = .ok kind ↔
      ∃ top, stack.getLast? = some top ∧ top.filesystemType = kind) ∧
    (∀ f, host.filesystemType path = .error f ↔
      f = .probe s!"No mount table entry for {path}" path none ∧ ∀ e ∈ host.table, e.mountPoint ≠ name) ∧
    (host.isMountPoint path = .ok true ↔ ∃ kind, host.filesystemType path = .ok kind) ∧
    (∀ other, host.tree.find other true = host.tree.find path true →
      host.tree.canonical other = name ∧ host.isMountPoint other = host.isMountPoint path ∧
        ∀ kind, host.filesystemType other = .ok kind ↔ host.filesystemType path = .ok kind) ∧
    (stack = [] → ends = .ok false ∧ unmounts asked = []) ∧
    ∀ top, stack.getLast? = some top →
      let fits : Prop := expected.toList <:+: top.filesystemType.toList
      (fits → ends = .ok true ∧ unmounts asked = []) ∧
        (¬ fits → (∃ g, ends = .error (.wrongKind path top.filesystemType expected (some g))) ∧
          unmounts asked = [unmounting settings canForce path]) := by
  intro name stack task ends asked
  have last : host.table.find? name = stack.getLast? := host.table.find?_eq_getLast? name
  obtain ⟨place, found, -⟩ := Host.find_of_look seen
  refine ⟨⟨place, found, FileTree.canonical_of_find found⟩, ?_, ?_, ?_, ?_, ?_, ?_, ?_⟩
  -- whether it is a mount point, its kind and its refusal, in the terms of the table
  · exact ⟨_, Host.isMountPoint_of_look seen, Table.isSome_find?_iff⟩
  · intro kind
    rw [Host.filesystemType_eq_ok_iff seen, last]
  · intro f
    rw [Host.filesystemType_eq_error_iff seen, Table.find?_eq_none_iff]
  · rw [Host.isMountPoint_of_look seen, Except.ok.injEq, Option.isSome_iff_exists]
    simp only [Host.filesystemType_eq_ok_iff seen]
    constructor
    · rintro ⟨top, found⟩
      exact ⟨top.filesystemType, top, found, rfl⟩
    · rintro ⟨kind, top, found, -⟩
      exact ⟨top, found⟩
  · intro other same
    exact ⟨Host.canonical_of_alias seen same, Host.answers_of_alias seen same⟩
  · intro empty
    apply reconcile_live_of_free run canForce r settings expected seen
    rw [last, empty]
    rfl
  · intro top onTop
    exact reconcile_live run canForce r settings expected seen (last.trans onTop)

/-- An export is mounted over a disk, and a link leads to the directory. -/
def stackedHost : Host where
  tree := ⟨.directory [("mnt", .directory []), ("data", .link "/mnt")], []⟩
  table := [⟨"/dev/sda1", "/mnt", "ext4", ["rw"]⟩, ⟨"srv:/export", "/mnt", "nfs4", ["rw"]⟩]

/-- From the root the directory is one name away, however many links may still be followed. -/
theorem leads_stackedHost (links : Nat) : FileTree.Leads stackedHost.tree.root true links [] ["mnt"] ["mnt"] :=
  .into rfl ⟨by decide, by decide, by decide⟩ rfl nofun (.here links ["mnt"])

/-- The directory and the link to it lead to one place. -/
theorem find_stackedHost : stackedHost.tree.find "/mnt" true = .ok ["mnt"] ∧
    stackedHost.tree.find "/data" true = .ok ["mnt"] := by
  constructor
  · exact FileTree.find_eq_ok_iff.2 ⟨by decide, by decide, leads_stackedHost FileTree.linkLimit⟩
  · refine FileTree.find_eq_ok_iff.2 ⟨by decide, by decide, ?_⟩
    exact .follow rfl ⟨by decide, by decide, by decide⟩ rfl (by decide) nofun (leads_stackedHost 39)

theorem look_stackedHost : stackedHost.look "/data" = .ok () :=
  Host.look_eq_ok_iff.2 ⟨rfl, _, FileTree.look_eq_ok_iff.2 ⟨_, find_stackedHost.2, rfl⟩⟩

theorem canonical_stackedHost : stackedHost.tree.canonical "/data" = "/mnt" :=
  (FileTree.canonical_of_find find_stackedHost.2).trans rfl

theorem stack_stackedHost : (stackedHost.table.stack (stackedHost.tree.canonical "/data")).getLast? =
    some ⟨"srv:/export", "/mnt", "nfs4", ["rw"]⟩ := by
  rw [canonical_stackedHost]
  decide

/-- The link is judged by the export: it is of that kind, and where the disk below is expected it is
unmounted. -/
theorem link_to_stack_agrees :
    stackedHost.look "/data" = .ok () ∧ stackedHost.filesystemType "/data" = .ok "nfs4" ∧
      stackedHost.isMountPoint "/mnt" = stackedHost.isMountPoint "/data" ∧
      ((reconcile {} true "nfs" "/data").perform (Live.world writtenDown true) ⟨stackedHost, []⟩).1 = .ok true ∧
      unmounts ((reconcile {} true "ext4" "/data").history (Live.world writtenDown true) ⟨stackedHost, []⟩) =
        [.unmount "/data" (some ({} : Settings).forceTimeout)] := by
  obtain ⟨-, -, kind, -, -, others, -, judged⟩ := probe_agrees look_stackedHost {} true "nfs" writtenDown []
  obtain ⟨-, -, -, -, -, -, -, judged'⟩ := probe_agrees look_stackedHost {} true "ext4" writtenDown []
  have same := others "/mnt" (find_stackedHost.1.trans find_stackedHost.2.symm)
  have fits := (judged _ stack_stackedHost).1 (Text.occurs_iff.1 rfl)
  have stale := (judged' _ stack_stackedHost).2 fun occurs => absurd (Text.occurs_iff.2 occurs) (by decide)
  exact ⟨look_stackedHost, (kind _).2 ⟨_, stack_stackedHost, rfl⟩, same.2.1, fits.1, stale.2⟩

end BlockVault.Mount
