import BlockVault.Proofs.Mount.Disk
import BlockVault.Proofs.Mount.Live
import BlockVault.Proofs.Settings

/-!
# The time that forced unmounting may take

A stale mount is unmounted once at most, and by force that is one command or two: where the plain command
times out, a second one follows, with as much time again. The settings only see to it that the time for one
is at most that of a command, so both together may take up to twice as long.

Main statement: `forced_budget`.
-/

namespace BlockVault

/-- The seconds that a finite quantity stands for. -/
def Quantity.seconds : Quantity → Rat
  | .whole n => n
  | .real x => x.value

theorem Quantity.place?_of_finitePositive {a : Quantity} (h : a.FinitePositive) :
    a.place? = some (.at a.seconds) ∧ 0 < a.seconds := by
  obtain ⟨q, place, positive⟩ := h
  suffices q = a.seconds from ⟨this ▸ place, this ▸ positive⟩
  cases a with
  | whole n => exact (Place.at.inj (Option.some.inj place)).symm
  | real x =>
    cases x with
    | nan => cases place
    | infinite negative => cases negative <;> cases place
    | finite negative mantissa exponent fits => exact (Place.at.inj (Option.some.inj place)).symm

theorem Settings.Valid.force_seconds_le {s : Settings} (valid : s.Valid) :
    0 < s.forceTimeout.seconds ∧ s.forceTimeout.seconds ≤ s.commandTimeout.seconds := by
  obtain ⟨here, positive⟩ := Quantity.place?_of_finitePositive valid.force_finitePositive
  have there := (Quantity.place?_of_finitePositive valid.finitePositive).1
  have order := valid.force_le_command
  simp only [Quantity.lt, here, there, Quantity.Place.lt, decide_eq_false_iff_not, Rat.not_lt] at order
  exact ⟨positive, order⟩

namespace Mount

variable {ρ α : Type}

/-- A command that was run, its time limit, and how it ended. -/
structure Ran where
  binary : String
  args : List String
  limit : Option Quantity
  ended : Except Failure String

/-- Runs commands and writes them down. -/
def noted (run : Runner ρ) : Runner (ρ × List Ran) := fun binary args limit s => do
  let told ← run binary args limit s.1
  return (told.1, told.2, s.2 ++ [⟨binary, args, limit, told.1⟩])

/-- The commands that a task runs on a host whose probe can force. -/
def ranBy (task : Task α) (host : Host) (run : Runner ρ) (r : ρ) : List Ran :=
  (task.perform (Live.world (noted run) true) ⟨host, r, []⟩).2.runner.2

/-- A command that timed out. -/
def TimedOut (ended : Except Failure String) : Prop :=
  ∃ command seconds output, ended = .error (.timeout command seconds output)

/-- The commands of one forced unmount. -/
inductive Forces (path : String) (limit : Quantity) : List Ran → Prop
  | plain {ended : Except Failure String} (done : ¬ TimedOut ended) :
    Forces path limit [⟨"umount", [path], some limit, ended⟩]
  | forced {ended ended' : Except Failure String} (timedOut : TimedOut ended) :
    Forces path limit [⟨"umount", [path], some limit, ended⟩, ⟨"umount", ["-f", path], some limit, ended'⟩]

/-- A forced unmount runs the plain command, and the forcing one exactly if that times out. -/
theorem forces_unmountByForce (run : Runner ρ) (path : String) (limit : Quantity) (s : ρ × List Ran) :
    ∃ new, (Live.unmountByForce (noted run) path limit s).value.2.2 = s.2 ++ new ∧ Forces path limit new := by
  have note (args : List String) (s : ρ × List Ran) : (noted run "umount" args (some limit) s).value =
      ((run "umount" args (some limit) s.1).value.1, (run "umount" args (some limit) s.1).value.2,
        s.2 ++ [⟨"umount", args, some limit, (run "umount" args (some limit) s.1).value.1⟩]) := rfl
  simp only [Live.unmountByForce, Logged.bind_value, note]
  cases ended : (run "umount" [path] (some limit) s.1).value.1 with
  | ok output => exact ⟨_, rfl, .plain (by rintro ⟨command, seconds, shown, ⟨⟩⟩)⟩
  | error f =>
    cases f with
    | timeout command seconds output =>
      exact ⟨_, List.append_assoc _ [_] [_], .forced ⟨command, seconds, output, rfl⟩⟩
    | _ => exact ⟨_, rfl, .plain (by rintro ⟨command, seconds, shown, ⟨⟩⟩)⟩

/-- A query other than an unmount runs nothing. -/
theorem ran_of_not_isUnmount (run : Runner ρ) {q : Query} (other : ¬ q.isUnmount) (s : Live (ρ × List Ran)) :
    (Live.world (noted run) true q s).value.2.runner.2 = s.runner.2 := by
  cases q with
  | unmount path force => exact (other rfl).elim
  | removeDirectory path =>
    simp only [Live.world]
    split <;> rfl
  | _ => rfl

theorem ran_of_unmount (run : Runner ρ) (path : String) (limit : Quantity) (s : Live (ρ × List Ran)) :
    ∃ new, (Live.world (noted run) true (.unmount path (some limit)) s).value.2.runner.2 = s.runner.2 ++ new ∧
      Forces path limit new :=
  forces_unmountByForce run path limit s.runner

/-- A plan that asks for no unmount runs nothing. -/
theorem ran_of_unmounts_nil (run : Runner ρ) (p : Plan α) (s : Live (ρ × List Ran))
    (none : unmounts (p.history (Live.world (noted run) true) s) = []) :
    (p.run (Live.world (noted run) true) s).value.2.runner.2 = s.runner.2 := by
  induction p generalizing s with
  | done a => rfl
  | ask q next ih =>
    have other : ¬ q.isUnmount := by
      intro asks
      simp [Plan.history, asks] at none
    simp only [Plan.history, unmounts_cons, if_neg other] at none
    exact (ih _ _ none).trans (ran_of_not_isUnmount run other s)
  | report line rest ih => exact ih s none

/-- A plan that asks for one forced unmount runs the commands of one. -/
theorem ran_of_unmounts_singleton (run : Runner ρ) {path : String} {limit : Quantity} (p : Plan α)
    (s : Live (ρ × List Ran))
    (one : unmounts (p.history (Live.world (noted run) true) s) = [.unmount path (some limit)]) :
    ∃ new, (p.run (Live.world (noted run) true) s).value.2.runner.2 = s.runner.2 ++ new ∧
      Forces path limit new := by
  induction p generalizing s with
  | done a => cases one
  | ask q next ih =>
    by_cases asks : q.isUnmount
    · simp only [Plan.history, unmounts_cons, if_pos asks] at one
      obtain ⟨rfl, rest⟩ := List.cons.inj one
      obtain ⟨new, ran, forces⟩ := ran_of_unmount run path limit s
      exact ⟨new, (ran_of_unmounts_nil run _ _ rest).trans ran, forces⟩
    · simp only [Plan.history, unmounts_cons, if_neg asks] at one
      obtain ⟨new, ran, forces⟩ := ih _ _ one
      exact ⟨new, ran.trans (by rw [ran_of_not_isUnmount run asks s]), forces⟩
  | report line rest ih => exact ih s one

theorem unmounts_reconcile {σ : Type} {world : World σ} (settings : Settings) (canForce : Bool)
    (expected path : String) (s : σ) :
    unmounts ((reconcile settings canForce expected path).history world s) = [] ∨
      unmounts ((reconcile settings canForce expected path).history world s) =
        [unmounting settings canForce path] := by
  rcases first : (world (.isMountPoint path) s).value with ⟨f | _ | _, s₁⟩
  · rw [(reconcile_of_unreadable settings canForce expected first).2]
    simpa using unmounts_cleanUpStale
  · simp [(reconcile_of_free settings canForce expected first).2]
  · rcases second : (world (.filesystemType path) s₁).value with ⟨f | kind, s₂⟩
    · simp [(reconcile_of_unnamed settings canForce expected first second).2]
    · by_cases right : Text.occurs expected.toList kind.toList
      · simp [(reconcile_of_expected settings canForce expected first second right).2]
      · rw [(reconcile_of_stale settings canForce expected first second right).2]
        simpa using unmounts_cleanUpStale

/-- A task that asks for one forced unmount at most runs nothing, or the commands of one. -/
theorem ranBy_cases {task : Task α} {host : Host} {run : Runner ρ} {r : ρ} {path : String} {limit : Quantity}
    (once : unmounts (task.history (Live.world (noted run) true) ⟨host, r, []⟩) = [] ∨
      unmounts (task.history (Live.world (noted run) true) ⟨host, r, []⟩) = [.unmount path (some limit)]) :
    ranBy task host run r = [] ∨ Forces path limit (ranBy task host run r) := by
  rcases once with none | one
  · exact .inl (ran_of_unmounts_nil run task.run _ none)
  · obtain ⟨new, ran, forces⟩ := ran_of_unmounts_singleton run task.run _ one
    have same : ranBy task host run r = new := ran
    exact .inr (same ▸ forces)

/-- The seconds that commands were given. -/
def given : List Ran → Rat
  | [] => 0
  | r :: rest => (r.limit.map Quantity.seconds).getD 0 + given rest

section Given

variable {path : String} {limit : Quantity} {ran : List Ran} {budget : Rat}

/-- The commands of a forced unmount fit into a budget for one of them exactly if there is only one, or the
budget is large enough for two. -/
theorem Forces.given_le_iff (forces : Forces path limit ran) (fits : limit.seconds ≤ budget) :
    given ran ≤ budget ↔ ran.length ≤ 1 ∨ limit.seconds + limit.seconds ≤ budget := by
  cases forces with
  | plain =>
    refine iff_of_true ?_ (.inl (Nat.le_refl 1))
    simpa only [given, Option.map_some, Option.getD_some, Rat.add_zero] using fits
  | forced =>
    have two : ¬ 2 ≤ 1 := by decide
    simp only [given, Option.map_some, Option.getD_some, Rat.add_zero, List.length_cons, List.length_nil,
      Nat.zero_add, two, false_or]

/-- The forcing command is run exactly if the plain one times out, and no more than once. -/
theorem Forces.forcing_iff (forces : Forces path limit ran) :
    ((∃ c ∈ ran, c.args = ["-f", path]) ↔ ∃ c ∈ ran, c.args = [path] ∧ TimedOut c.ended) ∧
    (ran.filter (·.args = ["-f", path])).length ≤ 1 := by
  cases forces with
  | plain done => simp [done]
  | forced timedOut => simp [timedOut]

end Given

/-- Commands that all time out. -/
def hanging : Runner Unit := fun binary _ limit r =>
  pure (.error (.timeout binary (limit.getD (.whole 0)) ""), r)

/-- An export is mounted on a directory. -/
def mountedHost : Host := { staleHost with lookFault := none }

theorem pathExists_mountedHost : mountedHost.pathExists "/mnt" = .ok true := pathExists_plainDisk

theorem isMountPoint_mountedHost : mountedHost.isMountPoint "/mnt" = .ok true := by
  have looked : mountedHost.look "/mnt" = .ok () := by
    have there := pathExists_mountedHost
    unfold Host.pathExists at there
    split at there
    · assumption
    · split at there <;> cases there
  have entry : mountedHost.mountAt? "/mnt" = .ok (some ⟨"srv:/export", "/mnt", "nfs4", ["rw"]⟩) := mountAt?_staleHost
  simp only [Host.isMountPoint, looked, entry]
  rfl

/-- Where all commands time out, a forced unmount runs both of its commands. -/
theorem ranBy_hanging (settings : Settings) :
    let force := settings.forceTimeout
    let ended : Except Failure String := .error (.timeout "umount" force "")
    ranBy (cleanUpStale settings true "/mnt") mountedHost hanging () =
      [⟨"umount", ["/mnt"], some force, ended⟩, ⟨"umount", ["-f", "/mnt"], some force, ended⟩] := by
  intro force ended
  have there : (Live.world (noted hanging) true (.pathExists "/mnt") ⟨mountedHost, (), []⟩).value =
      (.ok true, ⟨mountedHost, (), []⟩) := by simp only [Live.world, pathExists_mountedHost]; rfl
  have mounted : (Live.world (noted hanging) true (.isMountPoint "/mnt") ⟨mountedHost, (), []⟩).value =
      (.ok true, ⟨mountedHost, (), []⟩) := by simp only [Live.world, isMountPoint_mountedHost]; rfl
  have told : (Live.world (noted hanging) true (.unmount "/mnt" (some force)) ⟨mountedHost, (), []⟩).value =
      (.error (.timeout "umount" force ""), ⟨mountedHost, (),
        [⟨"umount", ["/mnt"], some force, ended⟩, ⟨"umount", ["-f", "/mnt"], some force, ended⟩]⟩) := rfl
  have fails := (detach_of_taken mounted (by simp)).1.trans (release_of_refused told).1
  simp only [ranBy, cleanUpStale, if_true, Task.perform_bind, Task.perform_report]
  rw [(cleanUp_of_attached there fails).1]

theorem given_hanging (settings : Settings) :
    given (ranBy (cleanUpStale settings true "/mnt") mountedHost hanging ()) =
      settings.forceTimeout.seconds + settings.forceTimeout.seconds := by
  simp only [ranBy_hanging, given, Option.map_some, Option.getD_some, Rat.add_zero]

/-- **What forced unmounting may take**, with settings that were accepted. Cleaning up, and reconciling,
runs no command, or the plain one, or the plain one and behind it the forcing one; the second is run
exactly if the first one times out. Each is given the settings' time for forced unmounting. So together
they fit into the time for a command exactly if there is no second one, or the time is long enough for
two; and they fit whatever happens exactly if it is. -/
theorem forced_budget {settings : Settings} (accepted : settings.check = .ok settings) :
    let force := settings.forceTimeout
    let budget := settings.commandTimeout.seconds
    (∀ (ρ : Type) (host : Host) (path expected : String) (run : Runner ρ) (r : ρ),
      ∀ ran ∈ [ranBy (cleanUpStale settings true path) host run r,
        ranBy (reconcile settings true expected path) host run r],
      (ran = [] ∨ Forces path force ran) ∧
      ((∃ c ∈ ran, c.args = ["-f", path]) ↔ ∃ c ∈ ran, c.args = [path] ∧ TimedOut c.ended) ∧
      (ran.filter (·.args = ["-f", path])).length ≤ 1 ∧
      (given ran ≤ budget ↔ ran.length ≤ 1 ∨ force.seconds + force.seconds ≤ budget)) ∧
    ((∀ (host : Host) (path : String) (run : Runner Unit),
      given (ranBy (cleanUpStale settings true path) host run ()) ≤ budget) ↔ force.seconds + force.seconds ≤ budget) := by
  obtain ⟨positive, fits⟩ := (Settings.Valid.of_check accepted).force_seconds_le
  intro force budget
  have each (ρ : Type) (host : Host) (path expected : String) (run : Runner ρ) (r : ρ) :
      ∀ ran ∈ [ranBy (cleanUpStale settings true path) host run r,
        ranBy (reconcile settings true expected path) host run r], ran = [] ∨ Forces path force ran := by
    simp only [List.forall_mem_cons, List.not_mem_nil, false_implies, implies_true, and_true]
    exact ⟨ranBy_cases unmounts_cleanUpStale, ranBy_cases (unmounts_reconcile ..)⟩
  have nothing : given [] ≤ budget := Rat.le_trans (Rat.le_of_lt positive) fits
  refine ⟨fun ρ host path expected run r ran one => ?_, fun always => ?_, fun large host path run => ?_⟩
  · rcases each ρ host path expected run r ran one with rfl | forces
    · simpa using nothing
    · obtain ⟨forcing, most⟩ := forces.forcing_iff
      exact ⟨.inr forces, forcing, most, forces.given_le_iff fits⟩
  · exact given_hanging settings ▸ always mountedHost "/mnt" hanging
  · rcases each Unit host path "" run () _ List.mem_cons_self with none | forces
    · exact none ▸ nothing
    · exact (forces.given_le_iff fits).2 (.inr large)

/-- The stock settings leave time for both commands. -/
theorem forced_budget_stock :
    Settings.check {} = .ok {} ∧ ∀ (host : Host) (path : String) (run : Runner Unit),
      given (ranBy (cleanUpStale {} true path) host run ()) ≤ (Settings.commandTimeout {}).seconds := by
  have accepted := Settings.check_default
  exact ⟨accepted, (forced_budget accepted).2.2 (by decide +kernel)⟩

/-- Six seconds for forced unmounting are accepted beside ten for a command, but where the plain command
hangs, forced unmounting is given twelve. -/
theorem forced_over_budget :
    let settings : Settings := { commandTimeout := .real (.ofInt 10), forceTimeout := .real (.ofInt 6) }
    settings.check = .ok settings ∧ settings.commandTimeout.seconds = 10 ∧
    given (ranBy (cleanUpStale settings true "/mnt") mountedHost hanging ()) = 12 := by
  intro settings
  have valid : settings.Valid := by decide +kernel
  refine ⟨Settings.check_eq_ok_iff.2 ⟨rfl, valid⟩, by decide +kernel, ?_⟩
  rw [given_hanging]
  decide +kernel

end Mount

end BlockVault
