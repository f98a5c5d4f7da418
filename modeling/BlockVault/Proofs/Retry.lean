import BlockVault.Proofs.Clock
import BlockVault.Proofs.Quantity
import BlockVault.Retry

/-!
# How often an operation is tried

The first attempt that ends a run, or else the last one allowed, decides how often the operation is called,
what the run ends in and how often it sleeps (`tryFrom_of_retries`), as long as the delays in between can be
slept; the first one that cannot ends the run (`tryFrom_of_pause`). All attempts count from one, in every
call of the wrapped operation, so that no call has less than the whole budget. Failures may be of any type:
a run only asks whether one is hopeless and, if not, whether a class listed holds it.

Main statement: `wrap_ends`.
-/

namespace BlockVault.Retry

variable {ε ι σ ρ α : Type} {h : Handling ε} {r : Retry} {operation : σ → Except ε α × σ} {around : Surroundings ρ}
  {name : String} {s : σ} {c c' : ρ} {d : Quantity} {ds : List Quantity}

/-- The state of an operation after so many calls. -/
def stateAfter (operation : σ → Except ε α × σ) : Nat → σ → σ
  | 0, s => s
  | n + 1, s => stateAfter operation n (operation s).2

/-- What an operation ends in when it is called once more after so many calls. -/
def attemptAfter (operation : σ → Except ε α × σ) (n : Nat) (s : σ) : Except ε α :=
  (operation (stateAfter operation n s)).1

/-- An attempt that is not followed by another, however many are left: a value, or a final failure. -/
def Handling.Ends (h : Handling ε) : Except ε α → Prop
  | .ok _ => True
  | .error f => h.isFinal f

instance (a : Except ε α) : Decidable (h.Ends a) :=
  match a with
  | .ok _ => .isTrue trivial
  | .error f => inferInstanceAs (Decidable (h.isFinal f = true))

/-- Of so many attempts, `n` are followed by another: none of these ends the run, and the next one does or is
the last. -/
structure Handling.Retries (h : Handling ε) (operation : σ → Except ε α × σ) (s : σ) (attempts n : Nat) : Prop where
  allowed : n < attempts
  earlier : ∀ i < n, ¬ h.Ends (attemptAfter operation i s)
  last : n + 1 < attempts → h.Ends (attemptAfter operation n s)

/-- The delay behind an attempt is worked out, is finite in floating point, and is slept. -/
def Rests (r : Retry) (around : Surroundings ρ) (attempt : Nat) (c : ρ) (d : Quantity) (c' : ρ) : Prop :=
  ∃ c₁, r.delay around.chance (.whole attempt) c = (.ok d, c₁) ∧ d.isFinite = .ok true ∧
    around.sleep d c₁ = (.ok (), c')

/-- The delays slept behind successive attempts, the first of them numbered. -/
inductive Delays (r : Retry) (around : Surroundings ρ) : Nat → ρ → List Quantity → ρ → Prop
  | nil {attempt : Nat} {c : ρ} : Delays r around attempt c [] c
  | cons {attempt : Nat} {c c' c'' : ρ} {d : Quantity} {ds : List Quantity}
      (first : r.Rests around attempt c d c') (rest : Delays r around (attempt + 1) c' ds c'') :
      Delays r around attempt c (d :: ds) c''

/-- An attempt that does not end the run is followed by a run of its own. -/
theorem retries_succ_iff {attempts n : Nat} : h.Retries operation s (attempts + 1) (n + 1) ↔
    ¬ h.Ends (operation s).1 ∧ h.Retries operation (operation s).2 attempts n := by
  constructor
  · intro retries
    refine ⟨retries.earlier 0 (by omega), ⟨Nat.lt_of_succ_lt_succ retries.allowed, ?_, ?_⟩⟩
    · exact fun i less => retries.earlier (i + 1) (by omega)
    · exact fun more => retries.last (by omega)
  · rintro ⟨first, later⟩
    refine ⟨Nat.succ_lt_succ later.allowed, ?_, fun more => later.last (by omega)⟩
    intro i less
    cases i with
    | zero => exact first
    | succ i => exact later.earlier i (by omega)

theorem Handling.Retries.le {attempts n n' : Nat} (first : h.Retries operation s attempts n)
    (second : h.Retries operation s attempts n') : n' ≤ n := by
  apply Nat.le_of_not_lt
  intro less
  have more := second.allowed
  exact second.earlier n less (first.last (by omega))

/-- The number of attempts that are followed by another is determined. -/
theorem Handling.Retries.unique {attempts n n' : Nat} (first : h.Retries operation s attempts n)
    (second : h.Retries operation s attempts n') : n = n' :=
  Nat.le_antisymm (second.le first) (first.le second)

theorem stateAfter_succ (operation : σ → Except ε α × σ) (n : Nat) (s : σ) :
    stateAfter operation (n + 1) s = (operation (stateAfter operation n s)).2 := by
  induction n generalizing s with
  | zero => rfl
  | succ n ih => exact ih (operation s).2

/-- Some number of attempts is followed by another. -/
theorem exists_retries (h : Handling ε) (operation : σ → Except ε α × σ) (s : σ) (attempts : Nat) :
    ∃ n, h.Retries operation s (attempts + 1) n := by
  induction attempts generalizing s with
  | zero => exact ⟨0, by omega, by simp, by simp⟩
  | succ attempts ih =>
    by_cases ends : h.Ends (operation s).1
    · exact ⟨0, by omega, by simp, fun _ => ends⟩
    · obtain ⟨n, rest⟩ := ih (operation s).2
      exact ⟨n + 1, retries_succ_iff.2 ⟨ends, rest⟩⟩

/-! ## Pauses -/

/-- What is said of a failure is only written down. -/
theorem pause_value (said said' : String) (attempt : Nat) (c : ρ) :
    (r.pause around attempt said c).value = (r.pause around attempt said' c).value := by
  unfold pause
  rcases r.delay around.chance (.whole attempt) c with ⟨f | d, c'⟩
  · rfl
  · dsimp only
    cases delayText d <;> rfl

theorem pause_of_error {attempt : Nat} {f : Failure} (fails : r.delay around.chance (.whole attempt) c = (.error f, c'))
    (said : String) : (r.pause around attempt said c).value = (.error f, c') := by
  simp [pause, fails]

theorem pause_of_unreported {attempt : Nat} {f : ArithmeticFault}
    (delayed : r.delay around.chance (.whole attempt) c = (.ok d, c')) (beyond : d.toReal = .error f) (said : String) :
    (r.pause around attempt said c).value = (.error (.ofArithmetic f), c') := by
  simp [pause, delayed, delayText, beyond, Except.map]

theorem pause_of_slept {attempt : Nat} {c₁ : ρ} (delayed : r.delay around.chance (.whole attempt) c = (.ok d, c₁))
    (within : d.InRange) (said : String) :
    (r.pause around attempt said c).value = ((around.sleep d c₁).1.map fun _ => d, (around.sleep d c₁).2) := by
  obtain ⟨x, real⟩ := within
  simp [pause, delayed, delayText, real, Except.map]

theorem Rests.pause {attempt : Nat} (rests : r.Rests around attempt c d c') (said : String) :
    (r.pause around attempt said c).value = (.ok d, c') := by
  obtain ⟨c₁, delayed, finite, slept⟩ := rests
  rw [pause_of_slept delayed (Quantity.isFinite_eq_ok_true_iff.1 finite).1, slept]
  rfl

/-- Suspended, every delay that floating point reaches is waited for. -/
theorem sleep_suspended (within : d.InRange) (chance : Chance ρ) (clock : ρ → Nat × ρ) (c : ρ) :
    ((Wait.suspended.host chance clock).through .suspended).sleep d c = (.ok (), (clock c).2) := by
  obtain ⟨x, real⟩ := within
  simp only [Surroundings.through, Wait.host, Wait.pass, Wait.sleep, real]
  split <;> rfl

/-- Suspended, every finite delay is slept. In place the clock has to count it, and on to its end. -/
theorem slept_iff (w : Wait) (chance : Chance ρ) (clock : ρ → Nat × ρ) (finite : d.isFinite = .ok true) (c : ρ) :
    (((w.host chance clock).through w).sleep d c).1 = .ok () ↔
      w = .suspended ∨ ∃ n, Clock.nanoseconds d = .ok n ∧ 0 ≤ n ∧ (clock c).1 + n < Clock.limit := by
  cases w with
  | inPlace =>
    rw [or_iff_right Wait.noConfusion]
    exact Clock.sleep_eq_ok_iff
  | suspended =>
    have within := (Quantity.isFinite_eq_ok_true_iff.1 finite).1
    exact iff_of_true (congrArg Prod.fst (sleep_suspended within chance clock c)) (.inl rfl)

/-! ## One attempt -/

/-- A run that first sleeps so long and then is another one. -/
structure Run.Resumes (run : Run ε σ ρ α) (ds : List Quantity) (rest : Run ε σ ρ α) : Prop where
  outcome : run.outcome = rest.outcome
  sleeps : run.sleeps = ds ++ rest.sleeps
  state : run.state = rest.state
  around : run.around = rest.around

theorem Run.Resumes.trans {run rest last : Run ε σ ρ α} (first : run.Resumes [d] rest) (later : rest.Resumes ds last) :
    run.Resumes (d :: ds) last where
  outcome := first.outcome.trans later.outcome
  sleeps := by rw [first.sleeps, later.sleeps, List.singleton_append, List.cons_append]
  state := first.state.trans later.state
  around := first.around.trans later.around

/-- An attempt that ends the run, or that is the last, is what the run ends in. -/
theorem tryFrom_of_ends (r : Retry) (name : String) (around : Surroundings ρ) {left : Nat} (attempt : Nat) (c : ρ)
    (ending : left = 0 ∨ h.Ends (operation s).1) :
    let run := h.tryFrom r name operation around left attempt s c
    run.outcome = (operation s).1 ∧ run.sleeps = [] ∧ run.state = (operation s).2 ∧ run.around = c := by
  unfold Handling.tryFrom
  rcases tried : operation s with ⟨f | a, s'⟩
  · rw [tried] at ending
    by_cases never : h.hopeless f
    · simp [never]
    · by_cases listed : h.lists f
      · have final : ¬ h.isFinal f := by simp [Handling.isFinal, never, listed]
        obtain rfl := ending.resolve_right final
        simp [never, listed]
      · simp [never, listed]
  · simp

/-- What an attempt that does not end the run is followed by: a pause, and the rest of the run if it is slept. -/
theorem tryFrom_of_not_ends (h : Handling ε) (r : Retry) (name : String) (around : Surroundings ρ) (left attempt : Nat)
    (c : ρ) (on : ¬ h.Ends (operation s).1) : ∃ said,
      let run := h.tryFrom r name operation around (left + 1) attempt s c
      (∀ f c', (r.pause around attempt said c).value = (.error f, c') →
        run.outcome = .error (h.ofFailure f) ∧ run.sleeps = [] ∧ run.state = (operation s).2 ∧ run.around = c') ∧
      ∀ d c', (r.pause around attempt said c).value = (.ok d, c') →
        run.Resumes [d] (h.tryFrom r name operation around left (attempt + 1) (operation s).2 c') := by
  rcases tried : operation s with ⟨f | a, s'⟩
  · have goesOn : ¬ h.isFinal f := by simpa [tried, Handling.Ends] using on
    simp only [Handling.isFinal, Bool.or_eq_true, Bool.not_eq_true', not_or, Bool.not_eq_false] at goesOn
    refine ⟨h.message f, ?_⟩
    rw [Handling.tryFrom]
    simp only [tried, goesOn, Bool.false_eq_true, if_false, Bool.not_true]
    refine ⟨fun fault c' paused => ?_, fun d c' paused => ?_⟩
    · rw [paused]
      exact ⟨rfl, rfl, rfl, rfl⟩
    · rw [paused]
      exact ⟨rfl, rfl, rfl, rfl⟩
  · simp [tried, Handling.Ends] at on

/-! ## Runs -/

/-- Attempts that do not end the run, with delays that are slept, are followed by the rest of it. -/
theorem tryFrom_of_delays {attempt : Nat} (name : String) (left : Nat) (delays : Delays r around attempt c ds c')
    (on : ∀ i < ds.length, ¬ h.Ends (attemptAfter operation i s)) :
    (h.tryFrom r name operation around (left + ds.length) attempt s c).Resumes ds
      (h.tryFrom r name operation around left (attempt + ds.length) (stateAfter operation ds.length s) c') := by
  -- One delay behind each attempt that is followed by another, so the delays count the attempts.
  induction delays generalizing s with
  | nil => exact ⟨rfl, rfl, rfl, rfl⟩
  | @cons attempt c c₁ c' d ds first rest ih =>
    have here : ¬ h.Ends (operation s).1 := on 0 (Nat.succ_pos _)
    have later := ih fun i less => on (i + 1) (Nat.succ_lt_succ less)
    obtain ⟨said, -, step⟩ := tryFrom_of_not_ends h r name around (left + ds.length) attempt c here
    rw [Nat.add_right_comm attempt] at later
    exact (step d c₁ (first.pause said)).trans later

/-- What a run with so many attempts left ends in. -/
theorem tryFrom_of_retries {left attempt n : Nat} (name : String) (retries : h.Retries operation s (left + 1) n)
    (delays : Delays r around attempt c ds c') (each : ds.length = n) :
    let run := h.tryFrom r name operation around left attempt s c
    run.outcome = attemptAfter operation n s ∧ run.sleeps = ds ∧
      run.state = stateAfter operation (n + 1) s ∧ run.around = c' := by
  subst each
  obtain ⟨more, rfl⟩ := Nat.exists_eq_add_of_le' (Nat.le_of_lt_succ retries.allowed)
  have resumes := tryFrom_of_delays name more delays retries.earlier
  have ending : more = 0 ∨ h.Ends (attemptAfter operation ds.length s) := by
    by_cases least : more = 0
    · exact .inl least
    · exact .inr (retries.last (by omega))
  obtain ⟨outcome, sleeps, state, drawn⟩ := tryFrom_of_ends r name around (attempt + ds.length) c' ending
  refine ⟨resumes.outcome.trans outcome, ?_, resumes.state.trans (state.trans ?_), resumes.around.trans drawn⟩
  · rw [resumes.sleeps, sleeps, List.append_nil]
  · exact (stateAfter_succ operation ds.length s).symm

/-- A run that no attempt so far ends comes to the pause behind the last of them: it ends in what the pause fails
by, or else it sleeps. What was said of the attempt makes no difference. -/
theorem tryFrom_of_pause {left attempt : Nat} (name said : String) (delays : Delays r around attempt c ds c')
    (less : ds.length < left) (on : ∀ i ≤ ds.length, ¬ h.Ends (attemptAfter operation i s)) :
    let run := h.tryFrom r name operation around left attempt s c
    let paused := (r.pause around (attempt + ds.length) said c').value
    (∀ f c'', paused = (.error f, c'') → run.outcome = .error (h.ofFailure f) ∧ run.sleeps = ds ∧
      run.state = stateAfter operation (ds.length + 1) s ∧ run.around = c'') ∧
    ∀ d c'', paused = (.ok d, c'') → d ∈ run.sleeps := by
  obtain ⟨more, rfl⟩ := Nat.exists_eq_add_of_le' (Nat.succ_le_of_lt less)
  rw [← Nat.succ_add_eq_add_succ]
  intro run paused
  have resumes : run.Resumes ds _ := tryFrom_of_delays name (more + 1) delays fun i before => on i (Nat.le_of_lt before)
  obtain ⟨said', fails, sleeps⟩ :=
    tryFrom_of_not_ends h r name around more (attempt + ds.length) c' (on _ (Nat.le_refl _))
  have same : _ = paused := pause_value said' said _ c'
  refine ⟨fun f c'' unslept => ?_, fun d c'' slept => ?_⟩
  · obtain ⟨outcome, none, state, drawn⟩ := fails f c'' (same.trans unslept)
    refine ⟨resumes.outcome.trans outcome, ?_, resumes.state.trans (state.trans ?_), resumes.around.trans drawn⟩
    · rw [resumes.sleeps, none, List.append_nil]
    · exact (stateAfter_succ operation ds.length s).symm
  · rw [resumes.sleeps, (sleeps d c'' (same.trans slept)).sleeps]
    simp

/-! ## The wrapped operation -/

/-- An operation that also writes down the inputs it is called with. -/
def noted (operation : ι → σ → Except ε α × σ) (input : ι) (s : List ι × σ) : Except ε α × (List ι × σ) :=
  let told := operation input s.2
  (told.1, (s.1 ++ [input], told.2))

/-- What calls one after another leave of the operation and of its surroundings. -/
def leftBy (call : ι → σ → ρ → Run ε σ ρ α) (inputs : List ι) (left : σ × ρ) : σ × ρ :=
  inputs.foldl (fun left input =>
    let run := call input left.1 left.2
    (run.state, run.around)) left

section

variable (w : Wait) (sent : ε → ε) (operation : ι → σ → Except ε α × σ) (input : ι) (calls : List ι) (s : σ)

/-- To write the inputs down is to do nothing else. -/
theorem pass_noted : w.pass sent (noted operation input (calls, s)) =
    ((w.pass sent (operation input s)).1, (calls ++ [input], (w.pass sent (operation input s)).2)) := by
  cases w <;> rfl

theorem stateAfter_noted (n : Nat) :
    stateAfter (fun s => w.pass sent (noted operation input s)) n (calls, s) =
      (calls ++ List.replicate n input, stateAfter (fun s => w.pass sent (operation input s)) n s) := by
  induction n generalizing calls s with
  | zero => simp [stateAfter]
  | succ n ih =>
    simp only [stateAfter, pass_noted]
    rw [ih]
    simp [List.replicate_succ]

theorem attemptAfter_noted (n : Nat) :
    attemptAfter (fun s => w.pass sent (noted operation input s)) n (calls, s) =
      attemptAfter (fun s => w.pass sent (operation input s)) n s := by
  simp only [attemptAfter, stateAfter_noted, pass_noted]

theorem retries_noted {attempts n : Nat}
    (retries : h.Retries (fun s => w.pass sent (operation input s)) s attempts n) :
    h.Retries (fun s => w.pass sent (noted operation input s)) (calls, s) attempts n := by
  refine ⟨retries.allowed, fun i less => ?_, fun more => ?_⟩
  · rw [attemptAfter_noted]
    exact retries.earlier i less
  · rw [attemptAfter_noted]
    exact retries.last more

end

/-- A wrapped operation is tried from the first attempt on. -/
theorem wrap_eq {more : Nat} (whole : r.attempts = .whole (more + 1 : Nat)) (w : Wait)
    (operation : ι → σ → Except ε α × σ) (around : Surroundings ρ) (input : ι) :
    h.wrap r w name operation around input s c =
      h.tryFrom r name (fun s => w.pass h.suspended (operation input s)) (around.through w) more 1 s c := by
  simp only [Handling.wrap, Handling.run, whole]
  rfl

/-- **How a wrapped operation ends**, after any earlier calls of it and whichever way it is waited for, on a host
with any chance and any clock. There is one number of attempts that are followed by another, given by the first
attempt that ends a run or else by the number of attempts allowed; none of them ends in a failure that is hopeless,
whatever classes are listed. If all delays behind them are finite and slept, then the operation is called once more
often, each time with the caller's input, the call ends as the last attempt does, and exactly these delays are
slept. The first pause that fails is what the call ends in, behind the attempts made so far. Suspended, every
finite delay is slept; in place that is so for what the clock can count from its present reading on. -/
theorem wrap_ends (h : Handling ε) (r : Retry) {attempts : Nat} (whole : r.attempts = .whole attempts)
    (positive : 1 ≤ attempts) (w : Wait) (name : String) (operation : ι → σ → Except ε α × σ)
    (chance : Chance ρ) (clock : ρ → Nat × ρ) (before : List ι) (start : (List ι × σ) × ρ) (input : ι) :
    let host := w.host chance clock
    let wrapped := h.wrap r w name (noted operation) host
    let left := leftBy wrapped before start
    let called := fun s => w.pass h.suspended (operation input s)
    let run := wrapped input left.1 left.2
    let s := left.1.2
    (∃ n, h.Retries called s attempts n ∧
      (∀ i < n, ∀ f, attemptAfter called i s = .error f → h.hopeless f = false) ∧
      (∀ ds c', Delays r (host.through w) 1 left.2 ds c' → ds.length = n →
        run.outcome = attemptAfter called n s ∧ run.sleeps = ds ∧
        run.state = (left.1.1 ++ List.replicate (n + 1) input, stateAfter called (n + 1) s) ∧
        run.around = c') ∧
      ∀ ds c' said f c'', Delays r (host.through w) 1 left.2 ds c' → ds.length < n →
        (r.pause (host.through w) (1 + ds.length) said c').value = (.error f, c'') →
        run.outcome = .error (h.ofFailure f) ∧ run.sleeps = ds ∧
        run.state = (left.1.1 ++ List.replicate (ds.length + 1) input, stateAfter called (ds.length + 1) s) ∧
        run.around = c'') ∧
    ∀ d c, d.isFinite = .ok true → (((host.through w).sleep d c).1 = .ok () ↔
      w = .suspended ∨ ∃ n, Clock.nanoseconds d = .ok n ∧ 0 ≤ n ∧ (clock c).1 + n < Clock.limit) := by
  intro host wrapped left called run s
  obtain ⟨more, rfl⟩ := Nat.exists_eq_add_of_le' positive
  obtain ⟨n, retries⟩ := exists_retries h called s more
  -- Attempts count from one again, whatever the calls before this one did.
  have budget : run = h.tryFrom r name (fun s => w.pass h.suspended (noted operation input s)) (host.through w) more 1
      (left.1.1, s) left.2 := wrap_eq whole w _ host input
  have noting := retries_noted w h.suspended operation input left.1.1 s retries
  refine ⟨⟨n, retries, fun i less f ended => ?_, fun ds c' delays each => ?_,
    fun ds c' said f c'' delays less unslept => ?_⟩, fun d c finite => slept_iff w chance clock finite c⟩
  · have on := retries.earlier i less
    rw [ended] at on
    simp only [Handling.Ends, Handling.isFinal, Bool.or_eq_true, not_or, Bool.not_eq_true] at on
    exact on.1
  · obtain ⟨outcome, sleeps, state, drawn⟩ := tryFrom_of_retries name noting delays each
    rw [budget]
    refine ⟨outcome.trans ?_, sleeps, state.trans ?_, drawn⟩
    · exact attemptAfter_noted w h.suspended operation input left.1.1 s n
    · exact stateAfter_noted w h.suspended operation input left.1.1 s (n + 1)
  · have allowed := retries.allowed
    have fewer : ds.length < more := by omega
    obtain ⟨outcome, sleeps, state, drawn⟩ := (tryFrom_of_pause name said delays fewer
      fun i before => noting.earlier i (by omega)).1 f c'' unslept
    rw [budget]
    refine ⟨outcome, sleeps, state.trans ?_, drawn⟩
    exact stateAfter_noted w h.suspended operation input left.1.1 s (ds.length + 1)

/-- An operation that answers by a list, whatever its input. -/
def answering (_ : String) (s : List (Attempt Nat)) : Attempt Nat × List (Attempt Nat) :=
  (s.headD (.ok 0), s.tail)

/-- Three attempts, for failures of every class, with delays that double. -/
def doubling : Retry where
  attempts := .whole 3
  initialDelay := .whole 1
  greatestDelay := .whole 60
  growth := .whole 2
  spread := false
  classes := [.fault .exception]

/-- Chance that always tells a half. -/
def steady : Chance Unit := fun c => (.ok (.ofFraction false 1 2), c)

/-- A clock that has just started. -/
def newClock (c : Unit) : Nat × Unit := (0, c)

def late : Attempt Nat := .error (.timeout "umount /mnt" (.whole 1) "")

def damaged : Attempt Nat := .error (.undecodable "lz4" none)

/-- The first call needs two of its attempts, and the second call still has all three. -/
theorem wrap_doubling :
    let wrapped := doubling.handling.wrap doubling .inPlace "read" (noted answering) (Wait.inPlace.host steady newClock)
    let left := leftBy wrapped ["first"] (([], [late, .ok 1, damaged, late, .ok 7]), ())
    let run := wrapped "second" left.1 left.2
    run.outcome = .ok 7 ∧ run.sleeps = [.whole 1, .whole 2] ∧
      run.state.1 = ["first", "first", "second", "second", "second"] := by
  intro wrapped left run
  obtain ⟨⟨n, retries, -, ends, -⟩, slept⟩ := wrap_ends doubling.handling doubling rfl (by decide) .inPlace "read"
    answering steady newClock ["first"] (([], [late, .ok 1, damaged, late, .ok 7]), ())
    "second"
  have twice : doubling.handling.Retries (fun s => Wait.inPlace.pass suspended (answering "second" s))
      [damaged, late, .ok 7] 3 2 := ⟨by decide, by decide, by decide⟩
  obtain rfl := retries.unique twice
  have first : doubling.Rests ((Wait.inPlace.host steady newClock).through .inPlace) 1 () (.whole 1) () :=
    ⟨(), rfl, rfl, Prod.ext ((slept _ () rfl).2 (.inr ⟨1000000000, rfl, by decide, by decide⟩)) rfl⟩
  have second : doubling.Rests ((Wait.inPlace.host steady newClock).through .inPlace) 2 () (.whole 2) () :=
    ⟨(), rfl, rfl, Prod.ext ((slept _ () rfl).2 (.inr ⟨2000000000, rfl, by decide, by decide⟩)) rfl⟩
  have delays := Delays.cons first (.cons second .nil)
  obtain ⟨outcome, sleeps, state, -⟩ := ends _ _ delays rfl
  refine ⟨outcome, sleeps, ?_⟩
  rw [state]
  rfl

/-- Not every outcome reaches the caller. A delay of ten thousand million seconds is a finite number, but no clock
counts it: the first call is the last one, and its failure is lost. An operation that is suspended cannot end in the
end of a sequence. -/
theorem wrap_loses_outcomes :
    let long : Retry := ⟨.whole 2, .whole 10000000000, .whole 10000000000, .whole 1, false, [.fault .exception]⟩
    let slept := long.handling.wrap long .inPlace "read" (noted answering) (Wait.inPlace.host steady newClock) "block"
      ([], [late, .ok 7]) ()
    let exhausted : Attempt Nat := .error (.fault ⟨.stopIteration, .empty⟩)
    let awaited := doubling.handling.wrap { doubling with attempts := .whole 1 } .suspended "read" (noted answering)
      (Wait.suspended.host steady newClock) "block" ([], [exhausted]) ()
    long.delay steady (.whole 1) () = (.ok (.whole 10000000000), ()) ∧
      (Quantity.whole 10000000000).isFinite = .ok true ∧ long.handling.Retries (answering "block") [late, .ok 7] 2 1 ∧
      slept.state.1 = ["block"] ∧
      slept.outcome = .error (.saying .overflow "timestamp too large to convert to C _PyTime_t") ∧
      attemptAfter (answering "block") 0 [exhausted] = exhausted ∧ awaited.state.1 = ["block"] ∧
      awaited.outcome = .error (.saying .runtime "coroutine raised StopIteration") := by
  refine ⟨rfl, rfl, ⟨by decide, by decide, by decide⟩, rfl, rfl, rfl, rfl, rfl⟩

end BlockVault.Retry
