import BlockVault.Proofs.Number.Power
import BlockVault.Proofs.Retry

/-!
# Delays that cannot be worked out

The delay behind an attempt is the first delay times a power of the growth, and only then it is cut down to
the greatest one. In whole numbers that works behind any attempt (`backoff_unbroken`). In floating point the
power leaves the range, for a growth of two behind the 1025th attempt (`backoff_broken`), and the run ends in
an overflow in place of the operation's own failure. So it does where a delay cannot be slept (`wrap_of_stops`).

Main statement: `backoff_ends`.
-/

namespace BlockVault.Retry

variable {ε ι σ ρ α : Type} {h : Handling ε} {r : Retry} {operation : σ → Except ε α × σ} {chance : Chance ρ}
  {clock : ρ → Nat × ρ} {around : Surroundings ρ} {w : Wait} {name : String} {s : σ} {c c' : ρ}

/-- A policy that was accepted, with numbers for delays and a growth of one or more. -/
structure Sound (r : Retry) : Prop where
  accepted : r.check = .ok r
  initial : ∃ q, r.initialDelay.place? = some (.at q)
  greatest : ∃ q, r.greatestDelay.place? = some (.at q)
  growing : (Quantity.whole 1).le r.growth

/-- No power of the growth is taken to floating point. -/
def Unbroken (r : Retry) : Prop :=
  ∃ b, r.growth = .whole b ∧ (b = 1 ∨ ∃ n, r.initialDelay = .whole n)

/-- The greatest delay is within the range, or else no delay ever grows beyond it. -/
def Capped (r : Retry) : Prop :=
  r.greatestDelay.InRange ∨
    r.initialDelay.InRange ∧ (r.growth = .whole 1 ∨ r.initialDelay.place? = some (.at 0))

/-- The delay behind an attempt is worked out and floating point reaches it. -/
def Delayed (r : Retry) (attempt : Nat) : Prop := ∃ d, r.backoff (.whole attempt) = .ok d ∧ d.InRange

/-- Where the delays of a policy stand. -/
structure Spans (r : Retry) (i g : Rat) : Prop where
  initial : r.initialDelay.place? = some (.at i)
  greatest : r.greatestDelay.place? = some (.at g)
  initial_nonneg : 0 ≤ i
  greatest_nonneg : 0 ≤ g

theorem Spans.grown_nonneg {i g : Rat} {b : Int} (spans : r.Spans i g) (above : 1 ≤ b) (k : Nat) :
    0 ≤ i * (b : Rat) ^ k :=
  mul_nonneg spans.initial_nonneg (pow_nonneg (by exact_mod_cast Int.le_trans Int.one_nonneg above) k)

theorem Sound.exists_spans (sound : r.Sound) : ∃ i g, r.Spans i g := by
  obtain ⟨i, initial⟩ := sound.initial
  obtain ⟨g, greatest⟩ := sound.greatest
  have accepted := sound.accepted
  have zero : (Quantity.whole 0).place? = some (.at 0) := rfl
  unfold check at accepted
  split_ifs at accepted with _ negative
  rw [Bool.or_eq_true, Quantity.lt_iff initial zero, Quantity.lt_iff greatest zero, not_or, not_lt, not_lt] at negative
  exact ⟨i, g, initial, greatest, negative.1, negative.2⟩

theorem Sound.one_le_growth (sound : r.Sound) {g : Rat} (growth : r.growth.place? = some (.at g)) : 1 ≤ g :=
  (Quantity.le_iff rfl growth).1 sound.growing

theorem Sound.one_le_whole (sound : r.Sound) {b : Int} (growth : r.growth = .whole b) : 1 ≤ b := by
  have above : (1 : Rat) ≤ b := sound.one_le_growth (by rw [growth]; rfl)
  exact_mod_cast above

theorem Sound.isNegative_growth (sound : r.Sound) {y : Binary64} (growth : r.growth = .real y) :
    y.isNegative = false := by
  have growing := sound.growing
  rw [growth] at growing
  cases y with
  | nan => cases growing
  | infinite negative => cases negative <;> first | rfl | cases growing
  | finite negative m e fits =>
    obtain ⟨_, _, _, same, -⟩ := Binary64.finite_of_one_le ((Quantity.le_iff rfl rfl).1 growing)
    rw [same]
    rfl

/-! ## One delay -/

section

variable {k : Nat} {f : ArithmeticFault} {power d : Quantity}

theorem backoff_succ (r : Retry) (k : Nat) : r.backoff (.whole (k + 1 : Nat)) = do
    let power ← r.growth.pow (.whole k) r.greatestDelay.isReal
    return (← r.initialDelay.mul power).min r.greatestDelay := by
  have before : (Quantity.whole (k + 1 : Nat)).pred = .whole k := by simp [Quantity.pred]
  rw [backoff, before]

theorem backoff_of_pow_error (fails : r.growth.pow (.whole k) r.greatestDelay.isReal = .error f) :
    r.backoff (.whole (k + 1 : Nat)) = .error f := by
  rw [backoff_succ, fails]
  rfl

theorem backoff_of_mul_error (told : r.growth.pow (.whole k) r.greatestDelay.isReal = .ok power)
    (fails : r.initialDelay.mul power = .error f) : r.backoff (.whole (k + 1 : Nat)) = .error f := by
  rw [backoff_succ, told]
  simp only [bind, Except.bind, fails]

theorem backoff_of_mul (told : r.growth.pow (.whole k) r.greatestDelay.isReal = .ok power)
    (product : r.initialDelay.mul power = .ok d) :
    r.backoff (.whole (k + 1 : Nat)) = .ok (d.min r.greatestDelay) := by
  rw [backoff_succ, told]
  simp only [bind, Except.bind, product]
  rfl

theorem pow_growth {b : Int} (growth : r.growth = .whole b) (k : Nat) :
    r.growth.pow (.whole k) r.greatestDelay.isReal = .ok (.whole (b ^ k)) := by
  rw [growth, Quantity.pow_whole]

/-- No delay is above the greatest one before it is spread. -/
theorem lt_backoff (told : r.backoff (.whole (k + 1 : Nat)) = .ok d) : r.greatestDelay.lt d = false := by
  cases powered : r.growth.pow (.whole k) r.greatestDelay.isReal with
  | error f => rw [backoff_of_pow_error powered] at told; cases told
  | ok power =>
    cases product : r.initialDelay.mul power with
    | error f => rw [backoff_of_mul_error powered product] at told; cases told
    | ok q =>
      rw [backoff_of_mul powered product] at told
      cases told
      exact Quantity.lt_min q _

/-- A delay that cannot be worked out is beyond floating point. -/
theorem Sound.isFault_backoff (sound : r.Sound) (fails : r.backoff (.whole (k + 1 : Nat)) = .error f) :
    (Failure.ofArithmetic f).isFault .overflow := by
  suffices f = .tooLarge ∨ f = .outOfRange by rcases this with rfl | rfl <;> rfl
  cases powered : r.growth.pow (.whole k) r.greatestDelay.isReal with
  | error fault =>
    rw [backoff_of_pow_error powered] at fails
    cases fails
    cases kind : r.growth with
    | whole b => rw [pow_growth kind] at powered; cases powered
    | real y => exact Quantity.pow_real_eq_error (sound.isNegative_growth kind) (kind ▸ powered)
  | ok power =>
    cases product : r.initialDelay.mul power with
    | error fault =>
      rw [backoff_of_mul_error powered product] at fails
      cases fails
      exact .inl (Quantity.mul_eq_error product)
    | ok q => rw [backoff_of_mul powered product] at fails; cases fails

/-- **In whole numbers** a delay is exactly the first one times the power, or the greatest one. -/
theorem backoff_unbroken {b : Int} {i g : Rat} (growth : r.growth = .whole b)
    (whole : b = 1 ∨ ∃ n, r.initialDelay = .whole n) (spans : r.Spans i g) (k : Nat) :
    ∃ d, r.backoff (.whole (k + 1 : Nat)) = .ok d ∧ d.place? = some (.at (min (i * (b : Rat) ^ k) g)) := by
  have initial := spans.initial
  suffices ∃ d, r.initialDelay.mul (.whole (b ^ k)) = .ok d ∧ d.place? = some (.at (i * (b : Rat) ^ k)) by
    obtain ⟨d, product, place⟩ := this
    exact ⟨_, backoff_of_mul (pow_growth growth k) product, Quantity.place?_min place spans.greatest⟩
  cases first : r.initialDelay with
  | whole n =>
    rw [first] at initial
    obtain rfl : (n : Rat) = i := Quantity.Place.at.inj (Option.some.inj initial)
    exact ⟨.whole (n * b ^ k), rfl, by rw [← Int.cast_pow, ← Int.cast_mul]; rfl⟩
  | real x =>
    obtain rfl : b = 1 := whole.resolve_right (by simp [first])
    rw [one_pow, Int.cast_one, one_pow, mul_one, ← first]
    exact ⟨r.initialDelay, by rw [first]; exact Quantity.real_mul_one x, initial⟩

/-- In floating point the power has to be within the range. -/
theorem backoff_of_not_inRange {b : Int} {x : Binary64} (growth : r.growth = .whole b)
    (initial : r.initialDelay = .real x) (beyond : ¬ (Quantity.whole (b ^ k)).InRange) :
    r.backoff (.whole (k + 1 : Nat)) = .error .tooLarge := by
  refine backoff_of_mul_error (pow_growth growth k) ?_
  rw [initial]
  exact Quantity.mul_of_not_inRange (.inr beyond) (.inl rfl)

/-- In floating point a delay is within the range if the greatest one is. -/
theorem delayed_of_pow (told : r.growth.pow (.whole k) r.greatestDelay.isReal = .ok power)
    (within : power.InRange) (initial : r.initialDelay.InRange) (greatest : r.greatestDelay.InRange)
    (mixed : r.initialDelay.isReal ∨ power.isReal) : r.Delayed (k + 1) := by
  obtain ⟨x, product⟩ := Quantity.mul_of_inRange initial within mixed
  exact ⟨_, backoff_of_mul told product, Quantity.min_cases (Quantity.inRange_real x) greatest⟩

/-- A policy that takes powers of a whole growth to floating point has its first delay there. -/
theorem initial_of_broken {b : Int} (broken : ¬ r.Unbroken) (growth : r.growth = .whole b) :
    b ≠ 1 ∧ ∃ x, r.initialDelay = .real x := by
  refine ⟨fun one => broken ⟨b, growth, .inl one⟩, ?_⟩
  cases initial : r.initialDelay with
  | whole n => exact absurd ⟨b, growth, .inr ⟨n, initial⟩⟩ broken
  | real x => exact ⟨x, rfl⟩

/-- **In floating point** a delay is worked out if the power of the growth is below the limit, and is not from
the next power of two on. -/
theorem backoff_broken (sound : r.Sound) (broken : ¬ r.Unbroken) {g : Rat}
    (growth : r.growth.place? = some (.at g)) (initial : r.initialDelay.InRange) (small : k < 2 ^ 53) :
    (g ^ k < Binary64.limit → r.greatestDelay.InRange → r.Delayed (k + 1)) ∧
    ((2 : Rat) ^ 1024 ≤ g ^ k → ∃ f, r.backoff (.whole (k + 1 : Nat)) = .error f) := by
  have above := sound.one_le_growth growth
  cases kind : r.growth with
  | whole b =>
    rw [kind] at growth
    obtain rfl : (b : Rat) = g := Quantity.Place.at.inj (Option.some.inj growth)
    obtain ⟨-, x, first⟩ := initial_of_broken broken kind
    have within_iff := Quantity.inRange_pow_iff (k := k) (sound.one_le_whole kind)
    refine ⟨fun less greatest => ?_, fun more => ?_⟩
    · exact delayed_of_pow (pow_growth kind k) (within_iff.2 less) initial greatest (.inl (by rw [first]; rfl))
    · have beyond : ¬ (Quantity.whole (b ^ k)).InRange := by
        rw [within_iff, not_lt]
        exact le_trans (by exact_mod_cast Binary64.limit_le) more
      exact ⟨_, backoff_of_not_inRange kind first beyond⟩
  | real y =>
    rw [kind] at growth
    obtain rfl := Quantity.value_of_place growth
    obtain ⟨low, high⟩ := Quantity.pow_real_bounds above small r.greatestDelay.isReal
    rw [← kind] at low high
    refine ⟨fun less greatest => ?_, fun more => ⟨_, backoff_of_pow_error (high more)⟩⟩
    obtain ⟨z, told⟩ := low less
    exact delayed_of_pow told (Quantity.inRange_real z) initial greatest (.inr rfl)

end

/-! ## All delays -/

theorem limit_le_pow {b : Int} (two_le : 2 ≤ b) : (Binary64.limit : Rat) ≤ (b : Rat) ^ 1024 := by
  calc (Binary64.limit : Rat) ≤ 2 ^ 1024 := by exact_mod_cast Binary64.limit_le
    _ ≤ (b : Rat) ^ 1024 := by gcongr; exact_mod_cast two_le

/-- A policy that takes powers to floating point has no delay behind some attempt: if not for the power, then
because its exponent is beyond the range. -/
theorem exists_backoff_error (sound : r.Sound) (broken : ¬ r.Unbroken) :
    ∃ k f, r.backoff (.whole (k + 1 : Nat)) = .error f := by
  cases kind : r.growth with
  | whole b =>
    obtain ⟨other, x, first⟩ := initial_of_broken broken kind
    have above := sound.one_le_whole kind
    refine ⟨1024, _, backoff_of_not_inRange kind first ?_⟩
    rw [Quantity.inRange_pow_iff above, not_lt]
    exact limit_le_pow (by omega)
  | real y =>
    have beyond : ¬ (Quantity.whole Binary64.limit).InRange := by
      rw [Quantity.inRange_whole_iff]
      exact lt_irrefl _
    exact ⟨Binary64.limit, _, backoff_of_pow_error (by rw [kind]; exact Quantity.pow_real_of_not_inRange beyond _)⟩

/-- In whole numbers a delay is within the range if the first one, as it has grown, or the greatest one is. -/
theorem delayed_iff {b : Int} {i g : Rat} (growth : r.growth = .whole b)
    (whole : b = 1 ∨ ∃ n, r.initialDelay = .whole n) (above : 1 ≤ b) (spans : r.Spans i g) (k : Nat) :
    r.Delayed (k + 1) ↔ i * (b : Rat) ^ k < Binary64.limit ∨ g < Binary64.limit := by
  obtain ⟨d, told, place⟩ := backoff_unbroken growth whole spans k
  have within_iff := Quantity.inRange_iff_lt place (le_min (spans.grown_nonneg above k) spans.greatest_nonneg)
  rw [← min_lt_iff, ← within_iff]
  constructor
  · rintro ⟨d', told', within⟩
    rw [told] at told'
    cases told'
    exact within
  · exact fun within => ⟨d, told, within⟩

/-- Whole numbers that grow leave the range, unless they are zero. -/
theorem constant_of_lt_limit {n b : Int} (nonneg : 0 ≤ n) (above : 1 ≤ b)
    (below : (n : Rat) * (b : Rat) ^ 1024 < Binary64.limit) : b = 1 ∨ n = 0 := by
  by_contra grows
  rw [not_or] at grows
  have one_le : (1 : Rat) ≤ n := by exact_mod_cast (by omega : 1 ≤ n)
  have power_nonneg : 0 ≤ (b : Rat) ^ 1024 := pow_nonneg (by exact_mod_cast (by omega : 0 ≤ b)) _
  have reached : (Binary64.limit : Rat) ≤ n * (b : Rat) ^ 1024 :=
    (limit_le_pow (by omega)).trans (le_mul_of_one_le_left power_nonneg one_le)
  exact absurd below (not_lt.2 reached)

/-- All delays are within the range exactly if they never leave whole numbers and are capped. -/
theorem forall_delayed_iff (sound : r.Sound) : (∀ k : Nat, r.Delayed (k + 1)) ↔ r.Unbroken ∧ r.Capped := by
  obtain ⟨i, g, spans⟩ := sound.exists_spans
  have initial_iff := Quantity.inRange_iff_lt spans.initial spans.initial_nonneg
  have greatest_iff := Quantity.inRange_iff_lt spans.greatest spans.greatest_nonneg
  constructor
  · intro all
    have unbroken : r.Unbroken := by
      by_contra broken
      obtain ⟨k, f, fails⟩ := exists_backoff_error sound broken
      obtain ⟨d, told, -⟩ := all k
      rw [told] at fails
      cases fails
    refine ⟨unbroken, or_iff_not_imp_left.2 fun beyond => ?_⟩
    obtain ⟨b, growth, whole⟩ := unbroken
    have above := sound.one_le_whole growth
    have below (k : Nat) : i * (b : Rat) ^ k < Binary64.limit :=
      ((delayed_iff growth whole above spans k).1 (all k)).resolve_right (mt greatest_iff.2 beyond)
    refine ⟨initial_iff.2 (by simpa using below 0), ?_⟩
    rcases whole with rfl | ⟨n, first⟩
    · exact .inl growth
    · have initial := spans.initial
      rw [first] at initial ⊢
      obtain rfl : (n : Rat) = i := Quantity.Place.at.inj (Option.some.inj initial)
      rcases constant_of_lt_limit (by exact_mod_cast spans.initial_nonneg) above (below 1024) with rfl | rfl
      · exact .inl growth
      · exact .inr rfl
  · rintro ⟨⟨b, growth, whole⟩, capped⟩ k
    refine (delayed_iff growth whole (sound.one_le_whole growth) spans k).2 ?_
    rcases capped with within | ⟨within, one | zero⟩
    · exact .inr (greatest_iff.1 within)
    · obtain rfl : b = 1 := by rw [growth] at one; cases one; rfl
      rw [Int.cast_one, one_pow, mul_one]
      exact .inl (initial_iff.1 within)
    · obtain rfl : i = 0 := by rw [spans.initial] at zero; cases zero; rfl
      rw [zero_mul]
      exact .inl (initial_iff.1 within)

/-! ## Chance -/

/-- A source of chance that always has a number. -/
def Telling (chance : Chance ρ) : Prop := ∀ c, ∃ x c', chance c = (.ok x, c')

section

variable {n k : Nat} {d : Quantity}

theorem Telling.pass (telling : Telling chance) (w : Wait) : Telling fun c => w.pass suspended (chance c) := by
  intro c
  obtain ⟨x, c', told⟩ := telling c
  cases w with
  | inPlace => exact ⟨x, c', told⟩
  | suspended => exact ⟨x, c', by simp only [Wait.pass, told]; rfl⟩

theorem delay_of_error {f : ArithmeticFault} (fails : r.backoff (.whole n) = .error f) :
    r.delay chance (.whole n) c = (.error (.ofArithmetic f), c) := by
  rw [delay, fails]

theorem delay_plain (told : r.backoff (.whole n) = .ok d) (plain : r.spread = false) :
    r.delay chance (.whole n) c = (.ok d, c) := by
  simp only [delay, told, plain, Bool.false_eq_true, if_false]

/-- To spread a delay is to multiply it in floating point. -/
theorem exists_delay_spread (telling : Telling chance) (told : r.backoff (.whole n) = .ok d)
    (spread : r.spread = true) (c : ρ) :
    ∃ x c', r.delay chance (.whole n) c = ((d.mul (.real x)).mapError .ofArithmetic, c') := by
  obtain ⟨x, c', asked⟩ := telling c
  exact ⟨(Binary64.ofFraction false 1 2).add x, c', by simp only [delay, told, spread, if_true, asked, spreadBy]⟩

theorem delay_of_delayed (telling : Telling chance) (delayed : r.Delayed n) (c : ρ) :
    ∃ d c', r.delay chance (.whole n) c = (.ok d, c') ∧ d.InRange := by
  obtain ⟨d, told, within⟩ := delayed
  cases spread : r.spread with
  | true =>
    obtain ⟨x, c', delayed⟩ := exists_delay_spread telling told spread c
    obtain ⟨y, product⟩ := Quantity.mul_of_inRange within (Quantity.inRange_real x) (.inr rfl)
    rw [product] at delayed
    exact ⟨.real y, c', delayed, Quantity.inRange_real y⟩
  | false => exact ⟨d, c, delay_plain told spread, within⟩

/-- A delay that is not within the range cannot be spread, and cannot be reported. -/
theorem delay_of_not_delayed (sound : r.Sound) (telling : Telling chance) (broken : ¬ r.Delayed (k + 1)) (c : ρ) :
    (∃ f c', r.delay chance (.whole (k + 1 : Nat)) c = (.error f, c') ∧ f.isFault .overflow) ∨
      r.spread = false ∧ ∃ d, r.delay chance (.whole (k + 1 : Nat)) c = (.ok d, c) ∧ d.toReal = .error .tooLarge := by
  cases told : r.backoff (.whole (k + 1 : Nat)) with
  | error f => exact .inl ⟨_, c, delay_of_error told, sound.isFault_backoff told⟩
  | ok d =>
    have beyond : ¬ d.InRange := fun within => broken ⟨d, told, within⟩
    cases spread : r.spread with
    | true =>
      obtain ⟨x, c', delayed⟩ := exists_delay_spread telling told spread c
      rw [Quantity.mul_of_not_inRange (.inl beyond) (.inr rfl)] at delayed
      exact .inl ⟨_, c', delayed, rfl⟩
    | false => exact .inr ⟨rfl, d, delay_plain told spread, Quantity.toReal_of_not_inRange beyond⟩

end

/-- All delays are worked out, none greater than the greatest one, exactly if they never leave whole numbers and,
to be spread, are capped. -/
theorem delays_iff (sound : r.Sound) (telling : Telling chance) (c : ρ) :
    (∀ k : Nat, ∃ d c', r.delay chance (.whole (k + 1 : Nat)) c = (.ok d, c') ∧
      (r.spread = false → d.le r.greatestDelay)) ↔ r.Unbroken ∧ (r.spread = true → r.Capped) := by
  cases spread : r.spread with
  | true =>
    have delayed_iff (k : Nat) :
        (∃ d c', r.delay chance (.whole (k + 1 : Nat)) c = (.ok d, c')) ↔ r.Delayed (k + 1) := by
      constructor
      · rintro ⟨d, c', told⟩
        by_contra broken
        rcases delay_of_not_delayed sound telling broken c with ⟨f, c'', fails, -⟩ | ⟨plain, -⟩
        · rw [told] at fails
          cases fails
        · rw [spread] at plain
          cases plain
      · intro delayed
        obtain ⟨d, c', told, -⟩ := delay_of_delayed telling delayed c
        exact ⟨d, c', told⟩
    simp only [Bool.true_eq_false, false_implies, and_true, true_implies, delayed_iff]
    exact forall_delayed_iff sound
  | false =>
    simp only [Bool.false_eq_true, false_implies, and_true, true_implies]
    constructor
    · intro all
      by_contra broken
      obtain ⟨k, f, fails⟩ := exists_backoff_error sound broken
      obtain ⟨d, c', told, -⟩ := all k
      rw [delay_of_error fails] at told
      cases told
    · rintro ⟨b, growth, whole⟩ k
      obtain ⟨i, g, spans⟩ := sound.exists_spans
      obtain ⟨d, told, place⟩ := backoff_unbroken growth whole spans k
      exact ⟨d, c, delay_plain told spread, (Quantity.le_iff place spans.greatest).2 (min_le_right _ _)⟩

/-! ## Runs -/

section

variable {attempt more : Nat} {ds : List Quantity} {d : Quantity} {c'' : ρ}

/-- Wherever a run comes to a delay that floating point reaches, it is finite and slept. -/
def Rested (r : Retry) (around : Surroundings ρ) (c : ρ) : Prop :=
  ∀ ds c', Delays r around 1 c ds c' →
    ∀ d c₁, r.delay around.chance (.whole (ds.length + 1 : Nat)) c' = (.ok d, c₁) → d.InRange →
      d.isFinite = .ok true ∧ ∃ c₂, around.sleep d c₁ = (.ok (), c₂)

theorem Delays.snoc (delays : Delays r around attempt c ds c') (last : r.Rests around (attempt + ds.length) c' d c'') :
    Delays r around attempt c (ds ++ [d]) c'' := by
  induction delays with
  | nil => exact .cons last .nil
  | cons first rest ih =>
    refine .cons first (ih ?_)
    rwa [Nat.add_assoc, Nat.add_comm 1]

/-- Delays are determined, so that one more delay is the next one. -/
theorem Delays.next {longer : List Quantity} (delays : Delays r around attempt c ds c')
    (others : Delays r around attempt c longer c'') (each : longer.length = ds.length + 1) :
    ∃ d c₁, r.Rests around (attempt + ds.length) c' d c₁ := by
  induction delays generalizing longer with
  | nil =>
    cases others with
    | nil => cases each
    | cons first rest => exact ⟨_, _, first⟩
  | cons first rest ih =>
    cases others with
    | nil => cases each
    | cons first' rest' =>
      obtain ⟨_, delayed, -, slept⟩ := first
      obtain ⟨_, delayed', -, slept'⟩ := first'
      cases delayed.symm.trans delayed'
      cases slept.symm.trans slept'
      have next := ih rest' (Nat.succ.inj each)
      rwa [Nat.add_assoc, Nat.add_comm 1] at next

/-- Delays go on for as many attempts as may follow, or up to a pause that does not rest. -/
theorem exists_delays (r : Retry) (around : Surroundings ρ) (c : ρ) (more : Nat) :
    ∃ ds c', Delays r around 1 c ds c' ∧ ds.length ≤ more ∧
      (ds.length < more → ∀ d c'', ¬ r.Rests around (1 + ds.length) c' d c'') := by
  induction more with
  | zero => exact ⟨[], c, .nil, Nat.le_refl 0, fun less => absurd less (Nat.lt_irrefl 0)⟩
  | succ more ih =>
    obtain ⟨ds, c', delays, few, stops⟩ := ih
    by_cases rests : ∃ d c'', r.Rests around (1 + ds.length) c' d c''
    · obtain ⟨d, c'', rests⟩ := rests
      have full : ds.length = more := by
        apply Nat.le_antisymm few
        apply Nat.le_of_not_lt
        exact fun less => stops less d c'' rests
      have length : (ds ++ [d]).length = more + 1 := by rw [List.length_append, full, List.length_singleton]
      exact ⟨ds ++ [d], c'', delays.snoc rests, Nat.le_of_eq length, fun less => absurd less (by omega)⟩
    · exact ⟨ds, c', delays, Nat.le_succ_of_le few, fun _ d c'' rested => rests ⟨d, c'', rested⟩⟩

theorem Delays.isFinite (delays : Delays r around attempt c ds c') :
    ∀ d ∈ ds, d.isFinite = .ok true := by
  induction delays with
  | nil => simp
  | cons first rest ih =>
    obtain ⟨_, -, finite, -⟩ := first
    exact List.forall_mem_cons.2 ⟨finite, ih⟩

/-- Delays do not depend on how many attempts are allowed. -/
theorem Delays.allowing (delays : Delays r around attempt c ds c') (attempts : Quantity) :
    Delays { r with attempts } around attempt c ds c' := by
  induction delays with
  | nil => exact .nil
  | cons first rest ih => exact .cons first ih

/-- Where a pause does not rest, either it fails, for a delay that is an overflow or that cannot be slept in place,
or it has no end. -/
theorem pause_of_stops {k : Nat} (sound : r.Sound) (telling : Telling chance)
    (stops : ∀ d c'', ¬ r.Rests ((w.host chance clock).through w) (k + 1) c d c'') :
    (∃ f c'', (∀ said, (r.pause ((w.host chance clock).through w) (k + 1) said c).value = (.error f, c'')) ∧
      (f.isFault .overflow ∨ w = .inPlace ∧ ∃ now d, Clock.sleep now d = .error f)) ∨
    w = .suspended ∧ ∃ d c'', d.isFinite = .ok false ∧
      ∀ said, (r.pause ((w.host chance clock).through w) (k + 1) said c).value = (.ok d, c'') := by
  by_cases delayed : r.Delayed (k + 1)
  · obtain ⟨d, c₁, told, within⟩ := delay_of_delayed (telling.pass w) delayed c
    have paused (said : String) : (r.pause ((w.host chance clock).through w) (k + 1) said c).value = _ :=
      pause_of_slept told within said
    cases w with
    | inPlace =>
      cases slept : Clock.sleep (clock c₁).1 d with
      | ok =>
        obtain ⟨n, counted, -⟩ := Clock.sleep_eq_ok_iff.1 slept
        have finite := Quantity.isFinite_eq_ok_true_iff.2 ⟨within, Clock.exists_place_of_nanoseconds counted⟩
        exact absurd ⟨c₁, told, finite, Prod.ext slept rfl⟩ (stops d _)
      | error f =>
        refine .inl ⟨f, (clock c₁).2, fun said => ?_, .inr ⟨rfl, _, _, slept⟩⟩
        rw [paused said]
        simp only [Surroundings.through, Wait.host, Wait.pass, Wait.sleep, slept, Except.map]
    | suspended =>
      obtain ⟨finite, seen, -⟩ := Quantity.isFinite_of_inRange within
      cases finite with
      | true => exact absurd ⟨c₁, told, seen, sleep_suspended within chance clock c₁⟩ (stops d _)
      | false =>
        refine .inr ⟨rfl, d, (clock c₁).2, seen, fun said => ?_⟩
        rw [paused said, sleep_suspended within]
        rfl
  · rcases delay_of_not_delayed sound (telling.pass w) delayed c with ⟨f, c', fails, overflow⟩ | ⟨-, d, told, beyond⟩
    · exact .inl ⟨f, c', fun said => pause_of_error fails said, .inl overflow⟩
    · exact .inl ⟨.ofArithmetic .tooLarge, c, fun said => pause_of_unreported told beyond said, .inl rfl⟩

/-- The delays go on for every number of attempts exactly if all are worked out, and are slept where a run comes to
them. -/
theorem forall_delays_iff (sound : r.Sound) (telling : Telling around.chance) (c : ρ) :
    (∀ more, ∃ ds c', Delays r around 1 c ds c' ∧ ds.length = more) ↔
      (∀ k : Nat, r.Delayed (k + 1)) ∧ r.Rested around c := by
  constructor
  · intro all
    have next {ds c'} (delays : Delays r around 1 c ds c') : ∃ d c₁, r.Rests around (ds.length + 1) c' d c₁ := by
      obtain ⟨more, c'', longer, each⟩ := all (ds.length + 1)
      rw [Nat.add_comm]
      exact delays.next longer each
    refine ⟨fun k => ?_, fun ds c' delays d c₁ told _ => ?_⟩
    · obtain ⟨ds, c', delays, rfl⟩ := all k
      obtain ⟨d, c₁, c₂, told, finite, -⟩ := next delays
      by_contra broken
      rcases delay_of_not_delayed sound telling broken c' with ⟨f, _, fails, -⟩ | ⟨-, d', told', beyond⟩
      · cases fails.symm.trans told
      · cases told'.symm.trans told
        obtain ⟨⟨x, real⟩, -⟩ := Quantity.isFinite_eq_ok_true_iff.1 finite
        cases beyond.symm.trans real
    · obtain ⟨d', c₂, c₃, told', finite, slept⟩ := next delays
      cases told.symm.trans told'
      exact ⟨finite, c₂, slept⟩
  · rintro ⟨delayed, rested⟩ more
    induction more with
    | zero => exact ⟨[], c, .nil, rfl⟩
    | succ more ih =>
      obtain ⟨ds, c', delays, rfl⟩ := ih
      obtain ⟨d, c₁, told, within⟩ := delay_of_delayed telling (delayed ds.length) c'
      obtain ⟨finite, c₂, slept⟩ := rested ds c' delays d c₁ told within
      rw [Nat.add_comm ds.length] at told
      exact ⟨ds ++ [d], c₂, delays.snoc ⟨c₁, told, finite, slept⟩, by simp⟩

/-- Delays that are not spread and never leave whole numbers are slept: suspended, or in place as long as the clock
can count the greatest one. -/
theorem rested_of_unbroken (sound : r.Sound) (plain : r.spread = false) (unbroken : r.Unbroken)
    (slept : w = .suspended ∨ ∃ i g, r.initialDelay = .whole i ∧ r.greatestDelay = .whole g ∧
      ∀ c, (clock c).1 + g * Clock.perSecond < Clock.limit) :
    r.Rested ((w.host chance clock).through w) c := by
  intro ds c' _ d c₁ told within
  obtain ⟨i, g, spans⟩ := sound.exists_spans
  obtain ⟨b, growth, whole⟩ := unbroken
  obtain ⟨d', worked, place⟩ := backoff_unbroken growth whole spans ds.length
  cases (delay_plain worked plain).symm.trans told
  have finite := Quantity.isFinite_eq_ok_true_iff.2 ⟨within, _, place⟩
  refine ⟨finite, _, Prod.ext ((slept_iff w chance clock finite c').2 (slept.imp_right ?_)) rfl⟩
  rintro ⟨n, m, initial, greatest, few⟩
  have product : r.initialDelay.mul (.whole (b ^ ds.length)) = .ok (.whole (n * b ^ ds.length)) := by
    rw [initial]
    rfl
  have told := backoff_of_mul (pow_growth growth ds.length) product
  rw [greatest, Quantity.min_whole, worked] at told
  cases told
  have nonneg : 0 ≤ min (n * b ^ ds.length) m := by
    have grown := le_min (spans.grown_nonneg (sound.one_le_whole growth) ds.length) spans.greatest_nonneg
    rw [← Quantity.Place.at.inj (Option.some.inj place)] at grown
    exact_mod_cast grown
  have less := few c'
  have most : min (n * b ^ ds.length) m * Clock.perSecond ≤ m * Clock.perSecond := by
    gcongr
    exact min_le_right _ _
  refine ⟨_, Clock.nanoseconds_whole nonneg (by omega), ?_, by omega⟩
  exact mul_nonneg nonneg (by decide)

/-- What a wrapped operation comes to if its every attempt calls for another one and all delays are slept. -/
theorem wrap_of_delays (w : Wait) (name : String) (operation : ι → σ → Except ε α × σ) (around : Surroundings ρ)
    (input : ι)
    (always : ∀ i, ¬ h.Ends (attemptAfter (fun s => w.pass h.suspended (operation input s)) i s))
    (delays : Delays r (around.through w) 1 c ds c') (full : ds.length = more) :
    let run := h.wrap { r with attempts := .whole (more + 1 : Nat) } w name (noted operation) around input ([], s) c
    run.outcome = attemptAfter (fun s => w.pass h.suspended (operation input s)) more s ∧ run.sleeps = ds ∧
      run.state.1 = List.replicate (more + 1) input := by
  intro run
  have budget : run = _ := wrap_eq rfl w (noted operation) around input
  have retries : h.Retries (fun s => w.pass h.suspended (noted operation input s)) ([], s) (more + 1) more :=
    retries_noted w h.suspended operation input [] s
      ⟨Nat.lt_succ_self more, fun i _ => always i, fun less => absurd less (Nat.lt_irrefl _)⟩
  obtain ⟨outcome, sleeps, state, -⟩ := tryFrom_of_retries name retries (delays.allowing (.whole (more + 1 : Nat))) full
  rw [budget]
  refine ⟨outcome.trans (attemptAfter_noted w h.suspended operation input [] s more), sleeps, ?_⟩
  rw [state, stateAfter_noted]
  rfl

/-- What a wrapped operation comes to if its every attempt calls for another one and a pause does not rest. -/
theorem wrap_of_stops (sound : r.Sound) (telling : Telling chance) (w : Wait) (clock : ρ → Nat × ρ) (name : String)
    (operation : ι → σ → Except ε α × σ) (input : ι)
    (always : ∀ i, ¬ h.Ends (attemptAfter (fun s => w.pass h.suspended (operation input s)) i s))
    (delays : Delays r ((w.host chance clock).through w) 1 c ds c') (less : ds.length < more)
    (stops : ∀ d c'', ¬ r.Rests ((w.host chance clock).through w) (1 + ds.length) c' d c'') :
    let run := h.wrap { r with attempts := .whole (more + 1 : Nat) } w name (noted operation) (w.host chance clock)
      input ([], s) c
    (∃ f, (f.isFault .overflow ∨ w = .inPlace ∧ ∃ now d, Clock.sleep now d = .error f) ∧
      run.outcome = .error (h.ofFailure f) ∧ run.sleeps = ds ∧ run.state.1 = List.replicate (ds.length + 1) input) ∨
    w = .suspended ∧ ∃ d ∈ run.sleeps, d.isFinite = .ok false := by
  intro run
  have budget : run = _ := wrap_eq rfl w (noted operation) (w.host chance clock) input
  have always' (i : Nat) :
      ¬ h.Ends (attemptAfter (fun s => w.pass h.suspended (noted operation input s)) i ([], s)) := by
    rw [attemptAfter_noted]
    exact always i
  have allowed := delays.allowing (.whole (more + 1 : Nat))
  rw [Nat.add_comm] at stops
  rw [budget]
  have paused := tryFrom_of_pause name "" allowed less fun i _ => always' i
  rcases pause_of_stops sound telling stops with ⟨f, c'', unslept, why⟩ | ⟨rfl, d, c'', unfinite, slept⟩
  · rw [Nat.add_comm] at unslept
    obtain ⟨outcome, sleeps, state, -⟩ := paused.1 f c'' (unslept "")
    refine .inl ⟨f, why, outcome, sleeps, ?_⟩
    rw [state, stateAfter_noted]
    rfl
  · rw [Nat.add_comm] at slept
    exact .inr ⟨rfl, d, paused.2 d c'' (slept ""), unfinite⟩

end

/-- **How far delays go**, for a sound policy and a source of chance that always has a number. No delay is above
the greatest one before it is spread. All delays are worked out exactly if they never leave whole numbers and,
to be spread, are capped. Else a delay is worked out as long as the power of the growth is below the limit of
floating point, and it is an overflow from the next power of two on. A run in which every attempt calls for
another one goes on as long as its delays are worked out, finite and slept: it ends in the operation's last failure
if there are enough for all attempts, and else in an overflow or in what a sleep in place fails by. Suspended, it
may also wait for a delay that is not finite, and never end. So it makes all attempts, however many are allowed,
exactly if its delays never leave whole numbers, are capped, and are finite and slept; the latter is so for delays
that are not spread, suspended or within what the clock can count. A finite delay is slept exactly if it is
suspended, or the clock can count it from its present reading on. -/
theorem backoff_ends (sound : r.Sound) (telling : Telling chance) (h : Handling ε) (w : Wait) (clock : ρ → Nat × ρ)
    (name : String) (operation : ι → σ → Except ε α × σ) (input : ι) (s : σ) (c : ρ) :
    let host := w.host chance clock
    let delay (k : Nat) := r.delay chance (.whole (k + 1 : Nat)) c
    let called := fun s => w.pass h.suspended (operation input s)
    let run (more : Nat) :=
      h.wrap { r with attempts := .whole (more + 1 : Nat) } w name (noted operation) host input ([], s) c
    (∀ k d c', r.spread = false → delay k = (.ok d, c') → r.greatestDelay.lt d = false) ∧
    ((∀ k, ∃ d c', delay k = (.ok d, c') ∧ (r.spread = false → d.le r.greatestDelay)) ↔
      r.Unbroken ∧ (r.spread = true → r.Capped)) ∧
    (∀ g k, r.growth.place? = some (.at g) → ¬ r.Unbroken → r.initialDelay.InRange → k < 2 ^ 53 →
      (g ^ k < Binary64.limit → r.greatestDelay.InRange → r.Delayed (k + 1)) ∧
      ((2 : Rat) ^ 1024 ≤ g ^ k → ∃ f, f.isFault .overflow ∧ delay k = (.error f, c))) ∧
    ((∀ i, ¬ h.Ends (attemptAfter called i s)) →
      (∀ more, ∃ ds c', Delays r (host.through w) 1 c ds c' ∧ ds.length ≤ more ∧
        (ds.length = more → (run more).outcome = attemptAfter called more s ∧ (run more).sleeps = ds ∧
          (run more).state.1 = List.replicate (more + 1) input) ∧
        (ds.length < more →
          (∃ f, (f.isFault .overflow ∨ w = .inPlace ∧ ∃ now d, Clock.sleep now d = .error f) ∧
            (run more).outcome = .error (h.ofFailure f) ∧ (run more).sleeps = ds ∧
            (run more).state.1 = List.replicate (ds.length + 1) input) ∨
          w = .suspended ∧ ∃ d ∈ (run more).sleeps, d.isFinite = .ok false)) ∧
      ((∀ more, (run more).state.1 = List.replicate (more + 1) input ∧
        (run more).outcome = attemptAfter called more s ∧ ∀ d ∈ (run more).sleeps, d.isFinite = .ok true) ↔
        r.Unbroken ∧ r.Capped ∧ r.Rested (host.through w) c)) ∧
    (r.spread = false → r.Unbroken →
      (w = .suspended ∨ ∃ i g, r.initialDelay = .whole i ∧ r.greatestDelay = .whole g ∧
        ∀ c, (clock c).1 + g * Clock.perSecond < Clock.limit) →
      r.Rested (host.through w) c) ∧
    ∀ d c, d.isFinite = .ok true → (((host.through w).sleep d c).1 = .ok () ↔
      w = .suspended ∨ ∃ n, Clock.nanoseconds d = .ok n ∧ 0 ≤ n ∧ (clock c).1 + n < Clock.limit) := by
  intro host delay called run
  refine ⟨fun k d c' plain told => ?_, delays_iff sound telling c, fun g k growth broken initial small => ?_,
    fun always => ?_, rested_of_unbroken sound, fun d c finite => slept_iff w chance clock finite c⟩
  · cases worked : r.backoff (.whole (k + 1 : Nat)) with
    | error f => cases (delay_of_error worked).symm.trans told
    | ok d =>
      cases (delay_plain worked plain).symm.trans told
      exact lt_backoff worked
  · obtain ⟨low, high⟩ := backoff_broken sound broken growth initial small
    refine ⟨low, fun more => ?_⟩
    obtain ⟨f, fails⟩ := high more
    exact ⟨_, sound.isFault_backoff fails, delay_of_error fails⟩
  · have full {more ds c'} (delays : Delays r (host.through w) 1 c ds c') (each : ds.length = more) :=
      wrap_of_delays w name operation host input always delays each
    have stopped {more ds c'} (delays : Delays r (host.through w) 1 c ds c') (less : ds.length < more) :=
      wrap_of_stops sound telling w clock name operation input always delays less
    refine ⟨fun more => ?_, ?_⟩
    · obtain ⟨ds, c', delays, few, stops⟩ := exists_delays r (host.through w) c more
      exact ⟨ds, c', delays, few, full delays, fun less => stopped delays less (stops less)⟩
    · rw [← and_assoc, ← forall_delayed_iff sound, ← forall_delays_iff sound (telling.pass w)]
      constructor
      · intro all more
        obtain ⟨calls, -, finite⟩ := all more
        obtain ⟨ds, c', delays, few, stops⟩ := exists_delays r (host.through w) c more
        refine ⟨ds, c', delays, Nat.le_antisymm few (Nat.le_of_not_lt fun less => ?_)⟩
        rcases stopped delays less (stops less) with ⟨f, -, -, -, fewer⟩ | ⟨-, d, slept, unfinite⟩
        · have same := congrArg List.length (calls.symm.trans fewer)
          simp only [List.length_replicate] at same
          omega
        · cases (finite d slept).symm.trans unfinite
      · intro all more
        obtain ⟨ds, c', delays, each⟩ := all more
        obtain ⟨outcome, sleeps, calls⟩ := full delays each
        refine ⟨calls, outcome, ?_⟩
        rw [sleeps]
        exact delays.isFinite

def timeout : Failure := .timeout "umount /mnt" (.whole 1) ""

/-- An operation that always times out. -/
def busy (_ : String) (s : Unit) : Attempt Nat × Unit := (.error timeout, s)

theorem telling_steady : Telling steady := fun c => ⟨_, c, rfl⟩

/-- Whole delays that double up to a minute are slept behind all attempts, however many are allowed. -/
theorem backoff_ends_doubling :
    let run (more : Nat) := doubling.handling.wrap { doubling with attempts := .whole (more + 1 : Nat) } .inPlace "read"
      (noted busy) (Wait.inPlace.host steady newClock) "block" ([], ()) ()
    doubling.Sound ∧ Telling steady ∧
      ∀ more, (run more).state.1 = List.replicate (more + 1) "block" ∧ (run more).outcome = .error timeout := by
  intro run
  have sound : doubling.Sound := ⟨rfl, ⟨_, rfl⟩, ⟨_, rfl⟩, by decide⟩
  have unbroken : doubling.Unbroken := ⟨2, rfl, .inr ⟨1, rfl⟩⟩
  have capped : doubling.Capped := .inl ⟨_, rfl⟩
  have always (i : Nat) : ¬ doubling.handling.Ends
      (attemptAfter (fun s => Wait.inPlace.pass doubling.handling.suspended (busy "block" s)) i ()) := by
    have goesOn : doubling.handling.isFinal timeout = false := rfl
    exact Bool.eq_false_iff.1 goesOn
  obtain ⟨-, -, -, runs, rests, -⟩ :=
    backoff_ends sound telling_steady doubling.handling .inPlace newClock "read" busy "block" () ()
  have rested := rests rfl unbroken (.inr ⟨1, 60, rfl, rfl, fun | () => by decide⟩)
  refine ⟨sound, telling_steady, fun more => ?_⟩
  obtain ⟨calls, outcome, -⟩ := (runs always).2.2 ⟨unbroken, capped, rested⟩ more
  exact ⟨calls, outcome⟩

/-- The stock policy without chance. -/
def plain : Retry := { spread := false }

theorem sound_plain : plain.Sound where
  accepted := (if_neg (by decide +kernel)).trans (if_neg (by decide +kernel))
  initial := ⟨_, Quantity.place?_real (by decide +kernel)⟩
  greatest := ⟨_, Quantity.place?_real (by decide +kernel)⟩
  growing := by decide +kernel

/-- The stock policy has its first 1024 delays. -/
theorem delayed_plain {k : Nat} (few : k < 1024) : plain.Delayed (k + 1) := by
  have two : (Binary64.ofInt 2).value = 2 := by decide +kernel
  have growth : plain.growth.place? = some (.at 2) := by
    rw [← two]
    exact Quantity.place?_real (by decide +kernel)
  have broken : ¬ plain.Unbroken := by
    rintro ⟨b, growth, -⟩
    cases growth
  have less : (2 : Rat) ^ k < Binary64.limit := by
    calc (2 : Rat) ^ k ≤ 2 ^ 1023 := pow_le_pow_right₀ (by norm_num) (by omega)
      _ < Binary64.limit := by exact_mod_cast Binary64.lt_limit
  exact (backoff_broken sound_plain broken growth (Quantity.inRange_real _) (by omega)).1 less (Quantity.inRange_real _)

/-- The stock policy would cut its 1025th delay down to a minute, but the power is an overflow by then. With a
steeper growth that comes sooner: an operation that is always busy is not called a fourth time, and its own failure
is lost. -/
theorem stock_policy_overflows :
    let steep : Retry := { plain with attempts := .whole 4, growth := .real (.ofInt (1 <<< 600)) }
    let run := steep.handling.wrap steep .inPlace "read" (noted busy) (Wait.inPlace.host steady newClock) "block"
      ([], ()) ()
    plain.Sound ∧ (∀ k < 1024, plain.Delayed (k + 1)) ∧
      plain.delay steady (.whole 1025) () = (.error (.ofArithmetic .outOfRange), ()) ∧
      steep.Sound ∧ (∀ i, ¬ steep.handling.Ends (attemptAfter (busy "block") i ())) ∧
      run.state.1 = ["block", "block", "block"] ∧ ∃ f, f.isFault .overflow ∧ run.outcome = .error f := by
  intro steep run
  have overflow : plain.backoff (.whole (1025 : Nat)) = .error .outOfRange := by decide +kernel
  have sound : steep.Sound :=
    { accepted := (if_neg (by decide +kernel)).trans (if_neg (by decide +kernel))
      initial := ⟨_, Quantity.place?_real (by decide +kernel)⟩
      greatest := ⟨_, Quantity.place?_real (by decide +kernel)⟩
      growing := by decide +kernel }
  have always (i : Nat) : ¬ steep.handling.Ends (attemptAfter (busy "block") i ()) := by
    have goesOn : steep.handling.isFinal timeout = false := rfl
    exact Bool.eq_false_iff.1 goesOn
  refine ⟨sound_plain, fun k => delayed_plain, delay_of_error overflow, sound, always, ?_, ?_⟩
  · decide +kernel
  · have fails : (run.outcome.mapError fun f => f.isFault .overflow) = .error true := by decide +kernel
    cases ended : run.outcome with
    | ok a => rw [ended] at fails; cases fails
    | error f => rw [ended] at fails; exact ⟨f, Except.error.inj fails, rfl⟩

end BlockVault.Retry
