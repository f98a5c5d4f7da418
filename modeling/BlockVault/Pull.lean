import BlockVault.Bytes

/-!
# Reading on demand

A `Pull` gives a value, refuses the input, or asks for the next byte. A `Machine` runs one pull
after another, without an end known beforehand; its progress between two bytes is a value.

Main statements: bytes fed in two parts are fed in one (`Pull.feed_append`, `Machine.feed_append`).
-/

namespace BlockVault

/-- A computation that asks for bytes one by one. -/
inductive Pull (ε α : Type) where
  | give (value : α)
  | refuse (reason : ε)
  | ask (next : UInt8 → Pull ε α)

namespace Pull

variable {ε α β : Type}

/-- One pull after another. -/
def bind : Pull ε α → (α → Pull ε β) → Pull ε β
  | .give a, f => f a
  | .refuse e, _ => .refuse e
  | .ask next, f => .ask fun b => bind (next b) f

instance : Monad (Pull ε) where
  pure := .give
  bind := bind

/-- The next byte. -/
def byte : Pull ε UInt8 := .ask .give

/-- The next `n` bytes, behind those of `got`, which holds the last one first. -/
def takeOnto (got : Bytes) : Nat → Pull ε Bytes
  | 0 => .give got.reverse
  | n + 1 => .ask fun b => takeOnto (b :: got) n

/-- The next `n` bytes. -/
def take (n : Nat) : Pull ε Bytes := takeOnto [] n

/-- The next `n` bytes as a number, low byte first. -/
def number (n : Nat) : Pull ε Nat := do return Bytes.littleEndian (← take n)

/-- Refuses unless a condition holds. -/
def require (condition : Bool) (reason : ε) : Pull ε Unit :=
  if condition then .give () else .refuse reason

/-- Hands over bytes as long as they are asked for, and gives those left over. -/
def feed : Pull ε α → Bytes → Pull ε α × Bytes
  | .ask next, b :: bs => feed (next b) bs
  | p, bs => (p, bs)

@[simp] theorem feed_nil (p : Pull ε α) : p.feed [] = (p, []) := by cases p <;> rfl

/-- A pull that asks has taken every byte of the first part. -/
theorem feed_append (p : Pull ε α) (a b : Bytes) :
    p.feed (a ++ b) = match p.feed a with
      | (.ask next, _) => (Pull.ask next).feed b
      | (q, rest) => (q, rest ++ b) := by
  induction a generalizing p with
  | nil => cases p <;> simp [feed]
  | cons x a ih =>
    cases p with
    | ask next => simpa [feed] using ih (next x)
    | give _ => rfl
    | refuse _ => rfl

end Pull

/-- Pulls that follow one another. Each stage leads to another one or to an end. `slack` bounds how
many stages may pass from a state on before one asks for a byte. -/
structure Machine (ε σ ω : Type) where
  stage : σ → Pull ε (σ ⊕ ω)
  slack : σ → Nat
  stalled : ε

/-- How far a machine has come. -/
inductive Progress (ε σ ω : Type) where
  | waiting (next : UInt8 → Pull ε (σ ⊕ ω))
  | ended (result : ω)
  | refused (reason : ε)

namespace Machine

variable {ε σ ω : Type}

/-- Runs stages until one asks for a byte; at most `n` may start. -/
def settle (m : Machine ε σ ω) : Nat → Pull ε (σ ⊕ ω) → Progress ε σ ω
  | _, .ask next => .waiting next
  | _, .refuse e => .refused e
  | _, .give (.inr w) => .ended w
  | 0, .give (.inl _) => .refused m.stalled
  | n + 1, .give (.inl s) => settle m n (m.stage s)

/-- Runs from a state up to the first byte. -/
def start (m : Machine ε σ ω) (s : σ) : Progress ε σ ω := m.settle (m.slack s) (m.stage s)

/-- Takes one byte. -/
def step (m : Machine ε σ ω) (next : UInt8 → Pull ε (σ ⊕ ω)) (b : UInt8) : Progress ε σ ω :=
  match next b with
  | .ask next => .waiting next
  | .refuse e => .refused e
  | .give (.inr w) => .ended w
  | .give (.inl s) => m.start s

/-- Hands over bytes as long as the machine waits for them, and gives those left over. -/
def feed (m : Machine ε σ ω) : Progress ε σ ω → Bytes → Progress ε σ ω × Bytes
  | .waiting next, b :: bs => feed m (m.step next b) bs
  | p, bs => (p, bs)

@[simp] theorem feed_nil (m : Machine ε σ ω) (p : Progress ε σ ω) : m.feed p [] = (p, []) := by
  cases p <;> rfl

/-- A machine that waits has taken every byte of the first part. -/
theorem feed_append (m : Machine ε σ ω) (p : Progress ε σ ω) (a b : Bytes) :
    m.feed p (a ++ b) = match m.feed p a with
      | (.waiting next, _) => m.feed (.waiting next) b
      | (q, rest) => (q, rest ++ b) := by
  induction a generalizing p with
  | nil => cases p <;> simp [feed]
  | cons x a ih =>
    cases p with
    | waiting next => simpa [feed] using ih (m.step next x)
    | ended _ => rfl
    | refused _ => rfl

end Machine

end BlockVault
