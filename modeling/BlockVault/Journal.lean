/-!
# The journal

What the layer reports while it works. A computation that reports gives its value with the lines it
wrote, in order.
-/

namespace BlockVault

namespace Journal

inductive Level where
  | info
  | warning
  | error
  deriving DecidableEq

/-- The part of the layer that reports. -/
inductive Channel where
  | names
  | registry
  | blocks
  | mounts
  | commands
  | retries
  deriving DecidableEq

structure Line where
  level : Level
  channel : Channel
  message : String
  deriving DecidableEq

end Journal

/-- A value and the lines written on the way to it. -/
structure Logged (α : Type) where
  value : α
  lines : List Journal.Line := []

namespace Logged

instance : Monad Logged where
  pure a := ⟨a, []⟩
  bind x f := let y := f x.value; ⟨y.value, x.lines ++ y.lines⟩

/-- Writes one line. -/
def write (level : Journal.Level) (channel : Journal.Channel) (message : String) : Logged Unit :=
  ⟨(), [⟨level, channel, message⟩]⟩

@[simp] theorem pure_value {α : Type} (a : α) : (pure a : Logged α).value = a := rfl

@[simp] theorem pure_lines {α : Type} (a : α) : (pure a : Logged α).lines = [] := rfl

@[simp] theorem bind_value {α β : Type} (x : Logged α) (f : α → Logged β) :
    (x >>= f).value = (f x.value).value := rfl

@[simp] theorem bind_lines {α β : Type} (x : Logged α) (f : α → Logged β) :
    (x >>= f).lines = x.lines ++ (f x.value).lines := rfl

theorem foldlM_value {α β : Type} (f : α → β → Logged α) (a : α) (bs : List β) :
    (bs.foldlM f a).value = bs.foldl (fun a b => (f a b).value) a := by
  induction bs generalizing a with
  | nil => rfl
  | cons b bs ih => simp only [List.foldlM_cons, bind_value, ih, List.foldl_cons]

end Logged

end BlockVault
