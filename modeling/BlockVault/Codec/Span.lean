import BlockVault.Bits

/-!
# Spans

A code for numbers names a span of values; extra bits choose one of them.
-/

namespace BlockVault

/-- The least value of a span, and the number of bits that choose one. -/
structure Span where
  extra : Nat
  least : Nat
  deriving Inhabited

/-- The value that the next bits choose. -/
def Span.read {ε : Type} (s : Span) : BitPull ε Nat := do
  return s.least + (← BitPull.bits s.extra)

/-- Spans that follow one another without a gap, given their sizes in bits. -/
def Span.chain (least : Nat) : List Nat → List Span
  | [] => []
  | extra :: rest => ⟨extra, least⟩ :: chain (least + (1 <<< extra)) rest

end BlockVault
