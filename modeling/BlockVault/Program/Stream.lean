import BlockVault.Bytes
import BlockVault.Text.Utf8

/-!
# What programs read and write

A program of the host is known by what it writes, and when, from what it is given to read. Times are
nanoseconds.
-/

namespace BlockVault.Program

/-- The two streams that a program writes to. -/
inductive Outlet where
  | out
  | err
  deriving DecidableEq

structure Written where
  time : Nat
  outlet : Outlet
  bytes : Bytes

/-- What a program reads. All of it is there from a time on; zero bytes without end may follow. -/
structure Inlet where
  bytes : Bytes := []
  ready : Nat := 0
  endless : Bool := false

/-- The first bytes of an inlet, at most `n`, and what is left. -/
def Inlet.split (i : Inlet) (n : Nat) : Bytes × Inlet :=
  let zeros := if i.endless then List.replicate (n - i.bytes.length) 0 else []
  (i.bytes.take n ++ zeros, { i with bytes := i.bytes.drop n })

/-- What a run of a program leaves. -/
structure Run where
  written : List Written := []
  finish : Nat
  status : Nat := 0
  inlet : Inlet

namespace Run

/-- A run that writes at its end. -/
def writing (outlet : Outlet) (bytes : Bytes) (time : Nat) (inlet : Inlet) (status : Nat := 0) :
    Run :=
  { written := [⟨time, outlet, bytes⟩], finish := time, status, inlet }

/-- A run that writes a text. -/
def saying (outlet : Outlet) (text : String) (time : Nat) (inlet : Inlet) (status : Nat := 0) :
    Run :=
  writing outlet (Utf8.encode text) time inlet status

end Run

end BlockVault.Program
