import BlockVault.Source

/-!
# What a block is read from

A packed block is handed over as a stream or as bytes. Bytes may also be shown by a view of bytes that are
kept elsewhere. To be read they are made a stream in memory, and that takes bytes that lie together.
-/

namespace BlockVault

/-- A view of bytes that are kept elsewhere. -/
structure View where
  /-- The bytes that it shows, in their order. -/
  content : Bytes
  /-- They lie together in that order. In a view of every second byte they do not. -/
  contiguous : Bool := true
  /-- The view was given back, and shows nothing any more. -/
  released : Bool := false

/-- The bytes of a view, if they can be taken. -/
def View.bytes (v : View) : Except Failure Bytes :=
  if v.released then .error (.invalid "operation forbidden on released memoryview object")
  else if v.contiguous then .ok v.content
  else .error (.saying .buffer "memoryview: underlying buffer is not C-contiguous")

/-- A packed block as it is handed over. -/
inductive Input where
  | stream (source : Source)
  | bytes (content : Bytes)
  | view (v : View)

namespace Input

/-- The stream that a block is read from. -/
def source : Input → Except Failure Source
  | stream s => .ok s
  | bytes content => .ok (.ofBytes content)
  | view v => v.bytes.map .ofBytes

/-- The input when its stream was read up to a rest. Bytes are left as they are. -/
def leaving (i : Input) (rest : Source) : Input :=
  match i with
  | stream _ => stream rest
  | other => other

end Input

end BlockVault
