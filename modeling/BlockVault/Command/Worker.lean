import BlockVault.Bytes
import BlockVault.ReadSize
import BlockVault.Text.Utf8

/-!
# Workers

A worker drains the output of a process and then waits for its exit status. It goes step by step,
so that whoever watches it may see it anywhere on its way.
-/

namespace BlockVault.Command

/-- When a process ends its output, behind all the pieces of it. -/
inductive Ending where
  | byItself
  /-- Once it has been asked to stop, whatever was said to the request. -/
  | onRequest
  | never
  deriving DecidableEq

/-- A running process, by what it still has to give: pieces of output, when and by what its pipe ends, what
waiting for it yields, and what a request to kill it yields. -/
structure Process where
  pieces : List Bytes := []
  ending : Ending := .byItself
  readFailure : Option Failure := none
  wait : Except Failure Int := .ok 0
  kill : Except Failure Unit := .ok ()
  /-- The memory that there is for the bytes of a read, where a read makes room for all the bytes that it
  asks for. One from a pipe of the system does. -/
  memory : Option Nat := none

/-- Whether a read may ask for so many bytes. -/
def Process.accept (p : Process) (size : Int) : Except Failure Unit :=
  match p.memory with
  | some memory => ReadSize.index size >>= fun n => ReadSize.reserve memory n.toNat
  | none => .ok ()

/-- The process behind a request to stop. -/
def Process.asked (p : Process) : Process :=
  match p.ending with
  | .onRequest => { p with ending := .byItself }
  | _ => p

/-- How far a worker has come. -/
inductive Stage where
  | reading
  | waiting
  | finished
  /-- Stopped by a failure that is kept for the caller. -/
  | failed (f : Failure)
  /-- Stopped by a failure that nobody hears of. -/
  | lost (f : Failure)

/-- Whether the worker has nothing more to do. Its pipe is closed then. -/
def Stage.isFinal : Stage → Bool
  | .reading | .waiting => false
  | _ => true

structure Worker where
  process : Process
  readSize : Quantity
  /-- The pieces read so far, the last one first. -/
  got : List Bytes := []
  stage : Stage := .reading
  /-- The exit status, once waiting has yielded it. -/
  status : Option Int := none

namespace Worker

/-- Stops at a failure. Faults of the system and wrong values are kept, all others are lost. -/
def stop (w : Worker) (f : Failure) : Worker :=
  { w with stage := if f.isFault .system || f.isFault .value then .failed f else .lost f }

/-- The most bytes of a piece that one read gives; below zero it gives the piece. -/
def bound (size : Int) (piece : Bytes) : Nat := if size < 0 then piece.length else size.toNat

/-- One read. An empty one is the end of the output. One that finds nothing does not come back before the
output ends. -/
def read (w : Worker) (size : Int) : Worker :=
  match w.process.pieces with
  | [] =>
    if w.process.ending = .byItself then
      match w.process.readFailure with
      | none => { w with stage := .waiting }
      | some f => if f.isFault .stopIteration then { w with stage := .waiting } else w.stop f
    else w
  | piece :: rest =>
    let n := bound size piece
    if (piece.take n).isEmpty then { w with stage := .waiting }
    else
      let left := if (piece.drop n).isEmpty then rest else piece.drop n :: rest
      { w with process := { w.process with pieces := left }, got := piece.take n :: w.got }

/-- One step: a read, or waiting for the process. -/
def step (w : Worker) : Worker :=
  match w.stage with
  | .reading =>
    match w.readSize with
    | .real _ =>
      w.stop (.saying .type "'float' object cannot be interpreted as an integer")
    | .whole n =>
      match w.process.accept n with
      | .error f => w.stop f
      | .ok () => w.read n
  | .waiting =>
    match w.process.wait with
    | .error f => w.stop f
    | .ok status => { w with stage := .finished, status := some status }
  | _ => w

/-- The worker behind a request to its process to stop. -/
def asked (w : Worker) : Worker := { w with process := w.process.asked }

/-- After a number of steps. -/
def after (w : Worker) : Nat → Worker
  | 0 => w
  | n + 1 => w.step.after n

/-- Steps that take a worker on at most: a read for each byte and piece, one for the end, and a
wait. -/
def lifetime (w : Worker) : Nat := w.process.pieces.flatten.length + w.process.pieces.length + 2

/-- A worker as far as it comes: at its end, unless the output does not end. -/
def complete (w : Worker) : Worker := w.after w.lifetime

/-- All output so far. -/
def output (w : Worker) : Bytes := w.got.reverse.flatten

/-- All output so far as text. -/
def text (w : Worker) : String := Utf8.decode w.output

end Worker

end BlockVault.Command
