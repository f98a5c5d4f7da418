import BlockVault.Command.Timeline
import BlockVault.Program.Shell

/-!
# Starting programs

A command names a program of the host, either by its name alone or by a path. `launch` gives the
timeline of its process, or what the system refuses to start it with.
-/

namespace BlockVault.Program

/-- The directories that hold the programs. -/
def directories : List String := ["/bin", "/usr/bin"]

/-- What runs for a program's arguments: it changes the state of a shell or leaves a run. -/
inductive Kind where
  | shell
  | tool (t : Tool)

def kindOf? (name : String) : Option Kind :=
  if name = "sh" then some .shell else (Tool.ofName? name).map .tool

/-- The directory of a path and the name in it. -/
def partsOf (path : String) : String × String :=
  let name := (path.toList.reverse.takeWhile (· ≠ '/')).reverse
  (String.ofList (path.toList.take (path.length - name.length - 1)), String.ofList name)

/-- The program at a path. Other files may not be run. -/
def atPath (t : FileTree) (path : String) : Except PathFault Kind :=
  let (directory, name) := partsOf path
  match (if directories.contains directory then kindOf? name else none) with
  | some kind => .ok kind
  | none =>
    match t.look path with
    | .ok _ => .error .denied
    | .error e => .error e

/-- The program of a name, which is looked for in the directories. The empty name and those of one or
two points find the directories themselves. -/
def ofName (name : String) : Except PathFault Kind :=
  match kindOf? name with
  | some kind => .ok kind
  | none =>
    if name = "" ∨ name = "." ∨ name = ".." then .error .denied
    else if FileTree.nameLimit < name.utf8ByteSize then .error .nameTooLong
    else .error .noEntry

/-- The program that a command names. -/
def find (t : FileTree) (c : Command) : Except PathFault Kind :=
  if c.words.any fun w => w.toList.contains '\x00' then .error .holdsNul
  else if c.binary.toList.contains '/' then atPath t c.binary
  else ofName c.binary

/-- The pieces of output in the order of their times. -/
def inOrder (written : List Written) : List (Nat × Bytes) :=
  ((written.filter (!·.bytes.isEmpty)).map fun w => (w.time, w.bytes)).mergeSort
    (fun a b => decide (a.1 ≤ b.1))

/-- What a program that runs with arguments and without input does by the clock. -/
def Kind.timeline (k : Kind) (t : FileTree) (c : Command) : Command.Timeline :=
  match k with
  | .tool f =>
    let run := f { tree := t, arguments := c.args }
    { pieces := inOrder run.written, finish := some run.finish, wait := .ok run.status }
  | .shell =>
    let s := Shell.run Shell.depthLimit c.args { tree := t, arguments := [c.binary] }
    { pieces := inOrder s.written, finish := some (max s.time s.busyUntil)
      wait := .ok (match s.ending with
        | some (.status n) => n
        | some (.signal n) => -(n : Int)
        | none => s.status) }

/-- Starts a command on a host with so much memory for what is read of it. -/
def launch (t : FileTree) (memory : Nat) (c : Command) : Except Failure Command.Timeline :=
  match find t c with
  | .ok kind => .ok { kind.timeline t c with memory := some memory }
  | .error e => .error (e.failure c.binary)

end BlockVault.Program
