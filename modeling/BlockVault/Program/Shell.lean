import BlockVault.Program.Shell.Syntax
import BlockVault.Program.Tool

/-!
# The shell

A script runs command by command. Its state holds the values of names, the clock, what is left to
read and what was written. A pipeline starts its commands together; the second one reads what the
first one writes.
-/

namespace BlockVault.Program.Shell

/-- How a shell ends. -/
inductive Ending where
  | status (n : Nat)
  | signal (n : Nat)

structure State where
  tree : FileTree
  values : List (String × String) := []
  /-- The name that the shell was called by, and its arguments. -/
  arguments : List String := ["sh"]
  status : Nat := 0
  time : Nat := 0
  inlet : Inlet := {}
  written : List Written := []
  ending : Option Ending := none
  /-- When the last command in the background ends. -/
  busyUntil : Nat := 0

/-- The number that the shell is known by. -/
def shellNumber : String := "4242"

/-- The value of a name. -/
def State.value (s : State) (name : String) : String :=
  if name = "?" then toString s.status
  else if name = "$" then shellNumber
  else if name = "#" then toString (s.arguments.length - 1)
  else if name = "@" || name = "*" then " ".intercalate s.arguments.tail
  else
    match name.toNat? with
    | some n => s.arguments.getD n ""
    | none => (s.values.lookup name).getD ""

def isSeparator (c : Char) : Bool := c == ' ' || c == '\t' || c == '\n'

/-- Adds characters to the fields of a word, the last field first; outside quotes separators part
fields. `opened` tells whether the last field has begun. -/
def addSplit (fields : List (List Char)) (opened : Bool) : List Char → List (List Char) × Bool
  | [] => (fields, opened)
  | c :: cs =>
    if isSeparator c then addSplit fields false cs
    else
      match fields, opened with
      | f :: fs, true => addSplit ((f ++ [c]) :: fs) true cs
      | fs, _ => addSplit ([c] :: fs) true cs

/-- Adds characters to the last field. -/
def addKept (fields : List (List Char)) (opened : Bool) (cs : List Char) :
    List (List Char) × Bool :=
  match fields, opened with
  | f :: fs, true => ((f ++ cs) :: fs, true)
  | fs, _ => (cs :: fs, true)

/-- The fields of a word. -/
def State.fields (s : State) (w : Word) : List String :=
  let (fields, _) := w.foldl
    (fun (fields, opened) piece =>
      match piece with
      | .text cs | .kept cs => addKept fields opened cs
      | .value name true => addKept fields opened (s.value name).toList
      | .value name false => addSplit fields opened (s.value name).toList)
    (([] : List (List Char)), false)
  fields.reverse.map String.ofList

/-- A word as one text. -/
def State.text (s : State) (w : Word) : String :=
  String.ofList (w.flatMap fun piece =>
    match piece with
    | .text cs | .kept cs => cs
    | .value name _ => (s.value name).toList)

def State.set (s : State) (name value : String) : State :=
  { s with values := (name, value) :: s.values }

def State.say (s : State) (outlet : Outlet) (text : String) : State :=
  { s with written := s.written ++ [⟨s.time, outlet, Utf8.encode text⟩] }

/-- Reports what is wrong, under the name of the shell. -/
def State.complain (s : State) (text : String) (status : Nat) : State :=
  let name := s.arguments.headD ""
  { s.say .err s!"{name}: 1: {text}\n" with status }

/-- Where a stream leads. -/
inductive Route where
  | outlet (o : Outlet)
  | dropped
  | file (path : String) (more : Bool)

structure Routes where
  out : Route := .outlet .out
  err : Route := .outlet .err
  input : Option Inlet := none
  /-- What could not be opened. -/
  fault : Option String := none

/-- The place that a file for output is written to. -/
def outputRoute (path : String) (more : Bool) : Route :=
  if path = "/dev/null" then .dropped else .file path more

/-- Takes up a redirection. -/
def Routes.add (s : State) (r : Routes) (redirection : Redirection) : Routes :=
  match redirection with
  | .join stream target =>
    let route := if target = 2 then r.err else r.out
    if stream = 2 then { r with err := route } else { r with out := route }
  | .write stream more w =>
    let route := outputRoute (s.text w) more
    if stream = 2 then { r with err := route } else { r with out := route }
  | .read w =>
    match contentOf s.tree (s.text w) with
    | .ok input => { r with input := some input }
    | .error _ =>
      let path := s.text w
      { r with fault := r.fault <|> some s!"cannot open {path}: No such file" }

/-- The content of a file that has been written to. -/
def filed (t : FileTree) (path : String) (more : Bool) (bytes : Bytes) : FileTree :=
  let before := if more then (t.read path).toOption.getD [] else []
  t.add path (.file (before ++ bytes))

/-- Sends what was written through a stream where it leads. -/
def deliver (route : Route) (pieces : List Written) (s : State) : State :=
  match route with
  | .outlet o => { s with written := s.written ++ pieces.map fun w => { w with outlet := o } }
  | .dropped => s
  | .file path more => { s with tree := filed s.tree path more (pieces.flatMap (·.bytes)) }

/-- Runs under redirections. -/
def redirected (redirections : List Redirection) (run : State → State) (s : State) : State :=
  if redirections.isEmpty then run s
  else
    let routes := redirections.foldl (Routes.add s) {}
    match routes.fault with
    | some text => s.complain text 2
    | none =>
      let after := run { s with written := [], inlet := routes.input.getD s.inlet }
      let back := { after with
        written := s.written, inlet := if routes.input.isSome then s.inlet else after.inlet }
      let part (o : Outlet) : List Written := after.written.filter (·.outlet == o)
      deliver routes.err (part .err) (deliver routes.out (part .out) back)

/-- Ends the shell. -/
def State.finish (s : State) (ending : Ending) : State := { s with ending := some ending }

/-- The signals by name. -/
def signalNumber? (name : String) : Option Nat :=
  match name.toNat? with
  | some n => some n
  | none =>
    [("HUP", 1), ("INT", 2), ("QUIT", 3), ("ILL", 4), ("TRAP", 5), ("ABRT", 6), ("BUS", 7),
     ("FPE", 8), ("KILL", 9), ("USR1", 10), ("SEGV", 11), ("USR2", 12), ("PIPE", 13), ("ALRM", 14),
     ("TERM", 15)].lookup name

/-- The signal of default. -/
def defaultSignal : Nat := 15

/-- Sends a signal, which ends the shell if it is sent to the shell itself. -/
def kill (arguments : List String) (s : State) : State :=
  let (signal, targets) := match arguments with
    | "-s" :: name :: rest => (signalNumber? name, rest)
    | first :: rest =>
      match first.toList with
      | '-' :: cs => (signalNumber? (String.ofList cs), rest)
      | _ => (some defaultSignal, arguments)
    | [] => (some defaultSignal, [])
  match signal with
  | some 0 => { s with status := 0 }
  | some n =>
    if targets.contains shellNumber then s.finish (.signal n) else { s with status := 1 }
  | none => { s with status := 2 }

/-- Reads one line and parts it among names; the last one takes the rest. -/
def readLine (names : List String) (s : State) : State :=
  let s := { s with time := max s.time s.inlet.ready }
  let line := s.inlet.bytes.takeWhile (· ≠ 10)
  let rest := s.inlet.bytes.drop line.length
  let s := { s with
    status := if rest.isEmpty then 1 else 0, inlet := { s.inlet with bytes := rest.drop 1 } }
  let strip (cs : List Char) : List Char :=
    ((cs.dropWhile isSeparator).reverse.dropWhile isSeparator).reverse
  let assign := fun (s, cs, left) name =>
    match left with
    | [] => (s.set name (String.ofList (strip cs)), [], [])
    | _ :: left =>
      let cs := cs.dropWhile isSeparator
      let first := cs.takeWhile (!isSeparator ·)
      (s.set name (String.ofList first), cs.drop first.length, left)
  (names.foldl assign (s, (Utf8.decode line).toList, names.tail)).1

/-- The escapes that the shell's own `echo` knows. -/
def echoEscapes : Escapes := { longOctal := true, stop := true }

/-- What the shell's own `printf` says to a remark. -/
def printfRemark (s : State) : Printf.Remark × String → State
  | (.notNumeric, word) => s.complain s!"printf: {word}: expected numeric value" 1
  | (.incomplete, word) => s.complain s!"printf: {word}: not completely converted" 1
  | (.excess, _) => s

/-- The shell's own `printf`. -/
def printf (arguments : List String) (s : State) : State :=
  match Tool.operands arguments with
  | [] => s.complain "printf: usage: printf format [arg ...]" 2
  | format :: arguments =>
    let (bytes, remarks) := Printf.print {} format arguments
    let s := remarks.foldl printfRemark { s with status := 0 }
    { s with written := s.written ++ [⟨s.time, .out, bytes⟩] }

/-- The shell's own `echo`. It always knows escapes. -/
def echo (arguments : List String) : Bytes :=
  let (bare, words) := match arguments with
    | "-n" :: rest => (true, rest)
    | words => (false, words)
  let (bytes, stopped) := unescape echoEscapes (" ".intercalate words).toList
  if bare || stopped then bytes else bytes ++ [10]

/-- Runs a tool. -/
def runTool (tool : Tool) (arguments : List String) (s : State) : State :=
  let run := tool { tree := s.tree, arguments, inlet := s.inlet, time := s.time }
  { s with
    written := s.written ++ run.written, time := run.finish, status := run.status
    inlet := run.inlet }

/-- Runs a shell with its arguments inside another one. -/
abbrev Nested := List String → State → State

/-- Why a program cannot be run, and the status for that. -/
def programFault (s : State) (name : String) : String × Nat :=
  if name.toList.contains '/' && (s.tree.look name).isOk then (s!"{name}: Permission denied", 126)
  else (s!"{name}: not found", 127)

/-- Runs a program by its name. `report` is put in front of what is wrong. -/
def runProgram (nested : Nested) (report name : String) (arguments : List String) (s : State) :
    State :=
  if name = "sh" then nested arguments s
  else
    match Tool.ofName? name with
    | some tool => runTool tool arguments s
    | none =>
      let (text, status) := programFault s name
      s.complain (report ++ text) status

/-- The status that an argument of `exit` asks for. -/
def exitStatus (s : State) (arguments : List String) : Nat :=
  match arguments with
  | n :: _ => (n.toNat?.getD 2) % 256
  | [] => s.status

/-- Runs a command of the shell's own, or a program. -/
def runWords (nested : Nested) (words : List String) (s : State) : State :=
  match words with
  | [] => { s with status := 0 }
  | ":" :: _ => { s with status := 0 }
  | "exit" :: arguments => s.finish (.status (exitStatus s arguments))
  | "kill" :: arguments => kill arguments { s with status := 0 }
  | "read" :: arguments => readLine (arguments.filter fun a => !a.toList.head?.any (· == '-')) s
  | "echo" :: arguments =>
    { s with written := s.written ++ [⟨s.time, .out, echo arguments⟩], status := 0 }
  | "printf" :: arguments => printf arguments s
  | "export" :: _ | "wait" :: _ => { s with status := 0 }
  | "shift" :: _ =>
    { s with arguments := s.arguments.take 1 ++ s.arguments.drop 2, status := 0 }
  | "exec" :: name :: arguments =>
    let s := runProgram nested "exec: " name arguments s
    s.finish (.status s.status)
  | name :: arguments => runProgram nested "" name arguments s

/-- Runs in a shell of its own, whose values and end stay inside; a signal ends both. -/
def enclosed (run : State → State) (s : State) : State :=
  let after := run s
  let back := { after with values := s.values, arguments := s.arguments, ending := none }
  match after.ending with
  | some (.status n) => { back with status := n }
  | some (.signal n) => { back with ending := some (.signal n) }
  | none => back

/-- Unless the shell has ended. -/
def unlessEnded (s : State) (run : State → State) : State :=
  if s.ending.isSome then s else run s

/-- Runs a script. -/
def eval (nested : Nested) : Script → State → State
  | .nothing, s => s
  | .simple assignments words redirections, s =>
    let fields := words.flatMap s.fields
    let s := if fields.isEmpty then { s with status := 0 } else s
    let s := assignments.foldl (fun s (name, w) => s.set name (s.text w)) s
    redirected redirections (runWords nested fields) s
  | .pipe first second, s =>
    let left := enclosed (eval nested first) { s with written := [] }
    let passed : Inlet := ⟨(left.written.filter (·.outlet == .out)).flatMap (·.bytes), left.time, false⟩
    let right := enclosed (eval nested second)
      { s with written := [], inlet := passed, tree := left.tree }
    { right with
      written := s.written ++ left.written.filter (·.outlet == .err) ++ right.written
      time := max left.time right.time, inlet := left.inlet
      ending := left.ending <|> right.ending
      busyUntil := max left.busyUntil right.busyUntil }
  | .both first second, s => unlessEnded (eval nested first s) (eval nested second)
  | .andThen first second, s =>
    unlessEnded (eval nested first s) fun s => if s.status = 0 then eval nested second s else s
  | .orElse first second, s =>
    unlessEnded (eval nested first s) fun s => if s.status = 0 then s else eval nested second s
  | .negate inner, s =>
    unlessEnded (eval nested inner s) fun s => { s with status := if s.status = 0 then 1 else 0 }
  | .background inner, s =>
    let after := enclosed (eval nested inner) { s with inlet := {} }
    { after with
      status := 0, time := s.time, inlet := s.inlet
      busyUntil := max after.busyUntil after.time }
  | .group inner own redirections, s =>
    redirected redirections (if own then enclosed (eval nested inner) else eval nested inner) s
  | .forEach name items body, s =>
    let start := { s with status := 0 }
    (items.flatMap s.fields).foldl
      (fun s item => unlessEnded s fun s => eval nested body (s.set name item)) start
  | .choose condition first second, s =>
    unlessEnded (eval nested condition s) fun s =>
      if s.status = 0 then eval nested first s
      else eval nested second { s with status := 0 }

/-- Runs the text of a script. -/
def runText (nested : Nested) (text : String) (s : State) : State :=
  match Script.ofText text with
  | .error flaw => s.complain s!"Syntax error: {flaw.message}" 2
  | .ok script => eval nested script s

/-- Runs the shell with its arguments: a script behind `-c`, or the name of a file with one. -/
def runArguments (nested : Nested) (arguments : List String) (s : State) : State :=
  match arguments with
  | "-c" :: text :: name :: rest => runText nested text { s with arguments := name :: rest }
  | ["-c", text] => runText nested text s
  | ["-c"] => { s.say .err "sh: 0: -c requires an argument\n" with status := 2 }
  | path :: rest =>
    match s.tree.read path with
    | .ok bytes => runText nested (Utf8.decode bytes) { s with arguments := path :: rest }
    | .error _ => { s.say .err s!"sh: 0: cannot open {path}: No such file\n" with status := 2 }
  | [] => runText nested (Utf8.decode s.inlet.bytes) { s with inlet := {} }

/-- Makes the end of an inner shell the status of the outer one. -/
def afterNested (outer inner : State) : State :=
  { inner with
    values := outer.values, arguments := outer.arguments, ending := none
    status := match inner.ending with
      | some (.status n) => n
      | some (.signal n) => 128 + n
      | none => inner.status }

/-- Shells may stand in one another up to a depth. -/
def run : Nat → List String → State → State
  | 0, _, s => s
  | depth + 1, arguments, s =>
    let nested (arguments : List String) (s : State) : State :=
      afterNested s (run depth arguments { s with arguments := ["sh"], values := [] })
    runArguments nested arguments s

/-- The greatest depth of shells in one another. -/
def depthLimit : Nat := 100

end BlockVault.Program.Shell
