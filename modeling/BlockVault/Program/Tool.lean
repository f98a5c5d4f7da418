import BlockVault.FileTree
import BlockVault.Program.Printf
import BlockVault.Program.Stream
import BlockVault.Text.ShellWord

/-!
# Tools

The small programs of the host: what each writes for its arguments, its input and the files.
-/

namespace BlockVault.Program

/-- The content of a file, or what is wrong with it. Two devices give nothing and zeros. -/
def contentOf (t : FileTree) (path : String) : Except String Inlet :=
  if path = "/dev/null" then .ok {}
  else if path = "/dev/zero" then .ok { endless := true }
  else
    match t.read path with
    | .ok bytes => .ok { bytes }
    | .error e => .error e.text

/-- What a tool is started with. -/
structure Start where
  tree : FileTree
  arguments : List String
  inlet : Inlet := {}
  time : Nat := 0

/-- Runs a tool. -/
abbrev Tool := Start → Run

namespace Tool

/-- Does nothing and ends with a status. -/
def idle (status : Nat) : Tool := fun s => { finish := s.time, status, inlet := s.inlet }

/-- The tool's input is there. -/
def Start.readTime (s : Start) : Nat := max s.time s.inlet.ready

/-- The escapes that `echo` knows. -/
def echoEscapes : Escapes := { longOctal := true, hex := true, stop := true }

/-- The escapes that `printf` knows. -/
def printfEscapes : Escapes := { hex := true, unicode := true, quote := true, stop := true }

/-- A word in the quotes of reports. -/
def marked (word : String) : String := "‘" ++ word ++ "’"

/-- The words behind two dashes, which end options. -/
def operands : List String → List String
  | "--" :: words => words
  | words => words

/-- Letters of options in front of the words, and the words. -/
def options (letters : List Char) : List String → List Char × List String
  | [] => ([], [])
  | word :: rest =>
    match word.toList with
    | '-' :: c :: cs =>
      if (c :: cs).all letters.contains then
        let (found, words) := options letters rest
        (c :: cs ++ found, words)
      else ([], word :: rest)
    | _ => ([], word :: rest)

def echo : Tool := fun s =>
  let (found, words) := options ['n', 'e', 'E'] s.arguments
  let text := " ".intercalate words
  let escaped := (found.filter fun c => c == 'e' || c == 'E').getLast? == some 'e'
  let (bytes, stopped) :=
    if escaped then unescape echoEscapes text.toList else (Utf8.encode text, false)
  let bytes := if found.contains 'n' || stopped then bytes else bytes ++ [10]
  .writing .out bytes s.time s.inlet

/-- What `printf` says to a remark. -/
def printfRemark : Printf.Remark × String → String
  | (.notNumeric, word) => s!"printf: {marked word}: expected a numeric value\n"
  | (.incomplete, word) => s!"printf: {marked word}: value not completely converted\n"
  | (.excess, word) =>
    s!"printf: warning: ignoring excess arguments, starting with {marked word}\n"

def printf : Tool := fun s =>
  match operands s.arguments with
  | [] =>
    .saying .err "printf: missing operand\nTry 'printf --help' for more information.\n" s.time
      s.inlet 1
  | format :: arguments =>
    let (bytes, remarks) := Printf.print printfEscapes format arguments
    let said := Utf8.encode (String.join (remarks.map printfRemark))
    let written : List Written := [⟨s.time, .err, said⟩, ⟨s.time, .out, bytes⟩]
    let warned := remarks.all fun r => !r.1.isFault
    -- A warning comes behind the output and all other remarks in front of it.
    { written := if warned then written.reverse else written
      finish := s.time, status := if warned then 0 else 1, inlet := s.inlet }

/-- Nanoseconds in a text: digits with an optional point, and an optional unit. -/
def duration? (text : String) : Option Nat :=
  let cs := text.toList
  let whole := cs.takeWhile Char.isDigit
  let cs := cs.drop whole.length
  let (fraction, cs) := match cs with
    | '.' :: cs => (cs.takeWhile Char.isDigit, cs.dropWhile Char.isDigit)
    | cs => ([], cs)
  let value := Printf.decimal whole * 1000000000 +
    Printf.decimal (fraction.take 9) * Nat.pow 10 (9 - (fraction.take 9).length)
  if whole.isEmpty && fraction.isEmpty then none
  else
    match cs with
    | [] => some value
    | ['s'] => some value
    | ['m'] => some (60 * value)
    | ['h'] => some (3600 * value)
    | ['d'] => some (86400 * value)
    | _ => none

def sleep : Tool := fun s =>
  let tryHelp := "Try 'sleep --help' for more information.\n"
  match s.arguments.find? fun a => (duration? a).isNone with
  | some wrong =>
    .saying .err (s!"sleep: invalid time interval {marked wrong}\n" ++ tryHelp) s.time s.inlet 1
  | none =>
    if s.arguments.isEmpty then .saying .err ("sleep: missing operand\n" ++ tryHelp) s.time s.inlet 1
    else
      { finish := (s.arguments.filterMap duration?).foldl (· + ·) s.time, inlet := s.inlet }

/-- Runs on each of the named files, or on the input if there is none; a dash names the input. What
cannot be read is reported. -/
def overFiles (names : List String) (fault : String → String → String)
    (run : Option String → Inlet → Bytes × Inlet) : Tool := fun s =>
  let names := if names.isEmpty then ["-"] else names
  names.foldl
    (fun (r : Run) name =>
      if name = "-" then
        let time := max r.finish r.inlet.ready
        let (bytes, inlet) := run none r.inlet
        { r with written := r.written ++ [⟨time, .out, bytes⟩], finish := time, inlet }
      else
        match contentOf s.tree name with
        | .ok content =>
          { r with written := r.written ++ [⟨r.finish, .out, (run (some name) content).1⟩] }
        | .error text =>
          { r with
            written := r.written ++ [⟨r.finish, .err, Utf8.encode (fault name text)⟩], status := 1 })
    { finish := s.time, inlet := s.inlet }

def cat : Tool := fun s =>
  let (_, names) := options ['u'] s.arguments
  overFiles (operands names) (fun name text => s!"cat: {ShellWord.quote name}: {text}\n")
    (fun _ content => (content.bytes, { content with bytes := [] })) s

/-- The length of the first `lines` lines. -/
def linesLength : Nat → Bytes → Nat
  | 0, _ => 0
  | _ + 1, [] => 0
  | n + 1, b :: bs => 1 + (if b = 10 then linesLength n bs else linesLength (n + 1) bs)

/-- How much `head` takes: bytes or lines. -/
inductive Portion where
  | bytes (n : Nat)
  | lines (n : Nat)

/-- Reads the options of `head`, and the names behind them. -/
def headOptions : Portion → List String → Portion × List String
  | p, [] => (p, [])
  | p, word :: rest =>
    match word.toList with
    | ['-', 'c'] => match rest with
      | n :: rest => headOptions (.bytes (Printf.decimal n.toList)) rest
      | [] => (p, [])
    | ['-', 'n'] => match rest with
      | n :: rest => headOptions (.lines (Printf.decimal n.toList)) rest
      | [] => (p, [])
    | '-' :: 'c' :: cs => headOptions (.bytes (Printf.decimal cs)) rest
    | '-' :: 'n' :: cs => headOptions (.lines (Printf.decimal cs)) rest
    | '-' :: c :: cs =>
      if c.isDigit then headOptions (.lines (Printf.decimal (c :: cs))) rest
      else (p, word :: rest)
    | _ => (p, word :: rest)

def head : Tool := fun s =>
  let (portion, names) := headOptions (.lines 10) s.arguments
  overFiles names (fun name text => s!"head: cannot open '{name}' for reading: {text}\n")
    (fun _ content =>
      match portion with
      | .bytes n => content.split n
      | .lines n => content.split (linesLength n content.bytes))
    s

/-- The characters of a set of `tr`. -/
def setOf : Nat → List Char → List UInt8 → List UInt8
  | 0, _, found => found.reverse
  | _ + 1, [], found => found.reverse
  | n + 1, '\\' :: c :: cs, found =>
    match escapeByte? c with
    | some b => setOf n cs (b :: found)
    | none =>
      if (octalDigit? c).isSome then
        let l := leading 8 octalDigit? 3 (c :: cs)
        setOf n l.rest (UInt8.ofNat l.value :: found)
      else setOf n cs ((bytesOf c).reverse ++ found)
  | n + 1, a :: '-' :: b :: cs, found =>
    if a ≤ b ∧ b.toNat < 128 then
      let span := (List.range (b.toNat - a.toNat + 1)).map fun i => UInt8.ofNat (a.toNat + i)
      setOf n cs (span.reverse ++ found)
    else setOf n ('-' :: b :: cs) ((bytesOf a).reverse ++ found)
  | n + 1, c :: cs, found => setOf n cs ((bytesOf c).reverse ++ found)

/-- What `tr` puts in the place of a byte: the byte at the same place of the second set, or its last
one. -/
def translate (first second : List UInt8) (b : UInt8) : UInt8 :=
  if first.contains b then
    match (first.zip (List.range first.length)).reverse.lookup b with
    | some i => second.getD i (second.getLast?.getD b)
    | none => b
  else b

def tr : Tool := fun s =>
  let set (text : String) : List UInt8 := setOf (text.length + 1) text.toList []
  let apply (f : Bytes → Bytes) : Run :=
    .writing .out (f s.inlet.bytes) (Start.readTime s) { s.inlet with bytes := [] }
  match s.arguments with
  | ["-d", first] => apply fun bs => bs.filter fun b => !(set first).contains b
  | [first, second] =>
    let (first, second) := (set first, set second)
    apply fun bs => bs.map (translate first second)
  | [first] =>
    .saying .err
      (s!"tr: missing operand after {marked first}\nTwo strings must be given when translating.\n" ++
        "Try 'tr --help' for more information.\n")
      s.time s.inlet 1
  | _ =>
    .saying .err "tr: missing operand\nTry 'tr --help' for more information.\n" s.time s.inlet 1

/-- One step of the check value of `cksum`: a byte, high bit first. -/
def sumStep (crc : UInt32) (b : UInt8) : UInt32 :=
  (List.range 8).foldl
    (fun c _ => if c &&& 0x80000000 ≠ 0 then (c <<< 1) ^^^ 0x04C11DB7 else c <<< 1)
    (crc ^^^ (b.toUInt32 <<< 24))

/-- The bytes of a length, low byte first, without zeros at the end. -/
def lengthBytes (n : Nat) : Bytes :=
  if n = 0 then [] else UInt8.ofNat n :: lengthBytes (n / 256)

/-- The check value of `cksum`, taken over the content and its length. -/
def checkValue (content : Bytes) : UInt32 :=
  ~~~((content ++ lengthBytes content.length).foldl sumStep 0)

def cksum : Tool := fun s =>
  overFiles s.arguments (fun name text => s!"cksum: {ShellWord.quote name}: {text}\n")
    (fun name content =>
      let text := s!"{(checkValue content.bytes).toNat} {content.bytes.length}"
      let text := match name with | some name => text ++ " " ++ name | none => text
      (Utf8.encode (text ++ "\n"), { content with bytes := [] }))
    s

/-- The tools by name. -/
def ofName? (name : String) : Option Tool :=
  match name with
  | "echo" => some echo
  | "printf" => some printf
  | "true" => some (idle 0)
  | "false" => some (idle 1)
  | "cat" => some cat
  | "sleep" => some sleep
  | "head" => some head
  | "tr" => some tr
  | "cksum" => some cksum
  | _ => none

end Tool

end BlockVault.Program
