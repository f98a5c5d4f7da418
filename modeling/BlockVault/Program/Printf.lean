import BlockVault.Program.Escape

/-!
# Formatted printing

A format is text with escapes and directives. Each directive takes the next argument; as long as
arguments are left, the format is used again. An argument that is no number counts as far as it is
one, and is remarked upon.
-/

namespace BlockVault.Program.Printf

/-- What a directive says: its flags, its least width, its precision and its letter. -/
structure Directive where
  flags : List Char := []
  width : Nat := 0
  precision : Option Nat := none
  letter : Char

/-- What is remarked upon an argument. -/
inductive Remark where
  | notNumeric
  | incomplete
  /-- Arguments are left that no directive takes. -/
  | excess
  deriving DecidableEq

def digitValue? (c : Char) : Option Nat := if c.isDigit then some (c.toNat - 48) else none

/-- The number of the leading decimal digits. -/
def decimal (cs : List Char) : Nat := (leading 10 digitValue? cs.length cs).value

def isFlag (c : Char) : Bool := "-0+ #".toList.contains c

/-- The directive behind a percent sign, and the rest. -/
def directive? (cs : List Char) : Option (Directive × List Char) :=
  let flags := cs.takeWhile isFlag
  let cs := cs.drop flags.length
  let width := cs.takeWhile Char.isDigit
  let cs := cs.drop width.length
  let (precision, cs) := match cs with
    | '.' :: cs => (some (decimal cs), cs.dropWhile Char.isDigit)
    | cs => (none, cs)
  match cs with
  | letter :: rest => some (⟨flags, decimal width, precision, letter⟩, rest)
  | [] => none

/-- Fills a field up to the width of its directive. -/
def Directive.pad (d : Directive) (bs : Bytes) : Bytes :=
  let gap := List.replicate (d.width - bs.length) (32 : UInt8)
  if d.flags.contains '-' then bs ++ gap else gap ++ bs

/-- A number with its sign, with zeros in front up to the precision or the width. -/
def Directive.number (d : Directive) (negative : Bool) (digits : List Char) : Bytes :=
  let sign : List Char :=
    if negative then ['-']
    else if d.flags.contains '+' then ['+']
    else if d.flags.contains ' ' then [' ']
    else []
  let size := match d.precision with
    | some n => n
    | none =>
      if d.flags.contains '0' && !d.flags.contains '-' then d.width - sign.length else 0
  let digits := List.replicate (size - digits.length) '0' ++ digits
  d.pad (Utf8.encode (String.ofList (sign ++ digits)))

/-- The whole number that characters begin with, its base told by its first digits. -/
def wholeOf (cs : List Char) : Leading :=
  match cs with
  | '0' :: 'x' :: rest => leading 16 hexDigit? rest.length rest
  | '0' :: 'X' :: rest => leading 16 hexDigit? rest.length rest
  | '0' :: rest =>
    let l := leading 8 octalDigit? rest.length rest
    { l with digits := l.digits + 1 }
  | cs => leading 10 digitValue? cs.length cs

/-- The whole number that an argument stands for. A character behind a quote stands for its
number. -/
def wholeValue (argument : String) : Int × Option Remark :=
  let remark (l : Leading) : Option Remark :=
    if l.digits = 0 then some .notNumeric else if l.rest.isEmpty then none else some .incomplete
  match argument.toList.dropWhile (· == ' ') with
  | [] => (0, none)
  | '\'' :: c :: _ => (c.toNat, none)
  | '"' :: c :: _ => (c.toNat, none)
  | '-' :: cs => let l := wholeOf cs; (-(l.value : Int), remark l)
  | '+' :: cs => let l := wholeOf cs; (l.value, remark l)
  | cs => let l := wholeOf cs; (l.value, remark l)

/-- Numbers without a sign are taken modulo this. -/
def wordSize : Int := 0x10000000000000000

/-- What a directive prints for an argument, whether nothing more is to be printed, and a remark. -/
def Directive.print (d : Directive) (known : Escapes) (argument : String) :
    Bytes × Bool × Option Remark :=
  let cut (bs : Bytes) : Bytes := match d.precision with | some n => bs.take n | none => bs
  let (value, remark) := wholeValue argument
  let unsigned (base : Nat) : List Char := Nat.toDigits base (value % wordSize).toNat
  match d.letter with
  | 's' => (d.pad (cut (Utf8.encode argument)), false, none)
  | 'c' => (d.pad ((Utf8.encode argument ++ [0]).take 1), false, none)
  | 'b' =>
    let (bs, stopped) := unescape { known with longOctal := true, stop := true } argument.toList
    (d.pad (cut bs), stopped, none)
  | 'd' | 'i' => (d.number (value < 0) (Nat.toDigits 10 value.natAbs), false, remark)
  | 'u' => (d.number false (unsigned 10), false, remark)
  | 'o' => (d.number false (unsigned 8), false, remark)
  | 'x' => (d.number false (unsigned 16), false, remark)
  | 'X' => (d.number false ((unsigned 16).map Char.toUpper), false, remark)
  | _ => ([], true, none)

/-- What passes over a format leave. -/
structure Progress where
  /-- What was printed, the last byte first. -/
  printed : Bytes := []
  arguments : List String
  stopped : Bool := false
  /-- Remarks with the arguments that they are upon, the last one first. -/
  remarks : List (Remark × String) := []

/-- One pass over a format. The first argument bounds its parts. -/
def pass (known : Escapes) : Nat → List Char → Progress → Progress
  | 0, _, p => p
  | _ + 1, [], p => p
  | n + 1, '%' :: '%' :: cs, p => pass known n cs { p with printed := 37 :: p.printed }
  | n + 1, '%' :: cs, p =>
    match directive? cs with
    | none => { p with printed := 37 :: p.printed }
    | some (d, rest) =>
      let argument := p.arguments.headD ""
      let (bs, stopped, remark) := d.print known argument
      let p : Progress :=
        { printed := bs.reverse ++ p.printed, arguments := p.arguments.tail, stopped
          remarks := (remark.map (·, argument)).toList ++ p.remarks }
      if stopped then p else pass known n rest p
  | n + 1, c :: cs, p =>
    let text := (c :: cs).takeWhile (· ≠ '%')
    let (bs, stopped) := unescape known text
    let p := { p with printed := bs.reverse ++ p.printed, stopped }
    if stopped then p else pass known n ((c :: cs).drop text.length) p

/-- Passes over a format until no arguments are left. The first argument bounds the passes. -/
def passes (known : Escapes) (format : List Char) : Nat → Progress → Progress
  | 0, p => p
  | n + 1, p =>
    let next := pass known (format.length + 1) format p
    if next.stopped || next.arguments.isEmpty then next
    else if next.arguments.length = p.arguments.length then
      { next with remarks := (.excess, next.arguments.headD "") :: next.remarks }
    else passes known format n next

/-- What a format prints with arguments, and the remarks in order. -/
def print (known : Escapes) (format : String) (arguments : List String) :
    Bytes × List (Remark × String) :=
  let p := passes known format.toList (arguments.length + 1) { arguments }
  (p.printed.reverse, p.remarks.reverse)

/-- A remark that makes the tool end with a status of failure. -/
def Remark.isFault (r : Remark) : Bool := r ≠ .excess

end BlockVault.Program.Printf
