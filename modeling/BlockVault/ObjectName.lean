import BlockVault.Journal
import BlockVault.Text.Line
import BlockVault.Bytes

/-!
# Names of stored objects

A backup has a name of ASCII letters, digits, underscores, points and hyphens. Its object key puts
a prefix before the name and a suffix behind it; `extract` finds the names in a listing of keys.
-/

namespace BlockVault

/-- A unique identifier of 128 bits. -/
structure Uuid where
  value : BitVec 128
  deriving DecidableEq

namespace Uuid

/-- The value of a hexadecimal digit in either case. -/
def digit? (c : Char) : Option Nat :=
  if c.isDigit then some (c.toNat - 48)
  else if 'a' ≤ c ∧ c ≤ 'f' then some (c.toNat - 87)
  else if 'A' ≤ c ∧ c ≤ 'F' then some (c.toNat - 55)
  else none

/-- Reads thirty-two digits; hyphens between them do not count. -/
def ofText? (s : String) : Option Uuid := do
  let digits ← (s.toList.filter (· != '-')).mapM digit?
  if digits.length = 32 then some ⟨BitVec.ofNat 128 (digits.foldl (16 * · + ·) 0)⟩ else none

/-- The thirty-two digits in lower case. -/
def digits (u : Uuid) : List Char := (Bytes.hex (Bytes.ofBigEndian 16 u.value.toNat)).toList

/-- The digits in groups of eight, four, four, four and twelve. -/
def text (u : Uuid) : String :=
  let ds := u.digits
  let group (start count : Nat) := String.ofList ((ds.drop start).take count)
  "-".intercalate [group 0 8, group 8 4, group 12 4, group 16 4, group 20 12]

end Uuid

namespace ObjectName

/-- A character that may begin a name. -/
def mayBegin (c : Char) : Bool := c.isAlphanum

/-- A character that may go on with a name. -/
def mayFollow (c : Char) : Bool := c.isAlphanum || c == '_' || c == '.' || c == '-'

/-- One character that begins a name and at least one that goes on with it. -/
def isName : List Char → Bool
  | c :: d :: cs => mayBegin c && (d :: cs).all mayFollow
  | _ => false

/-- A name; one line feed behind it does not count. -/
def isValid (s : String) : Bool :=
  let cs := s.toList
  isName (if cs.getLast? = some '\n' then cs.dropLast else cs)

/-- Digits of a unique identifier that a generated name carries. -/
def uniqueDigits : Nat := 16

/-- A new name that begins with a prefix. -/
def generate (start : String) (unique : Uuid) : String :=
  start ++ "-" ++ String.ofList (unique.digits.take uniqueDigits)

/-- What a key holds between a prefix and a suffix that it begins and ends with. They may overlap;
then nothing is left. -/
def between? (start finish key : List Char) : Option (List Char) :=
  if start.isPrefixOf key && finish.isSuffixOf key then
    let rest := key.drop start.length
    some (rest.take (rest.length - finish.length))
  else none

/-- Reads one key. A key that has the prefix and the suffix and no valid name is reported. -/
def extractOne (start finish key : String) : Logged (List String) := do
  match between? start.toList finish.toList (key.toList.dropWhile (· == '/')) with
  | none => return []
  | some cs =>
    let name := String.ofList cs
    if isValid name then return [name]
    else
      Logged.write .error .names
        s!"Invalid name {name} was processed to extract name with prefix {start} suffix {finish}"
      return []

/-- The names in a listing, in its order. Slashes in front of a key do not count. -/
def extract (start finish : String) : List String → Logged (List String)
  | [] => return []
  | key :: keys => do
    let found ← extractOne start finish key
    let more ← extract start finish keys
    return found ++ more

end ObjectName

/-- Two lists of one length where the second holds only members of the first. -/
def sameMembers (x y : List String) : Bool :=
  x.length == y.length && y.all x.contains

/-- An address in which a shell has written an ampersand by its code point: the first such escape
becomes an ampersand, and so does the first one without its backslash. -/
def unescapeAddress (address : String) : String :=
  let once := Text.replaceFirst "\\u0026".toList ['&'] address.toList
  String.ofList (Text.replaceFirst "u0026".toList ['&'] once)

end BlockVault
