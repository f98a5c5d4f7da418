import BlockVault.Number.Quantity

/-!
# Failures

What can go wrong is a `Failure`. A `Fault` comes from below, from the system, a library or the
caller's own code, and has a kind out of a hierarchy. The other failures are this layer's own; each
is either worth a new attempt or not, and may carry the failure that caused it.
-/

namespace BlockVault

/-- The kinds of faults. -/
inductive Fault.Kind where
  | exception
  | arithmetic | floatingPoint | overflow | zeroDivision
  | assertion | attributeAccess | buffer | endOfFile
  | importing | moduleNotFound
  | lookup | index | key
  | memory
  | name | unboundLocal
  | system | badArchive | blocking | childProcess
  | connection | brokenPipe | connectionAborted | connectionRefused | connectionReset
  | fileExists | fileNotFound | interrupted | isDirectory | notDirectory | permission
  | processLookup | timedOut
  | reference
  | runtime | notImplemented | recursion | registryFrozen
  | stopIteration | stopAsyncIteration
  | syntaxFault | indentation | tab
  | internal
  | type
  | value | unicode | unicodeDecode | unicodeEncode | unicodeTranslate
  | warning
  | deflate | brotli | zstd
  deriving DecidableEq

namespace Fault.Kind

/-- The kind directly above. -/
def parent? : Fault.Kind → Option Fault.Kind
  | exception => none
  | floatingPoint | overflow | zeroDivision => some arithmetic
  | moduleNotFound => some importing
  | index | key => some lookup
  | unboundLocal => some name
  | badArchive | blocking | childProcess | connection | fileExists | fileNotFound | interrupted
  | isDirectory | notDirectory | permission | processLookup | timedOut => some system
  | brokenPipe | connectionAborted | connectionRefused | connectionReset => some connection
  | notImplemented | recursion | registryFrozen => some runtime
  | indentation => some syntaxFault
  | tab => some indentation
  | unicode => some value
  | unicodeDecode | unicodeEncode | unicodeTranslate => some unicode
  | _ => some exception

/-- Kinds above a kind in a chain of at most `n`, itself first. -/
def chain : Nat → Fault.Kind → List Fault.Kind
  | 0, k => [k]
  | n + 1, k => k :: (match k.parent? with | some p => chain n p | none => [])

/-- A kind and all kinds above it. -/
def ancestors (k : Fault.Kind) : List Fault.Kind := chain 4 k

/-- Whether a kind is another one or stands below it. -/
def isA (k above : Fault.Kind) : Bool := k.ancestors.contains above

/-- The name that a kind is reported by. -/
def label : Fault.Kind → String
  | exception => "Exception"
  | arithmetic => "ArithmeticError"
  | floatingPoint => "FloatingPointError"
  | overflow => "OverflowError"
  | zeroDivision => "ZeroDivisionError"
  | assertion => "AssertionError"
  | attributeAccess => "AttributeError"
  | buffer => "BufferError"
  | endOfFile => "EOFError"
  | importing => "ImportError"
  | moduleNotFound => "ModuleNotFoundError"
  | lookup => "LookupError"
  | index => "IndexError"
  | key => "KeyError"
  | memory => "MemoryError"
  | name => "NameError"
  | unboundLocal => "UnboundLocalError"
  | system => "OSError"
  | badArchive => "BadGzipFile"
  | blocking => "BlockingIOError"
  | childProcess => "ChildProcessError"
  | connection => "ConnectionError"
  | brokenPipe => "BrokenPipeError"
  | connectionAborted => "ConnectionAbortedError"
  | connectionRefused => "ConnectionRefusedError"
  | connectionReset => "ConnectionResetError"
  | fileExists => "FileExistsError"
  | fileNotFound => "FileNotFoundError"
  | interrupted => "InterruptedError"
  | isDirectory => "IsADirectoryError"
  | notDirectory => "NotADirectoryError"
  | permission => "PermissionError"
  | processLookup => "ProcessLookupError"
  | timedOut => "TimeoutError"
  | reference => "ReferenceError"
  | runtime => "RuntimeError"
  | notImplemented => "NotImplementedError"
  | recursion => "RecursionError"
  | registryFrozen => "RegistryFrozenError"
  | stopIteration => "StopIteration"
  | stopAsyncIteration => "StopAsyncIteration"
  | syntaxFault => "SyntaxError"
  | indentation => "IndentationError"
  | tab => "TabError"
  | internal => "SystemError"
  | type => "TypeError"
  | value => "ValueError"
  | unicode => "UnicodeError"
  | unicodeDecode => "UnicodeDecodeError"
  | unicodeEncode => "UnicodeEncodeError"
  | unicodeTranslate => "UnicodeTranslateError"
  | warning => "Warning"
  | deflate => "error"
  | brotli => "error"
  | zstd => "ZstdError"

/-- All kinds that a caller can name. -/
def named : List Fault.Kind :=
  [exception, arithmetic, floatingPoint, overflow, zeroDivision, assertion, attributeAccess, buffer,
   endOfFile, importing, moduleNotFound, lookup, index, key, memory, name, unboundLocal, system,
   badArchive, blocking, childProcess, connection, brokenPipe, connectionAborted,
   connectionRefused, connectionReset, fileExists, fileNotFound, interrupted, isDirectory,
   notDirectory, permission, processLookup, timedOut, reference, runtime, notImplemented,
   recursion, registryFrozen, stopIteration, stopAsyncIteration, syntaxFault, indentation, tab,
   internal, type, value, unicode, unicodeDecode, unicodeEncode, unicodeTranslate, warning, zstd]

/-- The kind of a label. Two more labels stand for system faults. -/
def ofLabel? (s : String) : Option Fault.Kind :=
  if s = "IOError" || s = "EnvironmentError" then some system
  else named.find? fun k => k.label == s

/-- The kind of a system fault with a number. -/
def ofNumber (n : Int) : Fault.Kind :=
  if n = 2 then fileNotFound
  else if n = 1 || n = 13 then permission
  else if n = 17 then fileExists
  else if n = 20 then notDirectory
  else if n = 21 then isDirectory
  else if n = 110 then timedOut
  else if n = 111 then connectionRefused
  else if n = 104 then connectionReset
  else if n = 103 then connectionAborted
  else if n = 32 || n = 108 then brokenPipe
  else if n = 11 || n = 114 || n = 115 then blocking
  else if n = 4 then interrupted
  else if n = 3 then processLookup
  else if n = 10 then childProcess
  else system

end Fault.Kind

/-- What a fault says about itself. -/
inductive Fault.Content where
  | empty
  | text (s : String)
  /-- A system fault: its number, its text and the path that it is about. -/
  | numbered (number : Int) (text : String) (path : Option String)
  /-- A number and a text that are reported as a pair. -/
  | pair (number : Int) (text : String)
  deriving DecidableEq

/-- Something that went wrong below this layer. -/
structure Fault where
  kind : Fault.Kind
  content : Fault.Content
  deriving DecidableEq

namespace Fault

/-- A fault with a text. -/
def saying (kind : Kind) (s : String) : Fault := ⟨kind, .text s⟩

/-- A system fault; a general one takes the kind of its number. -/
def system (kind : Kind) (number : Int) (text : String) (path : Option String) : Fault :=
  ⟨if kind = .system then Kind.ofNumber number else kind, .numbered number text path⟩

/-- A calculation without a result. -/
def ofArithmetic : ArithmeticFault → Fault
  | .tooLarge => .saying .overflow "int too large to convert to float"
  | .outOfRange => ⟨.overflow, .pair 34 "Numerical result out of range"⟩
  | .zeroToNegative => .saying .zeroDivision "0.0 cannot be raised to a negative power"
  | .unordered fraction =>
    .saying .type ("'<' not supported between instances of '" ++
      (if fraction then "float" else "int") ++ "' and 'complex'")

end Fault

/-- A value attached to a failure. -/
inductive Detail where
  | nothing
  | flag (b : Bool)
  | number (q : Quantity)
  | text (s : String)
  | list (items : List Detail)
  | record (fields : List (String × Detail))

/-- Whether a failure is worth a new attempt. -/
inductive Policy where
  | retryable
  | nonRetryable
  deriving DecidableEq

/-- Everything that can go wrong. -/
inductive Failure where
  | fault (f : Fault)
  /-- A failure of the layer without a kind of its own; with no policy it belongs to neither. -/
  | general (policy : Option Policy) (message : String) (cause : Option Failure)
      (code : Option String) (details : List (String × Detail))
  /-- No codec has the name that was asked for. -/
  | unsupported (method direction : String)
  /-- The compressed bytes are damaged. -/
  | undecodable (method : String) (cause : Option Failure)
  /-- The decoded block is not the one that was recorded. -/
  | mismatch (method expected actual : String)
  /-- A command took longer than it was given. -/
  | timeout (command : String) (seconds : Quantity) (output : String)
  /-- A command could not be started or did not succeed. -/
  | execution (command output : String) (status : Option Int) (cause : Option Failure)
  /-- It cannot be told whether something is mounted. -/
  | probe (message directory : String) (cause : Option Failure)
  /-- A mount of the wrong kind could not be cleaned up. -/
  | wrongKind (directory filesystem expected : String) (cause : Option Failure)
  /-- A mount point could not be unmounted or removed. -/
  | cleanup (message directory : String) (cause : Option Failure)

namespace Failure

/-- A fault of a kind with a text. -/
def saying (kind : Fault.Kind) (s : String) : Failure := .fault (.saying kind s)

/-- An argument that a caller may not give. -/
def invalid (s : String) : Failure := .saying .value s

def ofArithmetic (f : ArithmeticFault) : Failure := .fault (.ofArithmetic f)

/-- This layer's own failure, as opposed to a fault. -/
def isOwn : Failure → Bool
  | .fault _ => false
  | _ => true

/-- A fault of a kind or of one below it. -/
def isFault (kind : Fault.Kind) : Failure → Bool
  | .fault f => f.kind.isA kind
  | _ => false

/-- The policy of this layer's own failures. -/
def policy? : Failure → Option Policy
  | .fault _ => none
  | .general policy .. => policy
  | .undecodable .. => some .retryable
  | .timeout .. => some .retryable
  | _ => some .nonRetryable

def cause? : Failure → Option Failure
  | .general _ _ cause _ _ => cause
  | .undecodable _ cause => cause
  | .execution _ _ _ cause => cause
  | .probe _ _ cause => cause
  | .wrongKind _ _ _ cause => cause
  | .cleanup _ _ cause => cause
  | _ => none

end Failure

instance : Inhabited Detail := ⟨.nothing⟩

instance : Inhabited Failure := ⟨.fault ⟨.exception, .empty⟩⟩

end BlockVault
