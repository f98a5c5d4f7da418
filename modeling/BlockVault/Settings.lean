import BlockVault.Failure.Text
import BlockVault.Number.Reading
import BlockVault.Text.LowerCase

/-!
# Settings

The numbers and the codec name that the layer works with. `Settings.check` accepts only settings
that hold together; the presets do, and `Settings.ofEnvironment` reads them from variables.
-/

namespace BlockVault

structure Settings where
  /-- Seconds that a command may take. -/
  commandTimeout : Quantity := .real (.ofInt 60)
  /-- Seconds that forced unmounting may take. -/
  forceTimeout : Quantity := .real (.ofInt 30)
  /-- Bytes read from a command at a time. -/
  readSize : Quantity := .whole 4096
  /-- The codec of new blocks. -/
  method : String := "lz4"
  /-- Bytes read from a file at a time. -/
  pieceSize : Quantity := .whole 65536
  deriving DecidableEq

namespace Settings

/-- The settings that are numbers. -/
inductive Field where
  | commandTimeout
  | forceTimeout
  | readSize
  | pieceSize
  deriving DecidableEq

def Field.label : Field → String
  | .commandTimeout => "command_timeout"
  | .forceTimeout => "force_cleanup_timeout"
  | .readSize => "output_read_size"
  | .pieceSize => "checksum_chunk_size"

def get (s : Settings) : Field → Quantity
  | .commandTimeout => s.commandTimeout
  | .forceTimeout => s.forceTimeout
  | .readSize => s.readSize
  | .pieceSize => s.pieceSize

/-- Why settings are refused. -/
inductive Refusal where
  | tooLarge
  | notFinite (field : Field)
  | notPositive (field : Field)
  | forceExceedsCommand
  | noMethod
  | methodNotLower (method : String)
  | notNumber (key value : String)
  deriving DecidableEq

def Refusal.message : Refusal → String
  | .tooLarge => "int too large to convert to float"
  | .notFinite field => field.label ++ " must be a finite number of seconds"
  | .notPositive field => field.label ++ " must be positive"
  | .forceExceedsCommand => "force_cleanup_timeout cannot exceed command_timeout"
  | .noMethod => "default_compression_method cannot be empty"
  | .methodNotLower method => "Invalid default_compression_method: " ++ method
  | .notNumber key value =>
    key ++ " must be a number of seconds, got " ++ Text.quoted value

/-- A number beyond the floating-point range is an overflow, everything else a wrong value. -/
def Refusal.failure (r : Refusal) : Failure :=
  .saying (if r = .tooLarge then .overflow else .value) r.message

/-- Refuses a setting that is not finite. -/
def requireFinite (s : Settings) (field : Field) : Except Refusal Unit :=
  match (s.get field).isFinite with
  | .error _ => .error .tooLarge
  | .ok false => .error (.notFinite field)
  | .ok true => .ok ()

/-- Refuses a setting that is zero or less. -/
def requirePositive (s : Settings) (field : Field) : Except Refusal Unit :=
  if (s.get field).le (.whole 0) then .error (.notPositive field) else .ok ()

/-- Refuses settings that do not hold together; the first fault found counts. -/
def check (s : Settings) : Except Refusal Settings := do
  s.requireFinite .commandTimeout
  s.requireFinite .forceTimeout
  s.requirePositive .commandTimeout
  s.requirePositive .forceTimeout
  if s.commandTimeout.lt s.forceTimeout then throw .forceExceedsCommand
  s.requirePositive .readSize
  s.requirePositive .pieceSize
  if s.method = "" then throw .noMethod
  if s.method ≠ Text.lower s.method then throw (.methodNotLower s.method)
  return s

/-- Commands give up after five seconds, forced unmounting after two. -/
def fastFail : Settings :=
  ⟨.real (.ofInt 5), .real (.ofInt 2), .whole 4096, "lz4", .whole 65536⟩

/-- Long times, large reads, and the most widely read format. -/
def slowNetwork : Settings :=
  ⟨.real (.ofInt 300), .real (.ofInt 120), .whole 65536, "gzip", .whole 65536⟩

/-- The settings of a name. -/
def preset? (name : String) : Option Settings :=
  if name = "default" then some {}
  else if name = "fast_fail" then some fastFail
  else if name = "slow_network" then some slowNetwork
  else none

/-- Variables and their values. -/
abbrev Environment := List (String × String)

/-- The value of a variable; an empty one counts as none. -/
def Environment.value? (env : Environment) (key : String) : Option String :=
  (env.lookup key).filter (· ≠ "")

def commandVariable : String := "BACKUPSTORE_CMD_TIMEOUT"
def forceVariable : String := "BACKUPSTORE_FORCE_CLEANUP_TIMEOUT"
def methodVariable : String := "BACKUPSTORE_COMPRESSION_METHOD"

/-- The number that a variable holds. -/
def readSeconds (env : Environment) (key : String) : Except Refusal (Option Quantity) :=
  match env.value? key with
  | none => .ok none
  | some value =>
    match Binary64.ofText? value with
    | some x => .ok (some (.real x))
    | none => .error (.notNumber key value)

/-- The settings that the environment asks for. A time for commands alone also bounds the time for
forced unmounting. -/
def ofEnvironment (env : Environment) : Except Refusal Settings := do
  let stock : Settings := {}
  let command ← readSeconds env commandVariable
  let force ← readSeconds env forceVariable
  let force := match force, command with
    | some f, _ => f
    | none, some c => stock.forceTimeout.min c
    | none, none => stock.forceTimeout
  let method := match env.value? methodVariable with
    | some value => Text.lower (String.ofList (Text.strip value.toList))
    | none => stock.method
  check { stock with
    commandTimeout := command.getD stock.commandTimeout, forceTimeout := force, method }

end Settings

end BlockVault
