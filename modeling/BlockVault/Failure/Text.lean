import BlockVault.Failure
import BlockVault.Text.Quoted

/-!
# What failures say

The message, the code and the details of every failure, and its written form with all its parts.
-/

namespace BlockVault

/-- The text of a fault. A missing key is shown in quotes. -/
def Fault.message (f : Fault) : String :=
  match f.content with
  | .empty => ""
  | .text s => if f.kind = .key then Text.quoted s else s
  | .numbered number text path =>
    s!"[Errno {number}] {text}" ++ (match path with | some p => ": " ++ Text.quoted p | none => "")
  | .pair number text => s!"({number}, " ++ Text.quoted text ++ ")"

/-- A fault with what it was made from. -/
def Fault.written (f : Fault) : String :=
  let parts := match f.content with
    | .empty => ""
    | .text s => Text.quoted s
    | .numbered number text _ => s!"{number}, " ++ Text.quoted text
    | .pair number text => s!"{number}, " ++ Text.quoted text
  f.kind.label ++ "(" ++ parts ++ ")"

mutual

/-- The written form of a detail. -/
def Detail.written : Detail → String
  | .nothing => "None"
  | .flag true => "True"
  | .flag false => "False"
  | .number q => q.text
  | .text s => Text.quoted s
  | .list items => "[" ++ ", ".intercalate (Detail.writtenItems items) ++ "]"
  | .record fields => "\x7b" ++ ", ".intercalate (Detail.writtenFields fields) ++ "\x7d"

def Detail.writtenItems : List Detail → List String
  | [] => []
  | d :: ds => d.written :: Detail.writtenItems ds

def Detail.writtenFields : List (String × Detail) → List String
  | [] => []
  | (name, d) :: fs => (Text.quoted name ++ ": " ++ d.written) :: Detail.writtenFields fs

end

namespace Failure

/-- The name that a failure is reported by. -/
def label : Failure → String
  | .fault f => f.kind.label
  | .general none .. => "BackupStoreError"
  | .general (some .retryable) .. => "RetryableError"
  | .general (some .nonRetryable) .. => "NonRetryableError"
  | .unsupported .. => "UnsupportedAlgorithmError"
  | .undecodable .. => "DecodeError"
  | .mismatch .. => "IntegrityMismatchError"
  | .timeout .. => "ExecutionTimeoutError"
  | .execution .. => "ExecutionError"
  | .probe .. => "MountProbeError"
  | .wrongKind .. => "MountTypeMismatchError"
  | .cleanup .. => "MountCleanupError"

/-- The code that a failure is sorted by. -/
def code? : Failure → Option String
  | .fault _ => none
  | .general _ _ _ code _ => code
  | .unsupported .. => some "UNSUPPORTED_ALGORITHM"
  | .undecodable .. => some "DECODE_FAILED"
  | .mismatch .. => some "INTEGRITY_MISMATCH"
  | .timeout .. => some "EXECUTION_TIMEOUT"
  | .execution .. => some "EXECUTION_FAILED"
  | .probe .. => some "MOUNT_PROBE_FAILED"
  | .wrongKind .. => some "MOUNT_TYPE_MISMATCH"
  | .cleanup .. => some "MOUNT_CLEANUP_FAILED"

/-- What went wrong, without code and cause. -/
def description : Failure → String
  | .fault f => f.message
  | .general _ message .. => message
  | .unsupported method direction => s!"unsupported {direction} method: {method}"
  | .undecodable method _ => s!"failed to decompress {method} block"
  | .mismatch .. => "checksum verification failed for block"
  | .timeout command _ output => s!"timeout executing: {command}, output " ++ Text.quoted output
  | .execution command output status _ =>
    s!"failed to execute: {command}, output " ++ Text.quoted output ++
      (match status with | some n => s!", exit status {n}" | none => "")
  | .probe message .. => message
  | .wrongKind directory filesystem expected _ =>
    s!"Failed to unmount mountpoint {directory} ({filesystem}) for {expected} protocol"
  | .cleanup message .. => message

/-- What a failure is about. -/
def details : Failure → List (String × Detail)
  | .fault _ => []
  | .general _ _ _ _ details => details
  | .unsupported method direction => [("method", .text method), ("direction", .text direction)]
  | .undecodable method _ => [("method", .text method)]
  | .mismatch method expected actual =>
    [("method", .text method), ("expected", .text expected), ("actual", .text actual)]
  | .timeout command seconds _ => [("command", .text command), ("timeout", .number seconds)]
  | .execution command _ status _ =>
    [("command", .text command),
     ("returncode", match status with | some n => .number (.whole n) | none => .nothing)]
  | .probe _ directory _ => [("mount_dir", .text directory)]
  | .wrongKind directory filesystem expected _ =>
    [("mount_dir", .text directory), ("filesystem_type", .text filesystem),
     ("expected_kind", .text expected)]
  | .cleanup _ directory _ => [("mount_dir", .text directory)]

/-- A description with its code in front and its cause behind. -/
def compose (code : Option String) (description : String) (cause : Option (String × String)) :
    String :=
  (match code with | some c => s!"[{c}] " | none => "") ++ description ++
    (match cause with | some (label, message) => s!" (caused by {label}: {message})" | none => "")

/-- The whole message. -/
def message : Failure → String
  | .fault f => f.message
  | f@(.general _ _ (some c) _ _) => compose f.code? f.description (some (c.label, c.message))
  | f@(.undecodable _ (some c)) => compose f.code? f.description (some (c.label, c.message))
  | f@(.execution _ _ _ (some c)) => compose f.code? f.description (some (c.label, c.message))
  | f@(.probe _ _ (some c)) => compose f.code? f.description (some (c.label, c.message))
  | f@(.wrongKind _ _ _ (some c)) => compose f.code? f.description (some (c.label, c.message))
  | f@(.cleanup _ _ (some c)) => compose f.code? f.description (some (c.label, c.message))
  | f => compose f.code? f.description none

/-- A failure of the layer with all its parts, given the written form of its cause. -/
def composeWritten (f : Failure) (cause : String) : String :=
  f.label ++ "(message=" ++ Text.quoted f.description ++ ", cause=" ++ cause ++ ", error_code=" ++
    (match f.code? with | some c => Text.quoted c | none => "None") ++ ", details=" ++
    (Detail.record f.details).written ++ ")"

/-- The written form of a failure with all its parts. -/
def written : Failure → String
  | .fault f => f.written
  | f@(.general _ _ (some c) _ _) => f.composeWritten c.written
  | f@(.undecodable _ (some c)) => f.composeWritten c.written
  | f@(.execution _ _ _ (some c)) => f.composeWritten c.written
  | f@(.probe _ _ (some c)) => f.composeWritten c.written
  | f@(.wrongKind _ _ _ (some c)) => f.composeWritten c.written
  | f@(.cleanup _ _ (some c)) => f.composeWritten c.written
  | f => f.composeWritten "None"

end Failure

end BlockVault
