/-!
# Flaws of Zstandard frames
-/

namespace BlockVault.Zstd

/-- What is wrong with a frame. -/
inductive Flaw where
  | frameKind
  | reservedBit
  | window
  | dictionary
  | blockKind
  | blockSize
  | literals
  | weights
  | distribution
  | bitStream
  | noTable
  | sequenceHeader
  | literalLength
  | offset
  | contentSize
  | contentCheck
  | stalled

/-- What a refusal says. -/
def Flaw.message : Flaw → String
  | .frameKind => "Unknown frame descriptor"
  | .reservedBit => "Unsupported frame parameter"
  | .window => "Frame requires too much memory for decoding"
  | .dictionary => "Dictionary mismatch"
  | .blockKind => "invalid block type"
  | .blockSize => "block larger than the maximum"
  | .literals => "invalid literals section"
  | .weights => "invalid weights of a prefix code"
  | .distribution => "invalid distribution"
  | .bitStream => "bit stream not used up"
  | .noTable => "no table to repeat"
  | .sequenceHeader => "invalid sequences section"
  | .literalLength => "more literals used than given"
  | .offset => "offset beyond the history"
  | .contentSize => "content size wrong"
  | .contentCheck => "Restored data doesn't match checksum"
  | .stalled => "no progress"

end BlockVault.Zstd
