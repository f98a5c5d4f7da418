/-!
# Formats

The formats that a vault knows from the start, in the order in which they are registered.
-/

namespace BlockVault

inductive Format where
  | gzip
  | lz4
  | zstd
  | brotli
  deriving DecidableEq

namespace Format

def all : List Format := [gzip, lz4, zstd, brotli]

/-- The name that a format is registered under. -/
def name : Format → String
  | gzip => "gzip"
  | lz4 => "lz4"
  | zstd => "zstd"
  | brotli => "brotli"

/-- The name that a format is reported by. -/
def title : Format → String
  | gzip => "Gzip"
  | lz4 => "LZ4"
  | zstd => "Zstandard"
  | brotli => "Brotli"

def description : Format → String
  | gzip => "Built-in gzip compressor"
  | lz4 => "LZ4 frame compressor"
  | zstd => "Zstandard compressor"
  | brotli => "Brotli compressor"

end Format

end BlockVault
