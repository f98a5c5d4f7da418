import BlockVault.Checksum
import BlockVault.FileTree

/-!
# Checksums of files in a tree
-/

namespace BlockVault.FileTree

/-- The checksum of the file at a path, by reads of a size that a caller gives, on a host with so much memory
for a read. -/
def checksum (t : FileTree) (memory : Nat) (path : String) (size : ReadSize) : Except Failure String :=
  match t.read path with
  | .error e => .error (e.failure path)
  | .ok content => File.checksumBy memory size content

end BlockVault.FileTree
