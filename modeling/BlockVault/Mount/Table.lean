import BlockVault.Text.Line

/-!
# Mount tables

What is mounted where. A later entry for a directory hides an earlier one.
-/

namespace BlockVault.Mount

structure Entry where
  device : String
  mountPoint : String
  filesystemType : String
  options : List String
  deriving DecidableEq

namespace Entry

/-- An entry whose options stand in one text, with commas between them. -/
def ofFields (device mountPoint filesystemType options : String) : Entry :=
  ⟨device, mountPoint, filesystemType,
    if options = "" then [] else (Text.splitAt ',' options.toList).map String.ofList⟩

/-- The line that a listing of mounts has for an entry. -/
def line (e : Entry) : String :=
  e.device ++ " on " ++ e.mountPoint ++ " type " ++ e.filesystemType ++ " (" ++
    ",".intercalate e.options ++ ")"

end Entry

abbrev Table := List Entry

namespace Table

/-- The last entry for a directory. -/
def find? (t : Table) (mountPoint : String) : Option Entry :=
  t.reverse.find? (·.mountPoint == mountPoint)

end Table

/-- A line of a listing of mounts names the path between two spaces. -/
def isListed (listing path : String) : Bool :=
  (Text.lines listing.toList).any fun line => Text.occurs (' ' :: path.toList ++ [' ']) line

end BlockVault.Mount
