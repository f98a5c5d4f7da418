/-!
# Shell words

`quote` writes a word so that a shell reads it back as one word, and `join` writes a command line.
`split` reads a command line by the rules of the shell: blanks part words, single quotes keep
everything, double quotes keep all but a few backslashes, and a backslash keeps the next character.
-/

namespace BlockVault.ShellWord

/-- A character that needs no quotes. -/
def isSafe (c : Char) : Bool := c.isAlphanum || "_@%+=:,./-".toList.contains c

/-- A word in single quotes; a single quote stands in double quotes between two quoted parts. -/
def enclose (cs : List Char) : List Char :=
  '\'' :: cs.flatMap (fun c => if c = '\'' then "'\"'\"'".toList else [c]) ++ ['\'']

def quote (s : String) : String :=
  if s.toList.isEmpty then "''"
  else if s.toList.all isSafe then s
  else String.ofList (enclose s.toList)

/-- A command line. -/
def join (words : List String) : String := " ".intercalate (words.map quote)

/-- What encloses the character that is read. -/
inductive Within where
  | gap
  | word
  | single
  | double
  deriving DecidableEq

/-- Characters that part words. -/
def isGap (c : Char) : Bool := c == ' ' || c == '\t' || c == '\n' || c == '\r'

/-- The words of a command line, none if a quote is not closed or a backslash ends it. `word` holds
the characters of the present word, the last one first. -/
def splitFrom : Within → List Char → List Char → Option (List (List Char))
  | .gap, _, [] => some []
  | .word, word, [] => some [word.reverse]
  | .single, _, [] => none
  | .double, _, [] => none
  | .single, word, c :: cs =>
    if c = '\'' then splitFrom .word word cs else splitFrom .single (c :: word) cs
  | .double, word, '\\' :: cs =>
    match cs with
    | [] => none
    | c :: cs =>
      if c = '"' || c = '\\' then splitFrom .double (c :: word) cs
      else splitFrom .double (c :: '\\' :: word) cs
  | .double, word, c :: cs =>
    if c = '"' then splitFrom .word word cs else splitFrom .double (c :: word) cs
  | within, word, '\\' :: cs =>
    match cs with
    | [] => none
    | c :: cs => splitFrom .word (c :: (if within = .gap then [] else word)) cs
  | within, word, c :: cs =>
    let word := if within = .gap then [] else word
    if c = '\'' then splitFrom .single word cs
    else if c = '"' then splitFrom .double word cs
    else if isGap c then
      if within = .gap then splitFrom .gap [] cs
      else (splitFrom .gap [] cs).map (word.reverse :: ·)
    else splitFrom .word (c :: word) cs

/-- The words of a command line. -/
def split (s : String) : Option (List String) :=
  (splitFrom .gap [] s.toList).map (·.map String.ofList)

end BlockVault.ShellWord
