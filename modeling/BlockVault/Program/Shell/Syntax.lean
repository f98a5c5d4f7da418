/-!
# Shell scripts

A script is read in two steps: characters become tokens, and tokens become a script. Quotes keep
characters from being read as operators or parted into words.
-/

namespace BlockVault.Program.Shell

/-- A piece of a word. -/
inductive Piece where
  | text (cs : List Char)
  /-- Text in quotes. -/
  | kept (cs : List Char)
  /-- The value of a name, in quotes or not. -/
  | value (name : String) (quoted : Bool)

abbrev Word := List Piece

inductive Token where
  | word (w : Word)
  | operator (s : String)
  /-- The number of a stream, in front of a redirection. -/
  | stream (n : Nat)

inductive Redirection where
  /-- What goes to the first stream goes where the second one goes. -/
  | join (stream target : Nat)
  | write (stream : Nat) (more : Bool) (path : Word)
  | read (path : Word)

inductive Script where
  | nothing
  | simple (assignments : List (String × Word)) (words : List Word)
      (redirections : List Redirection)
  | pipe (first second : Script)
  | both (first second : Script)
  | andThen (first second : Script)
  | orElse (first second : Script)
  | negate (s : Script)
  | background (s : Script)
  /-- A group, in a shell of its own or not. -/
  | group (s : Script) (own : Bool) (redirections : List Redirection)
  | forEach (name : String) (items : List Word) (body : Script)
  | choose (condition first second : Script)

/-- Why a script cannot be read. -/
inductive Flaw where
  | openQuote
  | unexpected (token : String)
  deriving DecidableEq

def Flaw.message : Flaw → String
  | .openQuote => "Unterminated quoted string"
  | .unexpected token => token ++ " unexpected"

/-- The end of the script, as a token that is not expected. -/
def endOfScript : Flaw := .unexpected "end of file"

def isNameStart (c : Char) : Bool := c.isAlpha || c == '_'
def isNameChar (c : Char) : Bool := c.isAlphanum || c == '_'

/-- Names of one character. -/
def isSpecialName (c : Char) : Bool := c.isDigit || "?$#@*!-".toList.contains c

/-- The name behind a dollar sign, and the rest. -/
def nameBehind? (cs : List Char) : Option (String × List Char) :=
  match cs with
  | '{' :: rest =>
    match rest.dropWhile (· ≠ '}') with
    | '}' :: more => some (String.ofList (rest.takeWhile (· ≠ '}')), more)
    | _ => none
  | c :: rest =>
    if isNameStart c then
      some (String.ofList ((c :: rest).takeWhile isNameChar), (c :: rest).dropWhile isNameChar)
    else if isSpecialName c then some (String.singleton c, rest)
    else none
  | [] => none

/-- Joins text to the last piece of a word, of which the last piece stands first. -/
def addText (cs : List Char) : Word → Word
  | .text before :: w => .text (before ++ cs) :: w
  | w => .text cs :: w

/-- The pieces of a part in double quotes, in front of which `w` stands, and the rest. `held` holds
the text of the present piece, the last character first. The first argument bounds the
characters. -/
def doubleQuoted : Nat → List Char → List Char → Word → Except Flaw (Word × List Char)
  | 0, _, _, _ => .error .openQuote
  | _ + 1, [], _, _ => .error .openQuote
  | _ + 1, '"' :: cs, held, w => .ok (.kept held.reverse :: w, cs)
  | n + 1, '\\' :: c :: cs, held, w =>
    if c = '"' ∨ c = '\\' ∨ c = '$' ∨ c = '`' then doubleQuoted n cs (c :: held) w
    else if c = '\n' then doubleQuoted n cs held w
    else doubleQuoted n cs (c :: '\\' :: held) w
  | n + 1, '$' :: cs, held, w =>
    match nameBehind? cs with
    | some (name, rest) => doubleQuoted n rest [] (.value name true :: .kept held.reverse :: w)
    | none => doubleQuoted n cs ('$' :: held) w
  | n + 1, c :: cs, held, w => doubleQuoted n cs (c :: held) w

/-- Characters that end a word. -/
def endsWord (c : Char) : Bool := " \t\n;&|<>()".toList.contains c

/-- The word that a text begins with, its last piece first, and the rest. The first argument bounds
the characters. -/
def wordFrom : Nat → List Char → Word → Except Flaw (Word × List Char)
  | 0, cs, w => .ok (w, cs)
  | _ + 1, [], w => .ok (w, [])
  | n + 1, '\'' :: cs, w =>
    match cs.dropWhile (· ≠ '\'') with
    | _ :: rest => wordFrom n rest (.kept (cs.takeWhile (· ≠ '\'')) :: w)
    | [] => .error .openQuote
  | n + 1, '"' :: cs, w => do
    let (w, rest) ← doubleQuoted (cs.length + 1) cs [] w
    wordFrom n rest w
  | n + 1, '\\' :: c :: cs, w => wordFrom n cs (if c = '\n' then w else .kept [c] :: w)
  | n + 1, '$' :: cs, w =>
    match nameBehind? cs with
    | some (name, rest) => wordFrom n rest (.value name false :: w)
    | none => wordFrom n cs (addText ['$'] w)
  | n + 1, c :: cs, w =>
    if endsWord c then .ok (w, c :: cs) else wordFrom n cs (addText [c] w)

/-- The operators, longer ones first. -/
def operators : List String :=
  ["&&", "||", ";;", ">>", ">&", "<&", ";", "&", "|", "(", ")", "<", ">", "\n"]

/-- The operator that a text begins with, and the rest. -/
def operatorAt? (cs : List Char) : Option (String × List Char) :=
  (operators.find? fun s => s.toList.isPrefixOf cs).map fun s => (s, cs.drop s.length)

/-- The number that a word stands for if it is one in front of a redirection. -/
def streamNumber? (w : Word) (rest : List Char) : Option Nat :=
  match w, rest with
  | [.text cs], c :: _ =>
    if (c == '<' || c == '>') && cs.all Char.isDigit then (String.ofList cs).toNat? else none
  | _, _ => none

/-- The tokens of a text. The first argument bounds the characters. -/
def tokensFrom : Nat → List Char → List Token → Except Flaw (List Token)
  | 0, _, found => .ok found.reverse
  | _ + 1, [], found => .ok found.reverse
  | n + 1, c :: cs, found =>
    if c = ' ' ∨ c = '\t' then tokensFrom n cs found
    else if c = '#' then tokensFrom n (cs.dropWhile (· ≠ '\n')) found
    else
      match operatorAt? (c :: cs) with
      | some (s, rest) => tokensFrom n rest (.operator s :: found)
      | none => do
        let (w, rest) ← wordFrom (cs.length + 2) (c :: cs) []
        match streamNumber? w rest with
        | some k => tokensFrom n rest (.stream k :: found)
        | none => tokensFrom n rest (.word w.reverse :: found)

/-- The word without quotes and values that a token is. -/
def Token.bare? : Token → Option String
  | .word [.text cs] => some (String.ofList cs)
  | _ => none

def Token.written : Token → String
  | .operator "\n" => "newline"
  | .operator s => "\"" ++ s ++ "\""
  | .stream n => toString n
  | t => (t.bare?.map fun s => "\"" ++ s ++ "\"").getD "word"

/-- Words that end a list where a command may begin. -/
def closers : List String := ["\x7d", "done", "do", "then", "else", "fi"]

/-- The rest behind the closing word of a list. -/
def expect (closer : String) (ts : List Token) : Except Flaw (List Token) :=
  match ts with
  | t :: rest =>
    if t.bare? = some closer then .ok rest
    else
      match t with
      | .operator s => if s = closer then .ok rest else .error (.unexpected t.written)
      | _ => .error (.unexpected t.written)
  | [] => .error endOfScript

/-- An assignment in front of a command. -/
def assignment? (w : Word) : Option (String × Word) :=
  match w with
  | .text cs :: more =>
    let name := cs.takeWhile isNameChar
    match name.head?, cs.drop name.length with
    | some c, '=' :: value =>
      if isNameStart c then
        some (String.ofList name, if value.isEmpty then more else .text value :: more)
      else none
    | _, _ => none
  | _ => none

/-- A redirection that tokens begin with, and the rest. -/
def redirection? (ts : List Token) : Option (Except Flaw (Redirection × List Token)) :=
  let of (stream : Option Nat) (s : String) (rest : List Token) :
      Option (Except Flaw (Redirection × List Token)) :=
    let build (f : Word → Except Flaw Redirection) : Except Flaw (Redirection × List Token) :=
      match rest with
      | .word w :: rest => (f w).map (·, rest)
      | t :: _ => .error (.unexpected t.written)
      | [] => .error endOfScript
    match s with
    | ">" => some (build fun w => .ok (.write (stream.getD 1) false w))
    | ">>" => some (build fun w => .ok (.write (stream.getD 1) true w))
    | "<" => some (build fun w => .ok (.read w))
    | ">&" =>
      some (build fun w =>
        match w with
        | [.text cs] =>
          match (String.ofList cs).toNat? with
          | some n => .ok (.join (stream.getD 1) n)
          | none => .error (.unexpected "word")
        | _ => .error (.unexpected "word"))
    | _ => none
  match ts with
  | .stream n :: .operator s :: rest => of (some n) s rest
  | .operator s :: rest => of none s rest
  | _ => none

/-- The redirections that tokens begin with. The first argument bounds them. -/
def redirections : Nat → List Token → Except Flaw (List Redirection × List Token)
  | 0, ts => .ok ([], ts)
  | n + 1, ts =>
    match redirection? ts with
    | none => .ok ([], ts)
    | some r => do
      let (first, rest) ← r
      let (others, rest) ← redirections n rest
      return (first :: others, rest)

/-- The parts of a simple command. -/
structure Parts where
  assignments : List (String × Word) := []
  words : List Word := []
  redirections : List Redirection := []

/-- Reads a simple command. The first argument bounds its parts. -/
def simpleFrom : Nat → List Token → Parts → Except Flaw (Parts × List Token)
  | 0, ts, p => .ok (p, ts)
  | n + 1, ts, p =>
    match redirection? ts with
    | some r => do
      let (r, rest) ← r
      simpleFrom n rest { p with redirections := p.redirections ++ [r] }
    | none =>
      match ts with
      | .word w :: rest =>
        match p.words, assignment? w with
        | [], some a => simpleFrom n rest { p with assignments := p.assignments ++ [a] }
        | _, _ => simpleFrom n rest { p with words := p.words ++ [w] }
      | _ => .ok (p, ts)

/-- The tokens behind line ends. -/
def skipLines (ts : List Token) : List Token :=
  ts.dropWhile fun t => match t with | .operator "\n" => true | _ => false

/-- The words up to the end of a line or a semicolon, and the rest. -/
def wordsUpToEnd : List Token → List Word × List Token
  | .word w :: rest => let (ws, rest) := wordsUpToEnd rest; (w :: ws, rest)
  | .operator ";" :: rest => ([], skipLines rest)
  | ts => ([], skipLines ts)

/-- No command begins here: the script ends, or a list does. -/
def endsList (ts : List Token) : Bool :=
  match ts with
  | [] => true
  | .operator ")" :: _ => true
  | t :: _ => match t.bare? with | some s => closers.contains s | none => false

mutual

/-- Reads commands up to the end of their list. -/
def list : Nat → List Token → Except Flaw (Script × List Token)
  | 0, ts => .ok (.nothing, ts)
  | n + 1, ts =>
    let ts := skipLines ts
    if endsList ts then .ok (.nothing, ts)
    else do
      let (first, rest) ← conditions n ts
      match rest with
      | .operator ";" :: rest | .operator "\n" :: rest => do
        let (others, rest) ← list n rest
        return (.both first others, rest)
      | .operator "&" :: rest => do
        let (others, rest) ← list n rest
        return (.both (.background first) others, rest)
      | [] => return (first, [])
      | t :: _ => if endsList rest then return (first, rest) else throw (.unexpected t.written)

/-- Reads commands that depend on one another. -/
def conditions : Nat → List Token → Except Flaw (Script × List Token)
  | 0, ts => .ok (.nothing, ts)
  | n + 1, ts => do
    let (first, rest) ← pipeline n ts
    moreConditions n first rest

def moreConditions : Nat → Script → List Token → Except Flaw (Script × List Token)
  | 0, s, ts => .ok (s, ts)
  | n + 1, s, ts =>
    match ts with
    | .operator "&&" :: rest => do
      let (next, rest) ← pipeline n (skipLines rest)
      moreConditions n (.andThen s next) rest
    | .operator "||" :: rest => do
      let (next, rest) ← pipeline n (skipLines rest)
      moreConditions n (.orElse s next) rest
    | _ => .ok (s, ts)

/-- Reads commands that pass their output on. -/
def pipeline : Nat → List Token → Except Flaw (Script × List Token)
  | 0, ts => .ok (.nothing, ts)
  | n + 1, ts =>
    match ts.head?.bind Token.bare? with
    | some "!" => do
      let (s, rest) ← pipeline n ts.tail
      return (.negate s, rest)
    | _ => do
      let (first, rest) ← command n ts
      match rest with
      | .operator "|" :: rest => do
        let (others, rest) ← pipeline n (skipLines rest)
        return (.pipe first others, rest)
      | _ => return (first, rest)

/-- Reads one command. -/
def command : Nat → List Token → Except Flaw (Script × List Token)
  | 0, ts => .ok (.nothing, ts)
  | _ + 1, [] => .error endOfScript
  | n + 1, .operator "(" :: rest => do
    let (s, rest) ← list n rest
    let (rs, rest) ← redirections n (← expect ")" rest)
    return (.group s true rs, rest)
  | n + 1, t :: rest =>
    match t.bare? with
    | some "\x7b" => do
      let (s, rest) ← list n rest
      let (rs, rest) ← redirections n (← expect "\x7d" rest)
      return (.group s false rs, rest)
    | some "for" =>
      match rest with
      | name :: word :: rest => do
        if word.bare? ≠ some "in" then throw (.unexpected word.written)
        let (items, rest) := wordsUpToEnd rest
        let (body, rest) ← list n (← expect "do" rest)
        let (rs, rest) ← redirections n (← expect "done" rest)
        return (.group (.forEach (name.bare?.getD "") items body) false rs, rest)
      | _ => throw endOfScript
    | some "if" => do
      let (condition, rest) ← list n rest
      let (first, rest) ← list n (← expect "then" rest)
      let (second, rest) ← match rest.head?.bind Token.bare? with
        | some "else" => list n rest.tail
        | _ => pure (.nothing, rest)
      return (.choose condition first second, ← expect "fi" rest)
    | some s =>
      if closers.contains s then throw (.unexpected t.written) else simple n (t :: rest)
    | none => simple n (t :: rest)

def simple : Nat → List Token → Except Flaw (Script × List Token)
  | 0, ts => .ok (.nothing, ts)
  | n + 1, ts => do
    let (p, rest) ← simpleFrom (ts.length + n) ts {}
    if p.words.isEmpty && p.assignments.isEmpty && p.redirections.isEmpty then
      throw (match rest with | t :: _ => .unexpected t.written | [] => endOfScript)
    return (.simple p.assignments p.words p.redirections, rest)

end

/-- The script of a text. -/
def Script.ofText (text : String) : Except Flaw Script := do
  let tokens ← tokensFrom (text.length + 1) text.toList []
  let (s, rest) ← list (6 * (tokens.length + 1)) tokens
  match rest with
  | [] => return s
  | t :: _ => throw (.unexpected t.written)

end BlockVault.Program.Shell
