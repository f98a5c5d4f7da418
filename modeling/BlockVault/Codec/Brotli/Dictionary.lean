import BlockVault.Bytes
import BlockVault.Text.Utf8
import BlockVault.Codec.Brotli.Words

/-!
# The dictionary

A distance beyond the history names a word of the dictionary and one of the forms that a word can
take: with text around it, without some bytes, or in capitals.
-/

namespace BlockVault.Brotli

namespace Dictionary

/-- The value of a hexadecimal digit in lower case. -/
def digit (c : Char) : Nat := if c.toNat < 58 then c.toNat - 48 else c.toNat - 87

/-- The bytes that pairs of digits stand for, behind those of `out`. -/
def unhex (out : ByteArray) : List Char → ByteArray
  | a :: b :: rest => unhex (out.push (UInt8.ofNat (16 * digit a + digit b))) rest
  | _ => out

/-- The words by length, from four bytes on. -/
def words : Array ByteArray :=
  (Words.all.map fun lines =>
    lines.foldl (fun out line => unhex out line.toList) ByteArray.empty).toArray

/-- The greatest length of a word. -/
def longest : Nat := 24

/-- The number of words of a length is a power of two, with this exponent. -/
def exponents : Array Nat :=
  #[0, 0, 0, 0, 10, 10, 11, 11, 10, 10, 10, 10, 10, 9, 9, 8, 7, 7, 8, 7, 7, 6, 6, 5, 5]

/-- A word by its length and its place among the words of that length. -/
def word (length place : Nat) : Bytes :=
  ((words.getD (length - 4) ByteArray.empty).extract (place * length) ((place + 1) * length)).toList

/-- What is done to a word. -/
inductive Change where
  | keep
  | dropLast (n : Nat)
  | drop (n : Nat)
  | raiseFirst
  | raiseAll

/-- A form of a word: the text in front of it, a change and the text behind it. -/
structure Form where
  before : String
  change : Change
  after : String

/-- All forms, by number. -/
def forms : Array Form := #[
  ⟨"", .keep, ""⟩, ⟨"", .keep, " "⟩, ⟨" ", .keep, " "⟩, ⟨"", .drop 1, ""⟩,
  ⟨"", .raiseFirst, " "⟩, ⟨"", .keep, " the "⟩, ⟨" ", .keep, ""⟩, ⟨"s ", .keep, " "⟩,
  ⟨"", .keep, " of "⟩, ⟨"", .raiseFirst, ""⟩, ⟨"", .keep, " and "⟩, ⟨"", .drop 2, ""⟩,
  ⟨"", .dropLast 1, ""⟩, ⟨", ", .keep, " "⟩, ⟨"", .keep, ", "⟩, ⟨" ", .raiseFirst, " "⟩,
  ⟨"", .keep, " in "⟩, ⟨"", .keep, " to "⟩, ⟨"e ", .keep, " "⟩, ⟨"", .keep, "\""⟩,
  ⟨"", .keep, "."⟩, ⟨"", .keep, "\">"⟩, ⟨"", .keep, "\n"⟩, ⟨"", .dropLast 3, ""⟩,
  ⟨"", .keep, "]"⟩, ⟨"", .keep, " for "⟩, ⟨"", .drop 3, ""⟩, ⟨"", .dropLast 2, ""⟩,
  ⟨"", .keep, " a "⟩, ⟨"", .keep, " that "⟩, ⟨" ", .raiseFirst, ""⟩, ⟨"", .keep, ". "⟩,
  ⟨".", .keep, ""⟩, ⟨" ", .keep, ", "⟩, ⟨"", .drop 4, ""⟩, ⟨"", .keep, " with "⟩,
  ⟨"", .keep, "'"⟩, ⟨"", .keep, " from "⟩, ⟨"", .keep, " by "⟩, ⟨"", .drop 5, ""⟩,
  ⟨"", .drop 6, ""⟩, ⟨" the ", .keep, ""⟩, ⟨"", .dropLast 4, ""⟩, ⟨"", .keep, ". The "⟩,
  ⟨"", .raiseAll, ""⟩, ⟨"", .keep, " on "⟩, ⟨"", .keep, " as "⟩, ⟨"", .keep, " is "⟩,
  ⟨"", .dropLast 7, ""⟩, ⟨"", .dropLast 1, "ing "⟩, ⟨"", .keep, "\n\t"⟩, ⟨"", .keep, ":"⟩,
  ⟨" ", .keep, ". "⟩, ⟨"", .keep, "ed "⟩, ⟨"", .drop 9, ""⟩, ⟨"", .drop 7, ""⟩,
  ⟨"", .dropLast 6, ""⟩, ⟨"", .keep, "("⟩, ⟨"", .raiseFirst, ", "⟩, ⟨"", .dropLast 8, ""⟩,
  ⟨"", .keep, " at "⟩, ⟨"", .keep, "ly "⟩, ⟨" the ", .keep, " of "⟩, ⟨"", .dropLast 5, ""⟩,
  ⟨"", .dropLast 9, ""⟩, ⟨" ", .raiseFirst, ", "⟩, ⟨"", .raiseFirst, "\""⟩, ⟨".", .keep, "("⟩,
  ⟨"", .raiseAll, " "⟩, ⟨"", .raiseFirst, "\">"⟩, ⟨"", .keep, "=\""⟩, ⟨" ", .keep, "."⟩,
  ⟨".com/", .keep, ""⟩, ⟨" the ", .keep, " of the "⟩, ⟨"", .raiseFirst, "'"⟩,
  ⟨"", .keep, ". This "⟩, ⟨"", .keep, ","⟩, ⟨".", .keep, " "⟩, ⟨"", .raiseFirst, "("⟩,
  ⟨"", .raiseFirst, "."⟩, ⟨"", .keep, " not "⟩, ⟨" ", .keep, "=\""⟩, ⟨"", .keep, "er "⟩,
  ⟨" ", .raiseAll, " "⟩, ⟨"", .keep, "al "⟩, ⟨" ", .raiseAll, ""⟩, ⟨"", .keep, "='"⟩,
  ⟨"", .raiseAll, "\""⟩, ⟨"", .raiseFirst, ". "⟩, ⟨" ", .keep, "("⟩, ⟨"", .keep, "ful "⟩,
  ⟨" ", .raiseFirst, ". "⟩, ⟨"", .keep, "ive "⟩, ⟨"", .keep, "less "⟩, ⟨"", .raiseAll, "'"⟩,
  ⟨"", .keep, "est "⟩, ⟨" ", .raiseFirst, "."⟩, ⟨"", .raiseAll, "\">"⟩, ⟨" ", .keep, "='"⟩,
  ⟨"", .raiseFirst, ","⟩, ⟨"", .keep, "ize "⟩, ⟨"", .raiseAll, "."⟩, ⟨"\u00a0", .keep, ""⟩,
  ⟨" ", .keep, ","⟩, ⟨"", .raiseFirst, "=\""⟩, ⟨"", .raiseAll, "=\""⟩, ⟨"", .keep, "ous "⟩,
  ⟨"", .raiseAll, ", "⟩, ⟨"", .raiseFirst, "='"⟩, ⟨" ", .raiseFirst, ","⟩,
  ⟨" ", .raiseAll, "=\""⟩, ⟨" ", .raiseAll, ", "⟩, ⟨"", .raiseAll, ","⟩, ⟨"", .raiseAll, "("⟩,
  ⟨"", .raiseAll, ". "⟩, ⟨" ", .raiseAll, "."⟩, ⟨"", .raiseAll, "='"⟩, ⟨" ", .raiseAll, ". "⟩,
  ⟨" ", .raiseFirst, "=\""⟩, ⟨" ", .raiseAll, "='"⟩, ⟨" ", .raiseFirst, "='"⟩]

/-- Makes the first letter a capital, and gives the length of that letter. The rule is exact for
letters of one byte; those of two and three bytes have one bit pattern exchanged. -/
def raiseOne : Bytes → Bytes × Bytes
  | [] => ([], [])
  | a :: rest =>
    if a < 0xC0 then ([if 97 ≤ a && a ≤ 122 then a ^^^ 32 else a], rest)
    else if a < 0xE0 then
      match rest with
      | b :: rest => ([a, b ^^^ 32], rest)
      | [] => ([a], [])
    else
      match rest with
      | b :: c :: rest => ([a, b, c ^^^ 5], rest)
      | rest => (a :: rest, [])

/-- Makes all letters capitals; the first argument bounds their number. -/
def raiseMany : Nat → Bytes → Bytes
  | 0, bs => bs
  | _ + 1, [] => []
  | n + 1, bs =>
    let (letter, rest) := raiseOne bs
    letter ++ raiseMany n rest

/-- Changes a word. -/
def Change.apply (c : Change) (bs : Bytes) : Bytes :=
  match c with
  | .keep => bs
  | .dropLast n => bs.take (bs.length - n)
  | .drop n => bs.drop n
  | .raiseFirst => (raiseOne bs).1 ++ (raiseOne bs).2
  | .raiseAll => raiseMany bs.length bs

/-- A word in a form. -/
def Form.apply (f : Form) (bs : Bytes) : Bytes :=
  Utf8.encode f.before ++ f.change.apply bs ++ Utf8.encode f.after

/-- The word of a length that an address means: the low bits are its place, the rest is its form. -/
def lookup? (length address : Nat) : Option Bytes :=
  if 4 ≤ length && length ≤ longest then
    let count := 1 <<< exponents.getD length 0
    match forms[address / count]? with
    | some form => some (form.apply (word length (address % count)))
    | none => none
  else none

end Dictionary

end BlockVault.Brotli
