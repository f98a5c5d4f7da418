import BlockVault.Proofs.Zstd.Outline

/-!
# The bounds of Zstandard blocks

A block comes to the same content in both modes (`unbounded`), and each mode has bounds of its own for it
(`Header.Allows`).

Main statement: `block_iff`.
-/

namespace BlockVault.Zstd

open Pull

/-- How many bytes a block takes behind the number that it begins with. -/
def bodyLength (word : Nat) : Nat := if word / 2 % 4 = 1 then 1 else word / 8

theorem bodyLength_of_repeated {word : Nat} (kind : word / 2 % 4 = 1) : bodyLength word = 1 := if_pos kind

theorem bodyLength_of_other {word : Nat} (kind : word / 2 % 4 ≠ 1) : bodyLength word = word / 8 := if_neg kind

/-- A block of a frame: the number that it begins with, and how far the content has come in front of it and
behind it. -/
structure Step where
  word : Nat
  before : Nat
  after : Nat

namespace Step

def kind (s : Step) : Nat := s.word / 2 % 4

def isLast (s : Step) : Bool := s.word % 2 == 1

def length (s : Step) : Nat := bodyLength s.word

end Step

/-- The content keeps to what the header says of its size. -/
def Header.Announces (h : Header) (size : Nat) : Prop := ∀ n, h.contentSize = some n → n = size

/-- The bounds of a block in each mode. At once no compressed block is empty, the content stays within the size
of one block, and behind the last block it has the size that is announced. In pieces an empty block has no
bounds; any other one is no longer than the limit of the frame and grows no further, and the same is asked
behind it if it is the last one. -/
def Header.Allows (h : Header) : Mode → Step → Prop
  | .whole, s => s.after ≤ blockCeiling ∧ (s.kind = 2 → s.length ≠ 0) ∧ (s.isLast = true → h.Announces s.after)
  | .pieces, s => s.length ≠ 0 →
    s.length ≤ h.blockLimit ∧ s.after ≤ h.ceiling .pieces s.before ∧ (s.isLast = true → h.Announces s.after)

/-- What a block comes to, under a ceiling that no mode has a higher one than (`ceiling_le`). -/
def contents (h : Header) (memory : Memory) (out : Array UInt8) (word : Nat) (body : Bytes) :
    Except Flaw (Memory × Array UInt8) :=
  match word / 2 % 4 with
  | 0 => .ok (memory, History.append out body)
  | 1 => .ok (memory, History.append out (List.replicate (word / 8) (body.headD 0)))
  | 2 =>
    if body = [] then .ok (memory, out)
    else if h.blockLimit < body.length then .error .blockSize
    else decodeBlock h.blockLimit (max blockCeiling (out.size + h.blockLimit)) memory body out
  | _ => .error .blockKind

/-- Behind a block. -/
def next (last : Bool) (h : Header) (memory : Memory) (out : Array UInt8) : Pull Flaw (State ⊕ Array UInt8) :=
  if last then suffix h out else return .inl (.blocks h memory out)

section Block

variable {mode : Mode} {h : Header} {memory : Memory} {out : Array UInt8} {bs rest : Bytes}
  {x : State ⊕ Array UInt8}

theorem behind_iff {last : Bool} : (behind last h memory out).feed bs = (.give x, rest) ↔
    (last = true → h.Announces out.size) ∧ (next last h memory out).feed bs = (.give x, rest) := by
  cases last with
  | false => exact ⟨fun fed => ⟨fun never => absurd never Bool.false_ne_true, fed⟩, fun both => both.2⟩
  | true =>
    refine feed_require_bind_iff.trans (and_congr_left fun _ => ?_)
    unfold Header.Announces
    cases h.contentSize <;> simp

theorem stored_iff {ceiling size : Nat} {out' : Array UInt8} :
    (stored ceiling size out).feed bs = (.give out', rest) ↔
      ∃ body, (take size : Pull Flaw Bytes).feed bs = (.give body, rest) ∧ out' = History.append out body ∧
        out'.size ≤ ceiling := by
  unfold stored
  split
  · next long =>
    constructor
    · intro fed
      obtain ⟨_, mid, -, refused⟩ := feed_bind_eq_give fed
      rw [feed_refuse] at refused
      cases refused
    · rintro ⟨body, taken, rfl, room⟩
      rw [History.size_append, length_of_take taken] at room
      omega
  · next room =>
    refine feed_bind_eq_give_iff.trans ?_
    constructor
    · rintro ⟨body, mid, taken, given⟩
      obtain ⟨rfl, rfl⟩ := feed_give_iff.1 given
      refine ⟨body, taken, rfl, ?_⟩
      rw [History.size_append, length_of_take taken]
      exact Nat.not_lt.1 room
    · rintro ⟨body, taken, rfl, -⟩
      exact ⟨body, rest, taken, feed_give _ _⟩

theorem repeated_iff {ceiling size : Nat} {out' : Array UInt8} :
    (repeated ceiling size out).feed bs = (.give out', rest) ↔
      ∃ body, (take 1 : Pull Flaw Bytes).feed bs = (.give body, rest) ∧
        out' = History.append out (List.replicate size (body.headD 0)) ∧ out'.size ≤ ceiling := by
  unfold repeated
  cases bs with
  | nil =>
    constructor
    · intro fed
      cases fed
    · rintro ⟨body, taken, -⟩
      cases taken
  | cons b bs =>
    have here : (take 1 : Pull Flaw Bytes).feed (b :: bs) = (.give [b], bs) := by
      show (Pull.give [b]).feed bs = _
      exact feed_give _ _
    show (require _ _ >>= fun _ => pure _ : Pull Flaw (Array UInt8)).feed bs = _ ↔ _
    rw [feed_require_bind_iff, here]
    constructor
    · rintro ⟨room, given⟩
      obtain ⟨rfl, rfl⟩ := feed_give_iff.1 given
      refine ⟨[b], rfl, rfl, ?_⟩
      rw [History.size_append, List.length_replicate]
      exact of_decide_eq_true room
    · rintro ⟨body, same, rfl, room⟩
      cases same
      rw [History.size_append, List.length_replicate] at room
      exact ⟨decide_eq_true room, feed_give_iff.2 ⟨rfl, rfl⟩⟩

theorem compressed_iff {ceiling size : Nat} {r : Memory × Array UInt8} :
    (compressed h ceiling size memory out).feed bs = (.give r, rest) ↔
      ∃ body, (take size : Pull Flaw Bytes).feed bs = (.give body, rest) ∧ size ≤ h.blockLimit ∧
        decodeBlock h.blockLimit ceiling memory body out = .ok r := by
  refine feed_bind_eq_give_iff.trans ?_
  constructor
  · rintro ⟨body, mid, taken, fed⟩
    obtain ⟨short, fed⟩ := feed_require_bind_iff.1 fed
    split at fed
    · next r' decoded =>
      obtain ⟨rfl, rfl⟩ := feed_give_iff.1 fed
      exact ⟨body, taken, of_decide_eq_true short, decoded⟩
    · rw [feed_refuse] at fed
      cases fed
  · rintro ⟨body, taken, short, decoded⟩
    refine ⟨body, rest, taken, feed_require_bind_iff.2 ⟨decide_eq_true short, ?_⟩⟩
    rw [decoded]
    exact feed_give _ _

/-- A compressed block has bytes. -/
theorem decodeBlock_nil (limit ceiling : Nat) : ∃ flaw, decodeBlock limit ceiling memory [] out = .error flaw :=
  ⟨_, rfl⟩

/-- The content of a compressed block comes under a ceiling if it comes under a higher one and has room. -/
theorem decodeBlock_eq_ok_iff {limit ceiling higher : Nat} {r : Memory × Array UInt8} (le : ceiling ≤ higher) :
    decodeBlock limit ceiling memory bs out = .ok r ↔
      decodeBlock limit higher memory bs out = .ok r ∧ r.2.size ≤ ceiling := by
  constructor
  · intro decoded
    obtain ⟨-, room, free⟩ := grows_decodeBlock limit memory bs out ceiling r decoded
    exact ⟨free higher (Nat.le_trans (room trivial) le), room trivial⟩
  · rintro ⟨decoded, room⟩
    exact (grows_decodeBlock limit memory bs out higher r decoded).2.2 ceiling room

theorem ceiling_le (mode : Mode) (h : Header) (size : Nat) :
    h.ceiling mode size ≤ max blockCeiling (size + h.blockLimit) := by
  unfold Header.ceiling
  split
  · exact Nat.le_max_left _ _
  · split <;> omega
  · exact Nat.le_max_right _ _

/-- A block behind its number. -/
def blockBody (mode : Mode) (h : Header) (memory : Memory) (out : Array UInt8) (word : Nat) :
    Pull Flaw (State ⊕ Array UInt8) :=
  let last := word % 2 == 1
  let size := word / 8
  let kind := word / 2 % 4
  let ceiling := h.ceiling mode out.size
  if mode = .pieces ∧ bodyLength word = 0 then next last h memory out
  else if kind = 0 then do behind last h memory (← stored ceiling size out)
  else if kind = 1 then do behind last h memory (← repeated ceiling size out)
  else do
    let (memory, out) ← compressed h ceiling size memory out
    behind last h memory out

theorem block_eq (mode : Mode) (h : Header) (memory : Memory) (out : Array UInt8) :
    block mode h memory out = (do
      let word ← number 3
      require (word / 2 % 4 != 3) .blockKind
      require (mode == .whole || bodyLength word ≤ h.blockLimit) .blockSize
      blockBody mode h memory out word) := rfl

/-- The bounds of a block that has some. -/
theorem allows_iff {s : Step} (bounded : ¬ (mode = .pieces ∧ s.length = 0)) :
    h.Allows mode s ↔ (mode == .whole || s.length ≤ h.blockLimit) = true ∧
      (s.kind = 2 → s.length ≠ 0) ∧ s.after ≤ h.ceiling mode s.before ∧
      (s.isLast = true → h.Announces s.after) := by
  cases mode with
  | whole =>
    constructor
    · rintro ⟨room, some, announced⟩
      exact ⟨rfl, some, room, announced⟩
    · rintro ⟨-, some, room, announced⟩
      exact ⟨room, some, announced⟩
  | pieces =>
    have some : s.length ≠ 0 := fun none => bounded ⟨rfl, none⟩
    constructor
    · intro allows
      obtain ⟨short, room, announced⟩ := allows some
      exact ⟨decide_eq_true short, fun _ => some, room, announced⟩
    · rintro ⟨short, -, room, announced⟩ -
      exact ⟨of_decide_eq_true short, room, announced⟩

section Body

variable {word : Nat} {r : Memory × Array UInt8}

/-- The content of a block comes to this, under a ceiling and out of so many bytes. -/
structure Fills (h : Header) (memory : Memory) (out : Array UInt8) (word ceiling length : Nat) (bs : Bytes)
    (r : Memory × Array UInt8) (rest : Bytes) : Prop where
  reads : ∃ body, (take length : Pull Flaw Bytes).feed bs = (.give body, rest) ∧
    contents h memory out word body = .ok r
  room : r.2.size ≤ ceiling
  some : word / 2 % 4 = 2 → length ≠ 0

theorem fills_stored {ceiling : Nat} (kind : word / 2 % 4 = 0) :
    Fills h memory out word ceiling (word / 8) bs r rest ↔
      r.1 = memory ∧ (stored ceiling (word / 8) out).feed bs = (.give r.2, rest) := by
  obtain ⟨memory', out'⟩ := r
  have content (body : Bytes) : contents h memory out word body = .ok (memory, History.append out body) := by
    simp only [contents, kind]
  rw [stored_iff]
  constructor
  · rintro ⟨⟨body, taken, filled⟩, room, -⟩
    obtain ⟨rfl, rfl⟩ := Prod.mk.inj (Except.ok.inj ((content body).symm.trans filled))
    exact ⟨rfl, body, taken, rfl, room⟩
  · rintro ⟨rfl, body, taken, rfl, room⟩
    exact ⟨⟨body, taken, content body⟩, room, by omega⟩

theorem fills_repeated {ceiling : Nat} (kind : word / 2 % 4 = 1) :
    Fills h memory out word ceiling 1 bs r rest ↔
      r.1 = memory ∧ (repeated ceiling (word / 8) out).feed bs = (.give r.2, rest) := by
  obtain ⟨memory', out'⟩ := r
  have content (body : Bytes) : contents h memory out word body =
      .ok (memory, History.append out (List.replicate (word / 8) (body.headD 0))) := by
    simp only [contents, kind]
  rw [repeated_iff]
  constructor
  · rintro ⟨⟨body, taken, filled⟩, room, -⟩
    obtain ⟨rfl, rfl⟩ := Prod.mk.inj (Except.ok.inj ((content body).symm.trans filled))
    exact ⟨rfl, body, taken, rfl, room⟩
  · rintro ⟨rfl, body, taken, rfl, room⟩
    exact ⟨⟨body, taken, content body⟩, room, by omega⟩

theorem fills_compressed {ceiling : Nat} (kind : word / 2 % 4 = 2)
    (le : ceiling ≤ max blockCeiling (out.size + h.blockLimit)) :
    Fills h memory out word ceiling (word / 8) bs r rest ↔
      (compressed h ceiling (word / 8) memory out).feed bs = (.give r, rest) := by
  have content {body : Bytes} (some : body ≠ []) : contents h memory out word body = .ok r ↔
      body.length ≤ h.blockLimit ∧
        decodeBlock h.blockLimit (max blockCeiling (out.size + h.blockLimit)) memory body out = .ok r := by
    simp only [contents, kind, if_neg some]
    split
    · next long =>
      constructor
      · intro none
        cases none
      · exact fun both => absurd both.1 (Nat.not_le.2 long)
    · next short => exact ⟨fun decoded => ⟨Nat.not_lt.1 short, decoded⟩, fun both => both.2⟩
  rw [compressed_iff]
  constructor
  · rintro ⟨⟨body, taken, filled⟩, room, some⟩
    have length := length_of_take taken
    have bytes : body ≠ [] := fun none => some kind (by rw [← length, none]; rfl)
    obtain ⟨short, decoded⟩ := (content bytes).1 filled
    exact ⟨body, taken, length ▸ short, (decodeBlock_eq_ok_iff le).2 ⟨decoded, room⟩⟩
  · rintro ⟨body, taken, short, decoded⟩
    have length := length_of_take taken
    have bytes : body ≠ [] := by
      rintro rfl
      obtain ⟨flaw, refused⟩ := @decodeBlock_nil memory out h.blockLimit ceiling
      rw [refused] at decoded
      cases decoded
    obtain ⟨decoded, room⟩ := (decodeBlock_eq_ok_iff le).1 decoded
    refine ⟨⟨body, taken, (content bytes).2 ⟨length ▸ short, decoded⟩⟩, room, fun _ none => bytes ?_⟩
    exact List.eq_nil_of_length_eq_zero (length.trans none)

/-- A block behind its number reads its content and goes on, unless it is empty and there are no bounds. -/
theorem blockBody_iff (known : word / 2 % 4 ≠ 3)
    (bounded : ¬ (mode = .pieces ∧ bodyLength word = 0)) :
    (blockBody mode h memory out word).feed bs = (.give x, rest) ↔
      ∃ r mid, Fills h memory out word (h.ceiling mode out.size) (bodyLength word) bs r mid ∧
        (behind (word % 2 == 1) h r.1 r.2).feed mid = (.give x, rest) := by
  unfold blockBody
  rw [if_neg bounded]
  have kinds : word / 2 % 4 = 0 ∨ word / 2 % 4 = 1 ∨ word / 2 % 4 = 2 := by omega
  rcases kinds with kind | kind | kind
  · rw [if_pos kind, bodyLength_of_other (by omega), feed_bind_eq_give_iff]
    simp only [fills_stored kind]
    constructor
    · rintro ⟨out', mid, grown, further⟩
      exact ⟨(memory, out'), mid, ⟨rfl, grown⟩, further⟩
    · rintro ⟨⟨_, out'⟩, mid, ⟨rfl, grown⟩, further⟩
      exact ⟨out', mid, grown, further⟩
  · rw [if_neg (by omega), if_pos kind, bodyLength_of_repeated kind, feed_bind_eq_give_iff]
    simp only [fills_repeated kind]
    constructor
    · rintro ⟨out', mid, grown, further⟩
      exact ⟨(memory, out'), mid, ⟨rfl, grown⟩, further⟩
    · rintro ⟨⟨_, out'⟩, mid, ⟨rfl, grown⟩, further⟩
      exact ⟨out', mid, grown, further⟩
  · rw [if_neg (by omega), if_neg (by omega), bodyLength_of_other (by omega), feed_bind_eq_give_iff]
    simp only [fills_compressed kind (ceiling_le mode h out.size)]

end Body

/-- A block without the bounds of a mode: its number, and the memory and the content behind it. -/
def unbounded (h : Header) (memory : Memory) (out : Array UInt8) : Pull Flaw (Nat × Memory × Array UInt8) := do
  let word ← number 3
  let body ← take (bodyLength word)
  match contents h memory out word body with
  | .ok r => return (word, r)
  | .error flaw => .refuse flaw

theorem unbounded_iff {word : Nat} {r : Memory × Array UInt8} :
    (unbounded h memory out).feed bs = (.give (word, r), rest) ↔
      ∃ start body, (number 3 : Pull Flaw Nat).feed bs = (.give word, start) ∧
        (take (bodyLength word) : Pull Flaw Bytes).feed start = (.give body, rest) ∧
        contents h memory out word body = .ok r := by
  constructor
  · intro fed
    obtain ⟨word', start, number, fed⟩ := feed_bind_eq_give fed
    obtain ⟨body, mid, taken, fed⟩ := feed_bind_eq_give fed
    split at fed
    · next r' content =>
      obtain ⟨same, rfl⟩ := feed_give_iff.1 fed
      obtain ⟨rfl, rfl⟩ := Prod.mk.inj same
      exact ⟨start, body, number, taken, content⟩
    · rw [feed_refuse] at fed
      cases fed
  · rintro ⟨start, body, number, taken, content⟩
    refine (feed_bind_of_give number).trans ((feed_bind_of_give taken).trans ?_)
    rw [content]
    exact feed_give _ _

theorem contents_of_empty {word : Nat} (known : word / 2 % 4 ≠ 3) (empty : bodyLength word = 0) :
    contents h memory out word [] = .ok (memory, out) := by
  have other : word / 2 % 4 ≠ 1 := by
    intro kind
    rw [bodyLength_of_repeated kind] at empty
    cases empty
  have kinds : word / 2 % 4 = 0 ∨ word / 2 % 4 = 2 := by omega
  unfold contents
  rcases kinds with kind | kind <;> rw [kind] <;> rfl

theorem known_of_contents {word : Nat} {body : Bytes} {r : Memory × Array UInt8}
    (content : contents h memory out word body = .ok r) : word / 2 % 4 ≠ 3 := by
  intro reserved
  rw [contents, reserved] at content
  cases content

/-- **A block in either mode** is the block without bounds, if the mode allows it. -/
theorem block_iff : (block mode h memory out).feed bs = (.give x, rest) ↔
    ∃ word r mid, (unbounded h memory out).feed bs = (.give (word, r), mid) ∧
      h.Allows mode ⟨word, out.size, r.2.size⟩ ∧
      (next (word % 2 == 1) h r.1 r.2).feed mid = (.give x, rest) := by
  rw [block_eq, feed_bind_eq_give_iff]
  simp only [feed_require_bind_iff, bne_iff_ne]
  -- in pieces an empty block has no bounds, so it is set apart in both directions
  constructor
  · rintro ⟨word, start, number, known, short, fed⟩
    by_cases empty : mode = .pieces ∧ bodyLength word = 0
    · rw [blockBody, if_pos empty] at fed
      have nothing : contents h memory out word [] = .ok (memory, out) := contents_of_empty known empty.2
      refine ⟨word, (memory, out), start, unbounded_iff.2 ⟨start, [], number, ?_, nothing⟩, ?_, fed⟩
      · rw [empty.2]
        exact feed_give _ _
      · rw [empty.1]
        exact fun some => absurd empty.2 some
    · obtain ⟨r, mid, filled, fed⟩ := (blockBody_iff known empty).1 fed
      obtain ⟨announced, further⟩ := behind_iff.1 fed
      obtain ⟨body, taken, content⟩ := filled.reads
      exact ⟨word, r, mid, unbounded_iff.2 ⟨start, body, number, taken, content⟩,
        (allows_iff empty).2 ⟨short, filled.some, filled.room, announced⟩, further⟩
  · rintro ⟨word, r, mid, read, allowed, further⟩
    obtain ⟨start, body, number, taken, content⟩ := unbounded_iff.1 read
    have known := known_of_contents content
    by_cases empty : mode = .pieces ∧ bodyLength word = 0
    · rw [empty.2] at taken
      obtain ⟨rfl, rfl⟩ := feed_give_iff.1 taken
      have same := Except.ok.inj ((contents_of_empty known empty.2).symm.trans content)
      subst same
      refine ⟨word, mid, number, known, ?_, ?_⟩
      · simp [empty.2]
      · rw [blockBody, if_pos empty]
        exact further
    · obtain ⟨short, some, room, announced⟩ := (allows_iff empty).1 allowed
      have filled : Fills h memory out word _ _ start r mid := ⟨⟨body, taken, content⟩, room, some⟩
      exact ⟨word, start, number, known, short,
        (blockBody_iff known empty).2 ⟨r, mid, filled, behind_iff.2 ⟨announced, further⟩⟩⟩

end Block

end BlockVault.Zstd
