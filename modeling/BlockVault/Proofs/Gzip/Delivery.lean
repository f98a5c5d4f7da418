import BlockVault.Codec.Gzip
import BlockVault.Proofs.Feed.Delivery
import BlockVault.Proofs.Pull

/-!
# Gzip archives over any delivery

Only the magic bytes of a member are read in one read. What is read before a later member is either put
back or read afresh, so among the pieces of a source the first one alone can cut such a read, and it does so
if it is a single byte in front of others (`StartsShort`). Every other delivery gives what a stream in
memory gives.

Main statement: `decode_delivered`.
-/

namespace BlockVault

/-- The first piece is one byte, with more bytes behind it. -/
def Source.StartsShort (s : Source) : Prop :=
  ∃ b rest, s.pieces.dropWhile List.isEmpty = [b] :: rest ∧ rest.flatten ≠ []

namespace Gzip

open Reading

/-- What comes of a deflate stream. -/
def inflated : Progress Deflate.Flaw Deflate.State (Array UInt8) × Bytes → Except Failure (Array UInt8 × Bytes)
  | (.ended out, rest) => .ok (out, rest)
  | (.refused flaw, _) => .error (.saying .deflate flaw.message)
  | (.waiting _, _) => .error early

/-- A deflate stream comes to what it is in one piece. -/
theorem comes_inflate {reads : Nat} {bs : Bytes} (enough : bs.length < reads)
    (progress : Progress Deflate.Flaw Deflate.State (Array UInt8)) :
    Comes Feed.Left Feed.Left (inflate reads progress) bs (inflated (Deflate.machine.feed progress bs)) := by
  induction reads generalizing progress bs with
  | zero => omega
  | succ reads ih =>
    intro f left
    obtain ⟨piece, rest, f', next, rfl, -, empty, left'⟩ := left.readNext pieceSize
    rw [inflate, run_read_bind next, Machine.feed_append]
    cases e : Deflate.machine.feed progress piece with
    | mk further excess =>
    cases further with
    | refused flaw => exact .error _ f'
    | ended out =>
      cases excess with
      | nil => exact .ok left'
      | cons b excess => exact ((Comes.putBack (b :: excess) rest).bind (.pure out _)) f' left'
    | waiting more =>
      cases piece with
      | nil =>
        obtain rfl := empty (by decide) rfl
        exact .error early f'
      | cons b piece =>
        refine ih ?_ (.waiting more) f' left'
        rw [List.length_append, List.length_cons] at enough
        omega

theorem fixed_inflate {reads : Nat} {bs : Bytes} (enough : bs.length < reads)
    (progress : Progress Deflate.Flaw Deflate.State (Array UInt8)) :
    Fixed Feed.Left Feed.Left (inflate reads progress) bs := by
  refine ⟨_, comes_inflate enough progress, fun out rest same => ?_⟩
  cases e : Deflate.machine.feed progress bs with
  | mk next excess =>
    rw [e] at same
    cases next with
    | ended out' =>
      cases same
      obtain ⟨cut, split, -⟩ := Machine.split_of_ended e
      rw [split, List.length_append]
      omega
    | refused flaw => cases same
    | waiting next => cases same

theorem fixed_skipOptions (flags : Nat) (bs : Bytes) :
    Fixed Feed.Left Feed.Left (skipOptions flags) bs := by
  have check (rest : Bytes) : Fixed Feed.Left Feed.Left (if flags.testBit 1 = true then do
      let _ ← exactly early 2
      pure ()
      else pure () : Reading Unit) rest :=
    .ite (.bind (.exactly early 2 rest) fun _ later _ => .pure () later) (.pure () rest)
  have comment (rest : Bytes) (few : rest.length ≤ bs.length) := Fixed.ite (c := flags.testBit 4 = true)
    (.bind (.skipText (Nat.lt_succ_of_le few)) fun _ later _ => check later) (check rest)
  have name (rest : Bytes) (few : rest.length ≤ bs.length) := Fixed.ite (c := flags.testBit 3 = true)
    (.bind (.skipText (Nat.lt_succ_of_le few)) fun _ later less => comment later (Nat.le_trans less few))
    (comment rest few)
  refine .get (fun f size => by rw [size]) ?_
  refine .ite (.bind (.exactly early 2 bs) fun size mid few => ?_) (name bs (Nat.le_refl _))
  exact .bind (.exactly early _ mid) fun _ rest less => name rest (Nat.le_trans less few)

theorem fixed_header (bs : Bytes) : Fixed Feed.Prompt Feed.Left header bs := by
  have start : Fixed Feed.Prompt Feed.Left (read 2) bs :=
    .of_comes (.readTwo bs) (List.drop_sublist 2 bs).length_le
  refine .bind start fun first mid _ => .ite (.pure false mid) (.ite (.thrown _ mid) ?_)
  refine .bind (.exactly early 8 mid) fun fields left _ => .ite (.thrown _ left) ?_
  exact .bind (fixed_skipOptions _ left) fun _ rest _ => .pure true rest

theorem fixed_trailer (content bs : Bytes) : Fixed Feed.Left Feed.Prompt (trailer content) bs := by
  refine .bind (.exactly early 8 bs) fun check left few => .ite (.thrown _ left) (.ite (.thrown _ left) ?_)
  exact .get (fun f size => by rw [size]) (.skipZeros (Nat.lt_succ_self left.length))

theorem fixed_members (n : Nat) (contents : List Bytes) (bs : Bytes) :
    Fixed Feed.Prompt Feed.Left (members n contents) bs := by
  induction n generalizing contents bs with
  | zero => exact .of_comes ((Comes.pure _ bs).weaken fun f prompt => prompt.1) (Nat.le_refl _)
  | succ n ih =>
    refine .bind (fixed_header bs) fun more body _ => .ite ?_ (.pure _ body)
    refine .get (fun f size => by rw [size]) ?_
    refine .bind (fixed_inflate (Nat.lt_succ_self body.length) _) fun out left _ => ?_
    exact .bind (fixed_trailer out.toList left) fun _ rest _ => ih _ rest

/-- What an archive comes to, over a source that does not cut the first two bytes. -/
theorem decode_of_prompt {s s' : Source} (prompt : Feed.Prompt ⟨s, none⟩ s.pieces.flatten)
    (prompt' : Feed.Prompt ⟨s', none⟩ s.pieces.flatten) : (decode s).1 = (decode s').1 := by
  have size : s'.size = s.size := by
    have left := prompt'.1.size
    simpa [Feed.size, Source.size] using left
  obtain ⟨r, comes, -⟩ := fixed_members (s.size + 1) [] s.pieces.flatten
  have here := (comes _ prompt).value
  have there := (comes _ prompt').value
  unfold decode
  rw [size]
  exact here.trans there.symm

end Gzip

namespace Source

variable {s : Source}

/-- A source that does not start with a single byte gives the first two bytes in one read. -/
theorem prompt_of_not_startsShort (sound : s.failure = none) (h : ¬ s.StartsShort) :
    Feed.Prompt ⟨s, none⟩ s.pieces.flatten := by
  refine ⟨Feed.left_of_source sound, ?_⟩
  have next : (Feed.readNext 2 ⟨s, none⟩).1 = (s.read 2).1 := by
    show (s.read 2).1.map ([] ++ ·) = (s.read 2).1
    cases (s.read 2).1 <;> rfl
  rw [next, ← flatten_dropWhile]
  unfold read finish
  cases e : s.pieces.dropWhile List.isEmpty with
  | nil => simp [sound]
  | cons p ps =>
    have some : p ≠ [] := by simpa using head_of_dropWhile e
    match p, some with
    | [b], _ =>
      have last : ps.flatten = [] := Classical.byContradiction fun more => h ⟨b, ps, e, more⟩
      simp [last]
    | b :: c :: p, _ => rfl

/-- A source that starts with a single byte gives that one in the first read. -/
theorem StartsShort.readNext (h : s.StartsShort) :
    ∃ b f, Feed.readNext 2 ⟨s, none⟩ = (.ok [b], f) := by
  obtain ⟨b, rest, e, -⟩ := h
  refine ⟨b, ⟨{ s with pieces := [] :: rest }, none⟩, ?_⟩
  unfold Feed.readNext read
  simp [e, Except.map]

theorem not_startsShort_ofBytes (bs : Bytes) : ¬ (ofBytes bs).StartsShort := by
  rintro ⟨b, rest, e, more⟩
  have one := (List.dropWhile_sublist (l := [bs]) List.isEmpty).length_le
  rw [show [bs].dropWhile List.isEmpty = [b] :: rest from e] at one
  have last : rest = [] := List.eq_nil_of_length_eq_zero (Nat.le_zero.1 (Nat.le_of_succ_le_succ one))
  exact more (by rw [last]; rfl)

end Source

namespace Gzip

open Reading

variable {s : Source}

/-- What is said of a member that does not begin with the magic bytes. -/
def foreign (start : Bytes) : Failure := bad ("Not a gzipped file (" ++ Text.quotedBytes start ++ ")")

/-- A first read that gives something else than the magic bytes is refused. -/
theorem decode_of_start {start : Bytes} {f : Feed} (next : Feed.readNext 2 ⟨s, none⟩ = (.ok start, f))
    (some : start ≠ []) (other : start ≠ magic) : (decode s).1 = .error (foreign start) := by
  have refused : header.run ⟨s, none⟩ = (.error (foreign start), f) := by
    rw [header, run_read_bind next, if_neg (by simpa using some), if_pos other]
    rfl
  unfold decode
  rw [members, run_bind, refused]

/-- A single byte is not taken for the beginning of a member. -/
theorem decode_of_startsShort (h : s.StartsShort) : ∃ b, (decode s).1 = .error (foreign [b]) := by
  obtain ⟨b, f, next⟩ := h.readNext
  exact ⟨b, decode_of_start next (List.cons_ne_nil b []) (by simp [magic])⟩

/-- **Any delivery of an archive** gives what a stream in memory gives, unless it starts with a single byte. -/
theorem decode_delivered (sound : s.failure = none) (whole : ¬ s.StartsShort) :
    (decode s).1 = (decode (.ofBytes s.pieces.flatten)).1 := by
  have memory := Source.prompt_of_not_startsShort rfl (Source.not_startsShort_ofBytes s.pieces.flatten)
  have flat : (Source.ofBytes s.pieces.flatten).pieces.flatten = s.pieces.flatten := List.append_nil _
  rw [flat] at memory
  exact decode_of_prompt (Source.prompt_of_not_startsShort sound whole) memory

end Gzip

end BlockVault
