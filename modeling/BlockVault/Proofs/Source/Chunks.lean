import BlockVault.Proofs.ReadSize
import BlockVault.Proofs.Source

/-!
# Reading in chunks

A reading loop hands out what it reads until a read is empty or fails. Each read takes its bytes off the source,
so the loop ends for every source and every size (`iterates_iff`). By a size of one or more that the source
accepts it hands out `Source.reads`, and then the failure of the source. There are two ways to miss that: a
stream in memory accepts no size that does not fit an index, and a failure that says that there is nothing more to
come is taken for the end.

Main statement: `chunks_lose_nothing`.
-/

namespace BlockVault.Source

variable {s next : Source} {size : ReadSize} {n : Int} {bs : Bytes} {f : Failure} {c d : Chunks}

/-! ## One read -/

/-- What a read of any size gives, and what it leaves, are the bytes that there were. -/
theorem flatten_readBy (s : Source) (size : ReadSize) :
    (s.readBy size).1.toOption.getD [] ++ (s.readBy size).2.pieces.flatten = s.pieces.flatten := by
  unfold readBy
  cases s.accept size with
  | error f => rfl
  | ok n =>
    by_cases everything : n < 0
    · simp only [everything, if_true, readAll]
      cases s.failure with
      | none => exact List.append_nil _
      | some f => rfl
    · simp only [everything, if_false]
      exact flatten_read s n.toNat

theorem flatten_readBy_ok (h : s.readBy size = (.ok bs, next)) :
    bs ++ next.pieces.flatten = s.pieces.flatten := by
  have whole := flatten_readBy s size
  rwa [h] at whole

/-- A read that fails takes nothing. -/
theorem flatten_readBy_error (h : s.readBy size = (.error f, next)) :
    next.pieces.flatten = s.pieces.flatten := by
  have whole := flatten_readBy s size
  rwa [h] at whole

/-- A read that gives something leaves less. -/
theorem size_readBy_lt (some : bs ≠ []) (h : s.readBy size = (.ok bs, next)) : next.size < s.size := by
  have long := List.length_pos_iff.2 some
  unfold Source.size
  rw [← flatten_readBy_ok h, List.length_append]
  omega

/-! ## The loop -/

/-- The reading loop, read by read, and what it leaves. -/
inductive Iterates (size : ReadSize) : Source → Chunks → Prop
  | ended {s rest : Source} (read : s.readBy size = (.ok [], rest)) : Iterates size s ⟨[], none, rest⟩
  | failed {s rest : Source} {f : Failure} (read : s.readBy size = (.error f, rest)) :
    Iterates size s ⟨[], ending f, rest⟩
  | more {s next : Source} {bs : Bytes} {c : Chunks} (some : bs ≠ []) (read : s.readBy size = (.ok bs, next))
    (others : Iterates size next c) : Iterates size s ⟨bs :: c.pieces, c.failure, c.rest⟩

/-- A bound above the number of bytes never stops the loop. -/
theorem iterates_chunksFrom (size : ReadSize) (bound : Nat) (s : Source) (got : List Bytes)
    (enough : s.size < bound) :
    ∃ c, Iterates size s c ∧ chunksFrom size bound s got = ⟨got.reverse ++ c.pieces, c.failure, c.rest⟩ := by
  induction bound generalizing s got with
  | zero => omega
  | succ bound ih =>
    rw [chunksFrom]
    rcases read : s.readBy size with ⟨f | bs, next⟩
    · exact ⟨_, .failed read, by rw [List.append_nil]⟩
    · by_cases some : bs = []
      · subst some
        exact ⟨_, .ended read, by rw [List.append_nil]; rfl⟩
      · -- a read that goes on leaves fewer bytes, so the bound stays above them
        have less := size_readBy_lt some read
        obtain ⟨c, run, result⟩ := ih next (bs :: got) (by omega)
        refine ⟨_, .more some read run, ?_⟩
        simp only [List.isEmpty_iff, some, if_false]
        rw [result, List.reverse_cons, List.append_assoc, List.singleton_append]

theorem iterates_chunks (s : Source) (size : ReadSize) : Iterates size s (s.chunks size) := by
  obtain ⟨c, run, result⟩ := iterates_chunksFrom size (s.size + 1) s [] (Nat.lt_succ_self _)
  rw [chunks, result]
  exact run

/-- The loop goes one way only. -/
theorem Iterates.unique (run : Iterates size s c) (other : Iterates size s d) : c = d := by
  induction run generalizing d with
  | ended read =>
    cases other with
    | ended again => cases read.symm.trans again; rfl
    | failed again => cases read.symm.trans again
    | more some again _ => cases read.symm.trans again; exact absurd rfl some
  | failed read =>
    cases other with
    | ended again => cases read.symm.trans again
    | failed again => cases read.symm.trans again; rfl
    | more _ again _ => cases read.symm.trans again
  | more some read _ ih =>
    cases other with
    | ended again => cases read.symm.trans again; exact absurd rfl some
    | failed again => cases read.symm.trans again
    | more _ again others => cases read.symm.trans again; rw [ih others]

/-- The loop ends for every source and every size, and `chunks` is what it leaves. -/
theorem iterates_iff : Iterates size s c ↔ c = s.chunks size :=
  ⟨fun run => run.unique (iterates_chunks s size), fun same => same ▸ iterates_chunks s size⟩

/-- No byte is lost, and none is added, wherever the loop ends. -/
theorem Iterates.flatten (run : Iterates size s c) :
    c.pieces.flatten ++ c.rest.pieces.flatten = s.pieces.flatten := by
  induction run with
  | ended read => exact flatten_readBy_ok read
  | failed read => exact flatten_readBy_error read
  | more _ read _ ih => rw [List.flatten_cons, List.append_assoc, ih, flatten_readBy_ok read]

/-! ## Sizes of one or more -/

/-- A read may have this size. -/
def Admits (s : Source) (n : Int) : Prop := s.inMemory = true → n < ReadSize.limit

theorem readBy_of_admits (one : 1 ≤ n) (admitted : s.Admits n) : s.readBy (.whole n) = s.read n.toNat := by
  have accepted : s.accept (.whole n) = .ok n := by
    rw [accept]
    split
    · rename_i inMemory
      exact ReadSize.index_of_lt (by omega) (admitted inMemory)
    · rfl
  rw [readBy, accepted]
  simp only [if_neg (show ¬ n < 0 by omega)]

theorem readBy_of_oversized (inMemory : s.inMemory = true) (large : ReadSize.limit ≤ n) :
    s.readBy (.whole n) = (.error ReadSize.oversized, s) := by
  rw [readBy, accept, if_pos inMemory, ReadSize.index_of_le large]

theorem inMemory_read (s : Source) (n : Nat) : (s.read n).2.inMemory = s.inMemory := by
  unfold read
  cases s.pieces.dropWhile List.isEmpty with
  | nil => rfl
  | cons p ps => rfl

theorem finish_eq_ok (h : s.finish = .ok bs) : bs = [] ∧ s.failure = none := by
  unfold finish at h
  cases failure : s.failure with
  | none =>
    rw [failure] at h
    exact ⟨(Except.ok.inj h).symm, rfl⟩
  | some f =>
    rw [failure] at h
    cases h

theorem finish_eq_error (h : s.finish = .error f) : s.failure = some f := by
  unfold finish at h
  cases failure : s.failure with
  | none =>
    rw [failure] at h
    cases h
  | some g =>
    rw [failure] at h
    rw [Except.error.inj h]

/-- A read either gives the first of the reads and leaves a source of the others, or comes to what is behind the
last one. -/
theorem readBy_cases (one : 1 ≤ n) (admitted : s.Admits n) :
    (s.reads n.toNat = [] ∧ s.readBy (.whole n) = (s.finish, { s with pieces := [] })) ∨
    ∃ r rs next, s.reads n.toNat = r :: rs ∧ r ≠ [] ∧ s.readBy (.whole n) = (.ok r, next) ∧
      next.reads n.toNat = rs ∧ next.failure = s.failure ∧ next.Admits n := by
  have positive : 0 < n.toNat := by omega
  rw [readBy_of_admits one admitted]
  cases e : s.reads n.toNat with
  | nil => exact .inl ⟨rfl, read_of_reads_nil positive e⟩
  | cons r rs =>
    obtain ⟨next, here, others, failure⟩ := read_of_reads_cons positive e
    have some : r ≠ [] := (mem_reads positive (e ▸ List.mem_cons_self)).1
    have kept : next.inMemory = s.inMemory := by
      have same := inMemory_read s n.toNat
      rwa [here] at same
    refine .inr ⟨r, rs, next, rfl, some, here, others, failure, ?_⟩
    rw [Admits, kept]
    exact admitted

/-- The loop hands out all the reads, and then the failure of the source. -/
theorem Iterates.reads (one : 1 ≤ n) (admitted : s.Admits n) (run : Iterates (.whole n) s c) :
    c.pieces = s.reads n.toNat ∧ c.failure = s.failure.bind ending := by
  induction run with
  | @ended s rest read =>
    rcases readBy_cases one admitted with ⟨none, here⟩ | ⟨r, rs, next, -, some, here, -⟩
    · have finished := (Prod.mk.inj (here.symm.trans read)).1
      rw [none, (finish_eq_ok finished).2]
      exact ⟨rfl, rfl⟩
    · have empty := Except.ok.inj (Prod.mk.inj (here.symm.trans read)).1
      exact absurd empty some
  | @failed s rest f read =>
    rcases readBy_cases one admitted with ⟨none, here⟩ | ⟨r, rs, next, -, -, here, -⟩
    · have finished := (Prod.mk.inj (here.symm.trans read)).1
      rw [none, finish_eq_error finished]
      exact ⟨rfl, rfl⟩
    · cases (Prod.mk.inj (here.symm.trans read)).1
  | @more s next bs c some read others ih =>
    rcases readBy_cases one admitted with ⟨none, here⟩ | ⟨r, rs, after, first, -, here, behind, failure, still⟩
    · have finished := (Prod.mk.inj (here.symm.trans read)).1
      exact absurd (finish_eq_ok finished).1 some
    · obtain ⟨same, rfl⟩ := Prod.mk.inj (here.symm.trans read)
      obtain rfl := Except.ok.inj same
      obtain ⟨pieces, last⟩ := ih still
      rw [first, pieces, behind, last, failure]
      exact ⟨rfl, rfl⟩

/-- A failure comes out as it is, unless it says that there is nothing more to come. -/
theorem bind_ending_eq_some_iff {failure : Option Failure} :
    failure.bind ending = some f ↔ failure = some f ∧ ¬ f.isFault .stopIteration = true := by
  cases failure with
  | none => simp
  | some g =>
    rw [Option.bind_some, ending]
    split
    · rename_i none
      refine iff_of_false (fun h => by cases h) ?_
      rintro ⟨same, other⟩
      exact other (Option.some.inj same ▸ none)
    · rename_i some
      refine ⟨fun h => ⟨h, ?_⟩, fun h => h.1⟩
      obtain rfl := Option.some.inj h
      exact some

/-- **Chunks lose nothing.** By any size of one or more the reading loop ends, in one way. What it hands out is
never empty and no longer than asked for, and together with what it leaves it is what there was. If the source
accepts the size, the loop hands out the pieces of the source, each cut by itself, which are all of its bytes, and
then the failure of the source as it is, unless that one says that there is nothing more to come. Pieces that are
no longer than asked for come out as they are. A stream in memory that does not accept the size hands out nothing
and stays where it is. -/
theorem chunks_lose_nothing (s : Source) (n : Int) (one : 1 ≤ n) :
    let c := s.chunks (.whole n)
    (∀ d, Iterates (.whole n) s d ↔ d = c) ∧
    (∀ piece ∈ c.pieces, piece ≠ [] ∧ piece.length ≤ n) ∧
    c.pieces.flatten ++ c.rest.pieces.flatten = s.pieces.flatten ∧
    ((s.inMemory = true → n < ReadSize.limit) →
      c.pieces = s.reads n.toNat ∧ c.pieces.flatten = s.pieces.flatten ∧
        ((∀ piece ∈ s.pieces, piece ≠ [] ∧ piece.length ≤ n) → c.pieces = s.pieces) ∧
        ∀ f, c.failure = some f ↔ s.failure = some f ∧ ¬ f.isFault .stopIteration = true) ∧
    (s.inMemory = true → ReadSize.limit ≤ n →
      c = ⟨[], some (.saying .overflow "cannot fit 'int' into an index-sized integer"), s⟩) := by
  intro c
  have run : Iterates (.whole n) s c := iterates_chunks s (.whole n)
  have accepted : s.Admits n → c.pieces = s.reads n.toNat ∧ c.failure = s.failure.bind ending :=
    fun admitted => run.reads one admitted
  have refused : s.inMemory = true → ReadSize.limit ≤ n → c = ⟨[], some ReadSize.oversized, s⟩ :=
    fun inMemory large => (iterates_iff.1 (.failed (readBy_of_oversized inMemory large))).symm
  refine ⟨fun d => iterates_iff, ?_, run.flatten, ?_, refused⟩
  · intro piece inside
    by_cases admitted : s.Admits n
    · rw [(accepted admitted).1] at inside
      obtain ⟨some, short⟩ := mem_reads (by omega) inside
      exact ⟨some, by omega⟩
    · obtain ⟨inMemory, large⟩ := Classical.not_imp.1 admitted
      rw [refused inMemory (Int.not_lt.1 large)] at inside
      cases inside
  · intro admitted
    obtain ⟨pieces, failure⟩ := accepted admitted
    refine ⟨pieces, ?_, fun short => ?_, fun f => ?_⟩
    · rw [pieces, flatten_reads]
    · rw [pieces]
      apply reads_eq_pieces
      intro piece inside
      obtain ⟨some, fits⟩ := short piece inside
      exact ⟨some, by omega⟩
    · rw [failure]
      exact bind_ending_eq_some_iff

/-- A stream of seven bytes, read from the second one on by threes, and a source that fails behind five bytes, read
by twos. -/
theorem chunks_by_threes_and_twos :
    (1 : Int) ≤ 3 ∧
      ((ofBytes ([1, 2, 3, 4, 5, 6, 7].drop 1)).chunks (.whole 3)).pieces.flatten = [2, 3, 4, 5, 6, 7] ∧
      (1 : Int) ≤ 2 ∧
      (Source.chunks ⟨[[1, 2], [3, 4, 5]], some (.fault ⟨.endOfFile, .empty⟩), false⟩ (.whole 2)).pieces.flatten =
        [1, 2, 3, 4, 5] ∧
      (Source.chunks ⟨[[1, 2], [3, 4, 5]], some (.fault ⟨.endOfFile, .empty⟩), false⟩ (.whole 2)).failure =
        some (.fault ⟨.endOfFile, .empty⟩) := by
  obtain ⟨-, -, -, read, -⟩ := chunks_lose_nothing (ofBytes ([1, 2, 3, 4, 5, 6, 7].drop 1)) 3 (by decide)
  obtain ⟨-, -, -, failed, -⟩ :=
    chunks_lose_nothing ⟨[[1, 2], [3, 4, 5]], some (.fault ⟨.endOfFile, .empty⟩), false⟩ 2 (by decide)
  obtain ⟨-, given, -, failure⟩ := failed (fun memory => absurd memory (by decide))
  exact ⟨by decide, (read (fun _ => by decide)).2.1, by decide, given, (failure _).2 ⟨rfl, by decide⟩⟩

/-- A stream in memory does not come out by a size that does not fit an index, and a failure that says that
there is nothing more to come does not come out at all. -/
theorem chunks_withheld :
    ((ofBytes [1, 2]).chunks (.whole 0x8000000000000000)).pieces = [] ∧
      ((ofBytes [1, 2]).chunks (.whole 0x8000000000000000)).failure =
        some (.saying .overflow "cannot fit 'int' into an index-sized integer") ∧
      (Source.chunks ⟨[[1, 2]], some (.fault ⟨.stopIteration, .empty⟩), false⟩ (.whole 2)).pieces = [[1, 2]] ∧
      (Source.chunks ⟨[[1, 2]], some (.fault ⟨.stopIteration, .empty⟩), false⟩ (.whole 2)).failure = none :=
  ⟨rfl, rfl, rfl, rfl⟩

end BlockVault.Source
