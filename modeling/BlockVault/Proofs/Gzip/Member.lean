import BlockVault.Codec.Gzip.Writer
import BlockVault.Proofs.Deflate.Written
import BlockVault.Proofs.Feed.Passage
import BlockVault.Proofs.Gzip.Delivery

/-!
# Reads of gzip members

A byte string that is one whole member is read back: the header with whatever optional parts its flags
name, the deflate stream, and the trailer. One that is cut off is refused, except that nothing at all is an
archive without members. A written archive is one member.

Main statements: `decode_member`, `decode_cut`.
-/

namespace BlockVault.Gzip

/-- The optional parts of a header: a field with its length, a name, a comment and a check value. -/
structure IsOptions (flags : Nat) (extra name comment check : Bytes) : Prop where
  extra : if flags.testBit 2 then ∃ field : Bytes, field.length < 65536 ∧
    extra = Bytes.ofLittleEndian 2 field.length ++ field else extra = []
  name : if flags.testBit 3 then ∃ text : Bytes, 0 ∉ text ∧ name = text ++ [0] else name = []
  comment : if flags.testBit 4 then ∃ text : Bytes, 0 ∉ text ∧ comment = text ++ [0] else comment = []
  check : if flags.testBit 1 then check.length = 2 else check = []

/-- The byte string is one whole member with this content. -/
def IsMember (bs content : Bytes) : Prop :=
  ∃ (flags : UInt8) (fields extra name comment check body : Bytes),
    bs = magic ++ deflateMethod :: flags :: fields ++ (extra ++ name ++ comment ++ check) ++ body ++
      trailerOf content ∧
    fields.length = 6 ∧ IsOptions flags.toNat extra name comment check ∧ Deflate.IsStream body content

open Reading

section Header

variable {limit flags : Nat} {extra name comment check rest : Bytes}

/-- A text that is there if a flag is set is passed over. -/
theorem passes_text {flag : Bool} {part : Bytes} {next : Reading Unit} {later : Bytes} {reads : Nat}
    (h : if flag then ∃ text : Bytes, 0 ∉ text ∧ part = text ++ [0] else part = []) (more : rest ≠ [])
    (enough : limit < reads) (further : next.Passes limit rest () later) :
    (if flag = true then do
      skipText reads
      next
      else next : Reading Unit).Passes limit (part ++ rest) () later := by
  cases flag with
  | false =>
    simp only [Bool.false_eq_true, if_false] at h ⊢
    rw [h]
    exact further
  | true =>
    simp only [if_true] at h ⊢
    obtain ⟨text, inside, rfl⟩ := h
    exact (Passes.skipText inside more enough).bind further

/-- The optional parts of a header are passed over. -/
theorem passes_skipOptions (h : IsOptions flags extra name comment check) (more : rest ≠ []) :
    (skipOptions flags).Passes limit (extra ++ (name ++ (comment ++ (check ++ rest)))) () rest := by
  refine .get fun f => ?_
  have last : (if flags.testBit 1 = true then do
      let _ ← exactly early 2
      Pure.pure ()
      else Pure.pure () : Reading Unit).Passes f.size (check ++ rest) () rest := by
    have part := h.check
    cases flag : flags.testBit 1 with
    | false =>
      simp only [flag, Bool.false_eq_true, if_false] at part ⊢
      rw [part]
      exact .pure () rest
    | true =>
      simp only [flag, if_true] at part ⊢
      exact (Passes.exactly early part rest).bind (.pure () rest)
  have enough : f.size < f.size + 1 := Nat.lt_succ_self f.size
  have comments := passes_text h.comment (List.append_ne_nil_of_right_ne_nil check more) enough last
  have names := passes_text h.name (by simp [more]) enough comments
  have part := h.extra
  cases flag : flags.testBit 2 with
  | false =>
    simp only [flag, Bool.false_eq_true, if_false] at part ⊢
    rw [part]
    exact names
  | true =>
    simp only [flag, if_true] at part ⊢
    obtain ⟨field, short, rfl⟩ := part
    rw [List.append_assoc]
    apply (Passes.exactly early (Bytes.length_ofLittleEndian 2 _) _).bind
    rw [Bytes.littleEndian_ofLittleEndian_of_lt short]
    exact (Passes.exactly early rfl _).bind names

/-- What is read of a header behind the magic bytes. -/
def behindMagic : Reading Bool := do
  let fields ← exactly early 8
  if fields.head? ≠ some deflateMethod then throw (bad "Unknown compression method")
  skipOptions (fields.getD 1 0).toNat
  return true

theorem header_of_magic {f f' : Feed} (next : f.readNext 2 = (.ok magic, f')) :
    header.run f = behindMagic.run f' := by
  rw [header, run_read_bind next]
  rfl

theorem passes_behindMagic {flags : UInt8} {fields : Bytes} (six : fields.length = 6)
    (h : IsOptions flags.toNat extra name comment check) (more : rest ≠ []) :
    behindMagic.Passes limit
      (deflateMethod :: flags :: fields ++ (extra ++ (name ++ (comment ++ (check ++ rest))))) true rest := by
  apply (Passes.exactly early (by simp [six]) _).bind
  rw [if_neg (by simp)]
  exact (passes_skipOptions h more).bind (.pure true rest)

end Header

/-- A deflate stream is read, and what is behind it is left. -/
theorem passes_inflate {progress : Progress Deflate.Flaw Deflate.State (Array UInt8)} {body : Bytes}
    {out : Array UInt8} (ended : Deflate.machine.feed progress body = (.ended out, [])) (rest : Bytes)
    {limit reads : Nat} (enough : limit < reads) :
    (inflate reads progress).Passes limit (body ++ rest) out rest := by
  refine Comes.passes (fun bs few => comes_inflate (Nat.lt_of_le_of_lt few enough) progress)
    fun bs missing split => ?_
  by_cases long : body.length ≤ bs.length
  · obtain ⟨left, rfl⟩ : body <+: bs :=
      List.prefix_of_prefix_length_le ⟨rest, rfl⟩ ⟨missing, split⟩ long
    rw [List.append_assoc] at split
    refine .inl ⟨left, missing, ?_, ?_, List.append_cancel_left split, Iff.rfl⟩
    · rw [Machine.feed_append_of_ended ended left]
      rfl
    · rw [List.length_append]
      omega
  · obtain ⟨tail, rfl⟩ : bs <+: body :=
      List.prefix_of_prefix_length_le ⟨missing, split⟩ ⟨rest, rfl⟩ (by omega)
    have some : tail ≠ [] := by
      rintro rfl
      exact long (by simp)
    obtain ⟨next, waits, -⟩ := Machine.cut ended some
    refine .inr ⟨?_, early, by rw [waits]; rfl⟩
    rintro rfl
    have same := congrArg List.length split
    simp only [List.length_append, List.append_nil] at same
    exact long (by rw [List.length_append]; omega)

/-- A trailer at the end of an archive. -/
theorem passes_trailer (content : Bytes) (limit : Nat) :
    (trailer content).Passes limit (trailerOf content) () [] := by
  have crc : Bytes.littleEndian ((trailerOf content).take 4) = (Crc32.checksum content).toNat := by
    have value : (Crc32.checksum content).toNat < Nat.pow 256 4 := UInt32.toNat_lt _
    rw [trailerOf, List.take_left' (Bytes.length_ofLittleEndian 4 _),
      Bytes.littleEndian_ofLittleEndian_of_lt value]
  have length : Bytes.littleEndian ((trailerOf content).drop 4) = content.length % 0x100000000 := by
    rw [trailerOf, List.drop_left' (Bytes.length_ofLittleEndian 4 _), Bytes.littleEndian_ofLittleEndian]
  have whole := @Passes.exactly limit early 8 (trailerOf content) (by simp [trailerOf]) []
  rw [List.append_nil] at whole
  apply whole.bind
  simp only [crc, length, ne_eq, not_true_eq_false, if_false]
  exact .get fun f => .skipZeros_nil (Nat.lt_succ_self f.size)

/-- What is read of an archive behind a header. -/
def behindHeader (n : Nat) (contents : List Bytes) (more : Bool) : Reading Bytes := do
  if more then
    let out ← inflate ((← get).size + 1) (Deflate.machine.start Deflate.initial)
    let content := out.toList
    trailer content
    members n (content :: contents)
  else return contents.reverse.flatten

theorem members_succ (n : Nat) (contents : List Bytes) :
    members (n + 1) contents = header >>= behindHeader n contents := rfl

/-- At the end there is no further member. -/
theorem passes_members_nil (n : Nat) (contents : List Bytes) (limit : Nat) :
    (members n contents).Passes limit [] contents.reverse.flatten [] := by
  rintro short f ⟨bs, missing, left, few, split, lacks⟩
  obtain ⟨rfl, rfl⟩ := List.append_eq_nil_iff.1 split
  refine .inl ?_
  cases n with
  | zero => exact ⟨f, rfl, [], [], left, few, rfl, lacks⟩
  | succ n =>
    obtain ⟨f', next, left'⟩ := (Feed.prompt_nil left).readNext
    refine ⟨f', ?_, [], [], left', few, rfl, lacks⟩
    rw [members_succ, header, run_bind, run_read_bind next]
    rfl

/-- The last member of an archive, from behind its magic bytes on. -/
theorem passes_member {flags : UInt8} {fields extra name comment check body : Bytes} {out : Array UInt8}
    (six : fields.length = 6) (options : IsOptions flags.toNat extra name comment check)
    (ended : Deflate.machine.Accepts Deflate.initial body out) (n limit : Nat) :
    (behindMagic >>= behindHeader n []).Passes limit (deflateMethod :: flags :: fields ++
      (extra ++ (name ++ (comment ++ (check ++ (body ++ trailerOf out.toList)))))) out.toList [] := by
  have some : body ++ trailerOf out.toList ≠ [] := by simp [trailerOf, Bytes.ofLittleEndian]
  apply (passes_behindMagic six options some).bind
  unfold behindHeader
  rw [if_pos rfl]
  refine .get fun f => ?_
  apply (passes_inflate ended (trailerOf out.toList) (Nat.lt_succ_self f.size)).bind
  apply (passes_trailer out.toList _).bind
  have last := passes_members_nil n [out.toList] f.size
  rwa [show [out.toList].reverse.flatten = out.toList by simp] at last

/-- A source without bytes is an archive without members. -/
theorem decode_nil {s : Source} (sound : s.failure = none) (empty : s.pieces.flatten = []) :
    (decode s).1 = .ok [] := by
  have ahead : Feed.Ahead False 0 ⟨s, none⟩ [] :=
    ⟨[], [], empty ▸ Feed.left_of_source sound, Nat.le_refl 0, rfl, by simp⟩
  rcases passes_members_nil (s.size + 1) [] 0 False _ ahead with ⟨f, run, -⟩ | ⟨none, -⟩
  · unfold decode
    rw [run]
    rfl
  · exact none.elim

theorem decode_of_magic {s : Source} {f : Feed} (next : Feed.readNext 2 ⟨s, none⟩ = (.ok magic, f)) :
    (decode s).1 = ((behindMagic >>= behindHeader s.size []).run f).1 := by
  unfold decode
  rw [members_succ, run_bind, header_of_magic next, ← run_bind]
  rfl

/-- The bytes of a member behind its magic bytes, and what comes of a beginning of them. -/
theorem IsMember.behind {bs content : Bytes} (h : IsMember bs content) :
    ∃ rest, bs = magic ++ rest ∧
      ∀ n limit, (behindMagic >>= behindHeader n []).Passes limit rest content [] := by
  obtain ⟨flags, fields, extra, name, comment, check, body, rfl, six, options, out, ended, rfl⟩ := h
  exact ⟨_, by simp only [List.append_assoc], passes_member six options ended⟩

/-- A member is read back from every source that does not start with a single byte. -/
theorem decode_member {s : Source} {content : Bytes} (sound : s.failure = none) (whole : ¬ s.StartsShort)
    (frame : IsMember s.pieces.flatten content) : (decode s).1 = .ok content := by
  obtain ⟨rest, split, passes⟩ := frame.behind
  obtain ⟨f, next, left⟩ := (Source.prompt_of_not_startsShort sound whole).readNext
  rw [split] at next left
  have ahead : f.Ahead False rest.length rest := ⟨rest, [], left, Nat.le_refl _, List.append_nil rest, by simp⟩
  rw [decode_of_magic next]
  rcases passes s.size rest.length False f ahead with ⟨f', run, -⟩ | ⟨none, -⟩
  · rw [run]
  · exact none.elim

/-- A member that is cut off is refused, unless nothing is left of it. -/
theorem decode_cut {s : Source} {missing content : Bytes} (sound : s.failure = none)
    (frame : IsMember (s.pieces.flatten ++ missing) content) (cut : missing ≠ [])
    (some : s.pieces.flatten ≠ []) : ∃ e, (decode s).1 = .error e := by
  obtain ⟨rest, split, passes⟩ := frame.behind
  obtain ⟨start, more, f, next, bytes, -, empty, left⟩ := (Feed.left_of_source sound).readNext 2
  rw [bytes] at some split
  have nonempty : start ≠ [] := by
    rintro rfl
    exact some (by rw [empty (by decide) rfl]; rfl)
  by_cases same : start = magic
  · subst same
    rw [List.append_assoc] at split
    have ahead : f.Ahead True more.length rest :=
      ⟨more, missing, left, Nat.le_refl _, List.append_cancel_left split, by simp [cut]⟩
    rw [decode_of_magic next]
    rcases passes s.size more.length True f ahead with ⟨f', -, bs, missing', -, -, nothing, lacks⟩ | ⟨-, refused⟩
    · exact absurd (List.append_eq_nil_iff.1 nothing).2 (lacks.2 trivial)
    · exact refused
  · exact ⟨_, decode_of_start next nonempty same⟩

/-- **A written archive is one member with the content that was written.** -/
theorem isMember_encode (content : Bytes) : IsMember (encode content) content := by
  refine ⟨0, [0, 0, 0, 0, 2, 255], [], [], [], [], Deflate.encode content, rfl, rfl, ?_,
    Deflate.isStream_encode content⟩
  exact ⟨rfl, rfl, rfl, rfl⟩

end BlockVault.Gzip
