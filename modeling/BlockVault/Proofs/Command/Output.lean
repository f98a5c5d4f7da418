import BlockVault.Proofs.Command
import BlockVault.Proofs.Text.Utf8

/-!
# The text that a command gives

A call that succeeds gives the text of the bytes that its process wrote, and nothing else goes into that
text: not how the process cut the bytes, not the size of the reads, not the pace of the worker. A
character that was cut is put together again.

Main statement: `run_text`.
-/

namespace BlockVault.Command

variable {settings : Settings} {limit : Option Quantity} {p : Process} {pace : Nat → Pace}

/-- Reads come to the end of the output exactly if reads of the size are accepted, and what they end with
says that there is nothing more to come. -/
theorem Process.readEnd_eq_none_iff (p : Process) (size : Quantity) :
    p.readEnd size = none ↔
      p.refusal size = none ∧ ∀ f, p.readFailure = some f → f.isFault .stopIteration := by
  unfold readEnd
  cases p.refusal size with
  | some f => simp
  | none =>
    cases p.readFailure with
    | none => simp
    | some f => simp [Source.ending]

/-- A call whose process lets itself be read to the end, ends by itself and with status zero, and whose worker
has made all its reads and waited by the deadline. -/
structure Succeeds (settings : Settings) (limit : Option Quantity) (p : Process) (pace : Nat → Pace) : Prop where
  accepted : checkLimit (limit.getD settings.commandTimeout) = .ok ()
  readable : p.refusal settings.readSize = none
  closes : p.ending = .byItself
  ends : ∀ f, p.readFailure = some f → f.isFault .stopIteration
  zero : p.wait = .ok 0
  finished : ∃ time, deadline (limit.getD settings.commandTimeout) = .ok time ∧
    (p.reads settings.readSize).length + 2 ≤ (pace time).before

/-- A call that is given up gives no text. -/
theorem giveUp_ne_ok (c : Command) (limit : Quantity) (w : Worker) (between : Nat) (text : String) :
    (c.giveUp limit w between).value.outcome ≠ .ok text := by
  unfold giveUp
  intro given
  cases killed : w.process.kill with
  | ok => simp [killed, giveUp.report] at given
  | error f => by_cases refused : f.isFault .system <;> simp [killed, refused, giveUp.report] at given

/-- A call gives a text exactly if it succeeds and its process wrote bytes that are read as that text. -/
theorem run_eq_ok_iff (large : Quantity.le (.whole 1) settings.readSize) (full : ∀ piece ∈ p.pieces, piece ≠ [])
    (c : Command) (text : String) :
    (run settings c limit (.ok p) pace).value.outcome = .ok text ↔
      Succeeds settings limit p pace ∧ Utf8.Reads p.pieces.flatten text.toList := by
  cases accepted : checkLimit (limit.getD settings.commandTimeout) with
  | error f =>
    refine iff_of_false ?_ fun ⟨succeeds, _⟩ => nomatch accepted.symm.trans succeeds.accepted
    simp [run, accepted]
  | ok =>
    cases timed : deadline (limit.getD settings.commandTimeout) with
    | error f =>
      refine iff_of_false ?_ fun ⟨succeeds, _⟩ => ?_
      · simp [run_of_started accepted, await, timed]
      · obtain ⟨time, counted, -⟩ := succeeds.finished
        cases timed.symm.trans counted
    | ok time =>
      have positive := Quantity.positive_of_one_le large
      have came := Worker.at_after positive full (pace time).before
      have final := Worker.isFinal_after_iff positive full (pace time).before
      have past := p.span_le_reached_iff settings.readSize (pace time).before
      have ended := p.readEnd_eq_none_iff settings.readSize
      have span := p.span_eq settings.readSize
      simp only [run_of_started accepted, await, timed]
      constructor
      · intro given
        by_cases done : p.Done settings.readSize (pace time).before
        · rw [if_pos (final.2 done)] at given
          obtain ⟨whole, zero, rfl⟩ := (verdict_eq_ok_iff ..).1 ((conclude_eq c came (past.2 done)).symm.trans given)
          obtain ⟨readable, ends⟩ := ended.1 whole
          have closes : p.ending = .byItself := by simpa [Process.releases, readable] using done.1
          rw [whole] at span
          refine ⟨⟨accepted, readable, closes, ends, zero, time, timed, span ▸ done.2⟩, ?_⟩
          rw [Process.flatten_reads whole]
          exact Utf8.decode_eq_iff.1 rfl
        · rw [if_neg (mt final.1 done)] at given
          exact (giveUp_ne_ok _ _ _ _ _ given).elim
      · rintro ⟨succeeds, reads⟩
        have whole := ended.2 ⟨succeeds.readable, succeeds.ends⟩
        obtain ⟨time', counted, finished⟩ := succeeds.finished
        cases timed.symm.trans counted
        rw [whole] at span
        have on : p.releases settings.readSize := by simp [Process.releases, succeeds.closes]
        have done : p.Done settings.readSize (pace time).before := ⟨on, Nat.le_trans (Nat.le_of_eq span) finished⟩
        rw [if_pos (final.2 done)]
        refine (conclude_eq c came (past.2 done)).trans ((verdict_eq_ok_iff ..).2 ⟨whole, succeeds.zero, ?_⟩)
        rw [Process.flatten_reads whole]
        exact (Utf8.decode_eq_iff.2 reads).symm

/-- **The text of a call that succeeds.** It is what the bytes of the process are read as, so every other
call that succeeds on the same bytes gives the same text, however they are cut and whatever the size of
the reads. On the bytes of a text, that is the text. -/
theorem run_text (large : Quantity.le (.whole 1) settings.readSize) (full : ∀ piece ∈ p.pieces, piece ≠ [])
    (c : Command) :
    let outcome := (run settings c limit (.ok p) pace).value.outcome
    (Succeeds settings limit p pace ↔ ∃ text, outcome = .ok text) ∧
    (∀ text, outcome = .ok text → Utf8.Reads p.pieces.flatten text.toList) ∧
    (∀ text, p.pieces.flatten = Utf8.encode text → Succeeds settings limit p pace → outcome = .ok text) ∧
    ∀ (settings' : Settings) (limit' : Option Quantity) (c' : Command) (p' : Process) (pace' : Nat → Pace),
      Quantity.le (.whole 1) settings'.readSize → (∀ piece ∈ p'.pieces, piece ≠ []) →
      p'.pieces.flatten = p.pieces.flatten →
      Succeeds settings limit p pace → Succeeds settings' limit' p' pace' →
      (run settings' c' limit' (.ok p') pace').value.outcome = outcome := by
  intro outcome
  have gives (text : String) : outcome = .ok text ↔ _ := run_eq_ok_iff large full c text
  have decoded : Utf8.Reads p.pieces.flatten (Utf8.decode p.pieces.flatten).toList := Utf8.decode_eq_iff.1 rfl
  refine ⟨⟨fun succeeds => ⟨_, (gives _).2 ⟨succeeds, decoded⟩⟩, fun ⟨text, given⟩ => ((gives text).1 given).1⟩,
    fun text given => ((gives text).1 given).2, fun text bytes succeeds => ?_, ?_⟩
  · exact (gives text).2 ⟨succeeds, bytes ▸ Utf8.reads_encode text⟩
  · intro settings' limit' c' p' pace' large' full' same succeeds succeeds'
    rw [(gives _).2 ⟨succeeds, decoded⟩, run_eq_ok_iff large' full', same]
    exact ⟨succeeds', decoded⟩

/-- Two reads of at most two bytes cut a character of three, and it is put together again. -/
theorem run_text_of_cut_character :
    let settings : Settings := { readSize := .whole 2 }
    let p : Process := { pieces := [[0xE2], [0x82, 0xAC]] }
    Quantity.le (.whole 1) settings.readSize ∧ (∀ piece ∈ p.pieces, piece ≠ []) ∧
    (run settings ⟨"tool", []⟩ (some (.whole 5)) (.ok p) fun _ => ⟨4, 0⟩).value.outcome = .ok "€" := by
  intro settings p
  have large : Quantity.le (.whole 1) settings.readSize := rfl
  have full : ∀ piece ∈ p.pieces, piece ≠ [] := by simp [p]
  have succeeds : Succeeds settings (some (.whole 5)) p fun _ => ⟨4, 0⟩ := by
    refine ⟨rfl, rfl, rfl, by simp [p], rfl, 5000000000, rfl, ?_⟩
    rw [Process.reads_of_accept rfl]
    simp [p, Bytes.pieces_of_length_le]
  have bytes : p.pieces.flatten = Utf8.encode "€" := by
    rw [Utf8.encode_eq]
    rfl
  exact ⟨large, full, (run_text large full ⟨"tool", []⟩).2.2.1 "€" bytes succeeds⟩

end BlockVault.Command
