import Mathlib.Data.List.Forall2
import RuleLexer.Rule
import RuleLexer.Source.Script
import RuleLexer.Proofs.Lexer.Journal
import RuleLexer.Proofs.Lexer.Logging
import RuleLexer.Proofs.Log.Ring

/-!
# The diagnostics add up

A logger that lets warnings and errors through to a ring of its own keeps a record of each failed
read, of each unknown token and of each replacement character that decoding puts into the text, and
of nothing else (`diagnostics_add_up`). What the lexer notes in its journal was counted before
(`Lexer.Booked`); here every warning and error of the journal is followed to the ring (`Keeps`).
-/

namespace RuleLexer.LoggedLexer

open Lexer (Outcome Recast run? simulates_recast replyAlike_eq follows_self told Booked CountsReads)

variable {σ ρ : Type}

/-- The ring has got every warning and error of a journal, in order and nothing else. -/
def Keeps (l : LoggedLexer σ ρ) (ring capacity : Nat) (journal : List Event) : Prop :=
  ∃ records, List.Forall₂ (fun e r => ∃ time, r = e.record time) (passed .warn journal) records ∧
    Log.Routed l.network l.logger ring .warn (records.foldl Log.Ring.write ⟨capacity, [], 0⟩)

/-- Level by level, all warnings and errors pass. -/
theorem countP_passed_warn {level : Log.Level} (hlevel : level.atLeast .warn = true)
    (journal : List Event) :
    (passed .warn journal).countP (·.level = level) = journal.countP (·.level = level) := by
  unfold passed
  rw [List.filter_reverse, List.countP_reverse, List.countP_filter]
  refine List.countP_congr fun e _ => ?_
  rw [Bool.and_eq_true, decide_eq_true_eq, and_iff_left_iff_imp]
  rintro rfl
  exact hlevel

/-- Nothing but warnings and errors passes. -/
theorem length_passed_warn (journal : List Event) :
    (passed .warn journal).length =
      journal.countP (·.level = .error) + journal.countP (·.level = .warn) := by
  unfold passed
  rw [List.filter_reverse, List.length_reverse]
  induction journal with
  | nil => rfl
  | cons e journal ih =>
    rw [List.filter_cons, List.countP_cons, List.countP_cons, apply_ite List.length,
      List.length_cons, ih]
    cases e.level <;> simp [Log.Level.atLeast, Log.Level.code] <;> omega

/-- The records of some events are of the levels of these. -/
theorem map_level_of_records {events : List Event} {records : List Log.Record}
    (h : List.Forall₂ (fun e r => ∃ time, r = e.record time) events records) :
    records.map Log.Record.level = events.map Event.level := by
  induction h with
  | nil => rfl
  | cons hr _ ih =>
    obtain ⟨time, rfl⟩ := hr
    exact congrArg _ ih

/-- What a ring holds of a journal that it has got: as many warnings and errors as there are, unless
it had to let some go. -/
theorem kept_of_records {capacity : Nat} {journal : List Event} {records : List Log.Record}
    (h : List.Forall₂ (fun e r => ∃ time, r = e.record time) (passed .warn journal) records) :
    let kept := records.foldl Log.Ring.write ⟨capacity, [], 0⟩
    let errors := journal.countP (·.level = .error)
    let warnings := journal.countP (·.level = .warn)
    (kept.dropped = 0 ↔ errors + warnings ≤ capacity) ∧
      (kept.dropped = 0 → kept.records.countP (·.level = .error) = errors ∧
        kept.records.countP (·.level = .warn) = warnings ∧
        kept.records.length = errors + warnings) := by
  intro kept errors warnings
  have hkept : kept = ⟨capacity, records.drop (records.length - capacity),
    records.length - capacity⟩ := Log.Ring.foldl_write capacity records
  have hlength : records.length = errors + warnings := h.length_eq.symm.trans (length_passed_warn _)
  have hlevels (level : Log.Level) (hlevel : level.atLeast .warn = true) :
      records.countP (·.level = level) = journal.countP (·.level = level) := by
    have hmap := congrArg (List.countP (decide <| · = level)) (map_level_of_records h)
    rw [List.countP_map, List.countP_map] at hmap
    exact hmap.trans (countP_passed_warn hlevel _)
  rw [hkept]
  refine ⟨by simp only; omega, ?_⟩
  intro hdropped
  change records.length - capacity = 0 at hdropped
  simp only [hdropped, List.drop_zero]
  exact ⟨hlevels .error rfl, hlevels .warn rfl, hlength⟩

/-- After a call the ring has got what the call has noted, too. -/
theorem Keeps.flush {l : LoggedLexer σ ρ} {ring capacity : Nat} {older : List Event}
    (h : l.Keeps ring capacity older) (time : Nat) (lexer : Lexer σ ρ) :
    (flush time { l with lexer }).Keeps ring capacity (lexer.journal ++ older) := by
  obtain ⟨records, hrecords, hrouted⟩ := h
  refine ⟨records ++ (passed .warn lexer.journal).map (·.record time), ?_, ?_⟩
  · have hpassed : passed .warn (lexer.journal ++ older) =
        passed .warn older ++ passed .warn lexer.journal := by
      unfold passed
      rw [List.reverse_append, List.filter_append]
    rw [hpassed]
    refine List.rel_append hrecords ?_
    rw [List.forall₂_map_right_iff]
    exact List.forall₂_same.mpr fun e _ => ⟨time, rfl⟩
  · rw [List.foldl_append]
    exact routed_flush_passed time lexer hrouted

variable [ByteSource σ] [TokenRule ρ]

/-- A session is a run of the lexer alone, and the ring has got every warning and error of the
journal that the lexer would have by itself. -/
theorem exists_run_of_session {rounds size ring capacity : Nat} {calls : List (Nat × Lexer.Call ρ)}
    {l : LoggedLexer σ ρ} {m : Lexer σ ρ} {results : List (Outcome × LoggedLexer σ ρ)}
    (hrecast : Recast size Eq m.journal l.lexer m) (hkeeps : l.Keeps ring capacity m.journal)
    (hsession : l.session? rounds (calls.map fun c => .call c.1 c.2) = some results) :
    ∃ alone, run? rounds m (calls.map Prod.snd) = some alone ∧
      results.map Prod.fst = alone.map Prod.fst ∧
      Recast size Eq ((alone.map Prod.snd).getLastD m).journal
        ((results.map Prod.snd).getLastD l).lexer ((alone.map Prod.snd).getLastD m) ∧
      ((results.map Prod.snd).getLastD l).Keeps ring capacity
        ((alone.map Prod.snd).getLastD m).journal := by
  induction calls generalizing l m results with
  | nil =>
    cases hsession
    exact ⟨[], rfl, rfl, hrecast, hkeeps⟩
  | cons call calls ih =>
    obtain ⟨time, c⟩ := call
    have hop := (simulates_recast (replyAlike_eq size) m.journal).op c rounds hrecast
    obtain ⟨first, hperform, hrest⟩ := Option.bind_eq_some_iff.mp hsession
    obtain ⟨others, hothers, rfl⟩ := Option.map_eq_some_iff.mp hrest
    obtain ⟨p, hp, rfl⟩ := Option.map_eq_some_iff.mp hperform
    rw [hp] at hop
    generalize hq : c.op rounds m = y at hop
    cases hop with
    | @some _ q hpq =>
      obtain ⟨hsame, hfollows⟩ := hpq
      have hafter : Recast size Eq m.journal p.2 q.2 := follows_self.mp hfollows
      have hjournal : q.2.journal = p.2.journal ++ m.journal := by
        rw [hafter.eq_recast]
        rfl
      obtain ⟨alone, hrun, houtcomes, hlast⟩ := ih (m := q.2)
        (l := flush time { l with lexer := p.2 })
        (by rw [hjournal]; exact recast_flush time _ _ hafter)
        (by rw [hjournal]; exact hkeeps.flush time p.2) hothers
      refine ⟨q :: alone, ?_, ?_, ?_⟩
      · show (c.op rounds m).bind _ = _
        rw [hq, Option.bind_some, hrun]
        rfl
      · rw [List.map_cons, List.map_cons, houtcomes, hsame]
      · rw [List.map_cons, List.map_cons, List.getLastD_cons, List.getLastD_cons]
        exact hlast

/-- **The diagnostics add up.** A lexer is made with a logger that lets warnings and errors through
to an empty ring and to nothing else, and is asked any calls at any times. The reads so far have
brought some bytes that are decoded by now, and then those that are pending. If the ring has let no
record go, it holds as many errors as calls have given the error of a failed read, and as many
warnings as calls have given the error of an unknown token and as there are replacement characters
that decoding puts into the text of the decoded bytes, and no other records. It has let none go
exactly if it has room for all of these. -/
theorem diagnostics_add_up (source : σ) (rules : RuleSet ρ) (sizes : BufferSizes)
    (rounds time capacity logger ring : Nat) (network : Log.Network)
    (calls : List (Nat × Lexer.Call ρ)) {results : List (Outcome × LoggedLexer σ ρ)}
    (hlogger : network.loggers[logger]? = some ⟨.warn, [.ring ring]⟩)
    (hring : network.rings[ring]? = some ⟨capacity, [], 0⟩)
    (hsession : (start time source rules sizes network logger).session? rounds
      (calls.map fun c => .call c.1 c.2) = some results) :
    let final := (results.map Prod.snd).getLastD (start time source rules sizes network logger)
    let failed := results.countP (·.1.readFailed)
    let unknown := results.countP (·.1.foundUnknown)
    ∃ (reads : Nat) (whole : List UInt8) (kept : Log.Ring),
      (∀ count, CountsReads count → count final.lexer.source = count source + reads) ∧
      ((Intake.read sizes.effectiveChunk)^[reads] { source }).bytes =
        whole ++ final.lexer.pending.bytes ∧
      final.network.rings[ring]? = some kept ∧
      (kept.dropped = 0 ↔ failed + unknown + Utf8.replaced whole ≤ capacity) ∧
      (kept.dropped = 0 →
        kept.records.countP (·.level = .error) = failed ∧
        kept.records.countP (·.level = .warn) = unknown + Utf8.replaced whole ∧
        kept.records.length = failed + unknown + Utf8.replaced whole) := by
  intro final failed unknown
  have hkeeps : (start time source rules sizes network logger).Keeps ring capacity
      (Lexer.create source rules sizes).journal :=
    -- what was noted when the lexer was made does not pass
    ⟨[], .nil, routed_flush_passed time (.create source rules sizes) ⟨hlogger, hring⟩⟩
  obtain ⟨alone, hrun, houtcomes, hlast, records, hrecords, hrouted⟩ :=
    exists_run_of_session (recast_start time source rules sizes network logger) hkeeps hsession
  obtain ⟨-, herrors, reads, hcount, hstep, hwarnings⟩ :=
    (Booked.create source rules sizes).run hrun
  have houtcome (p : Outcome → Bool) : alone.countP (fun r => p r.1) =
      results.countP (fun r => p r.1) := by
    have hmap := congrArg (List.countP p) houtcomes
    rw [List.countP_map, List.countP_map] at hmap
    exact hmap.symm
  generalize hm : (alone.map Prod.snd).getLastD (Lexer.create source rules sizes) = m at *
  obtain ⟨whole, hwhole, hpieces⟩ :=
    ((Intake.read sizes.effectiveChunk)^[reads] { source }).exists_whole_pieces
  rw [hpieces, Utf8.replacements_pieces, houtcome, Nat.zero_add] at hwarnings
  rw [houtcome, Nat.zero_add] at herrors
  have hkept := @kept_of_records capacity _ _ hrecords
  change (_ ↔ m.told .error + m.told .warn ≤ capacity) ∧
    (_ → _ = m.told .error ∧ _ = m.told .warn ∧ _ = m.told .error + m.told .warn) at hkept
  rw [herrors, hwarnings, ← Nat.add_assoc] at hkept
  refine ⟨reads, whole, _, ?_, ?_, hrouted.ring_eq, hkept⟩
  · intro count hc
    rw [← hcount count hc, ← hlast.source]
  · have hpending : m.pending = final.lexer.pending := by
      rw [hlast.eq_recast]
      rfl
    rw [hwhole, ← hpending, hstep.pending]

/-- A read that fails, a byte that is no character, the same text twice that no rule recognises
before it is skipped, a replacement character that was in the input, and the end of the input inside
a character. One failed read, three unknown tokens and two replacements are six records. -/
theorem diagnostics_add_up_script :
    let source : Counted Script :=
      ⟨⟨[.data [0x61], .fail ⟨.other [], []⟩, .data [0xFF, 0x62], .data [0xEF, 0xBF, 0xBD],
        .data [0x61, 0xE2, 0x82]]⟩, 0⟩
    let rules : RuleSet Rule := ⟨none, [.literals .ident [['a'], ['b']]]⟩
    let calls : List (Nat × Lexer.Call Rule) :=
      [(0, .scan), (0, .scan), (1, .peek), (2, .skipLiteral ['\uFFFD']), (2, .scan),
        (3, .next false), (4, .skipLiteral ['\uFFFD']), (5, .scan), (6, .scan)]
    let network : Log.Network := ⟨[.silent, ⟨.warn, [.ring 0]⟩], [⟨10, [], 0⟩]⟩
    let session := (start 0 source rules ⟨1, 3⟩ network 1).session? 20
      (calls.map fun c => .call c.1 c.2)
    Utf8.replaced [0x61, 0xFF, 0x62, 0xEF, 0xBF, 0xBD, 0x61, 0xE2, 0x82] = 2 ∧
      ∃ results, session = some results ∧
        results.countP (·.1.readFailed) = 1 ∧ results.countP (·.1.foundUnknown) = 3 ∧
        (results.map Prod.snd).getLast?.map
            (fun l => l.network.rings.map fun r => r.records.map Log.Record.level) =
          some [[.error, .warn, .warn, .warn, .warn, .warn]] ∧
        ∃ (reads : Nat) (whole : List UInt8) (kept : Log.Ring),
          ((Intake.read 3)^[reads] { source }).bytes = whole ++ (((results.map Prod.snd).getLastD
            (start 0 source rules ⟨1, 3⟩ network 1)).lexer.pending.bytes) ∧
          (kept.dropped = 0 ↔ 1 + 3 + Utf8.replaced whole ≤ 10) ∧
          (kept.dropped = 0 → kept.records.countP (·.level = .warn) = 3 + Utf8.replaced whole) := by
  intro source rules calls network session
  have h : session.map (fun results => (results.countP (·.1.readFailed),
      results.countP (·.1.foundUnknown), (results.map Prod.snd).getLast?.map
        (fun l => l.network.rings.map fun r => r.records.map Log.Record.level))) =
      some (1, 3, some [[.error, .warn, .warn, .warn, .warn, .warn]]) := by decide +kernel
  obtain ⟨results, hsession, hresults⟩ := Option.map_eq_some_iff.mp h
  simp only [Prod.mk.injEq] at hresults
  obtain ⟨hfailed, hunknown, hkept⟩ := hresults
  refine ⟨by decide +kernel, results, hsession, hfailed, hunknown, hkept, ?_⟩
  obtain ⟨reads, whole, kept, -, hbytes, -, hroom, hcounts⟩ :=
    diagnostics_add_up source rules ⟨1, 3⟩ 20 0 10 1 0 network calls rfl rfl hsession
  rw [hfailed, hunknown] at hroom
  rw [hunknown] at hcounts
  exact ⟨reads, whole, kept, hbytes, hroom, fun hdropped => (hcounts hdropped).2.1⟩

end RuleLexer.LoggedLexer
