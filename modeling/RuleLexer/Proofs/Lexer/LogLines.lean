import RuleLexer.Proofs.Lexer.Journal
import RuleLexer.Proofs.Lexer.Logging
import RuleLexer.Proofs.Lexer.Wording
import RuleLexer.Proofs.Log.Lines

/-!
# The lines of a lexer's log

A record is meant to be one line. The records of a lexer are, but for those of failed reads: these
repeat what the source has said, line breaks and all (`dump_breaks_record`).

Every failed read that a lexer notes is the error of the call that has made it, and the other way
round (`filterMap_journal_of_op`). So the failed reads among the events that a ring has got are
those that the calls have reported (`Logged`), and `dump_lines_of_session` says how many lines the
dump of the ring has: one for each record, and one for each line break in what a source has said
about a read that some call has reported as failed.
-/

namespace RuleLexer

/-- The failed read of an event: where the lexer stood, and what was wrong. -/
def Event.fault? : Event → Option (Position × ReadFault)
  | .readFailed position fault => some (position, fault)
  | _ => none

/-- The failed read of an error. -/
def LexError.fault? : LexError → Option (Position × ReadFault)
  | .read position fault => some (position, fault)
  | .unknownToken .. => none

/-- The failed read that a call has reported. -/
def Lexer.Outcome.fault? (outcome : Lexer.Outcome) : Option (Position × ReadFault) :=
  outcome.error?.bind LexError.fault?

/-! ### Events -/

namespace Event

theorem fault?_eq_some {e : Event} {f : Position × ReadFault} (h : e.fault? = some f) :
    e = .readFailed f.1 f.2 := by
  cases e <;> cases h
  rfl

theorem fault?_eq_none_iff {e : Event} : e.fault? = none ↔ e.level ≠ .error := by
  cases e <;> simp [fault?, level]

/-- A record is broken as often as the words of a failed read are. -/
theorem count_line_record (time : Nat) (e : Event) :
    (e.record time).line.count '\n' = (e.fault?.elim [] fun f => f.2.message).count '\n' := by
  obtain ⟨front, hfront, hmessage⟩ := exists_message_eq e
  have hzero : front.count '\n' = 0 := List.count_eq_zero.mpr hfront.not_mem
  have htarget : (e.record time).target.count '\n' = 0 := by
    show Lexer.logTarget.count '\n' = 0
    decide
  have hverbatim : e.verbatim = e.fault?.elim [] fun f => f.2.message := by cases e <;> rfl
  rw [Log.Record.count_line, htarget, ← hverbatim, Nat.zero_add]
  show e.message.count '\n' = _
  rw [hmessage, List.count_append, hzero, Nat.zero_add]

theorem mem_line_record_iff {time : Nat} {e : Event} :
    '\n' ∈ (e.record time).line ↔ ∃ f, e.fault? = some f ∧ '\n' ∈ f.2.message := by
  rw [← List.count_pos_iff, count_line_record, List.count_pos_iff]
  cases e.fault? <;> simp

/-- The records of some events are broken as often as the words of the failed reads among them. -/
theorem sum_count_line_records (events : List (Nat × Event)) :
    ((events.map fun e => e.2.record e.1).map fun record => record.line.count '\n').sum =
      ((events.filterMap fun e => e.2.fault?).map fun f => f.2.message.count '\n').sum := by
  induction events with
  | nil => rfl
  | cons e events ih =>
    rw [List.map_cons, List.map_cons, List.sum_cons, ih, count_line_record,
      List.filterMap_eq_flatMap_toList, List.filterMap_eq_flatMap_toList, List.flatMap_cons,
      List.map_append, List.sum_append]
    cases e.2.fault? <;> rfl

end Event

/-! ### One call -/

namespace Lexer

variable {σ ρ : Type}

theorem filterMap_journal_eq_nil_iff {l : Lexer σ ρ} :
    l.journal.filterMap Event.fault? = [] ↔ told .error l = 0 := by
  unfold told
  rw [List.filterMap_eq_nil_iff, List.countP_eq_zero]
  simp only [Event.fault?_eq_none_iff, decide_eq_true_eq, ne_eq]

/-- A failed read is noted when it is reported, and only then. -/
theorem upholds_fault [ByteSource σ] :
    Upholds (fun l : Lexer σ ρ => l.journal.filterMap Event.fault? = [])
      (fun e l => l.journal.filterMap Event.fault? = e.fault?.toList) where
  read := by
    intro l l' k hl hf
    rw [filterMap_journal_eq_nil_iff] at hl ⊢
    cases he : l.exhausted with
    | true =>
      rw [fill_of_exhausted l he] at hf
      cases hf
      exact hl
    | false =>
      cases hr : l.reply.outcome with
      | error fault =>
        rw [fill_of_fault l he hr] at hf
        cases hf
      | ok status =>
        have htold := told_fill_of_status (show Log.Level.error.atLeast .warn = true from rfl)
          he hr
        rw [hf, hl] at htold
        exact htold
  fail := by
    intro l l' e hl hf
    obtain ⟨fault, -, rfl, rfl⟩ := fill_eq_error hf
    show ((l.cursor, fault) :: l.journal.filterMap Event.fault?) = _
    rw [hl]
    rfl
  note := by
    intro l e he hl
    rw [filterMap_journal_eq_nil_iff] at hl ⊢
    rw [told_note_of_quiet l rfl he, hl]
  unknown _ hl := hl
  consume _ hl := hl
  exchange _ hl := hl

/-- What a call notes of failed reads is what it reports of them. -/
theorem filterMap_journal_of_op [ByteSource σ] [TokenRule ρ] {c : Call ρ} {rounds : Nat}
    {l l' : Lexer σ ρ} {outcome : Outcome} (hl : l.journal = [])
    (hop : c.op rounds l = some (outcome, l')) :
    l'.journal.filterMap Event.fault? = outcome.fault?.toList := by
  have hupheld := upholds_fault.op (by rw [hl]; rfl) hop
  unfold Outcome.fault?
  cases herror : outcome.error? with
  | none =>
    rw [herror] at hupheld
    exact hupheld
  | some e =>
    rw [herror] at hupheld
    exact hupheld

end Lexer

/-! ### Sessions -/

namespace LoggedLexer

open Lexer (Outcome)

variable {σ ρ : Type}

/-- What a ring has got of a lexer, whose journal is handed over: the records of some events that
were noted at some times, and the failed reads among them are these. -/
structure Logged (l : LoggedLexer σ ρ) (ring capacity : Nat) (floor : Log.Level)
    (faults : List (Position × ReadFault)) (events : List (Nat × Event)) : Prop where
  journal_eq : l.lexer.journal = []
  routed : Log.Routed l.network l.logger ring floor
    ((events.map fun e => e.2.record e.1).foldl Log.Ring.write ⟨capacity, [], 0⟩)
  faults_eq : events.filterMap (fun e => e.2.fault?) = faults

/-- A failed read passes every logger. -/
theorem filterMap_passed (floor : Log.Level) (journal : List Event) :
    (passed floor journal).filterMap Event.fault? = (journal.filterMap Event.fault?).reverse := by
  unfold passed
  rw [List.filterMap_filter, ← List.filterMap_reverse]
  refine List.filterMap_congr fun e _ => ?_
  by_cases he : e.level = .error
  · rw [he, if_pos (by cases floor <;> rfl)]
  · rw [Event.fault?_eq_none_iff.mpr he, ite_self]

namespace Logged

variable {l : LoggedLexer σ ρ} {ring capacity : Nat} {floor : Log.Level}
  {faults : List (Position × ReadFault)} {events : List (Nat × Event)}

/-- A record is broken exactly if it is that of a failed read, and the words of the source have a
line break. -/
theorem broken_iff (h : l.Logged ring capacity floor faults events) {record : Log.Record}
    (hrecord : record ∈ events.map fun e => e.2.record e.1) :
    '\n' ∈ record.line ↔ ∃ f ∈ faults, '\n' ∈ f.2.message ∧
      ∃ time, record = (Event.readFailed f.1 f.2).record time := by
  obtain ⟨⟨time, e⟩, he, rfl⟩ := List.mem_map.mp hrecord
  constructor
  · intro hline
    obtain ⟨f, hf, hmessage⟩ := Event.mem_line_record_iff.mp hline
    rw [← h.faults_eq]
    refine ⟨f, List.mem_filterMap.mpr ⟨_, he, hf⟩, hmessage, time, ?_⟩
    rw [Event.fault?_eq_some hf]
  · rintro ⟨f, -, hmessage, time', heq⟩
    rw [heq]
    exact Event.mem_line_record_iff.mpr ⟨f, rfl, hmessage⟩

/-- Handing over a journal with at most one failed read in it. -/
theorem flush (h : l.Logged ring capacity floor faults events) (time : Nat) (lexer : Lexer σ ρ)
    {fault : Option (Position × ReadFault)}
    (hfault : lexer.journal.filterMap Event.fault? = fault.toList) :
    (flush time { l with lexer }).Logged ring capacity floor (faults ++ fault.toList)
      (events ++ (passed floor lexer.journal).map (time, ·)) where
  journal_eq := rfl
  routed := by
    rw [List.map_append, List.foldl_append, List.map_map]
    exact routed_flush_passed time lexer h.routed
  faults_eq := by
    rw [List.filterMap_append, h.faults_eq, List.filterMap_map]
    show _ ++ (passed floor lexer.journal).filterMap Event.fault? = _
    rw [filterMap_passed, hfault]
    cases fault <;> rfl

variable [ByteSource σ] [TokenRule ρ]

/-- A call adds the failed read that it reports. -/
theorem perform (h : l.Logged ring capacity floor faults events) {time rounds : Nat}
    {c : Lexer.Call ρ} {outcome : Outcome} {l' : LoggedLexer σ ρ}
    (hperform : l.perform time (c.op rounds) = some (outcome, l')) :
    ∃ events', l'.Logged ring capacity floor (faults ++ outcome.fault?.toList) events' := by
  obtain ⟨⟨_, lexer⟩, hop, heq⟩ := Option.map_eq_some_iff.mp hperform
  cases heq
  exact ⟨_, h.flush time lexer (Lexer.filterMap_journal_of_op h.journal_eq hop)⟩

/-- Calls in a row add the failed reads that they report. -/
theorem session (h : l.Logged ring capacity floor faults events) {rounds : Nat}
    {calls : List (Nat × Lexer.Call ρ)} {results : List (Outcome × LoggedLexer σ ρ)}
    (hsession : l.session? rounds (calls.map fun c => .call c.1 c.2) = some results) :
    ∃ events', ((results.map Prod.snd).getLastD l).Logged ring capacity floor
      (faults ++ results.filterMap fun r => r.1.fault?) events' := by
  induction calls generalizing l faults events results with
  | nil =>
    cases hsession
    exact ⟨events, by rwa [List.filterMap_nil, List.append_nil]⟩
  | cons call calls ih =>
    obtain ⟨⟨outcome, l'⟩, hperform, hrest⟩ := Option.bind_eq_some_iff.mp hsession
    obtain ⟨others, hothers, rfl⟩ := Option.map_eq_some_iff.mp hrest
    obtain ⟨events₁, h₁⟩ := h.perform hperform
    obtain ⟨events₂, h₂⟩ := ih h₁ hothers
    refine ⟨events₂, ?_⟩
    rw [List.map_cons, List.getLastD_cons]
    rw [List.filterMap_eq_flatMap_toList, List.flatMap_cons, ← List.filterMap_eq_flatMap_toList,
      ← List.append_assoc]
    exact h₂

end Logged

section

variable [ByteSource σ] [TokenRule ρ]

/-- **Which records of a lexer are one line.** A lexer is made with a logger of any level whose sink
is an empty ring, and is asked any calls at any times. A record of the ring is broken exactly if it
is that of a failed read which some call has reported, and what the source has said about this read
has a line break. So if no source says such a thing, splitting the dump at the line breaks gives the
lines of the records, one by one. And as long as the ring has let nothing go, the dump has a line
for each record and one more for each line break in what the source has said about failed reads. -/
theorem dump_lines_of_session (source : σ) (rules : RuleSet ρ) (sizes : BufferSizes)
    (rounds time capacity logger ring : Nat) (floor : Log.Level) (network : Log.Network)
    (calls : List (Nat × Lexer.Call ρ)) {results : List (Outcome × LoggedLexer σ ρ)}
    (hlogger : network.loggers[logger]? = some ⟨floor, [.ring ring]⟩)
    (hring : network.rings[ring]? = some ⟨capacity, [], 0⟩)
    (hsession : (start time source rules sizes network logger).session? rounds
      (calls.map fun c => .call c.1 c.2) = some results) :
    let final := (results.map Prod.snd).getLastD (start time source rules sizes network logger)
    let faults := results.filterMap fun r => Outcome.fault? r.1
    ∃ kept, final.network.rings[ring]? = some kept ∧
      (∀ record ∈ kept.records, '\n' ∈ record.line ↔
        ∃ f ∈ faults, '\n' ∈ f.2.message ∧
          ∃ time, record = (Event.readFailed f.1 f.2).record time) ∧
      ((∀ f ∈ faults, '\n' ∉ f.2.message) → kept.records ≠ [] →
        kept.dump.splitOn '\n' = kept.records.map Log.Record.line ∧
          (kept.dump.splitOn '\n').length = kept.stats.recordCount) ∧
      (kept.dropped = 0 → kept.records ≠ [] →
        (kept.dump.splitOn '\n').length =
          kept.stats.recordCount + (faults.map fun f => f.2.message.count '\n').sum) := by
  intro final faults
  -- nothing was logged before the lexer was made, and making it is no failed read
  have hbefore : (LoggedLexer.mk { Lexer.create source rules sizes with journal := [] } network
      logger).Logged ring capacity floor [] [] := ⟨rfl, ⟨hlogger, hring⟩, rfl⟩
  have hmade : (Lexer.create source rules sizes).journal.filterMap Event.fault? =
      Option.toList none := rfl
  have hstart := hbefore.flush time (Lexer.create source rules sizes) hmade
  obtain ⟨events, hlogged⟩ := hstart.session hsession
  generalize hrecords : events.map (fun e => e.2.record e.1) = records
  have hring := hlogged.routed.ring_eq
  rw [hrecords, Log.Ring.foldl_write] at hring
  have hbroken (record : Log.Record)
      (hrecord : record ∈ records.drop (records.length - capacity)) :=
    hlogged.broken_iff (hrecords ▸ List.mem_of_mem_drop hrecord)
  refine ⟨_, hring, hbroken, ?_, ?_⟩
  · intro hnone hne
    have hlines := Log.Ring.splitOn_dump (r := ⟨capacity, _, _⟩) (fun record hrecord hline => by
      obtain ⟨f, hf, hmessage, -⟩ := (hbroken record hrecord).mp hline
      exact hnone f hf hmessage) hne
    refine ⟨hlines, ?_⟩
    rw [hlines, List.length_map]
    rfl
  · intro hdropped hne
    have hall : records.drop (records.length - capacity) = records := by
      rw [show records.length - capacity = 0 from hdropped, List.drop_zero]
    have hsum : (records.map fun record => record.line.count '\n').sum =
        (faults.map fun f => f.2.message.count '\n').sum := by
      rw [← hrecords, Event.sum_count_line_records, hlogged.faults_eq]
      rfl
    rw [Log.Ring.length_splitOn_dump hne, ← hsum]
    show (records.drop _).length + ((records.drop _).map _).sum = (records.drop _).length + _
    rw [hall]

/-- Two reads fail, and about the first one the source says two lines. The logger lets everything
through, and the ring has room for it. -/
theorem dump_lines_of_session_script :
    let source : Script :=
      ⟨[.fail ⟨.other [], "one\ntwo".toList⟩, .data [0x61], .fail ⟨.other [], "gone".toList⟩]⟩
    let rules : RuleSet Rule := ⟨none, [.literals .ident [['a']]]⟩
    let calls : List (Nat × Lexer.Call Rule) := [(0, .scan), (1, .scan), (2, .scan)]
    let network : Log.Network := ⟨[.silent, ⟨.trace, [.ring 0]⟩], [⟨20, [], 0⟩]⟩
    let session := (start 0 source rules ⟨1, 3⟩ network 1).session? 20
      (calls.map fun c => .call c.1 c.2)
    ∃ results, session = some results ∧
      (results.filterMap fun r => Outcome.fault? r.1).map (·.2.message) =
        ["one\ntwo".toList, "gone".toList] ∧
      ∃ kept : Log.Ring, ((results.map Prod.snd).getLastD
          (start 0 source rules ⟨1, 3⟩ network 1)).network.rings[0]? = some kept ∧
        kept.records.length = 7 ∧ (kept.dump.splitOn '\n').length = 8 := by
  intro source rules calls network session
  have h : session.map (fun results =>
      ((results.filterMap fun r => Outcome.fault? r.1).map (·.2.message),
        ((results.map Prod.snd).getLastD (start 0 source rules ⟨1, 3⟩ network 1)).network.rings.map
          fun r => (r.dropped, r.records.length))) =
      some (["one\ntwo".toList, "gone".toList], [(0, 7)]) := by decide +kernel
  obtain ⟨results, hsession, hresults⟩ := Option.map_eq_some_iff.mp h
  simp only [Prod.mk.injEq] at hresults
  obtain ⟨hfaults, hrings⟩ := hresults
  obtain ⟨kept, hkept, -, -, hlines⟩ := dump_lines_of_session source rules ⟨1, 3⟩ 20 0 20 1 0 .trace
    network calls rfl rfl hsession
  refine ⟨results, hsession, hfaults, kept, hkept, ?_⟩
  have hnumbers := congrArg (·[0]?) hrings
  simp only [List.getElem?_map, hkept, Option.map_some, List.getElem?_cons_zero, Option.some.injEq,
    Prod.mk.injEq] at hnumbers
  obtain ⟨hdropped, hlength⟩ := hnumbers
  have hbreaks : ((results.filterMap fun r => Outcome.fault? r.1).map
      fun f => f.2.message.count '\n').sum = 1 := by
    have hcounts := congrArg (List.map (List.count '\n')) hfaults
    rw [List.map_map] at hcounts
    exact congrArg List.sum hcounts
  have hne : kept.records ≠ [] := by
    intro hnil
    rw [hnil] at hlength
    cases hlength
  have hsplit := hlines hdropped hne
  rw [hbreaks] at hsplit
  exact ⟨hlength, hsplit.trans (congrArg (· + 1) hlength)⟩

end

/-- A record of two lines. The source says two lines about a read that has failed, and these are
repeated as they are: the ring has one record, but its dump has two lines. -/
theorem dump_breaks_record :
    let source : Script := ⟨[.fail ⟨.other "Other".toList, "disk\ngone".toList⟩]⟩
    let rules : RuleSet Rule := ⟨none, []⟩
    let network : Log.Network := ⟨[⟨.error, [.ring 0]⟩], [⟨10, [], 0⟩]⟩
    let session := (start 0 source rules {} network 0).session? 20 [.call 0 .scan]
    session.map (List.map fun p => p.2.network.rings.map fun kept =>
        (kept.stats.recordCount, (kept.dump.splitOn '\n').length)) = some [[(1, 2)]] ∧
      session.map (List.map fun p => p.2.network.rings.map fun kept =>
        kept.records.map fun record => (record.message, decide ('\n' ∈ record.line))) =
        some [[[("Read failed at 1:1: disk\ngone".toList, true)]]] := by
  decide +kernel

end LoggedLexer

end RuleLexer
