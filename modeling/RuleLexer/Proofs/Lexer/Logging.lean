import RuleLexer.Rule
import RuleLexer.Source.Script
import RuleLexer.Proofs.Lexer.Simulation
import RuleLexer.Proofs.Log.Ring

/-!
# Logging does not interfere

A lexer with a logger hands its journal over after every call and starts an empty one; a lexer alone
writes on and on in the same journal. `session?_eq_run?` runs the two side by side: whatever the
logger keeps, and whatever is done to it between the calls, both answer alike and are the same
lexers but for the journal. So two lexers with different loggers cannot be told apart either
(`session_unaffected_by_logging`).

What the logger does get is the part of the journal that is grave enough for it (`passed`): if it
has one ring as its sink, the records of these events are written to that ring
(`routed_flush_passed`).
-/

namespace RuleLexer

variable {σ ρ : Type}

namespace Lexer

/-- The lexer without its journal. -/
def unlogged (l : Lexer σ ρ) : Lexer σ ρ := { l with journal := [] }

/-- A source replies to itself alike. -/
theorem replyAlike_eq [ByteSource σ] (size : Nat) : ReplyAlike size (Eq : σ → σ → Prop) := by
  rintro s _ rfl
  exact ⟨rfl, rfl⟩

end Lexer

namespace LoggedLexer

/-! ### What the logger gets -/

/-- The events of a journal that pass a logger of some level, oldest first. -/
def passed (floor : Log.Level) (journal : List Event) : List Event :=
  journal.reverse.filter (·.level.atLeast floor)

/-- Handing over a journal writes the events that pass to the ring of the logger. -/
theorem routed_flush_passed {ring : Nat} {floor : Log.Level} {state : Log.Ring} (time : Nat)
    (l : Lexer σ ρ) {network : Log.Network} {logger : Nat}
    (h : Log.Routed network logger ring floor state) :
    Log.Routed (flush time ⟨l, network, logger⟩).network logger ring floor
      (((passed floor l.journal).map (·.record time)).foldl Log.Ring.write state) := by
  show Log.Routed (l.journal.foldr (fun e n =>
    if n.enabled logger e.level then n.log logger (e.record time) else n) network) _ _ _ _
  unfold passed
  induction l.journal with
  | nil => exact h
  | cons e journal ih =>
    rw [List.foldr_cons, ih.enabled_eq, List.reverse_cons, List.filter_append, List.map_append,
      List.foldl_append]
    by_cases he : e.level.atLeast floor = true
    · simp only [he, if_true, List.filter_cons, List.filter_nil]
      exact ih.log (show (e.record time).level.atLeast floor = true from he)
    · simp only [he, List.filter_cons, List.filter_nil]
      exact ih

/-! ### Sessions seen without the logger -/

open Lexer (Outcome Recast run? simulates_recast replyAlike_eq follows_self)

/-- What a caller sees of a call: its outcome and the lexer after it, but not the logger. -/
def seen (p : Outcome × LoggedLexer σ ρ) : Outcome × Lexer σ ρ := (p.1, p.2.lexer)

/-- Once the journal is handed over, the lexer alone has all of it in its own. -/
theorem recast_flush {size : Nat} {older : List Event} {l m : Lexer σ ρ} (time : Nat)
    (network : Log.Network) (logger : Nat) (h : Recast size Eq older l m) :
    Recast size Eq (l.journal ++ older) (flush time ⟨l, network, logger⟩).lexer m :=
  ⟨h.size_eq, h.source, h.eq_recast⟩

/-- A new lexer with a logger has handed its first note over; the lexer alone still has it. -/
theorem recast_start (time : Nat) (source : σ) (rules : RuleSet ρ) (sizes : BufferSizes)
    (network : Log.Network) (logger : Nat) :
    Recast sizes.effectiveChunk Eq (Lexer.create source rules sizes).journal
      (start time source rules sizes network logger).lexer (.create source rules sizes) :=
  ⟨rfl, rfl, rfl⟩

variable [ByteSource σ] [TokenRule ρ]

/-- A session is a run of the lexer alone, seen without the journal. -/
theorem session?_eq_run? (rounds : Nat) (turns : List (Turn ρ)) {l : LoggedLexer σ ρ}
    {m : Lexer σ ρ} {size : Nat} {older : List Event} (h : Recast size Eq older l.lexer m) :
    (l.session? rounds turns).map (List.map seen) =
      (run? rounds m (turns.filterMap Turn.call?)).map
        (List.map fun p => (p.1, p.2.unlogged)) := by
  induction turns generalizing l m older with
  | nil => rfl
  | cons turn turns ih =>
    cases turn with
    | meanwhile change => exact ih (l := { l with network := change l.network }) h
    | call time c =>
      have hop := (simulates_recast (replyAlike_eq size) older).op c rounds h
      show ((((c.op rounds l.lexer).map fun p => (p.1, flush time { l with lexer := p.2 })).bind
        fun p => (session? rounds p.2 turns).map (p :: ·)).map _) =
        ((c.op rounds m).bind fun p => (run? rounds p.2 _).map (p :: ·)).map _
      generalize c.op rounds l.lexer = x, c.op rounds m = y at hop
      cases hop with
      | none => rfl
      | @some p q hpq =>
        obtain ⟨hsame, hfollows⟩ := hpq
        have hafter : Recast size Eq older p.2 q.2 := follows_self.mp hfollows
        have hlexer : p.2.unlogged = q.2.unlogged := by
          rw [hafter.eq_recast, ← hafter.source]
          rfl
        have hrest := ih (l := flush time { l with lexer := p.2 }) (recast_flush time _ _ hafter)
        simp only [Option.map_some, Option.bind_some, Option.map_map]
        have hcons : (List.map seen ∘ ((p.1, flush time { l with lexer := p.2 }) :: ·)) =
            ((q.1, q.2.unlogged) :: ·) ∘ List.map seen := by
          funext rest
          rw [← hlexer, hsame]
          rfl
        rw [hcons, ← Option.map_map, hrest, Option.map_map]
        rfl

/-- **Logging does not interfere with scanning.** Two sessions over the same source, with the same
rules and sizes and the same calls, are seen alike, however their loggers and rings are set up and
whatever is done to these between the calls, at whatever times: each call has the same outcome, and
after it the lexer is the same in every field, the source with what it counts included. Both are
what is seen of a lexer without any logger. If a call does not come to its end in one of them, it
does not in the others either. -/
theorem session_unaffected_by_logging (source : σ) (rules : RuleSet ρ) (sizes : BufferSizes)
    (rounds time₁ time₂ : Nat) (network₁ network₂ : Log.Network) (logger₁ logger₂ : Nat)
    (turns₁ turns₂ : List (Turn ρ))
    (hcalls : turns₁.filterMap Turn.call? = turns₂.filterMap Turn.call?) :
    let first := (start time₁ source rules sizes network₁ logger₁).session? rounds turns₁
    let second := (start time₂ source rules sizes network₂ logger₂).session? rounds turns₂
    first.map (List.map seen) = second.map (List.map seen) ∧
      first.map (List.map seen) =
        (run? rounds (.create source rules sizes) (turns₁.filterMap Turn.call?)).map
          (List.map fun p => (p.1, p.2.unlogged)) := by
  intro first second
  have hfirst := session?_eq_run? rounds turns₁
    (recast_start time₁ source rules sizes network₁ logger₁)
  have hsecond := session?_eq_run? rounds turns₂
    (recast_start time₂ source rules sizes network₂ logger₂)
  rw [← hcalls] at hsecond
  exact ⟨hfirst.trans hsecond.symm, hfirst⟩

/-- A silent logger, and one that keeps everything in a ring with room for one record until it is
told to keep nothing but errors. Between the calls the source fails, brings a byte that is no
character, and announces more bytes than it has written. -/
theorem session_unaffected_by_logging_script :
    let source : Counted Script :=
      ⟨⟨[.data [0x61], .fail ⟨.other [], []⟩, .data [0xFF, 0x62], .report [0x63] ⟨2, true⟩]⟩, 0⟩
    let rules : RuleSet Rule := ⟨none, [.literals .ident [['a'], ['b']]]⟩
    let turns₁ : List (Turn Rule) :=
      [.call 0 .scan, .call 0 (.next false), .call 0 (.skipLiteral ['\uFFFD']), .call 0 .scan]
    let turns₂ : List (Turn Rule) :=
      [.call 3 .scan, .call 4 (.next false), .meanwhile (·.setLevel 0 .error),
        .call 5 (.skipLiteral ['\uFFFD']), .meanwhile (·.attach 0 .console), .call 7 .scan]
    let silent : Log.Network := ⟨[.silent], []⟩
    let talkative : Log.Network := ⟨[⟨.trace, [.ring 0]⟩], [⟨1, [], 0⟩]⟩
    let first := (start 0 source rules ⟨1, 2⟩ silent 0).session? 20 turns₁
    let second := (start 2 source rules ⟨1, 2⟩ talkative 0).session? 20 turns₂
    turns₁.filterMap Turn.call? = turns₂.filterMap Turn.call? ∧
      first.map (List.map fun p => (p.2.lexer.cursor.offset, p.2.lexer.source.reads)) =
        some [(0, 2), (1, 3), (4, 3), (5, 4)] ∧
      second.map (List.map fun p => p.2.network.rings.map Log.Ring.dropped) =
        some [[2], [6], [6], [6]] ∧
      first.map (List.map seen) = second.map (List.map seen) := by
  intro source rules turns₁ turns₂ silent talkative first second
  refine ⟨rfl, ?_, ?_, (session_unaffected_by_logging source rules ⟨1, 2⟩ 20 0 2 silent talkative
    0 0 turns₁ turns₂ rfl).1⟩
  · decide +kernel
  · decide +kernel

end LoggedLexer

end RuleLexer
