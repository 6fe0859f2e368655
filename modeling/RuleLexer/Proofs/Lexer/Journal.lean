import RuleLexer.Proofs.Lexer.Account
import RuleLexer.Proofs.Lexer.Simulation

/-!
# What a lexer warns of

A lexer notes an error when a read fails, and a warning when no rule recognises the text and for
every replacement character that decoding puts into the text. All else that it notes is quiet.

* `told_fill_of_fault`, `told_fill_of_status`: what one read adds to these notes.
* `Booked`: the errors and warnings noted so far are so many failed reads, and so many unknown
  tokens and replacement characters in the pieces decoded so far.
* `Booked.run`: after calls in a row, the failed reads and unknown tokens are those that the calls
  have given as their errors.
-/

namespace RuleLexer

namespace Lexer

variable {σ ρ : Type}

/-- How often something was noted that is so grave. -/
def told (level : Log.Level) (l : Lexer σ ρ) : Nat := l.journal.countP (·.level = level)

section

variable (level : Log.Level) (l : Lexer σ ρ)

theorem told_note (e : Event) :
    told level (l.note e) = told level l + if e.level = level then 1 else 0 := by
  show List.countP _ (e :: l.journal) = _
  rw [List.countP_cons]
  simp only [decide_eq_true_eq]
  rfl

/-- What is quiet is neither a warning nor an error. -/
theorem told_note_of_quiet {level : Log.Level} (hlevel : level.atLeast .warn = true) {e : Event}
    (he : e.Quiet) : told level (l.note e) = told level l := by
  rw [told_note, if_neg, Nat.add_zero]
  rintro rfl
  exact absurd (hlevel.symm.trans he) (by decide)

/-! ### One read -/

/-- Pieces that are no characters are warned of one by one. -/
theorem told_append (pieces : List Utf8.Piece) :
    told level (l.append pieces) =
      told level l + if level = .warn then Utf8.replacements pieces else 0 := by
  unfold told append
  simp only [List.countP_append, List.countP_reverse]
  rw [Nat.add_comm]
  congr 1
  induction pieces with
  | nil => simp
  | cons x pieces ih =>
    cases x with
    | char c => simpa using ih
    | invalid bytes =>
      have hwarn : (Event.invalidBytes bytes l.cursor).level = .warn := rfl
      simp only [List.filterMap_cons, List.countP_cons, ih, Utf8.replacements_invalid_cons, hwarn,
        decide_eq_true_eq, eq_comm (a := Log.Level.warn)]
      split_ifs <;> rfl

/-- The end of the input inside a character is warned of. -/
theorem told_flushPending :
    told level l.flushPending =
      told level l + if level = .warn then Utf8.replacements (Utf8.finish l.pending) else 0 := by
  unfold flushPending Utf8.finish
  split_ifs with hempty hlevel hlevel
  · rfl
  · rfl
  · subst hlevel
    exact told_note _ l (.incompleteBytes l.pending.bytes)
  · have hother : (Event.incompleteBytes l.pending.bytes).level ≠ level := Ne.symm hlevel
    have hnote := told_note level l (.incompleteBytes l.pending.bytes)
    rwa [if_neg hother] at hnote

/-- The pieces that new bytes complete, and at the end of the input what is left. -/
def decodedPieces (bytes : List UInt8) : List Utf8.Piece :=
  (Utf8.decode l.pending bytes).1 ++
    if l.exhausted then Utf8.finish (Utf8.decode l.pending bytes).2 else []

theorem told_decode (bytes : List UInt8) :
    told level (l.decode bytes) =
      told level l + if level = .warn then Utf8.replacements (l.decodedPieces bytes) else 0 := by
  have happend := told_append level l (Utf8.decode l.pending bytes).1
  unfold decode decodedPieces
  simp only
  cases he : l.exhausted with
  | false =>
    have he' : (l.append (Utf8.decode l.pending bytes).1).exhausted = false := he
    rw [if_neg (ne_true_of_eq_false he'), if_neg Bool.false_ne_true, List.append_nil]
    exact happend
  | true =>
    have he' : (l.append (Utf8.decode l.pending bytes).1).exhausted = true := he
    have hflush : told level (flushPending { l.append (Utf8.decode l.pending bytes).1 with
          pending := (Utf8.decode l.pending bytes).2 }) =
        told level (l.append (Utf8.decode l.pending bytes).1) +
          if level = .warn then Utf8.replacements (Utf8.finish (Utf8.decode l.pending bytes).2)
          else 0 := told_flushPending _ _
    rw [if_pos he', if_pos rfl, Utf8.replacements_append, hflush, happend]
    split_ifs <;> omega

theorem told_accept {level : Log.Level} (hlevel : level.atLeast .warn = true)
    (status : ReadStatus) :
    told level (l.accept status).2 =
      told level l + if level = .warn then Utf8.replacements (l.broughtPieces status) else 0 := by
  -- before decoding, only the end of the input is marked and something quiet is noted
  obtain ⟨m, hm, htold, hpieces⟩ : ∃ m,
      (if status.exhausted then { l.note .exhausted with exhausted := true }
        else if min status.read l.sizes.effectiveChunk = 0 then l.note .nothingYet else l) = m ∧
      told level m = told level l ∧
        m.decodedPieces (areaBytes m.area (min status.read l.sizes.effectiveChunk)) =
          l.broughtPieces status := by
    unfold broughtPieces endsWith decodedPieces
    by_cases h1 : status.exhausted = true
    · rw [h1]
      exact ⟨_, rfl, told_note_of_quiet l hlevel (e := .exhausted) rfl, rfl⟩
    · rw [Bool.eq_false_iff.mpr h1]
      by_cases h2 : min status.read l.sizes.effectiveChunk = 0
      · rw [if_pos h2]
        exact ⟨_, rfl, told_note_of_quiet l hlevel (e := .nothingYet) rfl, rfl⟩
      · rw [if_neg h2]
        exact ⟨_, rfl, rfl, rfl⟩
  unfold accept
  simp only [hm]
  rw [told_note_of_quiet _ hlevel (e := .readBytes _ _) rfl, ← htold, ← hpieces, ← told_decode]
  split_ifs <;> rfl

end

section

variable [ByteSource σ] {l : Lexer σ ρ}

/-- **A failed read** is an error. -/
theorem told_fill_of_fault (level : Log.Level) (he : l.exhausted = false) {fault : ReadFault}
    (hr : l.reply.outcome = .error fault) :
    told level l.fill.2 = told level l + if level = .error then 1 else 0 := by
  rw [fill_of_fault l he hr, told_note]
  simp only [Event.level, eq_comm (a := Log.Level.error)]
  rfl

/-- **Any other read** warns of the replacement characters that it brings. -/
theorem told_fill_of_status {level : Log.Level} (hlevel : level.atLeast .warn = true)
    (he : l.exhausted = false) {status : ReadStatus} (hr : l.reply.outcome = .ok status) :
    told level l.fill.2 = told level l +
      if level = .warn then Utf8.replacements (l.asked.broughtPieces status) else 0 := by
  rw [fill_eq_accept he hr, told_accept _ hlevel]
  rfl

end

/-! ### The whole run -/

/-- What was noted so far adds up. The lexer was made for the source and the sizes, and has made
some number of reads since. It has noted so many failed reads as errors, and as warnings so many
unknown tokens and all replacement characters in the pieces decoded so far. -/
structure Booked [ByteSource σ] (source : σ) (sizes : BufferSizes) (faults unknown : Nat)
    (l : Lexer σ ρ) : Prop where
  sizes_eq : l.sizes = sizes
  errors : told .error l = faults
  warnings : ∃ k, (∀ count, CountsReads count → count l.source = count source + k) ∧
    l.InStep ((Intake.read sizes.effectiveChunk)^[k] { source }) ∧
    told .warn l =
      unknown + Utf8.replacements ((Intake.read sizes.effectiveChunk)^[k] { source }).pieces

namespace Booked

variable [ByteSource σ] {source : σ} {sizes : BufferSizes} {faults unknown : Nat}
  {l : Lexer σ ρ}

theorem create (source : σ) (rules : RuleSet ρ) (sizes : BufferSizes) :
    Booked source sizes 0 0 (Lexer.create source rules sizes) :=
  ⟨rfl, rfl, 0, fun _ _ => rfl, inStep_create source rules sizes, rfl⟩

/-- A change of other fields makes no difference, and neither does a change of the journal that
notes so many errors and warnings of unknown tokens more. -/
theorem of_eq {l' : Lexer σ ρ} (h : Booked source sizes faults unknown l) (errors warnings : Nat)
    (hsizes : l'.sizes = l.sizes) (hsource : l'.source = l.source) (harea : l'.area = l.area)
    (hexhausted : l'.exhausted = l.exhausted) (hpending : l'.pending = l.pending)
    (herrors : told .error l' = told .error l + errors)
    (hwarnings : told .warn l' = told .warn l + warnings) :
    Booked source sizes (faults + errors) (unknown + warnings) l' := by
  obtain ⟨k, hcount, hstep, hwarn⟩ := h.warnings
  refine ⟨hsizes.trans h.sizes_eq, by rw [herrors, h.errors], k, ?_,
    ⟨hsource.trans hstep.source, harea.trans hstep.area, hexhausted.trans hstep.exhausted,
      hpending.trans hstep.pending⟩, ?_⟩
  · intro count hc
    rw [hsource]
    exact hcount count hc
  · rw [hwarnings, hwarn]
    omega

/-- A read: it is an error if it fails, and else what it brings is accounted for. -/
theorem fill (h : Booked source sizes faults unknown l) :
    Booked source sizes (faults + if l.fill.1.isOk then 0 else 1) unknown l.fill.2 := by
  obtain ⟨k, hcount, hstep, hwarn⟩ := h.warnings
  cases he : l.exhausted with
  | true =>
    rw [fill_of_exhausted l he]
    exact h
  | false =>
    -- the lexer and the intake have made one more read
    have hstep' := hstep.fill.1
    have hsizes : l.fill.2.sizes = sizes := (samePlace_fill l).1.sizes.trans h.sizes_eq
    have hcount' (count : σ → Nat) (hc : CountsReads count) :
        count l.fill.2.source = count source + (k + 1) := by
      rw [fill_source he, hc, hcount count hc]
      omega
    rw [h.sizes_eq, ← Function.iterate_succ_apply' (Intake.read sizes.effectiveChunk)] at hstep'
    cases hr : l.reply.outcome with
    | error fault =>
      have herror := told_fill_of_fault .error he hr
      have hwarning := told_fill_of_fault .warn he hr
      have hpieces := hstep.pieces_read_of_fault he hr
      rw [h.sizes_eq, ← Function.iterate_succ_apply' (Intake.read sizes.effectiveChunk)] at hpieces
      have hfails : l.fill.1.isOk = false := by
        rw [fill_of_fault l he hr]
        rfl
      refine ⟨hsizes, ?_, k + 1, hcount', hstep', ?_⟩
      · rw [herror, h.errors, hfails]
        rfl
      · rw [hwarning, hwarn, hpieces]
        rfl
    | ok status =>
      have herror := told_fill_of_status (show Log.Level.error.atLeast .warn = true from rfl) he hr
      have hwarning := told_fill_of_status (show Log.Level.warn.atLeast .warn = true from rfl) he hr
      have hpieces := hstep.pieces_read_of_status he hr
      rw [h.sizes_eq, ← Function.iterate_succ_apply' (Intake.read sizes.effectiveChunk)] at hpieces
      have hbrings : l.fill.1.isOk = true := by
        obtain ⟨journal, hf⟩ := fill_of_status he hr
        rw [hf]
        rfl
      refine ⟨hsizes, ?_, k + 1, hcount', hstep', ?_⟩
      · rw [herror, h.errors, hbrings]
        rfl
      · rw [hwarning, hwarn, hpieces, Utf8.replacements_append]
        exact Nat.add_assoc ..

/-- Everything that a lexer does keeps the books: a failed read and an unknown token are entered,
all else makes no difference. -/
theorem upholds (source : σ) (sizes : BufferSizes) (faults unknown : Nat) :
    Upholds (Booked source sizes faults unknown (ρ := ρ)) fun e =>
      match e with
      | .read .. => Booked source sizes (faults + 1) unknown
      | .unknownToken .. => Booked source sizes faults (unknown + 1) where
  read hl hf := by
    have hfill := hl.fill
    rwa [hf] at hfill
  fail := by
    rintro l l' e hl hf
    have hfill := hl.fill
    rw [hf] at hfill
    obtain ⟨fault, -, rfl, -⟩ := fill_eq_error hf
    exact hfill
  note he hl := hl.of_eq 0 0 rfl rfl rfl rfl rfl (told_note_of_quiet _ rfl he)
    (told_note_of_quiet _ rfl he)
  unknown literal hl := hl.of_eq 0 1 rfl rfl rfl rfl rfl (told_note _ _ _) (told_note _ _ _)
  consume _ hl := hl.of_eq 0 0 rfl rfl rfl rfl rfl rfl rfl
  exchange _ hl := hl.of_eq 0 0 rfl rfl rfl rfl rfl rfl rfl

variable [TokenRule ρ]

/-- A call enters its error, if it has given one. -/
theorem op (h : Booked source sizes faults unknown l) {c : Call ρ} {rounds : Nat}
    {outcome : Outcome} {l' : Lexer σ ρ} (hop : c.op rounds l = some (outcome, l')) :
    Booked source sizes (faults + outcome.readFailed.toNat)
      (unknown + outcome.foundUnknown.toNat) l' := by
  have hupheld := (upholds source sizes faults unknown).op h hop
  unfold Outcome.readFailed Outcome.foundUnknown
  generalize outcome.error? = error at hupheld
  rcases error with _ | ⟨literal, position⟩ | ⟨position, fault⟩
  · exact hupheld
  · exact hupheld
  · exact hupheld

/-- **Calls in a row** enter their errors one by one. -/
theorem run (h : Booked source sizes faults unknown l) {calls : List (Call ρ)} {rounds : Nat}
    {results : List (Outcome × Lexer σ ρ)} (hrun : run? rounds l calls = some results) :
    Booked source sizes (faults + results.countP (·.1.readFailed))
      (unknown + results.countP (·.1.foundUnknown)) ((results.map Prod.snd).getLastD l) := by
  induction calls generalizing faults unknown l results with
  | nil =>
    cases hrun
    exact h
  | cons c calls ih =>
    obtain ⟨first, hop, hrest⟩ := Option.bind_eq_some_iff.mp hrun
    obtain ⟨others, hothers, rfl⟩ := Option.map_eq_some_iff.mp hrest
    have hall := ih (h.op hop) hothers
    -- what this call has entered comes first
    have hsum (before others : Nat) (entered : Bool) :
        before + (others + if entered = true then 1 else 0) = before + entered.toNat + others := by
      cases entered <;> simp +arith
    rw [List.map_cons, List.getLastD_cons, List.countP_cons, List.countP_cons, hsum, hsum]
    exact hall

end Booked

end Lexer

end RuleLexer
