import RuleLexer.Proofs.Lexer.Ending
import RuleLexer.Proofs.Lexer.Exhaustion
import RuleLexer.Proofs.Lexer.MapSource

/-!
# How often topping up asks the source

Topping up makes reads until there are enough bytes in the buffer or a read brings nothing. A source
may give bytes for ever, and what a read brings need not show in the buffer, since the start of a
character waits for its rest. But no more than three bytes wait at a time, and the others have
become at least as many bytes of text, whether they were characters or not. So the buffer has gained
at least as many bytes as there were reads with bytes, less three, and that bounds their number.

`TopsUp` tells what topping up comes to if its rounds are not bounded, and counts the reads.

* `TopsUp.topUp_eq`, `topsUp_of_topUp`: this is what it comes to in any number of rounds that is
  more than the reads.
* `TopsUp.tallied`: the reads are as many as a source counts that is asked in the same way.
* `TopsUp.reads_add_gathered_le`: the bound on the reads.
* `TopsUp.enough_or_dry`, `TopsUp.exists_fault`: how it has ended.
* `ensureBuffered_reads_le`: all of this for a lexer that any changes lead to.
-/

namespace RuleLexer

/-- A source without an end: the same bytes come again and again, one with each read. -/
structure Endless where
  bytes : List UInt8

instance : ByteSource Endless where
  readChunk s _ := match s.bytes with
    | [] => (.pending, s)
    | b :: bytes => (.data [b], ⟨bytes ++ [b]⟩)

namespace Lexer

variable {σ ρ : Type}

/-! ### Counting the reads of a lexer -/

/-- The same lexer with a count of its reads, so many of which were made before. -/
def tallied (l : Lexer σ ρ) (reads : Nat) : Lexer (Counted σ) ρ := l.mapSource (⟨·, reads⟩)

variable [ByteSource σ]

/-- The count goes up with every read and makes no difference. -/
theorem fill_tallied {l : Lexer σ ρ} (he : l.exhausted = false) (reads : Nat) :
    (l.tallied reads).fill = (l.fill.1, l.fill.2.tallied (reads + 1)) := by
  have hrecast : l.tallied reads = l.recast ⟨l.source, reads⟩ [] := (recast_nil l _).symm
  have hreply : (ByteSource.readChunk (⟨l.source, reads⟩ : Counted σ) l.sizes.effectiveChunk).1 =
      (ByteSource.readChunk l.source l.sizes.effectiveChunk).1 := rfl
  rw [hrecast, fill_recast [] hreply he, recast_nil, tallied, mapSource, fill_source he]
  rfl

/-- After a read, what the source replies is what it would have replied one read later. -/
theorem replyAt_fill {l l' : Lexer σ ρ} {k : Nat} (he : l.exhausted = false)
    (h : l.fill = (.ok k, l')) (n : Nat) :
    ByteSource.replyAt l'.sizes.effectiveChunk l'.source n =
      ByteSource.replyAt l.sizes.effectiveChunk l.source (n + 1) := by
  have hsizes := (samePlace_fill l).1.sizes
  have hsource := fill_source he
  rw [h] at hsizes hsource
  rw [hsizes, hsource]
  rfl

/-! ### Rounds without a bound -/

/-- **What topping up comes to**, and how many reads it makes. -/
inductive TopsUp (mark : Nat) :
    (reads : Nat) → Lexer σ ρ → Except LexError Unit → Lexer σ ρ → Prop where
  | enough {l : Lexer σ ρ} (hb : mark ≤ l.buffer.byteLength) : TopsUp mark 0 l (.ok ()) l
  /-- The source is not asked any more. -/
  | exhausted {l : Lexer σ ρ} (hb : l.buffer.byteLength < mark) (he : l.exhausted = true) :
      TopsUp mark 0 l (.ok ()) l
  /-- A read brings nothing. -/
  | dry {l l' : Lexer σ ρ} (hb : l.buffer.byteLength < mark) (he : l.exhausted = false)
      (hf : l.fill = (.ok 0, l')) : TopsUp mark 1 l (.ok ()) l'
  | failed {l l' : Lexer σ ρ} {e : LexError} (hb : l.buffer.byteLength < mark)
      (he : l.exhausted = false) (hf : l.fill = (.error e, l')) : TopsUp mark 1 l (.error e) l'
  | more {l l₁ l' : Lexer σ ρ} {k reads : Nat} {r : Except LexError Unit}
      (hb : l.buffer.byteLength < mark) (he : l.exhausted = false) (hk : k ≠ 0)
      (hf : l.fill = (.ok k, l₁)) (h : TopsUp mark reads l₁ r l') : TopsUp mark (reads + 1) l r l'

variable {mark reads : Nat} {l l' : Lexer σ ρ} {r : Except LexError Unit}

/-- One round where there is too little. -/
theorem topUp_succ_of_lt (hb : l.buffer.byteLength < mark) (n : Nat) :
    topUp mark (n + 1) l = match l.fill with
      | (.error e, l') => some (.error e, l')
      | (.ok k, l') => if k = 0 then some (.ok (), l') else topUp mark n l' := by
  have hlack : ¬ l.buffer.hasBytes mark = true := by
    rw [Text.hasBytes_eq, decide_eq_true_eq, not_le]
    exact hb
  exact (topUp_succ mark n l).trans (if_neg hlack)

/-- **Rounds that are more than the reads suffice**, however many they are. -/
theorem TopsUp.topUp_eq (h : TopsUp mark reads l r l') {rounds : Nat} (hlt : reads < rounds) :
    topUp mark rounds l = some (r, l') := by
  obtain ⟨n, rfl⟩ : ∃ n, rounds = n + reads + 1 := ⟨rounds - reads - 1, by omega⟩
  clear hlt
  induction h with
  | enough hb => rw [topUp_succ, Text.hasBytes_eq, if_pos (decide_eq_true hb)]
  | exhausted hb he =>
    rw [topUp_succ_of_lt hb, fill_of_exhausted _ he]
    rfl
  | dry hb _ hf =>
    rw [topUp_succ_of_lt hb, hf]
    rfl
  | failed hb _ hf => rw [topUp_succ_of_lt hb, hf]
  | more hb _ hk hf _ ih =>
    rw [topUp_succ_of_lt hb, hf]
    simp only [if_neg hk]
    exact ih

/-- **Where rounds suffice**, topping up comes to nothing else. -/
theorem topsUp_of_topUp {rounds : Nat} (h : topUp mark rounds l = some (r, l')) :
    ∃ reads, TopsUp mark reads l r l' := by
  induction rounds generalizing l with
  | zero => cases h
  | succ n ih =>
    by_cases hb : mark ≤ l.buffer.byteLength
    · rw [topUp_succ, Text.hasBytes_eq, if_pos (decide_eq_true hb)] at h
      cases h
      exact ⟨0, .enough hb⟩
    · have hlack : l.buffer.byteLength < mark := not_le.mp hb
      rw [topUp_succ_of_lt hlack] at h
      cases he : l.exhausted with
      | true =>
        -- this round has ended without asking the source
        rw [fill_of_exhausted l he] at h
        cases h
        exact ⟨0, .exhausted hlack he⟩
      | false =>
        split at h
        · next e l₁ hf =>
          cases h
          exact ⟨1, .failed hlack he hf⟩
        · next k l₁ hf =>
          split at h
          · next hk =>
            cases h
            rw [hk] at hf
            exact ⟨1, .dry hlack he hf⟩
          · next hk =>
            obtain ⟨reads, hrest⟩ := ih h
            exact ⟨reads + 1, .more hlack he hk hf hrest⟩

/-- Topping up comes to something, whatever the source gives. -/
theorem exists_topsUp (hs : Utf8.Sound l.pending) (mark : Nat) :
    ∃ reads r l', TopsUp mark reads l r l' := by
  obtain ⟨r, l', h⟩ := topUp_ends hs (Nat.le_add_right (mark + 3) l.gathered)
  obtain ⟨reads, htops⟩ := topsUp_of_topUp h
  exact ⟨reads, r, l', htops⟩

namespace TopsUp

/-- **The reads are as many as the source counts.** -/
theorem tallied (h : TopsUp mark reads l r l') (before : Nat) :
    TopsUp mark reads (l.tallied before) r (l'.tallied (before + reads)) := by
  induction h generalizing before with
  | enough hb => exact .enough hb
  | exhausted hb he => exact .exhausted hb he
  | dry hb he hf => exact .dry hb he (by rw [fill_tallied he, hf])
  | failed hb he hf => exact .failed hb he (by rw [fill_tallied he, hf])
  | @more l l₁ l' k reads r hb he hk hf _ ih =>
    have hrest := ih (before + 1)
    rw [Nat.add_assoc, Nat.add_comm 1 reads] at hrest
    exact .more hb he hk (by rw [fill_tallied he, hf]) hrest

/-- If there is enough, nothing is done. -/
theorem eq_of_enough (h : TopsUp mark reads l r l') (hb : mark ≤ l.buffer.byteLength) :
    reads = 0 ∧ l' = l := by
  cases h with
  | enough _ => exact ⟨rfl, rfl⟩
  | exhausted _ _ => exact ⟨rfl, rfl⟩
  | dry hlack _ _ => omega
  | failed hlack _ _ => omega
  | more hlack _ _ _ _ => omega

/-- **The bound on the reads.** Each read that goes on gathers a byte, and of the bytes gathered no
more than three are missing from the buffer. -/
theorem reads_add_gathered_le (h : TopsUp mark reads l r l') (hs : Utf8.Sound l.pending)
    (hlack : l.buffer.byteLength < mark) : reads + l.gathered ≤ mark + 3 := by
  -- a byte is missing, which leaves room for one more read
  have hone := gathered_le hs
  induction h with
  | enough hb => omega
  | exhausted _ _ => omega
  | dry _ _ _ => omega
  | failed _ _ _ => omega
  | @more l l₁ l' k reads r _ _ hk hf hrest ih =>
    obtain ⟨hs₁, hgathered⟩ := gathered_fill hs hf
    by_cases hlack₁ : l₁.buffer.byteLength < mark
    · have hreads := ih hs₁ hlack₁ (gathered_le hs₁)
      omega
    · have hnone := (hrest.eq_of_enough (not_lt.mp hlack₁)).1
      omega

/-- **If topping up does not fail**, there is enough, or the source is exhausted, or the last read
has brought nothing. -/
theorem enough_or_dry (h : TopsUp mark reads l (.ok ()) l') :
    mark ≤ l'.buffer.byteLength ∨ l'.exhausted = true ∨ ∃ before, reads = before + 1 ∧
      (ByteSource.replyAt l.sizes.effectiveChunk l.source before).outcome = .ok ⟨0, false⟩ := by
  generalize hr : (.ok () : Except LexError Unit) = r at h
  induction h with
  | enough hb => exact Or.inl hb
  | exhausted _ he => exact Or.inr (Or.inl he)
  | @dry l l' _ he hf =>
    have hreply := outcome_of_fill_zero he hf
    cases he' : l'.exhausted with
    | true => exact Or.inr (Or.inl rfl)
    | false =>
      rw [he'] at hreply
      exact Or.inr (Or.inr ⟨0, rfl, hreply⟩)
  | failed _ _ _ => cases hr
  | more _ he _ hf _ ih =>
    rcases ih hr with hb | he' | ⟨before, hreads, hreply⟩
    · exact Or.inl hb
    · exact Or.inr (Or.inl he')
    · rw [replyAt_fill he hf] at hreply
      exact Or.inr (Or.inr ⟨before + 1, congrArg (· + 1) hreads, hreply⟩)

/-- **If topping up fails**, the last read has failed. -/
theorem exists_fault {e : LexError} (h : TopsUp mark reads l (.error e) l') :
    ∃ before fault, reads = before + 1 ∧
      (ByteSource.replyAt l.sizes.effectiveChunk l.source before).outcome = .error fault ∧
      e = .read l.cursor fault := by
  generalize hr : (.error e : Except LexError Unit) = r at h
  induction h with
  | enough _ => cases hr
  | exhausted _ _ => cases hr
  | dry _ _ _ => cases hr
  | failed _ _ hf =>
    cases hr
    obtain ⟨fault, hreply, he, -⟩ := fill_eq_error hf
    exact ⟨0, fault, rfl, hreply, he⟩
  | @more l l₁ l' k reads r _ he _ hf _ ih =>
    obtain ⟨before, fault, hreads, hreply, he'⟩ := ih hr
    have hcursor := (samePlace_fill l).1.cursor
    rw [hf] at hcursor
    rw [replyAt_fill he hf] at hreply
    exact ⟨before + 1, fault, congrArg (· + 1) hreads, hreply, by rw [he', hcursor]⟩

end TopsUp

/-! ### Whatever the source gives -/

/-- **Topping up always ends**, even over a source that gives bytes for ever. Let any changes lead
to a lexer, be it between two calls or in the middle of one.

* Topping up comes to an end, and to the same end in any number of rounds that is more than the
  reads that it makes. They are counted by a source that counts how often it is asked.
* If there are as many bytes in the buffer as are wanted, no read is made and nothing changes.
  Otherwise the reads are no more than the bytes that are missing, and three.
* If it does not fail, there are then as many bytes in the buffer as are wanted, or the source is
  exhausted, or the last of these reads has brought nothing. If it fails, the last of them has
  failed. -/
theorem ensureBuffered_reads_le [TokenRule ρ] (source : σ) (rules : RuleSet ρ) (sizes : BufferSizes)
    (l : Lexer σ ρ) (h : Changes (create source rules sizes) l) :
    ∃ (reads : Nat) (r : Except LexError Unit) (l' : Lexer σ ρ),
      ensureBuffered l = some (r, l') ∧
      (∀ rounds, reads < rounds → topUp sizes.mark rounds l = some (r, l')) ∧
      ensureBuffered (l.tallied 0) = some (r, l'.tallied reads) ∧
      (sizes.mark ≤ l.buffer.byteLength → reads = 0 ∧ l' = l) ∧
      (l.buffer.byteLength < sizes.mark → reads ≤ sizes.mark - l.buffer.byteLength + 3) ∧
      (r = .ok () → sizes.mark ≤ l'.buffer.byteLength ∨ l'.exhausted = true ∨
        ∃ before, reads = before + 1 ∧
          (ByteSource.replyAt sizes.effectiveChunk l.source before).outcome = .ok ⟨0, false⟩) ∧
      ∀ e, r = .error e → ∃ before fault, reads = before + 1 ∧
        (ByteSource.replyAt sizes.effectiveChunk l.source before).outcome = .error fault ∧
        e = .read l.cursor fault := by
  obtain ⟨consumed, haccount⟩ := (Accounted.create source rules sizes).changes h
  obtain ⟨k, -, hstep, -⟩ := haccount.decoded
  have hsound : Utf8.Sound l.pending := hstep.sound
  obtain ⟨reads, r, l', htops⟩ := exists_topsUp hsound l.sizes.mark
  -- the rounds that topping up gives itself are more than the reads
  have hlt : reads < l.sizes.mark + 4 := by
    by_cases hlack : l.buffer.byteLength < l.sizes.mark
    · have hle := htops.reads_add_gathered_le hsound hlack
      omega
    · have hnone := (htops.eq_of_enough (not_lt.mp hlack)).1
      omega
  have htally := htops.tallied 0
  rw [Nat.zero_add] at htally
  rw [← haccount.sizes_eq]
  refine ⟨reads, r, l', ?_, fun rounds hrounds => htops.topUp_eq hrounds, ?_,
    htops.eq_of_enough, ?_, ?_, ?_⟩
  · rw [ensureBuffered_eq]
    exact htops.topUp_eq hlt
  · rw [ensureBuffered_eq]
    exact htally.topUp_eq hlt
  · intro hlack
    have hle := htops.reads_add_gathered_le hsound hlack
    have hbuffer : l.buffer.byteLength ≤ l.gathered := Nat.le_add_right _ _
    omega
  · rintro rfl
    exact htops.enough_or_dry
  · rintro e rfl
    exact htops.exists_fault

/-- Two bytes are wanted. The second that comes starts a character of four bytes, which is no text
before the last of them has come, so five reads are made and the bound is reached. -/
theorem ensureBuffered_reads_le_endless :
    let source : Endless := ⟨[0x61, 0xF0, 0x9F, 0x98, 0x80]⟩
    let rules : RuleSet Rule := ⟨none, [.literals .ident [['a']]]⟩
    ∃ l l' : Lexer Endless Rule, Reached source rules ⟨2, 1⟩ l ∧ l.buffer = [] ∧
      ensureBuffered l = some (.ok (), l') ∧ l'.buffer = ['a', '😀'] ∧
      (∀ rounds, 5 < rounds → topUp 2 rounds l = some (.ok (), l')) ∧
      ensureBuffered (l.tallied 0) = some (.ok (), l'.tallied 5) ∧
      5 = 2 - l.buffer.byteLength + 3 := by
  intro source rules
  have hrun : ((scanWithin 20 (create source rules ⟨2, 1⟩)).bind fun p =>
      (ensureBuffered ((p.2.skipLiteral ['😀']).2.tallied 0)).map fun q =>
        ((p.2.skipLiteral ['😀']).2.buffer, q.1.toOption, q.2.buffer, q.2.source.reads)) =
      some ([], some (), ['a', '😀'], 5) := by decide +kernel
  obtain ⟨⟨answer, l₁⟩, hscan, hrest⟩ := Option.bind_eq_some_iff.mp hrun
  obtain ⟨⟨result, c⟩, hcounted, hres⟩ := Option.map_eq_some_iff.mp hrest
  simp only [Prod.mk.injEq] at hres
  obtain ⟨hempty, hresult, hbuffer, hreads⟩ := hres
  have hcalls : Trace (create source rules ⟨2, 1⟩) [.scan, .skipLiteral ['😀']]
      [l₁, (l₁.skipLiteral ['😀']).2] :=
    .cons (Call.leads_scan hscan) (.cons ⟨20, rfl⟩ (.nil _))
  have hreached : Reached source rules ⟨2, 1⟩ (l₁.skipLiteral ['😀']).2 :=
    ⟨_, _, hcalls, List.mem_cons_of_mem _ (List.mem_cons_of_mem _ (List.mem_cons_self ..))⟩
  obtain ⟨reads, r, l', hensure, hrounds, htally, -⟩ :=
    ensureBuffered_reads_le source rules ⟨2, 1⟩ _ hreached.changes
  rw [hcounted] at htally
  cases htally
  cases hreads
  cases result with
  | error e => cases hresult
  | ok u =>
    exact ⟨_, l', hreached, hempty, hensure, hbuffer, hrounds, hcounted, by rw [hempty]; rfl⟩

end Lexer

end RuleLexer
