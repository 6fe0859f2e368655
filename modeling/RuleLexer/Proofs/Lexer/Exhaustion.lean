import RuleLexer.Proofs.Lexer.OneByte
import RuleLexer.Proofs.Lexer.Skimming

/-!
# The end of the input

A source may say that it is at its end with any of its reads, in the middle of any of the loops, and
with bytes or without. From then on it is not asked again. That no token is found can mean this end,
or only that there is nothing to be had at the moment, and the lexer tells the two apart.

* `Asked`: the reads of a lexer so far are the first reads of its source, of which only the last can
  have ended the input. Every change keeps to it (`Asked.changes`).
* `Changes.of_exhausted`: a lexer that is exhausted stays so and leaves its source alone.
* `Drained`: at the end of the input and with nothing in the buffer, all there ever is to be found
  is nothing (`Drained.peekWithin`, `Drained.changes`).
* `toppedUp_of_tryRules`: a pass without a token ends on a buffer that was topped up, so that an
  empty buffer means that the last read has brought nothing.
* `end_is_final`: all of this after any calls, over any source.
-/

namespace RuleLexer

/-- The source has said that it is at its end. -/
def ReadReply.ends (r : ReadReply) : Bool :=
  match r.outcome with
  | .ok status => status.exhausted
  | .error _ => false

/-- The reply of a source to its reads, one after the other, the first of them at zero. -/
def ByteSource.replyAt {σ : Type} [ByteSource σ] (size : Nat) (s : σ) (k : Nat) : ReadReply :=
  (ByteSource.readChunk ((ByteSource.after size)^[k] s) size).1

namespace Lexer

variable {σ ρ : Type} [ByteSource σ]

/-! ### No read behind the end -/

/-- The reads so far of a lexer that was made for a source: only the last of them can have ended the
input, and the lexer is exhausted if and only if it has. -/
structure Asked (source : σ) (sizes : BufferSizes) (reads : Nat) (l : Lexer σ ρ) : Prop where
  sizes_eq : l.sizes = sizes
  source_eq : l.source = (ByteSource.after sizes.effectiveChunk)^[reads] source
  last : ∀ k < reads, (ByteSource.replyAt sizes.effectiveChunk source k).ends = true →
    k + 1 = reads
  exhausted_iff : l.exhausted = true ↔
    ∃ k < reads, (ByteSource.replyAt sizes.effectiveChunk source k).ends = true

/-- A read ends the input if and only if the source has said so. -/
theorem exhausted_fill {l : Lexer σ ρ} (he : l.exhausted = false) :
    l.fill.2.exhausted = l.reply.ends := by
  unfold ReadReply.ends
  rcases l.fill_cases with ⟨he', -⟩ | ⟨-, fault, hr, hf⟩ | ⟨-, status, journal, hr, hf⟩
  · rw [he] at he'
    cases he'
  · rw [hf, hr]
    exact he
  · rw [hf, hr]

/-- A read without bytes: the source has announced none, since the read area is not empty. -/
theorem outcome_of_fill_zero {l l' : Lexer σ ρ} (he : l.exhausted = false)
    (h : l.fill = (.ok 0, l')) : l.reply.outcome = .ok ⟨0, l'.exhausted⟩ := by
  rcases fill_eq_ok h with ⟨he', -⟩ | ⟨-, ⟨read, exhausted⟩, journal, hr, hk, rfl⟩
  · rw [he] at he'
    cases he'
  · have hlen : (l.asked.counted ⟨read, exhausted⟩).length = min read l.sizes.effectiveChunk :=
      length_areaBytes _ _
    have hpos : 1 ≤ l.sizes.effectiveChunk := Nat.le_max_right _ _
    have hread : read = 0 := by omega
    rw [hr, hread]

namespace Asked

variable {source : σ} {sizes : BufferSizes} {reads : Nat} {l l' : Lexer σ ρ}

theorem create (source : σ) (rules : RuleSet ρ) (sizes : BufferSizes) :
    Asked source sizes 0 (create source rules sizes) := by
  refine ⟨rfl, rfl, fun k hk => absurd hk (Nat.not_lt_zero k), ?_⟩
  constructor
  · intro h
    cases h
  · rintro ⟨k, hk, -⟩
    exact absurd hk (Nat.not_lt_zero k)

/-- A change of other fields makes no difference. -/
theorem of_eq (h : Asked source sizes reads l) (hsizes : l'.sizes = l.sizes)
    (hsource : l'.source = l.source) (hexhausted : l'.exhausted = l.exhausted) :
    Asked source sizes reads l' :=
  ⟨hsizes.trans h.sizes_eq, hsource.trans h.source_eq, h.last, by
    rw [hexhausted]
    exact h.exhausted_iff⟩

/-- One more read, if it is made at all. -/
theorem fill (h : Asked source sizes reads l) : ∃ reads', Asked source sizes reads' l.fill.2 := by
  cases he : l.exhausted with
  | true =>
    rw [fill_of_exhausted l he]
    exact ⟨reads, h⟩
  | false =>
    -- the source was still open, so this read is the first that can end the input
    have hopen : ∀ k < reads,
        (ByteSource.replyAt sizes.effectiveChunk source k).ends = false := by
      intro k hk
      by_contra hends
      have hexhausted := h.exhausted_iff.mpr ⟨k, hk, Bool.not_eq_false _ ▸ hends⟩
      rw [he] at hexhausted
      cases hexhausted
    have hreply : ByteSource.replyAt sizes.effectiveChunk source reads = l.reply := by
      unfold ByteSource.replyAt reply
      rw [h.source_eq, h.sizes_eq]
    have hsource := Skimmed.source_fill l
    rw [he, h.sizes_eq, h.source_eq] at hsource
    refine ⟨reads + 1, (samePlace_fill l).1.sizes.trans h.sizes_eq, ?_, ?_, ?_⟩
    · rw [hsource, Function.iterate_succ_apply']
      rfl
    · intro k hk hends
      by_contra hne
      rw [hopen k (by omega)] at hends
      cases hends
    · rw [exhausted_fill he, ← hreply]
      constructor
      · exact fun hends => ⟨reads, Nat.lt_succ_self reads, hends⟩
      · rintro ⟨k, hk, hends⟩
        rcases Nat.lt_succ_iff_lt_or_eq.mp hk with hk | rfl
        · rw [hopen k hk] at hends
          cases hends
        · exact hends

variable [TokenRule ρ]

theorem change (h : Asked source sizes reads l) (hc : Change l l') :
    ∃ reads', Asked source sizes reads' l' := by
  cases hc with
  | move hm =>
    cases hm with
    | skip hs =>
      cases hs with
      | topUp _ => exact h.fill
      | pass _ => exact ⟨reads, h.of_eq rfl rfl rfl⟩
    | note e => exact ⟨reads, h.of_eq rfl rfl rfl⟩
    | retry _ _ _ => exact h.fill
  | take literal _ => exact ⟨reads, h.of_eq rfl rfl rfl⟩
  | exchange rules => exact ⟨reads, h.of_eq rfl rfl rfl⟩

theorem changes (h : Asked source sizes reads l) (hc : Changes l l') :
    ∃ reads', Asked source sizes reads' l' := by
  induction hc with
  | refl => exact ⟨reads, h⟩
  | tail _ hstep ih =>
    obtain ⟨reads', hreads⟩ := ih
    exact hreads.change hstep

end Asked

variable [TokenRule ρ] {l l' : Lexer σ ρ}

/-- **Once the source is exhausted**, nothing makes a lexer ask it again. -/
theorem Changes.of_exhausted (h : Changes l l') (he : l.exhausted = true) :
    l'.exhausted = true ∧ l'.source = l.source ∧ l'.pending = l.pending := by
  induction h with
  | refl => exact ⟨he, rfl, rfl⟩
  | @tail m l' _ hstep ih =>
    have hfill : m.fill.2 = m := by
      rw [fill_of_exhausted m ih.1]
    cases hstep with
    | move hm =>
      cases hm with
      | skip hs =>
        cases hs with
        | topUp _ =>
          rw [hfill]
          exact ih
        | pass _ => exact ih
      | note e => exact ih
      | retry _ _ _ =>
        rw [hfill]
        exact ih
    | take literal _ => exact ih
    | exchange rules => exact ih

/-! ### Nothing left -/

/-- A lexer that has come to the end: the source is exhausted and the buffer empty. -/
structure Drained (l : Lexer σ ρ) : Prop where
  exhausted : l.exhausted = true
  buffer : l.buffer = []

namespace Drained

omit [ByteSource σ] in
theorem blank?_eq_none (h : l.Drained) : l.blank? = none := by
  cases hb : l.blank? with
  | none => rfl
  | some token =>
    obtain ⟨hne, rest, hrest⟩ := blank?_eq_some hb
    rw [h.buffer] at hrest
    exact absurd (List.append_eq_nil_iff.mp hrest.symm).1 hne

/-- There is nothing to be found, and looking for it changes nothing. -/
theorem peekWithin (h : l.Drained) (rounds n : Nat) :
    peekWithin (rounds + 1) (n + 1) l = some (.ok none, l) := by
  have hprimed : l.Primed := Or.inr h.exhausted
  have hmiss : ∀ rule ∈ l.rules.rules, TokenRule.hit? rule l.buffer l.cursor = none := by
    intro rule _
    cases hhit : TokenRule.hit? rule l.buffer l.cursor with
    | none => rfl
    | some token =>
      obtain ⟨hne, rest, hrest⟩ := TokenRule.hit?_eq_some hhit
      rw [h.buffer] at hrest
      exact absurd (List.append_eq_nil_iff.mp hrest.symm).1 hne
  rw [peekWithin_succ, skipWhitespace_of_primed hprimed h.blank?_eq_none]
  simp only
  rw [tryRules_of_forall_none hprimed h.blank?_eq_none hmiss]
  simp only [noToken, h.buffer, List.isEmpty_nil, if_true]

theorem scanWithin (h : l.Drained) (rounds : Nat) :
    scanWithin (rounds + 1) l = some (.ok none, l) := by
  rw [scanWithin_eq, h.peekWithin]

/-- Nor does any call change that, whatever rules are set. -/
theorem changes (h : l.Drained) (hc : Changes l l') : l'.Drained ∧ l'.cursor = l.cursor := by
  induction hc with
  | refl => exact ⟨h, rfl⟩
  | @tail m l' _ hstep ih =>
    obtain ⟨hm, hcursor⟩ := ih
    have hfill : m.fill.2 = m := by
      rw [fill_of_exhausted m hm.exhausted]
    cases hstep with
    | move hmove =>
      cases hmove with
      | skip hs =>
        cases hs with
        | topUp _ =>
          rw [hfill]
          exact ⟨hm, hcursor⟩
        | pass hblank =>
          rw [hm.blank?_eq_none] at hblank
          cases hblank
      | note e => exact ⟨⟨hm.exhausted, hm.buffer⟩, hcursor⟩
      | retry _ _ _ =>
        rw [hfill]
        exact ⟨hm, hcursor⟩
    | @take literal rest hl =>
      -- of an empty buffer only an empty literal can be taken
      rw [hm.buffer] at hl
      obtain ⟨rfl, -⟩ := List.append_eq_nil_iff.mp hl.symm
      exact ⟨⟨hm.exhausted, hm.buffer⟩, hcursor⟩
    | exchange rules => exact ⟨⟨hm.exhausted, hm.buffer⟩, hcursor⟩

end Drained

/-! ### What it means that there is no token -/

/-- **A pass without a token ends on a buffer that was topped up**, since it tops up before every
rule. -/
theorem toppedUp_of_tryRules {l₀ : Lexer σ ρ} {rounds : Nat} {rules : List ρ}
    (hm : Moves l₀ l) (ht : ToppedUp l₀ l)
    (h : tryRules rounds l.generation rules l = some (.ok .noMatch, l')) : ToppedUp l₀ l' := by
  induction rules generalizing l with
  | nil =>
    rw [tryRules_nil, if_neg (not_not_intro rfl)] at h
    cases h
    exact ht
  | cons rule rest ih =>
    rw [tryRules_cons] at h
    split at h
    · cases h
    · cases h
    · next l₁ hs =>
      split at h
      · cases h
      · cases h
      · next l₂ he =>
        have hm₁ : Moves l₀ l₁ := hm.trans (skips_skipWhitespace hs).moves
        have hm₂ : Moves l₀ l₂ := hm₁.trans (skips_ensureBuffered he).moves
        have htopped : ToppedUp l₁ l₂ := topUp_cases he
        split at h
        · cases h
        · next hg =>
          have hgeneration : l₂.generation = l.generation := not_not.mp hg
          split at h
          · cases h
          · cases h
          · cases h
          · next l₃ hmatch =>
            rcases generation_lt_or_of_matchRule hmatch with hlt | ⟨rfl, -⟩
            · -- if the rule has read text, the pass is made again
              rw [hgeneration] at hlt
              obtain ⟨hgrew, -⟩ := tryRules_of_generation_lt hlt h
              cases hgrew
            · rw [← hgeneration] at h
              exact ih hm₂ (htopped.after hm₁) h

/-- If nothing is found, the buffer is empty although it was topped up, so a last read has brought
no bytes. -/
theorem exists_fill_of_none {rounds n : Nat} (h : peekWithin rounds n l = some (.ok none, l')) :
    l'.buffer = [] ∧ ∃ l₀, Moves l l₀ ∧ l₀.fill = (.ok 0, l') := by
  induction n generalizing l with
  | zero => cases h
  | succ n ih =>
    rw [peekWithin_succ] at h
    split at h
    · cases h
    · cases h
    · next l₁ hs =>
      have hstart : PassStart l l₁ := skipWhitespace_cases hs
      split at h
      · cases h
      · cases h
      · cases h
      · next l₂ ht =>
        have hmoves : Moves l (l₂.note .grewWhileMatching) :=
          (hstart.moves.trans (moves_tryRules (fun _ hq => hq) ht).1).tail (.note l₂ _)
        obtain ⟨hnil, l₀, hm, hfill⟩ := ih h
        exact ⟨hnil, l₀, hmoves.trans hm, hfill⟩
      · next l₂ ht =>
        have htopped := toppedUp_of_tryRules hstart.moves hstart.topped ht
        unfold noToken at h
        split at h
        · next hempty =>
          cases h
          have hnil : l'.buffer = [] := List.isEmpty_iff.mp hempty
          refine ⟨hnil, ?_⟩
          rcases htopped with hbytes | hlast
          · -- at least one byte is wanted, and there is none
            have hmark := mark_pos l'.sizes
            rw [hnil, Text.hasBytes_eq, decide_eq_true_eq, Text.byteLength_nil] at hbytes
            omega
          · exact hlast
        · cases h

/-- The last read before nothing is found, if the source is not exhausted: it was made, and it has
brought nothing. -/
theorem exists_reply_of_none {rounds n : Nat} (h : peekWithin rounds n l = some (.ok none, l'))
    (he : l'.exhausted = false) :
    ∃ reads, l'.source = (ByteSource.after l.sizes.effectiveChunk)^[reads + 1] l.source ∧
      (ByteSource.replyAt l.sizes.effectiveChunk l.source reads).outcome = .ok ⟨0, false⟩ := by
  obtain ⟨-, l₀, hmoves, hfill⟩ := exists_fill_of_none h
  obtain ⟨reads, new, gap, hskimmed⟩ := hmoves.exists_skimmed
  have hsource := Skimmed.source_fill l₀
  cases he₀ : l₀.exhausted with
  | true =>
    rw [fill_of_exhausted l₀ he₀] at hfill
    cases hfill
    rw [he] at he₀
    cases he₀
  | false =>
    refine ⟨reads, ?_, ?_⟩
    · rw [hfill, he₀, hskimmed.sizes, hskimmed.source] at hsource
      rw [Function.iterate_succ_apply']
      exact hsource
    · have hreply : ByteSource.replyAt l.sizes.effectiveChunk l.source reads = l₀.reply := by
        unfold ByteSource.replyAt reply
        rw [hskimmed.source, hskimmed.sizes]
      rw [hreply, outcome_of_fill_zero he₀ hfill, he]

/-- **The end of the input is final, and no token means the end or a pause.** After any calls, over
any source and with any rules:

* The reads so far are the first reads of the source, of which only the last can have said that the
  source is at its end; the lexer is exhausted if and only if it has.
* Once it is exhausted it stays so, the source is not asked again, and no bytes are pending.
* If no token is found, the buffer is empty. Either the source is exhausted: then all text that was
  decoded is consumed, and after any further calls, whatever rules they set, there is still no token
  and the lexer is at the same place. Or the last read of this call has brought no bytes. -/
theorem end_is_final (source : σ) (rules : RuleSet ρ) (sizes : BufferSizes) (l : Lexer σ ρ)
    (h : Reached source rules sizes l) :
    (∃ reads, Asked source sizes reads l) ∧
    (l.exhausted = true → ∀ calls states, Trace l calls states → ∀ l' ∈ l :: states,
      l'.exhausted = true ∧ l'.source = l.source ∧ l'.pending = .none) ∧
    ∀ (rounds n : Nat) (l' : Lexer σ ρ),
      peekWithin rounds n l = some (.ok none, l') ∨ scanWithin rounds l = some (.ok none, l') →
      l'.buffer = [] ∧
      (l'.exhausted = true ∧
          (∃ k, l'.InStep ((Intake.read sizes.effectiveChunk)^[k] { source }) ∧
            Accounted source sizes ((Intake.read sizes.effectiveChunk)^[k] { source }).text l') ∧
          (∀ calls states, Trace l' calls states → ∀ l₁ ∈ l' :: states,
            l₁.cursor = l'.cursor ∧ ∀ rounds n,
              peekWithin (rounds + 1) (n + 1) l₁ = some (.ok none, l₁) ∧
              scanWithin (rounds + 1) l₁ = some (.ok none, l₁)) ∨
        l'.exhausted = false ∧ ∃ reads,
          l'.source = (ByteSource.after sizes.effectiveChunk)^[reads + 1] l.source ∧
          (ByteSource.replyAt sizes.effectiveChunk l.source reads).outcome = .ok ⟨0, false⟩) := by
  obtain ⟨hsizes, k, hstep⟩ := h.exists_inStep
  refine ⟨(Asked.create source rules sizes).changes h.changes, ?_, ?_⟩
  · intro he calls states htrace l' hl'
    obtain ⟨he', hsource, hpending⟩ := (htrace.changes l' hl').of_exhausted he
    refine ⟨he', hsource, ?_⟩
    rw [hpending, hstep.pending, Intake.pending, ← hstep.exhausted, he]
    rfl
  · intro rounds n l' hcall
    obtain ⟨m, hpeek⟩ := exists_peekWithin_of_no_token (by simp) hcall
    have hnil : l'.buffer = [] := (exists_fill_of_none hpeek).1
    refine ⟨hnil, ?_⟩
    cases he : l'.exhausted with
    | true =>
      refine Or.inl ⟨rfl, ?_, ?_⟩
      · have hchanges := h.changes.trans (moves_peekWithin hpeek).1.changes
        obtain ⟨consumed, haccount⟩ := (Accounted.create source rules sizes).changes hchanges
        obtain ⟨k, -, hstep', htext⟩ := haccount.decoded
        rw [hnil, List.append_nil] at htext
        exact ⟨k, hstep', htext ▸ haccount⟩
      · intro calls states htrace l₁ hl₁
        have hdrained : l'.Drained := ⟨he, hnil⟩
        obtain ⟨hdrained₁, hcursor⟩ := hdrained.changes (htrace.changes l₁ hl₁)
        exact ⟨hcursor, fun rounds n => ⟨hdrained₁.peekWithin rounds n,
          hdrained₁.scanWithin rounds⟩⟩
    | false =>
      rw [← hsizes]
      exact Or.inr ⟨rfl, exists_reply_of_none hpeek he⟩

/-- The input pauses in the middle of a character, so there is no token and the source is not
exhausted. Its last byte comes together with the end, and behind the token there is none for
good. -/
theorem end_is_final_script :
    let source : Script :=
      ⟨[.data [0x20, 0xC3], .pending, .pending, .pending, .report [0xA9] ⟨1, true⟩]⟩
    let rules : RuleSet Rule := ⟨some (.literals .other [[' ']]), [.literals .ident [['é']]]⟩
    let start : Lexer Script Rule := create source rules ⟨1, 4⟩
    ∃ l₁ l₂ l₃, peekWithin 20 20 start = some (.ok none, l₁) ∧ l₁.exhausted = false ∧
      (∃ reads, l₁.source = (ByteSource.after 4)^[reads + 1] source ∧
        (ByteSource.replyAt 4 source reads).outcome = .ok ⟨0, false⟩) ∧
      Reached source rules ⟨1, 4⟩ l₂ ∧ l₂.cursor = ⟨0, 2, 3⟩ ∧
      scanWithin 20 l₂ = some (.ok none, l₃) ∧ l₃.exhausted = true ∧
      ∀ calls states, Trace l₃ calls states → ∀ l ∈ l₃ :: states,
        l.cursor = l₃.cursor ∧ ∀ rounds n,
          peekWithin (rounds + 1) (n + 1) l = some (.ok none, l) ∧
          scanWithin (rounds + 1) l = some (.ok none, l) := by
  intro source rules start
  have hrun : ((peekWithin 20 20 start).bind fun p => (scanWithin 20 p.2).bind fun q =>
      (scanWithin 20 q.2).map fun r =>
        (p.1.toOption, p.2.exhausted, q.2.cursor, r.1.toOption, r.2.exhausted)) =
      some (some none, false, ⟨0, 2, 3⟩, some none, true) := by decide +kernel
  obtain ⟨⟨first, l₁⟩, hpeek, hrest⟩ := Option.bind_eq_some_iff.mp hrun
  obtain ⟨⟨second, l₂⟩, hscan, hrest⟩ := Option.bind_eq_some_iff.mp hrest
  obtain ⟨⟨third, l₃⟩, hlast, hres⟩ := Option.map_eq_some_iff.mp hrest
  simp only [Prod.mk.injEq] at hres
  obtain ⟨hfirst, hpause, hcursor, hthird, hend⟩ := hres
  have hstart : Reached source rules ⟨1, 4⟩ start :=
    ⟨[], [], .nil start, List.mem_cons_self ..⟩
  have hcalls : Trace start [.peek, .scan] [l₁, l₂] :=
    .cons (Call.leads_peek hpeek) (.cons (Call.leads_scan hscan) (.nil l₂))
  have hreached : Reached source rules ⟨1, 4⟩ l₂ :=
    ⟨_, _, hcalls, List.mem_cons_of_mem _ (List.mem_cons_of_mem _ (List.mem_cons_self ..))⟩
  cases first with
  | error e => cases hfirst
  | ok token =>
    cases Option.some.inj hfirst
    cases third with
    | error e => cases hthird
    | ok token =>
      cases Option.some.inj hthird
      obtain ⟨-, hnone⟩ := (end_is_final source rules ⟨1, 4⟩ start hstart).2.2 20 20 l₁
        (Or.inl hpeek)
      obtain ⟨-, hfinal⟩ := (end_is_final source rules ⟨1, 4⟩ l₂ hreached).2.2 20 20 l₃
        (Or.inr hlast)
      rcases hnone with ⟨hyes, -⟩ | ⟨-, hreads⟩
      · rw [hpause] at hyes
        cases hyes
      · rcases hfinal with ⟨-, -, hlater⟩ | ⟨hno, -⟩
        · exact ⟨l₁, l₂, l₃, hpeek, hpause, hreads, hreached, hcursor, hlast, hend, hlater⟩
        · rw [hend] at hno
          cases hno

end Lexer

end RuleLexer
