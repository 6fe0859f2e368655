import RuleLexer.Proofs.Lexer.Coverage
import RuleLexer.Proofs.Lexer.Resting

/-!
# The literal of an unknown token

If nothing is recognised at the front of the buffer, the error says which part of it is to blame:
the shortest one behind which something is recognised again. Nothing is looked for at the front
itself, since the passes over the rules have done so, with reads and white space in between.

* `minimalSpan_unknownLiteral`: what `RuleSet.unknownLiteral` takes of a text in front of which
  nothing is recognised is a `MinimalSpan`.
* `minimalSpan_of_peekWithin`: so is the literal of the error, on the buffer as the error leaves it.
* `peekWithin_of_exhausted`: at the end of the input, a lexer looks for a token as if its buffer
  were a whole text.
* `minimalSpan_of_unknownToken`: so whoever skips the literal at the end of the input does not find
  an unknown token right behind it.
-/

namespace RuleLexer

open WholeText (Rest stripped first?)

/-! ### Where something is recognised -/

namespace RuleSet

variable {ρ : Type}

/-- All rules of a rule set, the one for white space among them. -/
def all (s : RuleSet ρ) : List ρ := s.whitespace.toList ++ s.rules

variable [TokenRule ρ] {s : RuleSet ρ} {p : Position} {t : Text}

theorem recognizes_iff :
    s.recognizes p t = true ↔ ∃ rule ∈ s.all, (TokenRule.hit? rule t p).isSome = true := by
  unfold recognizes all
  rw [Bool.or_eq_true, Option.any_eq_true, List.any_eq_true]
  constructor
  · rintro (⟨w, hw, hhit⟩ | ⟨rule, hrule, hhit⟩)
    · exact ⟨w, List.mem_append_left _ (Option.mem_toList.mpr hw), hhit⟩
    · exact ⟨rule, List.mem_append_right _ hrule, hhit⟩
  · rintro ⟨rule, hrule, hhit⟩
    rcases List.mem_append.mp hrule with hmem | hmem
    · exact Or.inl ⟨rule, Option.mem_toList.mp hmem, hhit⟩
    · exact Or.inr ⟨rule, hmem, hhit⟩

theorem recognizes_eq_false_iff :
    s.recognizes p t = false ↔ ∀ rule ∈ s.all, TokenRule.hit? rule t p = none := by
  rw [← Bool.not_eq_true, recognizes_iff]
  simp only [not_exists, not_and, Option.not_isSome_iff_eq_none]

/-- Nothing is recognised inside what is not recognised. -/
theorem recognizes_drop_of_lt {k : Nat} (hk : k < (s.unrecognized p t).length) :
    s.recognizes p (t.drop k) = false := by
  induction t generalizing k with
  | nil => exact absurd hk (Nat.not_lt_zero k)
  | cons c t ih =>
    rw [unrecognized] at hk
    split at hk
    · exact absurd hk (Nat.not_lt_zero k)
    · next hmiss =>
      cases k with
      | zero => exact Bool.eq_false_iff.mpr hmiss
      | succ k => exact ih (Nat.lt_of_succ_lt_succ hk)

/-- It goes up to where something is recognised, or to the end. -/
theorem unrecognized_eq_or_recognizes (s : RuleSet ρ) (p : Position) (t : Text) :
    s.unrecognized p t = t ∨ s.recognizes p (t.drop (s.unrecognized p t).length) = true := by
  induction t with
  | nil => exact Or.inl rfl
  | cons c t ih =>
    rw [unrecognized]
    split
    · next hhit => exact Or.inr hhit
    · rcases ih with hall | hhit
      · exact Or.inl (by rw [hall])
      · exact Or.inr hhit

end RuleSet

/-- **The shortest part of a text that is to blame** if nothing is recognised in front of it:
neither white space nor any rule is found where it starts or inside of it, and it goes up to where
one of them is found, or to the end of the text. -/
structure MinimalSpan (rules : RuleSet Rule) (text literal : Text) : Prop where
  ne_nil : literal ≠ []
  isPrefix : literal <+: text
  missed : ∀ k < literal.length, ∀ rule ∈ rules.all, ∀ position,
    TokenRule.hit? rule (text.drop k) position = none
  stops : literal = text ∨ ∃ rule ∈ rules.all, ∀ position,
    (TokenRule.hit? rule (text.drop literal.length) position).isSome = true

/-- **What is taken of a text in front of which nothing is recognised** is the shortest part that is
to blame. The position at which the rules were asked makes no difference. -/
theorem minimalSpan_unknownLiteral {rules : RuleSet Rule} {p : Position} {t : Text} (ht : t ≠ [])
    (hmiss : ∀ rule ∈ rules.all, TokenRule.hit? rule t p = none) :
    MinimalSpan rules t (rules.unknownLiteral p t) := by
  obtain ⟨hne, rest, hrest⟩ := rules.unknownLiteral_append p ht
  cases t with
  | nil => exact absurd rfl ht
  | cons c t =>
    refine ⟨hne, ⟨rest, hrest.symm⟩, ?_, ?_⟩
    · intro k hk rule hrule position
      rw [rule.hit?_eq_none_iff _ p position]
      cases k with
      | zero => exact hmiss rule hrule
      | succ k =>
        have hinside := RuleSet.recognizes_drop_of_lt (Nat.lt_of_succ_lt_succ hk)
        exact RuleSet.recognizes_eq_false_iff.mp hinside rule hrule
    · rcases rules.unrecognized_eq_or_recognizes p t with hall | hhit
      · left
        show c :: rules.unrecognized p t = c :: t
        rw [hall]
      · obtain ⟨rule, hrule, hfound⟩ := RuleSet.recognizes_iff.mp hhit
        refine Or.inr ⟨rule, hrule, fun position => ?_⟩
        rw [rule.hit?_position _ p position, Option.isSome_map]
        exact hfound

namespace Lexer

variable {σ ρ : Type} [ByteSource σ]

/-! ### What the error leaves -/

/-- **An unknown token is the shortest part of the buffer that is to blame**, and it is at the
cursor. The pass over the rules that has found no token has judged all of them, and the white space,
on the buffer that it leaves. -/
theorem minimalSpan_of_peekWithin {rounds n : Nat} {l l' : Lexer σ Rule} {literal : Text}
    {position : Position}
    (h : peekWithin rounds n l = some (.error (.unknownToken literal position), l')) :
    position = l'.cursor ∧ MinimalSpan l'.rules l'.buffer literal := by
  rcases peekWithin_cases h with ⟨e, he, hfails⟩ | ⟨l₁, token, -, -, he⟩ |
    ⟨l₁, l₂, hstart, hpass, hno⟩
  · obtain ⟨fault, hread⟩ := hfails.eq_read
    rw [hread] at he
    cases he
  · cases he
  · cases hpass with
    | missed hstill hmiss =>
      -- what was judged is the buffer at the start of the pass, which is still the same
      have hall : ∀ rule ∈ l₂.rules.all, TokenRule.hit? rule l₂.buffer l₂.cursor = none := by
        intro rule hrule
        rw [hstill.buffer, hstill.same.cursor]
        rw [hstill.same.rules] at hrule
        rcases List.mem_append.mp hrule with hw | hrule
        · have hblank := hstart.blank
          unfold blank? at hblank
          rw [Option.mem_toList.mp hw] at hblank
          exact hblank
        · exact hmiss rule hrule
      unfold noToken at hno
      split at hno
      · cases hno
      · next hempty =>
        cases hno
        have hne : l₂.buffer ≠ [] := fun hnil => hempty (List.isEmpty_iff.mpr hnil)
        exact ⟨rfl, minimalSpan_unknownLiteral hne hall⟩

/-- **At the end of the input, looking for a token** answers what the whole text in the buffer
answers, and takes the white space in front of it. -/
theorem peekWithin_of_exhausted [TokenRule ρ] {l : Lexer σ ρ} (he : l.exhausted = true)
    {rounds : Nat} (hrounds : l.buffer.length < rounds) (n : Nat) :
    ∃ l', peekWithin rounds (n + 1) l = some ((WholeText.next l.rules l.remaining).1, l') ∧
      l'.remaining = stripped l.rules l.remaining := by
  obtain ⟨l', hpeek, -, -, hremaining⟩ := peekWithin_of_resting (Or.inl he) hrounds n
  exact ⟨l', hpeek, hremaining⟩

/-! ### Behind the literal -/

/-- Behind the shortest part that is to blame, the whole text has no unknown token: there is nothing
left, or white space to be passed over, or a token. -/
theorem next_ne_unknownToken {rules : RuleSet Rule} {text literal : Text}
    (h : MinimalSpan rules text literal) (position : Position) (literal' : Text) :
    (WholeText.next rules ⟨text.drop literal.length, position⟩).1 ≠
      .error (.unknownToken literal' position) := by
  generalize hr : (⟨text.drop literal.length, position⟩ : Rest) = r
  intro hunknown
  rcases WholeText.next_cases rules r with ⟨-, hnext⟩ | ⟨hne, hnone, hnext⟩ | ⟨token, -, hnext⟩
  · rw [hnext] at hunknown
    cases hunknown
  · rw [hnext] at hunknown
    have hplace : (stripped rules r).position = position := by
      injection hunknown with hunknown
      injection hunknown
    subst hr
    -- an unknown token at the same place means that no white space was passed over
    have hblank : WholeText.blank? rules ⟨text.drop literal.length, position⟩ = none := by
      cases hb : WholeText.blank? rules ⟨text.drop literal.length, position⟩ with
      | none => rfl
      | some token =>
        have hlt := WholeText.offset_lt_stripped hb
        rw [hplace] at hlt
        exact absurd hlt (Nat.lt_irrefl _)
    rw [WholeText.stripped_of_none hblank] at hne hnone
    rcases h.stops with rfl | ⟨rule, hrule, hhit⟩
    · exact hne (List.drop_length ..)
    · -- what is recognised there is neither white space nor a token
      have hmiss : TokenRule.hit? rule (text.drop literal.length) position = none := by
        rcases List.mem_append.mp hrule with hw | hmem
        · unfold WholeText.blank? at hblank
          rw [Option.mem_toList.mp hw] at hblank
          exact hblank
        · exact List.findSome?_eq_none_iff.mp hnone rule hmem
      have hfound := hhit position
      rw [hmiss] at hfound
      cases hfound
  · rw [hnext] at hunknown
    cases hunknown

/-- **An unknown token is as short as it can be.** Let looking for a token or scanning answer that
there is an unknown token. Then it is at the cursor, and its literal is the shortest part of the
buffer that is to blame: neither white space nor any rule is found at its start or inside of it, and
one of them is found right behind it, unless it is all of the buffer. So at the end of the input the
literal can be skipped, and the next look does not find an unknown token where it ends. -/
theorem minimalSpan_of_unknownToken {rounds n : Nat} {l l' : Lexer σ Rule} {literal : Text}
    {position : Position}
    (h : peekWithin rounds n l = some (.error (.unknownToken literal position), l') ∨
      scanWithin rounds l = some (.error (.unknownToken literal position), l')) :
    position = l'.cursor ∧ MinimalSpan l'.rules l'.buffer literal ∧
      (l'.exhausted = true → ∃ l₁, l'.skipLiteral literal = (true, l₁) ∧
        ∀ rounds n, l₁.buffer.length < rounds → 0 < n →
          ∃ res l₂, peekWithin rounds n l₁ = some (res, l₂) ∧
            ∀ literal', res ≠ .error (.unknownToken literal' (position.advanced literal))) := by
  obtain ⟨m, hpeek⟩ := exists_peekWithin_of_no_token (by simp) h
  obtain ⟨rfl, hspan⟩ := minimalSpan_of_peekWithin hpeek
  refine ⟨rfl, hspan, fun he => ?_⟩
  obtain ⟨rest, hrest⟩ := hspan.isPrefix
  refine ⟨_, skipLiteral_of_append l' hspan.ne_nil hrest.symm, ?_⟩
  intro rounds n hrounds hn
  obtain ⟨n, rfl⟩ : ∃ k, n = k + 1 := ⟨n - 1, by omega⟩
  obtain ⟨l₂, hnext, -⟩ := peekWithin_of_exhausted
    (l := (l'.note (.skipped literal l'.cursor)).consume literal) he hrounds n
  exact ⟨_, l₂, hnext, next_ne_unknownToken hspan _⟩

/-- Behind a blank, a sign and a letter that came in two reads are unknown, and a digit follows. -/
theorem minimalSpan_of_unknownToken_cut :
    let source : Script := ⟨[.data [0x20, 0x40, 0xC3], .data [0xA9, 0x34]]⟩
    let rules : RuleSet Rule := ⟨some (.literals .other [[' ']]), [.literals .number [['4']]]⟩
    let unknown : LexError := .unknownToken ['@', 'é'] ⟨0, 1, 1⟩
    ∃ l' l₁ l₂ res, peekWithin 20 20 (create source rules ⟨16, 4⟩) = some (.error unknown, l') ∧
      MinimalSpan l'.rules l'.buffer ['@', 'é'] ∧ l'.exhausted = true ∧
      l'.skipLiteral ['@', 'é'] = (true, l₁) ∧ l₁.buffer.length < 20 ∧
      peekWithin 20 20 l₁ = some (res, l₂) ∧
      ∀ literal, res ≠ .error (.unknownToken literal ⟨0, 3, 4⟩) := by
  intro source rules unknown
  have hrun : (peekWithin 20 20 (create source rules ⟨16, 4⟩)).map (fun p =>
      (match p.1 with | .error e => some e | .ok _ => none, p.2.exhausted,
        (p.2.skipLiteral ['@', 'é']).2.buffer)) = some (some unknown, true, ['4']) := by
    decide +kernel
  obtain ⟨⟨answer, l'⟩, hpeek, hrest⟩ := Option.map_eq_some_iff.mp hrun
  obtain ⟨herror, hrest⟩ := Prod.mk.inj hrest
  obtain ⟨hend, hbuffer⟩ := Prod.mk.inj hrest
  cases answer with
  | ok token => cases herror
  | error e =>
    cases Option.some.inj herror
    obtain ⟨-, hspan, hnext⟩ := minimalSpan_of_unknownToken (Or.inl hpeek)
    obtain ⟨l₁, hskip, hlook⟩ := hnext hend
    have hshort : l₁.buffer.length < 20 := by
      rw [hskip] at hbuffer
      rw [show l₁.buffer = ['4'] from hbuffer]
      decide
    obtain ⟨res, l₂, hpeek₂, hres⟩ := hlook 20 20 hshort (by decide)
    exact ⟨l', l₁, l₂, res, hpeek, hspan, hend, hskip, hshort, hpeek₂, hres⟩

end Lexer

end RuleLexer
