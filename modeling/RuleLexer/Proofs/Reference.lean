import RuleLexer.Proofs.Regex.Run
import RuleLexer.Proofs.WholeText

/-!
# What the reference rules find

The four reference rules are regular expressions and go through the search of any expression. Here
each of them gets a description of its own: which texts it finds something in, and what.

* `hit?_name`: a letter or underscore and the run of letters, digits and underscores behind it.
* `hit?_number`: the run of digits, and a point and the run of digits behind it if there is one.
* `hit?_string`: a quote and everything up to and with the next one.
* `hit?_any`: any character but a line break.
* `hit?_blank`: a blank.
* `first?_reference`: so the first character, and for a quote a look for the next one, decides which
  rule finds a token, and where no blank is in front there always is one.
-/

namespace RuleLexer.Reference

/-! ### The rules, compiled -/

/-- Letters and the underscore. -/
def letters : CharSet := ⟨[(65, 90), (95, 95), (97, 122)]⟩

/-- Letters, digits and the underscore. -/
def nameChars : CharSet := ⟨[(48, 57), (65, 90), (95, 95), (97, 122)]⟩

def digits : CharSet := ⟨[(48, 57)]⟩

/-- All characters but one. -/
def allBut (c : Char) : CharSet := ⟨[(0, c.toNat - 1), (c.toNat + 1, CharSet.top)]⟩

/-- One or more digits. -/
def digitsRegex : Regex := .repetition 1 none true (.set digits)

def nameRegex : Regex :=
  .seq (.look .textStart) (.seq (.set letters) (.repetition 0 none true (.set nameChars)))

def numberRegex : Regex :=
  .seq (.look .textStart)
    (.seq digitsRegex (.repetition 0 (some 1) true (.seq (.set (.single '.')) digitsRegex)))

def stringRegex : Regex :=
  .seq (.look .textStart)
    (.seq (.set (.single '"'))
      (.seq (.group 1 (.repetition 0 none true (.set (allBut '"')))) (.set (.single '"'))))

def anyRegex : Regex := .seq (.look .textStart) (.set (allBut '\n'))

def nameRule : Rule :=
  .pattern .ident (Rule.anchor RuleSetSpec.identPattern) (.ofRegex nameRegex)

def numberRule : Rule :=
  .pattern .number (Rule.anchor RuleSetSpec.numberPattern) (.ofRegex numberRegex)

def stringRule : Rule :=
  .pattern .string (Rule.anchor RuleSetSpec.stringPattern) (.ofRegex stringRegex)

def anyRule : Rule :=
  .pattern .other (Rule.anchor RuleSetSpec.otherPattern) (.ofRegex anyRegex)

def blankRule : Rule := .literals .other RuleSetSpec.blanks

/-- The reference rules are these. -/
theorem reference_eq :
    RuleSet.reference = ⟨some blankRule, [nameRule, numberRule, stringRule, anyRule]⟩ := by
  have hname : Regex.parse? (Rule.anchor RuleSetSpec.identPattern) = some nameRegex := by
    decide +kernel
  have hnumber : Regex.parse? (Rule.anchor RuleSetSpec.numberPattern) = some numberRegex := by
    decide +kernel
  have hstring : Regex.parse? (Rule.anchor RuleSetSpec.stringPattern) = some stringRegex := by
    decide +kernel
  have hany : Regex.parse? (Rule.anchor RuleSetSpec.otherPattern) = some anyRegex := by
    decide +kernel
  have hbuild : RuleSetSpec.reference.build =
      .ok ⟨some blankRule, [nameRule, numberRule, stringRule, anyRule]⟩ := by
    simp only [RuleSetSpec.build, RuleSetSpec.reference, RuleSpec.build, List.mapM_cons,
      List.mapM_nil, Rule.ofPattern, hname, hnumber, hstring, hany]
    rfl
  rw [RuleSet.reference, hbuild]

theorem contains_single (c d : Char) : (CharSet.single d).contains c = true ↔ c = d := by
  unfold CharSet.single CharSet.range CharSet.contains
  rw [List.any_cons, List.any_nil, Bool.or_false, Bool.and_eq_true, decide_eq_true_eq,
    decide_eq_true_eq, ← Char.toNat_inj]
  omega

theorem contains_allBut {d : Char} (hd : 0 < d.toNat) (c : Char) :
    (allBut d).contains c = true ↔ c ≠ d := by
  have hc : c.toNat < 0x110000 := by
    rcases c.valid with h | h
    · exact Nat.lt_trans h (by decide)
    · exact h.2
  unfold allBut CharSet.contains CharSet.top
  simp only [List.any_cons, List.any_nil, Bool.or_false, Bool.or_eq_true, Bool.and_eq_true,
    decide_eq_true_eq, Ne, ← Char.toNat_inj]
  omega

/-! ### From a search to a token -/

section Anchored

variable {id : TokenId} {source : Text} {regex : Regex} {body : Plan} {t : Text}
  (ha : regex.anchored = true)
  (hp : (Matcher.ofRegex regex).plan = .seq (.look .textStart) body)

include ha hp

/-- An expression that asks for the start of the text is tried there only. -/
theorem find?_ofRegex :
    (Matcher.ofRegex regex).find? t =
      match body.search (t.length + 2) Search.done ⟨0, none, t⟩ ⟨t.length + 1, 0⟩ with
      | .ok trace => some (0, trace)
      | .error _ => none := by
  have hfind : (Matcher.ofRegex regex).find? t =
      ((Matcher.ofRegex regex).matchAt t.length (.ofText t)).map (0, ·) := by
    unfold Matcher.find?
    exact if_pos ha
  rw [hfind, Matcher.matchAt, hp]
  show Option.map _ (match body.search (t.length + 2) Search.done ⟨0, none, t⟩
    ⟨t.length + 1, 0⟩ with | .ok trace => some trace | .error _ => none) = _
  cases body.search (t.length + 2) Search.done ⟨0, none, t⟩ ⟨t.length + 1, 0⟩ <;> rfl

/-- A search that arrives gives a token, which takes the text up to where it arrived. -/
theorem hit?_of_search {stop : Nat} {captures : List Capture} (hne : t ≠ []) (hstop : 0 < stop)
    (hs : body.search (t.length + 2) Search.done ⟨0, none, t⟩ ⟨t.length + 1, 0⟩ =
      .ok ⟨stop, captures⟩) (position : Position) :
    TokenRule.hit? (Rule.pattern id source (.ofRegex regex)) t position =
      some ⟨id, t.take stop, (Matcher.ofRegex regex).groupTexts t captures, position⟩ := by
  have hfind : Rule.find? (.pattern id source (.ofRegex regex)) t position =
      some ⟨id, t.take stop, (Matcher.ofRegex regex).groupTexts t captures, position⟩ := by
    unfold Rule.find?
    simp only [find?_ofRegex ha hp, hs]
    rfl
  have hconsumes : Token.consumes
      ⟨id, t.take stop, (Matcher.ofRegex regex).groupTexts t captures, position⟩ t = true := by
    unfold Token.consumes Text.startsWith
    rw [Bool.and_eq_true, Option.isSome_iff_exists, Bool.not_eq_true', List.isEmpty_eq_false_iff]
    constructor
    · rw [Ne, List.take_eq_nil_iff, not_or]
      exact ⟨Nat.ne_of_gt hstop, hne⟩
    · exact ⟨t.drop stop, Text.after?_eq_some_iff.mpr (List.take_append_drop stop t).symm⟩
  show Option.filter _ (Rule.find? _ t position) = _
  rw [hfind, Option.filter_some, if_pos hconsumes]

/-- A search that fails gives none. -/
theorem hit?_of_fails (hs : (body.search (t.length + 2) Search.done).Fails ⟨0, none, t⟩)
    (position : Position) :
    TokenRule.hit? (Rule.pattern id source (.ofRegex regex)) t position = none := by
  obtain ⟨e, he⟩ := hs ⟨t.length + 1, 0⟩
  have hfind : Rule.find? (.pattern id source (.ofRegex regex)) t position = none := by
    unfold Rule.find?
    simp only [find?_ofRegex ha hp, he]
    rfl
  show Option.filter _ (Rule.find? _ t position) = _
  rw [hfind]
  rfl

end Anchored

theorem readChar_fails {s : CharSet} {p : Place} (hc : ∀ c ∈ p.rest.head?, s.contains c = false)
    (next : Search) : (Search.readChar s next).Fails p :=
  fun e => ⟨e, Search.readChar_of_not_mem hc next e⟩

theorem readChar_cons_fails {s : CharSet} {c : Char} (hc : ¬ s.contains c = true) (next : Search)
    (index : Nat) (before : Option Char) (t : Text) :
    (Search.readChar s next).Fails ⟨index, before, c :: t⟩ := by
  refine readChar_fails ?_ next
  rintro d ⟨⟩
  exact Bool.eq_false_iff.mpr hc

theorem take_length_takeWhile (f : Char → Bool) (t : Text) :
    t.take (t.takeWhile f).length = t.takeWhile f :=
  (List.prefix_iff_eq_take.mp (List.takeWhile_prefix f)).symm

/-! ### Names -/

/-- **Names**: a letter or underscore, and all the letters, digits and underscores behind it. -/
theorem hit?_name (c : Char) (t : Text) (position : Position) :
    TokenRule.hit? nameRule (c :: t) position =
      if letters.contains c then
        some ⟨.ident, c :: t.takeWhile nameChars.contains, [], position⟩
      else none := by
  have hp : (Matcher.ofRegex nameRegex).plan = .seq (.look .textStart)
      (.seq (.set letters) (.loop 0 true (.set nameChars))) := rfl
  unfold nameRule
  split_ifs with hc
  · have hs : Plan.search ((c :: t).length + 2)
        (.seq (.set letters) (.loop 0 true (.set nameChars))) Search.done ⟨0, none, c :: t⟩
        ⟨(c :: t).length + 1, 0⟩ = .ok ⟨1 + (t.takeWhile nameChars.contains).length, []⟩ := by
      rw [Plan.search_seq, Plan.search_set, Plan.search_loop_set, Search.readChar_of_mem hc]
      refine Search.rounds_eq_ok ?_ rfl ?_ fun before e _ _ => ?_
      · rw [List.length_cons]
        omega
      · exact Nat.two_pow_pos _
      · rw [Nat.zero_add]
        rfl
    rw [hit?_of_search rfl hp (List.cons_ne_nil _ _) (by omega) hs, Nat.add_comm,
      List.take_succ_cons, take_length_takeWhile]
    rfl
  · exact hit?_of_fails rfl hp (readChar_cons_fails hc _ _ _ _) position

/-! ### Numbers -/

/-- A fraction at the front of a text: a point and the digits behind it, nothing if there is no
digit behind it. -/
def fraction : Text → Text
  | [] => []
  | c :: t =>
    if c = '.' ∧ t.takeWhile digits.contains ≠ [] then c :: t.takeWhile digits.contains else []

/-- The number at the front of a text: its digits, and a fraction if there is one. -/
def number (t : Text) : Text :=
  t.takeWhile digits.contains ++ fraction (t.dropWhile digits.contains)

/-- With a fraction and without one. -/
theorem fraction_cases (t : Text) :
    (∃ d r, t = '.' :: d :: r ∧ digits.contains d = true ∧
      fraction t = '.' :: d :: r.takeWhile digits.contains) ∨
    (fraction t = [] ∧ ∀ r, t = '.' :: r → ∀ d ∈ r.head?, digits.contains d = false) := by
  unfold fraction
  rcases t with _ | ⟨c, _ | ⟨d, r⟩⟩
  · exact Or.inr ⟨rfl, fun r h => by cases h⟩
  · exact Or.inr ⟨by simp, fun r h => by cases h; simp⟩
  · by_cases hc : c = '.'
    · by_cases hd : digits.contains d = true
      · left
        refine ⟨d, r, by rw [hc], hd, ?_⟩
        simp only [List.takeWhile_cons_of_pos hd]
        rw [if_pos ⟨hc, List.cons_ne_nil _ _⟩, hc]
      · right
        simp only [List.takeWhile_cons_of_neg hd]
        refine ⟨if_neg fun h => h.2 rfl, ?_⟩
        rintro r' h d' hd'
        cases h
        cases hd'
        exact Bool.eq_false_iff.mpr hd
    · right
      refine ⟨if_neg fun h => hc h.1, ?_⟩
      rintro r' h
      cases h
      exact absurd rfl hc

theorem fraction_isPrefix (t : Text) : fraction t <+: t := by
  rcases fraction_cases t with ⟨d, r, rfl, -, hf⟩ | ⟨hf, -⟩
  · rw [hf, List.prefix_cons_inj, List.prefix_cons_inj]
    exact List.takeWhile_prefix _
  · rw [hf]
    exact List.nil_prefix

theorem number_isPrefix (t : Text) : number t <+: t := by
  have hsplit : t.takeWhile digits.contains ++ t.dropWhile digits.contains = t :=
    List.takeWhile_append_dropWhile
  have hle := (List.prefix_append_right_inj (t.takeWhile digits.contains)).mpr
    (fraction_isPrefix (t.dropWhile digits.contains))
  rwa [hsplit] at hle

/-- The plan of a fraction. -/
def fractionPlan : Plan :=
  .choice 1 (.seq (.seq (.set (.single '.')) (.seq .empty
    (.seq (.set digits) (.loop 2 true (.set digits))))) .empty) .empty

/-- The search for a fraction always arrives: behind the fraction, or where it started. -/
theorem search_fraction {width index bound : Nat} {t : Text} {e : Explored} {before : Option Char}
    (hw : e.width = width) (hb : e.Below (1 * width + index)) (hbound : t.length < bound) :
    fractionPlan.search bound Search.done ⟨index, before, t⟩ e =
      .ok ⟨index + (fraction t).length, []⟩ := by
  subst hw
  unfold fractionPlan
  rw [Plan.search_choice, Search.choose_of_below hb]
  simp only [Plan.search_seq, Plan.search_empty, Plan.search_set, Plan.search_loop_set]
  rcases fraction_cases t with ⟨d, r, rfl, hd, hf⟩ | ⟨hf, hnone⟩
  · -- the choices of the loop are numbered behind the one that was just taken
    have hgo : Search.rounds (Search.readChar digits) 2 true Search.done bound
        ⟨index + 1 + 1, some d, r⟩ (e.insert 1 index) =
        .ok ⟨index + 1 + 1 + (r.takeWhile digits.contains).length, []⟩ := by
      refine Search.rounds_eq_ok ?_ rfl (hb.insert.mono ?_) fun _ _ _ _ => rfl
      · rw [List.length_cons, List.length_cons] at hbound
        omega
      · show _ ≤ 2 * e.width + (index + 1 + 1)
        omega
    have hlen : index + ('.' :: d :: r.takeWhile digits.contains).length =
        index + 1 + 1 + (r.takeWhile digits.contains).length := by
      rw [List.length_cons, List.length_cons]
      omega
    rw [Search.readChar_of_mem ((contains_single '.' '.').mpr rfl), Search.readChar_of_mem hd, hgo,
      hf, hlen]
  · -- the first way fails without a point, or behind it without a digit; the second takes nothing
    have hfails : (Search.readChar (.single '.') (Search.readChar digits (Search.rounds
        (Search.readChar digits) 2 true Search.done bound))).Fails ⟨index, before, t⟩ := by
      cases t with
      | nil => exact fun e => ⟨e, rfl⟩
      | cons c r =>
        by_cases hc : c = '.'
        · intro e
          rw [Search.readChar_of_mem ((contains_single c '.').mpr hc)]
          exact readChar_fails (hnone r (by rw [hc])) _ e
        · exact readChar_cons_fails (fun h => hc ((contains_single c '.').mp h)) _ _ _ _
    obtain ⟨e', he'⟩ := hfails (e.insert 1 index)
    rw [he', hf]
    rfl

/-- **Numbers**: all the digits, and a fraction if there is one. -/
theorem hit?_number (c : Char) (t : Text) (position : Position) :
    TokenRule.hit? numberRule (c :: t) position =
      if digits.contains c then some ⟨.number, number (c :: t), [], position⟩ else none := by
  have hp : (Matcher.ofRegex numberRegex).plan = .seq (.look .textStart)
      (.seq (.seq .empty (.seq (.set digits) (.loop 0 true (.set digits))))
        (.seq .empty fractionPlan)) := rfl
  have hsearch (bound : Nat) (p : Place) (e : Explored) :
      Plan.search bound (.seq (.seq .empty (.seq (.set digits) (.loop 0 true (.set digits))))
        (.seq .empty fractionPlan)) Search.done p e =
      Search.readChar digits (Search.rounds (Search.readChar digits) 0 true
        (fractionPlan.search bound Search.done) bound) p e := rfl
  unfold numberRule
  split_ifs with hc
  · have hs : Plan.search ((c :: t).length + 2)
        (.seq (.seq .empty (.seq (.set digits) (.loop 0 true (.set digits))))
          (.seq .empty fractionPlan)) Search.done ⟨0, none, c :: t⟩ ⟨(c :: t).length + 1, 0⟩ =
        .ok ⟨(number (c :: t)).length, []⟩ := by
      have hlen : (number (c :: t)).length = 0 + 1 + (t.takeWhile digits.contains).length +
          (fraction (t.dropWhile digits.contains)).length := by
        rw [number, List.takeWhile_cons_of_pos hc, List.dropWhile_cons_of_pos hc,
          List.length_append, List.length_cons]
        omega
      have hle : (t.dropWhile digits.contains).length ≤ t.length :=
        (List.dropWhile_suffix digits.contains).length_le
      rw [hsearch, Search.readChar_of_mem hc, hlen]
      refine Search.rounds_eq_ok ?_ rfl (Nat.two_pow_pos _) fun before e hw hb => ?_
      · rw [List.length_cons]
        omega
      · refine search_fraction hw (hb.mono ?_) ?_
        · show _ ≤ 1 * ((c :: t).length + 1) + _
          omega
        · rw [List.length_cons]
          omega
    rw [hit?_of_search rfl hp (List.cons_ne_nil _ _) ?_ hs,
      ← List.prefix_iff_eq_take.mp (number_isPrefix (c :: t))]
    · rfl
    · rw [number, List.takeWhile_cons_of_pos hc]
      exact Nat.succ_pos _
  · exact hit?_of_fails rfl hp (readChar_cons_fails hc _ _ _ _) position

/-! ### Strings -/

theorem allBut_contains_eq {d : Char} (hd : 0 < d.toNat) :
    (allBut d).contains = fun c => decide (c ≠ d) := by
  funext c
  rw [Bool.eq_iff_iff, contains_allBut hd, decide_eq_true_eq]

theorem exists_dropWhile_ne {d : Char} {t : Text} (h : d ∈ t) :
    ∃ rest, t.dropWhile (· ≠ d) = d :: rest := by
  induction t with
  | nil => exact absurd h List.not_mem_nil
  | cons c t ih =>
    by_cases hc : c = d
    · refine ⟨t, ?_⟩
      rw [List.dropWhile_cons_of_neg (by simp [hc]), hc]
    · rw [List.dropWhile_cons_of_pos (by simp [hc])]
      exact ih ((List.mem_cons.mp h).resolve_left (Ne.symm hc))

/-- **Strings**: a quote and all that follows up to the next one, which is the only group. Without a
next quote there is no string. -/
theorem hit?_string (c : Char) (t : Text) (position : Position) :
    TokenRule.hit? stringRule (c :: t) position =
      if c = '"' ∧ '"' ∈ t then
        some ⟨.string, c :: (t.takeWhile (· ≠ '"') ++ ['"']), [t.takeWhile (· ≠ '"')], position⟩
      else none := by
  have hp : (Matcher.ofRegex stringRegex).plan = .seq (.look .textStart)
      (.seq (.set (.single '"'))
        (.seq (.group 1 (.loop 0 true (.set (allBut '"')))) (.set (.single '"')))) := rfl
  have hsearch (bound : Nat) (next : Search) :
      Plan.search bound (.seq (.set (.single '"'))
        (.seq (.group 1 (.loop 0 true (.set (allBut '"')))) (.set (.single '"')))) next =
      Search.readChar (.single '"') fun p e =>
        Search.rounds (Search.readChar (allBut '"')) 0 true
          (fun q e => (Search.readChar (.single '"') next q e).map fun t =>
            { t with captures := ⟨1, p.index, q.index⟩ :: t.captures }) bound p e := rfl
  have hbut := allBut_contains_eq (d := '"') (by decide)
  unfold stringRule
  by_cases hc : c = '"'
  · subst hc
    by_cases hmem : '"' ∈ t
    · -- the body of the string ends with the first quote behind it
      obtain ⟨rest, hrest⟩ := exists_dropWhile_ne hmem
      have ht : t = t.takeWhile (· ≠ '"') ++ '"' :: rest := by
        rw [← hrest]
        exact List.takeWhile_append_dropWhile.symm
      have hs : Plan.search (('"' :: t).length + 2) (.seq (.set (.single '"'))
          (.seq (.group 1 (.loop 0 true (.set (allBut '"')))) (.set (.single '"')))) Search.done
          ⟨0, none, '"' :: t⟩ ⟨('"' :: t).length + 1, 0⟩ =
          .ok ⟨1 + (t.takeWhile (· ≠ '"')).length + 1,
            [⟨1, 1, 1 + (t.takeWhile (· ≠ '"')).length⟩]⟩ := by
        rw [hsearch, Search.readChar_of_mem ((contains_single '"' '"').mpr rfl)]
        refine Search.rounds_eq_ok ?_ rfl (Nat.two_pow_pos _) fun before e _ _ => ?_
        · rw [List.length_cons]
          omega
        · rw [hbut, hrest, Search.readChar_of_mem ((contains_single '"' '"').mpr rfl)]
          rfl
      have hgroup : (Matcher.ofRegex stringRegex).groupTexts ('"' :: t)
          [⟨1, 1, 1 + (t.takeWhile (· ≠ '"')).length⟩] = [t.takeWhile (· ≠ '"')] := by
        show [(('"' :: t).drop 1).take (1 + (t.takeWhile (· ≠ '"')).length - 1)] = _
        rw [Nat.add_sub_cancel_left, List.drop_one, List.tail_cons, take_length_takeWhile]
      have hliteral : ('"' :: t).take (1 + (t.takeWhile (· ≠ '"')).length + 1) =
          '"' :: (t.takeWhile (· ≠ '"') ++ ['"']) := by
        rw [List.take_succ_cons, Nat.add_comm]
        nth_rewrite 2 [ht]
        rw [List.take_length_add_append, List.take_succ_cons, List.take_zero]
      rw [if_pos ⟨rfl, hmem⟩, hit?_of_search rfl hp (List.cons_ne_nil _ _) (Nat.succ_pos _) hs,
        hgroup, hliteral]
    · rw [if_neg fun h => hmem h.2]
      refine hit?_of_fails rfl hp ?_ position
      rw [hsearch]
      intro e
      rw [Search.readChar_of_mem ((contains_single '"' '"').mpr rfl)]
      refine Search.rounds_fails (fun q hq e' => ?_) e
      have hnone : ∀ d ∈ q.rest.head?, (CharSet.single '"').contains d = false := by
        intro d hd
        rw [← Bool.not_eq_true, contains_single]
        rintro rfl
        exact hmem (hq.subset (List.mem_of_mem_head? hd))
      rw [Search.readChar_of_not_mem hnone]
      exact ⟨e', rfl⟩
  · rw [if_neg fun h => hc h.1]
    refine hit?_of_fails rfl hp ?_ position
    rw [hsearch]
    exact readChar_cons_fails (fun h => hc ((contains_single c '"').mp h)) _ _ _ _

/-! ### Other characters -/

/-- **Any character but a line break.** -/
theorem hit?_any (c : Char) (t : Text) (position : Position) :
    TokenRule.hit? anyRule (c :: t) position =
      if c = '\n' then none else some ⟨.other, [c], [], position⟩ := by
  have hp : (Matcher.ofRegex anyRegex).plan =
      .seq (.look .textStart) (.set (allBut '\n')) := rfl
  have hcontains := contains_allBut (d := '\n') (by decide) c
  unfold anyRule
  split_ifs with hc
  · exact hit?_of_fails rfl hp
      (readChar_cons_fails (fun h => hcontains.mp h hc) _ _ _ _) position
  · have hs : Plan.search ((c :: t).length + 2) (.set (allBut '\n')) Search.done
        ⟨0, none, c :: t⟩ ⟨(c :: t).length + 1, 0⟩ = .ok ⟨1, []⟩ := by
      rw [Plan.search_set, Search.readChar_of_mem (hcontains.mpr hc)]
      rfl
    rw [hit?_of_search rfl hp (List.cons_ne_nil _ _) Nat.one_pos hs]
    rfl

/-! ### Blanks -/

theorem findLiteral?_singletons (cs : List Char) (c : Char) (t : Text) :
    Rule.findLiteral? (cs.map fun d => [d]) (c :: t) = if c ∈ cs then some [c] else none := by
  induction cs with
  | nil => rfl
  | cons d cs ih =>
    unfold Rule.findLiteral? Text.startsWith at ih ⊢
    rw [List.map_cons, List.find?_cons, ih]
    by_cases hd : d = c
    · simp [Text.after?, hd]
    · simp [Text.after?, hd, Ne.symm hd]

/-- Literals of one character each find the first character of the text, if it is listed. -/
theorem hit?_singletons (id : TokenId) (cs : List Char) (c : Char) (t : Text)
    (position : Position) :
    TokenRule.hit? (Rule.literals id (cs.map fun d => [d])) (c :: t) position =
      if c ∈ cs then some ⟨id, [c], [], position⟩ else none := by
  show Option.filter _ ((Rule.findLiteral? _ (c :: t)).map _) = _
  rw [findLiteral?_singletons]
  split_ifs
  · simp [Token.consumes, Text.startsWith, Text.after?]
  · rfl

/-- The characters that are passed over. -/
def blanks : List Char := [' ', '\t', '\r', '\n']

/-- **Blanks**, one at a time. -/
theorem hit?_blank (c : Char) (t : Text) (position : Position) :
    TokenRule.hit? blankRule (c :: t) position =
      if c ∈ blanks then some ⟨.other, [c], [], position⟩ else none :=
  hit?_singletons .other blanks c t position

/-- In the empty text nothing is found. -/
theorem hit?_nil {ρ : Type} [TokenRule ρ] (rule : ρ) (position : Position) :
    TokenRule.hit? rule [] position = none := by
  cases h : TokenRule.hit? rule [] position with
  | none => rfl
  | some token =>
    obtain ⟨hne, rest, hrest⟩ := TokenRule.hit?_eq_some h
    exact absurd (List.append_eq_nil_iff.mp hrest.symm).1 hne

/-! ### The first rule that finds something -/

/-- The token at the front of a text that does not start with a blank. -/
def token (c : Char) (t : Text) (position : Position) : Token :=
  if letters.contains c then ⟨.ident, c :: t.takeWhile nameChars.contains, [], position⟩
  else if digits.contains c then ⟨.number, number (c :: t), [], position⟩
  else if c = '"' ∧ '"' ∈ t then
    ⟨.string, c :: (t.takeWhile (· ≠ '"') ++ ['"']), [t.takeWhile (· ≠ '"')], position⟩
  else ⟨.other, [c], [], position⟩

theorem first?_reference {c : Char} (hc : c ∉ blanks) (t : Text) (position : Position) :
    WholeText.first? RuleSet.reference ⟨c :: t, position⟩ = some (token c t position) := by
  have hbreak : c ≠ '\n' := by
    rintro rfl
    exact hc (by decide)
  rw [WholeText.first?, reference_eq]
  simp only [List.findSome?_cons, hit?_name, hit?_number, hit?_string, hit?_any,
    if_neg hbreak]
  unfold token
  split_ifs <;> rfl

theorem blank?_reference (r : WholeText.Rest) :
    WholeText.blank? RuleSet.reference r = TokenRule.hit? blankRule r.text r.position := by
  rw [WholeText.blank?, reference_eq]
  rfl

/-- Behind the blanks there is none. -/
theorem not_mem_blanks {c : Char} {t : Text} {position : Position}
    (h : WholeText.blank? RuleSet.reference ⟨c :: t, position⟩ = none) : c ∉ blanks := by
  intro hc
  rw [blank?_reference, hit?_blank, if_pos hc] at h
  cases h

end RuleLexer.Reference
