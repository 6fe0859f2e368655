import RuleLexer.Proofs.Lexer.Moves
import RuleLexer.Proofs.Lexer.Simulation

/-!
# The source behind a lexer

All that a lexer ever learns of its source are the replies to its reads. So if one source can be
seen as another one that replies in the same way (`Mirrors`), a lexer over the one does what a lexer
over the other does, call for call and round for round, and what is known of the one operation is
known of the other.

* `Mirrors.replyAlike`: such sources are a case of `ReplyAlike`, so the lexers run side by side.
* `peekWithin_mapSource`, `scanWithin_mapSource`, `takeWithin_mapSource`: an operation of the one
  lexer is the same operation of the other; `run?_mapSource`: so are any calls in a row.
-/

namespace RuleLexer

variable {σ τ ρ : Type}

/-- One source seen as another, for reads through an area of some size: the replies are the same,
and what is left of the one is seen as what is left of the other. -/
def Mirrors [ByteSource σ] [ByteSource τ] (size : Nat) (f : σ → τ) : Prop :=
  ∀ s, ByteSource.readChunk (f s) size =
    ((ByteSource.readChunk s size).1, f (ByteSource.readChunk s size).2)

theorem Mirrors.replyAlike [ByteSource σ] [ByteSource τ] {size : Nat} {f : σ → τ}
    (h : Mirrors size f) : ReplyAlike size fun s t => t = f s := by
  rintro s _ rfl
  rw [h s]
  exact ⟨rfl, rfl⟩

namespace Lexer

/-- The same lexer over another source. -/
def mapSource (f : σ → τ) (l : Lexer σ ρ) : Lexer τ ρ := { l with source := f l.source }

/-- The same outcome of an operation, with a lexer over another source. -/
def mapOutcome {α : Type} (f : σ → τ) (outcome : Option (α × Lexer σ ρ)) :
    Option (α × Lexer τ ρ) :=
  outcome.map fun p => (p.1, p.2.mapSource f)

theorem recast_nil (l : Lexer σ ρ) (source : τ) : l.recast source [] = { l with source } := by
  unfold recast
  rw [List.append_nil]

variable {size : Nat} {f : σ → τ}

theorem recast_mapSource {l : Lexer σ ρ} (hl : l.sizes.effectiveChunk = size) :
    Recast size (fun s t => t = f s) [] l (l.mapSource f) :=
  ⟨hl, rfl, (recast_nil l _).symm⟩

theorem Recast.eq_mapSource {l : Lexer σ ρ} {m : Lexer τ ρ}
    (h : Recast size (fun s t => t = f s) [] l m) : m = l.mapSource f := by
  rw [h.eq_recast, recast_nil, h.source]
  rfl

/-- Ends that match differ in the source only. -/
theorem Matches.eq_mapOutcome {α : Type} {x : Option (Except LexError α × Lexer σ ρ)}
    {y : Option (Except LexError α × Lexer τ ρ)}
    (h : Matches (Recast size (fun s t => t = f s) [])
      (fun _ => Recast size (fun s t => t = f s) []) x y) : y = mapOutcome f x := by
  cases h with
  | outOfRounds => rfl
  | answer a hr => rw [hr.eq_mapSource]; rfl
  | failure e hr => rw [hr.eq_mapSource]; rfl

variable [ByteSource σ] [ByteSource τ] [TokenRule ρ]

/-- **Looking for a token** is the same over both sources. -/
theorem peekWithin_mapSource (h : Mirrors size f) (rounds n : Nat) {l : Lexer σ ρ}
    (hl : l.sizes.effectiveChunk = size) :
    peekWithin rounds n (l.mapSource f) = mapOutcome f (peekWithin rounds n l) :=
  ((simulates_recast h.replyAlike []).peekWithin rounds n (recast_mapSource hl)).eq_mapOutcome

theorem scanWithin_mapSource (h : Mirrors size f) (rounds : Nat) {l : Lexer σ ρ}
    (hl : l.sizes.effectiveChunk = size) :
    scanWithin rounds (l.mapSource f) = mapOutcome f (scanWithin rounds l) :=
  ((simulates_recast h.replyAlike []).scanWithin rounds (recast_mapSource hl)).eq_mapOutcome

/-- Calls in a row are answered the same over both sources. -/
theorem run?_mapSource (h : Mirrors size f) (rounds : Nat) (calls : List (Call ρ)) {l : Lexer σ ρ}
    (hl : l.sizes.effectiveChunk = size) :
    run? rounds (l.mapSource f) calls =
      (run? rounds l calls).map (List.map fun p => (p.1, p.2.mapSource f)) := by
  have hrun := (simulates_recast h.replyAlike []).run rounds calls (recast_mapSource hl)
  generalize run? rounds l calls = x, run? rounds (l.mapSource f) calls = y at hrun
  cases hrun with
  | none => rfl
  | @some results results' halike =>
    rw [Option.map_some, Option.some_inj]
    induction halike with
    | nil => rfl
    | @cons p q _ _ hpq _ ih =>
      obtain ⟨hsame, hafter⟩ := hpq
      rw [List.map_cons, ← ih, ← hafter.eq_mapSource, ← hsame]

/-! ### Streams -/

theorem sizes_scanWithin {rounds : Nat} {l l' : Lexer σ ρ} {r : Except LexError (Option Token)}
    (h : scanWithin rounds l = some (r, l')) : l'.sizes = l.sizes := by
  obtain ⟨l₁, hpeek, rfl⟩ := exists_peekWithin_of_scanWithin h
  rw [← (moves_peekWithin hpeek).1.sizes_eq]
  rcases r with e | _ | token <;> rfl

/-- **Taking items from a stream** is the same over both sources. -/
theorem takeWithin_mapSource (h : Mirrors size f) (rounds n : Nat) (failed : Bool) {l : Lexer σ ρ}
    (hl : l.sizes.effectiveChunk = size) :
    takeWithin rounds n failed (l.mapSource f) = mapOutcome f (takeWithin rounds n failed l) := by
  induction n generalizing l failed with
  | zero => rfl
  | succ n ih =>
    rw [takeWithin_succ, takeWithin_succ, nextWithin_eq, nextWithin_eq,
      scanWithin_mapSource h rounds hl]
    cases failed with
    | true => rfl
    | false =>
      simp only [Bool.false_eq_true, if_false]
      rcases hscan : scanWithin rounds l with _ | ⟨e | _ | token, l₁⟩
      · rfl
      · simp only [mapOutcome, Option.map_some]
        rw [ih true (by rw [sizes_scanWithin hscan, hl]), mapOutcome, Option.map_map,
          Option.map_map]
        rfl
      · rfl
      · simp only [mapOutcome, Option.map_some]
        rw [ih false (by rw [sizes_scanWithin hscan, hl]), mapOutcome, Option.map_map,
          Option.map_map]
        rfl

end Lexer

end RuleLexer
