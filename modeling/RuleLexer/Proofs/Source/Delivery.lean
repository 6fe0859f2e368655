import Mathlib.Tactic.SplitIfs
import RuleLexer.Source.Script

/-!
# How a source cuts its bytes into reads

A source is free to cut its bytes into reads as it likes. `Gives` lists what the next reads bring,
one entry for each of them; `Delivers` says that a source gives a byte string to its end without
ever coming with empty hands before that.

* `Delivers.cases`: the next read of such a source either ends the input or brings at least one
  byte and leaves a source that delivers the others.
* `Delivers.length_le_budget`: the budget of a source covers what it delivers.
* `Script.delivers_data`, `Script.delivers_reader`: a script of data delivers it, as a source and as
  a reader, whatever the size of the reads.
-/

namespace RuleLexer

variable {σ : Type}

/-- What the next reads bring: entry by entry the bytes that were written and announced, and whether
the last of these reads said that the source is at its end. -/
inductive Gives [ByteSource σ] (size : Nat) : σ → List (List UInt8) → Bool → Prop where
  | nil (s : σ) : Gives size s [] false
  | cons {s : σ} {n : Nat} {chunks : List (List UInt8)} {ended : Bool}
      (hr : (ByteSource.readChunk s size).1.outcome = .ok ⟨n, false⟩) (hs : n ≤ size)
      (hw : n ≤ (ByteSource.readChunk s size).1.written.length)
      (h : Gives size (ByteSource.readChunk s size).2 chunks ended) :
      Gives size s ((ByteSource.readChunk s size).1.written.take n :: chunks) ended
  | last {s : σ} {n : Nat} (hr : (ByteSource.readChunk s size).1.outcome = .ok ⟨n, true⟩)
      (hs : n ≤ size) (hw : n ≤ (ByteSource.readChunk s size).1.written.length) :
      Gives size s [(ByteSource.readChunk s size).1.written.take n] true

/-- **A source that delivers a byte string**: its reads bring the bytes in order, each of them at
least one, up to a last read that says that the source is at its end and may bring bytes or not. -/
def Delivers [ByteSource σ] (size : Nat) (s : σ) (bytes : List UInt8) : Prop :=
  ∃ chunks, Gives size s chunks true ∧ (∀ c ∈ chunks.dropLast, c ≠ []) ∧ chunks.flatten = bytes

theorem Gives.ne_nil [ByteSource σ] {size : Nat} {s : σ} {chunks : List (List UInt8)}
    (h : Gives size s chunks true) : chunks ≠ [] := by
  cases h <;> exact List.cons_ne_nil _ _

/-- **The next read of a source that delivers**: it ends the input, or brings at least one byte and
leaves a source that delivers the others. -/
theorem Delivers.cases [ByteSource σ] {size : Nat} {s : σ} {bytes : List UInt8}
    (h : Delivers size s bytes) :
    ∃ n ended, (ByteSource.readChunk s size).1.outcome = .ok ⟨n, ended⟩ ∧ n ≤ size ∧
      n ≤ (ByteSource.readChunk s size).1.written.length ∧
      (ended = true ∧ bytes = (ByteSource.readChunk s size).1.written.take n ∨
        ended = false ∧ 0 < n ∧ ∃ rest, Delivers size (ByteSource.readChunk s size).2 rest ∧
          bytes = (ByteSource.readChunk s size).1.written.take n ++ rest) := by
  obtain ⟨chunks, hg, hne, rfl⟩ := h
  cases hg with
  | @cons _ n chunks _ hr hs hw hg =>
    refine ⟨n, false, hr, hs, hw, Or.inr ⟨rfl, ?_, chunks.flatten, ⟨chunks, hg, ?_, rfl⟩,
      List.flatten_cons⟩⟩
    · -- the first of several chunks is not empty
      rw [List.dropLast_cons_of_ne_nil hg.ne_nil] at hne
      have h0 := hne _ (List.mem_cons_self ..)
      rcases Nat.eq_zero_or_pos n with rfl | hn
      · exact absurd List.take_zero h0
      · exact hn
    · intro c hc
      apply hne c
      rw [List.dropLast_cons_of_ne_nil hg.ne_nil]
      exact List.mem_cons_of_mem _ hc
  | @last _ n hr hs hw =>
    refine ⟨n, true, hr, hs, hw, Or.inl ⟨rfl, ?_⟩⟩
    rw [List.flatten_cons, List.flatten_nil, List.append_nil]

/-- One more read in front of a delivery. -/
theorem Delivers.cons [ByteSource σ] {size : Nat} {s : σ} {n : Nat} {rest : List UInt8}
    (hr : (ByteSource.readChunk s size).1.outcome = .ok ⟨n, false⟩) (hs : n ≤ size)
    (hw : n ≤ (ByteSource.readChunk s size).1.written.length) (hn : 0 < n)
    (h : Delivers size (ByteSource.readChunk s size).2 rest) :
    Delivers size s ((ByteSource.readChunk s size).1.written.take n ++ rest) := by
  obtain ⟨chunks, hg, hne, rfl⟩ := h
  refine ⟨_, Gives.cons hr hs hw hg, ?_, List.flatten_cons⟩
  rw [List.dropLast_cons_of_ne_nil hg.ne_nil]
  intro c hc
  rcases List.mem_cons.mp hc with rfl | hc
  · intro h0
    have := congrArg List.length h0
    rw [List.length_take, List.length_nil] at this
    omega
  · exact hne c hc

theorem Delivers.last [ByteSource σ] {size : Nat} {s : σ} {n : Nat}
    (hr : (ByteSource.readChunk s size).1.outcome = .ok ⟨n, true⟩) (hs : n ≤ size)
    (hw : n ≤ (ByteSource.readChunk s size).1.written.length) :
    Delivers size s ((ByteSource.readChunk s size).1.written.take n) :=
  ⟨_, Gives.last hr hs hw, fun _ h => absurd h List.not_mem_nil,
    by rw [List.flatten_cons, List.flatten_nil, List.append_nil]⟩

/-- The budget of a source covers what it gives. -/
theorem Gives.length_le_budget [FiniteSource σ] {size : Nat} {s : σ} {chunks : List (List UInt8)}
    {ended : Bool} (h : Gives size s chunks ended) :
    chunks.flatten.length ≤ FiniteSource.budget s := by
  induction h with
  | nil s => exact Nat.zero_le _
  | @cons s n chunks ended hr hs hw h ih =>
    have hb := FiniteSource.count_add_budget_le s size
    rw [ReadReply.count, hr] at hb
    simp only [Nat.min_eq_left hs] at hb
    rw [List.flatten_cons, List.length_append, List.length_take]
    omega
  | @last s n hr hs hw =>
    have hb := FiniteSource.count_add_budget_le s size
    rw [ReadReply.count, hr] at hb
    simp only [Nat.min_eq_left hs] at hb
    rw [List.flatten_cons, List.flatten_nil, List.append_nil, List.length_take]
    omega

theorem Delivers.length_le_budget [FiniteSource σ] {size : Nat} {s : σ} {bytes : List UInt8}
    (h : Delivers size s bytes) : bytes.length ≤ FiniteSource.budget s := by
  obtain ⟨chunks, hg, -, rfl⟩ := h
  exact hg.length_le_budget

/-! ### Scripts of data -/

namespace Script

/-- **A script of data delivers it**, in reads of any size. -/
theorem delivers_data {size : Nat} (hsize : 0 < size) (parts : List (List UInt8))
    (hparts : ∀ p ∈ parts, p ≠ []) :
    Delivers size (⟨parts.map .data⟩ : Script) parts.flatten := by
  -- every read takes at least one byte, so the number of bytes left goes down
  induction hn : parts.flatten.length using Nat.strongRecOn generalizing parts with
  | _ n ih =>
    cases parts with
    | nil => exact Delivers.last (n := 0) rfl (Nat.zero_le _) (Nat.zero_le _)
    | cons bytes parts =>
      have hb : 0 < bytes.length := List.length_pos_iff.mpr (hparts _ (List.mem_cons_self ..))
      have hrest : ∀ p ∈ parts, p ≠ [] := fun p hp => hparts p (List.mem_cons_of_mem _ hp)
      -- what is left is again a script of data
      obtain ⟨parts', hrem, hne, hflat⟩ : ∃ parts' : List (List UInt8),
          remainder bytes size (parts.map .data) = parts'.map .data ∧ (∀ p ∈ parts', p ≠ []) ∧
            bytes.drop size ++ parts.flatten = parts'.flatten := by
        unfold remainder
        split_ifs with hle
        · exact ⟨parts, rfl, hrest, by rw [List.drop_eq_nil_of_le hle, List.nil_append]⟩
        · refine ⟨bytes.drop size :: parts, rfl, ?_, rfl⟩
          intro p hp
          rcases List.mem_cons.mp hp with rfl | hp
          · rw [Ne, List.drop_eq_nil_iff]
            exact hle
          · exact hrest p hp
      have hcut : (bytes :: parts).flatten = bytes.take size ++ parts'.flatten := by
        rw [← hflat, ← List.append_assoc, List.take_append_drop, List.flatten_cons]
      have htake : (bytes.take size).length = min size bytes.length := List.length_take
      have hless : parts'.flatten.length < n := by
        rw [← hn, hcut, List.length_append]
        omega
      have hd := ih _ hless parts' hne rfl
      rw [← hrem] at hd
      have hone : Delivers size (⟨(bytes :: parts).map .data⟩ : Script)
          ((bytes.take size).take (bytes.take size).length ++ parts'.flatten) :=
        Delivers.cons (n := (bytes.take size).length) rfl (by omega) (Nat.le_refl _) (by omega) hd
      rwa [List.take_length, ← hcut] at hone

/-- **Read through a reader**, bytes are delivered as well: no bytes mean the end. -/
theorem delivers_reader {size : Nat} (hsize : 0 < size) (bytes : List UInt8) :
    Delivers size (ReaderSource.mk (⟨[.data bytes]⟩ : Script)) bytes := by
  have hne : size ≠ 0 := Nat.pos_iff_ne_zero.mp hsize
  have hend : Delivers size (ReaderSource.mk (⟨[]⟩ : Script)) [] := by
    have hread : ByteSource.readChunk (ReaderSource.mk (⟨[]⟩ : Script)) size =
        (⟨[], .ok ⟨0, true⟩⟩, ⟨⟨[]⟩⟩) := if_neg hne
    exact Delivers.last (n := 0) (by rw [hread]) (Nat.zero_le _) (Nat.zero_le _)
  -- every read but the last takes at least one byte
  induction hn : bytes.length using Nat.strongRecOn generalizing bytes with
  | _ n ih =>
    have hread : ByteSource.readChunk (ReaderSource.mk (⟨[.data bytes]⟩ : Script)) size =
        (ReaderSource.interpret ⟨bytes.take size, .ok (bytes.take size).length⟩,
          ⟨⟨remainder bytes size []⟩⟩) := if_neg hne
    have htake : (bytes.take size).length = min size bytes.length := List.length_take
    cases hk : (bytes.take size).length with
    | zero =>
      have hnil : bytes = [] := List.length_eq_zero_iff.mp (by omega)
      subst hnil
      have hlast : Delivers size (ReaderSource.mk (⟨[.data []]⟩ : Script)) (List.take 0 _) :=
        Delivers.last (by rw [hread, hk]; rfl) (Nat.zero_le _) (Nat.zero_le _)
      exact hlast
    | succ k =>
      have hreply : ReaderSource.interpret ⟨bytes.take size, .ok (bytes.take size).length⟩ =
          ⟨bytes.take size, .ok ⟨k + 1, false⟩⟩ := by
        rw [hk]
        rfl
      rw [hreply] at hread
      have hrest : Delivers size (ReaderSource.mk (⟨remainder bytes size []⟩ : Script))
          (bytes.drop size) := by
        unfold remainder
        split_ifs with hle
        · rw [List.drop_eq_nil_of_le hle]
          exact hend
        · apply ih (bytes.drop size).length _ _ rfl
          rw [List.length_drop]
          omega
      have hone := Delivers.cons (n := k + 1) (by rw [hread]) (by omega)
        (by rw [hread]; exact Nat.le_of_eq hk.symm) (Nat.succ_pos k) (by rw [hread]; exact hrest)
      rw [hread, ← hk, List.take_length, List.take_append_drop] at hone
      exact hone

end Script

end RuleLexer
