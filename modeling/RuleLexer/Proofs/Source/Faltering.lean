import RuleLexer.Proofs.Source.Delivery

/-!
# Sources that falter

A source may fail on the way and still give all of its bytes to whoever goes on asking. `Falters`
lists the faults of such a source in the order in which its reads run into them; apart from the
failing reads it delivers its bytes like any other source.

* `Delivers.falters`, `Falters.delivers`: a source that delivers its bytes is one that never
  falters.
* `Script.falters_steps`: a script of data with failing steps anywhere between falters, and without
  these steps it delivers the same bytes (`Script.delivers_steps`).
-/

namespace RuleLexer

variable {σ : Type}

/-- **A source that delivers a byte string and falters on the way**, with these faults in this
order. As in `Delivers`, reads bring the bytes in order and each of them at least one, up to a last
read that says that the source is at its end. A failing read brings nothing, whatever it writes. -/
inductive Falters [ByteSource σ] (size : Nat) : σ → List UInt8 → List ReadFault → Prop where
  | last {s : σ} {n : Nat} (hr : (ByteSource.readChunk s size).1.outcome = .ok ⟨n, true⟩)
      (hs : n ≤ size) (hw : n ≤ (ByteSource.readChunk s size).1.written.length) :
      Falters size s ((ByteSource.readChunk s size).1.written.take n) []
  | data {s : σ} {n : Nat} {rest : List UInt8} {faults : List ReadFault}
      (hr : (ByteSource.readChunk s size).1.outcome = .ok ⟨n, false⟩) (hs : n ≤ size)
      (hw : n ≤ (ByteSource.readChunk s size).1.written.length) (hn : 0 < n)
      (h : Falters size (ByteSource.readChunk s size).2 rest faults) :
      Falters size s ((ByteSource.readChunk s size).1.written.take n ++ rest) faults
  | fault {s : σ} {fault : ReadFault} {bytes : List UInt8} {faults : List ReadFault}
      (hr : (ByteSource.readChunk s size).1.outcome = .error fault)
      (h : Falters size (ByteSource.readChunk s size).2 bytes faults) :
      Falters size s bytes (fault :: faults)

/-- **A source that delivers never falters.** -/
theorem Delivers.falters [ByteSource σ] {size : Nat} {s : σ} {bytes : List UInt8}
    (h : Delivers size s bytes) : Falters size s bytes [] := by
  -- every read but the last brings a byte
  induction hn : bytes.length using Nat.strongRecOn generalizing s bytes with
  | _ n ih =>
    obtain ⟨k, ended, hr, hs, hw, ⟨rfl, rfl⟩ | ⟨rfl, hpos, rest, hrest, rfl⟩⟩ := h.cases
    · exact .last hr hs hw
    · rw [List.length_append, List.length_take, Nat.min_eq_left hw] at hn
      exact .data hr hs hw hpos (ih rest.length (by omega) hrest rfl)

/-- **A source that never falters delivers.** -/
theorem Falters.delivers [ByteSource σ] {size : Nat} {s : σ} {bytes : List UInt8}
    (h : Falters size s bytes []) : Delivers size s bytes := by
  generalize hnone : ([] : List ReadFault) = faults at h
  induction h with
  | last hr hs hw => exact .last hr hs hw
  | data hr hs hw hn _ ih => exact .cons hr hs hw hn (ih hnone)
  | fault _ _ _ => cases hnone

/-! ### Scripts with failing steps -/

namespace Step

/-- The bytes of a data step. -/
def data? : Step → Option (List UInt8)
  | .data bytes => some bytes
  | _ => none

/-- The fault of a failing step. -/
def fault? : Step → Option ReadFault
  | .fail f => some f
  | _ => none

/-- A step that brings bytes or fails. -/
def Plain (step : Step) : Prop := (∃ bytes ≠ [], step = .data bytes) ∨ ∃ f, step = .fail f

end Step

namespace Script

/-- **A script of data with failing steps anywhere between falters**, in reads of any size. -/
theorem falters_steps {size : Nat} (hsize : 0 < size) (steps : List Step)
    (h : ∀ step ∈ steps, step.Plain) :
    Falters size (⟨steps⟩ : Script) (steps.filterMap Step.data?).flatten
      (steps.filterMap Step.fault?) := by
  -- every read uses up a step or some bytes of one
  induction hn : steps.length + (steps.filterMap Step.data?).flatten.length using Nat.strongRecOn
    generalizing steps with
  | _ n ih =>
    cases steps with
    | nil => exact Falters.last (n := 0) rfl (Nat.zero_le _) (Nat.zero_le _)
    | cons step steps =>
      have hrest : ∀ step ∈ steps, step.Plain := fun q hq => h q (List.mem_cons_of_mem _ hq)
      rcases h step (List.mem_cons_self ..) with ⟨bytes, hne, rfl⟩ | ⟨f, rfl⟩
      · have hpos := List.length_pos_iff.mpr hne
        have htake : (bytes.take size).length = min size bytes.length := List.length_take
        have hdrop : (bytes.drop size).length = bytes.length - size := List.length_drop
        have hdata : (Step.data bytes :: steps).filterMap Step.data? =
            bytes :: steps.filterMap Step.data? := rfl
        rw [hdata, List.flatten_cons, List.length_cons, List.length_append] at hn
        -- what is left of the script falters with what is left of the bytes
        have hleft : Falters size (⟨remainder bytes size steps⟩ : Script)
            (bytes.drop size ++ (steps.filterMap Step.data?).flatten)
            (steps.filterMap Step.fault?) := by
          unfold remainder
          split_ifs with hle
          · rw [List.drop_eq_nil_of_le hle, List.nil_append]
            exact ih _ (by omega) steps hrest rfl
          · have hdropne : bytes.drop size ≠ [] := by
              rw [Ne, List.drop_eq_nil_iff]
              exact hle
            have hplain : ∀ step ∈ Step.data (bytes.drop size) :: steps, step.Plain := by
              intro q hq
              rcases List.mem_cons.mp hq with rfl | hq
              · exact Or.inl ⟨_, hdropne, rfl⟩
              · exact hrest q hq
            refine ih _ ?_ (.data (bytes.drop size) :: steps) hplain rfl
            show (steps.length + 1) + (bytes.drop size ++
              (steps.filterMap Step.data?).flatten).length < n
            rw [List.length_append]
            omega
        have hone : Falters size (⟨.data bytes :: steps⟩ : Script)
            ((bytes.take size).take (bytes.take size).length ++
              (bytes.drop size ++ (steps.filterMap Step.data?).flatten))
            (steps.filterMap Step.fault?) :=
          Falters.data (n := (bytes.take size).length) rfl (by omega) (Nat.le_refl _) (by omega)
            hleft
        rw [List.take_length, ← List.append_assoc, List.take_append_drop] at hone
        exact hone
      · have hfail : (Step.fail f :: steps).filterMap Step.data? = steps.filterMap Step.data? := rfl
        rw [hfail, List.length_cons] at hn
        exact Falters.fault rfl (ih _ (by omega) steps hrest rfl)

/-- Without its failing steps such a script delivers the same bytes. -/
theorem delivers_steps {size : Nat} (hsize : 0 < size) (steps : List Step)
    (h : ∀ step ∈ steps, step.Plain) :
    Delivers size (⟨steps.filter fun step => step.fault?.isNone⟩ : Script)
      (steps.filterMap Step.data?).flatten := by
  have hparts : (steps.filterMap Step.data?).map Step.data =
      steps.filter fun step => step.fault?.isNone := by
    induction steps with
    | nil => rfl
    | cons step steps ih =>
      have hrest := ih fun q hq => h q (List.mem_cons_of_mem _ hq)
      rcases h step (List.mem_cons_self ..) with ⟨bytes, -, rfl⟩ | ⟨f, rfl⟩
      · exact congrArg (Step.data bytes :: ·) hrest
      · exact hrest
  rw [← hparts]
  refine delivers_data hsize _ fun bytes hbytes => ?_
  obtain ⟨step, hstep, hdata⟩ := List.mem_filterMap.mp hbytes
  rcases h step hstep with ⟨bytes', hne, rfl⟩ | ⟨f, rfl⟩
  · cases hdata
    exact hne
  · cases hdata

end Script

end RuleLexer
