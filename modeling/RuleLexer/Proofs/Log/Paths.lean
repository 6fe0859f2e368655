import Mathlib.Data.Set.Card
import Mathlib.Logic.Relation
import Mathlib.Tactic.IntervalCases
import RuleLexer.Proofs.Log.Ring

/-!
# The ways of records through a network of loggers

A record goes from a logger to a ring through sinks. Such a way is known by the places of its sinks
(`Way`), and it is open to a record if every logger on it lets the record through (`Open`).

`ways` lists the open ways of at most some length, as the recursion through the sinks meets them:
what is done at the rings is done in this order (`visit_eq_foldl`), the list has every open way that
is short enough (`mem_ways`), and it is sorted by the places of the sinks (`pairwise_ways`). In a
network without cycles no open way is longer than the number of loggers (`Open.length_le`), so none
is missed. Logging, new levels and new sinks never take a cycle away (`Acyclic.of_foldl`). So at the
time of each call the network has none, and a ring gets a copy of the record for each open way to it
(`copies_along_open_ways`).
-/

namespace RuleLexer.Log.Network

/-! ### Ways -/

/-- **A way to a ring**: the places of the sinks that it goes through, each among the sinks of the
logger before it, and the ring at its end. -/
structure Way where
  places : List Nat
  ring : Nat
  deriving DecidableEq, Repr

/-- The way that goes through one more sink first. -/
def Way.behind (w : Way) (place : Nat) : Way := ⟨place :: w.places, w.ring⟩

/-- **A way is open** to records of some level if no logger on it asks for a higher one. -/
inductive Open (n : Network) (level : Level) : Nat → Way → Prop
  | ring {logger place ring : Nat} {l : Logger} (hlogger : n.loggers[logger]? = some l)
      (hlevel : l.level.code ≤ level.code) (hsink : l.sinks[place]? = some (.ring ring)) :
      Open n level logger ⟨[place], ring⟩
  | logger {logger place next : Nat} {l : Logger} {w : Way}
      (hlogger : n.loggers[logger]? = some l) (hlevel : l.level.code ≤ level.code)
      (hsink : l.sinks[place]? = some (.logger next)) (hrest : Open n level next w) :
      Open n level logger (w.behind place)

/-- The ways that go through a sink first, if those of each logger are known. -/
def waysThrough (rest : Nat → List Way) (place : Nat) : Sink → List Way
  | .ring ring => [⟨[place], ring⟩]
  | .console => []
  | .logger next => (rest next).map (·.behind place)

/-- The open ways through at most so many loggers, depth first. -/
def ways (loggers : List Logger) (level : Level) : Nat → Nat → List Way
  | 0, _ => []
  | depth + 1, logger =>
    match loggers[logger]? with
    | none => []
    | some l =>
      if l.enabled level then
        l.sinks.zipIdx.flatMap fun s => waysThrough (ways loggers level depth) s.2 s.1
      else []

/-- A way that is listed goes through a sink of its logger first. -/
theorem mem_ways_succ {loggers : List Logger} {level : Level} {depth logger : Nat} {w : Way} :
    w ∈ ways loggers level (depth + 1) logger ↔
      ∃ l place sink, loggers[logger]? = some l ∧ l.level.code ≤ level.code ∧
        l.sinks[place]? = some sink ∧ w ∈ waysThrough (ways loggers level depth) place sink := by
  rw [ways]
  cases loggers[logger]? with
  | none => simp
  | some l =>
    simp only [Logger.enabled, Level.atLeast, decide_eq_true_eq, Option.some.injEq]
    split_ifs with hlevel
    · simp only [List.mem_flatMap, Prod.exists, List.mem_zipIdx_iff_getElem?, exists_and_left,
        exists_eq_left', hlevel, true_and]
      exact exists_comm
    · simp [hlevel]

/-- What is done at the rings is done along the open ways, one after the other. -/
theorem visit_eq_foldl {α : Type} (loggers : List Logger) (level : Level) (call : Nat → α → α)
    (depth logger : Nat) (a : α) :
    visit loggers level call depth logger a =
      (ways loggers level depth logger).foldl (fun a w => call w.ring a) a := by
  induction depth generalizing logger a with
  | zero => rfl
  | succ depth ih =>
    rw [visit, ways]
    cases loggers[logger]? with
    | none => rfl
    | some l =>
      dsimp only
      split_ifs with hpass
      · rw [List.foldl_flatMap]
        conv_lhs => rw [← List.zipIdx_map_fst 0 l.sinks, List.foldl_map]
        refine List.foldl_ext _ _ a fun a s _ => ?_
        obtain ⟨sink, place⟩ := s
        cases sink with
        | ring ring => rfl
        | console => rfl
        | logger next =>
          show visit loggers level call depth next a = _
          rw [ih, waysThrough, List.foldl_map]
          rfl
      · rfl

/-- The ways that are listed are the open ways of at most this length. -/
theorem mem_ways {n : Network} {level : Level} {depth logger : Nat} {w : Way} :
    w ∈ ways n.loggers level depth logger ↔
      n.Open level logger w ∧ w.places.length ≤ depth := by
  induction depth generalizing logger w with
  | zero =>
    refine ⟨fun h => absurd h List.not_mem_nil, ?_⟩
    rintro ⟨hopen, hlength⟩
    -- a way goes through one sink at least
    cases hopen <;> cases hlength
  | succ depth ih =>
    rw [mem_ways_succ]
    constructor
    · rintro ⟨l, place, sink, hlogger, hlevel, hsink, hw⟩
      cases sink with
      | ring ring =>
        rw [List.mem_singleton.mp hw]
        exact ⟨.ring hlogger hlevel hsink, Nat.succ_le_succ (Nat.zero_le depth)⟩
      | console => cases hw
      | logger next =>
        obtain ⟨w, hrest, rfl⟩ := List.mem_map.mp hw
        obtain ⟨hopen, hlength⟩ := ih.mp hrest
        exact ⟨.logger hlogger hlevel hsink hopen, Nat.succ_le_succ hlength⟩
    · rintro ⟨hopen, hlength⟩
      cases hopen with
      | ring hlogger hlevel hsink =>
        exact ⟨_, _, _, hlogger, hlevel, hsink, List.mem_singleton.mpr rfl⟩
      | logger hlogger hlevel hsink hrest =>
        have hshort := Nat.le_of_succ_le_succ hlength
        exact ⟨_, _, _, hlogger, hlevel, hsink,
          List.mem_map.mpr ⟨_, ih.mpr ⟨hrest, hshort⟩, rfl⟩⟩

/-- A way through a sink begins with the place of this sink. -/
theorem exists_places_eq {rest : Nat → List Way} {place : Nat} {sink : Sink} {w : Way}
    (h : w ∈ waysThrough rest place sink) : ∃ places, w.places = place :: places := by
  cases sink with
  | ring ring =>
    rw [List.mem_singleton.mp h]
    exact ⟨[], rfl⟩
  | console => cases h
  | logger next =>
    obtain ⟨w, -, rfl⟩ := List.mem_map.mp h
    exact ⟨w.places, rfl⟩

/-- The ways are listed in order: at the first sink where two of them part, the one through the sink
that was added first comes first. -/
theorem pairwise_ways (loggers : List Logger) (level : Level) (depth logger : Nat) :
    (ways loggers level depth logger).Pairwise fun v w => v.places < w.places := by
  induction depth generalizing logger with
  | zero => exact .nil
  | succ depth ih =>
    rw [ways]
    cases loggers[logger]? with
    | none => exact .nil
    | some l =>
      dsimp only
      split_ifs
      · refine List.pairwise_flatMap.mpr ⟨fun s _ => ?_, ?_⟩
        · -- ways through the same sink part later
          cases s.1 with
          | ring ring => exact List.pairwise_singleton _ _
          | console => exact .nil
          | logger next =>
            refine List.pairwise_map.mpr ((ih next).imp fun h => ?_)
            exact List.cons_lt_cons_iff.mpr (.inr ⟨rfl, h⟩)
        · -- ways through two sinks part there
          have hplaces : l.sinks.zipIdx.Pairwise fun s t => s.2 < t.2 := by
            rw [← List.pairwise_map, List.zipIdx_map_snd]
            exact List.pairwise_lt_range'
          refine hplaces.imp fun hlt v hv w hw => ?_
          obtain ⟨_, hv⟩ := exists_places_eq hv
          obtain ⟨_, hw⟩ := exists_places_eq hw
          rw [hv, hw]
          exact List.cons_lt_cons_iff.mpr (.inl hlt)
      · exact .nil

theorem nodup_ways (loggers : List Logger) (level : Level) (depth logger : Nat) :
    (ways loggers level depth logger).Nodup := by
  refine (pairwise_ways loggers level depth logger).imp fun hlt heq => ?_
  rw [heq] at hlt
  exact lt_irrefl _ hlt

/-! ### Cycles -/

/-- A logger has another one among its sinks. -/
def Feeds (n : Network) (a b : Nat) : Prop :=
  ∃ l, n.loggers[a]? = some l ∧ Sink.logger b ∈ l.sinks

/-- A network without cycles: no logger passes records on to itself, however far round. -/
def Acyclic (n : Network) : Prop := ∀ a, ¬ Relation.TransGen n.Feeds a a

/-- Loggers that pass records on to earlier ones only make no cycle. -/
theorem acyclic_of_lt {n : Network} (h : ∀ a b, n.Feeds a b → b < a) : n.Acyclic := by
  intro a ha
  have hlt : ∀ {b}, Relation.TransGen n.Feeds a b → b < a := by
    intro b hb
    induction hb with
    | single hfeeds => exact h _ _ hfeeds
    | tail _ hfeeds ih => exact (h _ _ hfeeds).trans ih
  exact Nat.lt_irrefl a (hlt ha)

theorem Acyclic.mono {n n' : Network} (h : n'.Acyclic)
    (hfeeds : ∀ a b, n.Feeds a b → n'.Feeds a b) : n.Acyclic :=
  fun a ha => h a (Relation.TransGen.mono hfeeds _ _ ha)

/-- The loggers on an open way are there, and each passes records on to those behind it. -/
theorem Open.exists_loggers {n : Network} {level : Level} {logger : Nat} {w : Way}
    (h : n.Open level logger w) :
    ∃ others : List Nat, others.length + 1 = w.places.length ∧
      (∀ a ∈ logger :: others, a < n.loggers.length) ∧
      (logger :: others).Pairwise (Relation.TransGen n.Feeds) := by
  induction h with
  | ring hlogger =>
    obtain ⟨hlt, -⟩ := List.getElem?_eq_some_iff.mp hlogger
    exact ⟨[], rfl, List.forall_mem_singleton.mpr hlt, List.pairwise_singleton _ _⟩
  | @logger a place next l w hlogger hlevel hsink hrest ih =>
    obtain ⟨hlt, -⟩ := List.getElem?_eq_some_iff.mp hlogger
    obtain ⟨others, hlength, hthere, hpairwise⟩ := ih
    have hfeeds : n.Feeds a next := ⟨l, hlogger, List.mem_of_getElem? hsink⟩
    refine ⟨next :: others, ?_, List.forall_mem_cons.mpr ⟨hlt, hthere⟩,
      List.pairwise_cons.mpr ⟨List.forall_mem_cons.mpr ⟨.single hfeeds, ?_⟩, hpairwise⟩⟩
    · exact congrArg (· + 1) hlength
    · intro b hb
      exact .head hfeeds (List.rel_of_pairwise_cons hpairwise hb)

/-- Without cycles no open way is longer than the number of loggers. -/
theorem Open.length_le {n : Network} {level : Level} {logger : Nat} {w : Way}
    (h : n.Open level logger w) (hacyclic : n.Acyclic) :
    w.places.length ≤ n.loggers.length := by
  obtain ⟨others, hlength, hthere, hpairwise⟩ := h.exists_loggers
  have hnodup : (logger :: others).Nodup := by
    refine hpairwise.imp fun {a b} hab heq => ?_
    subst heq
    exact hacyclic a hab
  have hsubset : logger :: others ⊆ List.range n.loggers.length :=
    fun a ha => List.mem_range.mpr (hthere a ha)
  have hle := (hnodup.subperm hsubset).length_le
  rwa [List.length_range, List.length_cons, hlength] at hle

/-! ### One record -/

/-- Every open way is listed, if there are no cycles. -/
theorem mem_ways_iff_open {n : Network} (h : n.Acyclic) {level : Level} {logger : Nat} {w : Way} :
    w ∈ ways n.loggers level n.loggers.length logger ↔ n.Open level logger w :=
  mem_ways.trans (and_iff_left_of_imp fun hopen => hopen.length_le h)

theorem log_eq_foldl (n : Network) (logger : Nat) (record : Record) :
    n.log logger record = (ways n.loggers record.level n.loggers.length logger).foldl
      (fun n w => n.updateRing w.ring (·.write record)) n :=
  visit_eq_foldl ..

theorem loggers_log (n : Network) (logger : Nat) (record : Record) :
    (n.log logger record).loggers = n.loggers := by
  rw [log_eq_foldl]
  generalize ways n.loggers record.level n.loggers.length logger = list
  induction list generalizing n with
  | nil => rfl
  | cons w list ih => exact ih _

/-- A ring is written to once for each way to it. -/
theorem getElem?_rings_foldl (n : Network) (record : Record) (ring : Nat) (list : List Way) :
    (list.foldl (fun n w => n.updateRing w.ring (·.write record)) n).rings[ring]? =
      n.rings[ring]?.map
        ((List.replicate (list.countP (·.ring = ring)) record).foldl Ring.write) := by
  induction list generalizing n with
  | nil => simp
  | cons w list ih =>
    rw [List.foldl_cons, ih, List.countP_cons]
    show Option.map _ (n.rings.modify w.ring (·.write record))[ring]? = _
    rw [List.getElem?_modify]
    cases n.rings[ring]? with
    | none => rfl
    | some state =>
      by_cases hring : w.ring = ring
      · simp [hring, List.replicate_succ]
      · simp [hring]

/-- The open ways to a ring are as many as the list has. -/
theorem ncard_open {n : Network} (h : n.Acyclic) (level : Level) (logger ring : Nat) :
    {w | n.Open level logger w ∧ w.ring = ring}.ncard =
      (ways n.loggers level n.loggers.length logger).countP (·.ring = ring) := by
  set list := ways n.loggers level n.loggers.length logger with hlist
  have hnodup : list.Nodup := nodup_ways n.loggers level n.loggers.length logger
  have hset : {w | n.Open level logger w ∧ w.ring = ring} =
      ((list.filter (·.ring = ring)).toFinset : Set Way) := by
    ext w
    simp [hlist, mem_ways_iff_open h]
  rw [hset, Set.ncard_coe_finset, List.toFinset_card_of_nodup (hnodup.filter _),
    List.countP_eq_length_filter]

/-! ### Acts -/

/-- What can be done to a network. -/
inductive Act where
  | log (logger : Nat) (record : Record)
  | setLevel (logger : Nat) (level : Level)
  | attach (logger : Nat) (sink : Sink)
  deriving DecidableEq, Repr

/-- The network after an act. -/
def apply (n : Network) : Act → Network
  | .log logger record => n.log logger record
  | .setLevel logger level => n.setLevel logger level
  | .attach logger sink => n.attach logger sink

/-- The acts with the networks that they find. -/
def steps (n : Network) : List Act → List (Network × Act)
  | [] => []
  | act :: acts => (n, act) :: (n.apply act).steps acts

/-- The copies that an act brings to a ring: if it logs a record, one for each open way. -/
noncomputable def copies (n : Network) (ring : Nat) : Act → List Record
  | .log logger record =>
    List.replicate {w | n.Open record.level logger w ∧ w.ring = ring}.ncard record
  | _ => []

/-- A logger keeps those that it feeds, if it keeps its sinks. -/
theorem Feeds.updateLogger {n : Network} {a b : Nat} (h : n.Feeds a b) (logger : Nat)
    {f : Logger → Logger} (hf : ∀ l, l.sinks ⊆ (f l).sinks) :
    (n.updateLogger logger f).Feeds a b := by
  obtain ⟨l, hl, hsink⟩ := h
  have hl' : (n.updateLogger logger f).loggers[a]? = some (if logger = a then f l else l) := by
    show (n.loggers.modify logger f)[a]? = _
    rw [List.getElem?_modify, hl]
    split_ifs <;> rfl
  refine ⟨_, hl', ?_⟩
  split_ifs
  · exact hf l hsink
  · exact hsink

/-- No act takes a sink away, so none takes a cycle away. -/
theorem Acyclic.of_apply {n : Network} {act : Act} (h : (n.apply act).Acyclic) : n.Acyclic := by
  refine h.mono fun a b hfeeds => ?_
  cases act with
  | log logger record =>
    show ∃ l, (n.log logger record).loggers[a]? = some l ∧ _
    rw [loggers_log]
    exact hfeeds
  | setLevel logger level => exact hfeeds.updateLogger logger fun l => List.Subset.refl l.sinks
  | attach logger sink => exact hfeeds.updateLogger logger fun l => List.subset_append_left ..

theorem Acyclic.of_foldl {acts : List Act} {n : Network} (h : (acts.foldl apply n).Acyclic) :
    n.Acyclic := by
  induction acts generalizing n with
  | nil => exact h
  | cons act acts ih => exact (ih h).of_apply

/-- An act brings its copies to a ring. -/
theorem getElem?_rings_apply {n : Network} (h : n.Acyclic) (act : Act) (ring : Nat) :
    (n.apply act).rings[ring]? = n.rings[ring]?.map ((n.copies ring act).foldl Ring.write) := by
  cases act with
  | log logger record =>
    show (n.log logger record).rings[ring]? = _
    rw [log_eq_foldl, getElem?_rings_foldl, copies, ncard_open h]
  | setLevel logger level => exact Option.map_id'.symm
  | attach logger sink => exact Option.map_id'.symm

/-- **Records go along the open ways.** Any loggers and rings are connected in any way, without
cycles, and records are logged, levels set and sinks added in any order. Then a ring gets as many
copies of a record as there are ways to it, from the logger that the record is logged with, on which
no logger asks for a higher level than the record has, at that time; and it gets those of earlier
calls first. In each call, the rings are written to in the order of these ways: depth first, and at
each logger through the sink that was added first. -/
theorem copies_along_open_ways (n : Network) (acts : List Act) (h : (acts.foldl apply n).Acyclic) :
    (∀ ring, (acts.foldl apply n).rings[ring]? = n.rings[ring]?.map
      (((n.steps acts).flatMap fun s => s.1.copies ring s.2).foldl Ring.write)) ∧
    ∀ now logger record, (now, Act.log logger record) ∈ n.steps acts →
      ∃ list : List Way, list.Pairwise (fun v w => v.places < w.places) ∧
        (∀ w, w ∈ list ↔ now.Open record.level logger w) ∧
        now.log logger record =
          list.foldl (fun n w => n.updateRing w.ring (·.write record)) now ∧
        ∀ (α : Type) (call : Nat → α → α) (a : α),
          visit now.loggers record.level call now.loggers.length logger a =
            list.foldl (fun a w => call w.ring a) a := by
  induction acts generalizing n with
  | nil => exact ⟨fun ring => Option.map_id'.symm, fun _ _ _ hmem => absurd hmem List.not_mem_nil⟩
  | cons act acts ih =>
    have hacyclic : n.Acyclic := Acyclic.of_foldl h
    obtain ⟨hrings, hcalls⟩ := ih (n.apply act) h
    constructor
    · intro ring
      rw [List.foldl_cons, hrings, getElem?_rings_apply hacyclic, Option.map_map, steps,
        List.flatMap_cons]
      congr 1
      funext state
      exact List.foldl_append.symm
    · intro now logger record hmem
      rcases List.mem_cons.mp hmem with heq | hmem
      · cases heq
        exact ⟨_, pairwise_ways .., fun w => mem_ways_iff_open hacyclic, log_eq_foldl ..,
          fun α call a => visit_eq_foldl ..⟩
      · exact hcalls now logger record hmem

/-- A logger has a ring behind it on two ways, one of them through a logger that is closed later on;
in the end it gets the ring itself as a sink. -/
theorem copies_along_open_ways_diamond :
    let n : Network := ⟨[⟨.trace, [.ring 0]⟩, ⟨.info, [.logger 0]⟩,
      ⟨.debug, [.logger 0, .logger 1, .ring 1]⟩], [⟨9, [], 0⟩, ⟨9, [], 0⟩]⟩
    let first : Record := ⟨0, .info, ['t'], ['a']⟩
    let second : Record := ⟨1, .warn, ['t'], ['b']⟩
    let acts : List Act := [.log 2 first, .setLevel 1 .error, .log 2 second, .setLevel 1 .trace,
      .attach 2 (.ring 0), .log 2 second, .log 2 ⟨2, .trace, ['t'], ['c']⟩]
    (acts.foldl apply n).Acyclic ∧
      (n.steps acts).flatMap (fun s => s.1.copies 0 s.2) =
        [first, first, second, second, second, second] := by
  intro n first second acts
  have hloggers : (acts.foldl apply n).loggers = [⟨.trace, [.ring 0]⟩, ⟨.trace, [.logger 0]⟩,
      ⟨.debug, [.logger 0, .logger 1, .ring 1, .ring 0]⟩] := by decide
  have hacyclic : (acts.foldl apply n).Acyclic := by
    refine acyclic_of_lt fun a b hfeeds => ?_
    obtain ⟨l, hl, hsink⟩ := hfeeds
    rw [hloggers] at hl
    have hlt : a < 3 := (List.getElem?_eq_some_iff.mp hl).1
    interval_cases a <;> cases hl <;> simp at hsink <;> omega
  refine ⟨hacyclic, ?_⟩
  have hring := (copies_along_open_ways n acts hacyclic).1 0
  have hstate : (acts.foldl apply n).rings[0]? =
      some ⟨9, [first, first, second, second, second, second], 0⟩ := by decide
  have hempty : n.rings[0]? = some ⟨9, [], 0⟩ := rfl
  rw [hstate, hempty, Option.map_some, Ring.foldl_write, Option.some.injEq, Ring.mk.injEq] at hring
  obtain ⟨-, hrecords, hdropped⟩ := hring
  -- the ring has let nothing go, so it holds all that it has got
  rw [← hdropped, List.drop_zero] at hrecords
  exact hrecords.symm

end RuleLexer.Log.Network
