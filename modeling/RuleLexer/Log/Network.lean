import RuleLexer.Log.Ring

/-!
# Networks of loggers

Loggers pass the records that are grave enough for them to their sinks, in the order in which the
sinks were added. A sink is a ring, a console, or another logger with a level of its own. Loggers
and rings are known by their numbers, in order of creation; several loggers may share a sink, and a
sink may be added more than once.

A record is passed on through chains of loggers, depth first. In a network without cycles no chain
is longer than the number of loggers, which bounds the recursion.
-/

namespace RuleLexer.Log

/-- Where records go. -/
inductive Sink where
  | ring (number : Nat)
  | logger (number : Nat)
  | console
  deriving DecidableEq, Repr

/-- A logger: the least level it lets through and its sinks, first added first. -/
structure Logger where
  level : Level
  sinks : List Sink := []
  deriving DecidableEq, Repr

namespace Logger

/-- A record of this level passes. -/
def enabled (l : Logger) (level : Level) : Bool := level.atLeast l.level

/-- How a logger presents itself: its level and the number of its sinks. -/
def describe (l : Logger) : Text :=
  "Logger \x7b level: ".toList ++ l.level.title ++ ", sinks: ".toList ++
    Text.ofNat l.sinks.length ++ " \x7d".toList

/-- A logger without sinks. -/
def silent : Logger := ⟨.error, []⟩

end Logger

/-- **Loggers and rings**, by number. -/
structure Network where
  loggers : List Logger := []
  rings : List Ring := []
  deriving DecidableEq, Repr

namespace Network

/-- Adds a logger and gives its number. -/
def addLogger (n : Network) (l : Logger) : Nat × Network :=
  (n.loggers.length, { n with loggers := n.loggers ++ [l] })

/-- Adds a ring and gives its number. -/
def addRing (n : Network) (capacity : Nat) : Nat × Network :=
  (n.rings.length, { n with rings := n.rings ++ [⟨capacity, [], 0⟩] })

def updateLogger (n : Network) (logger : Nat) (f : Logger → Logger) : Network :=
  { n with loggers := n.loggers.modify logger f }

def updateRing (n : Network) (ring : Nat) (f : Ring → Ring) : Network :=
  { n with rings := n.rings.modify ring f }

/-- Adds a sink to a logger. -/
def attach (n : Network) (logger : Nat) (sink : Sink) : Network :=
  n.updateLogger logger fun l => { l with sinks := l.sinks ++ [sink] }

def setLevel (n : Network) (logger : Nat) (level : Level) : Network :=
  n.updateLogger logger fun l => { l with level := level }

/-- A record of this level passes the logger. -/
def enabled (n : Network) (logger : Nat) (level : Level) : Bool :=
  match n.loggers[logger]? with
  | some l => l.enabled level
  | none => false

/-- Calls at the rings that a record of some level reaches from a logger, depth first, through at
most so many loggers in a row. -/
def visit {α : Type} (loggers : List Logger) (level : Level) (call : Nat → α → α) :
    Nat → Nat → α → α
  | 0, _, a => a
  | depth + 1, logger, a =>
    match loggers[logger]? with
    | none => a
    | some l =>
      if l.enabled level then
        l.sinks.foldl (fun a sink =>
          match sink with
          | .ring ring => call ring a
          | .console => a
          | .logger next => visit loggers level call depth next a) a
      else a

/-- Passes a record to a logger, which writes it to the rings that it reaches. All of them get the
same record, its time included. That simplifies: a logger that is the sink of another makes a new
record of the level, target and message that it is handed, with the time of its own clock, so a copy
that has come through a chain of loggers may bear a later time than this one. -/
def deliver (record : Record) (depth logger : Nat) (n : Network) : Network :=
  visit n.loggers record.level (fun ring n => n.updateRing ring (·.write record)) depth logger n

/-- Logs a record with a logger. -/
def log (n : Network) (logger : Nat) (record : Record) : Network :=
  deliver record n.loggers.length logger n

end Network

/-! ### Setting up a logger -/

/-- An output of a logger to be set up. -/
inductive Output where
  | stdout
  | stderr
  | ring (capacity : Nat)
  deriving DecidableEq, Repr

/-- What to set up: a level and outputs. -/
structure Setup where
  level : Level
  outputs : List Output := []
  deriving DecidableEq, Repr

namespace Setup

/-- Informative messages, and nowhere to go. -/
def standard : Setup := ⟨.info, []⟩

/-- For development: nearly everything, on the console and in a large ring. -/
def development : Setup := ⟨.debug, [.stdout, .ring 10000]⟩

/-- Warnings and errors, kept in a ring. -/
def quiet : Setup := ⟨.warn, [.ring 1000]⟩

def withOutput (s : Setup) (o : Output) : Setup := { s with outputs := s.outputs ++ [o] }

/-- Adds one output to a logger; a ring is remembered. -/
def addOutput (logger : Nat) (acc : Option Nat × Network) : Output → Option Nat × Network
  | .ring capacity =>
    let (ring, n) := acc.2.addRing capacity
    (some ring, n.attach logger (.ring ring))
  | _ => (acc.1, acc.2.attach logger .console)

/-- Sets up a logger: its number and that of its last ring. -/
def init (s : Setup) (n : Network) : Nat × Option Nat × Network :=
  let (logger, n) := n.addLogger ⟨s.level, []⟩
  let (ring, n) := s.outputs.foldl (addOutput logger) (none, n)
  (logger, ring, n)

end Setup

end RuleLexer.Log
