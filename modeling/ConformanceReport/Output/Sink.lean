import ConformanceReport.Text.Utf8

/-!
# Sinks

A sink takes output byte by byte. It may have room for a limited number of bytes only, and its
flush may fail after a number of times. A write that finds too little room is taken as far as the
room goes and then fails; everything that was taken stays.
-/

namespace ConformanceReport

/-- Why a sink did not do what it was asked. -/
structure SinkError where
  message : String
  deriving DecidableEq, Repr

/-- A place that output goes to. -/
structure Sink where
  /-- What was taken so far. -/
  taken : Bytes
  /-- The number of bytes that there is still room for; nothing if there is no limit. -/
  room : Option Nat
  /-- The error of a write that there is no room for. -/
  full : SinkError
  /-- The number of flushes that still succeed; nothing if all do. -/
  flushes : Option Nat
  /-- The error of a flush that fails. -/
  stuck : SinkError
  deriving DecidableEq, Repr

namespace Sink

/-- An empty sink that never fails. -/
def unlimited : Sink := ⟨[], none, ⟨""⟩, none, ⟨""⟩⟩

/-- The part of some bytes that there is room for. -/
def fitting (sink : Sink) (bytes : Bytes) : Bytes :=
  match sink.room with
  | none => bytes
  | some room => bytes.take room

/-- The sink after it took what fits of some bytes. -/
def take (sink : Sink) (bytes : Bytes) : Sink :=
  { sink with
    taken := sink.taken ++ sink.fitting bytes
    room := sink.room.map fun room => room - bytes.length }

/-- Whether there is room for some bytes. -/
def fits (sink : Sink) (bytes : Bytes) : Bool :=
  match sink.room with
  | none => true
  | some room => bytes.length ≤ room

/-- Writes bytes. What fits is taken even if the write fails. -/
def write (sink : Sink) (bytes : Bytes) : Sink × Except SinkError Unit :=
  (sink.take bytes, if sink.fits bytes then .ok () else .error sink.full)

/-- Writes pieces one after the other, up to the first that is not taken whole. -/
def writeAll (sink : Sink) : List Bytes → Sink × Except SinkError Unit
  | [] => (sink, .ok ())
  | piece :: more =>
    match sink.write piece with
    | (sink, .error error) => (sink, .error error)
    | (sink, .ok ()) => sink.writeAll more

/-- Flushes the sink. -/
def flush (sink : Sink) : Sink × Except SinkError Unit :=
  match sink.flushes with
  | none => (sink, .ok ())
  | some 0 => (sink, .error sink.stuck)
  | some (flushes + 1) => ({ sink with flushes := some flushes }, .ok ())

end Sink

end ConformanceReport
