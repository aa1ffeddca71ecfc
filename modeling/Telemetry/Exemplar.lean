import Telemetry.Sample
import Telemetry.Text.Hex

/-!
# Exemplars

An exemplar recorded against a series drops the labels that the sample carries already, and lifts the trace and
span id out of the rest. An id that is no hexadecimal text of the right length stays a label, as does a second one.
-/

namespace Telemetry

/-- The 16 bytes that identify a trace. -/
abbrev TraceId := Vector UInt8 16

/-- The 8 bytes that identify a span. -/
abbrev SpanId := Vector UInt8 8

structure Exemplar where
  value : Binary64
  timestamp : Int
  labels : List Label
  traceId : Option TraceId
  spanId : Option SpanId
deriving DecidableEq, Repr

namespace Exemplar

/-- The bytes that a text spells in hexadecimal, if there are `n` of them. -/
def id? (n : Nat) (text : String) : Option (Vector UInt8 n) :=
  match Text.Hex.decode? text.toList with
  | some bytes => if h : bytes.toArray.size = n then some ⟨bytes.toArray, h⟩ else none
  | none => none

def traceIdLabel : String := "trace_id"

def spanIdLabel : String := "span_id"

def traceIdOf? (l : Label) : Option TraceId := if l.name = traceIdLabel then id? 16 l.value else none

def spanIdOf? (l : Label) : Option SpanId := if l.name = spanIdLabel then id? 8 l.value else none

/-- Takes one more label: as an id if it holds the first of its kind, otherwise as a label. -/
def absorb (e : Exemplar) (l : Label) : Exemplar :=
  match e.traceId, traceIdOf? l with
  | none, some id => { e with traceId := some id }
  | _, _ =>
    match e.spanId, spanIdOf? l with
    | none, some id => { e with spanId := some id }
    | _, _ => { e with labels := e.labels ++ [l] }

/-- The labels of an attached exemplar whose names the sample does not carry. -/
def remaining (sampleLabels : List Label) (attached : AttachedExemplar) : List Label :=
  attached.labels.filter fun l => !sampleLabels.any fun s => s.name == l.name

/-- The exemplar to record for a sample with these labels. -/
def ofAttached (sampleLabels : List Label) (attached : AttachedExemplar) : Exemplar :=
  (remaining sampleLabels attached).foldl absorb ⟨attached.value, attached.timestamp, [], none, none⟩

end Exemplar

end Telemetry
