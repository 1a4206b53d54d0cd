import FunctionBindings.Json.Printer
import FunctionBindings.Json.Reader

/-!
# Source locations

The front-end that produced a model gives byte ranges in source files. They only appear in
diagnostics; the range from zero to zero means that no place is known.
-/

namespace FunctionBindings

open Json (Field Reader)

/-- A byte range in a source file, from `start` up to but not including `stop`. -/
structure Span where
  start : UInt64
  stop : UInt64
  deriving DecidableEq, Repr, Inhabited

namespace Span

/-- The span of a declaration without a known place. -/
def unknown : Span := ⟨0, 0⟩

/-- True of the span without a known place. -/
def isUnknown (span : Span) : Bool := span.start == 0 && span.stop == 0

/-- True of a span that lies in a text. -/
def liesIn (span : Span) (text : String) : Bool :=
  span.start ≤ span.stop && span.stop.toNat ≤ text.utf8ByteSize

/-- The offsets of a span as they appear in messages. -/
def text (span : Span) : String :=
  Decimal.natString span.start.toNat ++ ".." ++ Decimal.natString span.stop.toNat

/-- The JSON form of a span. -/
def toJson (span : Span) : Json :=
  .object [("start", .nat span.start.toNat), ("end", .nat span.stop.toNat)]

/-- Read a span. -/
def read : Reader Span :=
  Json.readRecord "struct Span" unknown
    [.of "start" .required Json.readOffset fun span start ↦ { span with start },
     .of "end" .required Json.readOffset fun span stop ↦ { span with stop }]

end Span

/-- A span and the file that it points into. -/
structure Location where
  file : Option String
  span : Span
  deriving DecidableEq, Repr, Inhabited

namespace Location

/-- The location without file and place. -/
def unknown : Location := ⟨none, .unknown⟩

/-- A location as it appears in messages. -/
def text (location : Location) : String :=
  location.file.getD "<unknown>" ++ ":" ++ location.span.text

/-- Read a location. -/
def read : Reader Location :=
  Json.readRecord "struct Location" unknown
    [.of "file" .optional (Json.readOption Json.readString) fun location file ↦
      { location with file },
     .of "span" .required Span.read fun location span ↦ { location with span }]

end Location

end FunctionBindings
