/-!
# Events of a run

What a run does on the way is recorded as a list of events.  The program shows
the ones its filter lets through.

## Main definitions

* `Severity` — how important an event is.
* `Component` — which part of the program an event comes from.
* `FieldValue` — a value recorded with an event, and how it is shown.
* `Event` — a message with fields.
* `Event.presentFields`, `Event.hasField` — its fields with a value, and whether it
  has a field.
-/

namespace BlockExtent

/-- How important an event is. -/
inductive Severity where
  /-- A detail of a detail. -/
  | trace
  /-- A detail. -/
  | debug
  /-- News of a successful step. -/
  | info
  /-- Something that may be wrong. -/
  | warn
  /-- A failure. -/
  | error
deriving DecidableEq, Repr

/-- The rank of a severity; the larger, the more important. -/
def Severity.rank : Severity → Nat
  | .trace => 0
  | .debug => 1
  | .info => 2
  | .warn => 3
  | .error => 4

/-- The name of a severity in a line. -/
def Severity.name : Severity → String
  | .trace => "TRACE"
  | .debug => "DEBUG"
  | .info => "INFO"
  | .warn => "WARN"
  | .error => "ERROR"

/-- The part of the program an event comes from. -/
inductive Component where
  /-- The registration of the built-in drivers. -/
  | registration
  /-- The choice of an output driver. -/
  | driverChoice
  /-- The scan of the directories of a file. -/
  | directories
  /-- The reader of GeoTIFF structure. -/
  | reader
  /-- The conversion of a raster into layers. -/
  | conversion
  /-- The command line. -/
  | commandLine
  /-- The program around the command line. -/
  | program
deriving DecidableEq, Repr

/-- The name that filters know a component by. -/
def Component.target : Component → String
  | .registration => "tile_extent::native"
  | .driverChoice => "tile_extent::driver"
  | .directories => "tile_extent::cog::ifd"
  | .reader => "tile_extent::cog::reader"
  | .conversion => "tile_extent::generator"
  | .commandLine => "tile_extent::cli"
  | .program => "tile_extent_from_raster"

/-- A value recorded with an event. -/
inductive FieldValue where
  /-- A count. -/
  | count (n : Nat)
  /-- A measured number. -/
  | number (x : Float)
  /-- Text shown as it is. -/
  | plain (text : String)
  /-- Text shown in quotation marks. -/
  | quoted (text : String)
  /-- No value, of which nothing is shown. -/
  | absent

/-- Whether there is a value. -/
def FieldValue.isPresent : FieldValue → Bool
  | .absent => false
  | _ => true

/-- Something that happened in a run. -/
structure Event where
  /-- How important it is. -/
  severity : Severity
  /-- Where it comes from. -/
  component : Component
  /-- What happened. -/
  message : String
  /-- The values recorded with it, in order. -/
  fields : List (String × FieldValue)

namespace Event

/-- The fields that have a value. -/
def presentFields (e : Event) : List (String × FieldValue) :=
  e.fields.filter fun field => field.2.isPresent

/-- Whether an event has a field of a name, be it without a value.  The message
counts as one. -/
def hasField (e : Event) (name : String) : Bool :=
  name == "message" || e.fields.any fun field => field.1 == name

end Event

end BlockExtent
