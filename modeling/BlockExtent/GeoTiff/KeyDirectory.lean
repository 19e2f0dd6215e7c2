import BlockExtent.Bindings
import BlockExtent.Text.ByteRange
import BlockExtent.Text.Trailing
import BlockExtent.Tiff.Error

/-!
# GeoKey directories

A GeoKey directory is a list of shorts: a header of four with the number of
keys, and an entry of four for each key.  The value of a key is in its entry, or
is a range of a list of doubles or of a text.

## Main definitions

* `GeoKey` — the keys that are used; others are skipped.
* `KeyDirectory` — their values.
* `KeyDirectory.ofShorts` — reads a directory.
* `KeyDirectory.ofValues` — what a set of keys with values amounts to.
* `KeyDirectory.epsgCode?`, `KeyDirectory.pixelsArePoints`,
  `KeyDirectory.citationText?` — what the keys say.
-/

namespace BlockExtent

open Tiff

/-- The keys that are used. -/
inductive GeoKey where
  /-- Whether pixels are areas or points. -/
  | rasterType
  /-- A description of the whole reference. -/
  | citation
  /-- The code of a geographic system. -/
  | geographicType
  /-- A description of the geographic system. -/
  | geographicCitation
  /-- The code of a projected system. -/
  | projectedType
  /-- A description of the projected system. -/
  | projectedCitation
deriving DecidableEq, Repr

/-- The key with a number. -/
def GeoKey.ofCode? : Nat → Option GeoKey
  | 1025 => some .rasterType
  | 1026 => some .citation
  | 2048 => some .geographicType
  | 2049 => some .geographicCitation
  | 3072 => some .projectedType
  | 3073 => some .projectedCitation
  | _ => none

/-- The value of a key. -/
inductive GeoKeyValue where
  /-- A short in the entry itself. -/
  | short (n : Nat)
  /-- A single double. -/
  | double (x : Float)
  /-- No double or several. -/
  | doubles (xs : List Float)
  /-- A text. -/
  | text (s : String)

namespace GeoKeyValue

/-- A value used as a number. -/
def toNumber : GeoKeyValue → Except DecodeError Nat
  | .short n => .ok n
  | _ => .error (.format .invalidType)

/-- A value used as a text. -/
def toText : GeoKeyValue → Except DecodeError String
  | .text s => .ok s
  | _ => .error (.format .invalidType)

end GeoKeyValue

/-- The values of the keys. -/
structure KeyDirectory where
  /-- Whether pixels are areas or points. -/
  rasterType : Option Nat := none
  /-- A description of the whole reference. -/
  citation : Option String := none
  /-- The code of the geographic system. -/
  geographicType : Option Nat := none
  /-- A description of the geographic system. -/
  geographicCitation : Option String := none
  /-- The code of the projected system. -/
  projectedType : Option Nat := none
  /-- A description of the projected system. -/
  projectedCitation : Option String := none
deriving DecidableEq, Repr

namespace KeyDirectory

/-- The directory with the value of a key set.  Each key has one kind of
value. -/
def set (d : KeyDirectory) (key : GeoKey) (value : GeoKeyValue) :
    Except DecodeError KeyDirectory :=
  match key with
  | .rasterType => value.toNumber.map fun n => { d with rasterType := some n }
  | .citation => value.toText.map fun s => { d with citation := some s }
  | .geographicType => value.toNumber.map fun n => { d with geographicType := some n }
  | .geographicCitation =>
    value.toText.map fun s => { d with geographicCitation := some s }
  | .projectedType => value.toNumber.map fun n => { d with projectedType := some n }
  | .projectedCitation => value.toText.map fun s => { d with projectedCitation := some s }

/-- The directory of a set of keys with values, taken in the order of the
list. -/
def ofValues (values : List (GeoKey × GeoKeyValue)) : Except DecodeError KeyDirectory :=
  values.foldlM (fun d entry => d.set entry.1 entry.2) {}

/-! ### Reading a directory -/

/-- The location of a value in the entry itself. -/
def inEntry : Nat := 0

/-- A text parameter without what fills it up at its end. -/
def trimParameter (text : List Char) : String :=
  String.ofList (dropTrailing (fun c => c == '|' || c == '\x00') text)

/-- The `count` doubles from position `start` on. -/
def doubleRange? (start count : Nat) (doubles : List Float) : Option (List Float) :=
  if start + count ≤ doubles.length then some ((doubles.drop start).take count) else none

/-- The value that an entry refers to. -/
def valueOf (doubles : Option (List Float)) (ascii : Option String)
    (key location count value : Nat) : Except GeoKeyFault GeoKeyValue :=
  if location = inEntry then .ok (.short value)
  else if location = Tag.geoDoubleParams.code then
    match doubles.bind (doubleRange? value count) with
    | none => .error (.outOfRange key .doubles)
    | some [x] => .ok (.double x)
    | some xs => .ok (.doubles xs)
  else if location = Tag.geoAsciiParams.code then
    match ascii.bind fun s => byteRange? value count s.toList with
    | none => .error (.outOfRange key .ascii)
    | some text => .ok (.text (trimParameter text))
  else .error (.unsupportedLocation key location)

/-- The keys and values of entries.  Of several entries of a key the last
counts. -/
def valuesFrom (doubles : Option (List Float)) (ascii : Option String) :
    (count : Nat) → (entries : List Nat) → List (GeoKey × GeoKeyValue) →
      Except GeoKeyFault (List (GeoKey × GeoKeyValue))
  | count + 1, code :: location :: length :: value :: rest, found =>
    match GeoKey.ofCode? code with
    | none => valuesFrom doubles ascii count rest found
    | some key =>
      match valueOf doubles ascii code location length value with
      | .error fault => .error fault
      | .ok v => valuesFrom doubles ascii count rest (putBinding key v found)
  | _, _, found => .ok found

/-- The keys and values of a directory of shorts. -/
def values (shorts : List Nat) (doubles : Option (List Float)) (ascii : Option String) :
    Except GeoKeyFault (List (GeoKey × GeoKeyValue)) :=
  match shorts with
  | _ :: _ :: _ :: count :: entries =>
    if entries.length < 4 * count then .error (.tooFewEntries count (entries.length / 4))
    else valuesFrom doubles ascii count entries []
  | _ => .error .missingHeader

/-- Reads a directory of shorts, with the parameters its entries refer to. -/
def ofShorts (shorts : List Nat) (doubles : Option (List Float)) (ascii : Option String) :
    Except DecodeError KeyDirectory :=
  match values shorts doubles ascii with
  | .error fault => .error (.geoKeys fault)
  | .ok found => ofValues found

/-! ### What the keys say -/

/-- The code of systems that are not in the registry. -/
def userDefined : Nat := 32767

/-- The raster type of pixels that are points. -/
def pixelIsPoint : Nat := 2

/-- The EPSG code of the projected system, or of the geographic one if none is
given.  Zero and the user-defined code are no codes. -/
def epsgCode? (d : KeyDirectory) : Option Nat :=
  (d.projectedType <|> d.geographicType).filter fun code =>
    code ≠ 0 ∧ code ≠ userDefined

/-- Whether positions name the centres of pixels. -/
def pixelsArePoints (d : KeyDirectory) : Bool := d.rasterType == some pixelIsPoint

/-- The most telling description. -/
def citationText? (d : KeyDirectory) : Option String :=
  d.projectedCitation <|> d.citation <|> d.geographicCitation

end KeyDirectory

end BlockExtent
