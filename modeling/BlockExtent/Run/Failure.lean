import BlockExtent.File.Error
import BlockExtent.Raster.PyramidLevel
import BlockExtent.Tiff.Error

/-!
# Why a run fails

## Main definitions

* `Failure` — the cause of a failed run.
* `Failure.message` — its wording, as it is shown to the user.
-/

namespace BlockExtent

/-- The cause of a failed run. -/
inductive Failure where
  /-- A cause that only its wording describes. -/
  | other (reason : String)
  /-- A file operation failed. -/
  | file (cause : FileError)
  /-- The raster could not be decoded. -/
  | decode (cause : Tiff.DecodeError)
  /-- The level asked for is not an integer. -/
  | levelNotAnInteger (argument : String)
  /-- The level asked for does not exist. -/
  | noSuchLevel (level : Int) (count : Nat)
  /-- A level has an empty size or block size. -/
  | emptyLevel (level : Nat) (fault : LevelFault)
  /-- No driver writes files with the extension of this name. -/
  | unknownExtension (path : String)
  /-- The driver is not part of this program. -/
  | driverNotBuiltIn (driver : String)
  /-- The output format cannot hold another layer. -/
  | singleLayerOnly (driver layer : String)
  /-- The file holds overviews and masks only. -/
  | noFullImage (path : String)
deriving DecidableEq, Repr

/-- The wording of an error. -/
def Failure.message : Failure → String
  | .other reason => "General error: " ++ reason
  | .file cause => cause.message
  | .decode cause => "TIFF error: " ++ cause.message
  | .levelNotAnInteger argument => s!"invalid overview level '{argument}'"
  | .noSuchLevel level count =>
    s!"overview level {level} does not exist (raster has {count} overviews)"
  | .emptyLevel level fault => s!"invalid raster level {level}: {fault.message}"
  | .unknownExtension path => "Cannot guess driver for " ++ path
  | .driverNotBuiltIn driver => s!"driver '{driver}' is not available in this build"
  | .singleLayerOnly driver layer =>
    s!"driver '{driver}' cannot store more than one layer (refusing to create '{layer}')"
  | .noFullImage path => path ++ " contains no full resolution image"

end BlockExtent
