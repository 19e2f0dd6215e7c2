import BlockExtent.Access.Traced
import BlockExtent.CommandLine.Program
import BlockExtent.Geometry.PolygonReader
import BlockExtent.Json.Parser
import BlockExtent.Main
import BlockExtent.Proofs.Access.Accounts
import BlockExtent.Proofs.Access.Protocol
import BlockExtent.Proofs.CommandLine.Arguments
import BlockExtent.Proofs.CommandLine.Documents
import BlockExtent.Proofs.CommandLine.Frame
import BlockExtent.Proofs.CommandLine.Grammar
import BlockExtent.Proofs.CommandLine.Program
import BlockExtent.Proofs.CommandLine.SingleFile
import BlockExtent.Proofs.CommandLine.SingleLevels
import BlockExtent.Proofs.CommandLine.UsableLevels
import BlockExtent.Proofs.Conversion.Directory
import BlockExtent.Proofs.Conversion.Frame
import BlockExtent.Proofs.DriverNames
import BlockExtent.Proofs.File.Changes
import BlockExtent.Proofs.File.Disk
import BlockExtent.Proofs.File.Placement
import BlockExtent.Proofs.GeoJson.Collection
import BlockExtent.Proofs.GeoJson.DirectorySessions
import BlockExtent.Proofs.GeoJson.Inference
import BlockExtent.Proofs.GeoJson.Sessions
import BlockExtent.Proofs.GeoTiff.Blocks
import BlockExtent.Proofs.GeoTiff.Bystanders
import BlockExtent.Proofs.GeoTiff.Georeference
import BlockExtent.Proofs.GeoTiff.KeyEntries
import BlockExtent.Proofs.GeoTiff.KeyOrder
import BlockExtent.Proofs.GeoTiff.Offers
import BlockExtent.Proofs.GeoTiff.Pyramid
import BlockExtent.Proofs.GeoTiff.Walks
import BlockExtent.Proofs.GeoTiff.WordSizes
import BlockExtent.Proofs.Geometry.WellKnownText
import BlockExtent.Proofs.Number.Digits
import BlockExtent.Proofs.Number.General
import BlockExtent.Proofs.Number.Notation
import BlockExtent.Proofs.Number.Spacing
import BlockExtent.Proofs.Raster.FullSize
import BlockExtent.Proofs.Raster.Scan
import BlockExtent.Proofs.Raster.Tiling
import BlockExtent.Proofs.Tiff.Walks
