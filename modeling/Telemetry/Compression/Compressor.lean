import Telemetry.Compression.Gzip
import Telemetry.Text.Quoted

/-!
# Compressors

* `Compressor`: a method that compresses, with the name of its encoding.
* `CompressionFault`: why nothing was compressed.
* `Compressor.gzip`: the built-in method.
* `Compression.table`: the compressors by their encodings, in the order of these. Of several
  compressors with one encoding the last one counts, but gzip is always the built-in one.
* `Compression.resolve`: the compressor of a method, if it compresses at all.
* `Compression.supported`: the methods that are known.
-/

namespace Telemetry

/-- Why nothing was compressed. -/
inductive CompressionFault where
  /-- There is no such method; these are known. -/
  | unknownMethod (known : List String)
  | failed (encoding reason : String)
  deriving DecidableEq

/-- The wording of a fault. -/
def CompressionFault.message : CompressionFault → String
  | .unknownMethod known =>
    "Unsupported compressionMethod. Compression method must be \x22none\x22 or one of: [" ++
      joined "," known ++ "]"
  | .failed encoding reason => encoding ++ " compression failed: " ++ reason

/-- A method that compresses. -/
structure Compressor where
  /-- The name of what it produces. -/
  encoding : String
  description : String
  compress : Bytes → Except CompressionFault Bytes

namespace Compressor

/-- The encoding of the built-in method. -/
def gzipEncoding : String := "gzip"

/-- The built-in method. -/
def gzip : Compressor := ⟨gzipEncoding, "GzipCompressor", fun b => .ok (Gzip.compress b)⟩

end Compressor

/-! ## Methods -/

namespace Compression

/-- The method that does not compress. -/
def noMethod : String := "none"

/-- Puts a compressor at the place of its encoding; one that is there gives way. -/
def insert (c : Compressor) : List Compressor → List Compressor
  | [] => [c]
  | other :: rest =>
    if c.encoding < other.encoding then c :: other :: rest
    else if c.encoding = other.encoding then c :: rest
    else other :: insert c rest

/-- The compressors by their encodings, and gzip. -/
def table (compressors : List Compressor) : List Compressor :=
  insert .gzip (compressors.foldl (fun found c => insert c found) [])

/-- The methods that are known, in ascending order. -/
def supported (compressors : List Compressor) : List String :=
  (table compressors).map Compressor.encoding

/-- The compressor of a method, or none for the method that does not compress. -/
def resolve (compressors : List Compressor) (method : String) :
    Except CompressionFault (Option Compressor) :=
  if method = noMethod then .ok none
  else match (table compressors).find? fun c => c.encoding == method with
    | some c => .ok (some c)
    | none => .error (.unknownMethod (supported compressors))

end Compression

end Telemetry
