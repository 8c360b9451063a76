import RequestScope.Text.Quoted

/-!
# Faults of compressed data

Why compressed data cannot be unpacked, with the wording of each cause. Some faults are found only
when the data have ended; then the octets up to there have been unpacked.
-/

namespace RequestScope.Compression

/-- Why compressed data cannot be unpacked. -/
inductive Fault
  | gzipHeader
  /-- A text in the header of gzip data is too long. -/
  | gzipField
  /-- A checksum of gzip data is missing or wrong. -/
  | gzipChecksum
  | deflate
  /-- Octets are left behind the end of the data. -/
  | excess
  /-- Another reader gives up, in its own words. -/
  | foreign (text : String)
deriving Repr, DecidableEq

def customText (kind text : String) : String :=
  "Custom \x7b kind: " ++ kind ++ ", error: " ++ Text.quote text ++ " \x7d"

def Fault.message : Fault → String
  | .gzipHeader => customText "InvalidInput" "invalid gzip header"
  | .gzipField => customText "InvalidInput" "gzip header field too long"
  | .gzipChecksum => customText "InvalidInput" "corrupt gzip stream does not have a matching checksum"
  | .deflate => customText "InvalidInput" "corrupt deflate stream"
  | .excess =>
    "Error \x7b kind: WriteZero, message: " ++ Text.quote "failed to write whole buffer" ++ " \x7d"
  | .foreign text => text

/-- What unpacking gives: octets, and the fault that was found behind them, if any. -/
structure Unpacked where
  octets : List UInt8
  defect : Option Fault := none
deriving Repr, DecidableEq

end RequestScope.Compression
