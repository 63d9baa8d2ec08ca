import TravelModel.Checksum.Sha256

/-!
# TravelModel — checksums

A checksum is the digest of the contents of a file in hexadecimal. A list of
checksums is written a line each, the sum before the name.
-/

namespace TravelModel

/-- The checksum of some bytes. -/
structure Checksum where
  hex : String
deriving DecidableEq, Repr, Inhabited

namespace Checksum

/-- The checksum of bytes. -/
def ofBytes (bytes : ByteArray) : Checksum :=
  ⟨Sha256.hexDigest bytes⟩

/-- Whether bytes have this checksum. -/
def verifies (sum : Checksum) (bytes : ByteArray) : Bool :=
  ofBytes bytes = sum

/-- The lines of a checksum file. -/
def lines (entries : List (String × Checksum)) : String :=
  "".intercalate (entries.map fun e => e.2.hex ++ "  " ++ e.1 ++ "\n")

end Checksum

end TravelModel
