/-!
# TravelModel — numbers of a fixed width

Decimal numbers that are filled up with zeros in front.
-/

namespace TravelModel

/-- A number with at least so many digits. -/
def padded (width n : Nat) : String :=
  let ds := Nat.toDigits 10 n
  String.ofList (List.replicate (width - ds.length) '0' ++ ds)

end TravelModel
