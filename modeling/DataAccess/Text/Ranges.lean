/-! Character classes given by ascending ranges of character numbers. -/
namespace DataAccess.Text

/-- Whether a character's number lies in one of the ranges, both ends included. -/
def inRanges (ranges : List (Nat × Nat)) (c : Char) : Bool :=
  ranges.any fun (first, last) => first ≤ c.toNat && c.toNat ≤ last

end DataAccess.Text
