/-! # Ranges of code points -/

namespace RecordQuery.Text

/-- The character lies in one of the ranges, whose ends belong to them. -/
def inRanges (ranges : List (Nat × Nat)) (character : Char) : Bool :=
  ranges.any fun (first, last) => first ≤ character.toNat && character.toNat ≤ last

end RecordQuery.Text
