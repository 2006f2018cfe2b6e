/-! # Character classes given by ranges

Tables of character properties list closed ranges of code points. -/

namespace FactViews.Text

/-- Whether a character lies in one of the closed ranges of a table. -/
def inRanges (table : Array (Nat × Nat)) (c : Char) : Bool :=
  table.any fun r => decide (r.1 ≤ c.toNat) && decide (c.toNat ≤ r.2)

end FactViews.Text
