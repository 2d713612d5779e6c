/-!
# The order of names

Names are ordered by code points, character by character, which is also the order of
their UTF-8 bytes. Lists of names and of named values are kept ascending in this order.

Key theorem: `Names.lt_of_not_lt`.
-/

namespace RequestSql.Names

/-- Of two different names one comes before the other. -/
theorem lt_of_not_lt {a b : String} (h : ¬a < b) (hne : a ≠ b) : b < a :=
  Decidable.byContradiction fun h' => hne (String.le_antisymm h' h)

end RequestSql.Names
