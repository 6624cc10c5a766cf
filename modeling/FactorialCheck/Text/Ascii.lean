/-!
# ASCII case

Case folding of the letters `A` to `Z` only.
-/

namespace FactorialCheck.Ascii

def lower (text : String) : String :=
  String.ofList (text.toList.map Char.toLower)

def sameIgnoringCase (a b : String) : Bool :=
  lower a == lower b

theorem toList_lower (text : String) :
    (lower text).toList = text.toList.map Char.toLower := by
  simp [lower]

end FactorialCheck.Ascii
