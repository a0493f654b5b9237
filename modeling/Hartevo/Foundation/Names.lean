import Mathlib

/-!
# Names

An identifier that is checked once, where it is made, is a text together with the fact that it is
not empty.  Names are ordered as their texts, so that they can be the keys of ordered maps and sets.
-/

namespace Hartevo

/-- A text that is not empty. -/
structure NonEmptyText where
  text : String
  nonempty : text ≠ ""
deriving DecidableEq

namespace NonEmptyText

/-- Make a name, if the text is not empty. -/
def ofText (text : String) : Option NonEmptyText :=
  if h : text = "" then none else some ⟨text, h⟩

instance : Ord NonEmptyText := ⟨compareOn text⟩

instance : Std.TransOrd NonEmptyText :=
  inferInstanceAs (Std.TransCmp (compareOn text))

instance : Std.LawfulEqOrd NonEmptyText where
  eq_of_compare := by
    rintro ⟨a, ha⟩ ⟨b, hb⟩ h
    have htext : compare a b = .eq := h
    obtain rfl := Std.LawfulEqCmp.eq_of_compare htext
    rfl

end NonEmptyText

end Hartevo
