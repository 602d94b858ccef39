import GeoRouting.Text.Case

/-!
# Domain names

Two names are the same name when they differ in the case of ASCII letters and in dots at
their end only. Each name has a key that all its spellings share.
-/

namespace GeoRouting.DomainName

/-- The name in lower case without the dots at its end. -/
def key (name : String) : List Char :=
  ((Text.lower name).toList.reverse.dropWhile (· == '.')).reverse

def same (a b : String) : Bool := key a == key b

@[simp] theorem same_iff {a b : String} : same a b = true ↔ key a = key b := by simp [same]

theorem key_of_lower {a b : String} (h : Text.lower a = Text.lower b) : key a = key b := by
  unfold key
  rw [h]

theorem same_refl (a : String) : same a a = true := by simp

theorem same_symm {a b : String} (h : same a b = true) : same b a = true := by simp_all

theorem same_comm (a b : String) : same a b = same b a :=
  Bool.eq_iff_iff.mpr ⟨same_symm, same_symm⟩

theorem same_trans {a b c : String} (h : same a b = true) (h' : same b c = true) :
    same a c = true := by simp_all

end GeoRouting.DomainName
