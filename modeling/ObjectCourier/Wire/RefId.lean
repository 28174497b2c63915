import ObjectCourier.Codec.Varint
import Std.Data.TreeMap
import Std.Data.TreeSet

/-!
Reference ids. An id names one object within one payload and means nothing outside of it. Ids are
ordered by their numbers, so that maps and sets of ids can be searched.
-/

namespace ObjectCourier

structure RefId where
  number : UInt32
  deriving DecidableEq, Repr, Inhabited

namespace RefId

instance : Ord RefId := ⟨compareOn number⟩

instance : Std.TransOrd RefId := inferInstanceAs (Std.TransCmp (compareOn number))

instance : Std.LawfulEqOrd RefId where
  eq_of_compare {left right} same := by
    have numbers : left.number = right.number :=
      Std.LawfulEqOrd.eq_of_compare (α := UInt32) same
    cases left
    cases right
    exact congrArg RefId.mk numbers

def label (id : RefId) : String := s!"#{id.number.toNat}"

end RefId

namespace Codec

def refId : Codec RefId where
  encode value := Varint.encode value.number.toNat
  decode := do return ⟨UInt32.ofNat (← Varint.decode 4)⟩

end Codec

end ObjectCourier
