/-!
# Names of threads

The system takes the name of a thread as bytes that end with a NUL, so that no name can hold one. A
thread whose name does is never made: its creator panics, and says where the first NUL stands.
-/

namespace Coordination.ThreadName

def bytes (name : String) : List UInt8 := name.toList.flatMap String.utf8EncodeChar

/-- What the panic says that comes from the name of a new thread, if one does. -/
def panic? (name : String) : Option String :=
  let bytes := bytes name
  (bytes.findIdx? (· = 0)).map fun position =>
    "thread name may not contain interior null bytes: NulError(" ++ position.repr ++ ", ["
      ++ ", ".intercalate (bytes.map fun byte => byte.toNat.repr) ++ "])"

/-- A name without a NUL does no harm. -/
theorem panic?_eq_none_iff (name : String) : panic? name = none ↔ ∀ byte ∈ bytes name, byte ≠ 0 := by
  simp [panic?, List.findIdx?_eq_none_iff]

end Coordination.ThreadName
