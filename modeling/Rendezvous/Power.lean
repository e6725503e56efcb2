/-!
Powers of two and of ten as natural numbers.
-/

set_option autoImplicit false

namespace Rendezvous

abbrev twoTo (exponent : Nat) : Nat := Nat.pow 2 exponent

abbrev tenTo (exponent : Nat) : Nat := Nat.pow 10 exponent

end Rendezvous
