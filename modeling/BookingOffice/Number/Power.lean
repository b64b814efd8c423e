/-!
Powers of numbers. A power is the one of the core library, also where monoids have one.
-/

namespace BookingOffice

@[default_instance 20000]
instance (priority := high) corePower {α : Type} [NatPow α] : Pow α Nat := instPowNat

end BookingOffice
