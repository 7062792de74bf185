/-! Powers of the two radices that numbers are written in. -/
namespace DataAccess

def powerOfTwo (exponent : Nat) : Nat := Nat.pow 2 exponent

def powerOfTen (exponent : Nat) : Nat := Nat.pow 10 exponent

end DataAccess
