import DataAccess.Error
import DataAccess.Sql.Dialect

/-! Bound arguments. A rendered statement carries scalars only; they are narrowed to the five kinds
that every driver binds. -/
namespace DataAccess

/-- A scalar as a driver binds it. -/
inductive Argument where
  | null
  | bool (value : Bool)
  | int (value : Int64)
  | float (value : Binary64)
  | text (value : String)
deriving DecidableEq

/-- Narrow a value: unsigned words must fit a signed column, and JSON travels as its text. -/
def Argument.ofValue : Value → Except DataError Argument
  | .null => .ok null
  | .bool b => .ok (bool b)
  | .int n => .ok (int n)
  | .uint n =>
    if n.toNat < powerOfTwo 63 then .ok (int (Int64.ofNat n.toNat))
    else .error (.configuration (.unsignedTooLarge n))
  | .float x => .ok (float x)
  | .text s => .ok (text s)
  | .json j => .ok (text j.text)
  | .list _ => .error (.configuration .unexpandedList)

/-- The arguments of a statement; the first one that cannot be bound is reported. -/
def Statement.bind (statement : Statement) : Except DataError (List Argument) :=
  statement.args.mapM Argument.ofValue

end DataAccess
