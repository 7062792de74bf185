import DataAccess.Text.Alphanumeric.Table

/-! Letters and numbers of all scripts. -/
namespace DataAccess.Text

/-- Whether a character is a letter or a number, in any script. -/
def isAlphanumeric (c : Char) : Bool := inRanges alphanumericRanges c

end DataAccess.Text
