/-!
# Small letters

Names that may be written in letters of either case are compared in small letters.
-/
namespace RestartCoordinator.Text

/-- The small letter of a capital one. Besides the capital letters of ASCII this is the sign of the
kelvin, the only other character whose small letter is a letter of ASCII. -/
def small (c : Char) : Char := if c.toNat = 0x212a then 'k' else c.toLower

/-- The text in small letters. -/
def smallText (t : String) : String := String.ofList (t.toList.map small)

end RestartCoordinator.Text
