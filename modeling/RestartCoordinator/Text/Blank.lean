/-!
# Blank characters

The characters with the Unicode property White_Space, and the two readings of a text that rest on
them: `trim`, the text without blanks at its ends, and `words`, its longest pieces without a blank.
-/
namespace RestartCoordinator.Text

/-- The property White_Space of Unicode. -/
def isBlank (c : Char) : Bool :=
  let n := c.toNat
  (0x09 ≤ n && n ≤ 0x0d) || n == 0x20 || n == 0x85 || n == 0xa0 || n == 0x1680 ||
    (0x2000 ≤ n && n ≤ 0x200a) || n == 0x2028 || n == 0x2029 || n == 0x202f || n == 0x205f ||
    n == 0x3000

/-- The text without the blanks at its two ends. -/
def trim (s : List Char) : List Char :=
  ((s.dropWhile isBlank).reverse.dropWhile isBlank).reverse

/-- The pieces between single blanks, empty ones included; there is always at least one. -/
def pieces : List Char → List (List Char)
  | [] => [[]]
  | c :: r => if isBlank c then [] :: pieces r else (pieces r).modifyHead (c :: ·)

/-- The longest pieces without a blank, in order. -/
def words (s : List Char) : List (List Char) :=
  (pieces s).filter (!·.isEmpty)

/-- Letters of ASCII in lower case; every other character stays. -/
def lower (s : List Char) : List Char :=
  s.map Char.toLower

@[simp] theorem trim_nil : trim [] = [] := rfl

@[simp] theorem words_nil : words [] = [] := rfl

theorem words_cons_blank {c : Char} (s : List Char) (h : isBlank c = true) :
    words (c :: s) = words s := by
  simp [words, pieces, h]

@[simp] theorem length_lower (s : List Char) : (lower s).length = s.length := by
  simp [lower]

end RestartCoordinator.Text
