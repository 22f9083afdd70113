/-!
# Blank text

Which characters count as blank, and text without the blank at its ends. Blank are exactly the 25
characters that Unicode gives the property White_Space.
-/

namespace TemplateTree.Text

/-- Whether a character has the Unicode property White_Space. -/
def isBlank (c : Char) : Bool :=
  let n := c.toNat
  (0x9 ≤ n && n ≤ 0xD) || n == 0x20 || n == 0x85 || n == 0xA0 || n == 0x1680 ||
    (0x2000 ≤ n && n ≤ 0x200A) || n == 0x2028 || n == 0x2029 || n == 0x202F || n == 0x205F ||
    n == 0x3000

/-- The text from its first character that does not satisfy `drop`. -/
def trimStart (drop : Char → Bool) (text : List Char) : List Char :=
  text.dropWhile drop

/-- The text up to its last character that does not satisfy `drop`. -/
def trimEnd (drop : Char → Bool) (text : List Char) : List Char :=
  (text.reverse.dropWhile drop).reverse

def trim (text : List Char) : List Char :=
  trimEnd isBlank (trimStart isBlank text)

theorem isBlank_of_isWhitespace {c : Char} (white : c.isWhitespace = true) : isBlank c = true := by
  simp only [Char.isWhitespace, Bool.or_eq_true, decide_eq_true_eq] at white
  rcases white with ((rfl | rfl) | rfl) | rfl <;> rfl

theorem isBlank_lineFeed : isBlank '\n' = true := rfl

theorem trimEnd_append_takeWhile (drop : Char → Bool) (text : List Char) :
    trimEnd drop text ++ (text.reverse.takeWhile drop).reverse = text := by
  rw [trimEnd, ← List.reverse_append, List.takeWhile_append_dropWhile, List.reverse_reverse]

end TemplateTree.Text
