/-! Blank characters: the Unicode `White_Space` property (tab to carriage return, space, next
line, no-break space and the other Unicode spaces, line and paragraph separators). Trimming,
splitting at blanks and measuring indentation all use this one set. -/
namespace Linewise.Text

/-- Whether a character has the `White_Space` property. -/
def isBlank (c : Char) : Bool :=
  let n := c.toNat
  (9 ≤ n && n ≤ 13) || n == 32 || n == 0x85 || n == 0xA0 || n == 0x1680 ||
    (0x2000 ≤ n && n ≤ 0x200A) || n == 0x2028 || n == 0x2029 || n == 0x202F ||
    n == 0x205F || n == 0x3000

theorem isBlank_of_isWhitespace (c : Char) (h : c.isWhitespace = true) : isBlank c = true := by
  simp only [Char.isWhitespace, Bool.or_eq_true, decide_eq_true_eq] at h
  simp only [isBlank, Bool.or_eq_true, Bool.and_eq_true, beq_iff_eq, decide_eq_true_eq]
  rcases h with ((h | h) | h) | h <;> subst h <;> decide

def dropBlanks (cs : List Char) : List Char := cs.dropWhile isBlank

def dropTrailingBlanks (cs : List Char) : List Char := (cs.reverse.dropWhile isBlank).reverse

def trimStart (s : String) : String := String.ofList (dropBlanks s.toList)

def trimEnd (s : String) : String := String.ofList (dropTrailingBlanks s.toList)

def trim (s : String) : String := String.ofList (dropTrailingBlanks (dropBlanks s.toList))

def isBlankText (s : String) : Bool := s.toList.all isBlank

/-- The bytes of leading blanks of a line: how deep it is indented. -/
def indentation (s : String) : Nat :=
  ((s.toList.takeWhile isBlank).map Char.utf8Size).foldr (· + ·) 0

/-- The pieces of a character list between runs of blanks, without empty pieces. -/
def wordsOf (cs : List Char) : List (List Char) :=
  (cs.splitOnP isBlank).filter (!·.isEmpty)

def words (s : String) : List String := (wordsOf s.toList).map String.ofList

end Linewise.Text
