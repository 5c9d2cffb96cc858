/-! Searching text for text. A needle occurs in a text when the text has it as a contiguous
piece; the empty needle occurs everywhere. The first occurrence is the one that starts
earliest. -/
namespace Linewise.Text

def occursIn (needle : List Char) : List Char → Bool
  | [] => needle.isEmpty
  | c :: cs => needle.isPrefixOf (c :: cs) || occursIn needle cs

def contains (s needle : String) : Bool := occursIn needle.toList s.toList

def startsWith (s p : String) : Bool := p.toList.isPrefixOf s.toList

def endsWith (s p : String) : Bool := p.toList.isSuffixOf s.toList

/-- `hay` with the first occurrence of a non-empty `needle` replaced by `repl`; `none` when it
does not occur. -/
def replaceFirstChars (needle repl : List Char) : List Char → Option (List Char)
  | [] => none
  | c :: cs =>
    if needle.isPrefixOf (c :: cs) then some (repl ++ (c :: cs).drop needle.length)
    else (replaceFirstChars needle repl cs).map (c :: ·)

/-- `s` with the first occurrence of `needle` replaced by `repl`; an empty needle occurs at
the start. Unchanged when the needle does not occur. -/
def replaceFirst (s needle repl : String) : String :=
  if needle.isEmpty then repl ++ s
  else match replaceFirstChars needle.toList repl.toList s.toList with
    | some cs => String.ofList cs
    | none => s

def dropTrailing (s : String) (c : Char) : String :=
  String.ofList (s.toList.reverse.dropWhile (· == c)).reverse

end Linewise.Text
