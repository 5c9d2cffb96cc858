import Linewise.Text.Blank
import Linewise.Text.Lowercase
import Linewise.Text.StringSet
/-! Search terms from keywords. A keyword gives its pieces between characters that are not
ASCII letters or digits, its words once a space is put between each lowercase ASCII letter and
an uppercase ASCII letter right after it (pairs taken left to right without overlap), and
itself; all in lowercase. Empty keywords give nothing. Terms are kept sorted and distinct. -/
namespace Linewise.Chunk

def isAsciiAlnum (c : Char) : Bool :=
  ('a' ≤ c && c ≤ 'z') || ('A' ≤ c && c ≤ 'Z') || ('0' ≤ c && c ≤ '9')

/-- Puts a space between a lowercase and a following uppercase ASCII letter. -/
def camelSpaced : List Char → List Char
  | a :: b :: rest =>
    if 'a' ≤ a && a ≤ 'z' && 'A' ≤ b && b ≤ 'Z' then a :: ' ' :: b :: camelSpaced rest
    else a :: camelSpaced (b :: rest)
  | cs => cs

def keywordTerms (k : String) : List String :=
  if k.isEmpty then []
  else
    let cs := k.toList
    let pieces := (cs.splitOnP (!isAsciiAlnum ·)) ++ Text.wordsOf (camelSpaced cs)
    (pieces.filter (!·.isEmpty)).map (Text.toLower ∘ String.ofList) ++ [Text.toLower k]

/-- The sorted distinct terms of keywords. -/
def expandKeywords (keywords : List String) : List String :=
  Text.sortedSet (keywords.flatMap keywordTerms)

end Linewise.Chunk
