import Linewise.Proofs.Chunk.Relocation
/-! How far a header's block reaches by indentation. The depth of a line is the bytes that
trimming its start removes; the block of the header at line `s` ends at the largest line from `s`
on up to which every line after `s` is blank or deeper than the header, and a start past the last
line is its own end. -/
namespace Linewise.Text

theorem utf8ByteSize_ofList (cs : List Char) :
    (String.ofList cs).utf8ByteSize = (cs.map Char.utf8Size).sum := by
  induction cs with
  | nil => rfl
  | cons c cs ih =>
    rw [String.ofList_cons, String.utf8ByteSize_append, String.utf8ByteSize_singleton, ih,
      List.map_cons, List.sum_cons]

theorem indentation_add_utf8ByteSize_trimStart (l : String) :
    indentation l + (trimStart l).utf8ByteSize = l.utf8ByteSize := by
  rw [trimStart, utf8ByteSize_ofList, dropBlanks]
  conv_rhs => rw [← String.ofList_toList (s := l), utf8ByteSize_ofList,
    ← List.takeWhile_append_dropWhile (p := isBlank) (l := l.toList)]
  rw [List.map_append, List.sum_append]
  rfl

theorem indentation_eq_sub (l : String) :
    indentation l = l.utf8ByteSize - (trimStart l).utf8ByteSize := by
  have h := indentation_add_utf8ByteSize_trimStart l
  omega

theorem isBlankText_iff_trimStart_eq_empty {l : String} :
    isBlankText l = true ↔ trimStart l = "" := by
  rw [isBlankText, trimStart, String.ofList_eq_empty_iff, dropBlanks, List.dropWhile_eq_nil_iff,
    List.all_eq_true]

end Linewise.Text

namespace Linewise.Code

open Text

/-- Line `l` may stand in the block of the header line `h`: trimming its start leaves nothing,
or removes more bytes than trimming the start of `h` does. -/
def NestsUnder (h l : String) : Prop :=
  trimStart l = "" ∨
    h.utf8ByteSize - (trimStart h).utf8ByteSize < l.utf8ByteSize - (trimStart l).utf8ByteSize

instance (h l : String) : Decidable (NestsUnder h l) := inferInstanceAs (Decidable (_ ∨ _))

theorem nestsUnder_iff {h l : String} :
    NestsUnder h l ↔ (isBlankText l || indentation h < indentation l) = true := by
  simp [NestsUnder, isBlankText_iff_trimStart_eq_empty, indentation_eq_sub]

/-- The lines where the block of the header `h` at line `s` may end: lines from `s` on such that
every line after `s` up to them nests under `h`. -/
def blockEnds (lines : List String) (s : Nat) (h : String) : Set Nat :=
  {e | s ≤ e ∧ e < lines.length ∧
    ∀ j (hj : j < lines.length), s < j → j ≤ e → NestsUnder h lines[j]}

section Scan

variable {lines : List String} {s : Nat}

/-- The block of a header ends just before the first line after it that does not nest under
it. -/
theorem blockEndByIndentation_eq_findIdx (hs : s < lines.length) :
    blockEndByIndentation lines s =
      s + (lines.drop (s + 1)).findIdx fun l => !decide (NestsUnder lines[s] l) := by
  rw [blockEndByIndentation, List.getElem?_eq_getElem hs]
  dsimp only
  rw [List.takeWhile_eq_take_findIdx_not, List.length_take,
    Nat.min_eq_left List.findIdx_le_length]
  simp only [nestsUnder_iff, Bool.decide_eq_true]

theorem nestsUnder_of_le_blockEnd (hs : s < lines.length) {j : Nat} (hj : j < lines.length)
    (hsj : s < j) (hje : j ≤ blockEndByIndentation lines s) : NestsUnder lines[s] lines[j] := by
  rw [blockEndByIndentation_eq_findIdx hs] at hje
  obtain ⟨i, rfl⟩ : ∃ i, j = s + 1 + i := ⟨j - (s + 1), by omega⟩
  -- the scan passed line `s + 1 + i` before reaching the first line it stops at
  have hi : i < (lines.drop (s + 1)).findIdx fun l => !decide (NestsUnder lines[s] l) := by
    omega
  have hpass := List.not_of_lt_findIdx hi
  simpa only [List.getElem_drop, Bool.not_eq_false', decide_eq_true_eq] using hpass

theorem not_nestsUnder_after_blockEnd (hs : s < lines.length)
    (hlt : blockEndByIndentation lines s + 1 < lines.length) :
    ¬ NestsUnder lines[s] lines[blockEndByIndentation lines s + 1] := by
  have hend := blockEndByIndentation_eq_findIdx hs
  have hm : (lines.drop (s + 1)).findIdx (fun l => !decide (NestsUnder lines[s] l)) <
      (lines.drop (s + 1)).length := by
    rw [List.length_drop]
    omega
  -- the line the scan stops at is the one right after the block's end
  have hstop := List.findIdx_getElem (w := hm)
  simp only [List.getElem_drop, Bool.not_eq_true', decide_eq_false_iff_not] at hstop
  rwa [getElem_congr_idx (show blockEndByIndentation lines s + 1 =
    s + 1 + (lines.drop (s + 1)).findIdx (fun l => !decide (NestsUnder lines[s] l)) by omega)]

end Scan

/-- The block of a header ends at the largest line from the header on such that every line after
the header up to it is blank (trimming its start leaves nothing) or indented deeper (trimming
removes more bytes than from the header). A start past the last line is its own end. -/
theorem blockEndByIndentation_eq_greatest (lines : List String) (s : Nat) :
    (∀ hs : s < lines.length,
        IsGreatest (blockEnds lines s lines[s]) (blockEndByIndentation lines s)) ∧
      (lines.length ≤ s → blockEndByIndentation lines s = s) := by
  refine ⟨fun hs => ?_, fun hle => ?_⟩
  · obtain ⟨hse, helt⟩ := blockEndByIndentation_bounds hs
    refine ⟨⟨hse, helt, fun j hj hsj hje => nestsUnder_of_le_blockEnd hs hj hsj hje⟩, ?_⟩
    -- an end past the block's end would take in the line the scan stops at
    rintro e ⟨-, heLt, hnest⟩
    by_contra hgt
    have hlt : blockEndByIndentation lines s + 1 < lines.length := by omega
    exact not_nestsUnder_after_blockEnd hs hlt (hnest _ hlt (by omega) (by omega))
  · rw [blockEndByIndentation, List.getElem?_eq_none hle]

/-- A method header inside a class, with blank lines inside and after its body: the method's
block runs to the blank line before the next top-level line; a start past the text is its own
end. -/
theorem blockEndByIndentation_eq_greatest_method :
    (1 < 6 ∧ IsGreatest
        (blockEnds ["class A:", "    def f(self):", "", "        pass", "", "b = 1"] 1
          "    def f(self):") 4) ∧
      (6 ≤ 42 ∧ blockEndByIndentation
        ["class A:", "    def f(self):", "", "        pass", "", "b = 1"] 42 = 42) := by
  have hend : blockEndByIndentation
      ["class A:", "    def f(self):", "", "        pass", "", "b = 1"] 1 = 4 := by decide
  have h1 := (blockEndByIndentation_eq_greatest
    ["class A:", "    def f(self):", "", "        pass", "", "b = 1"] 1).1 (by decide)
  rw [hend] at h1
  exact ⟨⟨by decide, h1⟩, by decide, (blockEndByIndentation_eq_greatest
    ["class A:", "    def f(self):", "", "        pass", "", "b = 1"] 42).2 (by decide)⟩

end Linewise.Code
