import Linewise.Proofs.Patch.Segments
import Linewise.Proofs.Align.Segments
/-! Lines shared by optimized edits. An edit that reads an old line reads one of its segment's
old range, and these ranges are disjoint, so of two edits at one line one adds a line. Insertions
are numbered from their segment's old start, a line each, so a run of them longer than the kept
stretch after it reaches the lines of the next changed segment. -/
namespace Linewise

open Align

/-- Two edits that both read an old line read different lines. -/
def Edit.ReadApart (e₁ e₂ : Edit) : Prop :=
  e₁.lineContent ≠ "" → e₂.lineContent ≠ "" → e₁.lineNumber ≠ e₂.lineNumber

theorem lineContent_ne_empty_of_isChange {e : Edit} (hc : e.isChange = true)
    (hk : e.kind ≠ .added) : e.lineContent ≠ "" := by
  intro he
  have hn := (isChange_iff.1 hc).resolve_left (not_not.2 he)
  have hn' : e.newLineContent.isEmpty = false := by simpa [String.isEmpty_iff] using hn
  apply hk
  unfold Edit.kind
  rw [he, hn']
  rfl

section Segment

variable {file : String} {old new : Array String} {s : Segment} {e : Edit}

theorem lineNumber_mem_of_mem_segmentDeletions (h : e ∈ segmentDeletions file old s) :
    s.oldStart ≤ e.lineNumber ∧ e.lineNumber < s.oldEnd := by
  obtain ⟨i, hi, rfl⟩ := mem_segmentDeletions.1 h
  simp only [Segment.oldLen] at hi
  exact ⟨by simp [Edit.deletion], by simp only [Edit.deletion]; omega⟩

theorem lineContent_of_mem_segmentInsertions (h : e ∈ segmentInsertions file new s) :
    e.lineContent = "" := by
  obtain ⟨j, -, rfl⟩ := mem_segmentInsertions.1 h
  rfl

theorem lineNumber_mem_of_mem_optimizedSegmentEdits (h : e ∈ optimizedSegmentEdits file old new s)
    (hc : e.lineContent ≠ "") :
    s.tag ≠ .insert ∧ s.oldStart ≤ e.lineNumber ∧ e.lineNumber < s.oldEnd := by
  unfold optimizedSegmentEdits at h
  cases ht : s.tag <;> simp only [ht] at h
  · simp at h
  · split at h
    · obtain ⟨i, hi, -, rfl⟩ := mem_pairedEdits.1 h
      simp only [Segment.oldLen] at hi
      exact ⟨by simp, by simp, by simp only; omega⟩
    · rcases List.mem_append.1 h with h | h
      · exact ⟨by simp, lineNumber_mem_of_mem_segmentDeletions h⟩
      · exact absurd (lineContent_of_mem_segmentInsertions h) hc
  · exact ⟨by simp, lineNumber_mem_of_mem_segmentDeletions h⟩
  · exact absurd (lineContent_of_mem_segmentInsertions h) hc

theorem pairwise_readApart_segmentDeletions :
    (segmentDeletions file old s).Pairwise Edit.ReadApart :=
  List.pairwise_map.2 (List.pairwise_lt_range.imp fun hij _ _ => by
    simp only [Edit.deletion]; omega)

theorem readApart_of_mem_segmentInsertions {e' : Edit} (h : e' ∈ segmentInsertions file new s) :
    e.ReadApart e' ∧ e'.ReadApart e := by
  obtain ⟨j, -, rfl⟩ := mem_segmentInsertions.1 h
  exact ⟨fun _ hc => absurd rfl hc, fun hc => absurd rfl hc⟩

theorem pairwise_readApart_pairedEdits {span : Nat} :
    (pairedEdits file old new s span).Pairwise Edit.ReadApart := by
  rw [pairedEdits_eq]
  refine List.Pairwise.filterMap _ (fun i j hij e₁ he₁ e₂ he₂ => ?_) List.pairwise_lt_range
  split at he₁ <;> split at he₂ <;> simp only [Option.some.injEq, reduceCtorEq] at he₁ he₂
  subst he₁ he₂
  intro _ _
  simp only
  omega

theorem pairwise_readApart_optimizedSegmentEdits :
    (optimizedSegmentEdits file old new s).Pairwise Edit.ReadApart := by
  unfold optimizedSegmentEdits
  split
  · exact .nil
  · split
    · exact pairwise_readApart_pairedEdits
    · refine List.pairwise_append.2 ⟨pairwise_readApart_segmentDeletions, ?_, fun _ _ _ h =>
        (readApart_of_mem_segmentInsertions h).1⟩
      exact List.pairwise_of_forall_mem_list fun _ _ _ h =>
        (readApart_of_mem_segmentInsertions h).1
  · exact pairwise_readApart_segmentDeletions
  · exact List.pairwise_of_forall_mem_list fun _ _ _ h => (readApart_of_mem_segmentInsertions h).1

end Segment

/-- Edits of segments that follow each other in a script read different old lines, when each
edit that reads an old line reads one of its own segment's old range. -/
theorem Align.Script.pairwise_readApart_of
    {dec : String → Array String → Array String → Segment → List Edit} {file : String}
    {old new : Array String} {p q : Nat × Nat} {segs : List Segment}
    (hin : ∀ s, ∀ e ∈ dec file old new s, e.lineContent ≠ "" →
      s.tag ≠ .insert ∧ s.oldStart ≤ e.lineNumber ∧ e.lineNumber < s.oldEnd)
    (h : Script old new p segs q) :
    segs.Pairwise fun s t => ∀ e₁ ∈ dec file old new s, ∀ e₂ ∈ dec file old new t,
      e₁.ReadApart e₂ := by
  have hord := h.olds.pairwise fun t ht => (h.oldSpan_lt t ht).le
  refine (List.pairwise_filterMap.1 hord).imp fun {s t} hst e₁ he₁ e₂ he₂ hc₁ hc₂ => ?_
  obtain ⟨hs, hs₁, hs₂⟩ := hin s e₁ he₁ hc₁
  obtain ⟨ht, ht₁, ht₂⟩ := hin t e₂ he₂ hc₂
  have hle := hst (s.oldStart, s.oldEnd) (by simp [Segment.oldSpan?, hs]) (t.oldStart, t.oldEnd)
    (by simp [Segment.oldSpan?, ht])
  simp only at hle
  omega

theorem Align.Script.pairwise_readApart {file : String} {old new : Array String} {p q : Nat × Nat}
    {segs : List Segment} (h : Script old new p segs q) :
    segs.Pairwise fun s t => ∀ e₁ ∈ optimizedSegmentEdits file old new s,
      ∀ e₂ ∈ optimizedSegmentEdits file old new t, e₁.ReadApart e₂ :=
  h.pairwise_readApart_of fun _ _ he hc => lineNumber_mem_of_mem_optimizedSegmentEdits he hc

/-- Of two optimized edits at one line, one adds a line: no two of them read the old line. -/
theorem createOptimizedFileEdits_shared_line_added (file original edited : String) :
    (createOptimizedFileEdits file original edited).Pairwise fun e₁ e₂ =>
      e₁.lineNumber = e₂.lineNumber → e₁.kind = .added ∨ e₂.kind = .added := by
  have hapart : ((lineSegments original edited).flatMap (optimizedSegmentEdits file
      (Text.lines original).toArray (Text.lines edited).toArray)).Pairwise Edit.ReadApart :=
    List.pairwise_flatMap.2 ⟨fun _ _ => pairwise_readApart_optimizedSegmentEdits,
      (script_segments _ _).pairwise_readApart⟩
  unfold createOptimizedFileEdits rawFileEdits
  refine List.pairwise_filter.2 (hapart.imp fun {e₁ e₂} h hc₁ hc₂ hline => ?_)
  by_contra hadd
  simp only [not_or] at hadd
  exact h (lineContent_ne_empty_of_isChange hc₁ hadd.1)
    (lineContent_ne_empty_of_isChange hc₂ hadd.2) hline

/-- Three lines inserted before a kept `b` and a replaced last line: the second insertion is
numbered 2, the line the replacement of `c` by `w` edits. The two edits at line 2 are an
insertion and a replacement, and neither deletes. -/
theorem createOptimizedFileEdits_insertion_overrun :
    createOptimizedFileEdits "f" "a\nb\nc\n" "a\nx\ny\nz\nb\nw\n" =
      [⟨"f", 1, "", "x"⟩, ⟨"f", 2, "", "y"⟩, ⟨"f", 3, "", "z"⟩, ⟨"f", 2, "c", "w"⟩] ∧
    ((createOptimizedFileEdits "f" "a\nb\nc\n" "a\nx\ny\nz\nb\nw\n").filter
      (·.lineNumber == 2)).map Edit.kind = [.added, .modified] := by
  constructor <;> cbv

end Linewise
