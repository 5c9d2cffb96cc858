import Linewise.Patch.Create
import Mathlib
/-! The edits of one segment of an alignment. The plain and the optimized decompositions differ
only on a replacement of unequal sides: there the optimized edits carry a change whenever the
plain ones do, and when only they do, a non-empty line is deleted and inserted at one place, so
two of them share a key. -/
namespace Linewise

open Align

/-- The old line a pairing reads at position `i` of a segment: empty past its old side. -/
def Align.Segment.pairedOld (old : Array String) (s : Segment) (i : Nat) : String :=
  if i < s.oldLen then lineAt old (s.oldStart + i) else ""

def Align.Segment.pairedNew (new : Array String) (s : Segment) (i : Nat) : String :=
  if i < s.newLen then lineAt new (s.newStart + i) else ""

theorem lt_size_of_lineAt_ne_empty {ls : Array String} {i : Nat} (h : lineAt ls i ≠ "") :
    i < ls.size := by
  by_contra hge
  apply h
  simp [lineAt, Nat.le_of_not_lt hge]

theorem isChange_iff {e : Edit} :
    e.isChange = true ↔ e.lineContent ≠ "" ∨ e.newLineContent ≠ "" := by
  unfold Edit.isChange Edit.kind
  cases h1 : e.lineContent.isEmpty <;> cases h2 : e.newLineContent.isEmpty <;>
    simp_all [String.isEmpty_iff]

section Segment

variable {file : String} {old new : Array String} {s : Segment} {e : Edit}

theorem mem_segmentDeletions :
    e ∈ segmentDeletions file old s ↔
      ∃ i < s.oldLen, e = Edit.deletion file (s.oldStart + i) (lineAt old (s.oldStart + i)) := by
  simp [segmentDeletions, eq_comm]

theorem mem_segmentInsertions :
    e ∈ segmentInsertions file new s ↔
      ∃ j < s.newLen, e = Edit.insertion file (s.oldStart + j) (lineAt new (s.newStart + j)) := by
  simp [segmentInsertions, eq_comm]

theorem pairedEdits_eq {span : Nat} :
    pairedEdits file old new s span = (List.range span).filterMap fun i =>
      if s.pairedOld old i == s.pairedNew new i then none
      else some ⟨file, s.oldStart + i, s.pairedOld old i, s.pairedNew new i⟩ := rfl

theorem mem_pairedEdits {span : Nat} :
    e ∈ pairedEdits file old new s span ↔ ∃ i < span, s.pairedOld old i ≠ s.pairedNew new i ∧
      e = ⟨file, s.oldStart + i, s.pairedOld old i, s.pairedNew new i⟩ := by
  rw [pairedEdits_eq, List.mem_filterMap]
  apply exists_congr
  intro i
  simp only [List.mem_range]
  by_cases h : s.pairedOld old i = s.pairedNew new i
  · simp [h]
  · simp only [h, beq_iff_eq, if_false, Option.some.injEq, ne_eq, not_false_eq_true, true_and]
    exact and_congr_right fun _ => eq_comm

theorem isChange_of_mem_pairedEdits {span : Nat} (h : e ∈ pairedEdits file old new s span) :
    e.isChange = true := by
  obtain ⟨i, -, hne, rfl⟩ := mem_pairedEdits.1 h
  rw [isChange_iff]
  by_contra hboth
  simp only [not_or, not_not] at hboth
  exact hne (hboth.1.trans hboth.2.symm)

theorem fileName_of_mem_plainSegmentEdits (h : e ∈ plainSegmentEdits file old new s) :
    e.fileName = file := by
  unfold plainSegmentEdits at h
  split at h
  · simp at h
  · obtain ⟨i, -, -, rfl⟩ := mem_pairedEdits.1 h; rfl
  · obtain ⟨i, -, rfl⟩ := mem_segmentDeletions.1 h; rfl
  · obtain ⟨j, -, rfl⟩ := mem_segmentInsertions.1 h; rfl

theorem fileName_of_mem_optimizedSegmentEdits (h : e ∈ optimizedSegmentEdits file old new s) :
    e.fileName = file := by
  unfold optimizedSegmentEdits at h
  split at h
  · simp at h
  · split at h
    · obtain ⟨i, -, -, rfl⟩ := mem_pairedEdits.1 h; rfl
    · rcases List.mem_append.1 h with h | h
      · obtain ⟨i, -, rfl⟩ := mem_segmentDeletions.1 h; rfl
      · obtain ⟨j, -, rfl⟩ := mem_segmentInsertions.1 h; rfl
  · obtain ⟨i, -, rfl⟩ := mem_segmentDeletions.1 h; rfl
  · obtain ⟨j, -, rfl⟩ := mem_segmentInsertions.1 h; rfl

theorem lineNumber_lt_of_mem_plainSegmentEdits (h : e ∈ plainSegmentEdits file old new s)
    (hc : e.lineContent ≠ "") : e.lineNumber < old.size := by
  unfold plainSegmentEdits at h
  split at h
  · simp at h
  · obtain ⟨i, -, -, rfl⟩ := mem_pairedEdits.1 h
    simp only [Segment.pairedOld] at hc ⊢
    split at hc
    · exact lt_size_of_lineAt_ne_empty hc
    · exact absurd rfl hc
  · obtain ⟨i, -, rfl⟩ := mem_segmentDeletions.1 h
    exact lt_size_of_lineAt_ne_empty hc
  · obtain ⟨j, -, rfl⟩ := mem_segmentInsertions.1 h
    exact absurd rfl hc

theorem not_nodup_of_shared_line {j : Nat} (hold : j < s.oldLen) (hnew : j < s.newLen)
    (ho : lineAt old (s.oldStart + j) ≠ "") (hn : lineAt new (s.newStart + j) ≠ "") :
    ¬ (((segmentDeletions file old s ++ segmentInsertions file new s).filter Edit.isChange).map
      Edit.key).Nodup := by
  have hdel : Edit.deletion file (s.oldStart + j) (lineAt old (s.oldStart + j)) ∈
      (segmentDeletions file old s).filter Edit.isChange :=
    List.mem_filter.2 ⟨mem_segmentDeletions.2 ⟨j, hold, rfl⟩, isChange_iff.2 (.inl ho)⟩
  have hins : Edit.insertion file (s.oldStart + j) (lineAt new (s.newStart + j)) ∈
      (segmentInsertions file new s).filter Edit.isChange :=
    List.mem_filter.2 ⟨mem_segmentInsertions.2 ⟨j, hnew, rfl⟩, isChange_iff.2 (.inr hn)⟩
  rw [List.filter_append, List.map_append, List.nodup_append]
  rintro ⟨-, -, hdisj⟩
  exact hdisj _ (List.mem_map_of_mem hdel) _ (List.mem_map_of_mem hins) rfl

theorem not_nodup_of_paired_agree {j : Nat} (hagree : s.pairedOld old j = s.pairedNew new j)
    (hne : s.pairedOld old j ≠ "") :
    ¬ (((segmentDeletions file old s ++ segmentInsertions file new s).filter Edit.isChange).map
      Edit.key).Nodup := by
  unfold Segment.pairedOld at hagree hne
  unfold Segment.pairedNew at hagree
  split at hne
  · next hjo =>
    rw [if_pos hjo] at hagree
    split at hagree
    · next hjn => exact not_nodup_of_shared_line hjo hjn hne (hagree ▸ hne)
    · exact absurd hagree hne
  · exact absurd rfl hne

/-- The optimized edits of a segment carry a change whenever the plain ones do. -/
theorem exists_optimized_change (h : ∃ e ∈ plainSegmentEdits file old new s, e.isChange = true) :
    ∃ e ∈ optimizedSegmentEdits file old new s, e.isChange = true := by
  unfold plainSegmentEdits at h
  unfold optimizedSegmentEdits
  cases htag : s.tag <;> simp only [htag] at h ⊢
  case equal => simp at h
  case delete => exact h
  case insert => exact h
  case replace =>
    split
    · next heq =>
      rw [beq_iff_eq] at heq
      rw [heq, Nat.max_self] at h
      rwa [heq]
    · -- a changed position reads a non-empty line on one side, which the optimized edits delete
      -- or insert
      obtain ⟨e, he, -⟩ := h
      obtain ⟨i, -, hne, -⟩ := mem_pairedEdits.1 he
      by_cases ho : s.pairedOld old i = ""
      · have hn : s.pairedNew new i ≠ "" := fun hn => hne (ho.trans hn.symm)
        simp only [Segment.pairedNew] at hn
        split at hn
        · next hi =>
          exact ⟨_, List.mem_append_right _ (mem_segmentInsertions.2 ⟨i, hi, rfl⟩),
            isChange_iff.2 (.inr hn)⟩
        · exact absurd rfl hn
      · simp only [Segment.pairedOld] at ho
        split at ho
        · next hi =>
          exact ⟨_, List.mem_append_left _ (mem_segmentDeletions.2 ⟨i, hi, rfl⟩),
            isChange_iff.2 (.inl ho)⟩
        · exact absurd rfl ho

/-- When only the optimized edits of a segment carry a change, two of them share a key. -/
theorem not_nodup_of_optimized_change_only
    (h : ∃ e ∈ optimizedSegmentEdits file old new s, e.isChange = true)
    (hplain : ∀ e ∈ plainSegmentEdits file old new s, e.isChange = false) :
    ¬ (((optimizedSegmentEdits file old new s).filter Edit.isChange).map Edit.key).Nodup := by
  unfold plainSegmentEdits at hplain
  unfold optimizedSegmentEdits at h ⊢
  obtain ⟨e, he, hc⟩ := h
  cases htag : s.tag <;> simp only [htag] at he hplain ⊢
  case equal => simp at he
  case delete => exact absurd (hplain e he) (by rw [hc]; decide)
  case insert => exact absurd (hplain e he) (by rw [hc]; decide)
  case replace =>
    split at he
    · next heq =>
      rw [beq_iff_eq] at heq
      rw [heq, Nat.max_self] at hplain
      rw [heq] at he
      exact absurd (hplain e he) (by rw [hc]; decide)
    · next hne =>
      simp only [hne, Bool.false_eq_true, if_false]
      -- the plain pairing agrees everywhere, so a deleted or inserted non-empty line is read on
      -- both sides at one position
      have hagree : ∀ i < max s.oldLen s.newLen, s.pairedOld old i = s.pairedNew new i := by
        intro i hi
        by_contra hdiff
        have hmem : (⟨file, s.oldStart + i, s.pairedOld old i, s.pairedNew new i⟩ : Edit) ∈
            pairedEdits file old new s (max s.oldLen s.newLen) :=
          mem_pairedEdits.2 ⟨i, hi, hdiff, rfl⟩
        have := hplain _ hmem
        rw [isChange_of_mem_pairedEdits hmem] at this
        exact Bool.noConfusion this
      rcases List.mem_append.1 he with he | he
      · obtain ⟨j, hj, rfl⟩ := mem_segmentDeletions.1 he
        have ho : s.pairedOld old j ≠ "" := by
          simpa [Segment.pairedOld, hj, Edit.deletion, isChange_iff] using hc
        exact not_nodup_of_paired_agree (hagree j (by omega)) ho
      · obtain ⟨j, hj, rfl⟩ := mem_segmentInsertions.1 he
        have hn : s.pairedNew new j ≠ "" := by
          simpa [Segment.pairedNew, hj, Edit.insertion, isChange_iff] using hc
        have heqj := hagree j (by omega)
        exact not_nodup_of_paired_agree heqj (heqj.trans_ne hn)

end Segment

/-! ## The edits of a file pair -/

theorem sublist_flatMap_of_mem {α β : Type} {l : List α} {f : α → List β} {a : α} (h : a ∈ l) :
    List.Sublist (f a) (l.flatMap f) := by
  rw [List.flatMap_def]
  exact List.sublist_flatten_of_mem (List.mem_map_of_mem h)

section File

variable {file original edited : String} {e : Edit}

theorem createFileEdits_eq :
    createFileEdits file original edited =
      (lineSegments original edited).flatMap fun s =>
        (plainSegmentEdits file (Text.lines original).toArray (Text.lines edited).toArray s).filter
          Edit.isChange := by
  rw [createFileEdits, rawFileEdits, List.filter_flatMap]
  rfl

theorem createOptimizedFileEdits_eq :
    createOptimizedFileEdits file original edited =
      (lineSegments original edited).flatMap fun s =>
        (optimizedSegmentEdits file (Text.lines original).toArray (Text.lines edited).toArray
          s).filter Edit.isChange := by
  rw [createOptimizedFileEdits, rawFileEdits, List.filter_flatMap]
  rfl

theorem fileName_of_mem_createFileEdits (h : e ∈ createFileEdits file original edited) :
    e.fileName = file := by
  rw [createFileEdits_eq] at h
  obtain ⟨s, -, he⟩ := List.mem_flatMap.1 h
  exact fileName_of_mem_plainSegmentEdits (List.mem_filter.1 he).1

theorem fileName_of_mem_createOptimizedFileEdits
    (h : e ∈ createOptimizedFileEdits file original edited) : e.fileName = file := by
  rw [createOptimizedFileEdits_eq] at h
  obtain ⟨s, -, he⟩ := List.mem_flatMap.1 h
  exact fileName_of_mem_optimizedSegmentEdits (List.mem_filter.1 he).1

theorem fileName_of_mem_newFileEdits {content : String} (h : e ∈ newFileEdits file content) :
    e.fileName = file := by
  obtain ⟨⟨l, i⟩, -, rfl⟩ := List.mem_map.1 h
  rfl

theorem lineNumber_lt_of_mem_createFileEdits (h : e ∈ createFileEdits file original edited)
    (hc : e.lineContent ≠ "") : e.lineNumber < Text.lineCount original := by
  rw [createFileEdits_eq] at h
  obtain ⟨s, -, he⟩ := List.mem_flatMap.1 h
  have hlt := lineNumber_lt_of_mem_plainSegmentEdits (List.mem_filter.1 he).1 hc
  rwa [List.size_toArray] at hlt

theorem createOptimizedFileEdits_ne_nil (h : createFileEdits file original edited ≠ []) :
    createOptimizedFileEdits file original edited ≠ [] := by
  obtain ⟨e, he⟩ := List.exists_mem_of_ne_nil _ h
  rw [createFileEdits_eq] at he
  obtain ⟨s, hs, he⟩ := List.mem_flatMap.1 he
  obtain ⟨e', he', hc'⟩ := exists_optimized_change ⟨e, (List.mem_filter.1 he).1,
    (List.mem_filter.1 he).2⟩
  rw [createOptimizedFileEdits_eq]
  exact List.ne_nil_of_mem (List.mem_flatMap.2 ⟨s, hs, List.mem_filter.2 ⟨he', hc'⟩⟩)

/-- Optimized edits of a file pair without two edits of one key are empty when the plain ones
are. -/
theorem createFileEdits_ne_nil_of_nodup (h : createOptimizedFileEdits file original edited ≠ [])
    (hnd : ((createOptimizedFileEdits file original edited).map Edit.key).Nodup) :
    createFileEdits file original edited ≠ [] := by
  intro hplain
  obtain ⟨e, he⟩ := List.exists_mem_of_ne_nil _ h
  rw [createOptimizedFileEdits_eq] at he hnd
  obtain ⟨s, hs, he⟩ := List.mem_flatMap.1 he
  have hnone : ∀ e ∈ plainSegmentEdits file (Text.lines original).toArray
      (Text.lines edited).toArray s, e.isChange = false := by
    rw [createFileEdits_eq, List.flatMap_eq_nil_iff] at hplain
    intro e' he'
    simpa using List.filter_eq_nil_iff.1 (hplain s hs) e' he'
  have hsub := @sublist_flatMap_of_mem _ _ _ (fun s => (optimizedSegmentEdits file
    (Text.lines original).toArray (Text.lines edited).toArray s).filter Edit.isChange) s hs
  exact not_nodup_of_optimized_change_only ⟨e, (List.mem_filter.1 he).1, (List.mem_filter.1 he).2⟩
    hnone (hnd.sublist (hsub.map Edit.key))

end File

end Linewise
