import Linewise.Proofs.Patch.Keys
import Linewise.Proofs.Patch.Report
/-! What the edits of a made patch claim of the original files. An edit that claims an old line
claims the line the original has there, inside its segment's old range; the ranges are disjoint
and new files bring insertions only, so no two edits claim one line and the validator reports no
claim past the end of a file, for the optimized and for the plain patch. -/
namespace Linewise

open Align

theorem getElem?_eq_of_lineAt_ne_empty {ls : List String} {i : Nat} (h : lineAt ls.toArray i ≠ "") :
    ls[i]? = some (lineAt ls.toArray i) := by
  simp only [lineAt, List.getElem?_toArray] at h ⊢
  cases hi : ls[i]? with
  | none => simp [hi] at h
  | some l => rfl

theorem Align.Segment.pairedOld_of_ne_empty {old : Array String} {s : Segment} {i : Nat}
    (h : s.pairedOld old i ≠ "") :
    i < s.oldLen ∧ s.pairedOld old i = lineAt old (s.oldStart + i) := by
  unfold Segment.pairedOld at h ⊢
  split at h
  · next hi => exact ⟨hi, if_pos hi⟩
  · exact absurd rfl h

section Segment

variable {file : String} {old new : Array String} {s : Segment} {e : Edit}

theorem lineContent_eq_of_mem_segmentDeletions (h : e ∈ segmentDeletions file old s) :
    e.lineContent = lineAt old e.lineNumber := by
  obtain ⟨i, -, rfl⟩ := mem_segmentDeletions.1 h
  rfl

theorem lineContent_eq_of_mem_pairedEdits {span : Nat} (h : e ∈ pairedEdits file old new s span)
    (hc : e.lineContent ≠ "") : e.lineContent = lineAt old e.lineNumber := by
  obtain ⟨i, -, -, rfl⟩ := mem_pairedEdits.1 h
  exact (Segment.pairedOld_of_ne_empty hc).2

theorem lineContent_eq_of_mem_plainSegmentEdits (h : e ∈ plainSegmentEdits file old new s)
    (hc : e.lineContent ≠ "") : e.lineContent = lineAt old e.lineNumber := by
  unfold plainSegmentEdits at h
  split at h
  · simp at h
  · exact lineContent_eq_of_mem_pairedEdits h hc
  · exact lineContent_eq_of_mem_segmentDeletions h
  · exact absurd (lineContent_of_mem_segmentInsertions h) hc

theorem lineContent_eq_of_mem_optimizedSegmentEdits (h : e ∈ optimizedSegmentEdits file old new s)
    (hc : e.lineContent ≠ "") : e.lineContent = lineAt old e.lineNumber := by
  unfold optimizedSegmentEdits at h
  split at h
  · simp at h
  · split at h
    · exact lineContent_eq_of_mem_pairedEdits h hc
    · rcases List.mem_append.1 h with h | h
      · exact lineContent_eq_of_mem_segmentDeletions h
      · exact absurd (lineContent_of_mem_segmentInsertions h) hc
  · exact lineContent_eq_of_mem_segmentDeletions h
  · exact absurd (lineContent_of_mem_segmentInsertions h) hc

theorem lineNumber_mem_of_mem_plainSegmentEdits (h : e ∈ plainSegmentEdits file old new s)
    (hc : e.lineContent ≠ "") :
    s.tag ≠ .insert ∧ s.oldStart ≤ e.lineNumber ∧ e.lineNumber < s.oldEnd := by
  unfold plainSegmentEdits at h
  cases ht : s.tag <;> simp only [ht] at h
  · simp at h
  · obtain ⟨i, -, -, rfl⟩ := mem_pairedEdits.1 h
    have hi := (Segment.pairedOld_of_ne_empty hc).1
    simp only [Segment.oldLen] at hi
    exact ⟨by simp, by simp, by simp only; omega⟩
  · exact ⟨by simp, lineNumber_mem_of_mem_segmentDeletions h⟩
  · exact absurd (lineContent_of_mem_segmentInsertions h) hc

theorem pairwise_readApart_plainSegmentEdits :
    (plainSegmentEdits file old new s).Pairwise Edit.ReadApart := by
  unfold plainSegmentEdits
  split
  · exact .nil
  · exact pairwise_readApart_pairedEdits
  · exact pairwise_readApart_segmentDeletions
  · exact List.pairwise_of_forall_mem_list fun _ _ _ h => (readApart_of_mem_segmentInsertions h).1

end Segment

/-- What a decomposition of segments into edits keeps to: its edits name the file, and an edit
that claims an old line claims the line at its number, within its segment's old range, and apart
from the segment's other edits. -/
structure ReadsWithin (dec : String → Array String → Array String → Segment → List Edit) :
    Prop where
  fileName : ∀ {file old new s e}, e ∈ dec file old new s → e.fileName = file
  reads : ∀ {file old new s e}, e ∈ dec file old new s → e.lineContent ≠ "" →
    e.lineContent = lineAt old e.lineNumber
  inRange : ∀ {file old new s e}, e ∈ dec file old new s → e.lineContent ≠ "" →
    s.tag ≠ .insert ∧ s.oldStart ≤ e.lineNumber ∧ e.lineNumber < s.oldEnd
  apart : ∀ file old new s, (dec file old new s).Pairwise Edit.ReadApart

theorem readsWithin_plainSegmentEdits : ReadsWithin plainSegmentEdits :=
  ⟨fileName_of_mem_plainSegmentEdits, lineContent_eq_of_mem_plainSegmentEdits,
    lineNumber_mem_of_mem_plainSegmentEdits, fun _ _ _ _ => pairwise_readApart_plainSegmentEdits⟩

theorem readsWithin_optimizedSegmentEdits : ReadsWithin optimizedSegmentEdits :=
  ⟨fileName_of_mem_optimizedSegmentEdits, lineContent_eq_of_mem_optimizedSegmentEdits,
    lineNumber_mem_of_mem_optimizedSegmentEdits,
    fun _ _ _ _ => pairwise_readApart_optimizedSegmentEdits⟩

/-- Edits of file `f` that carry a change and claim only lines that `o` has at their numbers, no
two the same line. -/
structure ReadsFile (o : Option String) (f : String) (es : List Edit) : Prop where
  fileName : ∀ e ∈ es, e.fileName = f
  change : ∀ e ∈ es, e.kind ≠ .empty
  reads : ∀ e ∈ es, e.lineContent ≠ "" →
    ∃ t, o = some t ∧ (Text.lines t)[e.lineNumber]? = some e.lineContent
  apart : es.Pairwise Edit.ReadApart

theorem readsFile_nil {o : Option String} {f : String} : ReadsFile o f [] :=
  ⟨by simp, by simp, by simp, .nil⟩

theorem ReadsWithin.readsFile {dec : String → Array String → Array String → Segment → List Edit}
    (hd : ReadsWithin dec) (file original edited : String) :
    ReadsFile (some original) file ((rawFileEdits dec file original edited).filter Edit.isChange) := by
  unfold rawFileEdits
  refine ⟨fun e he => ?_, fun e he => ?_, fun e he hc => ?_, ?_⟩
  · obtain ⟨s, -, he⟩ := List.mem_flatMap.1 (List.mem_filter.1 he).1
    exact hd.fileName he
  · simpa [Edit.isChange] using (List.mem_filter.1 he).2
  · obtain ⟨s, -, he⟩ := List.mem_flatMap.1 (List.mem_filter.1 he).1
    have hread := hd.reads he hc
    refine ⟨original, rfl, ?_⟩
    rw [hread]
    exact getElem?_eq_of_lineAt_ne_empty (hread ▸ hc)
  · exact (List.pairwise_flatMap.2 ⟨fun s _ => hd.apart _ _ _ s,
      (script_segments _ _).pairwise_readApart_of fun _ _ he hc => hd.inRange he hc⟩).filter _

theorem readsFile_newFileEdits {o : Option String} {file content : String} :
    ReadsFile o file (newFileEdits file content) := by
  -- a new file's edits insert its non-empty lines and claim none
  have hform : ∀ e ∈ newFileEdits file content, e.lineContent = "" ∧ e.newLineContent ≠ "" := by
    intro e he
    obtain ⟨⟨l, i⟩, hl, rfl⟩ := List.mem_map.1 he
    simpa [Edit.insertion, String.isEmpty_iff] using (List.mem_filter.1 hl).2
  refine ⟨fun e he => fileName_of_mem_newFileEdits he, fun e he => ?_,
    fun e he hc => absurd (hform e he).1 hc,
    List.pairwise_of_forall_mem_list fun e he _ _ hc => absurd (hform e he).1 hc⟩
  obtain ⟨hl, hn⟩ := hform e he
  have hn' : e.newLineContent.isEmpty = false := by simpa [String.isEmpty_iff] using hn
  rw [Edit.kind, hl, hn']
  decide

/-- What the edits of a patch made from `O` to `E` keep to: each names a file of `E` and carries
a change, one that claims an old line claims the line `O` has at its number, and no two edits of
one file claim one line. -/
structure Patch.Grounded (O E : FileMap) (p : Patch) : Prop where
  edited : ∀ e ∈ p.edits, e.fileName ∈ E.names
  change : ∀ e ∈ p.edits, e.kind ≠ .empty
  reads : ∀ e ∈ p.edits, e.lineContent ≠ "" →
    ∃ o, O.get? e.fileName = some o ∧ (Text.lines o)[e.lineNumber]? = some e.lineContent
  apart : p.edits.Pairwise fun e₁ e₂ => e₁.fileName = e₂.fileName → e₁.ReadApart e₂

section Grounded

variable {O E : FileMap}

theorem grounded_flatMap {g : String × String → List Edit} (hE : E.names.Nodup)
    (hg : ∀ fe ∈ E.entries, ReadsFile (O.get? fe.1) fe.1 (g fe)) :
    Patch.Grounded O E ⟨E.entries.flatMap g⟩ := by
  have hname : ∀ fe ∈ E.entries, ∀ e ∈ g fe, e.fileName = fe.1 :=
    fun fe hfe => (hg fe hfe).fileName
  refine ⟨fun e he => ?_, fun e he => ?_, fun e he hc => ?_, ?_⟩
  · obtain ⟨fe, hfe, he⟩ := List.mem_flatMap.1 he
    rw [hname fe hfe e he]
    exact List.mem_map_of_mem hfe
  · obtain ⟨fe, hfe, he⟩ := List.mem_flatMap.1 he
    exact (hg fe hfe).change e he
  · obtain ⟨fe, hfe, he⟩ := List.mem_flatMap.1 he
    rw [hname fe hfe e he]
    exact (hg fe hfe).reads e he hc
  · -- edits of different entries name different files
    refine List.pairwise_flatMap.2 ⟨fun fe hfe => ?_, ?_⟩
    · refine List.Pairwise.imp ?_ (hg fe hfe).apart
      intro a b h _
      exact h
    · refine (List.pairwise_map.1 hE).imp_of_mem fun {a b} ha hb hab e₁ he₁ e₂ he₂ hsame => ?_
      rw [hname a ha e₁ he₁, hname b hb e₂ he₂] at hsame
      exact absurd hsame hab

theorem createOptimizedPatch_grounded (hE : E.names.Nodup) :
    (createOptimizedPatch O E).Grounded O E := by
  unfold createOptimizedPatch
  refine grounded_flatMap hE fun fe _ => ?_
  obtain ⟨f, c⟩ := fe
  dsimp only
  cases O.get? f with
  | none => exact readsFile_nil
  | some o =>
    dsimp only
    split
    · exact readsFile_nil
    · exact readsWithin_optimizedSegmentEdits.readsFile f o c

theorem createFallbackPatch_grounded (hE : E.names.Nodup) :
    (createFallbackPatch O E).Grounded O E := by
  unfold createFallbackPatch
  refine grounded_flatMap hE fun fe _ => ?_
  obtain ⟨f, c⟩ := fe
  dsimp only
  cases O.get? f with
  | none => exact readsFile_newFileEdits
  | some o =>
    dsimp only
    split
    · exact readsFile_nil
    · exact readsWithin_plainSegmentEdits.readsFile f o c

theorem Patch.Grounded.lineOutOfBounds_not_mem {p : Patch} (hp : p.Grounded O E) (f : String)
    (n : Nat) : Issue.lineOutOfBounds f n ∉ (validatePatch p O).issues := by
  intro hmem
  obtain ⟨c, hget, e, he, rfl, rfl, hle, hl⟩ := lineOutOfBounds_mem_validatePatch_iff.1 hmem
  obtain ⟨o, ho, hline⟩ := hp.reads e he hl
  rw [hget, Option.some_inj] at ho
  subst ho
  have hlt : e.lineNumber < (Text.lines c).length := (List.getElem?_eq_some_iff.1 hline).1
  exact absurd hle (Nat.not_le_of_lt hlt)

end Grounded

/-- Every edit of the optimized and of the plain patch names an edited file and carries a change;
one that claims an old line names a file of the originals and claims the line that file has at
its number, and no other edit of that file claims the same line. So the validator never finds a
claim past the end of a file in either patch. Edited files are named once each, as in any map. -/
theorem createPatches_grounded (O E : FileMap) (hE : E.names.Nodup) :
    (createOptimizedPatch O E).Grounded O E ∧ (createFallbackPatch O E).Grounded O E ∧
      ∀ f n, Issue.lineOutOfBounds f n ∉ (validatePatch (createOptimizedPatch O E) O).issues ∧
        Issue.lineOutOfBounds f n ∉ (validatePatch (createFallbackPatch O E) O).issues :=
  ⟨createOptimizedPatch_grounded hE, createFallbackPatch_grounded hE, fun f n =>
    ⟨(createOptimizedPatch_grounded hE).lineOutOfBounds_not_mem f n,
      (createFallbackPatch_grounded hE).lineOutOfBounds_not_mem f n⟩⟩

/-- An edited file with a replaced and a grown tail next to a new file: both patches are grounded
in the originals. -/
theorem createPatches_grounded_replaced_and_new :
    (FileMap.names ⟨[("f", "a\nx\ny\nz\nc\nw\n"), ("g", "new\n")]⟩).Nodup ∧
      (createOptimizedPatch ⟨[("f", "a\nb\nc\nd\n")]⟩
        ⟨[("f", "a\nx\ny\nz\nc\nw\n"), ("g", "new\n")]⟩).Grounded ⟨[("f", "a\nb\nc\nd\n")]⟩
          ⟨[("f", "a\nx\ny\nz\nc\nw\n"), ("g", "new\n")]⟩ ∧
      (createFallbackPatch ⟨[("f", "a\nb\nc\nd\n")]⟩
        ⟨[("f", "a\nx\ny\nz\nc\nw\n"), ("g", "new\n")]⟩).Grounded ⟨[("f", "a\nb\nc\nd\n")]⟩
          ⟨[("f", "a\nx\ny\nz\nc\nw\n"), ("g", "new\n")]⟩ := by
  have hE : (FileMap.names ⟨[("f", "a\nx\ny\nz\nc\nw\n"), ("g", "new\n")]⟩).Nodup := by decide
  have h := createPatches_grounded ⟨[("f", "a\nb\nc\nd\n")]⟩
    ⟨[("f", "a\nx\ny\nz\nc\nw\n"), ("g", "new\n")]⟩ hE
  exact ⟨hE, h.1, h.2.1⟩

end Linewise
