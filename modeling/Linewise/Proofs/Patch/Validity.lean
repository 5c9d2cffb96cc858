import Linewise.Patch.Preview
import Linewise.Proofs.Patch.Segments
/-! What the validator accepts, and the plain patch under it: a patch with edits, present files,
claims within bounds and no two edits of one file and line. The plain patch of files present in
the originals reads empty text past the end and so is rejected exactly for a shared key. -/
namespace Linewise

section Appearances

variable {α : Type} [BEq α] [LawfulBEq α]

theorem mem_foldl_firstAppearances {x : α} : ∀ (xs : List α) (acc : Array α),
    x ∈ (xs.foldl (fun acc y => if acc.contains y then acc else acc.push y) acc).toList ↔
      x ∈ acc.toList ∨ x ∈ xs
  | [], acc => by simp
  | y :: ys, acc => by
    rw [List.foldl_cons, mem_foldl_firstAppearances ys]
    split
    · next hy =>
      have hy' : y ∈ acc.toList := Array.mem_toList_iff.2 (Array.contains_iff_mem.1 hy)
      constructor
      · rintro (h | h)
        · exact .inl h
        · exact .inr (List.mem_cons_of_mem _ h)
      · rintro (h | h)
        · exact .inl h
        · rcases List.mem_cons.1 h with rfl | h
          · exact .inl hy'
          · exact .inr h
    · simp [Array.toList_push, or_assoc]

theorem mem_firstAppearances {x : α} {xs : List α} : x ∈ firstAppearances xs ↔ x ∈ xs := by
  rw [firstAppearances, mem_foldl_firstAppearances]
  simp

end Appearances

theorem conflictingKeys_eq_nil_iff {p : Patch} :
    conflictingKeys p = [] ↔ (p.edits.map Edit.key).Nodup := by
  rw [conflictingKeys, List.filter_eq_nil_iff, List.nodup_iff_count_le_one]
  constructor
  · intro h k
    by_cases hk : k ∈ p.edits.map Edit.key
    · have := h k (mem_firstAppearances.2 hk)
      simp only [decide_eq_true_eq] at this
      omega
    · rw [List.count_eq_zero_of_not_mem hk]
      exact Nat.zero_le _
  · intro h k _
    have := h k
    simp only [decide_eq_true_eq]
    omega

/-- A patch is accepted when it has edits, every file it names has no issue, and no key is in
conflict. -/
theorem isValid_validatePatch_iff {p : Patch} {originals : FileMap} :
    (validatePatch p originals).isValid = true ↔ p.edits ≠ [] ∧
      (∀ f ∈ p.edits.map Edit.fileName, fileIssues p originals f = []) ∧ conflictingKeys p = [] := by
  unfold validatePatch Report.isValid
  by_cases hp : p.isEmpty
  · have hnil : p.edits = [] := List.isEmpty_iff.1 hp
    simp [hp, hnil]
  · have hne : p.edits ≠ [] := fun h => hp (List.isEmpty_iff.2 h)
    simp only [hp, Bool.false_eq_true, if_false, List.isEmpty_iff, List.append_eq_nil_iff,
      List.flatMap_eq_nil_iff, mem_firstAppearances]
    split
    · next hk => simp [hne, hk]
    · next hk => simp [hk]

section Files

variable {O E : FileMap}

theorem mem_createOptimizedPatch {e : Edit} :
    e ∈ (createOptimizedPatch O E).edits ↔ ∃ fe ∈ E.entries,
      ∃ o, O.get? fe.1 = some o ∧ o ≠ fe.2 ∧ e ∈ createOptimizedFileEdits fe.1 o fe.2 := by
  simp only [createOptimizedPatch, List.mem_flatMap]
  apply exists_congr
  intro fe
  obtain ⟨f, c⟩ := fe
  cases hget : O.get? f with
  | none => simp
  | some o => by_cases hoc : o = c <;> simp [hoc]

theorem mem_createFallbackPatch {e : Edit} :
    e ∈ (createFallbackPatch O E).edits ↔ ∃ fe ∈ E.entries,
      (O.get? fe.1 = none ∧ e ∈ newFileEdits fe.1 fe.2) ∨
        ∃ o, O.get? fe.1 = some o ∧ o ≠ fe.2 ∧ e ∈ createFileEdits fe.1 o fe.2 := by
  simp only [createFallbackPatch, List.mem_flatMap]
  apply exists_congr
  intro fe
  obtain ⟨f, c⟩ := fe
  cases hget : O.get? f with
  | none => simp
  | some o => by_cases hoc : o = c <;> simp [hoc]

theorem fileIssues_createFallbackPatch (hsub : ∀ fe ∈ E.entries, O.contains fe.1 = true)
    {f : String} (hf : f ∈ (createFallbackPatch O E).edits.map Edit.fileName) :
    fileIssues (createFallbackPatch O E) O f = [] := by
  -- every edit is a plain edit of a file present in the originals
  have hfrom : ∀ e ∈ (createFallbackPatch O E).edits,
      ∃ o c, O.get? e.fileName = some o ∧ e ∈ createFileEdits e.fileName o c := by
    intro e he
    obtain ⟨⟨f', c⟩, hfe, hnew | ⟨o, hget, -, he'⟩⟩ := mem_createFallbackPatch.1 he
    · have hpresent := hsub _ hfe
      simp [FileMap.contains, hnew.1] at hpresent
    · rw [fileName_of_mem_createFileEdits he']
      exact ⟨o, c, hget, he'⟩
  obtain ⟨e₀, he₀, rfl⟩ := List.mem_map.1 hf
  obtain ⟨o, -, hget, -⟩ := hfrom e₀ he₀
  unfold fileIssues
  rw [hget]
  simp only
  rw [List.filterMap_eq_nil_iff]
  intro e he
  obtain ⟨hmem, hname⟩ := List.mem_filter.1 he
  rw [beq_iff_eq] at hname
  obtain ⟨o', c, hget', he'⟩ := hfrom e hmem
  rw [hname, hget, Option.some_inj] at hget'
  subst hget'
  rw [hname] at he'
  split
  · next hcond =>
    simp only [Bool.and_eq_true, decide_eq_true_eq, Bool.not_eq_true'] at hcond
    have hlt := lineNumber_lt_of_mem_createFileEdits he' (by simpa using hcond.2)
    omega
  · rfl

/-- For edited files all present in the originals, the patch made is empty or accepted exactly
when the optimized patch is accepted or no two edits of the plain patch share a key: the plain
patch, returned unchecked when the optimized one is rejected, can only fail by such a
conflict. -/
theorem createPatch_empty_or_valid_iff (O E : FileMap)
    (hsub : ∀ fe ∈ E.entries, O.contains fe.1 = true) :
    ((createPatch O E).edits = [] ∨ (validatePatch (createPatch O E) O).isValid = true) ↔
      ((validatePatch (createOptimizedPatch O E) O).isValid = true ∨
        conflictingKeys (createFallbackPatch O E) = []) := by
  have hfb : (validatePatch (createFallbackPatch O E) O).isValid = true ↔
      (createFallbackPatch O E).edits ≠ [] ∧ conflictingKeys (createFallbackPatch O E) = [] := by
    rw [isValid_validatePatch_iff]
    exact ⟨fun h => ⟨h.1, h.2.2⟩,
      fun h => ⟨h.1, fun f hf => fileIssues_createFallbackPatch hsub hf, h.2⟩⟩
  have hnil : (createFallbackPatch O E).edits = [] →
      conflictingKeys (createFallbackPatch O E) = [] := by
    intro h
    rw [conflictingKeys_eq_nil_iff, h]
    exact List.nodup_nil
  unfold createPatch
  by_cases hE : E.isEmpty
  · have hentries : E.entries = [] := List.isEmpty_iff.1 hE
    have hfbnil : (createFallbackPatch O E).edits = [] := by simp [createFallbackPatch, hentries]
    simp only [hE, if_true, Patch.empty, true_or, true_iff]
    exact .inr (hnil hfbnil)
  · by_cases hv : (validatePatch (createOptimizedPatch O E) O).isValid = true
    · simp [hE, hv]
    · -- the plain patch is returned unchecked, and can only be rejected as empty or by a conflict
      simp only [hE, hv, Bool.false_eq_true, if_false, false_or]
      rw [hfb]
      constructor
      · rintro (h | h)
        · exact hnil h
        · exact h.2
      · intro h
        by_cases hempty : (createFallbackPatch O E).edits = []
        · exact .inl hempty
        · exact .inr ⟨hempty, h⟩

/-- The files of a replacement that grows by two lines before a kept line and a replaced last
line are all present, so the patch made for them is empty or accepted exactly when the
optimized patch is accepted or the plain one has no conflict. -/
theorem createPatch_grown_replacement_iff :
    ((createPatch ⟨[("f", "a\nb\nc\nd\n")]⟩ ⟨[("f", "a\nx\ny\nz\nc\nw\n")]⟩).edits = [] ∨
      (validatePatch (createPatch ⟨[("f", "a\nb\nc\nd\n")]⟩ ⟨[("f", "a\nx\ny\nz\nc\nw\n")]⟩)
        ⟨[("f", "a\nb\nc\nd\n")]⟩).isValid = true) ↔
      ((validatePatch (createOptimizedPatch ⟨[("f", "a\nb\nc\nd\n")]⟩
          ⟨[("f", "a\nx\ny\nz\nc\nw\n")]⟩) ⟨[("f", "a\nb\nc\nd\n")]⟩).isValid = true ∨
        conflictingKeys (createFallbackPatch ⟨[("f", "a\nb\nc\nd\n")]⟩
          ⟨[("f", "a\nx\ny\nz\nc\nw\n")]⟩) = []) :=
  createPatch_empty_or_valid_iff _ _ (by decide)

/-- On that replacement the optimized patch deletes and inserts at its first replaced line and
is rejected; the plain patch that replaces it inserts the grown tail at the last line, which
its own replacement of that line also edits, and is rejected too. -/
theorem createPatch_grown_replacement_conflicts :
    validatePatch (createPatch ⟨[("f", "a\nb\nc\nd\n")]⟩ ⟨[("f", "a\nx\ny\nz\nc\nw\n")]⟩)
      ⟨[("f", "a\nb\nc\nd\n")]⟩ = ⟨[.conflictingEdits [("f", 3)]]⟩ := by
  have hopt : createOptimizedPatch ⟨[("f", "a\nb\nc\nd\n")]⟩ ⟨[("f", "a\nx\ny\nz\nc\nw\n")]⟩ =
      ⟨[⟨"f", 1, "b", ""⟩, ⟨"f", 1, "", "x"⟩, ⟨"f", 2, "", "y"⟩, ⟨"f", 3, "", "z"⟩,
        ⟨"f", 3, "d", "w"⟩]⟩ := by cbv
  have hrejected : validatePatch ⟨[⟨"f", 1, "b", ""⟩, ⟨"f", 1, "", "x"⟩, ⟨"f", 2, "", "y"⟩,
      ⟨"f", 3, "", "z"⟩, ⟨"f", 3, "d", "w"⟩]⟩ ⟨[("f", "a\nb\nc\nd\n")]⟩ =
      ⟨[.conflictingEdits [("f", 1), ("f", 3)]]⟩ := by cbv
  have hplain : createFallbackPatch ⟨[("f", "a\nb\nc\nd\n")]⟩ ⟨[("f", "a\nx\ny\nz\nc\nw\n")]⟩ =
      ⟨[⟨"f", 1, "b", "x"⟩, ⟨"f", 2, "", "y"⟩, ⟨"f", 3, "", "z"⟩, ⟨"f", 3, "d", "w"⟩]⟩ := by cbv
  simp only [createPatch, hopt, hrejected, hplain, FileMap.isEmpty, Report.isValid,
    List.isEmpty_cons, Bool.false_eq_true, if_false]
  cbv

/-- When every edited file reads as its original, the patch made has no edits, and previewing it
gives the originals back. -/
theorem previewPatch_createPatch_of_unchanged (h : ∀ fe ∈ E.entries, O.get? fe.1 = some fe.2) :
    previewPatch O (createPatch O E) = O := by
  have hopt : (createOptimizedPatch O E).edits = [] := List.eq_nil_iff_forall_not_mem.2 fun e he => by
    obtain ⟨fe, hfe, o, hget, hne, -⟩ := mem_createOptimizedPatch.1 he
    rw [h fe hfe, Option.some_inj] at hget
    exact hne hget.symm
  have hfb : (createFallbackPatch O E).edits = [] := List.eq_nil_iff_forall_not_mem.2 fun e he => by
    obtain ⟨fe, hfe, ⟨hnone, -⟩ | ⟨o, hget, hne, -⟩⟩ := mem_createFallbackPatch.1 he
    · rw [h fe hfe] at hnone
      exact Option.some_ne_none _ hnone
    · rw [h fe hfe, Option.some_inj] at hget
      exact hne hget.symm
  have hempty : (createPatch O E).edits = [] := by
    unfold createPatch
    split
    · rfl
    · simp only
      split
      · exact hopt
      · exact hfb
  have hpempty : (createPatch O E).isEmpty = true := List.isEmpty_iff.2 hempty
  unfold previewPatch
  rw [if_pos hpempty]

/-- Swapping two lines, which is deleting the first line and appending it, does not come back:
the patch made inserts the second line at the first and deletes the second, and its preview
keeps the second line only. -/
theorem previewPatch_createPatch_swap :
    (previewPatch ⟨[("f", "a\nb\n")]⟩
      (createPatch ⟨[("f", "a\nb\n")]⟩ ⟨[("f", "b\na\n")]⟩)).get? "f" = some "b\n" := by
  cbv

end Files

end Linewise
