import Linewise.Proofs.Patch.Validity
/-! Which files a patch touches: the sorted set of the files its edits name. The plain patch
touches every changed file and every new file with a non-empty line, the optimized one leaves new
files out; where the optimized patch is accepted it touches a changed file exactly when the plain
one does, so the two differ exactly by the new files. -/
namespace Linewise

namespace Text

theorem mem_insertSorted {s x : String} : ∀ {l : List String}, x ∈ insertSorted s l ↔ x = s ∨ x ∈ l
  | [] => by simp [insertSorted]
  | t :: ts => by
    unfold insertSorted
    split
    · exact List.mem_cons
    · split
      · next heq =>
        rw [heq]
        constructor
        · exact .inr
        · rintro (rfl | h)
          · exact List.mem_cons_self
          · exact h
      · rw [List.mem_cons, mem_insertSorted, List.mem_cons, or_left_comm]

theorem pairwise_insertSorted {s : String} :
    ∀ {l : List String}, l.Pairwise (· < ·) → (insertSorted s l).Pairwise (· < ·)
  | [], _ => by simp [insertSorted]
  | t :: ts, h => by
    obtain ⟨ht, hts⟩ := List.pairwise_cons.1 h
    unfold insertSorted
    split
    · next hlt =>
      refine List.pairwise_cons.2 ⟨fun x hx => ?_, h⟩
      rcases List.mem_cons.1 hx with rfl | hx
      · exact hlt
      · exact lt_trans hlt (ht x hx)
    · split
      · exact h
      · next hnlt hne =>
        have hts' : t < s := lt_of_le_of_ne (not_lt.1 hnlt) (Ne.symm hne)
        refine List.pairwise_cons.2 ⟨fun x hx => ?_, pairwise_insertSorted hts⟩
        rcases mem_insertSorted.1 hx with rfl | hx
        · exact hts'
        · exact ht x hx

theorem mem_foldl_insertSorted {x : String} : ∀ (xs acc : List String),
    x ∈ xs.foldl (fun acc y => insertSorted y acc) acc ↔ x ∈ acc ∨ x ∈ xs
  | [], acc => by simp
  | y :: ys, acc => by
    rw [List.foldl_cons, mem_foldl_insertSorted ys, mem_insertSorted, List.mem_cons]
    constructor
    · rintro ((h | h) | h)
      · exact .inr (.inl h)
      · exact .inl h
      · exact .inr (.inr h)
    · rintro (h | h | h)
      · exact .inl (.inr h)
      · exact .inl (.inl h)
      · exact .inr h

theorem pairwise_foldl_insertSorted : ∀ (xs acc : List String), acc.Pairwise (· < ·) →
    (xs.foldl (fun acc y => insertSorted y acc) acc).Pairwise (· < ·)
  | [], _, h => h
  | y :: ys, acc, h => by
    rw [List.foldl_cons]
    exact pairwise_foldl_insertSorted ys _ (pairwise_insertSorted h)

theorem mem_sortedSet {x : String} {xs : List String} : x ∈ sortedSet xs ↔ x ∈ xs := by
  rw [sortedSet, mem_foldl_insertSorted]
  simp

theorem pairwise_sortedSet (xs : List String) : (sortedSet xs).Pairwise (· < ·) :=
  pairwise_foldl_insertSorted xs [] List.Pairwise.nil

theorem sortedSet_eq_iff {xs ys : List String} :
    sortedSet xs = sortedSet ys ↔ ∀ x, x ∈ xs ↔ x ∈ ys := by
  constructor
  · intro h x
    rw [← mem_sortedSet, h, mem_sortedSet]
  · intro h
    have hperm : (sortedSet xs).Perm (sortedSet ys) :=
      (List.perm_ext_iff_of_nodup ((pairwise_sortedSet xs).imp ne_of_lt)
        ((pairwise_sortedSet ys).imp ne_of_lt)).2 fun x => by rw [mem_sortedSet, mem_sortedSet, h]
    exact List.Perm.eq_of_pairwise (fun _ _ _ _ hab hba => absurd hab (lt_asymm hba))
      (pairwise_sortedSet xs) (pairwise_sortedSet ys) hperm

end Text

theorem mem_files {p : Patch} {f : String} : f ∈ p.files ↔ ∃ e ∈ p.edits, e.fileName = f := by
  rw [Patch.files, Text.mem_sortedSet, List.mem_map]

theorem files_eq_iff {p q : Patch} : p.files = q.files ↔ ∀ f, f ∈ p.files ↔ f ∈ q.files := by
  rw [Patch.files, Patch.files, Text.sortedSet_eq_iff]
  simp only [Text.mem_sortedSet]

theorem newFileEdits_ne_nil_iff {file content : String} :
    newFileEdits file content ≠ [] ↔ ∃ l ∈ Text.lines content, l ≠ "" := by
  unfold newFileEdits
  rw [ne_eq, List.map_eq_nil_iff, List.filter_eq_nil_iff]
  constructor
  · intro h
    by_contra hall
    apply h
    intro a ha hne
    exact hall ⟨a.1, List.fst_mem_of_mem_zipIdx ha, by simpa [String.isEmpty_iff] using hne⟩
  · rintro ⟨l, hl, hne⟩ hall
    rw [← List.zipIdx_map_fst 0 (Text.lines content)] at hl
    obtain ⟨a, ha, rfl⟩ := List.mem_map.1 hl
    exact hall a ha (by simpa [String.isEmpty_iff] using hne)

section Files

variable {O E : FileMap}

theorem mem_files_createOptimizedPatch {f : String} :
    f ∈ (createOptimizedPatch O E).files ↔ ∃ c, (f, c) ∈ E.entries ∧
      ∃ o, O.get? f = some o ∧ o ≠ c ∧ createOptimizedFileEdits f o c ≠ [] := by
  rw [mem_files]
  constructor
  · rintro ⟨e, he, rfl⟩
    obtain ⟨⟨f, c⟩, hfe, o, hget, hne, he'⟩ := mem_createOptimizedPatch.1 he
    rw [fileName_of_mem_createOptimizedFileEdits he']
    exact ⟨c, hfe, o, hget, hne, List.ne_nil_of_mem he'⟩
  · rintro ⟨c, hfe, o, hget, hne, hedits⟩
    obtain ⟨e, he⟩ := List.exists_mem_of_ne_nil _ hedits
    exact ⟨e, mem_createOptimizedPatch.2 ⟨(f, c), hfe, o, hget, hne, he⟩,
      fileName_of_mem_createOptimizedFileEdits he⟩

/-- The plain patch touches every new file with a non-empty line and every changed file with
plain edits. -/
theorem mem_files_createFallbackPatch {f : String} :
    f ∈ (createFallbackPatch O E).files ↔ ∃ c, (f, c) ∈ E.entries ∧
      ((O.get? f = none ∧ ∃ l ∈ Text.lines c, l ≠ "") ∨
        ∃ o, O.get? f = some o ∧ o ≠ c ∧ createFileEdits f o c ≠ []) := by
  rw [mem_files]
  constructor
  · rintro ⟨e, he, rfl⟩
    obtain ⟨⟨f, c⟩, hfe, ⟨hnone, he'⟩ | ⟨o, hget, hne, he'⟩⟩ := mem_createFallbackPatch.1 he
    · rw [fileName_of_mem_newFileEdits he']
      exact ⟨c, hfe, .inl ⟨hnone, newFileEdits_ne_nil_iff.1 (List.ne_nil_of_mem he')⟩⟩
    · rw [fileName_of_mem_createFileEdits he']
      exact ⟨c, hfe, .inr ⟨o, hget, hne, List.ne_nil_of_mem he'⟩⟩
  · rintro ⟨c, hfe, ⟨hnone, hline⟩ | ⟨o, hget, hne, hedits⟩⟩
    · obtain ⟨e, he⟩ := List.exists_mem_of_ne_nil _ (newFileEdits_ne_nil_iff.2 hline)
      exact ⟨e, mem_createFallbackPatch.2 ⟨(f, c), hfe, .inl ⟨hnone, he⟩⟩,
        fileName_of_mem_newFileEdits he⟩
    · obtain ⟨e, he⟩ := List.exists_mem_of_ne_nil _ hedits
      exact ⟨e, mem_createFallbackPatch.2 ⟨(f, c), hfe, .inr ⟨o, hget, hne, he⟩⟩,
        fileName_of_mem_createFileEdits he⟩

theorem sublist_createOptimizedPatch {f c o : String} (hfe : (f, c) ∈ E.entries)
    (hget : O.get? f = some o) (hne : o ≠ c) :
    List.Sublist (createOptimizedFileEdits f o c) (createOptimizedPatch O E).edits := by
  unfold createOptimizedPatch
  refine List.Sublist.trans ?_ (sublist_flatMap_of_mem hfe)
  simp [hget, hne]

/-- The patch made touches exactly the files the plain patch touches if and only if, when the
optimized patch is accepted, no file only in the edited version has a non-empty line. An
accepted optimized patch has no two edits of one key, and then it touches each changed file
exactly when the plain patch does; but it leaves new files out. -/
theorem createPatch_files_eq_iff (O E : FileMap) :
    (createPatch O E).files = (createFallbackPatch O E).files ↔
      ((validatePatch (createOptimizedPatch O E) O).isValid = true →
        ∀ fe ∈ E.entries, O.get? fe.1 = none → ∀ l ∈ Text.lines fe.2, l = "") := by
  unfold createPatch
  by_cases hE : E.isEmpty
  · have hentries : E.entries = [] := List.isEmpty_iff.1 hE
    simp [hE, hentries, createFallbackPatch, Patch.empty]
  · by_cases hv : (validatePatch (createOptimizedPatch O E) O).isValid = true
    · simp only [hE, hv, Bool.false_eq_true, if_false, if_true, true_implies]
      have hnd := conflictingKeys_eq_nil_iff.1 (isValid_validatePatch_iff.1 hv).2.2
      -- on a changed file the two patches agree
      have hsame : ∀ f c o, (f, c) ∈ E.entries → O.get? f = some o → o ≠ c →
          (createOptimizedFileEdits f o c ≠ [] ↔ createFileEdits f o c ≠ []) :=
        fun f c o hfe hget hne => ⟨fun h => createFileEdits_ne_nil_of_nodup h
          (hnd.sublist ((sublist_createOptimizedPatch hfe hget hne).map Edit.key)),
          createOptimizedFileEdits_ne_nil⟩
      rw [files_eq_iff]
      simp only [mem_files_createOptimizedPatch, mem_files_createFallbackPatch]
      constructor
      · intro h fe hfe hnone l hl
        by_contra hlne
        obtain ⟨c, -, o, hget, -⟩ := (h fe.1).2 ⟨fe.2, hfe, .inl ⟨hnone, l, hl, hlne⟩⟩
        rw [hnone] at hget
        cases hget
      · intro h f
        constructor
        · rintro ⟨c, hfe, o, hget, hne, hopt⟩
          exact ⟨c, hfe, .inr ⟨o, hget, hne, (hsame f c o hfe hget hne).1 hopt⟩⟩
        · rintro ⟨c, hfe, ⟨hnone, l, hl, hlne⟩ | ⟨o, hget, hne, hplain⟩⟩
          · exact absurd (h (f, c) hfe hnone l hl) hlne
          · exact ⟨c, hfe, o, hget, hne, (hsame f c o hfe hget hne).2 hplain⟩
    · simp [hE, hv]

/-- A changed file and a new one: the accepted optimized patch touches the changed file only,
while the plain patch also creates the new one. -/
theorem createPatch_leaves_out_new_file :
    (createPatch ⟨[("a", "x\n")]⟩ ⟨[("a", "y\n"), ("b", "new\n")]⟩).files = ["a"] ∧
      (createFallbackPatch ⟨[("a", "x\n")]⟩ ⟨[("a", "y\n"), ("b", "new\n")]⟩).files = ["a", "b"] := by
  constructor
  · cbv
  · cbv

end Files

end Linewise
