import Linewise.Proofs.Patch.Validity
/-! The validator's report as a list: the one issue of a patch without edits, or file by file in
order of first appearance the missing file or its claims past the end, then one issue of the keys
used twice. The validator gathers files and keys as it meets them, so its report is this list. -/
namespace Linewise

section Appearances

variable {α : Type} [BEq α] [LawfulBEq α]

theorem foldl_firstAppearances : ∀ (xs : List α) (acc : Array α),
    (xs.foldl (fun acc x => if acc.contains x then acc else acc.push x) acc).toList =
      acc.toList ++ (xs.filter fun x => !acc.contains x).eraseDups
  | [], acc => by simp
  | x :: xs, acc => by
    rw [List.foldl_cons, List.filter_cons]
    split
    · next hx =>
      rw [foldl_firstAppearances xs acc, if_neg (by simpa using hx)]
    · next hx =>
      -- `x` is new: it is pushed, and later copies of it are skipped from now on
      rw [foldl_firstAppearances xs (acc.push x), if_pos (by simpa using hx), List.eraseDups_cons,
        List.filter_filter, Array.toList_push, List.append_assoc, List.singleton_append]
      congr 4
      funext y
      rw [Array.contains_push, Bool.not_or, Bool.and_comm]

theorem firstAppearances_eq_eraseDups (xs : List α) : firstAppearances xs = xs.eraseDups := by
  rw [firstAppearances, foldl_firstAppearances]
  simp

end Appearances

section Report

variable (p : Patch) (O : FileMap)

/-- The issues of one file: missing, or each of its edits that claims a line at or past its end,
in patch order. -/
theorem fileIssues_eq (f : String) :
    fileIssues p O f = (O.get? f).elim [.fileNotFound f] fun c =>
      (p.edits.filter fun e => e.fileName = f ∧ Text.lineCount c ≤ e.lineNumber ∧
        e.lineContent ≠ "").map fun e => .lineOutOfBounds f e.lineNumber := by
  unfold fileIssues Patch.editsFor
  cases O.get? f with
  | none => rfl
  | some c =>
    simp only [Option.elim]
    rw [List.filterMap_filter, ← List.filterMap_eq_map', List.filterMap_filter]
    congr 1
    funext e
    by_cases hf : e.fileName = f <;> by_cases hn : Text.lineCount c ≤ e.lineNumber <;>
      by_cases hl : e.lineContent = "" <;> simp [hf, hn, hl]

theorem conflictingKeys_eq :
    conflictingKeys p = (p.edits.map Edit.key).eraseDups.filter fun k =>
      2 ≤ (p.edits.map Edit.key).count k := by
  rw [conflictingKeys, firstAppearances_eq_eraseDups]
  rfl

variable {p O}

theorem eq_fileNotFound_or_lineOutOfBounds {f : String} {i : Issue} (hi : i ∈ fileIssues p O f) :
    i = .fileNotFound f ∨ ∃ n, i = .lineOutOfBounds f n := by
  rw [fileIssues_eq] at hi
  cases hget : O.get? f with
  | none =>
    rw [hget] at hi
    exact .inl (List.mem_singleton.1 hi)
  | some c =>
    rw [hget] at hi
    obtain ⟨e, -, rfl⟩ := List.mem_map.1 hi
    exact .inr ⟨e.lineNumber, rfl⟩

theorem fileIssues_eq_nil_iff {f : String} :
    fileIssues p O f = [] ↔ O.contains f = true ∧ ∀ e ∈ p.edits, e.fileName = f →
      ∀ c, O.get? f = some c → e.lineContent ≠ "" → e.lineNumber < Text.lineCount c := by
  rw [fileIssues_eq]
  cases hget : O.get? f with
  | none => simp [FileMap.contains, hget]
  | some c =>
    simp only [Option.elim, List.map_eq_nil_iff, List.filter_eq_nil_iff, FileMap.contains, hget,
      Option.isSome_some, true_and, Option.some.injEq, decide_eq_true_eq]
    constructor
    · rintro h e he rfl _ rfl hl
      by_contra hge
      exact h e he ⟨rfl, Nat.le_of_not_lt hge, hl⟩
    · rintro h e he ⟨rfl, hge, hl⟩
      exact absurd (h e he rfl c rfl hl) (Nat.not_lt_of_le hge)

/-- A claim past the end is reported for each edit of a present file that claims a line at or
past its end, and for nothing else. -/
theorem lineOutOfBounds_mem_validatePatch_iff {f : String} {n : Nat} :
    .lineOutOfBounds f n ∈ (validatePatch p O).issues ↔ ∃ c, O.get? f = some c ∧
      ∃ e ∈ p.edits, e.fileName = f ∧ e.lineNumber = n ∧ Text.lineCount c ≤ n ∧
        e.lineContent ≠ "" := by
  unfold validatePatch
  by_cases hp : p.edits = []
  · have hp' : p.isEmpty = true := by simpa [Patch.isEmpty] using hp
    simp [hp', hp]
  · have hp' : p.isEmpty = false := by simpa [Patch.isEmpty] using hp
    simp only [hp', Bool.false_eq_true, if_false, List.mem_append, List.mem_flatMap,
      mem_firstAppearances, List.mem_map, fileIssues_eq]
    constructor
    · rintro (⟨f', -, hf'⟩ | hk)
      · cases hget : O.get? f' with
        | none => simp [hget] at hf'
        | some c =>
          simp only [hget, Option.elim, List.mem_map, List.mem_filter, decide_eq_true_eq,
            Issue.lineOutOfBounds.injEq] at hf'
          obtain ⟨e, ⟨he, rfl, hle, hl⟩, rfl, rfl⟩ := hf'
          exact ⟨c, hget, e, he, rfl, rfl, hle, hl⟩
      · split at hk <;> simp at hk
    · rintro ⟨c, hget, e, he, rfl, rfl, hle, hl⟩
      refine .inl ⟨e.fileName, ⟨e, he, rfl⟩, ?_⟩
      simp only [hget, Option.elim, List.mem_map, List.mem_filter, decide_eq_true_eq]
      exact ⟨e, ⟨he, rfl, hle, hl⟩, rfl⟩

end Report

/-- The validator's report is the documented list: for a patch without edits the one issue that
says so; otherwise, file by file in the order the files first appear, a missing file or each
edit claiming a line at or past its file's end in patch order, then one issue with the keys used
more than once, in the order they first appear, when there are any. So a patch is accepted
exactly when it has edits, names only present files, claims no line past the end and uses each
key once, and the keys reported in conflict are the repeated ones. -/
theorem validatePatch_issues_eq (p : Patch) (O : FileMap) :
    let keys := p.edits.map Edit.key
    let repeated := keys.eraseDups.filter fun k => 2 ≤ keys.count k
    (validatePatch p O).issues =
        (if p.edits = [] then [.emptyPatch]
        else ((p.edits.map Edit.fileName).eraseDups.flatMap fun f =>
            (O.get? f).elim [.fileNotFound f] fun c =>
              (p.edits.filter fun e => e.fileName = f ∧ Text.lineCount c ≤ e.lineNumber ∧
                e.lineContent ≠ "").map fun e => .lineOutOfBounds f e.lineNumber) ++
          (if repeated = [] then [] else [.conflictingEdits repeated])) ∧
      ((validatePatch p O).isValid = true ↔ p.edits ≠ [] ∧
        (∀ e ∈ p.edits, O.contains e.fileName = true) ∧
        (∀ e ∈ p.edits, ∀ c, O.get? e.fileName = some c → e.lineContent ≠ "" →
          e.lineNumber < Text.lineCount c) ∧ keys.Nodup) ∧
      (validatePatch p O).conflicts = repeated := by
  intro keys repeated
  have hkeys : conflictingKeys p = repeated := conflictingKeys_eq p
  refine ⟨?_, ?_, ?_⟩
  · unfold validatePatch
    by_cases hp : p.edits = []
    · simp [Patch.isEmpty, hp]
    · have hp' : p.isEmpty = false := by simpa [Patch.isEmpty] using hp
      simp only [hp', hp, Bool.false_eq_true, if_false, hkeys, firstAppearances_eq_eraseDups,
        List.isEmpty_iff]
      congr 1
      exact List.flatMap_congr fun f _ => fileIssues_eq p O f
  · rw [isValid_validatePatch_iff, conflictingKeys_eq_nil_iff]
    simp only [List.forall_mem_map, fileIssues_eq_nil_iff]
    constructor
    · rintro ⟨hp, hf, hk⟩
      exact ⟨hp, fun e he => (hf e he).1,
        fun e he c hc hl => (hf e he).2 e he rfl c hc hl, hk⟩
    · rintro ⟨hp, hc, hb, hk⟩
      exact ⟨hp, fun e he => ⟨hc e he, fun e' he' hname c hget hl =>
        hb e' he' c (hname ▸ hget) hl⟩, hk⟩
  · unfold validatePatch Report.conflicts
    by_cases hp : p.edits = []
    · have hrep : repeated = [] := by simp [repeated, keys, hp]
      simp [Patch.isEmpty, hp, hrep]
    · have hp' : p.isEmpty = false := by simpa [Patch.isEmpty] using hp
      simp only [hp', Bool.false_eq_true, if_false, hkeys, List.findSome?_append]
      -- the issues of the files name no keys, so the conflict issue is the only one found
      rw [List.findSome?_eq_none_iff.2 fun i hi => ?_, Option.none_or]
      · by_cases hrep : repeated = [] <;> simp [hrep]
      · obtain ⟨f, -, hf⟩ := List.mem_flatMap.1 hi
        rcases eq_fileNotFound_or_lineOutOfBounds hf with rfl | ⟨n, rfl⟩ <;> rfl

end Linewise
