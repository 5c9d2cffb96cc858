import Linewise.Proofs.Chunk.Placement
/-! What relocating one chunk does to the text. Anchored by its signature, the block from the
nearest header at or above the anchored line, ended by indentation, is exchanged line for line;
found by exact context or raw content, the first occurrence of a piece of text is exchanged, and
that piece may begin or end inside a line. -/
namespace Linewise

open Text Chunk Code

/-- `t` is `s` with the first occurrence of `needle` exchanged for `repl`. -/
def ReplacesFirst (s needle repl t : String) : Prop :=
  ∃ P S, s = P ++ needle ++ S ∧ t = P ++ repl ++ S ∧
    ∀ P' S', s = P' ++ needle ++ S' → P.length ≤ P'.length

theorem replaceFirst_replacesFirst {s needle : String} (repl : String) (hne : needle ≠ "")
    (hin : contains s needle = true) : ReplacesFirst s needle repl (replaceFirst s needle repl) := by
  classical
  have hex : ∃ i, needle.toList <+: s.toList.drop i := contains_iff.1 hin
  have hat := Nat.find_spec hex
  have hfirst : ∀ r < Nat.find hex, ¬ needle.toList <+: s.toList.drop r :=
    fun r hr => Nat.find_min hex hr
  have hsplit := drop_eq_append_of_prefix hat
  have hq : Nat.find hex ≤ s.toList.length := by
    by_contra hgt
    rw [List.drop_eq_nil_of_le (by omega)] at hsplit
    exact hne (String.toList_inj.1 (by simpa using (List.append_eq_nil_iff.1 hsplit.symm).1))
  refine ⟨String.ofList (s.toList.take (Nat.find hex)),
    String.ofList (s.toList.drop (Nat.find hex + needle.length)), ?_, ?_, ?_⟩
  · apply String.toList_inj.1
    simp only [String.toList_append, String.toList_ofList, List.append_assoc, ← String.length_toList,
      ← hsplit, List.take_append_drop]
  · rw [replaceFirst_eq_splice hne hat hfirst, splice]
    apply String.toList_inj.1
    simp [String.toList_append, String.toList_ofList]
  · intro P' S' hs
    have hpre : needle.toList <+: s.toList.drop P'.toList.length := by
      rw [hs]
      simp [String.toList_append, List.append_assoc]
    have hle := Nat.find_min' hex hpre
    simp only [String.length_ofList, List.length_take, String.length_toList] at hle ⊢
    omega

/-! ## Anchored blocks -/

def opensBlock (ls : List String) (j : Nat) : Bool :=
  (headerKeyword blockKeywords (ls[j]?.getD "")).isSome

theorem not_of_gt_of_find?_eq_some {p : Nat → Bool} :
    ∀ {xs : List Nat} {b : Nat}, xs.Pairwise (· > ·) → xs.find? p = some b →
      ∀ j ∈ xs, b < j → p j = false
  | [], _, _, h, _, _, _ => by simp at h
  | x :: xs, b, hs, h, j, hj, hbj => by
    rw [List.pairwise_cons] at hs
    rw [List.find?_cons] at h
    cases hx : p x
    · rw [hx] at h
      rcases List.mem_cons.1 hj with rfl | hj
      · exact hx
      · exact not_of_gt_of_find?_eq_some hs.2 h j hj hbj
    · rw [hx, Option.some_inj] at h
      subst h
      rcases List.mem_cons.1 hj with rfl | hj
      · omega
      · exact absurd (hs.1 j hj) (by omega)

/-- The block anchored at line `i` starts at the nearest line at or above `i` that opens a
function or class, or at `i` itself when none does. -/
theorem enclosingBlockStart_spec {ls : List String} {i : Nat} (hi : i < ls.length) :
    enclosingBlockStart ls i ≤ i ∧
      ((opensBlock ls (enclosingBlockStart ls i) = true ∧
          ∀ j, enclosingBlockStart ls i < j → j ≤ i → opensBlock ls j = false) ∨
        (enclosingBlockStart ls i = i ∧ ∀ j ≤ i, opensBlock ls j = false)) := by
  have hne : ls.isEmpty = false := List.isEmpty_eq_false_iff.2 (List.ne_nil_of_length_pos (by omega))
  have htop : min i (ls.length - 1) = i := by omega
  have hsorted : ((List.range (i + 1)).reverse).Pairwise (· > ·) :=
    List.pairwise_reverse.2 (List.pairwise_lt_range.imp id)
  unfold enclosingBlockStart
  rw [hne, if_neg Bool.false_ne_true, htop]
  dsimp only
  split
  · next b hb =>
    have hmem := List.mem_of_find?_eq_some hb
    rw [List.mem_reverse, List.mem_range] at hmem
    refine ⟨by omega, .inl ⟨List.find?_some hb, fun j hbj hji => ?_⟩⟩
    exact not_of_gt_of_find?_eq_some hsorted hb j
      (List.mem_reverse.2 (List.mem_range.2 (by omega))) hbj
  · next hnone =>
    refine ⟨le_refl i, .inr ⟨rfl, fun j hj => ?_⟩⟩
    have := List.find?_eq_none.1 hnone j (List.mem_reverse.2 (List.mem_range.2 (by omega)))
    simpa [opensBlock] using this

theorem blockEndByIndentation_bounds {ls : List String} {s : Nat} (hs : s < ls.length) :
    s ≤ blockEndByIndentation ls s ∧ blockEndByIndentation ls s < ls.length := by
  unfold blockEndByIndentation
  rw [List.getElem?_eq_getElem hs]
  dsimp only
  have hlen := (List.takeWhile_sublist (l := ls.drop (s + 1))
    (fun l => isBlankText l || indentation (ls[s]) < indentation l)).length_le
  rw [List.length_drop] at hlen
  omega

theorem anchorLine_lt {ls : List String} {c : CodeChunk} {k i : Nat}
    (h : anchorLine ls c k = some i) : i < ls.length :=
  List.mem_range.1 (List.mem_of_find?_eq_some h)

theorem lines_joinLines_append_newline {ls : List String}
    (hls : ∀ l ∈ ls, '\n' ∉ l.toList ∧ '\r' ∉ l.toList) (hne : ls ≠ []) :
    lines (joinLines ls ++ "\n") = ls := by
  have hjoin : joinLines ls ++ "\n" = joinLines (ls ++ [""]) := by
    apply String.toList_inj.1
    rw [String.toList_append, toList_joinLines, toList_joinLines, List.map_append,
      intercalate_append (by simpa using hne) (by simp)]
    simp
  have hls' : ∀ l ∈ ls ++ [""], '\n' ∉ l.toList ∧ '\r' ∉ l.toList := by
    intro l hl
    rcases List.mem_append.1 hl with hl | hl
    · exact hls l hl
    · simp [List.mem_singleton.1 hl]
  rw [hjoin, lines_joinLines hls']
  simp

theorem exists_nonempty_mem_lines {f : String} (hf : '\r' ∉ f.toList) (hne : f ≠ "")
    (hend : endsWithNewline f = false) : ∃ l ∈ lines f, l ≠ "" := by
  obtain ⟨init, last, hsplit⟩ := (List.eq_nil_or_concat (pieces f)).resolve_left
    (List.splitOn_ne_nil _ _)
  rw [List.concat_eq_append] at hsplit
  have hlast : last ≠ [] := by
    rintro rfl
    have htl := toList_eq_intercalate_pieces f
    rw [hsplit] at htl
    rcases eq_or_ne init [] with rfl | hinit
    · exact hne (String.toList_inj.1 (by simpa using htl))
    · rw [intercalate_append hinit (by simp)] at htl
      simp [endsWithNewline, htl] at hend
  have hchars : lineChars f.toList = pieces f := by
    rw [lineChars_eq hf, hsplit, List.getLast?_concat]
    simp [hlast]
  refine ⟨String.ofList last, ?_, fun h => hlast ?_⟩
  · simp [lines, hchars, hsplit]
  · simpa using congrArg String.toList h

section Anchor

variable {T f : String} {c : CodeChunk} {k : Nat}

/-- By signature anchor, the lines of the block starting at the nearest header at or above the
anchored line and ended by indentation are exchanged for the lines of the new text. -/
theorem trySignatureAnchor_lines (hT : '\r' ∉ T.toList) (hf : '\r' ∉ f.toList)
    (hTend : T = "" ∨ endsWithNewline T = true) (hfne : f ≠ "") (hfend : endsWithNewline f = false)
    {t : String} {bs be : Nat} (h : trySignatureAnchor T c f k = some (t, bs, be)) :
    ∃ i, anchorLine (lines T) c k = some i ∧ bs = enclosingBlockStart (lines T) i ∧
      be = blockEndByIndentation (lines T) bs ∧
      lines t = (lines T).take bs ++ lines f ++ (lines T).drop (be + 1) := by
  unfold trySignatureAnchor at h
  split at h
  · simp at h
  obtain ⟨i, hi, heq⟩ := Option.map_eq_some_iff.1 h
  simp only [Prod.mk.injEq] at heq
  obtain ⟨ht, rfl, rfl⟩ := heq
  refine ⟨i, hi, rfl, rfl, ?_⟩
  rw [← ht]
  have hlen := anchorLine_lt hi
  have hTne : T ≠ "" := by
    rintro rfl
    simp [lines_empty] at hlen
  have hends : endsWithNewline T = true := hTend.resolve_left hTne
  obtain ⟨l, hl, hlne⟩ := exists_nonempty_mem_lines hf hfne hfend
  have hmem : l ∈ (lines T).take (enclosingBlockStart (lines T) i) ++ lines f ++
      (lines T).drop (blockEndByIndentation (lines T) (enclosingBlockStart (lines T) i) + 1) :=
    List.mem_append_left _ (List.mem_append_right _ hl)
  have hjoined := joinLines_ne_empty hmem hlne
  rw [hends, Bool.true_and, if_pos (by simpa using hjoined)]
  apply lines_joinLines_append_newline _ (List.ne_nil_of_mem hmem)
  intro l' hl'
  rcases List.mem_append.1 hl' with hl' | hl'
  · rcases List.mem_append.1 hl' with hl' | hl'
    · exact line_endings_not_mem hT (List.mem_of_mem_take hl')
    · exact line_endings_not_mem hf hl'
  · exact line_endings_not_mem hT (List.mem_of_mem_drop hl')

end Anchor

/-! ## Relocating a chunk -/

section Relocate

variable {T f : String} {c : CodeChunk} {opts : ChunkOptions}

theorem tryExactContext_replacesFirst {t : String} (h : tryExactContext T c c.coreText f = some t) :
    ReplacesFirst T (exactPattern c) (joinPresent [c.contextBefore, f, c.contextAfter]) t := by
  unfold tryExactContext at h
  dsimp only at h
  split at h
  · simp at h
  · next hfound =>
    obtain ⟨hne, hin⟩ : (exactPattern c).isEmpty = false ∧ contains T (exactPattern c) = true := by
      simpa [exactPattern] using hfound
    rw [← Option.some_inj.1 h]
    exact replaceFirst_replacesFirst _ (String.isEmpty_eq_false_iff.1 hne) hin

/-- Relocating a chunk rewrites the text in one of three ways. By exact context, the first
occurrence of the chunk's pattern is exchanged for the new text between the same contexts. By
signature anchor, the lines of a block are exchanged for the lines of the new text; the block
starts at the nearest function or class header at or above the anchored line (the first line
holding the signature with a saved context nearby), or at that line when no header is above it.
By raw content, the first occurrence of the chunk's target text is exchanged for the new text. -/
theorem relocateChunk_rewrites {r : Relocation} (hT : '\r' ∉ T.toList) (hf : '\r' ∉ f.toList)
    (hTend : T = "" ∨ endsWithNewline T = true) (hfne : f ≠ "") (hfend : endsWithNewline f = false)
    (h : relocateChunk T c f opts = .ok r) :
    (r.strategy = .exactContext →
      ReplacesFirst T (exactPattern c) (joinPresent [c.contextBefore, f, c.contextAfter])
        r.newContent) ∧
    (∀ bs be, r.strategy = .signatureAnchor bs be →
      bs ≤ be ∧ be < (lines T).length ∧
      lines r.newContent = (lines T).take bs ++ lines f ++ (lines T).drop (be + 1) ∧
      ∃ i, anchorLine (lines T) c opts.contextLines = some i ∧ bs ≤ i ∧
        ((opensBlock (lines T) bs = true ∧ ∀ j, bs < j → j ≤ i → opensBlock (lines T) j = false) ∨
          (bs = i ∧ ∀ j ≤ i, opensBlock (lines T) j = false))) ∧
    (r.strategy = .rawContent → ReplacesFirst T c.coreText f r.newContent) := by
  unfold relocateChunk at h
  dsimp only at h
  split at h
  · next t hexact =>
    rw [← Except.ok.inj h]
    refine ⟨fun _ => tryExactContext_replacesFirst hexact, fun bs be hs => ?_, fun hs => ?_⟩
    · cases hs
    · cases hs
  · split at h
    · next t bs be hanchor =>
      rw [← Except.ok.inj h]
      refine ⟨fun hs => ?_, fun bs' be' hs => ?_, fun hs => ?_⟩
      · cases hs
      · obtain ⟨rfl, rfl⟩ : bs = bs' ∧ be = be' := by simpa using hs
        obtain ⟨i, hi, rfl, rfl, hlines⟩ := trySignatureAnchor_lines hT hf hTend hfne hfend hanchor
        have hlt := anchorLine_lt hi
        obtain ⟨hle, hstart⟩ := enclosingBlockStart_spec hlt
        obtain ⟨hbe, hend⟩ := blockEndByIndentation_bounds (lt_of_le_of_lt hle hlt)
        exact ⟨hbe, hend, hlines, i, hi, hle, hstart⟩
      · cases hs
    · split at h
      · next hraw =>
        rw [← Except.ok.inj h]
        obtain ⟨hne, hin⟩ : c.coreText.isEmpty = false ∧ contains T c.coreText = true := by
          simpa using hraw
        refine ⟨fun hs => ?_, fun bs be hs => ?_, fun _ =>
          replaceFirst_replacesFirst _ (String.isEmpty_eq_false_iff.1 hne) hin⟩
        · cases hs
        · cases hs
      · cases h

/-- Relocating a chunk by its signature into a text whose function `g` ends before the anchored
line: the block replaced is `g`'s, the two lines above the anchored one. -/
theorem relocateChunk_rewrites_anchored :
    ('\r' ∉ "def g():\n    pass\nx = 1\n".toList ∧ '\r' ∉ "y = 2".toList ∧
      endsWithNewline "def g():\n    pass\nx = 1\n" = true ∧ endsWithNewline "y = 2" = false ∧
      relocateChunk "def g():\n    pass\nx = 1\n" ⟨0, 0, "zzz", "x = 1", "p", "", "", 0, 0⟩ "y = 2"
        {} = .ok ⟨"y = 2\nx = 1\n", .signatureAnchor 0 1⟩) ∧
    (Strategy.signatureAnchor 0 1 = .exactContext →
      ReplacesFirst "def g():\n    pass\nx = 1\n" (exactPattern ⟨0, 0, "zzz", "x = 1", "p", "", "", 0, 0⟩)
        (joinPresent ["", "y = 2", ""]) "y = 2\nx = 1\n") ∧
    (∀ bs be, Strategy.signatureAnchor 0 1 = .signatureAnchor bs be →
      bs ≤ be ∧ be < (lines "def g():\n    pass\nx = 1\n").length ∧
      lines "y = 2\nx = 1\n" = (lines "def g():\n    pass\nx = 1\n").take bs ++ lines "y = 2" ++
        (lines "def g():\n    pass\nx = 1\n").drop (be + 1) ∧
      ∃ i, anchorLine (lines "def g():\n    pass\nx = 1\n") ⟨0, 0, "zzz", "x = 1", "p", "", "", 0, 0⟩ 10 =
          some i ∧ bs ≤ i ∧
        ((opensBlock (lines "def g():\n    pass\nx = 1\n") bs = true ∧
            ∀ j, bs < j → j ≤ i → opensBlock (lines "def g():\n    pass\nx = 1\n") j = false) ∨
          (bs = i ∧ ∀ j ≤ i, opensBlock (lines "def g():\n    pass\nx = 1\n") j = false))) ∧
    (Strategy.signatureAnchor 0 1 = .rawContent →
      ReplacesFirst "def g():\n    pass\nx = 1\n"
        (CodeChunk.coreText ⟨0, 0, "zzz", "x = 1", "p", "", "", 0, 0⟩) "y = 2" "y = 2\nx = 1\n") := by
  have hrun : relocateChunk "def g():\n    pass\nx = 1\n" ⟨0, 0, "zzz", "x = 1", "p", "", "", 0, 0⟩
      "y = 2" {} = .ok ⟨"y = 2\nx = 1\n", .signatureAnchor 0 1⟩ := by decide
  exact ⟨⟨by decide, by decide, by decide, by decide, hrun⟩,
    relocateChunk_rewrites (by decide) (by decide) (.inr (by decide)) (by decide) (by decide) hrun⟩

/-- Relocation need not rewrite whole lines, and the anchored line need not lie in the block
replaced. Found by exact context or by raw content, a target `x` is exchanged inside the line
`yx`; anchored on `x = 1`, the block replaced is that of the function `g` above it, which ends
on the line before. -/
theorem relocateChunk_not_whole_lines :
    relocateChunk "yx\n" ⟨0, 0, "x", "x", "p", "", "", 0, 0⟩ "z" {} = .ok ⟨"yz\n", .exactContext⟩ ∧
    relocateChunk "yx\n" ⟨0, 0, "x", "", "p", "q", "", 0, 0⟩ "z" {} = .ok ⟨"yz\n", .rawContent⟩ ∧
    (¬ ∃ a b, a ≤ b ∧ b ≤ (lines "yx\n").length ∧
      lines "yz\n" = (lines "yx\n").take a ++ lines "z" ++ (lines "yx\n").drop b) ∧
    relocateChunk "def g():\n    pass\nx = 1\n" ⟨0, 0, "zzz", "x = 1", "p", "", "", 0, 0⟩ "y = 2" {} =
      .ok ⟨"y = 2\nx = 1\n", .signatureAnchor 0 1⟩ ∧
    anchorLine (lines "def g():\n    pass\nx = 1\n") ⟨0, 0, "zzz", "x = 1", "p", "", "", 0, 0⟩ 10 =
      some 2 ∧ ¬ 2 ≤ 1 := by
  have hT : lines "yx\n" = ["yx"] := by decide
  have hf : lines "z" = ["z"] := by decide
  have hr : lines "yz\n" = ["yz"] := by decide
  refine ⟨by decide, by decide, ?_, by decide, by decide, by decide⟩
  rintro ⟨a, b, hab, hb, h⟩
  rw [hT, hf, hr] at h
  rw [hT, List.length_singleton] at hb
  interval_cases b <;> interval_cases a <;> simp at h

end Relocate

end Linewise
