import Linewise.Chunk.Extract
import Linewise.Chunk.Relocate
import Linewise.Proofs.Text.Layout
/-! Where the chunks of one extraction lie in its text. The targets are more than the context
distance apart, and the exact-context pattern of a chunk with a signature stands in the text from
the start of its context and ends before any line past the chunk; so putting its own target text
back, found by exact context, leaves the text as it was. -/
namespace Linewise.Chunk

open Text

/-! ## Merged ranges -/

theorem pairwise_widen_head {cur r : Nat × Nat} {rs : List (Nat × Nat)} (w : Nat)
    (hs : (cur :: r :: rs).Pairwise (fun a b => a.1 ≤ b.1)) :
    ((cur.1, w) :: rs).Pairwise (fun a b => a.1 ≤ b.1) := by
  obtain ⟨hcur, hr⟩ := List.pairwise_cons.1 hs
  exact List.pairwise_cons.2 ⟨fun a ha => hcur a (List.mem_cons_of_mem _ ha), hr.tail⟩

theorem le_fst_of_mem_mergeSorted (d : Nat) (rs : List (Nat × Nat)) :
    ∀ cur : Nat × Nat, (cur :: rs).Pairwise (fun a b => a.1 ≤ b.1) →
      ∀ b ∈ mergeSorted d cur rs, cur.1 ≤ b.1 := by
  induction rs with
  | nil =>
    intro cur _ b hb
    simp only [mergeSorted, List.mem_singleton] at hb
    rw [hb]
  | cons r rs ih =>
    intro cur hs b hb
    obtain ⟨hcur, hr⟩ := List.pairwise_cons.1 hs
    rw [mergeSorted] at hb
    split at hb
    · exact ih (cur.1, max cur.2 r.2) (pairwise_widen_head _ hs) b hb
    · rcases List.mem_cons.1 hb with rfl | hb
      · exact le_refl _
      · exact le_trans (hcur r List.mem_cons_self) (ih r hr b hb)

theorem pairwise_mergeSorted (d : Nat) (rs : List (Nat × Nat)) :
    ∀ cur : Nat × Nat, (cur :: rs).Pairwise (fun a b => a.1 ≤ b.1) →
      (mergeSorted d cur rs).Pairwise (fun a b => a.2 + d < b.1) := by
  induction rs with
  | nil => intro cur _; simp [mergeSorted]
  | cons r rs ih =>
    intro cur hs
    obtain ⟨hcur, hr⟩ := List.pairwise_cons.1 hs
    rw [mergeSorted]
    split
    · exact ih (cur.1, max cur.2 r.2) (pairwise_widen_head _ hs)
    · next hfar =>
      refine List.pairwise_cons.2 ⟨fun b hb => ?_, ih r hr⟩
      have hb' := le_fst_of_mem_mergeSorted d rs r hr b hb
      omega

theorem pairwise_sortRanges (rs : List (Nat × Nat)) :
    (sortRanges rs).Pairwise (fun a b => a.1 ≤ b.1) := by
  have h := @List.pairwise_mergeSort _
    (fun a b : Nat × Nat => a.1 < b.1 || (a.1 == b.1 && a.2 ≤ b.2))
    (by
      intro a b c hab hbc
      simp only [Bool.or_eq_true, Bool.and_eq_true, decide_eq_true_eq, beq_iff_eq] at hab hbc ⊢
      omega)
    (by
      intro a b
      simp only [Bool.or_eq_true, Bool.and_eq_true, decide_eq_true_eq, beq_iff_eq]
      omega) rs
  refine h.imp fun hab => ?_
  simp only [Bool.or_eq_true, Bool.and_eq_true, decide_eq_true_eq, beq_iff_eq] at hab
  omega

theorem pairwise_mergeRanges (rs : List (Nat × Nat)) (d : Nat) :
    (mergeRanges rs d).Pairwise (fun a b => a.2 + d < b.1) := by
  have hs := pairwise_sortRanges rs
  unfold mergeRanges
  split
  · exact List.Pairwise.nil
  · next r rest heq =>
    rw [heq] at hs
    exact pairwise_mergeSorted d rest r hs

/-! ## Built chunks -/

section Built

variable {ls : List String} {s e d : Nat} {path : String} {c : CodeChunk}

theorem buildChunk_fields (h : buildChunk ls s e path d = some c) :
    s < ls.length ∧ c.targetStart = s ∧ c.targetEnd = min e (ls.length - 1) ∧
      c.startLine = s - d ∧ c.endLine = min (c.targetEnd + d) (ls.length - 1) ∧
      c.content = joinLines (slice ls c.startLine (c.endLine + 1)) ∧
      c.contextBefore = joinLines (slice ls c.startLine s) ∧
      c.contextAfter = (if c.targetEnd < c.endLine then
        joinLines (slice ls (c.targetEnd + 1) (c.endLine + 1)) else "") ∧
      c.signature = (((slice ls s (c.targetEnd + 1)).map trim).find? (!·.isEmpty)).getD "" := by
  unfold buildChunk at h
  split at h
  · simp at h
  · next hs =>
    simp only [Option.some.injEq] at h
    subst h
    simp only [Bool.or_eq_true, List.isEmpty_iff, decide_eq_true_eq, not_or, not_le] at hs
    exact ⟨hs.2, rfl, rfl, rfl, rfl, rfl, rfl, rfl, rfl⟩

theorem exists_line_of_signature (h : buildChunk ls s e path d = some c)
    (hsig : c.signature ≠ "") : ∃ l ∈ slice ls s (c.targetEnd + 1), l ≠ "" := by
  obtain ⟨-, -, -, -, -, -, -, -, hdef⟩ := buildChunk_fields h
  rw [hdef] at hsig
  cases hfind : ((slice ls s (c.targetEnd + 1)).map trim).find? (!·.isEmpty) with
  | none => simp [hfind] at hsig
  | some t =>
    obtain ⟨l, hl, rfl⟩ := List.mem_map.1 (List.mem_of_find?_eq_some hfind)
    refine ⟨l, hl, ?_⟩
    rintro rfl
    have htrim := List.find?_some hfind
    simp [trim, dropBlanks, dropTrailingBlanks] at htrim

theorem targetStart_le_targetEnd (h : buildChunk ls s e path d = some c)
    (hsig : c.signature ≠ "") : c.targetStart ≤ c.targetEnd := by
  obtain ⟨l, hl, -⟩ := exists_line_of_signature h hsig
  obtain ⟨-, hts, -⟩ := buildChunk_fields h
  by_contra hlt
  rw [slice_eq_nil (by omega)] at hl
  exact List.not_mem_nil hl

theorem startLine_lt_of_contextBefore (h : buildChunk ls s e path d = some c)
    (hx : c.contextBefore ≠ "") : c.startLine < s := by
  obtain ⟨-, -, -, -, -, -, hcb, -⟩ := buildChunk_fields h
  by_contra hle
  rw [hcb, slice_eq_nil (by omega)] at hx
  exact hx rfl

theorem targetEnd_lt_of_contextAfter (h : buildChunk ls s e path d = some c)
    (hy : c.contextAfter ≠ "") : c.targetEnd < c.endLine := by
  obtain ⟨-, -, -, -, -, -, -, hca, -⟩ := buildChunk_fields h
  by_contra hge
  rw [hca, if_neg hge] at hy
  exact hy rfl

end Built

/-! ## The exact-context pattern -/

def leadOf (x : String) : String := if x.isEmpty then "" else x ++ "\n"

def trailOf (y : String) : String := if y.isEmpty then "" else "\n" ++ y

theorem leadOf_of_ne {x : String} (hx : x ≠ "") : leadOf x = x ++ "\n" := by
  rw [leadOf, String.isEmpty_eq_false_iff.2 hx]
  rfl

theorem trailOf_of_ne {y : String} (hy : y ≠ "") : trailOf y = "\n" ++ y := by
  rw [trailOf, String.isEmpty_eq_false_iff.2 hy]
  rfl

/-- A chunk's exact-context pattern. -/
def exactPattern (c : CodeChunk) : String := joinPresent [c.contextBefore, c.coreText, c.contextAfter]

/-- Where a chunk's exact-context pattern starts in `S`: before the chunk's target, by the
context before and its newline. -/
def patternStart (S : String) (c : CodeChunk) : Nat :=
  lineStart S c.targetStart - (leadOf c.contextBefore).length

def patternEnd (S : String) (c : CodeChunk) : Nat := patternStart S c + (exactPattern c).length

theorem joinPresent_around (x m y : String) (hm : m ≠ "") :
    joinPresent [x, m, y] = leadOf x ++ m ++ trailOf y := by
  have hm' : m.isEmpty = false := String.isEmpty_eq_false_iff.2 hm
  unfold joinPresent leadOf trailOf
  cases hx : x.isEmpty <;> cases hy : y.isEmpty <;>
    simp [List.filter, hx, hy, hm', joinLines, String.intercalate_cons_cons, String.append_assoc]

theorem exactPattern_ne_empty {c : CodeChunk} (hcore : c.coreText ≠ "") : exactPattern c ≠ "" := by
  rw [exactPattern, joinPresent_around _ _ _ hcore]
  intro hempty
  have := congrArg String.length hempty
  simp only [String.length_append, String.length_empty] at this
  exact hcore (String.length_eq_zero_iff.1 (by omega))

section Layout

variable {S : String} {s e d : Nat} {path : String} {c : CodeChunk}

theorem coreText_lines (hS : '\r' ∉ S.toList) (h : buildChunk (lines S) s e path d = some c)
    (hsig : c.signature ≠ "") :
    ∃ k, s < k ∧ k ≤ c.targetEnd + 1 ∧ (c.targetEnd < c.endLine → k = c.targetEnd + 1) ∧
      c.coreText = joinLines (slice (lines S) s k) ∧ ∃ l ∈ slice (lines S) s k, l ≠ "" := by
  obtain ⟨hs, hts, hte, hsl, hel, hcontent, -, -, -⟩ := buildChunk_fields h
  obtain ⟨l, hl, hlne⟩ := exists_line_of_signature h hsig
  have hste := targetStart_le_targetEnd h hsig
  -- the content read back as lines loses its last line when that one is empty
  set last := if (lines S)[c.endLine]? = some "" then c.endLine else c.endLine + 1 with hlast
  have hread : lines c.content = slice (lines S) c.startLine last := by
    rw [hcontent, lines_joinLines_slice hS (by omega) (by omega), Nat.add_sub_cancel]
  have hlast_le : c.endLine ≤ last ∧ last ≤ c.endLine + 1 := by
    rw [hlast]
    split <;> omega
  set k := min (c.targetEnd + 1) last with hk
  have hl' : l ∈ slice (lines S) s k := by
    by_cases hkt : k = c.targetEnd + 1
    · rwa [hkt]
    · -- only the last line of the text, empty, is cut from the target
      have hz : (lines S)[c.endLine]? = some "" := by
        by_contra hz
        simp only [hlast, hz, if_false] at hk
        omega
      have hte' : c.targetEnd = c.endLine := by simp only [hlast, hz, if_true] at hk; omega
      rw [slice_add_one (by omega) (by omega)] at hl
      rcases List.mem_append.1 hl with hl | hl
      · rwa [show k = c.targetEnd by simp only [hlast, hz, if_true] at hk; omega]
      · rw [List.mem_singleton, ← Option.some_inj, ← List.getElem?_eq_getElem, hte', hz,
          Option.some_inj] at hl
        exact absurd hl hlne
  have hsk : s < k := by
    by_contra hle
    rw [slice_eq_nil (by omega)] at hl'
    exact List.not_mem_nil hl'
  refine ⟨k, hsk, by omega, fun hlt => ?_, ?_, l, hl', hlne⟩
  · simp only [hk, hlast]
    split <;> omega
  · unfold CodeChunk.coreText
    simp only
    rw [hread, length_slice, if_neg (by omega), slice_slice]
    congr 2 <;> omega

theorem coreText_ne_empty (hS : '\r' ∉ S.toList) (h : buildChunk (lines S) s e path d = some c)
    (hsig : c.signature ≠ "") : c.coreText ≠ "" := by
  obtain ⟨k, -, -, -, hcore, l, hl, hlne⟩ := coreText_lines hS h hsig
  rw [hcore]
  exact joinLines_ne_empty hl hlne

theorem coreText_prefix (hS : '\r' ∉ S.toList) (h : buildChunk (lines S) s e path d = some c)
    (hsig : c.signature ≠ "") :
    c.coreText.toList <+: S.toList.drop (lineStart S c.targetStart) := by
  obtain ⟨k, hsk, hk, -, hcore, -⟩ := coreText_lines hS h hsig
  obtain ⟨hs, hts, hte, -⟩ := buildChunk_fields h
  rw [hcore, hts]
  exact joinLines_slice_prefix hS hsk (by omega)

theorem lead_before (hS : '\r' ∉ S.toList) (h : buildChunk (lines S) s e path d = some c) :
    ∃ q, q + (leadOf c.contextBefore).length = lineStart S c.targetStart ∧
      S.toList.drop q =
        (leadOf c.contextBefore).toList ++ S.toList.drop (lineStart S c.targetStart) := by
  obtain ⟨hs, hts, -, -, -, -, hcb, -⟩ := buildChunk_fields h
  by_cases hx : c.contextBefore = ""
  · exact ⟨lineStart S c.targetStart, by simp [leadOf, hx], by simp [leadOf, hx]⟩
  · have hlt := startLine_lt_of_contextBefore h hx
    have hlen := lineStart_add_length hS hlt hs.le
    rw [← hcb] at hlen
    refine ⟨lineStart S c.startLine, ?_, ?_⟩
    · rw [leadOf_of_ne hx, String.length_append, hts]
      simp only [show "\n".length = 1 from rfl]
      omega
    · rw [drop_lineStart_eq hS hlt hs, ← hcb, hts, leadOf_of_ne hx]
      simp [String.toList_append]

theorem trail_after (hS : '\r' ∉ S.toList) (h : buildChunk (lines S) s e path d = some c)
    (hsig : c.signature ≠ "") :
    (trailOf c.contextAfter).toList <+:
      S.toList.drop (lineStart S c.targetStart + c.coreText.length) := by
  obtain ⟨hs, hts, hte, -, hel, -, -, hca, -⟩ := buildChunk_fields h
  by_cases hy : c.contextAfter = ""
  · simp [trailOf, hy]
  · have hlt := targetEnd_lt_of_contextAfter h hy
    obtain ⟨k, hsk, -, hkt, hcore, -⟩ := coreText_lines hS h hsig
    rw [hkt hlt] at hcore hsk
    rw [hts, ← String.length_toList, hcore, ← List.drop_drop,
      drop_lineStart_eq hS hsk (show c.targetEnd + 1 < (lines S).length by omega), List.drop_left,
      trailOf_of_ne hy, String.toList_append, hca, if_pos hlt]
    exact List.cons_prefix_cons.2 ⟨rfl, joinLines_slice_prefix hS (by omega) (by omega)⟩

theorem trail_end_lt (hS : '\r' ∉ S.toList) (h : buildChunk (lines S) s e path d = some c)
    (hsig : c.signature ≠ "") {k : Nat} (hk : c.endLine < k) (hkn : k ≤ (lines S).length) :
    lineStart S c.targetStart + c.coreText.length + (trailOf c.contextAfter).length <
      lineStart S k := by
  obtain ⟨hs, hts, hte, -, hel, -, -, hca, -⟩ := buildChunk_fields h
  obtain ⟨j, hsj, hj, hjt, hcore, -⟩ := coreText_lines hS h hsig
  have hcore_end := lineStart_add_length hS hsj (by omega)
  rw [← hcore, ← hts] at hcore_end
  by_cases hy : c.contextAfter = ""
  · have hmono := lineStart_mono S (show j ≤ k by omega)
    have htrail : (trailOf c.contextAfter).length = 0 := by simp [trailOf, hy]
    omega
  · have hlt := targetEnd_lt_of_contextAfter h hy
    have hafter := lineStart_add_length hS (show c.targetEnd + 1 < c.endLine + 1 by omega)
      (by omega)
    rw [hjt hlt] at hcore_end
    rw [if_pos hlt] at hca
    rw [← hca] at hafter
    have hmono := lineStart_mono S (show c.endLine + 1 ≤ k by omega)
    rw [trailOf_of_ne hy, String.length_append]
    simp only [show "\n".length = 1 from rfl]
    omega

/-- A chunk's exact-context pattern stands in the text where its context before starts, and
ends before any line past the chunk. -/
theorem exactPattern_at (hS : '\r' ∉ S.toList) (h : buildChunk (lines S) s e path d = some c)
    (hsig : c.signature ≠ "") :
    (leadOf c.contextBefore).length ≤ lineStart S c.targetStart ∧
      (exactPattern c).toList <+: S.toList.drop (patternStart S c) ∧
      ∀ k, c.endLine < k → k ≤ (lines S).length → patternEnd S c < lineStart S k := by
  obtain ⟨q, hq, hdrop⟩ := lead_before hS h
  have hstart : patternStart S c = q := by rw [patternStart, ← hq, Nat.add_sub_cancel]
  have hcore := coreText_prefix hS h hsig
  have hpat : exactPattern c = leadOf c.contextBefore ++ c.coreText ++ trailOf c.contextAfter :=
    joinPresent_around _ _ _ (coreText_ne_empty hS h hsig)
  refine ⟨by omega, ?_, fun k hk hkn => ?_⟩
  · rw [hstart, hpat, hdrop, drop_eq_append_of_prefix hcore, String.toList_append,
      String.toList_append, List.append_assoc, String.length_toList]
    exact (List.prefix_append_right_inj _).2
      ((List.prefix_append_right_inj _).2 (trail_after hS h hsig))
  · have hend := trail_end_lt hS h hsig hk hkn
    rw [patternEnd, hstart, hpat, String.length_append, String.length_append]
    omega

end Layout

/-! ## Chunks of one extraction -/

section Extraction

variable {src : BlockSource} {S : String} {keywords : List String} {path : String}
  {opts : ChunkOptions}

theorem exists_buildChunk_of_mem {c : CodeChunk}
    (hc : c ∈ extractChunksWith src S keywords path opts) :
    ∃ s e, buildChunk (lines S) s e path opts.contextLines = some c := by
  unfold extractChunksWith at hc
  obtain ⟨⟨s, e⟩, -, h⟩ := List.mem_filterMap.1 hc
  exact ⟨s, e, h⟩

theorem pairwise_extractChunksWith :
    (extractChunksWith src S keywords path opts).Pairwise
      (fun c c' => c.targetEnd + opts.contextLines < c'.targetStart) := by
  unfold extractChunksWith
  refine List.Pairwise.filterMap _ ?_ (pairwise_mergeRanges _ _)
  rintro ⟨s, e⟩ ⟨s', e'⟩ hfar c hc c' hc'
  obtain ⟨-, -, hte, -⟩ := buildChunk_fields hc
  obtain ⟨-, hts', -⟩ := buildChunk_fields hc'
  simp only at hfar
  omega

/-- Of two different chunks of one extraction with signatures, the one starting no lower in the
text ends its exact-context pattern before the other's target starts. -/
theorem patternEnd_lt_of_startLine_le (hS : '\r' ∉ S.toList) {c c' : CodeChunk}
    (hc : c ∈ extractChunksWith src S keywords path opts)
    (hc' : c' ∈ extractChunksWith src S keywords path opts) (hne : c ≠ c')
    (hsig : c.signature ≠ "") (hsig' : c'.signature ≠ "") (hle : c'.startLine ≤ c.startLine) :
    patternEnd S c' < lineStart S c.targetStart := by
  obtain ⟨s, e, h⟩ := exists_buildChunk_of_mem hc
  obtain ⟨s', e', h'⟩ := exists_buildChunk_of_mem hc'
  obtain ⟨hs, hts, hte, hsl, -⟩ := buildChunk_fields h
  obtain ⟨-, hts', -, hsl', hel', -⟩ := buildChunk_fields h'
  have hste := targetStart_le_targetEnd h hsig
  have hapart : c.targetEnd + opts.contextLines < c'.targetStart ∨
      c'.targetEnd + opts.contextLines < c.targetStart :=
    @List.Pairwise.forall _ (fun a b => a.targetEnd + opts.contextLines < b.targetStart ∨
        b.targetEnd + opts.contextLines < a.targetStart) _ ⟨fun _ _ hab => hab.symm⟩
      (pairwise_extractChunksWith.imp Or.inl) c hc c' hc' hne
  rcases hapart with hbelow | habove
  · -- `c'` would start below the whole target of `c`
    omega
  · exact (exactPattern_at hS h' hsig').2.2 c.targetStart (by omega) (by omega)

end Extraction

/-! ## Relocation in the text of the extraction -/

/-- A chunk whose exact-context pattern occurs is found by exact context, whatever the fix: the
first occurrence of the pattern is exchanged for the fix between the same contexts. -/
theorem relocateChunk_of_contains {T : String} {c : CodeChunk} (f : String) (opts : ChunkOptions)
    (hne : exactPattern c ≠ "") (hin : contains T (exactPattern c) = true) :
    relocateChunk T c f opts = .ok ⟨replaceFirst T (exactPattern c)
      (joinPresent [c.contextBefore, f, c.contextAfter]), .exactContext⟩ := by
  have hempty : (exactPattern c).isEmpty = false := String.isEmpty_eq_false_iff.2 hne
  have htry : tryExactContext T c c.coreText f =
      some (replaceFirst T (exactPattern c) (joinPresent [c.contextBefore, f, c.contextAfter])) := by
    unfold tryExactContext
    simp only [show joinPresent [c.contextBefore, c.coreText, c.contextAfter] = exactPattern c
      from rfl, hempty, hin, Bool.not_true, Bool.or_false, Bool.false_eq_true, if_false]
  simp only [relocateChunk, htry]

section Extraction

variable {src : BlockSource} {S : String} {keywords : List String} {path : String}
  {opts : ChunkOptions} {c : CodeChunk}

theorem exactPattern_found (hS : '\r' ∉ S.toList)
    (hc : c ∈ extractChunksWith src S keywords path opts) (hsig : c.signature ≠ "") :
    exactPattern c ≠ "" ∧ contains S (exactPattern c) = true := by
  obtain ⟨s, e, h⟩ := exists_buildChunk_of_mem hc
  exact ⟨exactPattern_ne_empty (coreText_ne_empty hS h hsig),
    contains_iff.2 ⟨_, (exactPattern_at hS h hsig).2.1⟩⟩

theorem relocateChunk_coreText (hS : '\r' ∉ S.toList)
    (hc : c ∈ extractChunksWith src S keywords path opts) (hsig : c.signature ≠ "")
    (ropts : ChunkOptions) : relocateChunk S c c.coreText ropts = .ok ⟨S, .exactContext⟩ := by
  obtain ⟨hne, hin⟩ := exactPattern_found hS hc hsig
  rw [relocateChunk_of_contains _ ropts hne hin]
  -- the replacement is the pattern itself
  rw [show joinPresent [c.contextBefore, c.coreText, c.contextAfter] = exactPattern c from rfl,
    replaceFirst_self hne hin]

end Extraction

/-- A chunk with a signature, of an extraction of a text without carriage returns, is found in
that text by its exact context for any fix and options, and putting its own target text back
gives the text unchanged. The pattern is the chunk's lines joined, less an empty context and a
last empty line of the target, so it stands in the text. -/
theorem relocateChunk_own_text (src : BlockSource) (S : String) (keywords : List String)
    (path : String) (opts : ChunkOptions) (hS : '\r' ∉ S.toList) {c : CodeChunk}
    (hc : c ∈ extractChunksWith src S keywords path opts) (hsig : c.signature ≠ "")
    (ropts : ChunkOptions) :
    (∀ f, ∃ t, relocateChunk S c f ropts = .ok ⟨t, .exactContext⟩) ∧
      relocateChunk S c c.coreText ropts = .ok ⟨S, .exactContext⟩ := by
  obtain ⟨hne, hin⟩ := exactPattern_found hS hc hsig
  exact ⟨fun f => ⟨_, relocateChunk_of_contains f ropts hne hin⟩, relocateChunk_coreText hS hc hsig ropts⟩

/-- A function block ending in a blank line after a blank first line, one line of context: the
context before is blank and left out of the pattern, the target text loses its blank last line,
and still the chunk is found by exact context and its own target text gives the text back. -/
theorem relocateChunk_own_text_blank_edges :
    '\r' ∉ "\ndef f():\n\n".toList ∧
      (⟨0, 2, "\ndef f():\n", "def f():", "m.py", "", "", 1, 2⟩ : CodeChunk) ∈
        extractChunksWith ⟨fun _ => some [⟨.function, 1, 2⟩], fun _ => []⟩ "\ndef f():\n\n" ["f"]
          "m.py" ⟨1, none⟩ ∧
      (⟨0, 2, "\ndef f():\n", "def f():", "m.py", "", "", 1, 2⟩ : CodeChunk).signature ≠ "" ∧
      ((∀ f, ∃ t, relocateChunk "\ndef f():\n\n"
          ⟨0, 2, "\ndef f():\n", "def f():", "m.py", "", "", 1, 2⟩ f {} = .ok ⟨t, .exactContext⟩) ∧
        relocateChunk "\ndef f():\n\n" ⟨0, 2, "\ndef f():\n", "def f():", "m.py", "", "", 1, 2⟩
          (CodeChunk.coreText ⟨0, 2, "\ndef f():\n", "def f():", "m.py", "", "", 1, 2⟩) {} =
          .ok ⟨"\ndef f():\n\n", .exactContext⟩) := by
  have hC : extractChunksWith ⟨fun _ => some [⟨.function, 1, 2⟩], fun _ => []⟩ "\ndef f():\n\n"
      ["f"] "m.py" ⟨1, none⟩ = [⟨0, 2, "\ndef f():\n", "def f():", "m.py", "", "", 1, 2⟩] := by
    cbv
  have hS : '\r' ∉ "\ndef f():\n\n".toList := by decide
  have hc : (⟨0, 2, "\ndef f():\n", "def f():", "m.py", "", "", 1, 2⟩ : CodeChunk) ∈
      extractChunksWith ⟨fun _ => some [⟨.function, 1, 2⟩], fun _ => []⟩ "\ndef f():\n\n" ["f"]
        "m.py" ⟨1, none⟩ := by
    rw [hC]
    exact List.mem_singleton_self _
  exact ⟨hS, hc, by decide, relocateChunk_own_text _ _ _ _ _ hS hc (by decide) {}⟩

end Linewise.Chunk
