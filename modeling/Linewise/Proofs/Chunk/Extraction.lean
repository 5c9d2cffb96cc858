import Linewise.Proofs.Code.Headers
import Linewise.Proofs.Patch.Coverage
/-! How the chunks of an extraction stand in their text: each is its target widened by the
context distance and clipped to the text, with its contents the lines there, except where reading
the content back loses a carriage return or an empty last line. The chunks come in order, apart,
and every block holding a search term lies within a chunk's target. -/
namespace Linewise.Chunk

open Text Code

/-- No target line before the chunk's last line ends with a carriage return. -/
def NoTargetLineEndsInReturn (L : List String) (c : CodeChunk) : Prop :=
  ∀ i, c.targetStart ≤ i → i ≤ c.targetEnd → i < c.endLine → ∀ l, L[i]? = some l →
    l.toList.getLast? ≠ some '\r'

/-- How chunk `c` stands in the lines `L` of its text, with context distance `n`. -/
structure ChunkOf (L : List String) (n : Nat) (c : CodeChunk) : Prop where
  start_le : c.startLine ≤ c.targetStart
  target_le : c.targetStart ≤ c.targetEnd
  end_le : c.targetEnd ≤ c.endLine
  end_lt : c.endLine < L.length
  startLine_eq : c.startLine = c.targetStart - n
  endLine_eq : c.endLine = min (c.targetEnd + n) (L.length - 1)
  content_eq : c.content = joinLines (slice L c.startLine (c.endLine + 1))
  before_eq : c.contextBefore = joinLines (slice L c.startLine c.targetStart)
  after_eq : c.contextAfter = joinLines (slice L (c.targetEnd + 1) (c.endLine + 1))
  signature_eq : c.signature =
    (((slice L c.targetStart (c.targetEnd + 1)).find? fun l => !isBlankText l).map trim).getD ""
  core_eq : NoTargetLineEndsInReturn L c →
    (c.targetEnd < c.endLine ∨ L[c.targetEnd]? ≠ some "" ∨ c.targetStart = c.targetEnd) →
    c.coreText = joinLines (slice L c.targetStart (c.targetEnd + 1))

/-- How chunks `cs` stand in the lines `L`, with context distance `n`, for the blocks `blocks`
searched for `terms`. -/
structure LaidOut (L : List String) (n : Nat) (blocks : List Block) (terms : List String)
    (cs : List CodeChunk) : Prop where
  chunk : ∀ c ∈ cs, ChunkOf L n c
  apart : cs.Pairwise fun c c' => c.targetEnd + n < c'.targetStart
  covers : ∀ b ∈ blocks, ∀ t ∈ terms, contains (toLower (blockText L b)) t = true →
    ∃ c ∈ cs, c.targetStart ≤ b.startLine ∧ min b.endLine (L.length - 1) ≤ c.targetEnd

/-! ## Lines and words -/

theorem newline_not_mem_of_mem_lines {s l : String} (hl : l ∈ lines s) : '\n' ∉ l.toList := by
  unfold lines lineChars at hl
  obtain ⟨cs, hcs, rfl⟩ := List.mem_map.1 hl
  rw [String.toList_ofList]
  -- a line is a piece between newlines, less perhaps its last character
  have hpiece : ∃ p ∈ pieces s, List.Sublist cs p := by
    have hended : cs ∈ ((pieces s).dropLast.map dropReturn) → ∃ p ∈ pieces s, List.Sublist cs p := by
      intro h
      obtain ⟨p, hp, rfl⟩ := List.mem_map.1 h
      refine ⟨p, List.mem_of_mem_dropLast hp, ?_⟩
      unfold dropReturn
      split
      · exact List.dropLast_sublist p
      · exact List.Sublist.refl p
    dsimp only at hcs
    split at hcs
    · next last hlast =>
      split at hcs
      · exact hended hcs
      · rcases List.mem_append.1 hcs with h | h
        · exact hended h
        · rw [List.mem_singleton.1 h]
          exact ⟨last, List.mem_of_getLast? hlast, List.Sublist.refl _⟩
    · exact hended hcs
  obtain ⟨p, hp, hsub⟩ := hpiece
  exact fun h => newline_not_mem_of_mem_pieces hp (hsub.subset h)

theorem all_blank_of_dropBlanks {cs : List Char}
    (h : ∀ c ∈ dropBlanks cs, isBlank c = true) : ∀ c ∈ cs, isBlank c = true := by
  rw [← List.dropWhile_eq_nil_iff]
  by_contra hne
  have hhead := List.head_dropWhile_not isBlank hne
  exact absurd (h _ (List.head_mem hne)) (by simpa using hhead)

theorem trim_isEmpty (l : String) : (trim l).isEmpty = isBlankText l := by
  apply Bool.eq_iff_iff.2
  rw [String.isEmpty_iff, trim, String.ofList_eq_empty_iff, dropTrailingBlanks, List.reverse_eq_nil_iff,
    List.dropWhile_eq_nil_iff, isBlankText, List.all_eq_true]
  constructor
  · intro h
    exact all_blank_of_dropBlanks fun c hc => h c (List.mem_reverse.2 hc)
  · intro h c hc
    exact h c ((List.dropWhile_sublist _).subset (List.mem_reverse.1 hc))

theorem lowerChar_ne_nil (c : Char) : lowerChar c ≠ [] := by
  unfold lowerChar
  dsimp only
  split
  · simp
  · split
    · simp
    · split <;> simp

theorem toLower_ne_empty {s : String} (hs : s ≠ "") : toLower s ≠ "" := by
  obtain ⟨c, cs, hcs⟩ := List.exists_cons_of_ne_nil fun h => hs (String.toList_eq_nil_iff.1 h)
  rw [toLower, hcs, lowerFrom, Ne, String.ofList_eq_empty_iff, List.append_eq_nil_iff, not_and]
  intro hfirst
  split at hfirst
  · simp at hfirst
  · exact absurd hfirst (lowerChar_ne_nil c)

theorem ne_empty_of_mem_expandKeywords {ks : List String} {t : String}
    (ht : t ∈ expandKeywords ks) : t ≠ "" := by
  unfold expandKeywords at ht
  obtain ⟨k, -, hk⟩ := List.mem_flatMap.1 (mem_sortedSet.1 ht)
  unfold keywordTerms at hk
  split at hk
  · exact absurd hk List.not_mem_nil
  · next hkne =>
    rcases List.mem_append.1 hk with hp | hp
    · obtain ⟨p, hpf, rfl⟩ := List.mem_map.1 hp
      have hpne : p ≠ [] := by simpa using (List.mem_filter.1 hpf).2
      exact toLower_ne_empty fun h => hpne (String.ofList_eq_empty_iff.1 h)
    · rw [List.mem_singleton.1 hp]
      exact toLower_ne_empty (String.isEmpty_eq_false_iff.1 (Bool.eq_false_iff.2 hkne))

theorem contains_empty {t : String} (h : contains "" t = true) : t = "" := by
  simpa [contains, occursIn, List.isEmpty_iff] using h

theorem startLine_lt_of_blockText_ne {L : List String} {b : Block} (h : blockText L b ≠ "") :
    b.startLine < L.length := by
  by_contra hle
  apply h
  unfold blockText
  rw [if_pos (by simp; omega)]

theorem startLine_lt_of_contains {L : List String} {b : Block} {ks : List String} {t : String}
    (ht : t ∈ expandKeywords ks) (h : contains (toLower (blockText L b)) t = true) :
    b.startLine < L.length := by
  apply startLine_lt_of_blockText_ne
  intro hempty
  rw [hempty, show toLower "" = "" from rfl] at h
  exact ne_empty_of_mem_expandKeywords ht (contains_empty h)

/-! ## Merged ranges -/

theorem mergeSorted_covers (d : Nat) : ∀ (rs : List (Nat × Nat)) (cur : Nat × Nat),
    (cur :: rs).Pairwise (fun a b => a.1 ≤ b.1) → ∀ r ∈ cur :: rs,
      ∃ m ∈ mergeSorted d cur rs, m.1 ≤ r.1 ∧ r.2 ≤ m.2
  | [], cur, _, r, hr => by
    rw [List.mem_singleton.1 hr]
    exact ⟨cur, by simp [mergeSorted], le_refl _, le_refl _⟩
  | r' :: rs, cur, hs, r, hr => by
    obtain ⟨hcur, hr'⟩ := List.pairwise_cons.1 hs
    rw [mergeSorted]
    split
    · -- `r'` widens the current range, which then covers `cur` and `r'`
      have hcover := mergeSorted_covers d rs (cur.1, max cur.2 r'.2) (pairwise_widen_head _ hs)
      rcases List.mem_cons.1 hr with rfl | hr
      · obtain ⟨m, hm, h1, h2⟩ := hcover _ List.mem_cons_self
        exact ⟨m, hm, h1, le_trans (le_max_left _ _) h2⟩
      rcases List.mem_cons.1 hr with rfl | hr
      · obtain ⟨m, hm, h1, h2⟩ := hcover _ List.mem_cons_self
        exact ⟨m, hm, le_trans h1 (hcur _ List.mem_cons_self), le_trans (le_max_right _ _) h2⟩
      · exact hcover r (List.mem_cons_of_mem _ hr)
    · rcases List.mem_cons.1 hr with rfl | hr
      · exact ⟨r, List.mem_cons_self, le_refl _, le_refl _⟩
      · obtain ⟨m, hm, h⟩ := mergeSorted_covers d rs r' hr' r hr
        exact ⟨m, List.mem_cons_of_mem _ hm, h⟩

theorem mergeSorted_ordered (d : Nat) : ∀ (rs : List (Nat × Nat)) (cur : Nat × Nat),
    (∀ r ∈ cur :: rs, r.1 ≤ r.2) → ∀ m ∈ mergeSorted d cur rs, m.1 ≤ m.2
  | [], cur, h, m, hm => by
    rw [mergeSorted, List.mem_singleton] at hm
    rw [hm]
    exact h cur List.mem_cons_self
  | r' :: rs, cur, h, m, hm => by
    rw [mergeSorted] at hm
    split at hm
    · refine mergeSorted_ordered d rs _ (fun r hr => ?_) m hm
      rcases List.mem_cons.1 hr with rfl | hr
      · exact le_trans (h cur List.mem_cons_self) (le_max_left _ _)
      · exact h r (List.mem_cons_of_mem _ (List.mem_cons_of_mem _ hr))
    · rcases List.mem_cons.1 hm with rfl | hm
      · exact h m List.mem_cons_self
      · exact mergeSorted_ordered d rs r' (fun r hr => h r (List.mem_cons_of_mem _ hr)) m hm

theorem mergeRanges_covers {rs : List (Nat × Nat)} (d : Nat) {r : Nat × Nat} (hr : r ∈ rs) :
    ∃ m ∈ mergeRanges rs d, m.1 ≤ r.1 ∧ r.2 ≤ m.2 := by
  have hs := pairwise_sortRanges rs
  have hr' : r ∈ sortRanges rs := (List.mergeSort_perm _ _).symm.subset hr
  unfold mergeRanges
  split
  · next heq => rw [heq] at hr'; exact absurd hr' List.not_mem_nil
  · next r0 rest heq =>
    rw [heq] at hs hr'
    exact mergeSorted_covers d rest r0 hs r hr'

theorem fst_le_snd_of_mem_mergeRanges {rs : List (Nat × Nat)} (d : Nat)
    (h : ∀ r ∈ rs, r.1 ≤ r.2) {m : Nat × Nat} (hm : m ∈ mergeRanges rs d) : m.1 ≤ m.2 := by
  have hperm : (sortRanges rs).Perm rs := List.mergeSort_perm _ _
  unfold mergeRanges at hm
  split at hm
  · exact absurd hm List.not_mem_nil
  · next r0 rest heq =>
    refine mergeSorted_ordered d rest r0 (fun r hr => h r (hperm.subset ?_)) m hm
    rw [heq]
    exact hr

/-! ## Selected blocks -/

theorem mem_selectBlocks {L terms : List String} {blocks : List Block} {pinned : Option String}
    {b : Block} (hb : b ∈ selectBlocks L terms blocks pinned) : b ∈ blocks := by
  unfold selectBlocks at hb
  split at hb
  · split at hb
    · next b' hpin =>
      rw [List.mem_singleton.1 hb]
      unfold pinnedBlock at hpin
      split at hpin
      · exact absurd hpin (by simp)
      · split at hpin
        · exact List.mem_of_find?_eq_some hpin
        · exact absurd hpin (by simp)
    · unfold broadBlocks at hb
      rcases List.mem_append.1 hb with hb | hb
      · exact (List.mem_filter.1 (List.mem_of_mem_take hb)).1
      · exact (List.mem_filter.1 (List.mem_of_mem_take hb)).1
  · next hmatch =>
    exact (List.mem_filter.1 hb).1

theorem selectBlocks_of_mem_matching {L terms : List String} {blocks : List Block}
    (pinned : Option String) {b : Block} (hb : b ∈ matchingBlocks L terms blocks) :
    selectBlocks L terms blocks pinned = matchingBlocks L terms blocks := by
  unfold selectBlocks
  split
  · next heq => rw [heq] at hb; exact absurd hb List.not_mem_nil
  · rfl

/-! ## Chunks -/

theorem buildChunk_isSome {L : List String} {s : Nat} (e : Nat) (path : String) (n : Nat)
    (hs : s < L.length) : ∃ c, buildChunk L s e path n = some c := by
  have hne : L ≠ [] := List.ne_nil_of_length_pos (by omega)
  unfold buildChunk
  rw [if_neg (by simp [hne]; omega)]
  exact ⟨_, rfl⟩

section Built

variable {L : List String} {s e n : Nat} {path : String} {c : CodeChunk}

theorem lines_content (h : buildChunk L s e path n = some c) (hse : s ≤ e)
    (hL : ∀ l ∈ L, '\n' ∉ l.toList) :
    lines c.content = (slice L c.startLine c.endLine).map dropLineReturn ++
      if L[c.endLine]? = some "" then [] else L[c.endLine]?.toList := by
  obtain ⟨hs, hts, hte, hsl, hel, hcontent, -⟩ := buildChunk_fields h
  have hend : c.endLine < L.length := by omega
  rw [hcontent, lines_joinLines_eq fun l hl => hL l (mem_of_mem_slice hl),
    getLast?_slice (by omega) (by omega), Nat.add_sub_cancel, slice_add_one (by omega) hend,
    List.dropLast_concat]

theorem getElem?_lines_content (h : buildChunk L s e path n = some c) (hse : s ≤ e)
    (hL : ∀ l ∈ L, '\n' ∉ l.toList) (hcr : NoTargetLineEndsInReturn L c) {j : Nat}
    (hj₁ : c.targetStart ≤ c.startLine + j) (hj₂ : c.startLine + j ≤ c.targetEnd)
    (hjl : j < (lines c.content).length) : (lines c.content)[j]? = L[c.startLine + j]? := by
  obtain ⟨hs, hts, hte, hsl, hel, -⟩ := buildChunk_fields h
  have hend : c.endLine < L.length := by omega
  have hA : ((slice L c.startLine c.endLine).map dropLineReturn).length = c.endLine - c.startLine := by
    rw [List.length_map, length_slice]
    omega
  rw [lines_content h hse hL] at hjl ⊢
  by_cases hj : j < c.endLine - c.startLine
  · -- a line before the chunk's last keeps its carriage return when it has none at its end
    have hl : L[c.startLine + j]? = some L[c.startLine + j] := List.getElem?_eq_getElem (by omega)
    rw [List.getElem?_append_left (by omega), List.getElem?_map, slice, List.getElem?_take,
      if_pos (by omega), List.getElem?_drop, hl, Option.map_some,
      dropLineReturn_of_getLast? (hcr _ hj₁ hj₂ (by omega) _ hl)]
  · -- the chunk's last line, read back only when it is not empty
    rw [List.length_append, hA] at hjl
    by_cases hz : L[c.endLine]? = some ""
    · rw [if_pos hz, List.length_nil] at hjl
      omega
    · next =>
      have hne := hz
      have hjeq : j = c.endLine - c.startLine := by
        rw [if_neg hz, List.getElem?_eq_getElem hend, Option.toList_some,
          List.length_singleton] at hjl
        omega
      rw [if_neg hne, List.getElem?_append_right (by omega), hA, hjeq, Nat.sub_self,
        show c.startLine + (c.endLine - c.startLine) = c.endLine by omega,
        List.getElem?_eq_getElem hend, Option.toList_some]
      rfl

theorem coreText_eq_joinLines (h : buildChunk L s e path n = some c) (hse : s ≤ e)
    (hL : ∀ l ∈ L, '\n' ∉ l.toList) (hcr : NoTargetLineEndsInReturn L c)
    (hcase : c.targetEnd < c.endLine ∨ L[c.targetEnd]? ≠ some "" ∨ c.targetStart = c.targetEnd) :
    c.coreText = joinLines (slice L c.targetStart (c.targetEnd + 1)) := by
  obtain ⟨hs, hts, hte, hsl, hel, -⟩ := buildChunk_fields h
  have hend : c.endLine < L.length := by omega
  have hlen : (lines c.content).length =
      c.endLine - c.startLine + if L[c.endLine]? = some "" then 0 else 1 := by
    rw [lines_content h hse hL, List.length_append, List.length_map, length_slice,
      Nat.min_eq_left hend.le]
    split
    · rfl
    · rw [List.getElem?_eq_getElem hend, Option.toList_some, List.length_singleton]
  unfold CodeChunk.coreText
  dsimp only
  by_cases hkeep : c.targetEnd < c.endLine ∨ L[c.endLine]? ≠ some ""
  · -- every line of the target is read back
    have hhi : c.targetEnd - c.startLine + 1 ≤ (lines c.content).length := by
      rw [hlen]
      split
      · next hz => have := hkeep.resolve_right (not_not.2 hz); omega
      · omega
    rw [Nat.min_eq_left hhi, if_neg (by omega)]
    congr 1
    apply List.ext_getElem?
    intro k
    simp only [slice, List.getElem?_take, List.getElem?_drop]
    by_cases hk : k < c.targetEnd + 1 - c.targetStart
    · have hsk : c.startLine ≤ c.targetStart := by omega
      rw [if_pos (by omega), if_pos hk, getElem?_lines_content h hse hL hcr (by omega) (by omega)
        (by omega)]
      congr 1
      omega
    · rw [if_neg (by omega), if_neg hk]
  · -- the target is the chunk's empty last line alone
    simp only [not_or, not_lt, not_not] at hkeep
    obtain ⟨hge, hz⟩ := hkeep
    have hlast : c.targetEnd = c.endLine := by omega
    have hone : c.targetStart = c.targetEnd := by
      rcases hcase with hlt | hne | heq
      · omega
      · rw [hlast] at hne
        exact absurd hz hne
      · exact heq
    have hz' : L[c.targetEnd]? = some "" := by rw [hlast]; exact hz
    rw [hlen, if_pos hz, if_pos (by omega), hone, slice_add_one (le_refl _) (by omega),
      slice_eq_nil (le_refl _), List.nil_append, (List.getElem_eq_iff (by omega)).2 hz']
    rfl

theorem signature_eq_find? (h : buildChunk L s e path n = some c) :
    c.signature =
      (((slice L c.targetStart (c.targetEnd + 1)).find? fun l => !isBlankText l).map trim).getD "" := by
  obtain ⟨-, hts, -, -, -, -, -, -, hsig⟩ := buildChunk_fields h
  rw [hsig, List.find?_map, hts]
  congr 3
  funext l
  simp [trim_isEmpty]

/-- A chunk built from a range that starts no later than it ends stands in the lines as its
target widened by the context distance, clipped to the text. -/
theorem chunkOf_of_buildChunk (h : buildChunk L s e path n = some c) (hse : s ≤ e)
    (hL : ∀ l ∈ L, '\n' ∉ l.toList) : ChunkOf L n c := by
  obtain ⟨hs, hts, hte, hsl, hel, hcontent, hcb, hca, -⟩ := buildChunk_fields h
  refine ⟨by omega, by omega, by omega, by omega, by omega, hel, hcontent, hts ▸ hcb, ?_,
    signature_eq_find? h, fun hr hcase => coreText_eq_joinLines h hse hL hr hcase⟩
  rw [hca]
  split
  · rfl
  · rw [slice_eq_nil (by omega)]
    rfl

end Built

theorem mem_findBlocks {src : BlockSource} {S : String} {b : Block} (hb : b ∈ findBlocks src S) :
    (∃ bs, src.parse S = some bs ∧ b ∈ bs) ∨ b ∈ headerBlocks (lines S) := by
  unfold findBlocks at hb
  split at hb
  · next bs hbs => exact Or.inl ⟨bs, hbs, hb⟩
  · exact Or.inr hb

theorem mem_extractChunksWith {src : BlockSource} {S : String} {keywords : List String}
    {path : String} {opts : ChunkOptions} {c : CodeChunk} :
    c ∈ extractChunksWith src S keywords path opts ↔
      ∃ r ∈ mergeRanges ((selectBlocks (lines S) (expandKeywords keywords) (findBlocks src S)
          opts.pinnedClass).map fun b => (b.startLine, b.endLine)) opts.contextLines,
        buildChunk (lines S) r.1 r.2 path opts.contextLines = some c := by
  unfold extractChunksWith
  rw [List.mem_filterMap]

/-- The chunks of an extraction stand in the lines of the text as their targets widened by the
context distance; they come in order with targets more than the context distance apart; and
every block whose text, clipped to the text, holds a search term lies, clipped to the text,
within the target of a chunk. The target text is the target's lines joined unless a target line
before the chunk's last ends with a carriage return, or the target ends on an empty last line of
the chunk after other lines. The block source is trusted only to give blocks that start no later than they end. -/
theorem extractChunksWith_laidOut (src : BlockSource) (S : String) (keywords : List String)
    (path : String) (opts : ChunkOptions)
    (hsrc : ∀ bs, src.parse S = some bs → ∀ b ∈ bs, b.startLine ≤ b.endLine) :
    LaidOut (lines S) opts.contextLines (findBlocks src S) (expandKeywords keywords)
      (extractChunksWith src S keywords path opts) := by
  have hblocks : ∀ b ∈ findBlocks src S, b.startLine ≤ b.endLine := by
    intro b hb
    rcases mem_findBlocks hb with ⟨bs, hbs, hb⟩ | hb
    · exact hsrc bs hbs b hb
    · exact (bounds_of_mem_headerBlocks hb).1
  have hranges : ∀ r ∈ (selectBlocks (lines S) (expandKeywords keywords) (findBlocks src S)
      opts.pinnedClass).map (fun b => (b.startLine, b.endLine)), r.1 ≤ r.2 := by
    intro r hr
    obtain ⟨b, hb, rfl⟩ := List.mem_map.1 hr
    exact hblocks b (mem_selectBlocks hb)
  refine ⟨fun c hc => ?_, pairwise_extractChunksWith, fun b hb t ht hcont => ?_⟩
  · obtain ⟨r, hr, h⟩ := mem_extractChunksWith.1 hc
    exact chunkOf_of_buildChunk h (fst_le_snd_of_mem_mergeRanges _ hranges hr)
      fun l hl => newline_not_mem_of_mem_lines hl
  · -- the block matches, so the matching blocks are the ones selected
    have hmatch : b ∈ matchingBlocks (lines S) (expandKeywords keywords) (findBlocks src S) :=
      List.mem_filter.2 ⟨hb, List.any_eq_true.2 ⟨t, ht, hcont⟩⟩
    have hsel := selectBlocks_of_mem_matching opts.pinnedClass hmatch
    have hbr : (b.startLine, b.endLine) ∈ (selectBlocks (lines S) (expandKeywords keywords)
        (findBlocks src S) opts.pinnedClass).map (fun b => (b.startLine, b.endLine)) :=
      List.mem_map.2 ⟨b, by rw [hsel]; exact hmatch, rfl⟩
    obtain ⟨m, hm, hm1, hm2⟩ := mergeRanges_covers opts.contextLines hbr
    have hstart := startLine_lt_of_contains ht hcont
    obtain ⟨c, hc⟩ := buildChunk_isSome m.2 path opts.contextLines
      (show m.1 < (lines S).length by simp only at hm1; omega)
    obtain ⟨-, hts, hte, -⟩ := buildChunk_fields hc
    refine ⟨c, mem_extractChunksWith.2 ⟨m, hm, hc⟩, ?_, ?_⟩
    · simp only at hm1
      omega
    · simp only at hm2
      rw [hte]
      omega

/-- Two functions with one line between them, the second searched for: the block source gives
ordered blocks, and the extraction is laid out in the lines. -/
theorem extractChunksWith_laidOut_second_function :
    (∀ bs, (⟨fun _ => some [⟨.function, 0, 1⟩, ⟨.function, 3, 4⟩], fun _ => []⟩ : BlockSource).parse
        "def f():\n    x\n\ndef g():\n    y\n" = some bs → ∀ b ∈ bs, b.startLine ≤ b.endLine) ∧
      LaidOut (lines "def f():\n    x\n\ndef g():\n    y\n") 1
        (findBlocks ⟨fun _ => some [⟨.function, 0, 1⟩, ⟨.function, 3, 4⟩], fun _ => []⟩
          "def f():\n    x\n\ndef g():\n    y\n")
        (expandKeywords ["g"])
        (extractChunksWith ⟨fun _ => some [⟨.function, 0, 1⟩, ⟨.function, 3, 4⟩], fun _ => []⟩
          "def f():\n    x\n\ndef g():\n    y\n" ["g"] "m.py" ⟨1, none⟩) := by
  have hsrc : ∀ bs, (⟨fun _ => some [⟨.function, 0, 1⟩, ⟨.function, 3, 4⟩], fun _ => []⟩ :
      BlockSource).parse "def f():\n    x\n\ndef g():\n    y\n" = some bs →
        ∀ b ∈ bs, b.startLine ≤ b.endLine := by
    rintro bs ⟨⟩
    decide
  exact ⟨hsrc, extractChunksWith_laidOut _ _ ["g"] "m.py" ⟨1, none⟩ hsrc⟩

/-- A carriage return left at the end of a line and an empty last line of the text are lost when
a chunk's content is read back as lines, so the target texts differ from the target's lines
joined; and a block running past the text reaches past the target of its chunk. -/
theorem extractChunksWith_loses_line_ends :
    extractChunksWith ⟨fun _ => some [⟨.function, 0, 0⟩, ⟨.function, 4, 9⟩], fun _ => []⟩
        "a\r\r\nb\nc\nd\ne\n\n" ["a", "e"] "m.py" ⟨1, none⟩ =
      [⟨0, 1, "a\r\nb", "a", "m.py", "", "b", 0, 0⟩, ⟨3, 5, "d\ne\n", "e", "m.py", "d", "", 4, 5⟩] ∧
    CodeChunk.coreText ⟨0, 1, "a\r\nb", "a", "m.py", "", "b", 0, 0⟩ = "a" ∧
    joinLines (slice (lines "a\r\r\nb\nc\nd\ne\n\n") 0 1) = "a\r" ∧
    CodeChunk.coreText ⟨3, 5, "d\ne\n", "e", "m.py", "d", "", 4, 5⟩ = "e" ∧
    joinLines (slice (lines "a\r\r\nb\nc\nd\ne\n\n") 4 6) = "e\n" ∧
    ∀ c ∈ extractChunksWith ⟨fun _ => some [⟨.function, 0, 0⟩, ⟨.function, 4, 9⟩], fun _ => []⟩
        "a\r\r\nb\nc\nd\ne\n\n" ["a", "e"] "m.py" ⟨1, none⟩, ¬(c.targetStart ≤ 4 ∧ 9 ≤ c.targetEnd) := by
  have hC : extractChunksWith ⟨fun _ => some [⟨.function, 0, 0⟩, ⟨.function, 4, 9⟩], fun _ => []⟩
      "a\r\r\nb\nc\nd\ne\n\n" ["a", "e"] "m.py" ⟨1, none⟩ =
      [⟨0, 1, "a\r\nb", "a", "m.py", "", "b", 0, 0⟩, ⟨3, 5, "d\ne\n", "e", "m.py", "d", "", 4, 5⟩] := by
    cbv
  refine ⟨hC, by cbv, by cbv, by cbv, by cbv, ?_⟩
  rw [hC]
  decide

/-! ## The pinned class's log line

When no block matches, extraction logs the pinned block's lines counted from one, adding one to
its start and end lines unchecked; this is the only arithmetic of extraction that can overflow a
line number, and the built tool wraps it. The pinned block holds the class header, so it starts
within the text, and only its end can reach the last line number. -/

/-- The largest line number a block can carry: line numbers are machine words. -/
def lineMax : Nat := UInt64.size - 1

/-- Whether the pinned class's log line overflows a machine word: no block matches, and one plus
the pinned block's start or end line is past the largest word. -/
def pinnedLogOverflows (lines terms : List String) (blocks : List Block) (pinned : Option String) :
    Bool :=
  (matchingBlocks lines terms blocks).isEmpty &&
    match pinnedBlock lines terms blocks pinned with
    | some b => lineMax ≤ b.startLine || lineMax ≤ b.endLine
    | none => false

theorem mem_of_pinnedBlock {L T : List String} {B : List Block} {p : Option String} {b : Block}
    (h : pinnedBlock L T B p = some b) : b ∈ B ∧ b.startLine < L.length := by
  unfold pinnedBlock at h
  split at h
  · exact absurd h (by simp)
  · next name =>
    split at h
    · have hheader := List.find?_some h
      refine ⟨List.mem_of_find?_eq_some h, startLine_lt_of_blockText_ne fun hempty => ?_⟩
      rw [hempty] at hheader
      simpa using contains_empty hheader
    · exact absurd h (by simp)

theorem endLine_le_of_mem_findBlocks {src : BlockSource} {S : String} {b : Block}
    (hlen : (lines S).length ≤ lineMax)
    (hfit : ∀ bs, src.parse S = some bs → ∀ b ∈ bs, b.endLine ≤ lineMax)
    (hb : b ∈ findBlocks src S) : b.endLine ≤ lineMax := by
  rcases mem_findBlocks hb with ⟨bs, hbs, hb⟩ | hb
  · exact hfit bs hbs b hb
  · have hend := (bounds_of_mem_headerBlocks hb).2
    omega

theorem pinnedLogOverflows_iff {L T : List String} {B : List Block} {p : Option String} :
    pinnedLogOverflows L T B p = true ↔ matchingBlocks L T B = [] ∧
      ∃ b, pinnedBlock L T B p = some b ∧ (lineMax ≤ b.startLine ∨ lineMax ≤ b.endLine) := by
  unfold pinnedLogOverflows
  rw [Bool.and_eq_true, List.isEmpty_iff]
  apply and_congr_right
  intro _
  split
  · next b hb => simp [hb]
  · next hnone => simp [hnone]

/-- The pinned class's log line overflows: no block matches, and the pinned block ends on the last
line number. -/
def PinnedOverflow (L T : List String) (B : List Block) (p : Option String) : Prop :=
  matchingBlocks L T B = [] ∧ ∃ b, pinnedBlock L T B p = some b ∧ b.endLine = lineMax

theorem wordAdd_of_lt {a : Nat} (h : a < lineMax) : wordAdd a 1 = a + 1 :=
  Nat.mod_eq_of_lt (by unfold lineMax at h; omega)

theorem wordAdd_lineMax : wordAdd lineMax 1 = 0 := by decide

theorem mem_extractChunksLog_of_pinnedBlock (src : BlockSource) (S : String) (keywords : List String)
    (path : String) (opts : ChunkOptions) {name : String} {b : Block}
    (hname : opts.pinnedClass = some name)
    (hnone : matchingBlocks (lines S) (expandKeywords keywords) (findBlocks src S) = [])
    (hb : pinnedBlock (lines S) (expandKeywords keywords) (findBlocks src S) opts.pinnedClass = some b) :
    LogEntry.debug ("  Using pinned class '" ++ name ++ "' at lines " ++
      Nat.repr (wordAdd b.startLine 1) ++ "-" ++ Nat.repr (wordAdd b.endLine 1)) ∈
        extractChunksLog src S keywords path opts := by
  rw [hname] at hb
  unfold extractChunksLog
  simp only [hnone, List.isEmpty_nil, if_true, hname, hb]
  simp

/-- Extraction overflows a machine word only in the pinned class's log line, and does so exactly
when no block matches and the pinned block ends on the last line number; the log line then shows
that end wrapped to zero. The text and the block source's lines fit in machine words. -/
theorem pinnedLogOverflows_iff_wraps (src : BlockSource) (S : String) (keywords : List String)
    (path : String) (opts : ChunkOptions) (hlen : (lines S).length ≤ lineMax)
    (hfit : ∀ bs, src.parse S = some bs → ∀ b ∈ bs, b.endLine ≤ lineMax) :
    (pinnedLogOverflows (lines S) (expandKeywords keywords) (findBlocks src S)
        opts.pinnedClass = true ↔
      PinnedOverflow (lines S) (expandKeywords keywords) (findBlocks src S) opts.pinnedClass) ∧
    ∀ name b, opts.pinnedClass = some name →
      PinnedOverflow (lines S) (expandKeywords keywords) (findBlocks src S) opts.pinnedClass →
      pinnedBlock (lines S) (expandKeywords keywords) (findBlocks src S) opts.pinnedClass = some b →
      LogEntry.debug ("  Using pinned class '" ++ name ++ "' at lines " ++
        Nat.repr (b.startLine + 1) ++ "-0") ∈ extractChunksLog src S keywords path opts := by
  refine ⟨?_, fun name b hname hover hb => ?_⟩
  · rw [pinnedLogOverflows_iff, PinnedOverflow]
    apply and_congr_right
    intro _
    constructor
    · -- the start line cannot overflow: the pinned block starts within the text
      rintro ⟨b, hb, hline⟩
      obtain ⟨hmem, hstart⟩ := mem_of_pinnedBlock hb
      have hend := endLine_le_of_mem_findBlocks hlen hfit hmem
      exact ⟨b, hb, by omega⟩
    · rintro ⟨b, hb, hend⟩
      exact ⟨b, hb, Or.inr hend.ge⟩
  · obtain ⟨hnone, b', hb', hend⟩ := hover
    rw [hb] at hb'
    cases hb'
    have hstart := (mem_of_pinnedBlock hb).2
    have hlog := mem_extractChunksLog_of_pinnedBlock src S keywords path opts hname hnone hb
    have hsep : ∀ x : String, x ++ "-" ++ "0" = x ++ "-0" := fun x => by
      rw [String.append_assoc]
      exact congrArg (x ++ ·) (by decide)
    rwa [wordAdd_of_lt (by omega), hend, wordAdd_lineMax, show Nat.repr 0 = "0" by decide,
      hsep] at hlog

/-- A class block running to the last line number of a one-line text: the text and the block fit. -/
theorem pinnedLogOverflows_iff_wraps_class_to_end :
    (lines "class A:\n").length ≤ lineMax ∧
      (∀ bs, (⟨fun _ => some [⟨.classDef, 0, lineMax⟩], fun _ => []⟩ : BlockSource).parse
        "class A:\n" = some bs → ∀ b ∈ bs, b.endLine ≤ lineMax) ∧
      ((pinnedLogOverflows (lines "class A:\n") (expandKeywords ["xa"])
          (findBlocks ⟨fun _ => some [⟨.classDef, 0, lineMax⟩], fun _ => []⟩ "class A:\n")
          (some "A") = true ↔
        PinnedOverflow (lines "class A:\n") (expandKeywords ["xa"])
          (findBlocks ⟨fun _ => some [⟨.classDef, 0, lineMax⟩], fun _ => []⟩ "class A:\n") (some "A")) ∧
      ∀ name b, some "A" = some name →
        PinnedOverflow (lines "class A:\n") (expandKeywords ["xa"])
          (findBlocks ⟨fun _ => some [⟨.classDef, 0, lineMax⟩], fun _ => []⟩ "class A:\n") (some "A") →
        pinnedBlock (lines "class A:\n") (expandKeywords ["xa"])
          (findBlocks ⟨fun _ => some [⟨.classDef, 0, lineMax⟩], fun _ => []⟩ "class A:\n")
          (some "A") = some b →
        LogEntry.debug ("  Using pinned class '" ++ name ++ "' at lines " ++
          Nat.repr (b.startLine + 1) ++ "-0") ∈
          extractChunksLog ⟨fun _ => some [⟨.classDef, 0, lineMax⟩], fun _ => []⟩ "class A:\n"
            ["xa"] "m.py" ⟨10, some "A"⟩) := by
  have hlen : (lines "class A:\n").length ≤ lineMax := by cbv
  have hfit : ∀ bs, (⟨fun _ => some [⟨.classDef, 0, lineMax⟩], fun _ => []⟩ : BlockSource).parse
      "class A:\n" = some bs → ∀ b ∈ bs, b.endLine ≤ lineMax := by
    rintro bs ⟨⟩
    decide
  exact ⟨hlen, hfit, pinnedLogOverflows_iff_wraps _ _ ["xa"] "m.py" ⟨10, some "A"⟩ hlen hfit⟩

/-- A class block running to the last line number, pinned since no block matches: one plus its
end overflows and its log line shows the end as zero, while extraction gives the class's one-line
chunk. -/
theorem extractChunksWith_pinned_class_to_end :
    pinnedLogOverflows (lines "class A:\n") (expandKeywords ["xa"])
        (findBlocks ⟨fun _ => some [⟨.classDef, 0, lineMax⟩], fun _ => []⟩ "class A:\n")
        (some "A") = true ∧
      LogEntry.debug "  Using pinned class 'A' at lines 1-0" ∈
        extractChunksLog ⟨fun _ => some [⟨.classDef, 0, lineMax⟩], fun _ => []⟩ "class A:\n"
          ["xa"] "m.py" ⟨10, some "A"⟩ ∧
      extractChunksWith ⟨fun _ => some [⟨.classDef, 0, lineMax⟩], fun _ => []⟩ "class A:\n" ["xa"]
        "m.py" ⟨10, some "A"⟩ = [⟨0, 0, "class A:", "class A:", "m.py", "", "", 0, 0⟩] := by
  refine ⟨by cbv, ?_, by cbv⟩
  have h := mem_extractChunksLog_of_pinnedBlock ⟨fun _ => some [⟨.classDef, 0, lineMax⟩],
    fun _ => []⟩ "class A:\n" ["xa"] "m.py" ⟨10, some "A"⟩ (b := ⟨.classDef, 0, lineMax⟩) rfl
    (by cbv) (by cbv)
  rwa [wordAdd_lineMax, show wordAdd 0 1 = 1 by decide] at h

end Linewise.Chunk
