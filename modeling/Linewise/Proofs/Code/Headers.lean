import Linewise.Proofs.Chunk.Relocation
/-! The header scan. A line is a declaration header when it is blanks followed by one of the
declaration keywords; the scan gives one block per header, in order of lines, of the kind its
keyword names. A block runs from its header over the deeper or blank lines below it and is cut
before the next header, so the blocks lie in the text, sorted and apart. -/
namespace Linewise

theorem pairwise_snd_zipIdx {α : Type} (l : List α) : l.zipIdx.Pairwise (fun a b => a.2 < b.2) := by
  have h := @List.pairwise_lt_range' 0 l.length 1 (by decide)
  rwa [← List.zipIdx_map_snd 0 l, List.pairwise_map] at h

end Linewise

namespace Linewise.Code

open Text

/-- Line `l` opens a declaration with keyword `k`: blanks, then `k` (the pattern `^\s*k`). -/
def IsHeader (k l : String) : Prop :=
  ∃ pre rest : List Char, (∀ c ∈ pre, isBlank c = true) ∧ l.toList = pre ++ k.toList ++ rest

/-- Line `l` is a declaration header of kind `kd`: `class ` opens a class, `def ` and
`function ` a function, and `const `, `let ` and `var ` something of unknown kind. -/
def HeaderOf (l : String) (kd : BlockKind) : Prop :=
  IsHeader "class " l ∧ kd = .classDef ∨
    (IsHeader "def " l ∨ IsHeader "function " l) ∧ kd = .function ∨
    (IsHeader "const " l ∨ IsHeader "let " l ∨ IsHeader "var " l) ∧ kd = .unknown

theorem isHeader_iff {k l : String} {c : Char} {cs : List Char} (hk : k.toList = c :: cs)
    (hc : isBlank c = false) : IsHeader k l ↔ k.toList <+: dropBlanks l.toList := by
  constructor
  · rintro ⟨pre, rest, hpre, hl⟩
    rw [hl, dropBlanks, List.append_assoc, List.dropWhile_append_of_pos hpre, hk,
      List.cons_append, List.dropWhile_cons_of_neg (by simp [hc])]
    exact List.prefix_append _ _
  · rintro ⟨rest, hrest⟩
    refine ⟨l.toList.takeWhile isBlank, rest, fun c hc => List.mem_takeWhile_imp hc, ?_⟩
    rw [List.append_assoc, hrest, dropBlanks, List.takeWhile_append_dropWhile]

theorem declarationKeywords_apart :
    (∀ k ∈ declarationKeywords, (k.toList.head?.map isBlank) = some false) ∧
      ∀ k ∈ declarationKeywords, ∀ k' ∈ declarationKeywords,
        k.toList.isPrefixOf k'.toList = true → k = k' := by
  decide

theorem isHeader_iff_startsWith {k l : String} (hk : k ∈ declarationKeywords) :
    IsHeader k l ↔ startsWith (trimStart l) k = true := by
  have hhead := declarationKeywords_apart.1 k hk
  cases hcs : k.toList with
  | nil => simp [hcs] at hhead
  | cons c cs =>
    rw [hcs] at hhead
    simp only [List.head?_cons, Option.map_some, Option.some.injEq] at hhead
    rw [isHeader_iff hcs hhead, startsWith, trimStart, String.toList_ofList, hcs,
      List.isPrefixOf_iff_prefix]

/-- The scan finds keyword `k` on a line exactly when the line is a header opened by `k`: no
two keywords can open one line. -/
theorem headerKeyword_eq_some_iff {l k : String} :
    headerKeyword declarationKeywords l = some k ↔ k ∈ declarationKeywords ∧ IsHeader k l := by
  unfold headerKeyword
  constructor
  · intro h
    have hk := List.mem_of_find?_eq_some h
    exact ⟨hk, (isHeader_iff_startsWith hk).2 (List.find?_some h)⟩
  · rintro ⟨hk, hhead⟩
    obtain ⟨k', hk'⟩ := Option.isSome_iff_exists.1
      (List.find?_isSome.2 ⟨k, hk, (isHeader_iff_startsWith hk).1 hhead⟩)
    have hmem := List.mem_of_find?_eq_some hk'
    have hstart := List.find?_some hk'
    rw [startsWith, List.isPrefixOf_iff_prefix] at hstart
    have hstart' := (isHeader_iff_startsWith hk).1 hhead
    rw [startsWith, List.isPrefixOf_iff_prefix] at hstart'
    -- both keywords start the same text, so one starts the other
    rw [hk']
    rcases List.prefix_or_prefix_of_prefix hstart hstart' with h | h
    · exact congrArg some
        (declarationKeywords_apart.2 k' hmem k hk (List.isPrefixOf_iff_prefix.2 h))
    · exact congrArg some
        (declarationKeywords_apart.2 k hk k' hmem (List.isPrefixOf_iff_prefix.2 h)).symm

theorem headerOf_iff {l : String} {kd : BlockKind} :
    HeaderOf l kd ↔ ∃ k, headerKeyword declarationKeywords l = some k ∧ kd = kindOfKeyword k := by
  simp only [headerKeyword_eq_some_iff]
  simp only [HeaderOf, declarationKeywords, List.mem_cons, List.not_mem_nil, or_false]
  constructor
  · rintro (⟨h, rfl⟩ | ⟨h | h, rfl⟩ | ⟨h | h | h, rfl⟩)
    · exact ⟨"class ", ⟨by simp, h⟩, rfl⟩
    · exact ⟨"def ", ⟨by simp, h⟩, rfl⟩
    · exact ⟨"function ", ⟨by simp, h⟩, rfl⟩
    · exact ⟨"const ", ⟨by simp, h⟩, rfl⟩
    · exact ⟨"let ", ⟨by simp, h⟩, rfl⟩
    · exact ⟨"var ", ⟨by simp, h⟩, rfl⟩
  · rintro ⟨k, ⟨hk, h⟩, rfl⟩
    rcases hk with rfl | rfl | rfl | rfl | rfl | rfl <;> simp_all [kindOfKeyword]

/-! ## Header lines -/

theorem mem_headerStarts {lines : List String} {i : Nat} {kd : BlockKind} :
    (i, kd) ∈ headerStarts lines ↔
      ∃ l, lines[i]? = some l ∧ ∃ k, headerKeyword declarationKeywords l = some k ∧
        kd = kindOfKeyword k := by
  unfold headerStarts
  simp only [List.mem_filterMap, Option.map_eq_some_iff, Prod.mk.injEq, Prod.exists,
    List.mem_zipIdx_iff_getElem?]
  constructor
  · rintro ⟨l, j, hl, k, hk, rfl, rfl⟩
    exact ⟨l, hl, k, hk, rfl⟩
  · rintro ⟨l, hl, k, hk, rfl⟩
    exact ⟨l, i, hl, k, hk, rfl, rfl⟩

theorem pairwise_headerStarts (lines : List String) :
    (headerStarts lines).Pairwise (fun a b => a.1 < b.1) := by
  unfold headerStarts
  refine List.Pairwise.filterMap _ ?_ (pairwise_snd_zipIdx lines)
  rintro ⟨l, i⟩ ⟨l', j⟩ hij a ha b hb
  simp only [Option.map_eq_some_iff] at ha hb
  obtain ⟨-, -, rfl⟩ := ha
  obtain ⟨-, -, rfl⟩ := hb
  exact hij

theorem fst_lt_of_mem_headerStarts {lines : List String} {p : Nat × BlockKind}
    (hp : p ∈ headerStarts lines) : p.1 < lines.length := by
  obtain ⟨i, kd⟩ := p
  obtain ⟨l, hl, -⟩ := mem_headerStarts.1 hp
  exact (List.getElem?_eq_some_iff.1 hl).1

/-! ## Blocks between headers -/

/-- The blocks of headers `ss` (line and kind, in order of lines): each ends by indentation,
and before the next header or at the last line. -/
def blocksFrom (lines : List String) : List (Nat × BlockKind) → List Block
  | [] => []
  | [(s, k)] => [⟨k, s, min (blockEndByIndentation lines s) (lines.length - 1)⟩]
  | (s, k) :: t :: rest =>
    ⟨k, s, min (blockEndByIndentation lines s) (t.1 - 1)⟩ :: blocksFrom lines (t :: rest)

theorem headerBlocks_eq_blocksFrom (lines : List String) :
    headerBlocks lines = blocksFrom lines (headerStarts lines) := by
  unfold headerBlocks
  generalize headerStarts lines = ss
  -- the next header of each header is the one after it in `ss`
  induction ss using blocksFrom.induct with
  | case1 => rfl
  | case2 s k => rfl
  | case3 s k t rest ih =>
    simp only [List.drop_one, List.tail_cons, List.map_cons, List.cons_append, List.zip_cons_cons,
      List.map_cons, blocksFrom] at ih ⊢
    rw [← ih]

section Blocks

variable {lines : List String}

theorem map_blocksFrom (lines : List String) : ∀ ss : List (Nat × BlockKind),
    (blocksFrom lines ss).map (fun b => (b.startLine, b.kind)) = ss
  | [] => rfl
  | [_] => rfl
  | _ :: t :: rest => by
    rw [blocksFrom, List.map_cons, map_blocksFrom lines (t :: rest)]

theorem bounds_of_mem_blocksFrom : ∀ {ss : List (Nat × BlockKind)},
    ss.Pairwise (fun a b => a.1 < b.1) → (∀ p ∈ ss, p.1 < lines.length) →
      ∀ b ∈ blocksFrom lines ss, b.startLine ≤ b.endLine ∧ b.endLine < lines.length
  | [], _, _, b, hb => absurd hb List.not_mem_nil
  | [(s, k)], _, hlt, b, hb => by
    have hs : s < lines.length := hlt (s, k) List.mem_cons_self
    have hend := blockEndByIndentation_bounds hs
    rw [blocksFrom, List.mem_singleton] at hb
    subst hb
    simp only
    omega
  | (s, k) :: t :: rest, hsorted, hlt, b, hb => by
    rw [blocksFrom, List.mem_cons] at hb
    rcases hb with rfl | hb
    · have hs : s < lines.length := hlt (s, k) List.mem_cons_self
      have hst := List.rel_of_pairwise_cons hsorted List.mem_cons_self
      have ht := hlt t (List.mem_cons_of_mem _ List.mem_cons_self)
      have hend := blockEndByIndentation_bounds hs
      simp only at hst ⊢
      omega
    · exact bounds_of_mem_blocksFrom hsorted.of_cons
        (fun p hp => hlt p (List.mem_cons_of_mem _ hp)) b hb

theorem pairwise_blocksFrom : ∀ {ss : List (Nat × BlockKind)},
    ss.Pairwise (fun a b => a.1 < b.1) →
      (blocksFrom lines ss).Pairwise (fun b b' => b.endLine < b'.startLine)
  | [], _ => List.Pairwise.nil
  | [_], _ => List.pairwise_singleton _ _
  | (s, k) :: t :: rest, hsorted => by
    rw [blocksFrom]
    refine List.pairwise_cons.2 ⟨fun b hb => ?_, pairwise_blocksFrom hsorted.of_cons⟩
    -- a later block starts at a header at or after `t`
    have hstart : b.startLine ∈ (t :: rest).map Prod.fst := by
      rw [← map_blocksFrom lines (t :: rest), List.map_map]
      exact List.mem_map_of_mem hb
    have htle : t.1 ≤ b.startLine := by
      obtain ⟨p, hp, hpb⟩ := List.mem_map.1 hstart
      rw [← hpb]
      rcases List.mem_cons.1 hp with rfl | hp
      · exact le_refl _
      · exact (List.rel_of_pairwise_cons hsorted.of_cons hp).le
    have hst := List.rel_of_pairwise_cons hsorted List.mem_cons_self
    simp only at hst ⊢
    omega

end Blocks

theorem bounds_of_mem_headerBlocks {lines : List String} {b : Block} (hb : b ∈ headerBlocks lines) :
    b.startLine ≤ b.endLine ∧ b.endLine < lines.length := by
  rw [headerBlocks_eq_blocksFrom] at hb
  exact bounds_of_mem_blocksFrom (pairwise_headerStarts lines)
    (fun p hp => fst_lt_of_mem_headerStarts hp) b hb

/-- The header scan gives one block per declaration header, of the kind its keyword names; every
block lies in the text, starting at its header, and ends before the next block starts, so the
blocks come in order of lines and are apart. When the block source has no answer, finding blocks
is this scan of the text's lines. -/
theorem headerBlocks_spec (lines : List String) :
    (∀ i kd, (∃ b ∈ headerBlocks lines, b.startLine = i ∧ b.kind = kd) ↔
      ∃ l, lines[i]? = some l ∧ HeaderOf l kd) ∧
    (∀ b ∈ headerBlocks lines, b.startLine ≤ b.endLine ∧ b.endLine < lines.length) ∧
    (headerBlocks lines).Pairwise (fun b b' => b.endLine < b'.startLine) ∧
    ∀ (src : BlockSource) (content : String), src.parse content = none →
      findBlocks src content = headerBlocks (Text.lines content) := by
  have hapart : (headerBlocks lines).Pairwise (fun b b' => b.endLine < b'.startLine) := by
    rw [headerBlocks_eq_blocksFrom]
    exact pairwise_blocksFrom (pairwise_headerStarts lines)
  refine ⟨fun i kd => ?_, fun b hb => bounds_of_mem_headerBlocks hb, hapart,
    fun src content hnone => by simp [findBlocks, hnone]⟩
  rw [headerBlocks_eq_blocksFrom]
  have hmap := map_blocksFrom lines (headerStarts lines)
  constructor
  · rintro ⟨b, hb, rfl, rfl⟩
    have hmem : (b.startLine, b.kind) ∈ headerStarts lines := hmap ▸ List.mem_map_of_mem hb
    obtain ⟨l, hl, hkw⟩ := mem_headerStarts.1 hmem
    exact ⟨l, hl, headerOf_iff.2 hkw⟩
  · rintro ⟨l, hl, hhead⟩
    have hmem : (i, kd) ∈
        (blocksFrom lines (headerStarts lines)).map (fun b => (b.startLine, b.kind)) := by
      rw [hmap]
      exact mem_headerStarts.2 ⟨l, hl, headerOf_iff.1 hhead⟩
    obtain ⟨b, hb, hbi⟩ := List.mem_map.1 hmem
    exact ⟨b, hb, (Prod.mk.inj hbi).1, (Prod.mk.inj hbi).2⟩

/-- Two functions and a class between them, the second function on the last line: the source
has no answer, so the header scan gives the blocks, each cut before the next header. -/
theorem headerBlocks_spec_scan :
    (⟨fun _ => none, fun _ => []⟩ : BlockSource).parse "def f():\n    x\nclass A:\ndef g(): y\n" =
        none ∧
      findBlocks ⟨fun _ => none, fun _ => []⟩ "def f():\n    x\nclass A:\ndef g(): y\n" =
        headerBlocks ["def f():", "    x", "class A:", "def g(): y"] ∧
      headerBlocks ["def f():", "    x", "class A:", "def g(): y"] =
        [⟨.function, 0, 1⟩, ⟨.classDef, 2, 2⟩, ⟨.function, 3, 3⟩] := by
  refine ⟨rfl, ?_, by decide⟩
  have h := (headerBlocks_spec ["def f():", "    x", "class A:", "def g(): y"]).2.2.2
    ⟨fun _ => none, fun _ => []⟩
    "def f():\n    x\nclass A:\ndef g(): y\n" rfl
  rw [h]
  congr 1

end Linewise.Code
