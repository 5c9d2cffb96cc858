import Linewise.Cli.Run
import Linewise.Proofs.Json.ChunkText
import Linewise.Proofs.Chunk.Report
import Linewise.Proofs.Chunk.Merge
/-! Extracting chunks and putting their own target texts back. `Runs` says what a task does in a
workspace; relocating saved chunks with their own target texts leaves the workspace as it was
(`relocate_extracted_chunks_unchanged`) unless a target text ends with a line end. -/
namespace Linewise.Chunk

open Text Code

/-! ## Chunks of blocks that open on code -/

/-- Block `b` opens on code among the lines `L`: it starts no later than it ends, on a line that
is not blank. -/
def OpensOnCode (L : List String) (b : Block) : Prop :=
  b.startLine ≤ b.endLine ∧ ∀ l, L[b.startLine]? = some l → isBlankText l = false

theorem isBlankText_of_isHeader {k l : String} (hk : k ∈ declarationKeywords) (h : IsHeader k l) :
    isBlankText l = false := by
  obtain ⟨pre, rest, -, hl⟩ := h
  have hhead := declarationKeywords_apart.1 k hk
  cases hks : k.toList with
  | nil => rw [hks] at hhead; cases hhead
  | cons c cs =>
    -- the keyword's first character is not blank
    rw [hks] at hhead
    have hc : isBlank c = false := by simpa using hhead
    rw [isBlankText, List.all_eq_false]
    exact ⟨c, by rw [hl, hks]; simp, by rw [hc]; decide⟩

theorem opensOnCode_of_mem_headerBlocks {L : List String} {b : Block} (hb : b ∈ headerBlocks L) :
    OpensOnCode L b := by
  refine ⟨(bounds_of_mem_headerBlocks hb).1, fun l hl => ?_⟩
  have hstart : (b.startLine, b.kind) ∈ headerStarts L := by
    rw [headerBlocks_eq_blocksFrom] at hb
    rw [← map_blocksFrom L (headerStarts L)]
    exact List.mem_map_of_mem hb
  obtain ⟨l', hl', k, hk, -⟩ := mem_headerStarts.1 hstart
  rw [hl, Option.some.injEq] at hl'
  subst hl'
  obtain ⟨hkmem, hhdr⟩ := headerKeyword_eq_some_iff.1 hk
  exact isBlankText_of_isHeader hkmem hhdr

section Extraction

variable {src : BlockSource} {S : String} {keywords : List String} {path : String}
  {opts : ChunkOptions} {c : CodeChunk}

theorem opensOnCode_of_mem_findBlocks
    (hsrc : ∀ bs, src.parse S = some bs → ∀ b ∈ bs, OpensOnCode (lines S) b) {b : Block}
    (hb : b ∈ findBlocks src S) : OpensOnCode (lines S) b := by
  rcases mem_findBlocks hb with ⟨bs, hbs, hb⟩ | hb
  · exact hsrc bs hbs b hb
  · exact opensOnCode_of_mem_headerBlocks hb

theorem signature_ne_of_opensOnCode
    (hsrc : ∀ bs, src.parse S = some bs → ∀ b ∈ bs, OpensOnCode (lines S) b)
    (hc : c ∈ extractChunksWith src S keywords path opts) : c.signature ≠ "" := by
  obtain ⟨r, hr, hbuild⟩ := mem_extractChunksWith.1 hc
  have hopen : ∀ q ∈ (selectBlocks (lines S) (expandKeywords keywords) (findBlocks src S)
      opts.pinnedClass).map (fun b => (b.startLine, b.endLine)),
      q.1 ≤ q.2 ∧ ∀ l, (lines S)[q.1]? = some l → isBlankText l = false := by
    intro q hq
    obtain ⟨b, hb, rfl⟩ := List.mem_map.1 hq
    exact opensOnCode_of_mem_findBlocks hsrc (mem_selectBlocks hb)
  have hle : r.1 ≤ r.2 := fst_le_snd_of_mem_mergeRanges _ (fun q hq => (hopen q hq).1) hr
  obtain ⟨q, hq, hqr⟩ := (bounds_of_mem_mergeRanges hr).1
  obtain ⟨hs, -, hte, -, -, -, -, -, hsig⟩ := buildChunk_fields hbuild
  -- the target's first line is the first line of a block, which is not blank
  have hfirst : isBlankText (lines S)[r.1] = false :=
    (hopen q hq).2 _ (by rw [hqr]; exact List.getElem?_eq_getElem hs)
  have hslice : slice (lines S) r.1 (c.targetEnd + 1) =
      (lines S)[r.1] :: slice (lines S) (r.1 + 1) (c.targetEnd + 1) := by
    rw [slice, List.drop_eq_getElem_cons hs, show c.targetEnd + 1 - r.1 = (c.targetEnd + 1 - (r.1 + 1)) + 1
      by omega, List.take_succ_cons]
    rfl
  have hkeep : (!(trim (lines S)[r.1]).isEmpty) = true := by rw [trim_isEmpty, hfirst]; rfl
  rw [hsig, hslice, List.map_cons, List.find?_cons]
  simp only [hkeep, Option.getD_some]
  intro htrim
  rw [htrim] at hkeep
  exact absurd hkeep (by decide)

theorem fits_of_mem_extractChunksWith (hlen : (lines S).length ≤ Json.wordMax)
    (hc : c ∈ extractChunksWith src S keywords path opts) : c.Fits := by
  obtain ⟨s, e, h⟩ := exists_buildChunk_of_mem hc
  obtain ⟨hs, hts, hte, hsl, hel, -⟩ := buildChunk_fields h
  refine ⟨?_, ?_, ?_, ?_⟩ <;> omega

end Extraction

end Linewise.Chunk

namespace Linewise.Cli

open Text Code Chunk

/-! ## Sessions in a workspace -/

/-- A session run in a workspace: from transcript `t` and files `fs` it ends with `a`, leaving
transcript `t'` and files `fs'`. -/
def Runs {α : Type} (x : Session (StateM FileMap) α) (t : Transcript) (fs : FileMap) (a : α)
    (t' : Transcript) (fs' : FileMap) : Prop :=
  (x.run.run t).run fs = ((.ok a, t'), fs')

section Runs

variable {α β : Type} {t t₁ t₂ : Transcript} {fs fs₁ fs₂ : FileMap}

theorem Runs.bind {x : Session (StateM FileMap) α} {f : α → Session (StateM FileMap) β} {a : α}
    {b : β} (hx : Runs x t fs a t₁ fs₁) (hf : Runs (f a) t₁ fs₁ b t₂ fs₂) :
    Runs (x >>= f) t fs b t₂ fs₂ := by
  unfold Runs at *
  rw [ExceptT.run_bind, StateT.run_bind, StateT.run_bind, hx]
  exact hf

theorem Runs.pure (a : α) : Runs (Pure.pure a) t fs a t fs := rfl

theorem Runs.mapM {f : α → Session (StateM FileMap) β} :
    ∀ {xs : List α} {ys : List β}, List.Forall₂ (fun x y => Runs (f x) t fs y t fs) xs ys →
      Runs (xs.mapM f) t fs ys t fs
  | [], [], .nil => Runs.pure []
  | _ :: _, _ :: _, .cons hxy hrest => by
    rw [List.mapM_cons]
    exact hxy.bind <| (Runs.mapM hrest).bind (Runs.pure _)

theorem runs_readPath {p s : String} (h : readIn fs p = .ok s) :
    Runs (readPath workspaceHost p) t fs s t fs := by
  unfold readPath
  -- the host reads in the workspace, leaving both the transcript and the files as they were
  refine Runs.bind (a := readIn fs p) rfl ?_
  rw [h]
  exact Runs.pure s

theorem runs_write {p s : String} (h : writeIn fs p s = .ok fs₁) :
    Runs (liftM (workspaceHost.write p s) : Session (StateM FileMap) _) t fs (.ok ()) t fs₁ := by
  unfold Runs
  simp [workspaceHost, liftM, monadLift, MonadLift.monadLift, h]
  rfl

theorem runs_say (s : String) : Runs (say s) t fs () { t with out := t.out ++ s } fs := rfl

theorem runs_logAll (es : List LogEntry) :
    Runs (logAll es) t fs ()
      { t with err := es.foldl (fun acc e => if e.shows t.verbosity then acc ++ e.line else acc) t.err }
      fs := rfl

end Runs

section Paths

variable {files : FileMap} {p : String}

theorem locate_of_contains (hp : p.splitOn "/" = [p]) (hname : p ≠ "" ∧ p ≠ "." ∧ p ≠ "..")
    (h : files.contains p = true) : locate files p = .ok (.file p) := by
  obtain ⟨hne, hdot, hdots⟩ := hname
  have hstep : stepSpot files (.dir []) p = .ok (.file p) := by
    simp [stepSpot, hne, hdot, hdots, h]
  unfold locate
  rw [hp]
  split
  · next rest heq => simp at heq; exact absurd heq.1 hne
  · simp [hstep]

theorem readIn_of_get? {s : String} (hp : p.splitOn "/" = [p])
    (hname : p ≠ "" ∧ p ≠ "." ∧ p ≠ "..") (h : files.get? p = some s) : readIn files p = .ok s := by
  unfold readIn
  rw [locate_of_contains hp hname (by rw [FileMap.contains, h]; rfl)]
  show (pure ((files.get? p).getD "") : Except FileError String) = _
  rw [h]
  rfl

theorem writeIn_of_contains {s : String} (hp : p.splitOn "/" = [p])
    (hname : p ≠ "" ∧ p ≠ "." ∧ p ≠ "..") (h : files.contains p = true) :
    writeIn files p s = .ok (files.insert p s) := by
  unfold writeIn
  rw [locate_of_contains hp hname h]
  rfl

end Paths

theorem runIn_of_runs (src : BlockSource) {files : FileMap} {words : List String} {req : Request}
    (hw : readLine words = .ok req) {t : Transcript} {fs : FileMap}
    (h : Runs (perform workspaceHost src req.task) { verbosity := req.verbosity } files () t fs) :
    runIn src files words = (⟨0, t.out, t.err⟩, fs) := by
  unfold runIn runLine
  rw [hw]
  unfold Runs at h
  simp only [StateT.run_bind, h]
  rfl

/-! ## The chunk and relocation tasks -/

section Tasks

variable {t : Transcript} {fs : FileMap}

/-- Extracting chunks from a file that reads prints them as a pretty JSON list and changes no
file. -/
theorem runs_chunksTask (src : BlockSource) {file S : String} (h : readIn fs file = .ok S)
    (keywords : List String) (n : Nat) (pinned : Option String) :
    ∃ t', Runs (chunksTask workspaceHost src file keywords n pinned) t fs () t' fs ∧
      t'.out = t.out ++ (Json.pretty 0
        (.arr ((extractChunksWith src S keywords file ⟨n, pinned⟩).map CodeChunk.toJson)) ++ "\n") :=
  ⟨_, (runs_readPath h).bind <| (runs_logAll _).bind <| (runs_logAll _).bind (runs_say _), rfl⟩

theorem forall₂_readReplacements {paths texts : List String}
    (hR : List.Forall₂ (fun p r => readIn fs p = .ok r) paths texts) :
    ∀ {cs : List CodeChunk}, cs.length = paths.length →
      List.Forall₂ (fun (x : CodeChunk × String) y =>
          Runs (do pure (x.1, dropFinalNewlines (← readPath workspaceHost x.2))) t fs y t fs)
        (cs.zip paths) (cs.zip (texts.map dropFinalNewlines)) := by
  induction hR with
  | nil => intro cs _; simp
  | cons hpr _ ih =>
    intro cs hlen
    obtain ⟨c, cs, rfl⟩ := List.exists_cons_of_length_eq_add_one hlen
    exact .cons ((runs_readPath hpr).bind (Runs.pure _)) (ih (Nat.succ.inj hlen))

/-- Relocating, not as a dry run, when the file, the chunks and one replacement per chunk read
and every fix is applied: it prints nothing, and writes the new text unless it is the text it
read. -/
theorem runs_relocateTask {file chunksPath S text : String} {cs : List CodeChunk}
    {paths texts : List String} (n : Nat) (after : FileMap)
    (hF : readIn fs file = .ok S) (hJ : readIn fs chunksPath = .ok text)
    (hcs : CodeChunk.readAll text = .ok cs) (hlen : cs.length = paths.length)
    (hR : List.Forall₂ (fun p r => readIn fs p = .ok r) paths texts)
    (hall : (applyChunkFixes S (cs.zip (texts.map dropFinalNewlines)) ⟨n, none⟩).failures = [])
    (hwrite : let T := (applyChunkFixes S (cs.zip (texts.map dropFinalNewlines)) ⟨n, none⟩).newContent
      if T = S then after = fs else writeIn fs file T = .ok after) :
    ∃ t', Runs (relocateTask workspaceHost file chunksPath paths n false) t fs () t' after ∧
      t'.out = t.out := by
  unfold relocateTask
  dsimp only at hwrite
  split_ifs at hwrite with hsame
  -- the steps up to placing the fixes are the same whether the new text is written or not
  all_goals
    refine ⟨?_, ?_, ?_⟩
    rotate_left
    refine Runs.bind (runs_readPath hF) <| Runs.bind (runs_readPath hJ) ?_
    dsimp only
    rw [hcs]
    dsimp only
    refine Runs.bind (Runs.pure cs) ?_
    rw [if_neg (by simp [hlen])]
    refine Runs.bind (a := cs.zip (texts.map dropFinalNewlines))
      (Runs.mapM (forall₂_readReplacements hR hlen)) ?_
    refine Runs.bind (runs_logAll _) <| Runs.bind (runs_logAll _) ?_
    rw [if_neg Bool.false_ne_true]
  · -- the text comes back as it was: nothing is written
    rw [hwrite, hsame, bne_self_eq_false, if_neg Bool.false_ne_true, hall, List.length_nil,
      if_neg (Nat.lt_irrefl 0)]
    exact Runs.pure ()
  · rfl
  · rw [if_pos (bne_iff_ne.2 hsame)]
    refine Runs.bind (runs_write hwrite) <| Runs.bind (runs_logAll _) ?_
    rw [hall, List.length_nil, if_neg (Nat.lt_irrefl 0)]
    exact Runs.pure ()
  · rfl

end Tasks

/-! ## Fixes that give the text back -/

theorem dropFinalNewlines_of_endsWithNewline {s : String} (h : endsWithNewline s = false) :
    dropFinalNewlines s = s := by
  unfold dropFinalNewlines
  unfold endsWithNewline at h
  cases hr : s.toList.reverse with
  | nil =>
    rw [List.reverse_eq_nil_iff] at hr
    rw [List.dropWhile_nil, List.reverse_nil, ← hr, String.ofList_toList]
  | cons x xs =>
    -- the last character is the first of the reversed text, and it is not a line end
    have hx : (x == '\n') = false := by
      rw [← List.head?_reverse, hr] at h
      simpa using h
    rw [List.dropWhile_cons_of_neg (by simp [hx]), ← hr, List.reverse_reverse, String.ofList_toList]

theorem applyChunkFixes_singleton (T : String) (fx : CodeChunk × String) (opts : ChunkOptions) :
    applyChunkFixes T [fx] opts = ⟨placeFix opts T fx, [fixOutcome opts T fx]⟩ := by
  rw [applyChunkFixes_eq_foldl, foldl_applyStep]
  simp [fixOrder, placeAll, outcomesInTurn]

/-- Fixes each of which, placed in `S`, gives `S` back are all applied and leave `S` as it was. -/
theorem applyChunkFixes_of_fixed {S : String} {fixes : List (CodeChunk × String)}
    {opts : ChunkOptions} (h : ∀ fx ∈ fixes, ∃ st, relocateChunk S fx.1 fx.2 opts = .ok ⟨S, st⟩) :
    (applyChunkFixes S fixes opts).newContent = S ∧ (applyChunkFixes S fixes opts).failures = [] := by
  -- placing the fixes in turn keeps the text at `S`, and every outcome is an application
  have hturn : ∀ ord : List (Nat × CodeChunk × String),
      (∀ x ∈ ord, ∃ st, relocateChunk S x.2.1 x.2.2 opts = .ok ⟨S, st⟩) →
      placeAll opts S (ord.map Prod.snd) = S ∧ ∀ y ∈ outcomesInTurn opts S ord, ∃ st, y.2 = .applied st := by
    intro ord
    induction ord with
    | nil => simp [placeAll, outcomesInTurn]
    | cons x ord ih =>
      intro hord
      obtain ⟨st, hx⟩ := hord x List.mem_cons_self
      have hplace : placeFix opts S x.2 = S := by rw [placeFix, hx]
      obtain ⟨hS, hout⟩ := ih fun y hy => hord y (List.mem_cons_of_mem _ hy)
      refine ⟨by rw [List.map_cons, placeAll, List.foldl_cons, hplace]; exact hS, ?_⟩
      rw [outcomesInTurn, hplace]
      rintro y (_ | ⟨_, hy⟩)
      · exact ⟨st, by rw [fixOutcome, hx]⟩
      · exact hout y hy
  obtain ⟨hS, hout⟩ := hturn (fixOrder fixes) fun x hx =>
    h x.2 (List.mem_of_getElem? (mem_fixOrder.1 hx))
  rw [applyChunkFixes_eq_foldl, foldl_applyStep]
  refine ⟨hS, (allApplied_iff _).1 ?_⟩
  rw [Application.allApplied, List.all_eq_true]
  intro st hst
  obtain ⟨y, hy, rfl⟩ := List.mem_map.1 hst
  obtain ⟨st', hst'⟩ := hout y (by simpa using (List.mem_mergeSort).1 hy)
  rw [hst']

/-! ## Extracting and relocating -/

/-- Saving what `chunks` prints, and one file per chunk holding the chunk's own target text, then
relocating them into the file leaves the workspace as it was: both runs exit with code 0, and
relocating prints nothing. This holds for a text without carriage returns and with at most
`wordMax` lines, when the blocks the source gives open on code (those of the header scan always
do) and no chunk's target text ends with a line end, since relocating reads each replacement
with its final line ends dropped. -/
theorem relocate_extracted_chunks_unchanged (src : BlockSource) {files saved : FileMap}
    {chunkWords relocateWords keywords paths : List String} {v v' n n' : Nat}
    {file chunksPath S : String} {pinned : Option String}
    (hc : readLine chunkWords = .ok ⟨v, .chunks file keywords n pinned⟩)
    (hr : readLine relocateWords = .ok ⟨v', .relocate file chunksPath paths n' false⟩)
    (hS : readIn files file = .ok S) (hcr : '\r' ∉ S.toList)
    (hlen : (lines S).length ≤ Json.wordMax)
    (hsrc : ∀ bs, src.parse S = some bs → ∀ b ∈ bs, OpensOnCode (lines S) b)
    (hcore : ∀ c ∈ extractChunksWith src S keywords file ⟨n, pinned⟩,
      endsWithNewline c.coreText = false)
    (hF : readIn saved file = .ok S)
    (hJ : readIn saved chunksPath = .ok (runIn src files chunkWords).1.out)
    (hR : List.Forall₂ (fun p c => readIn saved p = .ok (CodeChunk.coreText c)) paths
      (extractChunksWith src S keywords file ⟨n, pinned⟩)) :
    (runIn src files chunkWords).1.code = 0 ∧ (runIn src files chunkWords).2 = files ∧
      (runIn src saved relocateWords).1.code = 0 ∧ (runIn src saved relocateWords).1.out = "" ∧
      (runIn src saved relocateWords).2 = saved := by
  set cs := extractChunksWith src S keywords file ⟨n, pinned⟩ with hcs
  -- the chunk run prints the chunks and changes no file
  obtain ⟨t, hrun, hout⟩ := runs_chunksTask src (t := { verbosity := v }) hS keywords n pinned
  have hchunks := runIn_of_runs src hc hrun
  have hread : CodeChunk.readAll (runIn src files chunkWords).1.out = .ok cs := by
    rw [hchunks]
    dsimp only
    rw [hout, String.empty_append]
    exact readAll_pretty cs fun c hc => fits_of_mem_extractChunksWith hlen hc
  -- each replacement is read back as the chunk's own target text, which gives the text back
  have htexts : (cs.map CodeChunk.coreText).map dropFinalNewlines = cs.map CodeChunk.coreText := by
    rw [List.map_map]
    exact List.map_congr_left fun c hc => dropFinalNewlines_of_endsWithNewline (hcore c hc)
  have hzip : cs.zip (cs.map CodeChunk.coreText) = cs.map fun c => (c, c.coreText) := by
    simpa using List.zip_map' (f := id) (g := CodeChunk.coreText) (l := cs)
  have hfixed : ∀ fx ∈ cs.zip ((cs.map CodeChunk.coreText).map dropFinalNewlines),
      ∃ st, relocateChunk S fx.1 fx.2 ⟨n', none⟩ = .ok ⟨S, st⟩ := by
    rw [htexts, hzip]
    intro fx hfx
    obtain ⟨c, hc, rfl⟩ := List.mem_map.1 hfx
    exact ⟨_, relocateChunk_coreText hcr hc (signature_ne_of_opensOnCode hsrc hc) _⟩
  obtain ⟨hsame, hall⟩ := applyChunkFixes_of_fixed hfixed
  obtain ⟨t', hrun', hout'⟩ := runs_relocateTask (t := { verbosity := v' }) n' saved hF hJ
    hread hR.length_eq.symm (List.forall₂_map_right_iff.2 hR) hall (by dsimp only; rw [if_pos hsame])
  have hrelocate := runIn_of_runs src hr hrun'
  rw [hchunks, hrelocate]
  exact ⟨rfl, rfl, rfl, hout', rfl⟩

/-- A one-function module under the header scan: the chunk run prints its one chunk, and saving
that with the chunk's own target text and relocating leaves the workspace as it was. -/
theorem relocate_extracted_chunks_unchanged_one_function :
    let src : BlockSource := ⟨fun _ => none, fun _ => []⟩
    let files : FileMap := ⟨[("m.py", "def f():\n    return 1\n")]⟩
    let printed := (runIn src files ["chunks", "m.py", "-k", "f"]).1.out
    let saved : FileMap :=
      ⟨[("cs", printed), ("m.py", "def f():\n    return 1\n"), ("r1", "def f():\n    return 1")]⟩
    extractChunksWith src "def f():\n    return 1\n" ["f"] "m.py" ⟨10, none⟩ =
        [⟨0, 1, "def f():\n    return 1", "def f():", "m.py", "", "", 0, 1⟩] ∧
      (runIn src files ["chunks", "m.py", "-k", "f"]).1.code = 0 ∧
      (runIn src files ["chunks", "m.py", "-k", "f"]).2 = files ∧
      (runIn src saved ["relocate", "m.py", "cs", "r1"]).1.code = 0 ∧
      (runIn src saved ["relocate", "m.py", "cs", "r1"]).1.out = "" ∧
      (runIn src saved ["relocate", "m.py", "cs", "r1"]).2 = saved := by
  intro src files printed saved
  have hC : extractChunksWith src "def f():\n    return 1\n" ["f"] "m.py" ⟨10, none⟩ =
      [⟨0, 1, "def f():\n    return 1", "def f():", "m.py", "", "", 0, 1⟩] := by
    cbv
  have hcore : CodeChunk.coreText ⟨0, 1, "def f():\n    return 1", "def f():", "m.py", "", "", 0, 1⟩ =
      "def f():\n    return 1" := by
    cbv
  have hm : "m.py".splitOn "/" = ["m.py"] := by cbv
  have hcs : "cs".splitOn "/" = ["cs"] := by cbv
  have hr1 : "r1".splitOn "/" = ["r1"] := by cbv
  have hc : readLine ["chunks", "m.py", "-k", "f"] = .ok ⟨0, .chunks "m.py" ["f"] 10 none⟩ := by cbv
  have hr : readLine ["relocate", "m.py", "cs", "r1"] = .ok ⟨0, .relocate "m.py" "cs" ["r1"] 10 false⟩ := by
    cbv
  have hlen : (lines "def f():\n    return 1\n").length ≤ Json.wordMax := by decide
  refine ⟨hC, relocate_extracted_chunks_unchanged src hc hr (readIn_of_get? hm (by decide) (by decide))
    (by decide) hlen (fun _ h => by cases h) (by rw [hC]; simp [hcore]; decide)
    (readIn_of_get? hm (by decide) (by simp [saved, FileMap.get?, List.lookup]))
    (readIn_of_get? hcs (by decide) (by simp [saved, FileMap.get?, List.lookup, printed]))
    (by rw [hC]; exact .cons (readIn_of_get? hr1 (by decide) (by simp [saved, FileMap.get?, List.lookup, hcore])) .nil)⟩

/-- A target ending on a blank line: its target text ends with a line end, which relocating drops
from the replacement, so the file loses the blank line although every fix is applied. -/
theorem relocate_extracted_chunks_drops_blank_line :
    let src : BlockSource := ⟨fun _ => none, fun _ => []⟩
    let F := "function f() \x7b\n  return 1;\n\n\x7d\n"
    let core := "function f() \x7b\n  return 1;\n"
    let files : FileMap := ⟨[("f.js", F)]⟩
    let printed := (runIn src files ["chunks", "f.js", "-k", "f"]).1.out
    let saved : FileMap := ⟨[("cs", printed), ("f.js", F), ("r1", core)]⟩
    (extractChunksWith src F ["f"] "f.js" ⟨10, none⟩).map CodeChunk.coreText = [core] ∧
      (runIn src files ["chunks", "f.js", "-k", "f"]).1.code = 0 ∧
      (runIn src saved ["relocate", "f.js", "cs", "r1"]).1.code = 0 ∧
      (runIn src saved ["relocate", "f.js", "cs", "r1"]).2 =
        ⟨[("cs", printed), ("f.js", "function f() \x7b\n  return 1;\n\x7d\n"), ("r1", core)]⟩ := by
  intro src F core files printed saved
  let c : CodeChunk := ⟨0, 3, "function f() \x7b\n  return 1;\n\n\x7d", "function f() \x7b", "f.js", "",
    "\x7d", 0, 2⟩
  have hC : extractChunksWith src F ["f"] "f.js" ⟨10, none⟩ = [c] := by cbv
  have hcore : c.coreText = core := by cbv
  have hf : "f.js".splitOn "/" = ["f.js"] := by cbv
  have hcs : "cs".splitOn "/" = ["cs"] := by cbv
  have hr1 : "r1".splitOn "/" = ["r1"] := by cbv
  have hc : readLine ["chunks", "f.js", "-k", "f"] = .ok ⟨0, .chunks "f.js" ["f"] 10 none⟩ := by cbv
  have hr : readLine ["relocate", "f.js", "cs", "r1"] =
      .ok ⟨0, .relocate "f.js" "cs" ["r1"] 10 false⟩ := by
    cbv
  -- the chunk run prints the one chunk, which reads back
  have hfile : readIn files "f.js" = .ok F := readIn_of_get? hf (by decide) (by decide)
  obtain ⟨t, hrun, hout⟩ := runs_chunksTask src (t := { verbosity := 0 }) hfile ["f"] 10 none
  have hchunks := runIn_of_runs src hc hrun
  have hread : CodeChunk.readAll printed = .ok [c] := by
    show CodeChunk.readAll (runIn src files _).1.out = _
    rw [hchunks]
    dsimp only
    rw [hout, String.empty_append, hC]
    refine readAll_pretty _ fun c' hc' => ?_
    rw [List.mem_singleton.1 hc']
    exact ⟨by decide, by decide, by decide, by decide⟩
  -- the replacement loses its last line end, and so the target its blank last line
  have happ : applyChunkFixes F ([c].zip ([core].map dropFinalNewlines)) ⟨10, none⟩ =
      ⟨"function f() \x7b\n  return 1;\n\x7d\n", [.applied .exactContext]⟩ := by
    have hdrop : dropFinalNewlines core = "function f() \x7b\n  return 1;" := by cbv
    have hplace : relocateChunk F c "function f() \x7b\n  return 1;" ⟨10, none⟩ =
        .ok ⟨"function f() \x7b\n  return 1;\n\x7d\n", .exactContext⟩ := by
      decide
    rw [List.map_singleton, hdrop, List.zip_cons_cons, List.zip_nil_left, applyChunkFixes_singleton,
      placeFix, fixOutcome, hplace]
  have hsavedF : readIn saved "f.js" = .ok F :=
    readIn_of_get? hf (by decide) (by simp [saved, FileMap.get?, List.lookup])
  have hsavedJ : readIn saved "cs" = .ok printed :=
    readIn_of_get? hcs (by decide) (by simp [saved, FileMap.get?, List.lookup])
  have hsavedR : readIn saved "r1" = .ok core :=
    readIn_of_get? hr1 (by decide) (by simp [saved, FileMap.get?, List.lookup])
  obtain ⟨t', hrun', -⟩ := runs_relocateTask (t := { verbosity := 0 }) 10
    ⟨[("cs", printed), ("f.js", "function f() \x7b\n  return 1;\n\x7d\n"), ("r1", core)]⟩
    hsavedF hsavedJ hread rfl (.cons hsavedR .nil) (by rw [happ]; rfl) (by
      dsimp only
      rw [happ, if_neg (by decide), writeIn_of_contains hf (by decide)
        (by simp [saved, FileMap.contains, FileMap.get?, List.lookup])]
      simp [saved, FileMap.insert, FileMap.insertEntry, show ¬ ("f.js" < "cs") by decide])
  have hrelocate := runIn_of_runs src hr hrun'
  refine ⟨by rw [hC, List.map_singleton, hcore], by rw [hchunks], by rw [hrelocate], by rw [hrelocate]⟩

end Linewise.Cli
