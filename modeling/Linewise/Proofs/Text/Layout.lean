import Linewise.Chunk.Basic
import Linewise.Proofs.Text.Search
/-! Where the lines of a text stand in it. A text is its pieces between newlines joined by
newlines; without carriage returns its lines are those pieces less a final empty one, and
line `n` starts past the lines before it and their newlines. Joining lines back gives a text
whose lines are the same, less a final empty line. -/
namespace Linewise

theorem length_slice {α : Type} (xs : List α) (a b : Nat) :
    (slice xs a b).length = min b xs.length - a := by
  simp only [slice, List.length_take, List.length_drop]
  omega

theorem slice_slice {α : Type} (xs : List α) (a b i j : Nat) :
    slice (slice xs a b) i j = slice xs (a + i) (a + min j (b - a)) := by
  simp only [slice, List.drop_take, List.take_take, List.drop_drop]
  congr 1
  omega

theorem slice_eq_nil {α : Type} {xs : List α} {a b : Nat} (h : b ≤ a) : slice xs a b = [] := by
  simp [slice, Nat.sub_eq_zero_of_le h]

theorem slice_add_one {α : Type} {xs : List α} {a b : Nat} (hab : a ≤ b) (hb : b < xs.length) :
    slice xs a (b + 1) = slice xs a b ++ [xs[b]] := by
  simp only [slice, Nat.sub_add_comm hab, List.take_add_one, List.getElem?_drop,
    Nat.add_sub_cancel' hab, List.getElem?_eq_getElem hb, Option.toList_some]

theorem mem_of_mem_slice {α : Type} {xs : List α} {a b : Nat} {x : α} (h : x ∈ slice xs a b) :
    x ∈ xs :=
  List.mem_of_mem_drop (List.mem_of_mem_take h)

theorem getLast?_slice {α : Type} {xs : List α} {a b : Nat} (hab : a < b) (hb : b ≤ xs.length) :
    (slice xs a b).getLast? = xs[b - 1]? := by
  rw [List.getLast?_eq_getElem?, length_slice, slice, List.getElem?_take, List.getElem?_drop]
  rw [if_pos (by omega), Nat.min_eq_left hb]
  congr 1
  omega

end Linewise

namespace Linewise.Text

/-- The pieces of a text between newlines. -/
def pieces (s : String) : List (List Char) := s.toList.splitOn '\n'

/-- Where piece `i` starts: past the pieces before it and their newlines. -/
def pieceStart (ps : List (List Char)) (i : Nat) : Nat := ((ps.take i).map (·.length + 1)).sum

/-- Where line `n` of a text starts: past the lines before it and their newlines. -/
def lineStart (s : String) (n : Nat) : Nat := pieceStart ((lines s).map String.toList) n

theorem toList_eq_intercalate_pieces (s : String) : s.toList = ['\n'].intercalate (pieces s) :=
  (List.intercalate_splitOn '\n').symm

theorem mem_intercalate_of_mem {sep l : List Char} {c : Char} :
    ∀ {ls : List (List Char)}, l ∈ ls → c ∈ l → c ∈ sep.intercalate ls
  | [], hl, _ => absurd hl List.not_mem_nil
  | [x], hl, hc => by simp_all
  | x :: y :: rest, hl, hc => by
    rw [List.intercalate_cons_cons]
    rcases List.mem_cons.1 hl with rfl | hl
    · simp [hc]
    · exact List.mem_append_right _ (mem_intercalate_of_mem hl hc)

theorem not_mem_of_mem_splitOnP {p : Char → Bool} :
    ∀ {cs l : List Char}, l ∈ cs.splitOnP p → ∀ c ∈ l, p c = false
  | [], l, hl => by simp [List.splitOnP_nil] at hl; simp [hl]
  | x :: xs, l, hl => by
    rw [List.splitOnP_cons_eq_if_modifyHead] at hl
    split at hl
    · rcases List.mem_cons.1 hl with rfl | hl
      · simp
      · exact not_mem_of_mem_splitOnP hl
    · next hx =>
      obtain ⟨r, rs, hr⟩ := List.exists_cons_of_ne_nil (List.splitOnP_ne_nil p xs)
      rw [hr, List.modifyHead_cons] at hl
      rcases List.mem_cons.1 hl with rfl | hl
      · intro c hc
        rcases List.mem_cons.1 hc with rfl | hc
        · simpa using hx
        · exact not_mem_of_mem_splitOnP (hr ▸ List.mem_cons_self) c hc
      · exact not_mem_of_mem_splitOnP (hr ▸ List.mem_cons_of_mem _ hl)

theorem newline_not_mem_of_mem_pieces {s : String} {p : List Char} (hp : p ∈ pieces s) :
    '\n' ∉ p := fun h => by
  have hp' : p ∈ s.toList.splitOnP (· == '\n') := hp
  have := not_mem_of_mem_splitOnP hp' '\n' h
  simp at this

theorem return_not_mem_of_mem_pieces {s : String} (hs : '\r' ∉ s.toList) {p : List Char}
    (hp : p ∈ pieces s) : '\r' ∉ p := fun h =>
  hs ((toList_eq_intercalate_pieces s) ▸ mem_intercalate_of_mem hp h)

theorem dropReturn_eq_self {cs : List Char} (h : '\r' ∉ cs) : dropReturn cs = cs := by
  unfold dropReturn
  split
  · next hl => exact absurd (List.mem_of_getLast? hl) h
  · rfl

theorem lineChars_eq {s : String} (hs : '\r' ∉ s.toList) :
    lineChars s.toList = if (pieces s).getLast? = some [] then (pieces s).dropLast else pieces s := by
  have hne : pieces s ≠ [] := List.splitOn_ne_nil _ _
  have hended : (pieces s).dropLast.map dropReturn = (pieces s).dropLast :=
    (List.map_congr_left fun p hp =>
      dropReturn_eq_self (return_not_mem_of_mem_pieces hs (List.mem_of_mem_dropLast hp))).trans
      (List.map_id _)
  unfold lineChars
  dsimp only
  rw [show s.toList.splitOn '\n' = pieces s from rfl, hended, List.getLast?_eq_some_getLast hne]
  by_cases hl : (pieces s).getLast hne = []
  · simp [hl]
  · simp only [hl, List.isEmpty_iff, Option.some.injEq, ↓reduceIte]
    exact List.dropLast_concat_getLast hne

theorem map_toList_lines {s : String} (hs : '\r' ∉ s.toList) :
    (lines s).map String.toList = (pieces s).take (lines s).length := by
  have hl : (lines s).map String.toList = lineChars s.toList := by
    simp [lines, Function.comp_def, String.toList_ofList]
  have hlen : (lines s).length = (lineChars s.toList).length := by simp [lines]
  rw [hl, hlen, lineChars_eq hs]
  split
  · simp [List.dropLast_eq_take]
  · simp

theorem length_lines_le_length_pieces {s : String} (hs : '\r' ∉ s.toList) :
    (lines s).length ≤ (pieces s).length := by
  have h := congrArg List.length (map_toList_lines hs)
  simp only [List.length_map, List.length_take] at h
  omega

theorem map_toList_slice_lines {s : String} (hs : '\r' ∉ s.toList) {a b : Nat}
    (hb : b ≤ (lines s).length) : (slice (lines s) a b).map String.toList = slice (pieces s) a b := by
  rw [slice, List.map_take, List.map_drop, map_toList_lines hs, List.drop_take, List.take_take,
    Nat.min_eq_left (by omega), slice]

theorem drop_pieceStart : ∀ {ps : List (List Char)} {i : Nat}, i < ps.length →
    (['\n'].intercalate ps).drop (pieceStart ps i) = ['\n'].intercalate (ps.drop i)
  | [], _, h => absurd h (Nat.not_lt_zero _)
  | p :: ps, 0, _ => by simp [pieceStart]
  | p :: ps, i + 1, h => by
    have hps : ps ≠ [] := by rintro rfl; simp at h
    have hi : i < ps.length := by simpa using h
    have hstart : pieceStart (p :: ps) (i + 1) = (p.length + 1) + pieceStart ps i := by
      simp [pieceStart]
    have hhead : (p ++ ['\n']).length = p.length + 1 := by simp
    rw [hstart, List.intercalate_cons_of_ne_nil hps, List.drop_append,
      List.drop_eq_nil_of_le (by omega), List.nil_append, hhead, Nat.add_sub_cancel_left,
      List.drop_succ_cons]
    exact drop_pieceStart hi

theorem pieceStart_add (ps : List (List Char)) {i j : Nat} (h : i ≤ j) :
    pieceStart ps j = pieceStart ps i + ((slice ps i j).map (·.length + 1)).sum := by
  obtain ⟨k, rfl⟩ := Nat.exists_eq_add_of_le h
  simp [pieceStart, slice, List.take_add]

theorem pieceStart_mono (ps : List (List Char)) {i j : Nat} (h : i ≤ j) :
    pieceStart ps i ≤ pieceStart ps j := by
  rw [pieceStart_add ps h]
  exact Nat.le_add_right _ _

theorem length_intercalate_add_one : ∀ {ls : List (List Char)}, ls ≠ [] →
    (['\n'].intercalate ls).length + 1 = (ls.map (·.length + 1)).sum
  | [], h => absurd rfl h
  | [l], _ => by simp
  | l :: m :: rest, _ => by
    rw [List.intercalate_cons_cons]
    have ih := @length_intercalate_add_one (m :: rest) (List.cons_ne_nil _ _)
    simp only [List.length_append, List.length_singleton, List.map_cons, List.sum_cons] at ih ⊢
    omega

theorem pieceStart_add_length {ps : List (List Char)} {i j : Nat} (hij : i < j)
    (hj : j ≤ ps.length) :
    pieceStart ps i + (['\n'].intercalate (slice ps i j)).length + 1 = pieceStart ps j := by
  have hne : slice ps i j ≠ [] := by
    simp only [slice, ne_eq, List.take_eq_nil_iff, List.drop_eq_nil_iff, not_or]
    omega
  rw [Nat.add_assoc, length_intercalate_add_one hne, ← pieceStart_add ps hij.le]

theorem intercalate_append {sep : List Char} : ∀ {xs ys : List (List Char)}, xs ≠ [] → ys ≠ [] →
    sep.intercalate (xs ++ ys) = sep.intercalate xs ++ sep ++ sep.intercalate ys
  | [], _, h, _ => absurd rfl h
  | [x], ys, _, hys => by simp [List.intercalate_cons_of_ne_nil hys]
  | x :: y :: rest, ys, _, hys => by
    rw [List.cons_append, List.intercalate_cons_of_ne_nil (by simp),
      intercalate_append (List.cons_ne_nil _ _) hys, List.intercalate_cons_cons]
    simp

theorem intercalate_drop {ps : List (List Char)} {i j : Nat} (hij : i < j) (hj : j ≤ ps.length) :
    ['\n'].intercalate (ps.drop i) = ['\n'].intercalate (slice ps i j) ++
      (if j < ps.length then '\n' :: ['\n'].intercalate (ps.drop j) else []) := by
  have hsplit : ps.drop i = slice ps i j ++ ps.drop j := by
    have hd : ps.drop j = (ps.drop i).drop (j - i) := by
      rw [List.drop_drop, Nat.add_sub_cancel' hij.le]
    rw [hd, slice, List.take_append_drop]
  rw [hsplit]
  split
  · next hlt =>
    have hne : slice ps i j ≠ [] := by
      simp only [slice, ne_eq, List.take_eq_nil_iff, List.drop_eq_nil_iff, not_or]
      omega
    rw [intercalate_append hne (by simp; omega)]
    simp
  · next hge =>
    rw [List.drop_eq_nil_of_le (by omega)]
    simp

/-- A line as reading it back after a newline leaves it: less one final carriage return. -/
def dropLineReturn (l : String) : String := String.ofList (dropReturn l.toList)

theorem dropLineReturn_of_getLast? {l : String} (h : l.toList.getLast? ≠ some '\r') :
    dropLineReturn l = l := by
  rw [dropLineReturn, dropReturn, if_neg h, String.ofList_toList]

/-- Joining lines that hold no newline and reading the lines back gives them again, each line but
the last without a final carriage return, and less a final empty line. -/
theorem lines_joinLines_eq {ls : List String} (hls : ∀ l ∈ ls, '\n' ∉ l.toList) :
    lines (joinLines ls) =
      ls.dropLast.map dropLineReturn ++ if ls.getLast? = some "" then [] else ls.getLast?.toList := by
  rcases eq_or_ne ls [] with rfl | hne
  · simp [joinLines, lines_empty]
  have hsplit : (joinLines ls).toList.splitOn '\n' = ls.map String.toList := by
    rw [joinLines, String.toList_intercalate]
    exact List.splitOn_intercalate '\n' (by simpa using hls) (by simpa)
  have hmne : ls.map String.toList ≠ [] := by simpa using hne
  unfold lines lineChars
  dsimp only
  rw [hsplit, List.getLast?_eq_some_getLast hmne, List.getLast?_eq_some_getLast hne,
    List.getLast_map, ← List.map_dropLast, List.map_map]
  by_cases hlast : ls.getLast hne = ""
  · simp [hlast, Function.comp_def]
    rfl
  · have hlast' : (ls.getLast hne).toList.isEmpty = false := Bool.eq_false_iff.2 fun h =>
      hlast (String.toList_inj.1 ((List.isEmpty_iff.1 h).trans String.toList_empty.symm))
    simp [hlast', hlast, Function.comp_def]
    rfl

/-- Joining lines that hold no line ending and reading the lines back gives them again, less a
final empty line. -/
theorem lines_joinLines {ls : List String} (hls : ∀ l ∈ ls, '\n' ∉ l.toList ∧ '\r' ∉ l.toList) :
    lines (joinLines ls) = if ls.getLast? = some "" then ls.dropLast else ls := by
  have hkeep : ls.dropLast.map dropLineReturn = ls.dropLast :=
    (List.map_congr_left fun l hl => dropLineReturn_of_getLast? fun h =>
      (hls l (List.mem_of_mem_dropLast hl)).2 (List.mem_of_getLast? h)).trans (List.map_id _)
  rw [lines_joinLines_eq fun l hl => (hls l hl).1, hkeep]
  split
  · rw [List.append_nil]
  · rcases eq_or_ne ls [] with rfl | hne
    · rfl
    · rw [List.getLast?_eq_some_getLast hne, Option.toList_some, List.dropLast_concat_getLast]

theorem pieceStart_take (ps : List (List Char)) {k m : Nat} (h : k ≤ m) :
    pieceStart (ps.take m) k = pieceStart ps k := by
  rw [pieceStart, List.take_take, Nat.min_eq_left h, pieceStart]

theorem lineStart_eq_pieceStart {s : String} (hs : '\r' ∉ s.toList) {k : Nat}
    (hk : k ≤ (lines s).length) : lineStart s k = pieceStart (pieces s) k := by
  rw [lineStart, map_toList_lines hs, pieceStart_take _ hk]

theorem lineStart_mono (s : String) {i j : Nat} (h : i ≤ j) : lineStart s i ≤ lineStart s j :=
  pieceStart_mono _ h

theorem toList_joinLines {ls : List String} :
    (joinLines ls).toList = ['\n'].intercalate (ls.map String.toList) := by
  rw [joinLines, String.toList_intercalate]
  rfl

theorem line_endings_not_mem {s : String} (hs : '\r' ∉ s.toList) {l : String} (hl : l ∈ lines s) :
    '\n' ∉ l.toList ∧ '\r' ∉ l.toList := by
  have hp : l.toList ∈ pieces s :=
    List.mem_of_mem_take ((map_toList_lines hs) ▸ List.mem_map_of_mem hl)
  exact ⟨newline_not_mem_of_mem_pieces hp, return_not_mem_of_mem_pieces hs hp⟩

theorem toList_joinLines_slice {s : String} (hs : '\r' ∉ s.toList) {a b : Nat}
    (hb : b ≤ (lines s).length) :
    (joinLines (slice (lines s) a b)).toList = ['\n'].intercalate (slice (pieces s) a b) := by
  rw [toList_joinLines, map_toList_slice_lines hs hb]

theorem drop_lineStart {s : String} (hs : '\r' ∉ s.toList) {i : Nat} (hi : i < (lines s).length) :
    s.toList.drop (lineStart s i) = ['\n'].intercalate ((pieces s).drop i) := by
  have hp := length_lines_le_length_pieces hs
  rw [lineStart_eq_pieceStart hs hi.le, toList_eq_intercalate_pieces s]
  exact drop_pieceStart (by omega)

theorem joinLines_slice_prefix {s : String} (hs : '\r' ∉ s.toList) {i j : Nat} (hij : i < j)
    (hj : j ≤ (lines s).length) :
    (joinLines (slice (lines s) i j)).toList <+: s.toList.drop (lineStart s i) := by
  have hp := length_lines_le_length_pieces hs
  rw [drop_lineStart hs (by omega), toList_joinLines_slice hs hj, intercalate_drop hij (by omega)]
  exact List.prefix_append _ _

theorem drop_lineStart_eq {s : String} (hs : '\r' ∉ s.toList) {i j : Nat} (hij : i < j)
    (hj : j < (lines s).length) :
    s.toList.drop (lineStart s i) =
      (joinLines (slice (lines s) i j)).toList ++ '\n' :: s.toList.drop (lineStart s j) := by
  have hp := length_lines_le_length_pieces hs
  rw [drop_lineStart hs (by omega), drop_lineStart hs hj, toList_joinLines_slice hs hj.le,
    intercalate_drop hij (by omega), if_pos (by omega)]

theorem lineStart_add_length {s : String} (hs : '\r' ∉ s.toList) {i j : Nat} (hij : i < j)
    (hj : j ≤ (lines s).length) :
    lineStart s i + (joinLines (slice (lines s) i j)).length + 1 = lineStart s j := by
  rw [lineStart_eq_pieceStart hs (by omega), lineStart_eq_pieceStart hs hj, ← String.length_toList,
    toList_joinLines_slice hs hj]
  exact pieceStart_add_length hij (le_trans hj (length_lines_le_length_pieces hs))

/-- Reading back the lines `[a, b)` of a text joined by newlines gives them again, less the
last one when it is empty. -/
theorem lines_joinLines_slice {s : String} (hs : '\r' ∉ s.toList) {a b : Nat} (hab : a < b)
    (hb : b ≤ (lines s).length) :
    lines (joinLines (slice (lines s) a b)) =
      slice (lines s) a (if (lines s)[b - 1]? = some "" then b - 1 else b) := by
  rw [lines_joinLines fun l hl => line_endings_not_mem hs (mem_of_mem_slice hl),
    getLast?_slice hab hb]
  split
  · rw [List.dropLast_eq_take, length_slice, slice, List.take_take, slice, Nat.min_eq_left hb]
    congr 1
    omega
  · rfl

theorem joinLines_ne_empty {ls : List String} {l : String} (hl : l ∈ ls) (hne : l ≠ "") :
    joinLines ls ≠ "" := by
  obtain ⟨c, hc⟩ := List.exists_mem_of_ne_nil l.toList fun h =>
    hne (String.toList_inj.1 (h.trans String.toList_empty.symm))
  intro h
  have hmem : c ∈ (joinLines ls).toList := by
    rw [toList_joinLines]
    exact mem_intercalate_of_mem (List.mem_map_of_mem hl) hc
  simp [h] at hmem

end Linewise.Text
