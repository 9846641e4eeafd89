import Mathlib.Data.List.TakeWhile

/-!
Reading a stream line by line, up to a delimiter.

* `Stream`, `getline`: a stream that is good until a reading reaches its end, and
  one reading.
* `readLines`: the readings of a loop that ends when one fails.
* `lines`: the same by recursion on the text; `readLines_eq` says they agree.
* `unlines`, `lines_unlines_append`, `unlines_lines`: lines and text determine each
  other, up to a delimiter behind the last line.
* `length_lines`, `intercalate_lines`: how many lines a text has, and what they are
  joined to.
-/

namespace Lines

variable {α : Type} [DecidableEq α]

/-- An input stream: what is left of it, and whether it can still be read. -/
structure Stream (α : Type) where
  rest : List α
  good : Bool := true

/-- One reading: the line up to the delimiter, which is taken out too; no line if
the stream has ended. A line that ends with the stream is the last one. -/
def getline (delim : α) (s : Stream α) : Option (List α) × Stream α :=
  if s.good ∧ s.rest ≠ [] then
    match s.rest.dropWhile (· ≠ delim) with
    | [] => (some s.rest, ⟨[], false⟩)
    | _ :: rest => (some (s.rest.takeWhile (· ≠ delim)), ⟨rest, true⟩)
  else (none, ⟨s.rest, false⟩)

/-! ### Up to the first delimiter -/

lemma takeWhile_eq_self {delim : α} {l : List α} (hl : delim ∉ l) :
    l.takeWhile (· ≠ delim) = l := by
  rw [List.takeWhile_eq_self_iff]
  intro a ha
  simpa using fun h : a = delim => hl (h ▸ ha)

lemma dropWhile_eq_nil {delim : α} {l : List α} (hl : delim ∉ l) :
    l.dropWhile (· ≠ delim) = [] := by
  rw [List.dropWhile_eq_nil_iff]
  intro a ha
  simpa using fun h : a = delim => hl (h ▸ ha)

lemma takeWhile_line {delim : α} {l : List α} (hl : delim ∉ l) (rest : List α) :
    (l ++ delim :: rest).takeWhile (· ≠ delim) = l := by
  have hne : ∀ a ∈ l, (decide (a ≠ delim)) = true := fun a ha => by
    simpa using fun h : a = delim => hl (h ▸ ha)
  rw [List.takeWhile_append_of_pos hne]
  simp

lemma dropWhile_line {delim : α} {l : List α} (hl : delim ∉ l) (rest : List α) :
    (l ++ delim :: rest).dropWhile (· ≠ delim) = delim :: rest := by
  have hne : ∀ a ∈ l, (decide (a ≠ delim)) = true := fun a ha => by
    simpa using fun h : a = delim => hl (h ▸ ha)
  rw [List.dropWhile_append_of_pos hne]
  simp

/-! ### Readings -/

lemma getline_nil (delim : α) (good : Bool) : (getline delim ⟨[], good⟩).1 = none := by
  simp [getline]

lemma getline_bad (delim : α) (l : List α) : (getline delim ⟨l, false⟩).1 = none := by
  simp [getline]

/-- A text without the delimiter is one line. -/
lemma getline_last {delim : α} {l : List α} (hne : l ≠ []) (hl : delim ∉ l) :
    getline delim ⟨l, true⟩ = (some l, ⟨[], false⟩) := by
  simp only [getline, dropWhile_eq_nil hl, if_pos (show True ∧ l ≠ [] from ⟨trivial, hne⟩)]

/-- The line in front of the delimiter. -/
lemma getline_line {delim : α} {l : List α} (hl : delim ∉ l) (rest : List α) :
    getline delim ⟨l ++ delim :: rest, true⟩ = (some l, ⟨rest, true⟩) := by
  simp only [getline, dropWhile_line hl, takeWhile_line hl]
  simp

lemma length_getline {delim : α} {s t : Stream α} {line : List α}
    (h : getline delim s = (some line, t)) : t.rest.length < s.rest.length := by
  rw [getline] at h
  split at h
  · next hs =>
      have hpos : 0 < s.rest.length := List.length_pos_iff.mpr hs.2
      split at h
      · obtain ⟨-, rfl⟩ := Prod.mk.inj h
        exact hpos
      · next c rest hdrop =>
          obtain ⟨-, rfl⟩ := Prod.mk.inj h
          have hle := (List.dropWhile_suffix (l := s.rest) (fun a => decide (a ≠ delim))).length_le
          rw [hdrop, List.length_cons] at hle
          exact hle
  · cases (Prod.mk.inj h).1

/-- The lines a loop reads until a reading fails. -/
def readLines (delim : α) (s : Stream α) : List (List α) :=
  match h : getline delim s with
  | (some line, t) =>
      have := length_getline h
      line :: readLines delim t
  | (none, _) => []
termination_by s.rest.length

lemma readLines_some {delim : α} {s t : Stream α} {line : List α}
    (h : getline delim s = (some line, t)) : readLines delim s = line :: readLines delim t := by
  rw [readLines]
  split
  · next line' t' h' =>
      obtain ⟨hline, rfl⟩ := Prod.mk.inj (h'.symm.trans h)
      exact congrArg (· :: readLines delim t') (Option.some.inj hline)
  · next h' => cases h'.symm.trans h

lemma readLines_none {delim : α} {s : Stream α} (h : (getline delim s).1 = none) :
    readLines delim s = [] := by
  rw [readLines]
  split
  · next h' =>
      rw [h'] at h
      cases h
  · rfl

/-- The lines of a text. An empty line is one, behind the last delimiter there is
none. -/
def lines (delim : α) : List α → List (List α)
  | [] => []
  | c :: cs =>
      if c = delim then [] :: lines delim cs
      else match lines delim cs with
        | [] => [[c]]
        | line :: more => (c :: line) :: more

example : lines ',' "a,,b,".toList = ["a".toList, [], "b".toList] := by decide

@[simp] lemma lines_nil (delim : α) : lines delim [] = [] := rfl

/-- A text without the delimiter is one line. -/
lemma lines_last {delim : α} {l : List α} (hne : l ≠ []) (hl : delim ∉ l) :
    lines delim l = [l] := by
  induction l with
  | nil => exact absurd rfl hne
  | cons c cs ih =>
      rw [List.mem_cons, not_or] at hl
      rw [lines, if_neg (Ne.symm hl.1)]
      by_cases hcs : cs = []
      · subst hcs
        rfl
      · rw [ih hcs hl.2]

/-- The line in front of a delimiter. -/
lemma lines_line {delim : α} {l : List α} (hl : delim ∉ l) (rest : List α) :
    lines delim (l ++ delim :: rest) = l :: lines delim rest := by
  induction l with
  | nil => rw [List.nil_append, lines, if_pos rfl]
  | cons c cs ih =>
      rw [List.mem_cons, not_or] at hl
      rw [List.cons_append, lines, if_neg (Ne.symm hl.1), ih hl.2]

/-- Every text has a first line. -/
lemma exists_line (delim : α) (l : List α) :
    delim ∉ l ∨ ∃ line rest, delim ∉ line ∧ l = line ++ delim :: rest := by
  by_cases hl : delim ∈ l
  · obtain ⟨line, rest, rfl, hline⟩ := List.eq_append_cons_of_mem hl
    exact .inr ⟨line, rest, hline, rfl⟩
  · exact .inl hl

/-- Induction over a text, line by line. -/
@[elab_as_elim]
theorem line_induction (delim : α) {motive : List α → Prop} (nil : motive [])
    (last : ∀ l, l ≠ [] → delim ∉ l → motive l)
    (line : ∀ line rest, delim ∉ line → motive rest → motive (line ++ delim :: rest))
    (l : List α) : motive l := by
  induction hn : l.length using Nat.strongRecOn generalizing l with
  | ind n ih =>
      by_cases hne : l = []
      · exact hne ▸ nil
      obtain hl | ⟨first, rest, hfirst, rfl⟩ := exists_line delim l
      · exact last l hne hl
      · refine line first rest hfirst (ih rest.length ?_ rest rfl)
        rw [← hn, List.length_append, List.length_cons]
        omega

/-- The loop reads the lines of the text. -/
theorem readLines_eq (delim : α) (l : List α) :
    readLines delim ⟨l, true⟩ = lines delim l := by
  induction l using line_induction delim with
  | nil => exact readLines_none (getline_nil delim true)
  | last l hne hl =>
      rw [readLines_some (getline_last hne hl), lines_last hne hl,
        readLines_none (getline_bad delim [])]
  | line line rest hline ih => rw [readLines_some (getline_line hline rest), lines_line hline, ih]

/-- No line has a delimiter. -/
lemma notMem_of_mem_lines {delim : α} {l line : List α} (h : line ∈ lines delim l) :
    delim ∉ line := by
  induction l using line_induction delim with
  | nil => cases h
  | last l hne hl =>
      rw [lines_last hne hl, List.mem_singleton] at h
      exact h ▸ hl
  | line first rest hfirst ih =>
      rw [lines_line hfirst, List.mem_cons] at h
      obtain rfl | h := h
      · exact hfirst
      · exact ih h

/-- The text with a delimiter behind every line. -/
def unlines (delim : α) (ls : List (List α)) : List α := ls.flatMap (· ++ [delim])

/-- The lines are those the text was put together from, and those behind. -/
theorem lines_unlines_append {delim : α} {ls : List (List α)} (hls : ∀ l ∈ ls, delim ∉ l)
    (rest : List α) : lines delim (unlines delim ls ++ rest) = ls ++ lines delim rest := by
  induction ls with
  | nil => rfl
  | cons l ls ih =>
      rw [unlines, List.flatMap_cons, ← unlines, List.append_assoc, List.append_assoc]
      show lines delim (l ++ delim :: (unlines delim ls ++ rest)) = _
      rw [lines_line (hls l (by simp)), ih fun l' hl' => hls l' (by simp [hl']), List.cons_append]

/-- The lines put together are the text, but for a delimiter behind the last. -/
theorem unlines_lines (delim : α) (l : List α) :
    unlines delim (lines delim l) = l ∨ unlines delim (lines delim l) = l ++ [delim] := by
  induction l using line_induction delim with
  | nil => exact .inl rfl
  | last l hne hl =>
      rw [lines_last hne hl]
      exact .inr (by simp [unlines])
  | line line rest hline ih =>
      rw [lines_line hline, unlines, List.flatMap_cons, ← unlines]
      obtain h | h := ih
      · exact .inl (by rw [h]; simp)
      · exact .inr (by rw [h]; simp)

/-! ### Joining lines -/

/-- The text without a delimiter at its end. -/
def chomp (delim : α) (l : List α) : List α :=
  if l.getLast? = some delim then l.dropLast else l

omit [DecidableEq α] in
/-- The end of a text is that of its last line, or the delimiter in front of it. -/
lemma getLast?_line (delim : α) (line rest : List α) :
    (line ++ delim :: rest).getLast? = some (rest.getLast?.getD delim) := by
  rw [List.getLast?_append, List.getLast?_cons, Option.some_or]

omit [DecidableEq α] in
lemma getLast?_ne_of_notMem {delim : α} {l : List α} (hl : delim ∉ l) :
    l.getLast? ≠ some delim :=
  fun h => hl (List.mem_of_getLast? h)

/-- A line for every delimiter, and one more for a text behind the last of them. -/
theorem length_lines (delim : α) (l : List α) : (lines delim l).length =
    l.count delim + if l ≠ [] ∧ l.getLast? ≠ some delim then 1 else 0 := by
  induction l using line_induction delim with
  | nil => rfl
  | last l hne hl =>
      rw [lines_last hne hl, List.count_eq_zero_of_not_mem hl,
        if_pos ⟨hne, getLast?_ne_of_notMem hl⟩]
      rfl
  | line line rest hline ih =>
      have hcount : (line ++ delim :: rest).count delim = rest.count delim + 1 := by
        rw [List.count_append, List.count_eq_zero_of_not_mem hline, List.count_cons_self,
          Nat.zero_add]
      have hlast : (line ++ delim :: rest ≠ [] ∧ (line ++ delim :: rest).getLast? ≠ some delim) ↔
          rest ≠ [] ∧ rest.getLast? ≠ some delim := by
        rw [getLast?_line]
        cases hrest : rest.getLast? with
        | none => simp [List.getLast?_eq_none_iff.mp hrest]
        | some a =>
            have hne : rest ≠ [] := fun h => by simp [h] at hrest
            simp [hne]
      rw [lines_line hline, List.length_cons, ih, hcount]
      simp only [hlast]
      omega

/-- The lines joined are the text, but for a delimiter at its end. -/
theorem intercalate_lines (delim : α) (l : List α) :
    [delim].intercalate (lines delim l) = chomp delim l := by
  induction l using line_induction delim with
  | nil => rfl
  | last l hne hl =>
      rw [lines_last hne hl, List.intercalate_singleton, chomp,
        if_neg (getLast?_ne_of_notMem hl)]
  | line line rest hline ih =>
      rw [lines_line hline]
      by_cases hrest : rest = []
      · subst hrest
        rw [lines_nil, List.intercalate_singleton, chomp, getLast?_line]
        simp
      · have hlines : lines delim rest ≠ [] := by
          intro hnil
          have hunlines := unlines_lines delim rest
          rw [hnil] at hunlines
          rcases hunlines with h | h
          · exact hrest h.symm
          · simp [unlines] at h
        rw [List.intercalate_cons_of_ne_nil hlines, ih, chomp, chomp, getLast?_line]
        cases hlast : rest.getLast? with
        | none => exact absurd (List.getLast?_eq_none_iff.mp hlast) hrest
        | some a =>
            simp only [Option.getD_some]
            split_ifs with ha
            · rw [List.dropLast_append_of_ne_nil (by simp), List.dropLast_cons_of_ne_nil hrest]
              simp
            · simp

end Lines
