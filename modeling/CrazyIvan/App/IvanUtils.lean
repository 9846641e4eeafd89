import CrazyIvan.Library.Lines
import CrazyIvan.Model.Scene
import Mathlib.Data.String.Basic

/-!
The string functions of the source, and conditions that read a vector of
strings.

* `splitFromIndex`, `split`: the pieces of a text between delimiters.
* `splitFromIndexInto`, `splitInto`: the same with the vector that the pieces are
  pushed to; `splitFromIndexInto_pieces` says what they are.
* `allOf`, `sizeIs`, `elementIs`: a conjunction that stops at the first condition
  that fails; an element past the end has no meaning.
-/

namespace CrazyIvan

open Lines

/-- The pieces of a text from an index on. -/
def splitFromIndex (input : String) (delim : Char) (start : ℕ) : List String :=
  (readLines delim ⟨input.toList.drop start, true⟩).map String.ofList

/-- The pieces of a text, without the one in front of a leading slash. -/
def split (input : String) (delim : Char) : List String :=
  if input.toList.head? = some '/' then splitFromIndex input delim 1
  else splitFromIndex input delim 0

lemma splitFromIndex_eq (input : String) (delim : Char) (start : ℕ) :
    splitFromIndex input delim start =
      (lines delim (input.toList.drop start)).map String.ofList := by
  rw [splitFromIndex, readLines_eq]

/-- Behind a leading slash. -/
lemma split_of_slash {input : String} {cs : List Char} (h : input.toList = '/' :: cs)
    (delim : Char) : split input delim = (lines delim cs).map String.ofList := by
  rw [split, h, List.head?_cons, if_pos rfl, splitFromIndex_eq, h]
  rfl

/-! ### Pieces pushed to a vector -/

/-- The loop that pushes every line it reads. -/
def pushLines (delim : Char) (ss : Stream Char) (output : List String) : List String :=
  match h : getline delim ss with
  | (some item, ss') =>
      have := length_getline h
      pushLines delim ss' (output ++ [String.ofList item])
  | (none, _) => output
termination_by ss.rest.length

/-- `split_from_index`, with the output that it adds to. `substr` throws where it
would start past the end. -/
def splitFromIndexInto (input : String) (output : List String) (delim : Char) (start : ℕ) :
    Except Fail (List String) :=
  if start ≤ input.toList.length then
    .ok (pushLines delim ⟨input.toList.drop start, true⟩ output)
  else .error (.exn "basic_string::substr")

/-- `split`, with the output that it adds to. It looks for a slash, whatever the
delimiter is. -/
def splitInto (input : String) (output : List String) (delim : Char) : Except Fail (List String) :=
  if input.toList.head? = some '/' then splitFromIndexInto input output delim 1
  else splitFromIndexInto input output delim 0

/-- What has been pushed before stays in front. -/
lemma pushLines_eq (delim : Char) (ss : Stream Char) (output : List String) :
    pushLines delim ss output = output ++ (readLines delim ss).map String.ofList := by
  induction ss, output using pushLines.induct delim with
  | case1 ss output item ss' h _ ih =>
      rw [pushLines, readLines_some h]
      split
      · next item' ss'' h' =>
          obtain ⟨hitem, rfl⟩ := Prod.mk.inj (h'.symm.trans h)
          obtain rfl := Option.some.inj hitem
          rw [ih, List.map_cons, List.append_assoc, List.singleton_append]
      · next h' => cases h'.symm.trans h
  | case2 ss output ss' h =>
      rw [pushLines, readLines_none (congrArg Prod.fst h)]
      split
      · next h' => cases h'.symm.trans h
      · rw [List.map_nil, List.append_nil]

lemma splitFromIndexInto_eq {input : String} {start : ℕ} (h : start ≤ input.toList.length)
    (output : List String) (delim : Char) : splitFromIndexInto input output delim start =
      .ok (output ++ splitFromIndex input delim start) := by
  rw [splitFromIndexInto, if_pos h, pushLines_eq, splitFromIndex]

/-- The pieces of `split` are pushed to the output. -/
lemma splitInto_eq (input : String) (output : List String) (delim : Char) :
    splitInto input output delim = .ok (output ++ split input delim) := by
  rw [splitInto, split]
  split_ifs with h
  · refine splitFromIndexInto_eq (List.length_pos_iff.mpr ?_) output delim
    intro hnil
    rw [hnil] at h
    cases h
  · exact splitFromIndexInto_eq (Nat.zero_le _) output delim

/-- The pieces of a text: without a delimiter, one for each delimiter and one for what
is behind the last, and joined the text but for a delimiter at its end. -/
structure PiecesOf (delim : Char) (text : List Char) (pieces : List String) : Prop where
  notMem : ∀ piece ∈ pieces, delim ∉ piece.toList
  length : pieces.length =
    text.count delim + if text ≠ [] ∧ text.getLast? ≠ some delim then 1 else 0
  joined : (String.singleton delim).intercalate pieces = String.ofList (chomp delim text)

lemma piecesOf_lines (delim : Char) (text : List Char) :
    PiecesOf delim text ((lines delim text).map String.ofList) where
  notMem piece hpiece := by
    obtain ⟨line, hline, rfl⟩ := List.mem_map.mp hpiece
    rw [String.toList_ofList]
    exact notMem_of_mem_lines hline
  length := by rw [List.length_map, length_lines]
  joined := by
    have hlines : ((lines delim text).map String.ofList).map String.toList = lines delim text := by
      simp [List.map_map, Function.comp_def]
    rw [← String.toList_inj, String.toList_intercalate, hlines, String.toList_ofList,
      String.toList_singleton, intercalate_lines]

/-- The text without one slash at its beginning. -/
def withoutSlash (input : String) : String :=
  if input.toList.head? = some '/' then String.ofList input.toList.tail else input

/-- The pieces that are pushed are those of the text from the index on, behind what was
there before; `split` pushes those of the text without one slash in front. -/
theorem splitFromIndexInto_pieces {input : String} {start : ℕ}
    (hstart : start ≤ input.toList.length) (output : List String) (delim : Char) :
    (∃ pieces, splitFromIndexInto input output delim start = .ok (output ++ pieces) ∧
      PiecesOf delim (input.toList.drop start) pieces) ∧
    splitInto input output '/' = splitFromIndexInto (withoutSlash input) output '/' 0 := by
  refine ⟨⟨_, splitFromIndexInto_eq hstart output delim, ?_⟩, ?_⟩
  · rw [splitFromIndex_eq]
    exact piecesOf_lines delim _
  · rw [splitInto_eq, splitFromIndexInto_eq (Nat.zero_le _), split, withoutSlash]
    split_ifs with h
    · rw [splitFromIndex_eq, splitFromIndex_eq, String.toList_ofList, List.drop_one,
        List.drop_zero]
    · rfl

/-- Doubled and trailing delimiters, behind a piece that was there before. -/
theorem splitFromIndexInto_pieces_doubled :
    (∃ pieces, splitFromIndexInto "/a//b/" ["v1"] '/' 1 = .ok (["v1"] ++ pieces) ∧
      PiecesOf '/' ("/a//b/".toList.drop 1) pieces) ∧
    splitInto "/a//b/" ["v1"] '/' = splitFromIndexInto (withoutSlash "/a//b/") ["v1"] '/' 0 :=
  splitFromIndexInto_pieces (by decide) ["v1"] '/'

/-! ### Conditions -/

/-- `&&`, from left to right. -/
def allOf : List (Except Fail Bool) → Except Fail Bool
  | [] => .ok true
  | c :: cs => do
      if ← c then allOf cs else pure false

/-- `v.size() == n`. -/
def sizeIs (v : List String) (n : ℕ) : Except Fail Bool := .ok (v.length = n)

/-- `v[i] == s`. -/
def elementIs (v : List String) (i : ℕ) (s : String) : Except Fail Bool :=
  match v[i]? with
  | some e => .ok (e = s)
  | none => .error .undefined

@[simp] lemma allOf_nil : allOf [] = .ok true := rfl

@[simp] lemma allOf_ok (b : Bool) (cs : List (Except Fail Bool)) :
    allOf (.ok b :: cs) = if b then allOf cs else .ok false := by
  cases b <;> rfl

@[simp] lemma allOf_error (e : Fail) (cs : List (Except Fail Bool)) :
    allOf (.error e :: cs) = .error e := rfl

/-- Two conditions that have been read, as one. -/
lemma ite_ok_false (c : Prop) [Decidable c] (b : Bool) :
    (if c then (.ok b : Except Fail Bool) else .ok false) = .ok (decide c && b) := by
  by_cases hc : c <;> simp [hc]

end CrazyIvan
