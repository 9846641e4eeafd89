import CrazyIvan.Api.Decoding

/-!
The coordinates that the decoder reads from a transform.

* `coordinates`: the numbers of the arrays under a name, each with the axis of its
  place.
* `Transform.moved`: a transform after translations and rotations.
* `foldlM_readTransformMember`, `membersWellFormed_of_read`: the members of a
  transform are read as their coordinates, exactly if no number stands past the
  third place of an array.
-/

namespace CrazyIvan

open Geometry Json Json.Value

variable {R : Type} [CommRing R] (glm : Glm R)

/-! ### Coordinates -/

/-- The coordinates of an array, each with the axis of its place. -/
def placed (l : List (Value R)) : List (Fin 3 × R) :=
  ((List.finRange 3).zip l).filterMap fun p => p.2.getNumber.map (p.1, ·)

/-- The coordinates under a name, array after array. -/
def coordinates (name : String) (tms : List (String × Value R)) : List (Fin 3 × R) :=
  tms.flatMap fun member =>
    if cstr member.1 = name then placed (member.2.getArray.getD []) else []

/-- The translation that coordinates set, one after the other. -/
def translationOf (cs : List (Fin 3 × R)) : Fin 3 → R :=
  cs.foldl (fun tran c => Function.update tran c.1 c.2) 0

/-- The rotations about the axes, one after the other. -/
def rotationOf (cs : List (Fin 3 × R)) : Mat4 R :=
  (cs.map fun c => glm.rotationMatrix c.1 c.2).prod

/-- No number stands past the third place of an array of coordinates. -/
def MemberWellFormed (member : String × Value R) : Prop :=
  cstr member.1 = "translation" ∨ cstr member.1 = "rotation" →
    ∀ v ∈ (member.2.getArray.getD []).drop 3, v.getNumber = none

/-- No array under a name has a number. -/
def NoNumbers (name : String) (tms : List (String × Value R)) : Prop :=
  ∀ member ∈ tms, cstr member.1 = name → ∀ v ∈ member.2.getArray.getD [], v.getNumber = none

/-! ### Moving a transform -/

/-- A transform that is moved by translations and by rotations. -/
def Transform.moved (t : Transform R) (ts rs : List (Fin 3 × R)) : Transform R :=
  { t with
    tran := ts.foldl (fun tran c => Function.update tran c.1 c.2) t.tran
    transform := t.transform * rotationOf glm rs
    tranFlag := t.tranFlag || !ts.isEmpty
    rotFlag := t.rotFlag || !rs.isEmpty
    vectorsNeedUpdating := t.vectorsNeedUpdating || !rs.isEmpty }

namespace Transform

variable {glm}

lemma moved_nil (t : Transform R) : t.moved glm [] [] = t := by
  simp [moved, rotationOf]

lemma moved_moved (t : Transform R) (ts rs ts' rs' : List (Fin 3 × R)) :
    (t.moved glm ts rs).moved glm ts' rs' = t.moved glm (ts ++ ts') (rs ++ rs') := by
  have hempty : ∀ l l' : List (Fin 3 × R), (!(l ++ l').isEmpty) = (!l.isEmpty || !l'.isEmpty) := by
    intro l l'
    cases l <;> simp
  simp [moved, rotationOf, hempty, mul_assoc, Bool.or_assoc]

lemma translateAt_eq (t : Transform R) (i : Fin 3) (x : R) :
    t.translateAt i x = .ok (t.moved glm [(i, x)] []) := by
  simp [translateAt, translate, moved, rotationOf]

lemma rotateAt_eq (t : Transform R) (i : Fin 3) (x : R) :
    t.rotateAt glm i x = .ok (t.moved glm [] [(i, x)]) := by
  simp [rotateAt, rotate, moved, rotationOf]

/-- The same transform, by the same translation and rotation. -/
lemma moved_new_inj {ts rs ts' rs' : List (Fin 3 × R)} (hts : ts = [] ↔ ts' = [])
    (hrs : rs = [] ↔ rs' = []) :
    (new : Transform R).moved glm ts rs = new.moved glm ts' rs' ↔
      translationOf ts = translationOf ts' ∧ rotationOf glm rs = rotationOf glm rs' := by
  have hflag : ∀ l l' : List (Fin 3 × R), (l = [] ↔ l' = []) → l.isEmpty = l'.isEmpty := by
    rintro (_ | ⟨c, l⟩) (_ | ⟨c', l'⟩) h <;> simp_all
  simp [moved, new, translationOf, hflag ts ts' hts, hflag rs rs' hrs, and_comm]

lemma moved_new_eq_new_iff {ts rs : List (Fin 3 × R)} :
    (new : Transform R).moved glm ts rs = new ↔ ts = [] ∧ rs = [] := by
  constructor
  · intro h
    have htran := congrArg tranFlag h
    have hrot := congrArg rotFlag h
    exact ⟨by simpa [moved, new] using htran, by simpa [moved, new] using hrot⟩
  · rintro ⟨rfl, rfl⟩
    exact moved_nil new

end Transform

section Axes

variable {move : Transform R → ℕ → R → Except Fail (Transform R)}

lemma readAxes_cons (i : ℕ) (v : Value R) (l : List (Value R)) (t : Transform R) :
    readAxes move i (v :: l) t =
      (v.getNumber.elim (.ok t) (move t i)) >>= fun t => readAxes move (i + 1) l t := by
  cases hd : v.getDouble with
  | some x => simp [readAxes, isDouble, getNumber, hd, orUndefined, bind_of_ok]
  | none =>
      cases hi : v.getInt with
      | some n => simp [readAxes, isDouble, isInt, getNumber, hd, hi, orUndefined, bind_of_ok]
      | none => simp [readAxes, isDouble, isInt, getNumber, hd, hi, bind_of_ok]

/-- Nothing is done where there are no numbers. -/
lemma readAxes_of_no_number (i : ℕ) {l : List (Value R)} (h : ∀ v ∈ l, v.getNumber = none)
    (t : Transform R) : readAxes move i l t = .ok t := by
  induction l generalizing i with
  | nil => rfl
  | cons v l ih =>
      obtain ⟨hv, hl⟩ := List.forall_mem_cons.mp h
      rw [readAxes_cons, hv, Option.elim_none, bind_of_ok, ih _ hl]

/-- The coordinates are read, each about its axis, if there is no number past the third
place. -/
lemma readAxes_eq (act : Transform R → List (Fin 3 × R) → Transform R)
    (hnil : ∀ t, act t [] = t) (happend : ∀ t cs cs', act (act t cs) cs' = act t (cs ++ cs'))
    (hmove : ∀ t (i : Fin 3) x, move t i x = .ok (act t [(i, x)])) (i : ℕ)
    {l : List (Value R)} (h : ∀ v ∈ l.drop (3 - i), v.getNumber = none) (t : Transform R) :
    readAxes move i l t = .ok (act t ((((List.finRange 3).drop i).zip l).filterMap fun p =>
      p.2.getNumber.map (p.1, ·))) := by
  induction l generalizing i t with
  | nil => simp [readAxes, hnil]
  | cons v l ih =>
      rcases lt_or_ge i 3 with hi | hi
      · have hrest : ∀ v ∈ l.drop (3 - (i + 1)), v.getNumber = none := by
          rwa [show 3 - i = 3 - (i + 1) + 1 by omega, List.drop_succ_cons] at h
        have haxes : (List.finRange 3).drop i = ⟨i, hi⟩ :: (List.finRange 3).drop (i + 1) := by
          rw [List.drop_eq_getElem_cons (by simpa using hi)]
          simp
        rw [readAxes_cons, haxes, List.zip_cons_cons]
        cases hv : v.getNumber with
        | none =>
            rw [Option.elim_none, bind_of_ok, ih (i + 1) hrest,
              List.filterMap_cons_none (by simp [hv])]
        | some x =>
            rw [Option.elim_some, hmove t ⟨i, hi⟩ x, bind_of_ok, ih (i + 1) hrest, happend,
              List.filterMap_cons_some (b := (⟨i, hi⟩, x)) (by simp [hv]), List.singleton_append]
      · rw [show 3 - i = 0 by omega, List.drop_zero] at h
        rw [readAxes_of_no_number i h, List.drop_eq_nil_of_le (by simpa using hi)]
        simp [hnil]

/-- A number past the third place is not read. -/
lemma not_number_of_readAxes (hmove : ∀ t i x t', move t i x = .ok t' → i < 3) (i : ℕ)
    {l : List (Value R)} {t t' : Transform R} (h : readAxes move i l t = .ok t') :
    ∀ v ∈ l.drop (3 - i), v.getNumber = none := by
  induction l generalizing i t with
  | nil => simp
  | cons v l ih =>
      rw [readAxes_cons] at h
      obtain ⟨u, hu, hrest⟩ := exists_of_bind_ok h
      have hl := ih (i + 1) hrest
      rcases lt_or_ge i 3 with hi | hi
      · rwa [show 3 - i = 3 - (i + 1) + 1 by omega, List.drop_succ_cons]
      · rw [show 3 - (i + 1) = 0 by omega, List.drop_zero] at hl
        rw [show 3 - i = 0 by omega, List.drop_zero, List.forall_mem_cons]
        refine ⟨?_, hl⟩
        cases hv : v.getNumber with
        | none => rfl
        | some x =>
            rw [hv, Option.elim_some] at hu
            exact absurd (hmove t i x u hu) hi.not_gt

end Axes

/-! ### Reading -/

section Members

variable {glm}

lemma placed_eq_nil_iff {l : List (Value R)} (h : ∀ v ∈ l.drop 3, v.getNumber = none) :
    placed l = [] ↔ ∀ v ∈ l, v.getNumber = none := by
  rw [placed]
  match l, h with
  | [], _ => simp
  | [a], _ => simp [List.finRange_succ]
  | [a, b], _ => simp [List.finRange_succ]
  | a :: b :: c :: l, h =>
      have hl : ∀ v ∈ l, v.getNumber = none := h
      simp only [List.forall_mem_cons, and_iff_left hl]
      simp [List.finRange_succ]

/-- A member of a transform that is well formed is read as its coordinates. -/
lemma readTransformMember_eq (t : Transform R) {member : String × Value R}
    (h : MemberWellFormed member) : readTransformMember glm t member =
      .ok (t.moved glm (coordinates "translation" [member]) (coordinates "rotation" [member])) := by
  have hactT : ∀ (t : Transform R) cs cs', (t.moved glm cs []).moved glm cs' [] =
      t.moved glm (cs ++ cs') [] := fun t cs cs' => Transform.moved_moved t cs [] cs' []
  have hactR : ∀ (t : Transform R) cs cs', (t.moved glm [] cs).moved glm [] cs' =
      t.moved glm [] (cs ++ cs') := fun t cs cs' => Transform.moved_moved t [] cs [] cs'
  obtain ⟨name, v⟩ := member
  rw [readTransformMember]
  simp only [coordinates, List.flatMap_cons, List.flatMap_nil, List.append_nil]
  cases hv : v.getArray with
  | none =>
      have hnil : placed ([] : List (Value R)) = [] := rfl
      simp [isArray, hv, hnil, Transform.moved_nil]
      rfl
  | some l =>
      have hl : MemberWellFormed (name, v) := h
      simp only [MemberWellFormed, hv, Option.getD_some] at hl
      by_cases htranslation : cstr name = "translation"
      · have hread := readAxes_eq (fun t cs => t.moved glm cs []) Transform.moved_nil hactT
          (fun t i x => Transform.translateAt_eq t i x) 0 (hl (.inl htranslation)) t
        simpa [htranslation, isArray, hv, orUndefined, bind_of_ok, placed] using hread
      · by_cases hrotation : cstr name = "rotation"
        · have hread := readAxes_eq (fun t cs => t.moved glm [] cs) Transform.moved_nil
            hactR (fun t i x => Transform.rotateAt_eq t i x) 0 (hl (.inr hrotation)) t
          simpa [hrotation, isArray, hv, orUndefined, bind_of_ok, placed] using hread
        · simp [htranslation, hrotation, Transform.moved_nil]
          rfl

/-- Only such a member is read. -/
lemma memberWellFormed_of_read {t t' : Transform R} {member : String × Value R}
    (h : readTransformMember glm t member = .ok t') : MemberWellFormed member := by
  obtain ⟨name, v⟩ := member
  intro hname
  rw [readTransformMember] at h
  cases hv : v.getArray with
  | none => simp
  | some l =>
      simp only [isArray, hv, Option.isSome_some, if_true, orUndefined, bind_of_ok] at h
      rw [Option.getD_some]
      by_cases htranslation : cstr name = "translation"
      · rw [if_pos htranslation] at h
        refine not_number_of_readAxes (fun t i x t' hmove => ?_) 0 h
        rw [Transform.translateAt] at hmove
        split at hmove
        · assumption
        · cases hmove
      · rw [if_neg htranslation, if_pos (hname.resolve_left htranslation)] at h
        refine not_number_of_readAxes (fun t i x t' hmove => ?_) 0 h
        rw [Transform.rotateAt] at hmove
        split at hmove
        · assumption
        · cases hmove

lemma coordinates_cons (name : String) (member : String × Value R) (tms) :
    coordinates name (member :: tms) = coordinates name [member] ++ coordinates name tms := by
  simp [coordinates]

/-- The members are read one after the other, if they are well formed. -/
lemma foldlM_readTransformMember {tms : List (String × Value R)}
    (h : ∀ member ∈ tms, MemberWellFormed member) (t : Transform R) :
    tms.foldlM (readTransformMember glm) t =
      .ok (t.moved glm (coordinates "translation" tms) (coordinates "rotation" tms)) := by
  induction tms generalizing t with
  | nil => exact congrArg Except.ok (Transform.moved_nil t).symm
  | cons member tms ih =>
      obtain ⟨hmember, htms⟩ := List.forall_mem_cons.mp h
      rw [List.foldlM_cons, readTransformMember_eq t hmember, bind_of_ok, ih htms,
        Transform.moved_moved, ← coordinates_cons, ← coordinates_cons]

lemma membersWellFormed_of_read {tms : List (String × Value R)} {t t' : Transform R}
    (h : tms.foldlM (readTransformMember glm) t = .ok t') :
    ∀ member ∈ tms, MemberWellFormed member := by
  induction tms generalizing t with
  | nil => simp
  | cons member tms ih =>
      rw [List.foldlM_cons] at h
      obtain ⟨u, hu, hrest⟩ := exists_of_bind_ok h
      exact List.forall_mem_cons.mpr ⟨memberWellFormed_of_read hu, ih hrest⟩

/-- There are no coordinates where there are no numbers. -/
lemma coordinates_eq_nil_iff {name : String} (hname : name = "translation" ∨ name = "rotation")
    {tms : List (String × Value R)} (h : ∀ member ∈ tms, MemberWellFormed member) :
    coordinates name tms = [] ↔ NoNumbers name tms := by
  rw [coordinates, List.flatMap_eq_nil_iff]
  refine forall₂_congr fun member hmem => ?_
  by_cases hn : cstr member.1 = name
  · rw [if_pos hn, placed_eq_nil_iff (h member hmem (by rwa [hn]))]
    simp [hn]
  · simp [hn]

end Members

end CrazyIvan
