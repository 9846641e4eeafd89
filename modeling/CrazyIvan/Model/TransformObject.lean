import CrazyIvan.Library.Resumption
import CrazyIvan.Model.Transform

/-!
The objects of the class `Transform` as they are in memory: with vectors that are
indexed, and the angles in a cache that is refreshed on demand.

* `TransformObject`, `Call`, `step`: the objects, and the calls of the public
  functions on them. An index outside of a vector has no meaning.
* `Represents`: the transform that an object stands for; `represents_step` says
  that the calls do to the objects what `Call.apply` does to the transforms.
* `Sound`: three entries in each vector, a rotation, and a cache that is not stale.
* `throughout_iff_proper`: the runs in which every object stays sound.
-/

namespace CrazyIvan

open Geometry Resumption

/-- An object. The vectors are `std::vector<float>`. -/
structure TransformObject (R : Type) [CommRing R] where
  transform : Mat4 R := 1
  tran : List R := [0, 0, 0]
  rot : List R := [0, 0, 0]
  tranFlag : Bool := false
  rotFlag : Bool := false
  vectorsNeedUpdating : Bool := true

namespace TransformObject

/-! ### Vectors -/

section Vectors

variable {R : Type}

/-- `v[index]`. -/
def element (v : List R) (index : ℤ) : Option R := if 0 ≤ index then v[index.toNat]? else none

/-- `v[index] = x`. -/
def setElement (v : List R) (index : ℕ) (x : R) : Option (List R) :=
  if index < v.length then some (v.set index x) else none

def indices : List (Fin 3) := [0, 1, 2]

lemma element_ofFn (v : Fin 3 → R) (i : Fin 3) : element (List.ofFn v) (i : ℕ) = some (v i) := by
  fin_cases i <;> simp [element]

/-- Only an element that is there can be read. -/
lemma bounds_of_element {v : List R} {index : ℤ} {x : R} (h : element v index = some x) :
    0 ≤ index ∧ index < v.length := by
  rw [element] at h
  split_ifs at h with hpos
  have hlt := (List.getElem?_eq_some_iff.mp h).1
  omega

lemma setElement_ofFn (v : Fin 3 → R) (i : Fin 3) (x : R) :
    setElement (List.ofFn v) i x = some (List.ofFn (Function.update v i x)) := by
  rw [setElement, if_pos (by simp)]
  fin_cases i <;> simp [List.ofFn_succ, Function.update]

end Vectors

variable {R : Type} [CommRing R] (glm : Glm R)

/-! ### The functions -/

/-- `update_vectors`: `extractEulerAngleXYZ` assigns the three angles. -/
def updateVectors (o : TransformObject R) : Option (TransformObject R) := do
  let rot ← indices.foldlM (fun rot (i : Fin 3) =>
    setElement rot i (glm.extractEulerAngleXYZ o.transform i)) o.rot
  some { o with vectorsNeedUpdating := false, rot }

/-- The vectors are updated where they need it. -/
def refresh (o : TransformObject R) : Option (TransformObject R) :=
  if o.vectorsNeedUpdating then o.updateVectors glm else some o

/-- The value, with the object as it is left. -/
def translation (o : TransformObject R) (index : ℤ) : Option (TransformObject R × R) := do
  let o ← o.refresh glm
  let x ← element o.tran index
  some (o, x)

/-- The value, with the object as it is left. -/
def rotation (o : TransformObject R) (index : ℤ) : Option (TransformObject R × R) := do
  let o ← o.refresh glm
  let x ← element o.rot index
  some (o, x)

def translate (o : TransformObject R) (index : Fin 3) (amt : R) : Option (TransformObject R) := do
  let tran ← setElement o.tran index amt
  some { o with tran, tranFlag := true }

def rotate (o : TransformObject R) (index : Fin 3) (amt : R) : TransformObject R :=
  { o with
    transform := o.transform * glm.rotationMatrix index amt
    vectorsNeedUpdating := true
    rotFlag := true }

def invert (o : TransformObject R) : Option (TransformObject R) := do
  let tran ← indices.foldlM (fun tran (i : Fin 3) => do
    let x ← element tran (i : ℕ)
    setElement tran i (-1 * x)) o.tran
  some { o with tran, vectorsNeedUpdating := true, transform := glm.inverse o.transform }

/-- The vectors are emptied, and `vectors_need_updating` stays as it is. -/
def clear (o : TransformObject R) : TransformObject R :=
  { o with tran := [], rot := [], tranFlag := false, rotFlag := false, transform := 1 }

/-- What is logged is read from the vectors. -/
def print (o : TransformObject R) : Option (TransformObject R) := do
  let o ← o.refresh glm
  let _ ← if o.tranFlag then indices.mapM fun i => element o.tran (i : ℕ) else some []
  let _ ← if o.rotFlag then indices.mapM fun i => element o.rot (i : ℕ) else some []
  some o

section Objects

variable {ι : Type} [DecidableEq ι]

/-- One pass of the loop of `add_transform`. The object that is added may be the one
it is added to. -/
def addTranslation (t u : ι) (inverted : Bool) (s : ι → TransformObject R) (i : Fin 3) :
    Option (ι → TransformObject R) := do
  let (o, amt) ← (s u).translation glm (i : ℕ)
  let s := Function.update s u o
  let x ← element (s t).tran (i : ℕ)
  let tran ← setElement (s t).tran i (if inverted then x - amt else x + amt)
  some (Function.update s t { s t with tran })

def addTransform (t u : ι) (inverted : Bool) (s : ι → TransformObject R) :
    Option (ι → TransformObject R) := do
  let s ← indices.foldlM (addTranslation glm t u inverted) s
  some (Function.update s t { s t with
    transform :=
      if inverted then glm.inverse (s u).transform * (s t).transform
      else (s u).transform * (s t).transform
    tranFlag := (s u).tranFlag || (s t).tranFlag
    rotFlag := (s u).rotFlag || (s t).rotFlag
    vectorsNeedUpdating := true })

/-- A call of a public function of one of the objects. -/
inductive Call (ι R : Type) where
  | translate (t : ι) (index : Fin 3) (amt : R)
  | rotate (t : ι) (index : Fin 3) (amt : R)
  | addTransform (t u : ι) (inverted : Bool)
  | invert (t : ι)
  | clear (t : ι)
  | translation (t : ι) (index : ℤ)
  | rotation (t : ι) (index : ℤ)
  | print (t : ι)

/-- The objects after a call. -/
def step (s : ι → TransformObject R) : Call ι R → Option (ι → TransformObject R)
  | .translate t index amt => do
      let o ← (s t).translate index amt
      some (Function.update s t o)
  | .rotate t index amt => some (Function.update s t ((s t).rotate glm index amt))
  | .addTransform t u inverted => addTransform glm t u inverted s
  | .invert t => do
      let o ← (s t).invert glm
      some (Function.update s t o)
  | .clear t => some (Function.update s t (s t).clear)
  | .translation t index => do
      let (o, _) ← (s t).translation glm index
      some (Function.update s t o)
  | .rotation t index => do
      let (o, _) ← (s t).rotation glm index
      some (Function.update s t o)
  | .print t => do
      let o ← (s t).print glm
      some (Function.update s t o)

end Objects

/-! ### The transform of an object -/

/-- The object stands for the transform, and its vectors are complete; the cache is
that of the matrix. -/
structure Represents (o : TransformObject R) (t : Transform R) : Prop where
  transform : o.transform = t.transform
  tran : o.tran = List.ofFn t.tran
  tranFlag : o.tranFlag = t.tranFlag
  rotFlag : o.rotFlag = t.rotFlag
  size : o.rot.length = 3
  cached : o.vectorsNeedUpdating = false →
    o.rot = List.ofFn (glm.extractEulerAngleXYZ t.transform)

lemma represents_new : Represents glm ({} : TransformObject R) Transform.new where
  transform := rfl
  tran := by simp [Transform.new]
  tranFlag := rfl
  rotFlag := rfl
  size := rfl
  cached := nofun

omit [CommRing R] in
/-- Three assignments make a vector of three entries anew. -/
lemma foldlM_setElement {v : List R} (hv : v.length = 3) (f : Fin 3 → R) :
    indices.foldlM (fun v (i : Fin 3) => setElement v i (f i)) v = some (List.ofFn f) := by
  obtain ⟨a, b, c, rfl⟩ := List.length_eq_three.mp hv
  simp [indices, setElement, List.ofFn_succ]

/-- Three assignments that each read the old entry. -/
lemma foldlM_negate (v : Fin 3 → R) :
    indices.foldlM (fun v (i : Fin 3) => do
      let x ← element v (i : ℕ)
      setElement v i (-1 * x)) (List.ofFn v) = some (List.ofFn fun i => -1 * v i) := by
  simp [indices, setElement, element, List.ofFn_succ]

namespace Represents

variable {glm} {o : TransformObject R} {t : Transform R} (h : Represents glm o t)
include h

/-- A refreshed object stands for the same transform, and its cache is up to date. -/
lemma refresh : ∃ o', o.refresh glm = some o' ∧ Represents glm o' t ∧
    o'.rot = List.ofFn (glm.extractEulerAngleXYZ t.transform) := by
  rw [TransformObject.refresh]
  split_ifs with hdirty
  · refine ⟨{ o with
      vectorsNeedUpdating := false
      rot := List.ofFn (glm.extractEulerAngleXYZ t.transform) }, ?_,
      ⟨h.transform, h.tran, h.tranFlag, h.rotFlag, List.length_ofFn, fun _ => rfl⟩, rfl⟩
    rw [updateVectors, foldlM_setElement h.size, h.transform]
    rfl
  · have hrot := h.cached (by simpa using hdirty)
    exact ⟨o, rfl, h, hrot⟩

lemma translation (i : Fin 3) : ∃ o', o.translation glm (i : ℕ) = some (o', t.translation i) ∧
    Represents glm o' t := by
  obtain ⟨o', ho', h', -⟩ := h.refresh
  refine ⟨o', ?_, h'⟩
  rw [TransformObject.translation, ho']
  simp only [Option.bind_eq_bind, Option.bind_some, h'.tran, element_ofFn]
  rfl

lemma rotation (i : Fin 3) : ∃ o', o.rotation glm (i : ℕ) =
    some (o', glm.extractEulerAngleXYZ t.transform i) ∧ Represents glm o' t := by
  obtain ⟨o', ho', h', hrot⟩ := h.refresh
  refine ⟨o', ?_, h'⟩
  rw [TransformObject.rotation, ho']
  simp only [Option.bind_eq_bind, Option.bind_some, hrot, element_ofFn]

lemma translate (i : Fin 3) (amt : R) : ∃ o', o.translate i amt = some o' ∧
    Represents glm o' (t.translate i amt) := by
  refine ⟨{ o with tran := List.ofFn (Function.update t.tran i amt), tranFlag := true }, ?_,
    h.transform, rfl, rfl, h.rotFlag, h.size, h.cached⟩
  rw [TransformObject.translate, h.tran, setElement_ofFn]
  rfl

lemma rotate (i : Fin 3) (amt : R) : Represents glm (o.rotate glm i amt) (t.rotate glm i amt) where
  transform := congrArg (· * glm.rotationMatrix i amt) h.transform
  tran := h.tran
  tranFlag := h.tranFlag
  rotFlag := rfl
  size := h.size
  cached := nofun

lemma invert : ∃ o', o.invert glm = some o' ∧ Represents glm o' (t.invert glm) := by
  refine ⟨{ o with
    tran := List.ofFn fun i => -1 * t.tran i
    vectorsNeedUpdating := true
    transform := glm.inverse o.transform }, ?_, congrArg glm.inverse h.transform, rfl, h.tranFlag,
    h.rotFlag, h.size, nofun⟩
  rw [TransformObject.invert, h.tran, foldlM_negate]
  rfl

lemma print : ∃ o', o.print glm = some o' ∧ Represents glm o' t := by
  obtain ⟨o', ho', h', hrot⟩ := h.refresh
  have hmap : ∀ v : Fin 3 → R, indices.mapM (fun i => element (List.ofFn v) (i : ℕ)) =
      some [v 0, v 1, v 2] := fun v => by simp [indices, element]
  refine ⟨o', ?_, h'⟩
  rw [TransformObject.print, ho']
  simp only [Option.bind_eq_bind, Option.bind_some, h'.tran, hrot, hmap]
  split_ifs <;> rfl

end Represents

/-! ### The transforms of the objects -/

section Families

variable {ι : Type} [DecidableEq ι]

variable {glm} {s : ι → TransformObject R} {ts : ι → Transform R}
  (h : ∀ i, Represents glm (s i) (ts i))
include h

/-- An object and its transform are replaced. -/
lemma represents_update {o : TransformObject R} {t : Transform R} (ho : Represents glm o t)
    (i : ι) : ∀ j, Represents glm (Function.update s i o j) (Function.update ts i t j) := by
  intro j
  by_cases hj : j = i
  · subst hj
    rwa [Function.update_self, Function.update_self]
  · rw [Function.update_of_ne hj, Function.update_of_ne hj]
    exact h j

/-- An object is replaced by one that stands for the same transform. -/
lemma represents_update_self {i : ι} {o : TransformObject R} (ho : Represents glm o (ts i)) :
    ∀ j, Represents glm (Function.update s i o j) (ts j) := by
  have hupdate := represents_update h ho i
  rwa [Function.update_eq_self] at hupdate

omit h in
/-- A sum or a difference. -/
def added (inverted : Bool) (x amt : R) : R := if inverted then x - amt else x + amt

omit h in
/-- One entry of the translation of `t` after that of `u` is added. -/
def addedAt (t u : ι) (inverted : Bool) (ts : ι → Transform R) (i : Fin 3) : ι → Transform R :=
  Function.update ts t { ts t with
    tran := Function.update (ts t).tran i (added inverted ((ts t).tran i) ((ts u).tran i)) }

lemma represents_addTranslation (t u : ι) (inverted : Bool) (i : Fin 3) :
    ∃ s', addTranslation glm t u inverted s i = some s' ∧
      ∀ j, Represents glm (s' j) (addedAt t u inverted ts i j) := by
  obtain ⟨o, ho, hrep⟩ := (h u).translation i
  have h₁ := represents_update_self h hrep
  set s₁ := Function.update s u o
  set x := added inverted ((ts t).tran i) ((ts u).tran i)
  refine ⟨Function.update s₁ t
    { s₁ t with tran := List.ofFn (Function.update (ts t).tran i x) }, ?_, ?_⟩
  · rw [addTranslation, ho]
    simp only [Option.bind_eq_bind, Option.bind_some]
    rw [show Function.update s u o = s₁ from rfl, (h₁ t).tran, element_ofFn, Option.bind_some,
      setElement_ofFn]
    rfl
  · have ht := h₁ t
    have hadded : Represents glm
        { s₁ t with tran := List.ofFn (Function.update (ts t).tran i x) }
        { ts t with tran := Function.update (ts t).tran i x } :=
      ⟨ht.transform, rfl, ht.tranFlag, ht.rotFlag, ht.size, ht.cached⟩
    exact represents_update h₁ hadded t

omit h in
/-- The loop adds the translations up, also those of one and the same object. -/
lemma foldl_addedAt (t u : ι) (inverted : Bool) (ts : ι → Transform R) :
    indices.foldl (addedAt t u inverted) ts = Function.update ts t { ts t with
      tran := fun i => added inverted ((ts t).tran i) ((ts u).tran i) } := by
  by_cases hut : u = t
  · subst hut
    simp only [indices, List.foldl_cons, List.foldl_nil, addedAt, Function.update_self,
      Function.update_idem]
    congr 2
    funext i
    fin_cases i <;> simp
  · simp only [indices, List.foldl_cons, List.foldl_nil, addedAt, Function.update_self,
      Function.update_of_ne hut, Function.update_idem]
    congr 2
    funext i
    fin_cases i <;> simp

lemma represents_addTransform (t u : ι) (inverted : Bool) :
    ∃ s', addTransform glm t u inverted s = some s' ∧
      ∀ j, Represents glm (s' j)
        (Function.update ts t ((ts t).addTransform glm (ts u) inverted) j) := by
  obtain ⟨s', hs', h'⟩ := exists_foldlM_simulation (K := fun _ => True)
    (S := fun (s : ι → TransformObject R) (ts : ι → Transform R) =>
      ∀ j, Represents glm (s j) (ts j))
    (fun s ts i h _ => represents_addTranslation h t u inverted i) h
    (fun i (_ : i ∈ indices) => trivial)
  rw [foldl_addedAt] at h'
  set ts' := Function.update ts t { ts t with
    tran := fun i => added inverted ((ts t).tran i) ((ts u).tran i) } with hts'
  -- Nothing but the translation of `t` is new.
  have hsame : ∀ j, (ts' j).transform = (ts j).transform ∧ (ts' j).tranFlag = (ts j).tranFlag ∧
      (ts' j).rotFlag = (ts j).rotFlag := by
    intro j
    by_cases hj : j = t
    · subst hj
      rw [hts', Function.update_self]
      exact ⟨rfl, rfl, rfl⟩
    · rw [hts', Function.update_of_ne hj]
      exact ⟨rfl, rfl, rfl⟩
  have htransform : ∀ j, (s' j).transform = (ts j).transform := fun j =>
    (h' j).transform.trans (hsame j).1
  have htranFlag : ∀ j, (s' j).tranFlag = (ts j).tranFlag := fun j =>
    (h' j).tranFlag.trans (hsame j).2.1
  have hrotFlag : ∀ j, (s' j).rotFlag = (ts j).rotFlag := fun j =>
    (h' j).rotFlag.trans (hsame j).2.2
  have htran : (s' t).tran = List.ofFn ((ts t).addTransform glm (ts u) inverted).tran := by
    rw [(h' t).tran, hts', Function.update_self]
    rfl
  refine ⟨_, by rw [addTransform, hs']; rfl, ?_⟩
  have hadded : Represents glm
      { s' t with
        transform :=
          if inverted then glm.inverse (s' u).transform * (s' t).transform
          else (s' u).transform * (s' t).transform
        tranFlag := (s' u).tranFlag || (s' t).tranFlag
        rotFlag := (s' u).rotFlag || (s' t).rotFlag
        vectorsNeedUpdating := true }
      ((ts t).addTransform glm (ts u) inverted) := by
    refine ⟨?_, htran, ?_, ?_, (h' t).size, nofun⟩
    · simp only [htransform]
      rfl
    · simp only [htranFlag]
      rfl
    · simp only [hrotFlag]
      rfl
  have hupdate := represents_update h' hadded t
  rwa [hts', Function.update_idem] at hupdate

end Families

/-! ### Runs -/

section Runs

variable {ι : Type} [DecidableEq ι]

/-- What a call is for: the transforms of the objects after it. -/
def Call.apply (ts : ι → Transform R) : Call ι R → ι → Transform R
  | .translate t index amt => Function.update ts t ((ts t).translate index amt)
  | .rotate t index amt => Function.update ts t ((ts t).rotate glm index amt)
  | .addTransform t u inverted =>
      Function.update ts t ((ts t).addTransform glm (ts u) inverted)
  | .invert t => Function.update ts t ((ts t).invert glm)
  | .clear t => Function.update ts t Transform.new
  | .translation _ _ | .rotation _ _ | .print _ => ts

/-- Nothing is cleared, and there is an entry for the index that is read. -/
def Call.Proper : Call ι R → Prop
  | .clear _ => False
  | .translation _ index | .rotation _ index => 0 ≤ index ∧ index < 3
  | _ => True

variable {glm}

omit [DecidableEq ι] [CommRing R] in
lemma exists_index {index : ℤ} (h : 0 ≤ index ∧ index < 3) : ∃ i : Fin 3, index = (i : ℕ) := by
  obtain ⟨n, rfl⟩ := Int.eq_ofNat_of_zero_le h.1
  exact ⟨⟨n, by omega⟩, rfl⟩

/-- The transforms stay such that the functions build. -/
lemma built_apply {ts : ι → Transform R} (hts : ∀ i, (ts i).Built glm) (c : Call ι R) :
    ∀ i, (c.apply glm ts i).Built glm := by
  have hupdate : ∀ (t : ι) {x : Transform R}, x.Built glm →
      ∀ i, (Function.update ts t x i).Built glm := by
    intro t x hx i
    by_cases hi : i = t
    · subst hi
      rwa [Function.update_self]
    · rw [Function.update_of_ne hi]
      exact hts i
  cases c with
  | translate t index amt => exact hupdate t (.translate index amt (hts t))
  | rotate t index amt => exact hupdate t (.rotate index amt (hts t))
  | addTransform t u inverted => exact hupdate t (.addTransform inverted (hts t) (hts u))
  | invert t => exact hupdate t (.invert (hts t))
  | clear t => exact hupdate t .new
  | translation t index => exact hts
  | rotation t index => exact hts
  | print t => exact hts

/-- A proper call does to the objects what it does to their transforms. -/
theorem represents_step {s : ι → TransformObject R} {ts : ι → Transform R}
    (h : ∀ i, Represents glm (s i) (ts i)) {c : Call ι R} (hc : c.Proper) :
    ∃ s', step glm s c = some s' ∧ ∀ i, Represents glm (s' i) (c.apply glm ts i) := by
  cases c with
  | translate t index amt =>
      obtain ⟨o, ho, hrep⟩ := (h t).translate index amt
      exact ⟨_, by rw [step, ho]; rfl, represents_update h hrep t⟩
  | rotate t index amt => exact ⟨_, rfl, represents_update h ((h t).rotate index amt) t⟩
  | addTransform t u inverted => exact represents_addTransform h t u inverted
  | invert t =>
      obtain ⟨o, ho, hrep⟩ := (h t).invert
      exact ⟨_, by rw [step, ho]; rfl, represents_update h hrep t⟩
  | clear t => exact hc.elim
  | translation t index =>
      obtain ⟨i, rfl⟩ := exists_index hc
      obtain ⟨o, ho, hrep⟩ := (h t).translation i
      exact ⟨_, by rw [step, ho]; rfl, represents_update_self h hrep⟩
  | rotation t index =>
      obtain ⟨i, rfl⟩ := exists_index hc
      obtain ⟨o, ho, hrep⟩ := (h t).rotation i
      exact ⟨_, by rw [step, ho]; rfl, represents_update_self h hrep⟩
  | print t =>
      obtain ⟨o, ho, hrep⟩ := (h t).print
      exact ⟨_, by rw [step, ho]; rfl, represents_update_self h hrep⟩

/-- Without clearing, the objects of a run stand for what the calls make of the
transforms. -/
theorem represents_run {calls : List (Call ι R)} (hcalls : ∀ c ∈ calls, c.Proper) :
    ∃ s, calls.foldlM (step glm) (fun _ => {}) = some s ∧
      ∀ i, Represents glm (s i) (calls.foldl (Call.apply glm) (fun _ => Transform.new) i) :=
  exists_foldlM_simulation (K := Call.Proper)
    (S := fun (s : ι → TransformObject R) (ts : ι → Transform R) =>
      ∀ i, Represents glm (s i) (ts i))
    (fun _ _ c h hc => represents_step (c := c) h hc) (fun _ => represents_new glm) hcalls

/-- What is to hold of an object between two calls. -/
structure Sound (glm : Glm R) (o : TransformObject R) : Prop where
  tran : o.tran.length = 3
  rot : o.rot.length = 3
  isRotation : IsRotation o.transform
  cached : o.vectorsNeedUpdating = false →
    o.rot = List.ofFn (glm.extractEulerAngleXYZ o.transform)

omit [DecidableEq ι] in
lemma Represents.sound (hglm : glm.Exact) {o : TransformObject R} {t : Transform R}
    (h : Represents glm o t) (ht : t.Built glm) : Sound glm o where
  tran := by rw [h.tran, List.length_ofFn]
  rot := h.size
  isRotation := h.transform ▸ ht.isRotation hglm
  cached := h.transform ▸ h.cached

/-- The angle that is returned is that of the matrix. -/
def Current (glm : Glm R) (s : ι → TransformObject R) : Call ι R → Prop
  | .rotation t index => ∃ (i : Fin 3) (o : TransformObject R), index = (i : ℕ) ∧
      (s t).rotation glm index = some (o, glm.extractEulerAngleXYZ (s t).transform i)
  | _ => True

/-- After a call all objects are sound, and it has returned no stale angle. -/
def Kept (glm : Glm R) (s : ι → TransformObject R) (c : Call ι R) (s' : ι → TransformObject R) :
    Prop :=
  (∀ i, Sound glm (s' i)) ∧ Current glm s c

/-- The objects stand for transforms that the functions build. -/
def Standing (glm : Glm R) (s : ι → TransformObject R) : Prop :=
  ∃ ts : ι → Transform R, (∀ i, (ts i).Built glm) ∧ ∀ i, Represents glm (s i) (ts i)

lemma exists_step (hglm : glm.Exact) {s : ι → TransformObject R} (hs : Standing glm s)
    {c : Call ι R} (hc : c.Proper) :
    ∃ s', step glm s c = some s' ∧ Kept glm s c s' ∧ Standing glm s' := by
  obtain ⟨ts, hts, h⟩ := hs
  obtain ⟨s', hs', h'⟩ := represents_step h hc
  have hts' := built_apply hts c
  refine ⟨s', hs', ⟨fun i => (h' i).sound hglm (hts' i), ?_⟩, _, hts', h'⟩
  cases c with
  | rotation t index =>
      obtain ⟨i, rfl⟩ := exists_index hc
      obtain ⟨o, ho, -⟩ := (h t).rotation i
      exact ⟨i, o, rfl, (h t).transform ▸ ho⟩
  | _ => trivial

/-- A call that keeps the objects sound is proper. -/
lemma proper_of_kept {s s' : ι → TransformObject R} (hs : Standing glm s) {c : Call ι R}
    (hstep : step glm s c = some s') (hkept : Kept glm s c s') : c.Proper := by
  obtain ⟨ts, -, h⟩ := hs
  cases c with
  | clear t =>
      have htran := (hkept.1 t).tran
      obtain rfl := Option.some.inj hstep
      rw [Function.update_self] at htran
      cases htran
  | translation t index =>
      obtain ⟨o, ho, h', -⟩ := (h t).refresh
      rw [step, TransformObject.translation, ho] at hstep
      cases hx : element o.tran index with
      | none =>
          simp [hx] at hstep
      | some x =>
          have hbounds := bounds_of_element hx
          rw [h'.tran, List.length_ofFn] at hbounds
          exact hbounds
  | rotation t index =>
      obtain ⟨i, o, rfl, -⟩ := hkept.2
      exact ⟨by omega, by omega⟩
  | _ => trivial

/-- From construction the objects are sound, and they stay so along a run, with a
meaning for every call and no stale angle, exactly when nothing is cleared and the
values are read at the three indices. -/
theorem throughout_iff_proper (hglm : glm.Exact) (calls : List (Call ι R)) :
    Sound glm ({} : TransformObject R) ∧
      (Throughout (step glm) (Kept glm) (fun _ => {}) calls ↔ ∀ c ∈ calls, c.Proper) := by
  have hstart : Standing glm fun _ : ι => ({} : TransformObject R) :=
    ⟨fun _ => Transform.new, fun _ => .new, fun _ => represents_new glm⟩
  refine ⟨(represents_new glm).sound hglm .new, ?_⟩
  rw [throughout_iff_admitted (I := Standing glm) (fun _ _ hs hc => exists_step hglm hs hc)
    (fun _ _ _ hs hstep hkept => proper_of_kept hs hstep hkept) hstart calls]
  refine admitted_iff_forall (I := Standing glm) (fun s c hs hc => ?_) hstart calls
  obtain ⟨s', hs', -, hstanding⟩ := exists_step hglm hs hc
  exact ⟨s', hs', hstanding⟩

end Runs

/-- A rotation that is read, and added to itself. -/
theorem throughout_iff_proper_doubled :
    Sound Glm.real ({} : TransformObject ℝ) ∧
      (Throughout (step Glm.real) (Kept Glm.real) (fun _ : Unit => {})
          [.rotate () 0 1, .rotation () 0, .addTransform () () false, .print ()] ↔
        ∀ c ∈ ([.rotate () 0 1, .rotation () 0, .addTransform () () false, .print ()] :
          List (Call Unit ℝ)), c.Proper) :=
  throughout_iff_proper Glm.real_exact _

/-- Once it is cleared, an object has no entries left that could be read. -/
theorem not_throughout_cleared :
    (¬ ∀ calls : List (Call Unit ℝ),
      Throughout (step Glm.real) (Kept Glm.real) (fun _ => {}) calls) ∧
    ([.clear (), .translation () 0] : List (Call Unit ℝ)).foldlM (step Glm.real)
      (fun _ => {}) = none := by
  refine ⟨fun h => ?_, rfl⟩
  obtain ⟨s, hs, ⟨hsound, -⟩, -⟩ := h [.clear ()]
  obtain rfl := Option.some.inj hs
  exact absurd (hsound ()).tran (by simp [clear])

end TransformObject

end CrazyIvan
