import CrazyIvan.Network.Paths
import CrazyIvan.Network.Types

/-!
The transform along a path when links of it are turned around.

* `Redirected`: a link in the opposite direction that stores the inverted
  transform.
* `reverseWalk`: the path from its end to its start, which is a path of the graph
  (`SceneWalk.reverse`).
* `Same`: transforms that read alike; the loop over a path keeps this
  (`same_foldl_addTransform`).
* `pathTransform_redirected`: turning links around changes nothing, and the path
  from end to start has the inverse transform.
-/

namespace CrazyIvan

open Cypher Geometry

section Redirection

variable {R : Type} [CommRing R] {env : Env R}

/-! ### Paths -/

/-- A step along the link in the opposite direction that stores the inverse of the
transform which the link of the other step stores. -/
def Redirected (env : Env R) (st st' : Rel R × Bool × Node R) : Prop :=
  st'.2.1 = !st.2.1 ∧ ∃ t, edgeTransform env st.1.props true = .ok t ∧
    st'.1.props = linkProps env.glm (t.invert env.glm)

/-- The path from the end to the start, which is given. -/
def reverseWalk (a : Node R) : List (Rel R × Bool × Node R) → List (Rel R × Bool × Node R)
  | [] => []
  | (r, forward, n) :: w => reverseWalk n w ++ [(r, !forward, a)]

section Walks

omit [CommRing R]

/-- A walk that goes on with one more step. -/
lemma append_mem_walks {g : Graph R} {st : Rel R × Bool × Node R} {k : ℕ} {a : Node R}
    {w : List (Rel R × Bool × Node R)} (hw : w ∈ g.walks k a)
    (hst : st ∈ g.stepsFrom (walkEnd a w)) : w ++ [st] ∈ g.walks (k + 1) a := by
  induction k generalizing a w with
  | zero =>
      obtain rfl := List.mem_singleton.mp hw
      exact List.mem_flatMap.mpr ⟨st, hst, List.mem_singleton.mpr rfl⟩
  | succ k ih =>
      obtain ⟨st₀, hst₀, hcons⟩ := List.mem_flatMap.mp hw
      obtain ⟨w, hrest, rfl⟩ := List.mem_map.mp hcons
      exact List.mem_flatMap.mpr ⟨st₀, hst₀, List.mem_map.mpr ⟨_, ih hrest hst, rfl⟩⟩

/-- A step can be taken back. -/
lemma mem_stepsFrom_back {g : Graph R} {a n : Node R} {r : Rel R} {forward : Bool}
    (ha : a ∈ g.nodes) (h : (r, forward, n) ∈ g.stepsFrom a) :
    (r, !forward, a) ∈ g.stepsFrom n := by
  rcases mem_stepsFrom ha h with ⟨hforward, ht⟩ | ⟨hforward, ht⟩
  · obtain rfl : forward = true := hforward
    exact List.mem_append_right _ (List.mem_map.mpr
      ⟨_, List.mem_filter.mpr ⟨ht, by simp⟩, rfl⟩)
  · obtain rfl : forward = false := hforward
    exact List.mem_append_left _ (List.mem_map.mpr
      ⟨_, List.mem_filter.mpr ⟨ht, by simp⟩, rfl⟩)

lemma walkEnd_append (a : Node R) (w : List (Rel R × Bool × Node R))
    (st : Rel R × Bool × Node R) : walkEnd a (w ++ [st]) = st.2.2 := by
  induction w generalizing a with
  | nil => rfl
  | cons st₀ w ih => exact ih st₀.2.2

/-- The path from end to start is a path. -/
lemma SceneWalk.reverse {g : Graph R} {a b : Node R} {w : List (Rel R × Bool × Node R)}
    (hw : SceneWalk g a b w) : SceneWalk g b a (reverseWalk a w) := by
  induction w generalizing a with
  | nil =>
      obtain rfl : a = b := hw.ends
      exact hw
  | cons st w ih =>
      obtain ⟨r, forward, n⟩ := st
      obtain ⟨hst, htail⟩ := hw.tail
      have hrev := ih htail
      have hback := mem_stepsFrom_back hw.start hst
      refine ⟨hrev.start, hrev.scene, ?_, ?_, walkEnd_append _ _ _⟩
      · rw [reverseWalk, List.length_append, List.length_singleton]
        exact append_mem_walks hrev.walk (hrev.ends.symm ▸ hback)
      · intro st hst
        rcases List.mem_append.mp hst with hst | hst
        · exact hrev.scenes st hst
        · rw [List.mem_singleton.mp hst]
          exact hw.scene

end Walks

/-! ### Transforms that read alike -/

/-- The same translation and the same matrix. -/
structure Same (t u : Transform R) : Prop where
  tran : t.tran = u.tran
  transform : t.transform = u.transform

namespace Same

omit env

lemma refl (t : Transform R) : Same t t := ⟨rfl, rfl⟩

lemma symm {t u : Transform R} (h : Same t u) : Same u t := ⟨h.tran.symm, h.transform.symm⟩

lemma trans {t u v : Transform R} (h : Same t u) (h' : Same u v) : Same t v :=
  ⟨h.tran.trans h'.tran, h.transform.trans h'.transform⟩

lemma invert (glm : Glm R) {t u : Transform R} (h : Same t u) :
    Same (t.invert glm) (u.invert glm) :=
  ⟨by rw [Transform.tran_invert, Transform.tran_invert, h.tran],
    by rw [Transform.transform_invert, Transform.transform_invert, h.transform]⟩

lemma invert_invert {glm : Glm R} (hglm : glm.Exact) {t : Transform R} (ht : t.Built glm) :
    Same ((t.invert glm).invert glm) t :=
  ⟨by rw [Transform.tran_invert, Transform.tran_invert, neg_neg],
    by rw [Transform.transform_invert, Transform.transform_invert,
      hglm.inverse_inverse (ht.isRotation hglm)]⟩

lemma reread {glm : Glm R} (hglm : glm.Exact) {t : Transform R} (ht : t.Built glm) :
    Same (t.reread glm) t :=
  ⟨tran_reread glm t, transform_reread hglm ht⟩

end Same

omit env in
/-- The loop does not tell transforms apart that read alike. -/
lemma same_foldl_addTransform (glm : Glm R) {ts us : List (Transform R)}
    (h : List.Forall₂ Same ts us) :
    Same (ts.foldl (fun acc t => acc.addTransform glm t false) Transform.new)
      (us.foldl (fun acc t => acc.addTransform glm t false) Transform.new) := by
  have hmap : ts.map Transform.tran = us.map Transform.tran ∧
      ts.map Transform.transform = us.map Transform.transform := by
    induction h with
    | nil => exact ⟨rfl, rfl⟩
    | cons hd _ ih =>
        simp only [List.map_cons, hd.tran, hd.transform, ih.1, ih.2, and_self]
  obtain ⟨htran, htransform⟩ := Transform.foldl_addTransform glm ts Transform.new
  obtain ⟨hutran, hutransform⟩ := Transform.foldl_addTransform glm us Transform.new
  exact ⟨by rw [htran, hutran, hmap.1], by rw [htransform, hutransform, hmap.2]⟩

/-! ### Steps -/

/-- One property of a stored transform is read, if it exists. -/
def readInto (env : Env R) (f : Transform R → R → Transform R) (map : Props R) (name : String)
    (t : Transform R) : Except Fail (Transform R) :=
  match map name with
  | some v => (f t ·) <$> env.getFloatElement v
  | none => .ok t

lemma edgeTransform_eq (map : Props R) (forward : Bool) :
    edgeTransform env map forward = (do
      let t ← readInto env (·.translate 0) map "translation_x" Transform.new
      let t ← readInto env (·.translate 1) map "translation_y" t
      let t ← readInto env (·.translate 2) map "translation_z" t
      let t ← readInto env (·.rotate env.glm 0) map "rotation_x" t
      let t ← readInto env (·.rotate env.glm 1) map "rotation_y" t
      let t ← readInto env (·.rotate env.glm 2) map "rotation_z" t
      pure (if forward then t else t.invert env.glm)) := rfl

lemma exists_readInto {f : Transform R → R → Transform R}
    (hf : ∀ t x, t.Built env.glm → (f t x).Built env.glm) {map : Props R} {name : String}
    (hnum : ∀ v, map name = some v → ∃ x, v = .num x) {t : Transform R}
    (ht : t.Built env.glm) : ∃ u, readInto env f map name t = .ok u ∧ u.Built env.glm := by
  cases hv : map name with
  | none => exact ⟨t, by rw [readInto, hv], ht⟩
  | some v =>
      obtain ⟨x, rfl⟩ := hnum v hv
      exact ⟨f t x, by rw [readInto, hv]; rfl, hf t x ht⟩

variable (env) in
/-- What is stored on a link is read as a transform that the operations make, and
inverted if the link is walked backwards. -/
lemma exists_edgeTransform {map : Props R} (hmap : StoresNumbers map) :
    ∃ t, t.Built env.glm ∧ ∀ forward,
      edgeTransform env map forward = .ok (if forward then t else t.invert env.glm) := by
  have htranslate : ∀ (i : Fin 3) (t : Transform R) x, t.Built env.glm →
      (t.translate i x).Built env.glm := fun i t x ht => .translate i x ht
  have hrotate : ∀ (i : Fin 3) (t : Transform R) x, t.Built env.glm →
      (t.rotate env.glm i x).Built env.glm := fun i t x ht => .rotate i x ht
  obtain ⟨t₁, h₁, b₁⟩ := exists_readInto (htranslate 0) (hmap "translation_x" (by decide)) .new
  obtain ⟨t₂, h₂, b₂⟩ := exists_readInto (htranslate 1) (hmap "translation_y" (by decide)) b₁
  obtain ⟨t₃, h₃, b₃⟩ := exists_readInto (htranslate 2) (hmap "translation_z" (by decide)) b₂
  obtain ⟨t₄, h₄, b₄⟩ := exists_readInto (hrotate 0) (hmap "rotation_x" (by decide)) b₃
  obtain ⟨t₅, h₅, b₅⟩ := exists_readInto (hrotate 1) (hmap "rotation_y" (by decide)) b₄
  obtain ⟨t₆, h₆, b₆⟩ := exists_readInto (hrotate 2) (hmap "rotation_z" (by decide)) b₅
  refine ⟨t₆, b₆, fun forward => ?_⟩
  rw [edgeTransform_eq, h₁, bind_of_ok, h₂, bind_of_ok, h₃, bind_of_ok, h₄, bind_of_ok, h₅,
    bind_of_ok, h₆]
  rfl

/-- A step along a turned link reads like the step along the link. -/
lemma exists_stepTransform_redirected (hglm : env.glm.Exact)
    {st st' : Rel R × Bool × Node R} (hst : StoresNumbers st.1.props)
    (h : Redirected env st st') :
    ∃ t t', stepTransform env st = .ok t ∧ stepTransform env st' = .ok t' ∧ Same t t' := by
  obtain ⟨t, ht, hread⟩ := exists_edgeTransform env hst
  obtain ⟨hdirection, u, hu, hprops⟩ := h
  obtain rfl : t = u := Except.ok.inj ((hread true).symm.trans hu)
  have hinvert := Same.reread hglm (Transform.Built.invert ht)
  refine ⟨_, _, hread st.2.1,
    by rw [stepTransform, hdirection, hprops, edgeTransform_linkProps], ?_⟩
  cases st.2.1 with
  | true => exact ((hinvert.invert env.glm).trans (Same.invert_invert hglm ht)).symm
  | false => exact hinvert.symm

/-- The steps of a path where links have been turned around. -/
lemma exists_mapM_redirected (hglm : env.glm.Exact) {w w' : List (Rel R × Bool × Node R)}
    (hw : ∀ st ∈ w, StoresNumbers st.1.props)
    (h : List.Forall₂ (fun st st' => st' = st ∨ Redirected env st st') w w')
    {ts : List (Transform R)} (hts : w.mapM (stepTransform env) = .ok ts) :
    ∃ us, w'.mapM (stepTransform env) = .ok us ∧ List.Forall₂ Same ts us := by
  induction h generalizing ts with
  | nil =>
      obtain rfl : [] = ts := Except.ok.inj hts
      exact ⟨[], rfl, .nil⟩
  | @cons st st' w w' hstep _ ih =>
      obtain ⟨t, t', ht, ht', hsame⟩ : ∃ t t', stepTransform env st = .ok t ∧
          stepTransform env st' = .ok t' ∧ Same t t' := by
        have hst := hw st List.mem_cons_self
        rcases hstep with rfl | hstep
        · obtain ⟨t, -, hread⟩ := exists_edgeTransform env hst
          exact ⟨_, _, hread _, hread _, .refl _⟩
        · exact exists_stepTransform_redirected hglm hst hstep
      rw [List.mapM_cons, ht, bind_of_ok] at hts
      cases hrest : w.mapM (stepTransform env) with
      | error e =>
          rw [hrest] at hts
          cases hts
      | ok ts' =>
          rw [hrest] at hts
          obtain rfl : t :: ts' = ts := Except.ok.inj hts
          obtain ⟨us, hus, hrel⟩ := ih (fun st hst => hw st (List.mem_cons_of_mem _ hst)) hrest
          refine ⟨t' :: us, ?_, .cons hsame hrel⟩
          rw [List.mapM_cons, ht', hus]
          rfl

/-- The step back along the same link has the inverse transform. -/
lemma exists_stepTransform_back (hglm : env.glm.Exact) {r : Rel R} (hr : StoresNumbers r.props)
    (forward : Bool) (n a : Node R) :
    ∃ t u, stepTransform env (r, forward, n) = .ok t ∧ stepTransform env (r, !forward, a) = .ok u ∧
      t.Built env.glm ∧ Same u (t.invert env.glm) := by
  obtain ⟨t, ht, hread⟩ := exists_edgeTransform env hr
  refine ⟨_, _, hread forward, hread (!forward), ?_⟩
  cases forward with
  | true => exact ⟨ht, .refl _⟩
  | false => exact ⟨.invert ht, (Same.invert_invert hglm ht).symm⟩

/-- The steps of the path from end to start are the inverses of those of the path,
from the last one to the first. -/
lemma exists_mapM_reverseWalk (hglm : env.glm.Exact) {w : List (Rel R × Bool × Node R)}
    (hw : ∀ st ∈ w, StoresNumbers st.1.props) (a : Node R) :
    ∃ ts us, w.mapM (stepTransform env) = .ok ts ∧
      (reverseWalk a w).mapM (stepTransform env) = .ok us ∧ (∀ t ∈ ts, t.Built env.glm) ∧
      List.Forall₂ Same us (ts.map fun t => t.invert env.glm).reverse := by
  induction w generalizing a with
  | nil => exact ⟨[], [], rfl, rfl, by simp, .nil⟩
  | cons st w ih =>
      obtain ⟨r, forward, n⟩ := st
      obtain ⟨ts, us, hts, hus, hbuilt, hsame⟩ := ih (fun st hst => hw st (by simp [hst])) n
      obtain ⟨t, u, ht, hu, hb, hinv⟩ :=
        exists_stepTransform_back hglm (hw _ List.mem_cons_self) forward n a
      refine ⟨t :: ts, us ++ [u], ?_, ?_, ?_, ?_⟩
      · rw [List.mapM_cons, ht, hts]
        rfl
      · rw [reverseWalk, List.mapM_append, hus, List.mapM_cons, hu, List.mapM_nil]
        rfl
      · exact List.forall_mem_cons.mpr ⟨hb, hbuilt⟩
      · rw [List.map_cons, List.reverse_cons]
        exact List.rel_append hsame (.cons hinv .nil)

/-! ### Redirection and reversal -/

/-- The rotations of the inverses from the last one to the first multiply to the
inverse of the product. -/
lemma prod_invert (hglm : env.glm.Exact) {ts : List (Transform R)}
    (hts : ∀ t ∈ ts, t.Built env.glm) :
    IsRotation (ts.map Transform.transform).reverse.prod ∧
      (ts.map fun t => (t.invert env.glm).transform).prod =
        env.glm.inverse (ts.map Transform.transform).reverse.prod := by
  induction ts with
  | nil =>
      refine ⟨IsRotation.one, ?_⟩
      exact (hglm.inverse_eq IsRotation.one (mul_one 1)).symm
  | cons t ts ih =>
      obtain ⟨hrot, hprod⟩ := ih fun t ht => hts t (by simp [ht])
      have ht := (hts t (by simp)).isRotation hglm
      have hcons : (List.map Transform.transform (t :: ts)).reverse.prod
          = (ts.map Transform.transform).reverse.prod * t.transform := by
        rw [List.map_cons, List.reverse_cons, List.prod_append, List.prod_singleton]
      refine ⟨hcons ▸ hrot.mul ht, ?_⟩
      rw [List.map_cons, List.prod_cons, hprod, Transform.transform_invert, hcons,
        hglm.inverse_mul_rev hrot ht]

omit env in
lemma sum_neg_tran (glm : Glm R) (ts : List (Transform R)) :
    (ts.map fun t => (t.invert glm).tran).sum = -(ts.map Transform.tran).sum := by
  induction ts with
  | nil => simp
  | cons t ts ih =>
      rw [List.map_cons, List.sum_cons, ih, Transform.tran_invert, List.map_cons, List.sum_cons,
        neg_add]

/-- The transform of a path, where any links may be replaced by redirected ones,
and that of the path from its end to its start. -/
theorem pathTransform_redirected (hglm : env.glm.Exact) {steps : List (Rel R × Bool × Node R)}
    (hsteps : ∀ st ∈ steps, StoresNumbers st.1.props) :
    ∃ e, pathTransform env steps = .ok e ∧
      (∀ steps', List.Forall₂ (fun st st' => st' = st ∨ Redirected env st st') steps steps' →
        ∃ e', pathTransform env steps' = .ok e' ∧ e'.tran = e.tran ∧
          e'.transform = e.transform) ∧
      ∀ a, ∃ r, pathTransform env (reverseWalk a steps) = .ok r ∧ r.tran = -e.tran ∧
        r.transform = env.glm.inverse e.transform := by
  obtain ⟨ts, -, hts, -⟩ := exists_mapM_reverseWalk hglm hsteps ⟨0, "", fun _ => none⟩
  refine ⟨_, pathTransform_eq env hts, fun steps' h => ?_, fun a => ?_⟩
  · obtain ⟨us, hus, hsame⟩ := exists_mapM_redirected hglm hsteps h hts
    obtain ⟨htran, htransform⟩ := same_foldl_addTransform env.glm hsame
    exact ⟨_, pathTransform_eq env hus, htran.symm, htransform.symm⟩
  · obtain ⟨ts', us, hts', hus, hbuilt, hsame⟩ := exists_mapM_reverseWalk hglm hsteps a
    obtain rfl : ts = ts' := Except.ok.inj (hts.symm.trans hts')
    obtain ⟨htran, htransform⟩ := same_foldl_addTransform env.glm hsame
    obtain ⟨hsum, hprod⟩ := Transform.foldl_addTransform env.glm ts Transform.new
    obtain ⟨hisum, hiprod⟩ := Transform.foldl_addTransform env.glm
      (ts.map fun t => t.invert env.glm).reverse Transform.new
    refine ⟨_, pathTransform_eq env hus, ?_, ?_⟩
    · rw [htran, hisum, hsum, List.map_reverse, List.sum_reverse, List.map_map,
        Function.comp_def, sum_neg_tran, Transform.tran_new, zero_add, zero_add]
    · rw [htransform, hiprod, hprod, List.map_reverse, List.map_map, List.reverse_reverse,
        Function.comp_def, (prod_invert hglm hbuilt).2, Transform.transform_new, mul_one, mul_one]

/-- The way over the second scene and the same way back, one link of which is walked backwards
each time. -/
theorem pathTransform_redirected_detour :
    SceneWalk linkedScenes (sceneAt 2) (sceneAt 0) (reverseWalk (sceneAt 0) detour) ∧
      ∃ e, pathTransform realEnv detour = .ok e ∧
        (∀ steps', List.Forall₂ (fun st st' => st' = st ∨ Redirected realEnv st st') detour
            steps' →
          ∃ e', pathTransform realEnv steps' = .ok e' ∧ e'.tran = e.tran ∧
            e'.transform = e.transform) ∧
        ∀ a, ∃ r, pathTransform realEnv (reverseWalk a detour) = .ok r ∧
          r.tran = -e.tran ∧ r.transform = Glm.real.inverse e.transform := by
  refine ⟨sceneWalk_detour.reverse, pathTransform_redirected Glm.real_exact fun st hst => ?_⟩
  simp only [detour, List.mem_cons, List.not_mem_nil, or_false] at hst
  rcases hst with rfl | rfl <;> exact (typed_linkProps _ _).transform

end Redirection

end CrazyIvan
