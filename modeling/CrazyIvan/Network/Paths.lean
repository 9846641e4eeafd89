import CrazyIvan.Query.Statements

/-!
The transform along a path of scene links: `pathTransform`, the loop of
`calculate_scene_scene_transform`, against what the links do one after another
and against the device that the links were computed from.

* `pathTransform_eq`: the loop adds up the transforms of the edges.
* `pathTransform_acts_iff`: it acts as the links do one after another exactly
  when their rotations multiply to the same matrix in both orders.
* `edgeTransform_linkProps`: an edge stands for the transform stored on it.
* `pathTransform_device`: on links computed from a device, the loop takes the
  transform of the device in the first scene to that in the last one.
-/

namespace CrazyIvan

open Cypher Geometry

section Paths

variable {R : Type} [CommRing R] (env : Env R)

/-- The transform of one step of a path. -/
def stepTransform (st : Rel R × Bool × Node R) : Except Fail (Transform R) :=
  edgeTransform env st.1.props st.2.1

/-! ### Links one after another -/

/-- The loop from an accumulated transform. -/
lemma foldlM_stepTransform {steps : List (Rel R × Bool × Node R)} {ts : List (Transform R)}
    (h : steps.mapM (stepTransform env) = .ok ts) (t₀ : Transform R) :
    steps.foldlM (fun acc step => do
      let pathTran ← edgeTransform env step.1.props step.2.1
      pure (acc.addTransform env.glm pathTran false)) t₀
      = .ok (ts.foldl (fun acc t => acc.addTransform env.glm t false) t₀) := by
  induction steps generalizing ts t₀ with
  | nil =>
      rw [List.mapM_nil] at h
      cases h
      rfl
  | cons st steps ih =>
      rw [List.mapM_cons] at h
      cases hst : stepTransform env st with
      | error e => rw [hst] at h; cases h
      | ok t =>
          rw [hst] at h
          cases hrest : steps.mapM (stepTransform env) with
          | error e => rw [hrest] at h; cases h
          | ok ts' =>
              rw [hrest] at h
              cases h
              rw [stepTransform] at hst
              rw [List.foldlM_cons, hst]
              exact ih hrest _

/-- The loop adds up the transforms of the edges. -/
lemma pathTransform_eq {steps : List (Rel R × Bool × Node R)} {ts : List (Transform R)}
    (h : steps.mapM (stepTransform env) = .ok ts) :
    pathTransform env steps
      = .ok (ts.foldl (fun acc t => acc.addTransform env.glm t false) Transform.new) :=
  foldlM_stepTransform env h _

lemma prod_reverse_tran (ts : List (Transform R)) :
    (ts.map fun t => translationMatrix t.tran).reverse.prod
      = translationMatrix (ts.map Transform.tran).sum := by
  rw [← prod_reverse_translationMatrix, List.map_map]
  rfl

/-- What the accumulated transform does to an element: the rotations act in the
order opposite to the path. -/
lemma apply_foldl_addTransform (glm : Glm R) (ts : List (Transform R)) (s : Mat4 R) :
    (ts.foldl (fun acc t => acc.addTransform glm t false) Transform.new).apply s =
      translationMatrix (ts.map Transform.tran).sum * s *
        (ts.map Transform.transform).reverse.prod := by
  obtain ⟨htran, hrot⟩ := Transform.foldl_addTransform glm ts Transform.new
  rw [Transform.apply, htran, hrot, Transform.tran_new, Transform.transform_new, zero_add, mul_one]

/-- The accumulated transform acts as the chain does exactly when the rotations
multiply to the same matrix in both orders. -/
lemma foldl_addTransform_acts_iff (glm : Glm R) (ts : List (Transform R)) :
    (∀ s : Mat4 R,
        (ts.foldl (fun acc t => acc.addTransform glm t false) Transform.new).apply s =
          (ts.map fun t => translationMatrix t.tran).reverse.prod * s *
            (ts.map Transform.transform).prod) ↔
      (ts.map Transform.transform).prod = (ts.map Transform.transform).reverse.prod := by
  simp only [apply_foldl_addTransform, prod_reverse_tran]
  rw [forall_sandwich_iff]
  exact eq_comm

/-- The transform of a path acts as its links do one after another exactly when
the rotations of the links multiply to the same matrix in both orders. -/
theorem pathTransform_acts_iff {steps : List (Rel R × Bool × Node R)} {ts : List (Transform R)}
    (hts : steps.mapM (stepTransform env) = .ok ts) :
    ∃ acc, pathTransform env steps = .ok acc ∧
      ((∀ s : Mat4 R, acc.apply s =
          (ts.map fun t => translationMatrix t.tran).reverse.prod * s *
            (ts.map Transform.transform).prod) ↔
        (ts.map Transform.transform).prod = (ts.map Transform.transform).reverse.prod) :=
  ⟨_, pathTransform_eq env hts, foldl_addTransform_acts_iff env.glm ts⟩

/-- The environment over the reals. -/
noncomputable def realEnv : Env ℝ := ⟨Glm.real, .undefined⟩

/-- A link that turns by an angle about an axis, walked forwards. -/
def turn (name : String) (angle : ℝ) : Rel ℝ × Bool × Node ℝ :=
  (⟨0, "TRANSFORM", 0, 1, fun k => if k = name then some (.num angle) else none⟩, true,
    ⟨1, "Scene", fun _ => none⟩)

/-- The transforms of a turn about the first and a turn about the second
axis. -/
lemma mapM_turns (x y : ℝ) :
    [turn "rotation_x" x, turn "rotation_y" y].mapM (stepTransform realEnv)
      = .ok [Transform.new.rotate Glm.real 0 x, Transform.new.rotate Glm.real 1 y] := rfl

/-- A link walked backwards. -/
def backwards (st : Rel ℝ × Bool × Node ℝ) : Rel ℝ × Bool × Node ℝ := (st.1, false, st.2.2)

/-- Turns about the first axis commute, also with the inverses. -/
lemma turns_comm (s t : ℝ) :
    Glm.real.rotationMatrix 0 s * Glm.real.inverse (Glm.real.rotationMatrix 0 t) =
      Glm.real.inverse (Glm.real.rotationMatrix 0 t) * Glm.real.rotationMatrix 0 s := by
  have hcomm : Glm.real.rotationMatrix 0 t * Glm.real.rotationMatrix 0 s =
      Glm.real.rotationMatrix 0 s * Glm.real.rotationMatrix 0 t := by
    rw [Glm.real_rotationMatrix_zero, Glm.real_rotationMatrix_zero, ← embed_mul, ← embed_mul]
    congr 1
    ext i j
    fin_cases i <;> fin_cases j <;> simp [rotX, Matrix.mul_apply, Fin.sum_univ_three] <;> ring
  have hrot := Glm.real_exact.rotationMatrix_isRotation 0 t
  set A := Glm.real.rotationMatrix 0 s
  set B := Glm.real.rotationMatrix 0 t
  calc A * Glm.real.inverse B = Glm.real.inverse B * B * (A * Glm.real.inverse B) := by
        rw [Glm.real_exact.inverse_mul B hrot.isUnit, one_mul]
    _ = Glm.real.inverse B * (B * A) * Glm.real.inverse B := by simp only [mul_assoc]
    _ = Glm.real.inverse B * A * (B * Glm.real.inverse B) := by rw [hcomm]; simp only [mul_assoc]
    _ = Glm.real.inverse B * A := by rw [Glm.real_exact.mul_inverse hrot, mul_one]

/-- On turns about one axis it does, also where a link is walked backwards. -/
theorem pathTransform_acts_turn :
    ∃ ts, [turn "rotation_x" 1, backwards (turn "rotation_x" 2)].mapM (stepTransform realEnv)
        = .ok ts ∧
      ∃ acc, pathTransform realEnv [turn "rotation_x" 1, backwards (turn "rotation_x" 2)]
          = .ok acc ∧
        ∀ s : Mat4 ℝ, acc.apply s =
          (ts.map fun t => translationMatrix t.tran).reverse.prod * s *
            (ts.map Transform.transform).prod := by
  have hts : [turn "rotation_x" 1, backwards (turn "rotation_x" 2)].mapM (stepTransform realEnv)
      = .ok [Transform.new.rotate Glm.real 0 1,
          (Transform.new.rotate Glm.real 0 2).invert Glm.real] := rfl
  obtain ⟨acc, hacc, hiff⟩ := pathTransform_acts_iff realEnv hts
  refine ⟨_, hts, acc, hacc, hiff.mpr ?_⟩
  simpa using turns_comm 1 2

/-- Two quarter turns about different axes do not commute. -/
lemma quarterTurns_ne :
    Glm.real.rotationMatrix 0 (Real.pi / 2) * Glm.real.rotationMatrix 1 (Real.pi / 2) ≠
      Glm.real.rotationMatrix 1 (Real.pi / 2) * Glm.real.rotationMatrix 0 (Real.pi / 2) := by
  rw [Glm.real_rotationMatrix_zero, Glm.real_rotationMatrix_one, ← embed_mul, ← embed_mul]
  intro h
  have h02 := congrFun (congrFun h 0) 2
  simp [embed, rotX, rotY, Matrix.mul_apply, Fin.sum_univ_three] at h02

/-- A quarter turn about the first axis and then one about the second are
accumulated in the wrong order. -/
theorem pathTransform_misorders :
    ¬ ∀ (steps : List (Rel ℝ × Bool × Node ℝ)) (ts : List (Transform ℝ)), steps ≠ [] →
      steps.mapM (stepTransform realEnv) = .ok ts →
      ∃ acc, pathTransform realEnv steps = .ok acc ∧
        ∀ s : Mat4 ℝ, acc.apply s =
          (ts.map fun t => translationMatrix t.tran).reverse.prod * s *
            (ts.map Transform.transform).prod := by
  intro h
  have hts := mapM_turns (Real.pi / 2) (Real.pi / 2)
  obtain ⟨acc, hacc, hacts⟩ := h _ _ (List.cons_ne_nil _ _) hts
  rw [pathTransform_eq realEnv hts] at hacc
  obtain rfl := Except.ok.inj hacc
  have hprod := (foldl_addTransform_acts_iff _ _).mp hacts
  refine quarterTurns_ne ?_
  simpa using hprod

/-! ### The transform stored on an edge -/

/-- An edge stands for the transform stored on it. -/
lemma edgeTransform_linkProps (t : Transform R) (forward : Bool) :
    edgeTransform env (linkProps env.glm t) forward
      = .ok (if forward then t.reread env.glm else (t.reread env.glm).invert env.glm) := rfl

/-! ### Links computed from a device -/

lemma tran_ududTransform (origin dest : Transform R) :
    (ududTransform env origin dest).tran = dest.tran - origin.tran := by
  rw [ududTransform, Transform.tran_addTransform, Transform.tran_invert,
    Transform.tran_addTransform, Transform.tran_new, zero_add, neg_add_eq_sub]

lemma transform_ududTransform (origin dest : Transform R) :
    (ududTransform env origin dest).transform
      = dest.transform * env.glm.inverse origin.transform := by
  rw [ududTransform, Transform.transform_addTransform, Transform.transform_invert,
    Transform.transform_addTransform, Transform.transform_new, mul_one]

lemma built_ududTransform {origin dest : Transform R} (ho : origin.Built env.glm)
    (hd : dest.Built env.glm) : (ududTransform env origin dest).Built env.glm :=
  .addTransform false (.invert (.addTransform false .new ho)) hd

variable {env}

/-- A transform takes another one to a third, as `add_transform` composes
them. -/
structure Takes (t origin dest : Transform R) : Prop where
  tran : t.tran = dest.tran - origin.tran
  transform : t.transform * origin.transform = dest.transform

/-- The computed link takes the transform in the one scene to that in the
other. -/
lemma takes_ududTransform (hglm : env.glm.Exact) {origin : Transform R}
    (ho : origin.Built env.glm) (dest : Transform R) :
    Takes (ududTransform env origin dest) origin dest where
  tran := tran_ududTransform env origin dest
  transform := by
    rw [transform_ududTransform, mul_assoc,
      hglm.inverse_mul _ (ho.isRotation hglm).isUnit, mul_one]

/-- The inverse takes back. -/
lemma Takes.invert (hglm : env.glm.Exact) {t origin dest : Transform R}
    (ht : t.Built env.glm) (h : Takes t origin dest) :
    Takes (t.invert env.glm) dest origin where
  tran := by rw [Transform.tran_invert, h.tran, neg_sub]
  transform := by
    rw [Transform.transform_invert, ← h.transform, ← mul_assoc,
      hglm.inverse_mul _ (ht.isRotation hglm).isUnit, one_mul]

/-- A stored transform takes as it did before it was stored. -/
lemma Takes.reread (hglm : env.glm.Exact) {t origin dest : Transform R}
    (ht : t.Built env.glm) (h : Takes t origin dest) : Takes (t.reread env.glm) origin dest where
  tran := by rw [tran_reread, h.tran]
  transform := by rw [transform_reread hglm ht, h.transform]

/-- A link holds the transform computed from the transforms `T` of a device in
its two scenes: the one from its start to its end, or the inverse of the one
from its end to its start. -/
def FromDevice (env : Env R) (T : Node R → Transform R) (t : Node R × Rel R × Node R) : Prop :=
  t.2.1.props = linkProps env.glm (ududTransform env (T t.1) (T t.2.2)) ∨
    t.2.1.props = linkProps env.glm ((ududTransform env (T t.2.2) (T t.1)).invert env.glm)

section Device

variable (hglm : env.glm.Exact) {T : Node R → Transform R} (hT : ∀ n, (T n).Built env.glm)

include hglm hT

/-- Either way the link takes the transform at its start to that at its end. -/
lemma FromDevice.exists_takes {t : Node R × Rel R × Node R} (h : FromDevice env T t) :
    ∃ l, t.2.1.props = linkProps env.glm l ∧ l.Built env.glm ∧ Takes l (T t.1) (T t.2.2) := by
  rcases h with h | h
  · exact ⟨_, h, built_ududTransform env (hT t.1) (hT t.2.2), takes_ududTransform hglm (hT t.1) _⟩
  · have hbuilt := built_ududTransform env (hT t.2.2) (hT t.1)
    exact ⟨_, h, .invert hbuilt, (takes_ududTransform hglm (hT t.2.2) _).invert hglm hbuilt⟩

/-- One step along such a link, in either direction. -/
lemma exists_stepTransform {t : Node R × Rel R × Node R} (h : FromDevice env T t) :
    (∃ l, stepTransform env (t.2.1, true, t.2.2) = .ok l ∧ Takes l (T t.1) (T t.2.2)) ∧
      ∃ l, stepTransform env (t.2.1, false, t.1) = .ok l ∧ Takes l (T t.2.2) (T t.1) := by
  obtain ⟨l, hl, hbuilt, htakes⟩ := h.exists_takes hglm hT
  have hread := htakes.reread hglm hbuilt
  refine ⟨⟨l.reread env.glm, ?_, hread⟩,
    ⟨(l.reread env.glm).invert env.glm, ?_, hread.invert hglm (built_reread _ _)⟩⟩
  · rw [stepTransform, hl, edgeTransform_linkProps, if_pos rfl]
  · rw [stepTransform, hl, edgeTransform_linkProps, if_neg Bool.false_ne_true]

end Device

/-! ### Walks -/

/-- The node a walk ends in. -/
def walkEnd (a : Node R) : List (Rel R × Bool × Node R) → Node R
  | [] => a
  | st :: w => walkEnd st.2.2 w

/-- A walk of a graph over scenes only. -/
structure SceneWalk (g : Graph R) (a b : Node R) (w : List (Rel R × Bool × Node R)) : Prop where
  start : a ∈ g.nodes
  scene : a.label = "Scene"
  walk : w ∈ g.walks w.length a
  scenes : ∀ st ∈ w, st.2.2.label = "Scene"
  ends : walkEnd a w = b

omit [CommRing R] in
/-- A step out of a node is a relationship at it. -/
lemma mem_stepsFrom {g : Graph R} {n : Node R} (hn : n ∈ g.nodes) {st : Rel R × Bool × Node R}
    (h : st ∈ g.stepsFrom n) :
    (st.2.1 = true ∧ (n, st.1, st.2.2) ∈ g.triples) ∨
      (st.2.1 = false ∧ (st.2.2, st.1, n) ∈ g.triples) := by
  rcases List.mem_append.mp h with h | h
  · obtain ⟨t, ht, rfl⟩ := List.mem_map.mp h
    obtain ⟨ht, hid⟩ := List.mem_filter.mp ht
    have : t.1 = n := g.eq_of_id_eq (g.src_mem_of_triple ht) hn (by simpa using hid)
    exact Or.inl ⟨rfl, this ▸ ht⟩
  · obtain ⟨t, ht, rfl⟩ := List.mem_map.mp h
    obtain ⟨ht, hid⟩ := List.mem_filter.mp ht
    have : t.2.2 = n := g.eq_of_id_eq (g.dst_mem_of_triple ht) hn (by simpa using hid)
    exact Or.inr ⟨rfl, this ▸ ht⟩

omit [CommRing R] in
lemma SceneWalk.tail {g : Graph R} {a b : Node R} {st : Rel R × Bool × Node R}
    {w : List (Rel R × Bool × Node R)} (h : SceneWalk g a b (st :: w)) :
    st ∈ g.stepsFrom a ∧ SceneWalk g st.2.2 b w := by
  obtain ⟨st', hst', hw⟩ := List.mem_flatMap.mp h.walk
  obtain ⟨w', hw', heq⟩ := List.mem_map.mp hw
  obtain ⟨rfl, rfl⟩ := List.cons.inj heq
  have hmem : st'.2.2 ∈ g.nodes := by
    rcases mem_stepsFrom h.start hst' with ⟨-, ht⟩ | ⟨-, ht⟩
    · exact g.dst_mem_of_triple ht
    · exact g.src_mem_of_triple ht
  exact ⟨hst', hmem, h.scenes st' (by simp), hw', fun st hst => h.scenes st (by simp [hst]),
    h.ends⟩

/-- Along a walk the steps take the transform in the first scene to that in the
last one. The induction is on the walk. -/
lemma exists_takes_of_walk (hglm : env.glm.Exact) {T : Node R → Transform R}
    (hT : ∀ n, (T n).Built env.glm) {g : Graph R}
    (hlinks : ∀ t ∈ g.triples, t.1.label = "Scene" → t.2.2.label = "Scene" →
      FromDevice env T t) {w : List (Rel R × Bool × Node R)} {a b : Node R}
    (hw : SceneWalk g a b w) :
    ∃ ts, w.mapM (stepTransform env) = .ok ts ∧
      (ts.map Transform.tran).sum = (T b).tran - (T a).tran ∧
      (ts.map Transform.transform).reverse.prod * (T a).transform = (T b).transform := by
  induction w generalizing a with
  | nil =>
      refine ⟨[], rfl, ?_, ?_⟩
      · simp [← hw.ends, walkEnd]
      · simp [← hw.ends, walkEnd]
  | cons st w ih =>
      obtain ⟨hst, htail⟩ := hw.tail
      obtain ⟨ts, hts, htran, hrot⟩ := ih htail
      have hstep : ∃ l, stepTransform env st = .ok l ∧ Takes l (T a) (T st.2.2) := by
        obtain ⟨r, fwd, n⟩ := st
        rcases mem_stepsFrom hw.start hst with ⟨rfl, ht⟩ | ⟨rfl, ht⟩
        · exact (exists_stepTransform hglm hT (hlinks _ ht hw.scene htail.scene)).1
        · exact (exists_stepTransform hglm hT (hlinks _ ht htail.scene hw.scene)).2
      obtain ⟨l, hl, htakes⟩ := hstep
      refine ⟨l :: ts, ?_, ?_, ?_⟩
      · rw [List.mapM_cons, hl, hts]
        rfl
      · rw [List.map_cons, List.sum_cons, htran, htakes.tran]
        abel
      · rw [List.map_cons, List.reverse_cons, List.prod_append, List.prod_singleton, mul_assoc,
          htakes.transform, hrot]

/-- On links computed from a device, the transform of any walk takes the
transform of the device in the first scene to that in the last one, so all walks
between two scenes have the same transform. -/
theorem pathTransform_device (hglm : env.glm.Exact) {T : Node R → Transform R}
    (hT : ∀ n, (T n).Built env.glm) {g : Graph R}
    (hlinks : ∀ t ∈ g.triples, t.1.label = "Scene" → t.2.2.label = "Scene" →
      FromDevice env T t) {a b : Node R} {w : List (Rel R × Bool × Node R)}
    (hw : SceneWalk g a b w) :
    ∃ e, pathTransform env w = .ok e ∧
      ((T a).addTransform env.glm e false).tran = (T b).tran ∧
      ((T a).addTransform env.glm e false).transform = (T b).transform ∧
      ∀ w', SceneWalk g a b w' →
        ∃ e', pathTransform env w' = .ok e' ∧ e'.tran = e.tran ∧ e'.transform = e.transform := by
  have hval : ∀ w, SceneWalk g a b w → ∃ e, pathTransform env w = .ok e ∧
      e.tran = (T b).tran - (T a).tran ∧
      e.transform = (T b).transform * env.glm.inverse (T a).transform := by
    intro w hw
    obtain ⟨ts, hts, htran, hrot⟩ := exists_takes_of_walk hglm hT hlinks hw
    obtain ⟨hsum, hprod⟩ := Transform.foldl_addTransform env.glm ts Transform.new
    refine ⟨_, pathTransform_eq env hts, ?_, ?_⟩
    · rw [hsum, Transform.tran_new, zero_add, htran]
    · rw [hprod, Transform.transform_new, mul_one, ← hrot, mul_assoc,
        hglm.mul_inverse ((hT a).isRotation hglm), mul_one]
  obtain ⟨e, he, htran, hrot⟩ := hval w hw
  refine ⟨e, he, ?_, ?_, fun w' hw' => ?_⟩
  · rw [Transform.tran_addTransform, htran, add_sub_cancel]
  · rw [Transform.transform_addTransform, hrot, mul_assoc,
      hglm.inverse_mul _ ((hT a).isRotation hglm).isUnit, mul_one]
  · obtain ⟨e', he', htran', hrot'⟩ := hval w' hw'
    exact ⟨e', he', by rw [htran', htran], by rw [hrot', hrot]⟩

/-! ### Three scenes -/

/-- A scene of the example. -/
def sceneAt (id : ℕ) : Node ℝ := ⟨id, "Scene", fun _ => none⟩

/-- A device that is moved and turned from the first scene to the second, and turned about
another axis in the third. -/
noncomputable def deviceAt (n : Node ℝ) : Transform ℝ :=
  if n.id = 0 then Transform.new
  else if n.id = 1 then (Transform.new.translate 0 1).rotate Glm.real 2 1
  else (Transform.new.translate 1 2).rotate Glm.real 0 1

/-- The link that this device gives between two scenes. -/
noncomputable def deviceLink (id src dst : ℕ) : Rel ℝ :=
  ⟨id, "TRANSFORM", src, dst, linkProps Glm.real
    (ududTransform realEnv (deviceAt (sceneAt src)) (deviceAt (sceneAt dst)))⟩

/-- The three scenes, with links from the first and the third to the second and from the first
to the third. -/
noncomputable def linkedScenes : Graph ℝ :=
  let nodes := ((Graph.empty.addNode "Scene" fun _ => none).addNode "Scene" fun _ => none).addNode
    "Scene" fun _ => none
  let links := (nodes.addRel "TRANSFORM" 0 1 (deviceLink 3 0 1).props).addRel "TRANSFORM" 2 1
    (deviceLink 4 2 1).props
  links.addRel "TRANSFORM" 0 2 (deviceLink 5 0 2).props

lemma triples_linkedScenes :
    linkedScenes.triples = [(sceneAt 0, deviceLink 3 0 1, sceneAt 1),
      (sceneAt 2, deviceLink 4 2 1, sceneAt 1), (sceneAt 0, deviceLink 5 0 2, sceneAt 2)] := by
  have hadd : ∀ (g : Graph ℝ) (src dst : ℕ) (props : Props ℝ), sceneAt src ∈ g.nodes →
      sceneAt dst ∈ g.nodes → (g.addRel "TRANSFORM" src dst props).triples =
        g.triples ++ [(sceneAt src, g.newRel "TRANSFORM" src dst props, sceneAt dst)] :=
    fun g src dst props hsrc hdst => Graph.triples_addRel g _ props hsrc hdst
  have hnodes : ∀ i < 3, sceneAt i ∈ (((Graph.empty.addNode "Scene" fun _ => none).addNode "Scene"
      fun _ => none).addNode "Scene" fun _ => none : Graph ℝ).nodes := by
    intro i hi
    interval_cases i <;> simp [sceneAt, Graph.addNode, Graph.empty]
  rw [linkedScenes, hadd _ 0 2 _ (by simpa using hnodes 0 (by decide))
      (by simpa using hnodes 2 (by decide)),
    hadd _ 2 1 _ (by simpa using hnodes 2 (by decide)) (by simpa using hnodes 1 (by decide)),
    hadd _ 0 1 _ (hnodes 0 (by decide)) (hnodes 1 (by decide))]
  rw [Graph.triples_addNode, Graph.triples_addNode, Graph.triples_addNode, Graph.triples_empty]
  rfl

/-- From the first scene to the second, and back along the link from the third. -/
noncomputable def detour : List (Rel ℝ × Bool × Node ℝ) :=
  [(deviceLink 3 0 1, true, sceneAt 1), (deviceLink 4 2 1, false, sceneAt 2)]

lemma mem_nodes_linkedScenes {i : ℕ} (hi : i = 0 ∨ i = 2) : sceneAt i ∈ linkedScenes.nodes := by
  rcases hi with rfl | rfl
  · exact linkedScenes.src_mem_of_triple (t := (sceneAt 0, deviceLink 3 0 1, sceneAt 1))
      (by rw [triples_linkedScenes]; simp)
  · exact linkedScenes.src_mem_of_triple (t := (sceneAt 2, deviceLink 4 2 1, sceneAt 1))
      (by rw [triples_linkedScenes]; simp)

lemma sceneWalk_detour : SceneWalk linkedScenes (sceneAt 0) (sceneAt 2) detour where
  start := mem_nodes_linkedScenes (.inl rfl)
  scene := rfl
  walk := by
    simp [detour, Graph.walks, Graph.stepsFrom, triples_linkedScenes, sceneAt]
  scenes := by simp [detour, sceneAt]
  ends := rfl

/-- The direct link. -/
lemma sceneWalk_direct : SceneWalk linkedScenes (sceneAt 0) (sceneAt 2)
    [(deviceLink 5 0 2, true, sceneAt 2)] where
  start := mem_nodes_linkedScenes (.inl rfl)
  scene := rfl
  walk := by simp [Graph.walks, Graph.stepsFrom, triples_linkedScenes, sceneAt]
  scenes := by simp [sceneAt]
  ends := rfl

/-- The way over the second scene, one link of which is walked backwards, and the direct one. -/
theorem pathTransform_device_linkedScenes :
    ∃ e, pathTransform realEnv detour = .ok e ∧
      ((deviceAt (sceneAt 0)).addTransform Glm.real e false).tran = (deviceAt (sceneAt 2)).tran ∧
      ((deviceAt (sceneAt 0)).addTransform Glm.real e false).transform
        = (deviceAt (sceneAt 2)).transform ∧
      ∃ e', pathTransform realEnv [(deviceLink 5 0 2, true, sceneAt 2)] = .ok e' ∧
        e'.tran = e.tran ∧ e'.transform = e.transform := by
  have hbuilt : ∀ n, (deviceAt n).Built Glm.real := fun n => by
    rw [deviceAt]
    split_ifs
    · exact .new
    · exact .rotate 2 1 (.translate 0 1 .new)
    · exact .rotate 0 1 (.translate 1 2 .new)
  have hlinks : ∀ t ∈ linkedScenes.triples, t.1.label = "Scene" → t.2.2.label = "Scene" →
      FromDevice realEnv deviceAt t := by
    intro t ht _ _
    rw [triples_linkedScenes] at ht
    simp only [List.mem_cons, List.not_mem_nil, or_false] at ht
    rcases ht with rfl | rfl | rfl <;> exact Or.inl rfl
  obtain ⟨e, he, htran, hrot, hwalks⟩ :=
    pathTransform_device (show realEnv.glm.Exact from Glm.real_exact) hbuilt hlinks sceneWalk_detour
  exact ⟨e, he, htran, hrot, hwalks _ sceneWalk_direct⟩

end Paths

end CrazyIvan
