import CrazyIvan.Query.SceneStatements

/-!
What an update does to the properties of a scene.

* `ListAfter`: a list after entries were appended or removed.
* `updateProps_of_notAssigned`: a property that has its default in the message is
  kept.
* `updateProps_active`, `updateProps_public`: the flags are always assigned.
* `listAfter_updateProps_assets`, `listAfter_updateProps_tags`: what is done to the
  lists.
-/

namespace CrazyIvan

open Cypher

/-! ### Lists -/

section Lists

variable {R : Type}

/-- A list that is stored in a property; one that is missing is empty. -/
def StoredList (v : Option (Value R)) (l : List String) : Prop :=
  v = some (.strs l) ∨ v = none ∧ l = []

lemma StoredList.eq {v : Option (Value R)} {l l' : List String} (h : StoredList v l)
    (h' : StoredList v l') : l = l' := by
  rcases h with rfl | ⟨rfl, rfl⟩ <;> rcases h' with h' | ⟨h', rfl⟩
  · cases h'
    rfl
  · cases h'
  · cases h'
  · rfl

/-- What a property holds after the operation on the list that it held: the given
entries behind the others, or the others without the given ones. -/
structure ListAfter (opType : ℤ) (given l : List String) (v : Option (Value R)) : Prop where
  appended : opType = opAppend → StoredList v (l ++ given)
  removed : opType = opRemove → StoredList v (l.filter fun x => x ∉ given)

/-- A list after an operation with some entries is the list after it with others
exactly when the operation makes no difference between them. -/
lemma ListAfter.iff_of {opType : ℤ} {given given' l : List String} {v : Option (Value R)}
    (h : ListAfter opType given l v) : ListAfter opType given' l v ↔
      (opType = opAppend → given = given') ∧
        (opType = opRemove → ∀ x ∈ l, x ∈ given ↔ x ∈ given') := by
  have hfilter : (l.filter fun x => x ∉ given) = (l.filter fun x => x ∉ given') ↔
      ∀ x ∈ l, x ∈ given ↔ x ∈ given' := by
    constructor
    · intro heq x hx
      have hmem := congrArg (x ∈ ·) heq
      simp only [List.mem_filter, hx, true_and, decide_eq_true_eq, eq_iff_iff] at hmem
      exact not_iff_not.mp hmem
    · intro hiff
      refine List.filter_congr fun x hx => ?_
      rw [decide_eq_decide]
      exact not_congr (hiff x hx)
  constructor
  · intro h'
    exact ⟨fun happend =>
        List.append_cancel_left ((h.appended happend).eq (h'.appended happend)),
      fun hremove => hfilter.mp ((h.removed hremove).eq (h'.removed hremove))⟩
  · rintro ⟨happended, hremoved⟩
    refine ⟨fun happend => ?_, fun hremove => ?_⟩
    · exact happended happend ▸ h.appended happend
    · exact hfilter.mpr (hremoved hremove) ▸ h.removed hremove

end Lists

section Updates

variable {R : Type} [Field R] [LinearOrder R] (fn : String → R → R)

/-! ### The assignments of an update -/

section Items

variable {params : Params R} {ps : Props R} {l given : List String} {prop p : String}

lemma updateVal_append (hp : params.lookup p = some (.strs given))
    (hl : StoredList (ps prop) l) :
    updateVal fn params (appendItem prop p).1 ps = some (.strs (l ++ given)) := by
  show BinOp.add.eval ((ps prop).or (some (.strs []))) (params.lookup p) = _
  rcases hl with hl | ⟨hl, rfl⟩ <;> rw [hl, hp] <;> rfl

lemma updateVal_remove (a : String) (hp : params.lookup p = some (.strs given))
    (hl : StoredList (ps prop) l) :
    StoredList (updateVal fn params (removeItem a prop p).1 ps)
      (l.filter fun x => x ∉ given) := by
  -- In the row of an entry the condition reads the entry and the parameter.
  have hcond : ∀ s : String, Value.isTrue ((Expr.not (.bin .mem (.var a) (.param p))).eval fn params
      [(a, .value (.str s)), ("scn", .node ⟨0, "", ps⟩)]) = decide (s ∉ given) := by
    intro s
    by_cases hs : s ∈ given <;> simp [Expr.eval, BinOp.eval, Value.isTrue, hp, hs]
  have hlist : (Expr.prop "scn" prop).eval fn params [("scn", .node ⟨0, "", ps⟩)] = ps prop := rfl
  show StoredList ((removeExpr a "scn" prop p).eval fn params [("scn", .node ⟨0, "", ps⟩)]) _
  rcases hl with hl | ⟨hl, rfl⟩
  · rw [removeExpr, Expr.eval, hlist, hl]
    exact .inl (congrArg (fun l => some (Value.strs l)) (List.filter_congr fun s _ => hcond s))
  · rw [removeExpr, Expr.eval, hlist, hl]
    exact .inr ⟨rfl, rfl⟩

/-- The assignment to a list, if there is one. -/
lemma listAfter_listItem (opType : ℤ) {c : Prop} [Decidable c] (a : String)
    (hgiven : ¬ c → given = []) (hp : c → params.lookup p = some (.strs given))
    (hl : StoredList (ps prop) l) :
    ListAfter opType given l (assign (updateVal fn params)
      ((if c then listItem opType a prop p else []).map Prod.fst) ps prop) := by
  by_cases hc : c
  · rw [if_pos hc, listItem]
    by_cases happend : opType = opAppend
    · rw [if_pos happend]
      have hval : assign (updateVal fn params) ([appendItem prop p].map Prod.fst) ps prop =
          updateVal fn params (appendItem prop p).1 ps := Function.update_self ..
      rw [hval, updateVal_append fn (hp hc) hl]
      exact ⟨fun _ => .inl rfl, fun hremove => absurd (happend.symm.trans hremove) (by decide)⟩
    · rw [if_neg happend]
      refine ⟨fun h => absurd h happend, fun hremove => ?_⟩
      rw [optEntry, if_pos hremove]
      have hval : assign (updateVal fn params) ([removeItem a prop p].map Prod.fst) ps prop =
          updateVal fn params (removeItem a prop p).1 ps := Function.update_self ..
      rw [hval]
      exact updateVal_remove fn a (hp hc) hl
  · obtain rfl := hgiven hc
    rw [if_neg hc]
    show ListAfter opType [] l (ps prop)
    exact ⟨fun _ => by simpa using hl, fun _ => by simpa using hl⟩

end Items

/-- The assignments to the properties that are neither flag nor list. -/
def plainItems (scn : SceneDocument R) : List (SetItem × List Token) :=
  optEntry (scn.name ≠ "") (paramItem "name" "inp_name") ++
  optEntry (¬ scn.latitude = -9999) (paramItem "latitude" "inp_lat") ++
  optEntry (¬ scn.longitude = -9999) (paramItem "longitude" "inp_long") ++
  optEntry (scn.region ≠ "") (paramItem "region" "inp_region") ++
  optEntry (scn.description ≠ "") (paramItem "description" "inp_description") ++
  optEntry (scn.user ≠ "") (paramItem "user" "inp_user") ++
  optEntry (scn.thumbnail ≠ "") (paramItem "thumbnail" "inp_thumbnail")

/-- The properties that are assigned besides the flags and the lists: those that do
not have their default. -/
def assignedProperties (scn : SceneDocument R) : List String :=
  optEntry (scn.name ≠ "") "name" ++ optEntry (¬ scn.latitude = -9999) "latitude" ++
  optEntry (¬ scn.longitude = -9999) "longitude" ++ optEntry (scn.region ≠ "") "region" ++
  optEntry (scn.description ≠ "") "description" ++ optEntry (scn.user ≠ "") "user" ++
  optEntry (scn.thumbnail ≠ "") "thumbnail"

lemma map_prop_plainItems (scn : SceneDocument R) :
    (plainItems scn).map (fun it => it.1.prop) = assignedProperties scn := by
  have hopt : ∀ (c : Prop) [Decidable c] (prop p : String),
      (optEntry c (paramItem prop p)).map (fun it => it.1.prop) = optEntry c prop := by
    intro c _ prop p
    rw [optEntry, optEntry]
    split <;> rfl
  simp only [plainItems, assignedProperties, List.map_append, hopt]

/-- The assignments that are made to any scene, and those to its plain properties. -/
def plainAssignments (scn : SceneDocument R) : List SetItem :=
  (paramItem "active" "inp_active").1 :: (paramItem "public" "inp_public").1 ::
    (plainItems scn).map Prod.fst

lemma map_prop_plainAssignments (scn : SceneDocument R) :
    (plainAssignments scn).map SetItem.prop = "active" :: "public" :: assignedProperties scn := by
  rw [plainAssignments, List.map_cons, List.map_cons, List.map_map, ← map_prop_plainItems]
  rfl

/-- The assignments of an update: the flags and the plain properties, and the
lists. -/
lemma updateProps_eq (opType : ℤ) (scn : SceneDocument R) (ps : Props R) :
    updateProps fn opType scn ps =
      assign (updateVal fn (updateSceneQuery opType scn).params)
        ((if scn.numTags > 0 then listItem opType "tag" "tags" "inp_tags" else []).map Prod.fst)
        (assign (updateVal fn (updateSceneQuery opType scn).params)
          ((if scn.numAssets > 0 then listItem opType "asset" "assets" "inp_assets"
            else []).map Prod.fst)
          (assign (updateVal fn (updateSceneQuery opType scn).params) (plainAssignments scn)
            ps)) := by
  have hitems : updateItems opType scn = paramItem "public" "inp_public" :: (plainItems scn ++
      (if scn.numAssets > 0 then listItem opType "asset" "assets" "inp_assets" else []) ++
      (if scn.numTags > 0 then listItem opType "tag" "tags" "inp_tags" else [])) := rfl
  rw [updateProps, hitems]
  simp only [List.map_cons, List.map_append, assign, List.foldl_append, List.foldl_cons,
    plainAssignments]

/-- The assignment to a list leaves other properties alone. -/
lemma assign_listItem_of_ne {k prop : String} (hk : k ≠ prop) {c : Prop} [Decidable c]
    (opType : ℤ) (a p : String) (params : Params R) (ps : Props R) :
    assign (updateVal fn params) ((if c then listItem opType a prop p else []).map Prod.fst) ps k
      = ps k := by
  refine assign_of_notMem _ (fun hmem => ?_) ps
  obtain ⟨it, hit, rfl⟩ := List.mem_map.mp hmem
  obtain ⟨i, hi, rfl⟩ := List.mem_map.mp hit
  refine hk ?_
  split at hi
  · rw [listItem] at hi
    split at hi
    · rw [List.mem_singleton.mp hi]
      rfl
    · rw [(mem_optEntry.mp hi).2]
      rfl
  · cases hi

/-- A list that is empty is not assigned. -/
lemma listItem_nil (opType : ℤ) {l : List String} (hl : l = []) (a prop p : String) :
    (if l.length > 0 then listItem opType a prop p else []) = [] := by
  rw [hl]
  rfl

/-- A property that has its default in the scene is kept. -/
lemma updateProps_of_notAssigned {k : String} {scn : SceneDocument R}
    (hk : k ∉ "active" :: "public" :: assignedProperties scn)
    (hassets : k = "assets" → scn.assets = []) (htags : k = "tags" → scn.tags = [])
    (opType : ℤ) (ps : Props R) : updateProps fn opType scn ps k = ps k := by
  rw [updateProps_eq]
  have hkept : ∀ {prop : String} {l : List String}, (k = prop → l = []) → ∀ (a p : String)
      (params : Params R) (ps' : Props R), assign (updateVal fn params)
        ((if l.length > 0 then listItem opType a prop p else []).map Prod.fst) ps' k = ps' k := by
    intro prop l hl a p params ps'
    by_cases hprop : k = prop
    · rw [listItem_nil opType (hl hprop)]
      rfl
    · exact assign_listItem_of_ne fn hprop opType a p params ps'
  calc _ = _ := hkept htags ..
    _ = _ := hkept hassets ..
    _ = ps k := assign_of_notMem _ (by rwa [map_prop_plainAssignments]) ps

/-! ### The parameters of an update -/

section Lookup

variable (opType : ℤ) {scn : SceneDocument R}

attribute [local simp] updateSceneQuery generateSceneQueryParameters generateQueryParameters
  List.lookup_append lookup_optParam List.lookup_cons

lemma lookup_active (scn : SceneDocument R) :
    (updateSceneQuery opType scn).params.lookup "inp_active" = some (.bool scn.active) := by
  simp

lemma lookup_isPublic (scn : SceneDocument R) :
    (updateSceneQuery opType scn).params.lookup "inp_public" = some (.bool scn.isPublic) := by
  simp

lemma lookup_assets (h : scn.numAssets > 0) :
    (updateSceneQuery opType scn).params.lookup "inp_assets" = some (.strs scn.assets) := by
  simp [h]

lemma lookup_tags (h : scn.numTags > 0) :
    (updateSceneQuery opType scn).params.lookup "inp_tags" = some (.strs scn.tags) := by
  simp [h]

end Lookup

/-! ### The flags and the lists -/

lemma assignedProperties_subset (scn : SceneDocument R) : assignedProperties scn ⊆
    ["name", "latitude", "longitude", "region", "description", "user", "thumbnail"] := by
  intro k hk
  simp only [assignedProperties, List.mem_append, mem_optEntry] at hk
  simp only [List.mem_cons]
  tauto

/-- What is not a list has the value that it is assigned with the plain properties. -/
lemma updateProps_of_not_list {k : String} (hassets : k ≠ "assets") (htags : k ≠ "tags")
    (opType : ℤ) (scn : SceneDocument R) (ps : Props R) : updateProps fn opType scn ps k =
      assign (updateVal fn (updateSceneQuery opType scn).params) (plainAssignments scn) ps k := by
  rw [updateProps_eq]
  calc _ = _ := assign_listItem_of_ne fn htags ..
    _ = _ := assign_listItem_of_ne fn hassets ..

lemma updateProps_active (opType : ℤ) (scn : SceneDocument R) (ps : Props R) :
    updateProps fn opType scn ps "active" = some (.bool scn.active) := by
  have hrest : "active" ∉ "public" :: assignedProperties scn := by
    intro h
    have := assignedProperties_subset scn ((List.mem_cons.mp h).resolve_left (by decide))
    exact absurd this (by decide)
  rw [updateProps_of_not_list fn (by decide) (by decide), plainAssignments, assign_cons,
    assign_of_notMem]
  · exact (Function.update_self ..).trans (lookup_active opType scn)
  · exact (List.tail_eq_of_cons_eq (map_prop_plainAssignments scn)).symm ▸ hrest

lemma updateProps_public (opType : ℤ) (scn : SceneDocument R) (ps : Props R) :
    updateProps fn opType scn ps "public" = some (.bool scn.isPublic) := by
  have hrest : "public" ∉ assignedProperties scn := by
    intro h
    exact absurd (assignedProperties_subset scn h) (by decide)
  rw [updateProps_of_not_list fn (by decide) (by decide), plainAssignments, assign_cons,
    assign_cons, assign_of_notMem]
  · exact (Function.update_self ..).trans (lookup_isPublic opType scn)
  · exact (List.tail_eq_of_cons_eq (List.tail_eq_of_cons_eq
      (map_prop_plainAssignments scn))).symm ▸ hrest

/-- A list before the assignments to the lists. -/
lemma assign_plain_list {k : String} (hk : k ∈ ["assets", "tags"]) (params : Params R)
    (scn : SceneDocument R) (ps : Props R) :
    assign (updateVal fn params) (plainAssignments scn) ps k = ps k := by
  refine assign_of_notMem _ ?_ ps
  rw [map_prop_plainAssignments]
  intro h
  have hplain : k ∈ "active" :: "public" ::
      ["name", "latitude", "longitude", "region", "description", "user", "thumbnail"] :=
    List.cons_subset_cons _ (List.cons_subset_cons _ (assignedProperties_subset scn)) h
  rcases List.mem_pair.mp hk with rfl | rfl <;> exact absurd hplain (by decide)

/-- What an update does to the assets. -/
lemma listAfter_updateProps_assets (opType : ℤ) (scn : SceneDocument R) {ps : Props R}
    {l : List String} (hl : StoredList (ps "assets") l) :
    ListAfter opType scn.assets l (updateProps fn opType scn ps "assets") := by
  rw [updateProps_eq, assign_listItem_of_ne fn (show "assets" ≠ "tags" by decide)]
  refine listAfter_listItem fn opType "asset" (fun h => ?_) (lookup_assets opType) ?_
  · exact List.length_eq_zero_iff.mp (Nat.eq_zero_of_not_pos h)
  · rwa [assign_plain_list fn (by decide)]

/-- What an update does to the tags. -/
lemma listAfter_updateProps_tags (opType : ℤ) (scn : SceneDocument R) {ps : Props R}
    {l : List String} (hl : StoredList (ps "tags") l) :
    ListAfter opType scn.tags l (updateProps fn opType scn ps "tags") := by
  rw [updateProps_eq]
  refine listAfter_listItem fn opType "tag" (fun h => ?_) (lookup_tags opType) ?_
  · exact List.length_eq_zero_iff.mp (Nat.eq_zero_of_not_pos h)
  · rwa [assign_listItem_of_ne fn (show "tags" ≠ "assets" by decide),
      assign_plain_list fn (by decide)]

/-- The scene that is updated. -/
lemma node?_updateScenes (opType : ℤ) (scn : SceneDocument R) {g : Graph R} {n : Node R}
    (hn : n ∈ scenes g scn.key) : (updateScenes fn opType scn g).node? n.id =
      some { n with props := updateProps fn opType scn n.props } := by
  rw [updateScenes, Graph.node?_mapNodes,
    g.node?_eq_some.mpr ⟨(List.mem_filter.mp hn).1, rfl⟩, Option.map_some,
    if_pos (List.mem_map_of_mem hn)]

end Updates

end CrazyIvan
