import CrazyIvan.Query.Statements

/-!
The statements the scene query builder writes, as syntax trees: for every scene
the text that `generateSceneCrudQuery` assembles is read back as the tree that is
given here, and the answer of the database is computed from it.

* `parse_create`, `answer_create`: the `CREATE` of a scene with its optional
  properties.
* `parse_update`: the `SET` list of an update.
* `parse_retrieve`: the filters of a retrieve query.
-/

namespace CrazyIvan

open Cypher

section Builder

/-! ### Optional fragments -/

/-- An entry that is written under a condition. -/
def optEntry {α : Type} (c : Prop) [Decidable c] (e : α) : List α := if c then [e] else []

lemma mem_optEntry {α : Type} {c : Prop} [Decidable c] {e x : α} :
    x ∈ optEntry c e ↔ c ∧ x = e := by
  rw [optEntry]
  split <;> simp [*]

lemma map_optEntry {α β : Type} (f : α → β) (c : Prop) [Decidable c] (e : α) :
    (optEntry c e).map f = optEntry c (f e) := by
  rw [optEntry, optEntry]
  split <;> rfl

lemma optEntry_sublist {α : Type} (c : Prop) [Decidable c] (e : α) :
    (optEntry c e).Sublist [e] := by
  rw [optEntry]
  split
  · exact .refl _
  · exact List.nil_sublist _

/-- An optional entry of a property map. -/
lemma lex_optEntry (c : Prop) [Decidable c] {s : String} {e : String × String}
    (h : lex s = .comma :: entryToks e) : lex (opt c s) = moreEntries (optEntry c e) := by
  rw [lex_opt, optEntry]
  split
  · simp [moreEntries, h]
  · rfl

/-- An optional entry of an assignment list. -/
lemma lex_optItem (c : Prop) [Decidable c] {s : String} {it : SetItem × List Token}
    (h : lex s = .comma :: itemToks it) : lex (opt c s) = moreItems (optEntry c it) := by
  rw [lex_opt, optEntry]
  split
  · simp [moreItems, h]
  · rfl

variable {R : Type} [Field R] [LinearOrder R]

/-! ### Create -/

/-- The properties a scene is created with besides its key. -/
def createEntries (scn : SceneDocument R) : List (String × String) :=
  [("public", "inp_public"), ("active", "inp_active")] ++
  optEntry (scn.name ≠ "") ("name", "inp_name") ++
  optEntry (¬ scn.latitude = -9999) ("latitude", "inp_lat") ++
  optEntry (¬ scn.longitude = -9999) ("longitude", "inp_long") ++
  optEntry (scn.region ≠ "") ("region", "inp_region") ++
  optEntry (scn.description ≠ "") ("description", "inp_description") ++
  optEntry (scn.user ≠ "") ("user", "inp_user") ++
  optEntry (scn.thumbnail ≠ "") ("thumbnail", "inp_thumbnail") ++
  optEntry (scn.numAssets > 0) ("assets", "inp_assets") ++
  optEntry (scn.numTags > 0) ("tags", "inp_tags")

/-- The statement that creates a scene. -/
def createStatement (scn : SceneDocument R) : Statement :=
  ⟨[], none, .create (.node ⟨"scn", some "Scene", ("key", "inp_key") :: createEntries scn⟩),
    ["scn"], none⟩

/-- The tokens of the create text. -/
lemma lex_create {newId : String} (hkey : newId ≠ "") (opType : ℤ) (scn : SceneDocument R) :
    lex (generateSceneCrudQuery newId .createQueryType opType scn) =
      [.word "CREATE", .lparen, .word "scn", .colon, .word "Scene", .lbrace] ++
        (entryToks ("key", "inp_key") ++ (moreEntries (createEntries scn) ++
          [.rbrace, .rparen, .word "RETURN", .word "scn"])) := by
  have hget : ¬ (CrudOp.createQueryType = .getQueryType) := by decide
  dsimp only [generateSceneCrudQuery]
  rw [opt_pos hkey, opt_neg hget,
    opt_neg (fun h : CrudOp.createQueryType = .getQueryType ∧ ¬ newId ≠ "" => hget h.1),
    if_pos rfl]
  simp only [← String.append_assoc, String.append_empty]
  simp (disch := first | exact opensFresh_opt _ (by decide) | decide) only [lex_append_left]
  rw [lex_optEntry _ (show lex ", name: {inp_name}" = .comma :: entryToks ("name", "inp_name")
      by decide),
    lex_optEntry _ (show lex ", latitude: {inp_lat}" =
      .comma :: entryToks ("latitude", "inp_lat") by decide),
    lex_optEntry _ (show lex ", longitude: {inp_long}" =
      .comma :: entryToks ("longitude", "inp_long") by decide),
    lex_optEntry _ (show lex ", region: {inp_region}" =
      .comma :: entryToks ("region", "inp_region") by decide),
    lex_optEntry _ (show lex ", description: {inp_description}" =
      .comma :: entryToks ("description", "inp_description") by decide),
    lex_optEntry _ (show lex ", user: {inp_user}" =
      .comma :: entryToks ("user", "inp_user") by decide),
    lex_optEntry _ (show lex ", thumbnail: {inp_thumbnail}" =
      .comma :: entryToks ("thumbnail", "inp_thumbnail") by decide),
    lex_optEntry _ (show lex ", assets: {inp_assets}" =
      .comma :: entryToks ("assets", "inp_assets") by decide),
    lex_optEntry _ (show lex ", tags: {inp_tags}" =
      .comma :: entryToks ("tags", "inp_tags") by decide),
    show lex "CREATE (scn:Scene" = [.word "CREATE", .lparen, .word "scn", .colon,
      .word "Scene"] by decide,
    show lex " \x7bkey: {inp_key}" = .lbrace :: entryToks ("key", "inp_key") by decide,
    show lex ", public: {inp_public}, active: {inp_active}" =
      moreEntries [("public", "inp_public"), ("active", "inp_active")] by decide,
    show lex "\x7d)" = [.rbrace, .rparen] by decide,
    show lex " RETURN scn" = [.word "RETURN", .word "scn"] by decide, createEntries]
  simp only [moreEntries_append]
  simp only [List.append_assoc, List.cons_append, List.nil_append]

/-- The create text is the statement that creates a scene. -/
theorem parse_create {newId : String} (hkey : newId ≠ "") (opType : ℤ)
    (scn : SceneDocument R) :
    parse (lex (generateSceneCrudQuery newId .createQueryType opType scn))
      = some (createStatement scn) := by
  rw [lex_create hkey, parse]
  have hprops := properties_entries ("key", "inp_key") (createEntries scn)
    [.rparen, .word "RETURN", .word "scn"]
  simp only [List.cons_append, List.nil_append, matchPart_create, Option.bind_some, updatePart,
    pattern, nodePat, optProperties, hprops, Option.map_some]
  rfl

omit [Field R] [LinearOrder R] in
lemma names_optParam (c : Prop) [Decidable c] (n : String) (v : Value R) :
    (optParam c n v).map Prod.fst = optEntry c n := by
  rw [optParam, optEntry]
  split <;> rfl

/-- A scene whose position the parameter map covers: a coordinate below -9999 is
written to the text and left out of the map. -/
def Storable (scn : SceneDocument R) : Prop :=
  ¬ scn.latitude < -9999 ∧ ¬ scn.longitude < -9999

instance (scn : SceneDocument R) : Decidable (Storable scn) := by
  unfold Storable; infer_instance

/-- The names of the parameters sent with a scene. -/
lemma names_parameters (key : String) (crudOp : CrudOp) (scn : SceneDocument R)
    (skipVal maxVal : ℤ) :
    (generateQueryParameters key crudOp (some scn) skipVal maxVal).map Prod.fst =
      optEntry (key ≠ "") "inp_key" ++
      optEntry (key = "" ∧ crudOp = .getQueryType) "inp_skip" ++
      optEntry (key = "" ∧ crudOp = .getQueryType) "inp_limit" ++
      (["inp_active", "inp_public"] ++ optEntry (scn.name ≠ "") "inp_name" ++
      optEntry (scn.latitude > -9999) "inp_lat" ++ optEntry (scn.longitude > -9999) "inp_long" ++
      optEntry (scn.distance > 0.01 ∧ crudOp = .getQueryType ∧ key = "") "inp_distance" ++
      optEntry (scn.region ≠ "") "inp_region" ++
      optEntry (scn.description ≠ "") "inp_description" ++
      optEntry (¬ (scn.user = "" ∨ scn.isPublic) ∨ scn.isPublic) "inp_user" ++
      optEntry (scn.thumbnail ≠ "") "inp_thumbnail" ++
      optEntry (scn.numAssets > 0) "inp_assets" ++ optEntry (scn.numTags > 0) "inp_tags") := by
  simp only [generateQueryParameters, List.map_append, names_optParam, List.map_cons,
    List.map_nil]

/-- Where the position is what the map may leave out, all is given exactly for a
storable scene. -/
lemma given_iff_storable {scn : SceneDocument R} {written sent : List String}
    (hlat : "inp_lat" ∈ written ↔ ¬ scn.latitude = -9999)
    (hlong : "inp_long" ∈ written ↔ ¬ scn.longitude = -9999)
    (hsentlat : "inp_lat" ∈ sent ↔ scn.latitude > -9999)
    (hsentlong : "inp_long" ∈ sent ↔ scn.longitude > -9999)
    (hrest : ∀ p ∈ written, p ≠ "inp_lat" → p ≠ "inp_long" → p ∈ sent) :
    (∀ p ∈ written, p ∈ sent) ↔ Storable scn := by
  constructor
  · intro h
    refine ⟨fun hlt => ?_, fun hlt => ?_⟩
    · exact lt_asymm hlt (hsentlat.mp (h _ (hlat.mpr hlt.ne)))
    · exact lt_asymm hlt (hsentlong.mp (h _ (hlong.mpr hlt.ne)))
  · rintro ⟨hstlat, hstlong⟩ p hp
    by_cases hplat : p = "inp_lat"
    · subst hplat
      exact hsentlat.mpr (lt_of_le_of_ne (not_lt.mp hstlat) (Ne.symm (hlat.mp hp)))
    · by_cases hplong : p = "inp_long"
      · subst hplong
        exact hsentlong.mpr (lt_of_le_of_ne (not_lt.mp hstlong) (Ne.symm (hlong.mp hp)))
      · exact hrest p hp hplat hplong

/-- The position among the parameters that are sent. -/
lemma mem_parameters_position (key : String) (crudOp : CrudOp) (scn : SceneDocument R)
    (skipVal maxVal : ℤ) :
    let sent := (generateQueryParameters key crudOp (some scn) skipVal maxVal).map Prod.fst
    ("inp_lat" ∈ sent ↔ scn.latitude > -9999) ∧ ("inp_long" ∈ sent ↔ scn.longitude > -9999) := by
  intro sent
  constructor <;>
    simp only [sent, names_parameters, List.mem_append, mem_optEntry, List.mem_cons,
      List.not_mem_nil, String.reduceEq, and_false, or_false, and_true, false_or]

lemma params_createStatement (scn : SceneDocument R) :
    (createStatement scn).params = "inp_key" :: (createEntries scn).map Prod.snd := by
  simp [createStatement, Statement.params, Update.params, Pattern.params]

/-- The parameters of a create statement are given exactly for a storable
scene. -/
lemma params_create_given {newId : String} (hkey : newId ≠ "") (scn : SceneDocument R) :
    (∀ p ∈ (createStatement scn).params,
      p ∈ (createSceneQuery newId scn).params.map Prod.fst) ↔ Storable scn := by
  obtain ⟨hlat, hlong⟩ := mem_parameters_position newId .createQueryType scn 0 0
  refine given_iff_storable ?_ ?_ hlat hlong fun p hp hplat hplong => ?_
  · simp [params_createStatement, createEntries, map_optEntry, mem_optEntry]
  · simp [params_createStatement, createEntries, map_optEntry, mem_optEntry]
  · rw [params_createStatement, createEntries] at hp
    rw [createSceneQuery, generateSceneQueryParameters, names_parameters]
    simp only [List.map_append, map_optEntry, List.map_cons, List.map_nil, List.mem_cons,
      List.mem_append, mem_optEntry, List.not_mem_nil, or_false] at hp ⊢
    grind

/-- The properties a scene is stored with. -/
def sceneProps (newId : String) (scn : SceneDocument R) : Props R :=
  mkProps (createSceneQuery newId scn).params (("key", "inp_key") :: createEntries scn)

lemma sceneProps_key {newId : String} (hkey : newId ≠ "") (scn : SceneDocument R) :
    sceneProps newId scn "key" = some (.str newId) := by
  rw [sceneProps, mkProps_cons_self, createSceneQuery, generateSceneQueryParameters,
    generateQueryParameters, show optParam (newId ≠ "") "inp_key" (Value.str newId) =
      [("inp_key", Value.str newId)] from if_pos hkey]
  rfl

variable (fn : String → R → R)

/-- Creating a storable scene adds a node. -/
theorem answer_create {newId : String} (hkey : newId ≠ "") {scn : SceneDocument R}
    (hscn : Storable scn) (g : Graph R) :
    db fn (createSceneQuery newId scn) g =
      (.rows [[.node (g.newNode "Scene" (sceneProps newId scn))]],
        g.addNode "Scene" (sceneProps newId scn)) := by
  have hparse : parse (lex (createSceneQuery newId scn).text) = some (createStatement scn) :=
    parse_create hkey opAppend scn
  rw [db, answer_eq fn hparse _ _ rfl ((params_create_given hkey scn).mpr hscn) rfl]
  simp only [createStatement, Update.apply, matchRows_nil, createAll_node]
  rfl

omit [Field R] [LinearOrder R] in
/-- A parameter whose name is not given has no value. -/
lemma lookup_of_notMem {params : Params R} {p : String} (h : p ∉ params.map Prod.fst) :
    params.lookup p = none := by
  rw [List.lookup_eq_none_iff]
  rintro ⟨q, v⟩ hq
  simp only [bne_iff_ne, ne_eq]
  rintro rfl
  exact h (List.mem_map.mpr ⟨(p, v), hq, rfl⟩)

omit [Field R] [LinearOrder R] in
lemma lookup_optParam (c : Prop) [Decidable c] (name p : String) (v : Value R) :
    (optParam c name v).lookup p = if p = name then (if c then some v else none) else none := by
  rw [optParam]
  by_cases hc : c
  · by_cases hp : p = name
    · simp [hc, hp]
    · have hp' : (p == name) = false := by simpa using hp
      simp [hc, hp, List.lookup_cons, hp']
  · simp [hc]

/-- Creating another scene is refused. -/
theorem answer_create_refused {newId : String} (hkey : newId ≠ "") {scn : SceneDocument R}
    (hscn : ¬ Storable scn) (g : Graph R) :
    ∃ what, db fn (createSceneQuery newId scn) g = (.throw what, g) := by
  rw [← params_create_given hkey scn] at hscn
  push Not at hscn
  obtain ⟨p, hp, hnone⟩ := hscn
  exact answer_missing fn (parse_create hkey opAppend scn) hp (lookup_of_notMem hnone) g

/-! ### Update -/

/-- An assignment of a parameter to a property of the scene, with its tokens. -/
def paramItem (prop p : String) : SetItem × List Token :=
  (⟨"scn", prop, .param p⟩, [.lbrace, .word p, .rbrace])

/-- An assignment that appends a list to a property, with its tokens. -/
def appendItem (prop p : String) : SetItem × List Token :=
  (⟨"scn", prop, appendExpr "scn" prop p⟩,
    [.word "coalesce", .lparen, .word "scn", .dot, .word prop, .comma, .lbrack, .rbrack, .rparen,
      .plus, .lbrace, .word p, .rbrace])

/-- An assignment that removes the entries of a list from a property, with its
tokens. -/
def removeItem (a prop p : String) : SetItem × List Token :=
  (⟨"scn", prop, removeExpr a "scn" prop p⟩,
    [.word "FILTER", .lparen, .word a, .word "IN", .word "scn", .dot, .word prop, .word "WHERE",
      .word "NOT", .lparen, .word a, .word "IN", .lbrace, .word p, .rbrace, .rparen, .rparen])

/-- The assignment to a list property, by the operation. -/
def listItem (opType : ℤ) (a prop p : String) : List (SetItem × List Token) :=
  if opType = opAppend then [appendItem prop p]
  else optEntry (opType = opRemove) (removeItem a prop p)

/-- The assignments of an update besides that of the active flag. -/
def updateItems (opType : ℤ) (scn : SceneDocument R) : List (SetItem × List Token) :=
  [paramItem "public" "inp_public"] ++
  optEntry (scn.name ≠ "") (paramItem "name" "inp_name") ++
  optEntry (¬ scn.latitude = -9999) (paramItem "latitude" "inp_lat") ++
  optEntry (¬ scn.longitude = -9999) (paramItem "longitude" "inp_long") ++
  optEntry (scn.region ≠ "") (paramItem "region" "inp_region") ++
  optEntry (scn.description ≠ "") (paramItem "description" "inp_description") ++
  optEntry (scn.user ≠ "") (paramItem "user" "inp_user") ++
  optEntry (scn.thumbnail ≠ "") (paramItem "thumbnail" "inp_thumbnail") ++
  (if scn.numAssets > 0 then listItem opType "asset" "assets" "inp_assets" else []) ++
  (if scn.numTags > 0 then listItem opType "tag" "tags" "inp_tags" else [])

/-- The statement that updates a scene. -/
def updateStatement (opType : ℤ) (scn : SceneDocument R) : Statement :=
  ⟨[.node (scnPat "scn" "inp_key")], none,
    .set ((paramItem "active" "inp_active" :: updateItems opType scn).map Prod.fst), ["scn"],
    none⟩

/-- The fragment of a list property, by the operation. -/
lemma lex_listItem (c : Prop) [Decidable c] (opType : ℤ) {a prop p sa sr : String}
    (ha : lex sa = .comma :: itemToks (appendItem prop p))
    (hr : lex sr = .comma :: itemToks (removeItem a prop p)) :
    lex (opt c (if opType = opAppend then sa else opt (opType = opRemove) sr)) =
      moreItems (if c then listItem opType a prop p else []) := by
  rw [lex_opt, listItem]
  by_cases hc : c
  · rw [if_pos hc, if_pos hc]
    by_cases hop : opType = opAppend
    · rw [if_pos hop, if_pos hop, ha]
      simp [moreItems]
    · rw [if_neg hop, if_neg hop, lex_optItem _ hr]
  · rw [if_neg hc, if_neg hc]
    rfl

lemma opensFresh_listItem (c : Prop) [Decidable c] (opType : ℤ) {sa sr : String}
    (ha : OpensFresh sa) (hr : OpensFresh sr) :
    OpensFresh (opt c (if opType = opAppend then sa else opt (opType = opRemove) sr)) := by
  refine opensFresh_opt c ?_
  split
  · exact ha
  · exact opensFresh_opt _ hr

set_option maxRecDepth 2000 in
/-- The tokens of the update text behind the pattern. -/
lemma lex_update (key : String) (opType : ℤ) (scn : SceneDocument R) :
    lex (generateSceneCrudQuery key .updateQueryType opType scn) =
      [.word "MATCH", .lparen, .word "scn", .colon, .word "Scene"] ++
        ((if key ≠ "" then .lbrace :: entryToks ("key", "inp_key") else []) ++
          ([.rbrace, .rparen, .word "SET"] ++
            (itemToks (paramItem "active" "inp_active") ++
              (moreItems (updateItems opType scn) ++ [.word "RETURN", .word "scn"])))) := by
  have hget : ¬ (CrudOp.updateQueryType = .getQueryType) := by decide
  dsimp only [generateSceneCrudQuery]
  rw [opt_neg hget,
    opt_neg (fun h : CrudOp.updateQueryType = .getQueryType ∧ ¬ key ≠ "" => hget h.1),
    if_neg (by decide)]
  simp only [← String.append_assoc, String.append_empty]
  -- No token goes from one piece of the text to the next.
  simp (disch := first | exact opensFresh_opt _ (by decide) |
    exact opensFresh_listItem _ _ (by decide) (by decide) | decide) only [lex_append_left]
  rw [lex_optItem _ (show lex ", scn.name = {inp_name}" =
      .comma :: itemToks (paramItem "name" "inp_name") by decide),
    lex_optItem _ (show lex ", scn.latitude = {inp_lat}" =
      .comma :: itemToks (paramItem "latitude" "inp_lat") by decide),
    lex_optItem _ (show lex ", scn.longitude = {inp_long}" =
      .comma :: itemToks (paramItem "longitude" "inp_long") by decide),
    lex_optItem _ (show lex ", scn.region = {inp_region}" =
      .comma :: itemToks (paramItem "region" "inp_region") by decide),
    lex_optItem _ (show lex ", scn.description = {inp_description}" =
      .comma :: itemToks (paramItem "description" "inp_description") by decide),
    lex_optItem _ (show lex ", scn.user = {inp_user}" =
      .comma :: itemToks (paramItem "user" "inp_user") by decide),
    lex_optItem _ (show lex ", scn.thumbnail = {inp_thumbnail}" =
      .comma :: itemToks (paramItem "thumbnail" "inp_thumbnail") by decide),
    lex_listItem _ opType
      (show lex ", scn.assets = coalesce(scn.assets, []) + {inp_assets}" =
        .comma :: itemToks (appendItem "assets" "inp_assets") by decide)
      (show lex ", scn.assets = FILTER(asset IN scn.assets WHERE NOT (asset IN {inp_assets}))" =
        .comma :: itemToks (removeItem "asset" "assets" "inp_assets") by decide),
    lex_listItem _ opType
      (show lex ", scn.tags = coalesce(scn.tags, []) + {inp_tags}" =
        .comma :: itemToks (appendItem "tags" "inp_tags") by decide)
      (show lex ", scn.tags = FILTER(tag IN scn.tags WHERE NOT (tag IN {inp_tags}))" =
        .comma :: itemToks (removeItem "tag" "tags" "inp_tags") by decide),
    show lex "MATCH (scn:Scene" = [.word "MATCH", .lparen, .word "scn", .colon,
      .word "Scene"] by decide,
    lex_opt, show lex " \x7bkey: {inp_key}" = .lbrace :: entryToks ("key", "inp_key") by decide,
    show lex "\x7d) SET scn.active = {inp_active}, scn.public = {inp_public}" =
      [.rbrace, .rparen, .word "SET"] ++ (itemToks (paramItem "active" "inp_active") ++
        moreItems [paramItem "public" "inp_public"]) by decide,
    show lex " RETURN scn" = [.word "RETURN", .word "scn"] by decide, updateItems]
  simp only [moreItems_append]
  simp only [List.append_assoc, List.cons_append, List.nil_append]

/-- The properties an update assigns. -/
def updatedProperties : List String :=
  ["active", "public", "name", "latitude", "longitude", "region", "description", "user",
    "thumbnail", "assets", "tags"]

/-- The assignments of an update: a parameter, or a list with the entries of
another appended or removed. -/
inductive Assigns : SetItem × List Token → Prop where
  | param {prop p : String} (h : prop ∈ updatedProperties) : Assigns (paramItem prop p)
  | append {prop p : String} (h : prop ∈ updatedProperties) : Assigns (appendItem prop p)
  | remove {a prop p : String} (h : prop ∈ updatedProperties) (ha : a ∈ ["asset", "tag"]) :
      Assigns (removeItem a prop p)

lemma Assigns.prop_mem {it : SetItem × List Token} (h : Assigns it) :
    it.1.prop ∈ updatedProperties := by
  cases h <;> assumption

lemma assigns_updateItems (opType : ℤ) (scn : SceneDocument R) :
    ∀ it ∈ paramItem "active" "inp_active" :: updateItems opType scn, Assigns it := by
  have hopt : ∀ (c : Prop) [Decidable c] (prop p : String), prop ∈ updatedProperties →
      ∀ it ∈ optEntry c (paramItem prop p), Assigns it := by
    intro c _ prop p hprop it hit
    obtain ⟨-, rfl⟩ := mem_optEntry.mp hit
    exact .param hprop
  have hlist : ∀ (c : Prop) [Decidable c] (a prop p : String), prop ∈ updatedProperties →
      a ∈ ["asset", "tag"] → ∀ it ∈ (if c then listItem opType a prop p else []),
        Assigns it := by
    intro c _ a prop p hprop ha it hit
    split at hit
    · rw [listItem] at hit
      split at hit
      · obtain rfl := List.mem_singleton.mp hit
        exact .append hprop
      · obtain ⟨-, rfl⟩ := mem_optEntry.mp hit
        exact .remove hprop ha
    · cases hit
  simp only [updateItems, List.forall_mem_cons, List.forall_mem_append, List.not_mem_nil,
    false_imp_iff, implies_true, and_true]
  refine ⟨.param (by decide), ⟨⟨⟨⟨⟨⟨⟨⟨.param (by decide), hopt _ _ _ (by decide)⟩,
    hopt _ _ _ (by decide)⟩, hopt _ _ _ (by decide)⟩, hopt _ _ _ (by decide)⟩,
    hopt _ _ _ (by decide)⟩, hopt _ _ _ (by decide)⟩, hopt _ _ _ (by decide)⟩,
    hlist _ _ _ _ (by decide) (by decide)⟩, hlist _ _ _ _ (by decide) (by decide)⟩

lemma reads_updateItems (depth : ℕ) (opType : ℤ) (scn : SceneDocument R) :
    ∀ it ∈ paramItem "active" "inp_active" :: updateItems opType scn,
      Reads (depth + 10) it.2 it.1.value := by
  intro it hit
  cases assigns_updateItems opType scn it hit with
  | param _ => exact reads_param (depth + 8) _
  | append _ => exact reads_append (depth + 6) (by decide) _ _
  | @remove a prop p _ ha =>
      have hvars : ∀ a ∈ ["asset", "tag"], a ≠ "NOT" ∧ numeral a = none := by decide
      exact reads_remove depth (hvars a ha).1 (hvars a ha).2 (by decide) _ _

lemma length_le_moreItems (its : List (SetItem × List Token)) :
    its.length ≤ (moreItems its).length := by
  induction its with
  | nil => simp
  | cons it its ih =>
      simp only [moreItems, List.flatMap_cons, List.length_append, List.length_cons] at ih ⊢
      omega

/-- The tokens of the pattern of an update, in front of its assignments. -/
def matchSceneToks (rest : List Token) : List Token :=
  .word "MATCH" :: .lparen :: .word "scn" :: .colon :: .word "Scene" :: .lbrace ::
    .word "key" :: .colon :: .lbrace :: .word "inp_key" :: .rbrace :: .rbrace :: .rparen ::
    .word "SET" :: rest

/-- The update text of a scene with a key is the statement that updates it. -/
theorem parse_update {key : String} (hkey : key ≠ "") (opType : ℤ) (scn : SceneDocument R) :
    parse (lex (generateSceneCrudQuery key .updateQueryType opType scn))
      = some (updateStatement opType scn) := by
  set tail := itemToks (paramItem "active" "inp_active") ++
    (moreItems (updateItems opType scn) ++ [.word "RETURN", .word "scn"]) with htail
  have htoks : lex (generateSceneCrudQuery key .updateQueryType opType scn)
      = matchSceneToks tail := by
    rw [lex_update, if_pos hkey]
    rfl
  have hlen := length_le_moreItems (updateItems opType scn)
  have htaillen : (moreItems (updateItems opType scn)).length ≤ tail.length := by
    simp [htail]
    omega
  obtain ⟨n, hn, hits⟩ : ∃ n, (matchSceneToks tail).length + 1 = n + 10 ∧
      (updateItems opType scn).length < n + 10 :=
    ⟨tail.length + 5, by simp [matchSceneToks], by omega⟩
  have hset : setItems (n + 10) (n + 10) tail = some ((paramItem "active" "inp_active" ::
      updateItems opType scn).map Prod.fst, [.word "RETURN", .word "scn"]) :=
    setItems_items _ _ (reads_updateItems n opType scn) rfl hits
  have hmatch : matchPart (n + 10) (matchSceneToks tail)
      = some (([.node (scnPat "scn" "inp_key")], none), .word "SET" :: tail) := rfl
  rw [htoks, parse, hn, hmatch]
  simp only [Option.bind_some, updatePart, hset, Option.map_some]
  rfl

/-- Without a key it is no statement. -/
theorem parse_update_keyless (opType : ℤ) (scn : SceneDocument R) :
    parse (lex (generateSceneCrudQuery "" .updateQueryType opType scn)) = none := by
  rw [lex_update, if_neg (by simp)]
  rfl

/-! ### What an update does -/

lemma params_listItem (opType : ℤ) (a prop p : String) :
    (listItem opType a prop p).flatMap (fun it => it.1.value.params)
      = optEntry (opType = opAppend ∨ opType = opRemove) p := by
  rw [listItem]
  by_cases hadd : opType = opAppend
  · rw [if_pos hadd, optEntry, if_pos (Or.inl hadd)]
    rfl
  · rw [if_neg hadd, optEntry, optEntry]
    by_cases hrem : opType = opRemove
    · rw [if_pos hrem, if_pos (Or.inr hrem)]
      rfl
    · rw [if_neg hrem, if_neg (by simp [hadd, hrem])]
      rfl

lemma params_optItem (c : Prop) [Decidable c] (prop p : String) :
    (optEntry c (paramItem prop p)).flatMap (fun it => it.1.value.params) = optEntry c p := by
  rw [optEntry, optEntry]
  split <;> rfl

lemma params_ite_listItem (c : Prop) [Decidable c] (opType : ℤ) (a prop p : String) :
    (if c then listItem opType a prop p else []).flatMap (fun it => it.1.value.params)
      = optEntry (c ∧ (opType = opAppend ∨ opType = opRemove)) p := by
  by_cases hc : c
  · rw [if_pos hc, params_listItem]
    simp [optEntry, hc]
  · rw [if_neg hc, optEntry, if_neg fun h => hc h.1]
    rfl

/-- The parameters the assignments of an update name. -/
lemma params_updateItems (opType : ℤ) (scn : SceneDocument R) :
    (paramItem "active" "inp_active" :: updateItems opType scn).flatMap
        (fun it => it.1.value.params) =
      ["inp_active", "inp_public"] ++ optEntry (scn.name ≠ "") "inp_name" ++
      optEntry (¬ scn.latitude = -9999) "inp_lat" ++
      optEntry (¬ scn.longitude = -9999) "inp_long" ++
      optEntry (scn.region ≠ "") "inp_region" ++
      optEntry (scn.description ≠ "") "inp_description" ++
      optEntry (scn.user ≠ "") "inp_user" ++ optEntry (scn.thumbnail ≠ "") "inp_thumbnail" ++
      optEntry (scn.numAssets > 0 ∧ (opType = opAppend ∨ opType = opRemove)) "inp_assets" ++
      optEntry (scn.numTags > 0 ∧ (opType = opAppend ∨ opType = opRemove)) "inp_tags" := by
  rw [updateItems]
  simp only [List.flatMap_cons, List.flatMap_append, params_optItem, params_ite_listItem]
  rfl

/-- The parameters of the assignments are given exactly for a storable scene. -/
lemma params_updateItems_given (key : String) (opType : ℤ) (scn : SceneDocument R) :
    (∀ p ∈ (paramItem "active" "inp_active" :: updateItems opType scn).flatMap
        (fun it => it.1.value.params),
      p ∈ (generateSceneQueryParameters key .updateQueryType (some scn)).map Prod.fst) ↔
      Storable scn := by
  obtain ⟨hlat, hlong⟩ := mem_parameters_position key .updateQueryType scn 0 0
  rw [params_updateItems]
  refine given_iff_storable ?_ ?_ hlat hlong fun p hp hplat hplong => ?_
  · simp [mem_optEntry]
  · simp [mem_optEntry]
  · rw [generateSceneQueryParameters, names_parameters]
    simp only [List.mem_append, mem_optEntry, List.mem_cons, List.not_mem_nil, or_false]
      at hp ⊢
    grind

lemma params_updateStatement (opType : ℤ) (scn : SceneDocument R) :
    (updateStatement opType scn).params = "inp_key" ::
      (paramItem "active" "inp_active" :: updateItems opType scn).flatMap
        (fun it => it.1.value.params) := by
  simp only [updateStatement, Statement.params, Update.params, List.flatMap_map]
  show ["inp_key"] ++ [] ++ _ ++ [] = _
  rw [List.append_nil, List.append_nil]
  rfl

/-- The parameters of an update are given exactly for a storable scene. -/
lemma params_update_given {scn : SceneDocument R} (hkey : scn.key ≠ "") (opType : ℤ) :
    (∀ p ∈ (updateStatement opType scn).params,
      p ∈ (updateSceneQuery opType scn).params.map Prod.fst) ↔ Storable scn := by
  have hsent : "inp_key" ∈ (updateSceneQuery opType scn).params.map Prod.fst := by
    rw [updateSceneQuery, generateSceneQueryParameters, names_parameters]
    simp [mem_optEntry, hkey]
  rw [params_updateStatement, List.forall_mem_cons, and_iff_right hsent]
  exact params_updateItems_given scn.key opType scn

/-- The value an assignment of an update gives a property, from the properties so
far. -/
def updateVal (params : Params R) (it : SetItem) (ps : Props R) : Option (Value R) :=
  it.value.eval fn params [("scn", .node ⟨0, "", ps⟩)]

/-- The value of an assignment is read off the scene alone. -/
lemma eval_updateItems (params : Params R) (opType : ℤ) (scn : SceneDocument R) :
    ∀ it ∈ (paramItem "active" "inp_active" :: updateItems opType scn).map Prod.fst,
      it.var = "scn" ∧ ∀ (m : Node R) (row : Row R),
        it.value.eval fn params (("scn", .node m) :: row) = updateVal fn params it m.props := by
  intro it hit
  obtain ⟨i, hi, rfl⟩ := List.mem_map.mp hit
  cases assigns_updateItems opType scn i hi with
  | param _ => exact ⟨rfl, fun m row => by simp [paramItem, updateVal, Expr.eval]⟩
  | append _ =>
      exact ⟨rfl, fun m row => by simp [appendItem, appendExpr, updateVal, Expr.eval]⟩
  | remove _ _ =>
      exact ⟨rfl, fun m row => by simp [removeItem, removeExpr, updateVal, Expr.eval]⟩

/-- The properties of a scene after an update. -/
def updateProps (opType : ℤ) (scn : SceneDocument R) (ps : Props R) : Props R :=
  assign (updateVal fn (updateSceneQuery opType scn).params)
    ((paramItem "active" "inp_active" :: updateItems opType scn).map Prod.fst) ps

/-- An update leaves the key alone. -/
lemma updateProps_key (opType : ℤ) (scn : SceneDocument R) (ps : Props R) :
    updateProps fn opType scn ps "key" = ps "key" := by
  refine assign_of_notMem _ (fun hmem => ?_) ps
  obtain ⟨i, hi, hkey⟩ := List.mem_map.mp hmem
  obtain ⟨it, hit, rfl⟩ := List.mem_map.mp hi
  have hprop := (assigns_updateItems opType scn it hit).prop_mem
  rw [hkey] at hprop
  exact absurd hprop (by decide)

/-- The graph after the scenes with the key of a message are updated. -/
def updateScenes (opType : ℤ) (scn : SceneDocument R) (g : Graph R) : Graph R :=
  g.mapNodes fun m =>
    if m.id ∈ (scenes g scn.key).map Node.id then updateProps fn opType scn m.props else m.props

/-- Updating with a storable scene. -/
theorem answer_update {scn : SceneDocument R} (hkey : scn.key ≠ "") (hscn : Storable scn)
    (opType : ℤ) (g : Graph R) :
    ∃ f : Node R → Node R, db fn (updateSceneQuery opType scn) g =
      (.rows ((scenes g scn.key).map fun n => [.node (f n)]), updateScenes fn opType scn g) := by
  have hparse : parse (lex (updateSceneQuery opType scn).text)
      = some (updateStatement opType scn) := parse_update hkey opType scn
  have hlookup : (updateSceneQuery opType scn).params.lookup "inp_key" = some (.str scn.key) := by
    rw [updateSceneQuery, generateSceneQueryParameters, generateQueryParameters,
      show optParam (scn.key ≠ "") "inp_key" (Value.str scn.key) =
        [("inp_key", Value.str scn.key)] from if_pos hkey]
    rfl
  have hanswer := answer_eq fn hparse _ _ rfl ((params_update_given hkey opType).mpr hscn) rfl g
  have hset := set_nodes (updateSceneQuery opType scn).params fn
    (eval_updateItems fn (updateSceneQuery opType scn).params opType scn)
    (g.nodes_nodup.sublist ((List.filter_sublist (p := fun n => HasKey "Scene" scn.key n)).map _)) g
  simp only [updateStatement, Update.apply, matchRows_node, scnPat, fits_hasKey hlookup] at hanswer
  rw [← scenes] at hset hanswer
  rw [hset] at hanswer
  refine ⟨fun n => ((updateScenes fn opType scn g).node? n.id).getD n, ?_⟩
  rw [db, hanswer, List.map_map, List.map_map]
  rfl

/-- Any other update is refused. -/
theorem answer_update_refused {scn : SceneDocument R} (h : scn.key = "" ∨ ¬ Storable scn)
    (opType : ℤ) (g : Graph R) :
    ∃ what, db fn (updateSceneQuery opType scn) g = (.throw what, g) := by
  by_cases hkey : scn.key = ""
  · refine ⟨_, answer_invalid fn ?_ _ g⟩
    rw [updateSceneQuery, hkey]
    exact parse_update_keyless opType scn
  · have hgiven := (params_update_given hkey opType).not.mpr (h.resolve_left hkey)
    push Not at hgiven
    obtain ⟨p, hp, hnone⟩ := hgiven
    exact answer_missing fn (parse_update hkey opType scn) hp (lookup_of_notMem hnone) g

/-- The update of a scene with a key. -/
lemma run_processUpdateMessage {m : SceneList R} {scn : SceneDocument R}
    {rest : List (SceneDocument R)} (hscenes : m.scenes = scn :: rest) (hkey : scn.key ≠ "")
    (hscn : Storable scn) (g : Graph R) :
    (processUpdateMessage m).run (db fn) g =
      (.ok (({} : ProcessResult R).setReturnString (.str scn.key)),
        updateScenes fn m.opType scn g) := by
  obtain ⟨f, hanswer⟩ := answer_update fn hkey hscn m.opType g
  rw [processUpdateMessage, hscenes]
  dsimp only
  rw [if_neg (fun h => hkey h.2.2.2.1), run_askAndRead, hanswer]
  cases scenes g scn.key with
  | nil => rfl
  | cons n ns => rfl

end Builder

end CrazyIvan
