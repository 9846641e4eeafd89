import CrazyIvan.Api.Decoding
import CrazyIvan.Controller.SceneHandlers
import CrazyIvan.Query.SceneUpdates

/-!
What an update request does to the stored scene.

* `UpdateRequest`: the requests, with what they supply.
* `UpdateRequest.Framed`: what is not supplied is kept, and the entries that are
  supplied are appended or removed.
* `UpdateRequest.Preserved`: when a stored scene is kept so.
* `UpdateRequest.framed_iff_preserved`: the scene after the update is framed exactly
  when it is preserved.
-/

namespace CrazyIvan

open Cypher Resumption Json Json.Value

section Requests

variable {R : Type} [Field R] [LinearOrder R]

/-! ### Requests -/

/-- A request that updates a scene: a posted body, or one asset. -/
inductive UpdateRequest (R : Type) where
  | post (doc : Json.Value R)
  | addAsset (asset : String)
  | removeAsset (asset : String)

/-- The members of the scene in a body, which is the first of its list. -/
def bodyScene : Json.Value R → List (String × Json.Value R)
  | .object ms =>
      match elementsOf ms "scenes" with
      | .object scene :: _ => scene
      | _ => []
  | _ => []

/-- The operation that a body names. -/
def bodyOperation : Json.Value R → ℤ
  | .object ms => (member? getInt ms "operation").getD opAppend
  | _ => opAppend

/-- The text of a string, null characters included. -/
def stringText : Json.Value R → Option String
  | .string s => some s
  | _ => none

/-- The strings of an array member, as they are written. -/
def writtenStrings (ms : List (String × Json.Value R)) (name : String) : List String :=
  ((member? getArray ms name).getD []).filterMap stringText

/-- A scene in a body supplies a property by a member of its type; `private` supplies
the public flag too. -/
inductive SuppliedIn (ms : List (String × Json.Value R)) : String → Prop where
  | string {prop : String} (hprop : prop ∈ ["name", "description", "thumbnail", "region"])
      (h : (member? getString ms prop).isSome = true) : SuppliedIn ms prop
  | number {prop : String} (hprop : prop ∈ ["latitude", "longitude"])
      (h : (member? getNumber ms prop).isSome = true) : SuppliedIn ms prop
  | list {prop : String} (hprop : prop ∈ ["assets", "tags"])
      (h : (member? getArray ms prop).isSome = true) : SuppliedIn ms prop
  | active (h : (member? getBool ms "active").isSome = true) : SuppliedIn ms "active"
  | isPublic (h : (member? getBool ms "public").isSome = true) : SuppliedIn ms "public"
  | isPrivate (h : (member? getBool ms "private").isSome = true) : SuppliedIn ms "public"

namespace UpdateRequest

variable (written : SceneList R → String) (env : Env R) (key : String) in
/-- The exchange of the handler of the request. -/
def exchange : UpdateRequest R → Exchange R
  | .post doc => SceneUpdateRequestHandler.exchange written env key doc
  | .addAsset asset => AssetUpdateRequestHandler.exchange written key asset assetAdd
  | .removeAsset asset => AssetUpdateRequestHandler.exchange written key asset assetDel

/-- The properties that the request supplies. -/
def Supplies : UpdateRequest R → String → Prop
  | .post doc => SuppliedIn (bodyScene doc)
  | .addAsset _ | .removeAsset _ => fun prop => prop = "assets"

/-- What is done with the lists that are supplied. -/
def operation : UpdateRequest R → ℤ
  | .post doc => bodyOperation doc
  | .addAsset _ => opAppend
  | .removeAsset _ => opRemove

/-- The entries that are supplied for a list. -/
def entries : UpdateRequest R → String → List String
  | .post doc, prop => writtenStrings (bodyScene doc) prop
  | .addAsset asset, prop | .removeAsset asset, prop => if prop = "assets" then [asset] else []

/-- How an entry is read: a string of a body as a C string. -/
def readEntry : UpdateRequest R → String → String
  | .post _ => cstr
  | .addAsset _ | .removeAsset _ => id

/-- What the request does not supply is kept, and the entries of the lists are
appended or removed. -/
structure Framed (req : UpdateRequest R) (ps ps' : Props R) : Prop where
  kept : ∀ prop, ¬ req.Supplies prop → ps' prop = ps prop
  lists : ∀ prop ∈ ["assets", "tags"], ∀ l, StoredList (ps prop) l →
    ListAfter req.operation (req.entries prop) l (ps' prop)

/-- A flag is supplied, or stored as it is set by default. -/
def FlagKept (req : UpdateRequest R) (ps : Props R) (flag : String) : Prop :=
  req.Supplies flag ∨ ps flag = some (.bool true)

/-- The entries that are supplied can be appended to a list, or removed from it, as
they are read. -/
structure EntriesKept (req : UpdateRequest R) (prop : String) (l : List String) : Prop where
  appended : req.operation = opAppend → ∀ s ∈ req.entries prop, req.readEntry s = s
  removed : req.operation = opRemove →
    ∀ x ∈ l, x ∈ (req.entries prop).map req.readEntry ↔ x ∈ req.entries prop

/-- The update keeps what is stored. -/
structure Preserved (req : UpdateRequest R) (ps : Props R) : Prop where
  active : req.FlagKept ps "active"
  isPublic : req.FlagKept ps "public"
  lists : ∀ prop ∈ ["assets", "tags"], ∀ l, StoredList (ps prop) l → req.EntriesKept prop l

/-! ### What is sent -/

/-- What of a request reaches the query. -/
structure Sends (req : UpdateRequest R) (opType : ℤ) (scn : SceneDocument R) : Prop where
  operation : opType = req.operation
  active : ¬ req.Supplies "active" → scn.active = true
  isPublic : ¬ req.Supplies "public" → scn.isPublic = true
  plain : ∀ prop ∈ assignedProperties scn, req.Supplies prop
  assets : scn.assets = (req.entries "assets").map req.readEntry
  tags : scn.tags = (req.entries "tags").map req.readEntry

end UpdateRequest

omit [Field R] [LinearOrder R] in
lemma stringsOf_eq_map (ms : List (String × Json.Value R)) (name : String) :
    stringsOf ms name = (writtenStrings ms name).map cstr := by
  rw [stringsOf, writtenStrings, List.map_filterMap]
  refine List.filterMap_congr fun v _ => ?_
  cases v <;> rfl

/-- A scene of a body in which a property does not have its default supplies it. -/
lemma suppliedIn_of_ne_default {ms : List (String × Json.Value R)} {prop : String}
    (h : prop ∈ assignedProperties (sceneFields ms)) : SuppliedIn ms prop := by
  have hstring : ∀ prop ∈ ["name", "description", "thumbnail", "region"],
      (member? getString ms prop).getD "" ≠ "" → SuppliedIn ms prop := by
    intro prop hprop hne
    refine .string hprop ?_
    cases hm : member? getString ms prop with
    | none => simp [hm] at hne
    | some s => rfl
  have hnumber : ∀ prop ∈ ["latitude", "longitude"],
      ¬ (member? getNumber ms prop).getD (-9999) = -9999 → SuppliedIn ms prop := by
    intro prop hprop hne
    refine .number hprop ?_
    cases hm : member? getNumber ms prop with
    | none => simp [hm] at hne
    | some x => rfl
  simp only [assignedProperties, List.mem_append, mem_optEntry] at h
  rcases h with (((((⟨h, rfl⟩ | ⟨h, rfl⟩) | ⟨h, rfl⟩) | ⟨h, rfl⟩) | ⟨h, rfl⟩) | ⟨h, rfl⟩) | ⟨h, rfl⟩
  · exact hstring _ (by decide) h
  · exact hnumber _ (by decide) h
  · exact hnumber _ (by decide) h
  · exact hstring _ (by decide) h
  · exact hstring _ (by decide) h
  · exact absurd rfl h
  · exact hstring _ (by decide) h

namespace UpdateRequest

/-- The scene that is read from a body. -/
lemma sends_post (doc : Json.Value R) {scn : SceneDocument R} {key : String}
    {t : Option (Transform R)} {devices : List (UserDevice R)}
    (hscn : scn = { sceneFields (bodyScene doc) with key, sceneTransform := t, devices }) :
    (post doc).Sends (bodyOperation doc) scn where
  operation := rfl
  active h := by
    subst hscn
    cases hm : member? getBool (bodyScene doc) "active" with
    | none => simp [sceneFields, hm]
    | some b => exact absurd (.active (by rw [hm]; rfl)) h
  isPublic h := by
    subst hscn
    cases hpublic : member? getBool (bodyScene doc) "public" with
    | some b => exact absurd (.isPublic (by rw [hpublic]; rfl)) h
    | none =>
        cases hprivate : member? getBool (bodyScene doc) "private" with
        | some b => exact absurd (.isPrivate (by rw [hprivate]; rfl)) h
        | none => simp [sceneFields, hpublic, hprivate]
  plain prop hprop := by
    subst hscn
    exact suppliedIn_of_ne_default hprop
  assets := by
    subst hscn
    exact stringsOf_eq_map ..
  tags := by
    subst hscn
    exact stringsOf_eq_map ..

/-- The scene that is built for one asset. -/
lemma sends_asset {req : UpdateRequest R} {asset : String}
    (h : req = .addAsset asset ∨ req = .removeAsset asset) (key : String) :
    req.Sends req.operation ({ key, assets := [asset] } : SceneDocument R) := by
  rcases h with rfl | rfl <;>
    exact ⟨rfl, fun _ => rfl, fun _ => rfl, fun prop hprop => absurd hprop (by
      simp [assignedProperties, optEntry]), rfl, rfl⟩

omit [LinearOrder R] in
/-- A scene is read from an object, by its members. -/
lemma exists_of_sceneOf {glm : Glm R} {d : Json.Value R} {scn : SceneDocument R}
    (h : sceneOf glm d = .ok scn) : ∃ ms t devices, d = .object ms ∧
      scn = { sceneFields ms with sceneTransform := t, devices } := by
  cases d with
  | object ms =>
      obtain ⟨t, -, h⟩ := exists_of_bind_ok h
      obtain ⟨devices, -, h⟩ := exists_of_bind_ok h
      exact ⟨ms, t, devices.reduceOption, rfl, (Except.ok.inj h).symm⟩
  | _ => cases h

omit [LinearOrder R] in
/-- The first scene of a body that is decoded, if there is one. -/
lemma scenes_of_document {glm : Glm R} {doc : Json.Value R} {m : SceneList R}
    (h : ofDocument glm doc = .ok m) : m.opType = bodyOperation doc ∧
      (m.scenes = [] ∧ bodyScene doc = [] ∨ ∃ rest t devices, m.scenes =
        { sceneFields (bodyScene doc) with sceneTransform := t, devices } :: rest) := by
  by_cases hobject : ∃ ms, doc = .object ms
  · obtain ⟨ms, rfl⟩ := hobject
    rw [ofDocument_object] at h
    split at h
    · cases h
    obtain ⟨scenes, hread, rfl⟩ := exists_of_map_ok h
    cases hscenes : elementsOf ms "scenes" with
    | nil =>
        rw [hscenes] at hread
        obtain rfl := Except.ok.inj hread
        exact ⟨rfl, .inl ⟨rfl, by rw [bodyScene, hscenes]⟩⟩
    | cons d ds =>
        rw [hscenes, List.mapM_cons] at hread
        obtain ⟨scn, hscn, hread⟩ := exists_of_bind_ok hread
        obtain ⟨rest, -, hread⟩ := exists_of_bind_ok hread
        obtain rfl := Except.ok.inj hread
        obtain ⟨members, t, devices, rfl, rfl⟩ := exists_of_sceneOf hscn
        refine ⟨rfl, .inr ⟨rest, t, devices, ?_⟩⟩
        rw [bodyScene, hscenes]
  · rw [ofDocument_of_not_object fun ms hms => hobject ⟨ms, hms⟩] at h
    obtain rfl := Except.ok.inj h
    cases doc with
    | object ms => exact absurd ⟨ms, rfl⟩ hobject
    | _ => exact ⟨rfl, .inl ⟨rfl, rfl⟩⟩

/-- A request whose processing ends is processed as an update of its scene. -/
lemma exists_sends {written : SceneList R → String} {env : Env R} {key : String}
    {req : UpdateRequest R} {fn : String → R → R} {g g' : Graph R} {res : ProcessResult R}
    (hrun : (req.exchange written env key).ask.run (db fn) g = (.ok res, g')) :
    ∃ m scn rest, m.scenes = scn :: rest ∧ scn.key = key ∧ req.Sends m.opType scn ∧
      (processUpdateMessage m).run (db fn) g = (.ok res, g') := by
  cases req with
  | addAsset asset =>
      exact ⟨{ msgType := sceneUpd, opType := opAppend, scenes := [{ key, assets := [asset] }] },
        _, [], rfl, rfl, sends_asset (.inl rfl) key, hrun⟩
  | removeAsset asset =>
      exact ⟨{ msgType := sceneUpd, opType := opRemove, scenes := [{ key, assets := [asset] }] },
        _, [], rfl, rfl, sends_asset (.inr rfl) key, hrun⟩
  | post doc =>
      have hask : (exchange written env key (.post doc)).ask =
          Prog.lift (ofDocument env.glm doc) >>= SceneUpdateRequestHandler.process key := rfl
      rw [hask] at hrun
      cases hdoc : ofDocument env.glm doc with
      | error e =>
          rw [hdoc, Prog.error_bind] at hrun
          cases hrun
      | ok m =>
          rw [hdoc, Prog.ok_bind] at hrun
          obtain ⟨hop, ⟨hscenes, hbody⟩ | ⟨rest, t, devices, hscenes⟩⟩ := scenes_of_document hdoc
          · refine ⟨{ m with msgType := sceneCrt, scenes := [{ key }] }, _, [], rfl, rfl, ?_, ?_⟩
            · rw [hop]
              have hscn : ({ key } : SceneDocument R) = { sceneFields (bodyScene doc) with
                  key, sceneTransform := none, devices := [] } := by
                rw [hbody]
                rfl
              exact sends_post doc hscn
            · rwa [SceneUpdateRequestHandler.process, SceneUpdateRequestHandler.updateMessage,
                hscenes] at hrun
          · refine ⟨{ m with
              msgType := sceneCrt
              scenes := { sceneFields (bodyScene doc) with key, sceneTransform := t, devices } ::
                rest }, _, rest, rfl, rfl, ?_, ?_⟩
            · rw [hop]
              exact sends_post doc rfl
            · rwa [SceneUpdateRequestHandler.process, SceneUpdateRequestHandler.updateMessage,
                hscenes] at hrun

end UpdateRequest

/-! ### The scene after an update -/

variable (fn : String → R → R)

/-- Any other update fails. -/
lemma not_successful_of_not_storable {m : SceneList R} {scn : SceneDocument R}
    {rest : List (SceneDocument R)} (hscenes : m.scenes = scn :: rest)
    (hscn : scn.key = "" ∨ ¬ Storable scn) {g g' : Graph R} {res : ProcessResult R}
    (hrun : (processUpdateMessage m).run (db fn) g = (.ok res, g')) : res.successful = false := by
  rw [processUpdateMessage, hscenes] at hrun
  dsimp only at hrun
  split at hrun
  · cases hrun
    rfl
  · obtain ⟨what, hanswer⟩ := answer_update_refused fn hscn m.opType g
    rw [run_askAndRead, hanswer] at hrun
    cases hrun
    rfl

/-- The scene after a successful update. -/
lemma node?_of_updated {m : SceneList R} {scn : SceneDocument R}
    {rest : List (SceneDocument R)} (hscenes : m.scenes = scn :: rest) {g g' : Graph R}
    {res : ProcessResult R}
    (hrun : (processUpdateMessage m).run (db fn) g = (.ok res, g')) (hres : res.successful = true)
    {n : Node R} (hn : n ∈ scenes g scn.key) :
    g'.node? n.id = some { n with props := updateProps fn m.opType scn n.props } := by
  by_cases hscn : scn.key ≠ "" ∧ Storable scn
  · rw [run_processUpdateMessage fn hscenes hscn.1 hscn.2] at hrun
    obtain rfl := (Prod.mk.inj hrun).2
    exact node?_updateScenes fn m.opType scn hn
  · have hfailed := not_successful_of_not_storable fn hscenes
      ((not_and_or.mp hscn).imp_left not_not.mp) hrun
    exact absurd hres (by rw [hfailed]; decide)

/-! ### The frame of an update -/

namespace UpdateRequest

variable {req : UpdateRequest R} {opType : ℤ} {scn : SceneDocument R}

omit [LinearOrder R] in
/-- A list that is not supplied has no entries. -/
lemma entries_eq_nil {prop : String} (hprop : prop ∈ ["assets", "tags"])
    (h : ¬ req.Supplies prop) : req.entries prop = [] := by
  cases req with
  | post doc =>
      cases hm : member? getArray (bodyScene doc) prop with
      | none => simp [entries, writtenStrings, hm]
      | some l => exact absurd (.list hprop (by rw [hm]; rfl)) h
  | addAsset asset => exact if_neg h
  | removeAsset asset => exact if_neg h

/-- What an update does to a list of the scene. -/
lemma Sends.listAfter (h : req.Sends opType scn) {ps : Props R} {prop : String}
    (hprop : prop ∈ ["assets", "tags"]) {l : List String} (hl : StoredList (ps prop) l) :
    ListAfter req.operation ((req.entries prop).map req.readEntry) l
      (updateProps fn opType scn ps prop) := by
  rw [← h.operation]
  rcases List.mem_pair.mp hprop with rfl | rfl
  · exact h.assets ▸ listAfter_updateProps_assets fn opType scn hl
  · exact h.tags ▸ listAfter_updateProps_tags fn opType scn hl

/-- The entries of a list can be used as they are read exactly when the list is as
their operation leaves it. -/
lemma Sends.listAfter_iff (h : req.Sends opType scn) {ps : Props R} {prop : String}
    (hprop : prop ∈ ["assets", "tags"]) {l : List String} (hl : StoredList (ps prop) l) :
    ListAfter req.operation (req.entries prop) l (updateProps fn opType scn ps prop) ↔
      req.EntriesKept prop l := by
  have hmap : (req.entries prop).map req.readEntry = req.entries prop ↔
      ∀ s ∈ req.entries prop, req.readEntry s = s := by
    conv_lhs => rhs; rw [← List.map_id (req.entries prop)]
    exact List.map_inj_left
  rw [(h.listAfter fn hprop hl).iff_of, hmap]
  exact ⟨fun h => ⟨h.1, h.2⟩, fun h => ⟨h.appended, h.removed⟩⟩

omit [LinearOrder R] in
/-- A flag that is not supplied is kept exactly if its default is what is stored. -/
lemma flagKept_iff {ps' : Props R} (ps : Props R) (flag : String)
    (hset : ¬ req.Supplies flag → ps' flag = some (.bool true)) :
    (¬ req.Supplies flag → ps' flag = ps flag) ↔ req.FlagKept ps flag := by
  rw [FlagKept, or_iff_not_imp_left]
  refine forall_congr' fun hflag => ?_
  rw [hset hflag, eq_comm]

/-- What is not supplied is kept, except for the flags. -/
lemma Sends.kept (h : req.Sends opType scn) {prop : String} (hprop : ¬ req.Supplies prop)
    (hactive : prop ≠ "active") (hpublic : prop ≠ "public") (ps : Props R) :
    updateProps fn opType scn ps prop = ps prop := by
  refine updateProps_of_notAssigned fn ?_ ?_ ?_ opType ps
  · rw [List.mem_cons, List.mem_cons, not_or, not_or]
    exact ⟨hactive, hpublic, fun hmem => hprop (h.plain prop hmem)⟩
  · rintro rfl
    rw [h.assets, entries_eq_nil (by decide) hprop, List.map_nil]
  · rintro rfl
    rw [h.tags, entries_eq_nil (by decide) hprop, List.map_nil]

/-- The properties after an update. -/
lemma Sends.framed_iff (h : req.Sends opType scn) (ps : Props R) :
    req.Framed ps (updateProps fn opType scn ps) ↔ req.Preserved ps := by
  have hactive := flagKept_iff ps "active" fun hflag =>
    (updateProps_active fn opType scn ps).trans (by rw [h.active hflag])
  have hpublic := flagKept_iff ps "public" fun hflag =>
    (updateProps_public fn opType scn ps).trans (by rw [h.isPublic hflag])
  constructor
  · intro hframed
    refine ⟨hactive.mp (hframed.kept _), hpublic.mp (hframed.kept _), fun prop hprop l hl => ?_⟩
    exact (h.listAfter_iff fn hprop hl).mp (hframed.lists prop hprop l hl)
  · intro hpreserved
    refine ⟨fun prop hprop => ?_, fun prop hprop l hl => ?_⟩
    · by_cases hprop_active : prop = "active"
      · subst hprop_active
        exact hactive.mpr hpreserved.active hprop
      · by_cases hprop_public : prop = "public"
        · subst hprop_public
          exact hpublic.mpr hpreserved.isPublic hprop
        · exact h.kept fn hprop hprop_active hprop_public ps
    · exact (h.listAfter_iff fn hprop hl).mpr (hpreserved.lists prop hprop l hl)

/-- After a successful update the scene is framed exactly if it is preserved. -/
theorem framed_iff_preserved (written : SceneList R → String) (env : Env R) {key : String}
    (req : UpdateRequest R) {g g' : Graph R} {res : ProcessResult R}
    (hrun : (req.exchange written env key).ask.run (db fn) g = (.ok res, g'))
    (hres : res.successful = true) {n : Node R} (hn : n ∈ scenes g key) :
    ∃ n', g'.node? n.id = some n' ∧ (req.Framed n.props n'.props ↔ req.Preserved n.props) := by
  obtain ⟨m, scn, rest, hscenes, rfl, hsends, hrun⟩ := exists_sends hrun
  exact ⟨_, node?_of_updated fn hscenes hrun hres hn, hsends.framed_iff fn n.props⟩

/-- An asset is added to a scene with a key. -/
lemma run_addAsset (written : SceneList R → String) (env : Env R) {key : String}
    (hkey : key ≠ "") (asset : String) (g : Graph R) :
    ((addAsset asset).exchange written env key).ask.run (db fn) g =
      (.ok (({} : ProcessResult R).setReturnString (.str key)),
        updateScenes fn opAppend { key, assets := [asset] } g) :=
  run_processUpdateMessage fn
    (m := { msgType := sceneUpd, opType := opAppend, scenes := [{ key, assets := [asset] }] })
    rfl hkey ⟨lt_irrefl _, lt_irrefl _⟩ g

end UpdateRequest

end Requests

/-- The properties of an active scene that is public or not. -/
def lobbyProps (isPublic : Bool) : Props ℚ
  | "key" => some (.str "lobby")
  | "active" => some (.bool true)
  | "public" => some (.bool isPublic)
  | _ => none

/-- A graph with one scene. -/
def lobbyGraph (isPublic : Bool) : Graph ℚ := Graph.empty.addNode "Scene" (lobbyProps isPublic)

lemma mem_scenes_lobbyGraph (isPublic : Bool) :
    ⟨0, "Scene", lobbyProps isPublic⟩ ∈ scenes (lobbyGraph isPublic) "lobby" :=
  List.mem_filter.mpr ⟨List.mem_singleton_self _, decide_eq_true ⟨rfl, rfl⟩⟩

/-- An asset for a public scene. -/
theorem framed_addAsset :
    ∃ n', ((updateScenes (fun _ x => x) opAppend { key := "lobby", assets := ["chair"] }
        (lobbyGraph true)).node? 0) = some n' ∧
      ((UpdateRequest.addAsset "chair").Framed (lobbyProps true) n'.props ↔
        (UpdateRequest.addAsset "chair").Preserved (lobbyProps true)) :=
  UpdateRequest.framed_iff_preserved _ (fun _ => "") plainEnv _
    (UpdateRequest.run_addAsset _ _ _ (by decide) "chair" (lobbyGraph true)) rfl
    (mem_scenes_lobbyGraph true)

/-- An asset for a private scene makes the scene public. -/
theorem not_all_framed :
    ¬ ∀ (req : UpdateRequest ℚ) (key : String) (g g' : Graph ℚ) (res : ProcessResult ℚ),
      (req.exchange (fun _ => "") plainEnv key).ask.run (db fun _ x => x) g = (.ok res, g') →
        res.successful = true → ∀ n ∈ scenes g key, ∃ n', g'.node? n.id = some n' ∧
          req.Framed n.props n'.props := by
  intro h
  obtain ⟨n', hn', hframed⟩ := h (.addAsset "chair") "lobby" (lobbyGraph false) _ _
    (UpdateRequest.run_addAsset _ _ _ (by decide) "chair" _) rfl _ (mem_scenes_lobbyGraph false)
  have hpublic := hframed.kept "public" (show ¬ "public" = "assets" by decide)
  rw [node?_updateScenes _ opAppend { key := "lobby", assets := ["chair"] }
    (mem_scenes_lobbyGraph false)] at hn'
  obtain rfl := Option.some.inj hn'
  have hset := (updateProps_public _ opAppend _ _).symm.trans hpublic
  cases hset

end CrazyIvan
