import CrazyIvan.Network.Uniqueness
import CrazyIvan.Query.RetrieveStatements
import CrazyIvan.Query.SceneUpdates
import CrazyIvan.Api.JsonSceneList

/-!
What a retrieve message is answered with.

* `ProcessResult.scenes`: the scenes in the written message of a result.
* `response_eq`, `retrieved_rows`: the response, from the rows of the database.
* `Represents`: the properties that stand for a document.
* `retrieve_created_iff`: a created scene comes back as it was exactly if it is
  public.
-/

namespace CrazyIvan

open Cypher Resumption

section Responses

variable {R : Type} [Field R] [LinearOrder R]

/-! ### Responses -/

/-- The scenes of a written message. -/
def writtenScenes : Json.Value R → List (Json.Value R)
  | .object ms => (Json.member? Json.Value.getArray ms "scenes").getD []
  | _ => []

lemma writtenScenes_toMsgString (glm : Glm R) (unset : ℤ) (m : SceneList R) :
    writtenScenes (toMsgString glm unset m) = (returnScenes m).map (writeScene glm) := by
  simp [toMsgString, writtenScenes, Json.member?, List.lookup_append, Json.lookup_cons,
    Json.lookup_optString, Json.lookup_optMember, Json.Value.getArray]

/-- The scenes in the written message of a result. -/
def ProcessResult.scenes (glm : Glm R) (unset : ℤ) (r : ProcessResult R) :
    List (Json.Value R) :=
  match r.message? with
  | some m => writtenScenes (toMsgString glm unset m)
  | none => []

variable (fn : String → R → R) (env : Env R)

/-- The response to a message. -/
def response (m : SceneList R) (g : Graph R) : Except Fail (ProcessResult R) :=
  ((processRetrieveMessage env m).run (db fn) g).1

/-- The result of an accepted message, from the answer of the database. -/
def retrieved (m : SceneList R) (a : Answer R) : Except Fail (ProcessResult R) :=
  match readRetrieved env {} m.transactionId a with
  | .error (.exn what) => .ok (({} : ProcessResult R).setError processingError what)
  | r => r

lemma response_eq {m : SceneList R} {scn : SceneDocument R} {rest : List (SceneDocument R)}
    (hm : m.scenes = scn :: rest) (hacc : retrieveAccepted scn) (g : Graph R) :
    response fn env m g = retrieved env m (db fn (retrieveSceneQuery m scn) g).1 := by
  rw [response, processRetrieveMessage, hm]
  simp only [if_pos hacc]
  rw [Prog.run_handle, run_askAndRead, retrieved]
  cases readRetrieved env {} m.transactionId (db fn (retrieveSceneQuery m scn) g).1 with
  | ok r => rfl
  | error e => cases e <;> rfl

/-- The scene that is read from a node. -/
def sceneOfNode (n : Node R) : Except Fail (SceneDocument R) :=
  assignSceneProperties env n.props {}

omit [LinearOrder R] in
lemma retrievedScenes_nodes (ns : List (Node R)) :
    retrievedScenes env (ns.map fun n => [.node n]) = ns.mapM (sceneOfNode env) := by
  induction ns with
  | nil => rfl
  | cons n ns ih =>
      rw [List.map_cons, List.mapM_cons, ← ih]
      rfl

omit [LinearOrder R] in
/-- What is found is answered with a message. -/
lemma retrieved_rows (m : SceneList R) (ns : List (Node R)) :
    retrieved env m (.rows (ns.map fun n => [.node n])) =
      match ns.mapM (sceneOfNode env) with
      | .ok [] => .ok (({} : ProcessResult R).setError notFound "Document not found")
      | .ok scenes => .ok (({} : ProcessResult R).setReturnString (.msg
          { errCode := noError, msgType := sceneGet, transactionId := m.transactionId, scenes }))
      | .error (.exn what) => .ok (({} : ProcessResult R).setError processingError what)
      | .error .undefined => .error .undefined := by
  rw [retrieved, readRetrieved, retrievedScenes_nodes]
  rcases ns.mapM (sceneOfNode env) with (_ | _) | (_ | _) <;> rfl

/-! ### Scenes that come back -/

/-- The fields that are stored with a scene. -/
structure SceneDocument.SameStored (s s' : SceneDocument R) : Prop where
  key : s'.key = s.key
  name : s'.name = s.name
  region : s'.region = s.region
  description : s'.description = s.description
  user : s'.user = s.user
  thumbnail : s'.thumbnail = s.thumbnail
  latitude : s'.latitude = s.latitude
  longitude : s'.longitude = s.longitude
  active : s'.active = s.active
  isPublic : s'.isPublic = s.isPublic
  assets : s'.assets = s.assets
  tags : s'.tags = s.tags

/-- The scene that comes back for a stored one: always public. -/
def SceneDocument.comesBack (s : SceneDocument R) : SceneDocument R :=
  { s with distance := 0, devices := [], sceneTransform := none, isPublic := true }

lemma lookup_optEntry (c : Prop) [Decidable c] (e : String × String) (k : String) :
    (optEntry c e).lookup k = if k = e.1 then (if c then some e.2 else none) else none := by
  obtain ⟨name, p⟩ := e
  rw [optEntry]
  by_cases hc : c
  · simp [hc]
  · simp [hc]

/-- The document that is stored for a scene. -/
def SceneDocument.stored (key : String) (s : SceneDocument R) : SceneDocument R :=
  { s with key, distance := 0, devices := [], sceneTransform := none }

/-- A text that is stored unless it is empty. -/
def storedText (s : String) : Option (Value R) := if s = "" then none else some (.str s)

/-- A coordinate that is stored where it is given. -/
def storedCoordinate (x : R) : Option (Value R) := if x = -9999 then none else some (.num x)

/-- The properties of a scene that stand for a document. -/
structure Represents (ps : Props R) (d : SceneDocument R) : Prop where
  key : ps "key" = storedText d.key
  name : ps "name" = storedText d.name
  region : ps "region" = storedText d.region
  description : ps "description" = storedText d.description
  user : ps "user" = storedText d.user
  thumbnail : ps "thumbnail" = storedText d.thumbnail
  latitude : ps "latitude" = storedCoordinate d.latitude
  longitude : ps "longitude" = storedCoordinate d.longitude
  active : ps "active" = some (.bool d.active)
  isPublic : ps "public" = some (.bool d.isPublic)
  assets : StoredList (ps "assets") d.assets
  tags : StoredList (ps "tags") d.tags
  distance : d.distance = 0
  devices : d.devices = []
  sceneTransform : d.sceneTransform = none

section Reading

omit [Field R] [LinearOrder R]

lemma readElement_text {name s : String} {map : Props R} (h : map name = storedText s) :
    readElement env.getStringElement map name "" = .ok s := by
  rw [readElement, h, storedText]
  by_cases hs : s = "" <;> simp [hs, Env.getStringElement]

lemma readElement_coordinate [Field R] [LinearOrder R] {name : String} {x : R} {map : Props R}
    (h : map name = storedCoordinate x) :
    readElement env.getFloatElement map name (-9999) = .ok x := by
  rw [readElement, h, storedCoordinate]
  by_cases hx : x = -9999 <;> simp [hx, Env.getFloatElement]

lemma readElement_list {name : String} {l : List String} {map : Props R}
    (h : StoredList (map name) l) : readElement env.getListElement map name [] = .ok l := by
  rw [readElement]
  rcases h with h | ⟨h, rfl⟩
  · rw [h]
    rfl
  · rw [h]

end Reading

/-- A document is read as it is, but for the public flag. -/
lemma Represents.sceneOfNode {n : Node R} {d : SceneDocument R} (h : Represents n.props d) :
    sceneOfNode env n = .ok { d with isPublic := true } := by
  have hactive : readElement env.getBoolElement n.props "active" true = .ok d.active := by
    rw [readElement, h.active]
    rfl
  rw [CrazyIvan.sceneOfNode, assignSceneProperties]
  dsimp only
  rw [readElement_text env h.key, readElement_text env h.name, readElement_text env h.region,
    readElement_text env h.description, readElement_text env h.user,
    readElement_text env h.thumbnail, readElement_coordinate env h.latitude,
    readElement_coordinate env h.longitude, readElement_list env h.assets,
    readElement_list env h.tags, hactive]
  have hd : d = { d with distance := 0, devices := [], sceneTransform := none } := by
    rw [← h.distance, ← h.devices, ← h.sceneTransform]
  rw [hd]
  rfl

section Stored

variable {key : String} {scn : SceneDocument R}

attribute [local simp] sceneProps mkProps createEntries List.lookup_append lookup_optEntry
  List.lookup_cons createSceneQuery generateSceneQueryParameters generateQueryParameters
  lookup_optParam

/-- A scene is stored as its document. -/
lemma represents_sceneProps (hkey : key ≠ "") (hscn : Storable scn) :
    Represents (sceneProps key scn) (scn.stored key) where
  key := by simp [hkey, storedText, SceneDocument.stored]
  name := by by_cases h : scn.name = "" <;> simp [hkey, h, storedText, SceneDocument.stored]
  region := by by_cases h : scn.region = "" <;> simp [hkey, h, storedText, SceneDocument.stored]
  description := by
    by_cases h : scn.description = "" <;> simp [hkey, h, storedText, SceneDocument.stored]
  user := by
    by_cases h : scn.user = "" <;> cases hp : scn.isPublic <;>
      simp [hkey, h, hp, storedText, SceneDocument.stored]
  thumbnail := by
    by_cases h : scn.thumbnail = "" <;> simp [hkey, h, storedText, SceneDocument.stored]
  latitude := by
    by_cases h : scn.latitude = -9999
    · simp [hkey, h, storedCoordinate, SceneDocument.stored]
    · have hlt : -9999 < scn.latitude := lt_of_le_of_ne (not_lt.mp hscn.1) (Ne.symm h)
      simp [hkey, h, hlt, storedCoordinate, SceneDocument.stored]
  longitude := by
    by_cases h : scn.longitude = -9999
    · simp [hkey, h, storedCoordinate, SceneDocument.stored]
    · have hlt : -9999 < scn.longitude := lt_of_le_of_ne (not_lt.mp hscn.2) (Ne.symm h)
      simp [hkey, h, hlt, storedCoordinate, SceneDocument.stored]
  active := by simp [hkey, SceneDocument.stored]
  isPublic := by simp [hkey, SceneDocument.stored]
  assets := by
    cases h : scn.assets <;>
      simp [hkey, h, StoredList, SceneDocument.numAssets, SceneDocument.stored]
  tags := by
    cases h : scn.tags <;> simp [hkey, h, StoredList, SceneDocument.numTags, SceneDocument.stored]
  distance := rfl
  devices := rfl
  sceneTransform := rfl

/-- A stored scene is read as it comes back. -/
lemma sceneOfNode_stored (hkey : scn.key ≠ "") (hscn : Storable scn) (i : ℕ) :
    sceneOfNode env ⟨i, "Scene", sceneProps scn.key scn⟩ = .ok scn.comesBack :=
  Represents.sceneOfNode env (n := ⟨i, "Scene", sceneProps scn.key scn⟩)
    (represents_sceneProps hkey hscn)

lemma sceneProps_public (hkey : scn.key ≠ "") :
    sceneProps scn.key scn "public" = some (.bool scn.isPublic) := by
  simp [hkey]

lemma sceneProps_user (hkey : scn.key ≠ "") (huser : scn.user ≠ "") :
    sceneProps scn.key scn "user" = some (.str scn.user) := by
  cases hp : scn.isPublic <;> simp [hkey, huser, hp]

end Stored

/-- A written scene tells whether it is public. -/
lemma isPublic_of_writeScene_eq (glm : Glm R) {s s' : SceneDocument R}
    (h : writeScene glm s = writeScene glm s') : s.isPublic = s'.isPublic := by
  have hpublic : ∀ s : SceneDocument R,
      (writeScene glm s).findMember "public" = some (some (.bool s.isPublic)) := fun s => by
    simp [writeScene, Json.Value.findMember, List.lookup_append, Json.lookup_cons,
      Json.lookup_optString, Json.lookup_optMember]
  have hmembers := hpublic s
  rw [h, hpublic s'] at hmembers
  simpa using hmembers.symm

/-- The result that carries some scenes. -/
def foundResult (transactionId : String) (scenes : List (SceneDocument R)) : ProcessResult R :=
  ({} : ProcessResult R).setReturnString
    (.msg { errCode := noError, msgType := sceneGet, transactionId, scenes })

/-- A created scene is found by its key, with its user and its public flag. -/
lemma response_created {g : Graph R} {q : SceneList R} {scn qscn : SceneDocument R}
    {qrest : List (SceneDocument R)} {uuid : String} (hkey : scn.key ≠ "") (hscn : Storable scn)
    (hfresh : scenes g scn.key = []) (hacc : scn.isPublic = true ∨ scn.user ≠ "")
    (hq : q.scenes = qscn :: qrest) (hqkey : qscn.key = scn.key)
    (hquser : qscn.user = scn.user) (hqpublic : qscn.isPublic = scn.isPublic) :
    response fn env q (created uuid scn g) =
      .ok (foundResult q.transactionId [scn.comesBack]) := by
  have hnewKey : newSceneKey uuid scn = scn.key := if_neg hkey
  have hg : created uuid scn g = g.addNode "Scene" (sceneProps scn.key scn) := by
    rw [created, if_pos ⟨hnewKey ▸ hkey, hscn⟩, hnewKey]
  have hqacc : retrieveAccepted qscn := by
    rw [retrieveAccepted, hquser, hqpublic]
    tauto
  set n := g.newNode "Scene" (sceneProps scn.key scn)
  have hvisible : Visible qscn n := by
    have hpublic : n.props "public" = some (.bool scn.isPublic) := sceneProps_public hkey
    rw [Visible, hqpublic, hpublic, hquser]
    split
    · rw [‹scn.isPublic = true›]
    · next h => exact sceneProps_user hkey (hacc.resolve_left h)
  have hscenes : (scenes (created uuid scn g) scn.key).filter (Visible qscn ·) = [n] := by
    have hhas : HasKey "Scene" scn.key n := ⟨rfl, sceneProps_key hkey scn⟩
    rw [hg, scenes, Graph.nodes_addNode, List.filter_append, ← scenes, hfresh, List.nil_append,
      List.filter_singleton, decide_eq_true hhas, cond_true, List.filter_singleton,
      decide_eq_true hvisible, cond_true]
  have hread : sceneOfNode env n = .ok scn.comesBack := sceneOfNode_stored env hkey hscn _
  rw [response_eq fn env hq hqacc, answer_retrieve_key fn q (hqkey ▸ hkey) hqacc, hqkey, hscenes,
    retrieved_rows, List.mapM_cons, hread]
  rfl

omit [LinearOrder R] in
/-- At most ten scenes are written. -/
lemma scenes_foundResult [LinearOrder R] (glm : Glm R) (unset : ℤ) (transactionId : String)
    (scenes : List (SceneDocument R)) :
    (foundResult transactionId scenes).scenes glm unset
      = (scenes.take 10).map (writeScene glm) := by
  have hreturn : ∀ m : SceneList R, m.numRecords = 10 → returnScenes m = m.scenes.take 10 := by
    intro m hm
    rw [returnScenes, numReturnScenes, hm, SceneList.numScenes]
    split
    · rfl
    · rw [Int.toNat_natCast, List.take_length, List.take_of_length_le (by omega)]
  have hmsg : (foundResult transactionId scenes).message? = some
      { errCode := noError, msgType := sceneGet, transactionId, scenes } := rfl
  simp only [ProcessResult.scenes, hmsg]
  rw [writtenScenes_toMsgString, hreturn _ rfl]

/-- The retrieve message that asks for a created scene is answered with it, but for the
public flag: it comes back public. -/
theorem retrieve_created_iff {g g' : Graph R} {m q : SceneList R} {scn qscn : SceneDocument R}
    {rest qrest : List (SceneDocument R)} {uuid : String} {r : ProcessResult R}
    (hm : m.scenes = scn :: rest) (hkey : scn.key ≠ "") (hfresh : scenes g scn.key = [])
    (hacc : scn.isPublic = true ∨ scn.user ≠ "")
    (hrun : (processCreateMessage uuid m).run (db fn) g = (.ok r, g'))
    (hr : r.successful = true) (hq : q.scenes = qscn :: qrest) (hqkey : qscn.key = scn.key)
    (hquser : qscn.user = scn.user) (hqpublic : qscn.isPublic = scn.isPublic) (unset : ℤ) :
    (∃ r' d, response fn env q g' = .ok r' ∧ r'.successful = true ∧
      r'.scenes env.glm unset = [writeScene env.glm d] ∧ scn.SameStored d) ↔
      scn.isPublic = true := by
  obtain ⟨r₀, hrun₀, hr₀⟩ := run_create fn hm uuid g
  obtain ⟨hr', hg'⟩ : Except.ok r₀ = .ok r ∧ created uuid scn g = g' := by
    rw [hrun₀] at hrun
    exact Prod.ext_iff.mp hrun
  obtain ⟨-, hscn⟩ := hr₀.mp (Except.ok.inj hr' ▸ hr)
  rw [← hg', response_created fn env hkey hscn hfresh hacc hq hqkey hquser hqpublic]
  have hwritten : (foundResult q.transactionId [scn.comesBack]).scenes env.glm unset =
      [writeScene env.glm scn.comesBack] := scenes_foundResult env.glm unset _ _
  constructor
  · rintro ⟨r', d, ⟨rfl⟩, -, hd, hsame⟩
    rw [hwritten] at hd
    rw [← hsame.isPublic, ← isPublic_of_writeScene_eq env.glm (List.singleton_inj.mp hd)]
    rfl
  · intro hpublic
    refine ⟨_, scn.comesBack, rfl, rfl, hwritten, ?_⟩
    constructor <;> first | rfl | exact hpublic.symm

end Responses

/-! ### Created scenes -/

/-- The retrieve message for a scene. -/
def retrieveOf (scn : SceneDocument ℚ) : SceneList ℚ :=
  { scenes := [{ key := scn.key, user := scn.user, isPublic := scn.isPublic }] }

/-- A public scene comes back. -/
theorem retrieve_created_someScene :
    ∃ r' d, response (fun _ x => x) plainEnv (retrieveOf someScene)
        (created "" someScene Graph.empty) = .ok r' ∧ r'.successful = true ∧
      r'.scenes plainEnv.glm 0 = [writeScene plainEnv.glm d] ∧ someScene.SameStored d := by
  have hm : ({ scenes := [someScene] } : SceneList ℚ).scenes = [someScene] := rfl
  obtain ⟨r, hrun, hr⟩ := run_create (fun _ x => x) hm "" Graph.empty
  have hq : (retrieveOf someScene).scenes = [{ key := "s" }] := rfl
  exact (retrieve_created_iff (fun _ x => x) plainEnv hm (by decide) rfl (.inl rfl) hrun
    (hr.mpr (by decide)) hq rfl rfl rfl 0).mpr rfl

/-- A scene of one user. -/
def privateScene : SceneDocument ℚ := { key := "s", user := "u", isPublic := false }

/-- A private scene comes back as a public one. -/
theorem privateScene_comes_back :
    (∃ r, (processCreateMessage "" { scenes := [privateScene] }).run (db fun _ x => x) Graph.empty =
      (.ok r, created "" privateScene Graph.empty) ∧ r.successful = true) ∧
    ¬ ∃ r' d, response (fun _ x => x) plainEnv (retrieveOf privateScene)
        (created "" privateScene Graph.empty) = .ok r' ∧ r'.successful = true ∧
      r'.scenes plainEnv.glm 0 = [writeScene plainEnv.glm d] ∧ privateScene.SameStored d := by
  constructor
  · obtain ⟨r, hrun, hr⟩ := run_create (fun _ x => x)
      (m := ({ scenes := [privateScene] } : SceneList ℚ)) rfl "" Graph.empty
    exact ⟨r, hrun, hr.mpr (by decide)⟩
  · rintro ⟨r', d, hr', -, hd, hsame⟩
    have hstorable : Storable privateScene := by decide
    rw [response_created (fun _ x => x) plainEnv (by decide) hstorable rfl (.inr (by decide)) rfl
      rfl rfl rfl] at hr'
    obtain rfl := Except.ok.inj hr'
    rw [scenes_foundResult] at hd
    have hpublic := isPublic_of_writeScene_eq _ (List.singleton_inj.mp hd)
    rw [hsame.isPublic] at hpublic
    exact absurd hpublic (by decide)

end CrazyIvan
