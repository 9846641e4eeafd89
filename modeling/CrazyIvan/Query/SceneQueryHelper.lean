import CrazyIvan.Query.BaseQueryHelper

/-!
The scene queries of the source: the existence check and the links between
scenes.

Each query is its statement, the reading of the answer, and the program that
asks the one and reads the other.
-/

namespace CrazyIvan

open Cypher Resumption

section SceneQueries

variable {R : Type}

/-- Ask a query and read its answer. -/
def askAndRead {α : Type} (q : Query R) (read : Answer R → Except Fail α) : Db R α :=
  Prog.query q >>= fun a => Prog.lift (read a)

lemma run_askAndRead {α σ : Type} (h : Query R → σ → Answer R × σ) (q : Query R)
    (read : Answer R → Except Fail α) (s : σ) :
    (askAndRead q read).run h s = (read (h q s).1, (h q s).2) := rfl

/-! ### Existence -/

def sceneExistsQuery (inpKey : String) : Query R where
  text := "MATCH (scn:Scene {key: {inp_key}})" ++ " RETURN scn"
  params := [("inp_key", .str inpKey)]

/-- The first value of the first row decides; an exception is passed on. -/
def readSceneExists : Answer R → Except Fail Bool
  | .throw what => .error (queryException what)
  | .null | .rows [] => .ok false
  | .rows ((.node _ :: _) :: _) => .ok true
  | .rows ((_ :: _) :: _) => .ok false
  | .rows ([] :: _) => .error .undefined

/-- Determine if the scene exists. -/
def sceneExists (inpKey : String) : Db R Bool :=
  askAndRead (sceneExistsQuery inpKey) readSceneExists

/-! ### Links between scenes -/

section Links

variable (env : Env R)

def getSceneLinkQuery (scene1Key scene2Key : String) : Query R where
  text := "MATCH (scn:Scene)-[trans:TRANSFORM]->(scn2:Scene)" ++
    " WHERE (scn.key = {inp_key1} AND scn2.key = {inp_key2})" ++
    " OR (scn.key = {inp_key2} AND scn2.key = {inp_key1})" ++
    " RETURN trans"
  params := [("inp_key1", .str scene1Key), ("inp_key2", .str scene2Key)]

/-- 1 for a forward link, 2 for a backward link, by the property `key` of the
first link returned; 0 otherwise. Exceptions count as no link. -/
def readSceneLink (scene1Key scene2Key : String) : Answer R → Except Fail ℕ
  | .throw _ | .null | .rows [] => .ok 0
  | .rows ([] :: _) => .error .undefined
  | .rows ((.rel r :: _) :: _) =>
      match r.props "key" with
      | none => .ok 0
      | some v => do
          let key ← env.getStringElement v
          if scene1Key = key then pure 1
          else if scene2Key = key then pure 2
          else pure 0
  | .rows ((_ :: _) :: _) => .ok 0

/-- Get the link between two scenes. -/
def getSceneLink (scene1Key scene2Key : String) : Db R ℕ :=
  askAndRead (getSceneLinkQuery scene1Key scene2Key) (readSceneLink env scene1Key scene2Key)

variable [CommRing R]

def createSceneLinkQuery (s1Key s2Key : String) (newTrans : Transform R) : Query R where
  text := "MATCH (scn:Scene {key: {inp_key1}}), (scn2:Scene {key: {inp_key2}}) " ++
    "CREATE (scn)-[trans:TRANSFORM \x7btranslation_x: {loc_x}, " ++
    "translation_y: {loc_y}, translation_z: {loc_z}, rotation_x: {rot_x}, " ++
    "rotation_y: {rot_y}, rotation_z: {rot_z}\x7d]->(scn2) " ++
    "RETURN scn, trans, scn2"
  params := [("inp_key1", .str s1Key), ("inp_key2", .str s2Key)] ++
    transformParams env.glm newTrans

/-- The answer to a write: a node has to come first. The three texts are what is
reported when there is no result, no row, no node. -/
def readWritten (text noResult noTree noValue : String) : Answer R → Except Fail Unit
  | .throw _ | .null => .error (queryException (noResult ++ text))
  | .rows [] => .error (queryException (noTree ++ text))
  | .rows ((.node _ :: _) :: _) => .ok ()
  | .rows ((_ :: _) :: _) => .error (queryException (noValue ++ text))
  | .rows ([] :: _) => .error .undefined

/-- Create the scene-scene link. -/
def createSceneLink (s1Key s2Key : String) (newTrans : Transform R) : Db R Unit :=
  let q := createSceneLinkQuery env s1Key s2Key newTrans
  askAndRead q (readWritten q.text "No Links created: " "Query Returned no values: "
    "Query Returned no values: ")

/-- The last three assignments are written with a colon. -/
def updateSceneLinkQuery (s1Key s2Key : String) (newTrans : Transform R) : Query R where
  text := "MATCH (scn:Scene {key: {inp_key1}})-[trans:TRANSFORM]->" ++
    "(scn2:Scene {key: {inp_key2}}) " ++
    "SET trans.translation_x = {loc_x}, trans.translation_y = {loc_y}, " ++
    "trans.translation_z = {loc_z}, trans.rotation_x: {rot_x}, " ++
    "trans.rotation_y: {rot_y}, trans.rotation_z: {rot_z} " ++
    "RETURN scn, trans, scn2"
  params := [("inp_key1", .str s1Key), ("inp_key2", .str s2Key)] ++
    transformParams env.glm newTrans

/-- Update the scene-scene link. -/
def updateSceneLink (s1Key s2Key : String) (newTrans : Transform R) : Db R Unit :=
  let q := updateSceneLinkQuery env s1Key s2Key newTrans
  askAndRead q (readWritten q.text "No Links created: " "Query Returned no result tree: "
    "Query Returned no values: ")

end Links

end SceneQueries

end CrazyIvan
