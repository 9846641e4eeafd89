import CrazyIvan.Query.DeviceQueryHelper

/-!
The algorithms of the source on the network of scenes.

* `processUDUDTransformation`: scene-scene links from a device in several
  scenes.
* `calculateSceneSceneTransform`: the transform along a shortest path of links.
-/

namespace CrazyIvan

open Cypher Resumption

section Algorithms

variable {R : Type} [CommRing R] (env : Env R)

/-! ### Links from the registrations of a device -/

/-- The transform from one scene to another of a device with transforms `origin`
and `dest` in them: the inverse of the one, then the other. -/
def ududTransform (origin dest : Transform R) : Transform R :=
  ((Transform.new.addTransform env.glm origin false).invert env.glm).addTransform env.glm dest
    false

/-- One scene the device is registered to: look for a link between the scenes,
and create or correct it. -/
def processUDUDScene (scene1 scene2 : SceneDocument R) : Db R Unit := do
  if scene1.key = scene2.key then pure ()
  else
    let origin ← Prog.lift (scene1.getDevice 0 >>= UserDevice.transform)
    let dest ← Prog.lift (scene2.getDevice 0 >>= UserDevice.transform)
    let newTrans := ududTransform env origin dest
    let results ← getSceneLink env scene1.key scene2.key
    if results = 0 then createSceneLink env scene1.key scene2.key newTrans
    else if results = 1 then updateSceneLink env scene1.key scene2.key newTrans
    else if results = 2 then
      updateSceneLink env scene2.key scene1.key (newTrans.invert env.glm)
    else pure ()

/-- The loop over the scenes the device is registered to. -/
def processUDUDScenes (scene2 : SceneDocument R) : List (SceneDocument R) → Db R Unit
  | [] => pure ()
  | scene1 :: rest => do
      processUDUDScene env scene1 scene2
      processUDUDScenes scene2 rest

/-- Use a device registered to multiple scenes to create scene-scene links. The
registered scenes are a pointer. -/
def processUDUDTransformation (registeredScenes : Option (SceneList R)) (objMsg : SceneList R) :
    Db R Unit :=
  match registeredScenes with
  | none => Prog.fail .undefined
  | some registered => do
      let scene2 ← Prog.lift (objMsg.getScene 0)
      processUDUDScenes env scene2 registered.scenes

/-! ### The transform along a path -/

/-- The transform an edge of a path stands for: the stored values that exist,
inverted when the edge is walked backwards. -/
def edgeTransform (map : Props R) (forward : Bool) : Except Fail (Transform R) := do
  let translate := fun (t : Transform R) (index : Fin 3) (name : String) =>
    match map name with
    | some v => (t.translate index ·) <$> env.getFloatElement v
    | none => .ok t
  let rotate := fun (t : Transform R) (index : Fin 3) (name : String) =>
    match map name with
    | some v => (t.rotate env.glm index ·) <$> env.getFloatElement v
    | none => .ok t
  let t ← translate Transform.new 0 "translation_x"
  let t ← translate t 1 "translation_y"
  let t ← translate t 2 "translation_z"
  let t ← rotate t 0 "rotation_x"
  let t ← rotate t 1 "rotation_y"
  let t ← rotate t 2 "rotation_z"
  pure (if forward then t else t.invert env.glm)

/-- The loop over the edges of a path. -/
def pathTransform (steps : List (Rel R × Bool × Node R)) : Except Fail (Transform R) :=
  steps.foldlM (fun acc step => do
    let pathTran ← edgeTransform env step.1.props step.2.1
    pure (acc.addTransform env.glm pathTran false)) Transform.new

/-- Both keys are bound to one and the same parameter. -/
def calculateQuery (sceneId1 sceneId2 : String) : Query R where
  text := "MATCH (base:Scene {key: {inp_key_start}}), " ++
    "(next:Scene {key: {inp_key_end}}), p = shortestPath((base)-[r*]-(next)) " ++
    "WHERE ALL (x IN nodes(p) WHERE (x:Scene)) RETURN p"
  params := [("inp_key_start", .str sceneId1), ("inp_key_start", .str sceneId2)]

/-- A transform with the flag whether there is a result. -/
structure SceneTransformResult (R : Type) [CommRing R] where
  transform : Transform R
  resultFlag : Bool := true

/-- No result is an error, no row is the identity. -/
def readCalculated : Answer R → Except Fail (SceneTransformResult R)
  | .throw _ | .null => .error (queryException "No Path between scenes found")
  | .rows [] => .ok { transform := Transform.new }
  | .rows ((.path p :: _) :: _) => do
      let transform ← pathTransform env p.steps
      pure { transform }
  | .rows ((_ :: _) :: _) => .ok { transform := Transform.new }
  | .rows ([] :: _) => .error .undefined

/-- Try to find a path from one scene to the next and calculate the resulting
transform. -/
def calculateSceneSceneTransform (sceneId1 sceneId2 : String) : Db R (SceneTransformResult R) :=
  askAndRead (calculateQuery sceneId1 sceneId2) (readCalculated env)

end Algorithms

end CrazyIvan
