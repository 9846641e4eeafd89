import CrazyIvan.Cypher.Semantics
import CrazyIvan.Library.Resumption
import CrazyIvan.Model.Scene

/-!
The base of the query helpers: the queries a program sends, reading the
properties of what comes back, and the scene query builder with its parameter
map.

* `Query`, `Db`: a statement with its parameters, and a program asking such.
* `assignSceneProperties`: a scene from the properties of a node.
* `generateSceneCrudQuery`, `generateQueryParameters`: the text of a scene query
  and the parameters sent with it.
-/

namespace CrazyIvan

open Cypher Resumption

/-- A statement sent to the database. -/
structure Query (R : Type) where
  text : String
  params : Params R

/-- A program that talks to the database. -/
abbrev Db (R α : Type) := Prog (Query R) (Answer R) Fail α

/-- The libraries the program is linked against: glm, and the driver, of which
only the failure on an element of another type is open. -/
structure Env (R : Type) where
  glm : Glm R
  mistyped : Fail

/-- Over the rationals, the values of the functions on no angle. -/
def plainEnv : Env ℚ := ⟨⟨fun _ _ _ => 1, id, fun _ _ => 0⟩, .undefined⟩

section Query

variable {R : Type}

/-! ### Reading properties -/

namespace Env

variable (env : Env R)

/-- `get_string_element`. -/
def getStringElement (v : Value R) : Except Fail String :=
  match v with
  | .str s => .ok s
  | _ => .error env.mistyped

/-- `get_int_element`. -/
def getIntElement (v : Value R) : Except Fail ℤ :=
  match v with
  | .int n => .ok n
  | _ => .error env.mistyped

/-- `get_float_element`. -/
def getFloatElement (v : Value R) : Except Fail R :=
  match v with
  | .num x => .ok x
  | _ => .error env.mistyped

/-- `get_bool_element`. -/
def getBoolElement (v : Value R) : Except Fail Bool :=
  match v with
  | .bool b => .ok b
  | _ => .error env.mistyped

/-- `get_list_element`, and its elements as strings. -/
def getListElement (v : Value R) : Except Fail (List String) :=
  match v with
  | .strs l => .ok l
  | _ => .error env.mistyped

end Env

/-- `if (map->element_exists(name)) x = get(map, name)`, on a variable that held
`current`. -/
def readElement {α : Type} (get : Value R → Except Fail α) (map : Props R) (name : String)
    (current : α) : Except Fail α :=
  match map name with
  | some v => get v
  | none => .ok current

variable [CommRing R] (env : Env R)

/-- Assign the properties from a device of the database to a device. -/
def assignDeviceProperties (map : Props R) (data : UserDevice R) :
    Except Fail (UserDevice R) := do
  let connectionString ←
    readElement env.getStringElement map "connection_string" data.connectionString
  let hostname ← readElement env.getStringElement map "hostname" data.hostname
  let port ← readElement env.getIntElement map "port" data.port
  pure { data with connectionString, hostname, port }

/-- Assign the properties from a scene of the database to a scene. -/
def assignSceneProperties (map : Props R) (data : SceneDocument R) :
    Except Fail (SceneDocument R) := do
  let key ← readElement env.getStringElement map "key" data.key
  let name ← readElement env.getStringElement map "name" data.name
  let region ← readElement env.getStringElement map "region" data.region
  let description ← readElement env.getStringElement map "description" data.description
  let user ← readElement env.getStringElement map "user" data.user
  let thumbnail ← readElement env.getStringElement map "thumbnail" data.thumbnail
  let latitude ← readElement env.getFloatElement map "latitude" data.latitude
  let active ← readElement env.getBoolElement map "active" data.active
  let longitude ← readElement env.getFloatElement map "longitude" data.longitude
  let assets ← readElement env.getListElement map "assets" []
  let tags ← readElement env.getListElement map "tags" []
  pure { data with
    key, name, region, description, user, thumbnail, latitude, active, longitude
    assets := data.assets ++ assets
    tags := data.tags ++ tags }

/-! ### Scene queries -/

/-- The parameters of the six properties of a stored transform. -/
def transformParams (glm : Glm R) (t : Transform R) : Params R :=
  [("loc_x", .num (t.translation 0)), ("loc_y", .num (t.translation 1)),
    ("loc_z", .num (t.translation 2)), ("rot_x", .num (t.rotation glm 0)),
    ("rot_y", .num (t.rotation glm 1)), ("rot_z", .num (t.rotation glm 2))]

end Query

section Crud

variable {R : Type} [Field R] [LinearOrder R]

/-- Generate a scene Crud query. -/
def generateSceneCrudQuery (key : String) (crudOp : CrudOp) (opType : ℤ)
    (scn : SceneDocument R) : String :=
  let keyQuery := key ≠ ""
  let privateUser := ¬ (scn.user = "" ∨ scn.isPublic)
  (if crudOp = .createQueryType then "CREATE (scn:Scene" else "MATCH (scn:Scene") ++
  opt keyQuery
    (" \x7bkey: {inp_key}" ++
      opt (crudOp = .getQueryType)
        ((if privateUser then ", user: {inp_user}"
          else if scn.isPublic then ", public: {inp_public}" else "") ++ "\x7d)")) ++
  (match crudOp with
  | .updateQueryType =>
      "\x7d) SET scn.active = {inp_active}, scn.public = {inp_public}" ++
      opt (scn.name ≠ "") ", scn.name = {inp_name}" ++
      opt (¬ scn.latitude = -9999) ", scn.latitude = {inp_lat}" ++
      opt (¬ scn.longitude = -9999) ", scn.longitude = {inp_long}" ++
      opt (scn.region ≠ "") ", scn.region = {inp_region}" ++
      opt (scn.description ≠ "") ", scn.description = {inp_description}" ++
      opt (scn.user ≠ "") ", scn.user = {inp_user}" ++
      opt (scn.thumbnail ≠ "") ", scn.thumbnail = {inp_thumbnail}" ++
      opt (scn.numAssets > 0)
        (if opType = opAppend then ", scn.assets = coalesce(scn.assets, []) + {inp_assets}"
        else opt (opType = opRemove)
          ", scn.assets = FILTER(asset IN scn.assets WHERE NOT (asset IN {inp_assets}))") ++
      opt (scn.numTags > 0)
        (if opType = opAppend then ", scn.tags = coalesce(scn.tags, []) + {inp_tags}"
        else opt (opType = opRemove)
          ", scn.tags = FILTER(tag IN scn.tags WHERE NOT (tag IN {inp_tags}))")
  | .deleteQueryType => "\x7d) DETACH DELETE scn"
  | .getQueryType =>
      opt (¬ keyQuery)
        (opt (scn.name ≠ "" ∨ scn.region ≠ "")
          (" \x7b" ++ opt (scn.name ≠ "") "name: {inp_name}" ++
            opt (scn.region ≠ "") (opt (scn.name ≠ "") ", " ++ "region: {inp_region}") ++
            (if privateUser then ", user: {inp_user}"
              else if scn.isPublic then ", public: {inp_public}" else "") ++ "\x7d") ++
        ")" ++
        opt (scn.numTags > 0) " WHERE ALL(x in {inp_tags} WHERE x in scn.tags)" ++
        opt (scn.latitude > -9998.9 ∧ scn.longitude > -9998.9 ∧ scn.distance > 0)
          ((if scn.numTags > 0 then " AND" else " WHERE") ++
            " ( " ++ "12742000 * asin(" ++ "sqrt(" ++
            "haversin(radians({inp_lat} - scn.latitude)) + " ++
            "cos(radians({inp_lat})) * cos(radians(scn.latitude)) * " ++
            "haversin(radians(scn.longitude - {inp_long}))" ++ ")" ++ ")" ++
            ") < {inp_distance}"))
  | .createQueryType =>
      ", public: {inp_public}, active: {inp_active}" ++
      opt (scn.name ≠ "") ", name: {inp_name}" ++
      opt (¬ scn.latitude = -9999) ", latitude: {inp_lat}" ++
      opt (¬ scn.longitude = -9999) ", longitude: {inp_long}" ++
      opt (scn.region ≠ "") ", region: {inp_region}" ++
      opt (scn.description ≠ "") ", description: {inp_description}" ++
      opt (scn.user ≠ "") ", user: {inp_user}" ++
      opt (scn.thumbnail ≠ "") ", thumbnail: {inp_thumbnail}" ++
      opt (scn.numAssets > 0) ", assets: {inp_assets}" ++
      opt (scn.numTags > 0) ", tags: {inp_tags}" ++
      "\x7d)") ++
  " RETURN scn" ++
  opt (crudOp = .getQueryType ∧ ¬ keyQuery) " ORDER BY scn.key SKIP {inp_skip} LIMIT {inp_limit}"

/-- A parameter that is sent under a condition. -/
def optParam (c : Prop) [Decidable c] (name : String) (v : Value R) : Params R :=
  if c then [(name, v)] else []

/-- Generate a map of query parameters from a scene. -/
def generateQueryParameters (key : String) (crudOp : CrudOp) (scn : Option (SceneDocument R))
    (skipVal maxVal : ℤ) : Params R :=
  optParam (key ≠ "") "inp_key" (.str key) ++
  optParam (key = "" ∧ crudOp = .getQueryType) "inp_skip" (.int skipVal) ++
  optParam (key = "" ∧ crudOp = .getQueryType) "inp_limit" (.int maxVal) ++
  match scn with
  | none => []
  | some scn =>
      [("inp_active", .bool scn.active), ("inp_public", .bool scn.isPublic)] ++
      optParam (scn.name ≠ "") "inp_name" (.str scn.name) ++
      optParam (scn.latitude > -9999) "inp_lat" (.num scn.latitude) ++
      optParam (scn.longitude > -9999) "inp_long" (.num scn.longitude) ++
      optParam (scn.distance > 0.01 ∧ crudOp = .getQueryType ∧ key = "") "inp_distance"
        (.num scn.distance) ++
      optParam (scn.region ≠ "") "inp_region" (.str scn.region) ++
      optParam (scn.description ≠ "") "inp_description" (.str scn.description) ++
      optParam (¬ (scn.user = "" ∨ scn.isPublic) ∨ scn.isPublic) "inp_user" (.str scn.user) ++
      optParam (scn.thumbnail ≠ "") "inp_thumbnail" (.str scn.thumbnail) ++
      optParam (scn.numAssets > 0) "inp_assets" (.strs scn.assets) ++
      optParam (scn.numTags > 0) "inp_tags" (.strs scn.tags)

def generateSceneQueryParameters (key : String) (crudOp : CrudOp)
    (scn : Option (SceneDocument R)) : Params R :=
  generateQueryParameters key crudOp scn 0 0

end Crud

end CrazyIvan
