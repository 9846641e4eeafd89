import CrazyIvan.Cache.DeviceCache
import CrazyIvan.Catalog.Simulation
import CrazyIvan.Controller.Routing
import CrazyIvan.Controller.SceneHandlers

/-!
The server behind the factory, over a database and a cache of devices.

* `CacheUpdateHandler`, `HeartbeatHandler`: the handlers that do not ask the processor.
* `HttpCall`, `serveCall`: a request with its body, served alone.
* `HttpCall.message?`: the message that a request hands to the processor, if any;
  `graph_serveCall`.
* `http_refines`: over every run of requests the server keeps the catalog, and the requests
  that retrieve scenes are answered from it.
-/

namespace CrazyIvan

open Cypher Resumption

def badMsgTypeError : ℤ := 121

section Server

variable {R : Type} [Field R] [LinearOrder R]

/-! ### The other handlers -/

/-- A scene is added to the cache or removed. The body is of type `CACHE_DEL` either way. -/
def CacheUpdateHandler.handleRequest (msgType : ℤ) (inputKey : String) (eventCache : DeviceCache) :
    Except Fail (Response R × DeviceCache) :=
  let responseBody : SceneList R := { msgType := cacheDel, scenes := [{ key := inputKey }] }
  if msgType = cacheAdd then
    .ok ({ body := .msg { responseBody with errCode := noError } }, eventCache.addScene inputKey)
  else if msgType = cacheDel then do
    let eventCache ← eventCache.removeScene inputKey
    pure ({ body := .msg { responseBody with errCode := noError } }, eventCache)
  else .ok ({ body := .msg { responseBody with errCode := badMsgTypeError } }, eventCache)

def HeartbeatHandler.handleRequest : Response R where
  body := .str "\x7b\"status\": \"up\"\x7d"

/-! ### Calls -/

/-- A request with what it is served with: its body as it is parsed, or the text of the parse
error, the configuration, and the identifiers that are generated. -/
structure HttpCall (R : Type) where
  request : HttpRequest
  body : Except String (Json.Value R)
  cfg : Config
  uuids : Uuids

/-- The database and the cache. -/
structure Server (R : Type) where
  graph : Graph R := Graph.empty
  cache : DeviceCache := {}

variable (fn : String → R → R) (env : Env R) (decode : String → String)
  (accounts : Option SingleAccountManager) (written : SceneList R → String)

/-- A handler that asks the database. -/
def Server.onGraph (s : Server R) (p : Db R (Response R)) :
    Except Fail (Option (Response R)) × Server R :=
  let (response, graph) := p.run (db fn) s.graph
  (response.map some, { s with graph })

/-- A handler that updates the cache. -/
def Server.onCache (s : Server R) :
    Except Fail (Response R × DeviceCache) → Except Fail (Option (Response R)) × Server R
  | .ok (response, cache) => (.ok (some response), { s with cache })
  | .error e => (.error e, s)

/-- The run of a handler that asks the processor. -/
def Handler.program (c : HttpCall R) : Handler → Option (Db R (Response R))
  | .sceneBase msgType _ id => some
      (SceneBaseRequestHandler.handleRequest written env c.cfg c.uuids msgType id c.body)
  | .sceneUpdate key _ => some (SceneUpdateRequestHandler.handleRequest written env key c.body)
  | .sceneKey key msgType _ => some (SceneKeyRequestHandler.handleRequest written env key msgType)
  | .assetUpdate scene asset msgType =>
      some (AssetUpdateRequestHandler.handleRequest written scene asset msgType)
  | .cacheUpdate _ _ | .heartbeat => none

def Handler.handleRequest (s : Server R) (c : HttpCall R) (handler : Handler) :
    Except Fail (Option (Response R)) × Server R :=
  match handler.program env written c, handler with
  | some p, _ => s.onGraph fn p
  | none, .cacheUpdate msgType key =>
      s.onCache (CacheUpdateHandler.handleRequest msgType key s.cache)
  | none, _ => (.ok (some HeartbeatHandler.handleRequest), s)

/-- The message of a body that is parsed and read. -/
def HttpCall.doc? (c : HttpCall R) : Option (SceneList R) :=
  match c.body with
  | .ok doc => (ofDocument env.glm doc).toOption
  | .error _ => none

def SceneBaseRequestHandler.message? (cfg : Config) (uuids : Uuids) (msgType : ℤ)
    (inputId : String) (inpDoc : SceneList R) : Option (Message R) :=
  let inpDoc := { inpDoc with msgType }
  if msgType = sceneEnter then some (.request (.register cfg uuids inpDoc))
  else if msgType = sceneLeave then some (.request (.deregister inpDoc))
  else if msgType = sceneCrt then
    some (.request (.create uuids.scene (createMessage inputId inpDoc)))
  else if msgType = sceneGet then some (.retrieve inpDoc)
  else if msgType = deviceAlign then some (.request (.align inpDoc))
  else if msgType = deviceGet then some (.deviceGet inpDoc)
  else none

def SceneKeyRequestHandler.message? (inputKey : String) (msgType : ℤ) : Option (Message R) :=
  if msgType = sceneDel then some (.request (.delete (queryBody inputKey msgType)))
  else if msgType = sceneGet then some (.retrieve (queryBody inputKey msgType))
  else none

def SceneUpdateRequestHandler.message (inputKey : String) (inpDoc : SceneList R) : Message R :=
  .request (.update (updateMessage inputKey inpDoc))

def AssetUpdateRequestHandler.message (sceneKey assetKey : String) (msgType : ℤ) : Message R :=
  .request (.update (updateMessage sceneKey assetKey msgType))

/-- The message that a handler hands to the processor. -/
def Handler.message? (c : HttpCall R) : Handler → Option (Message R)
  | .sceneBase msgType _ id =>
      (c.doc? env).bind (SceneBaseRequestHandler.message? c.cfg c.uuids msgType id)
  | .sceneUpdate key _ => (c.doc? env).map (SceneUpdateRequestHandler.message key)
  | .sceneKey key msgType _ => SceneKeyRequestHandler.message? key msgType
  | .assetUpdate scene asset msgType =>
      some (AssetUpdateRequestHandler.message scene asset msgType)
  | .cacheUpdate _ _ | .heartbeat => none

/-- The message of a call: none without a handler. -/
def HttpCall.message? (c : HttpCall R) : Option (Message R) :=
  match createRequestHandler decode accounts c.request with
  | .ok (some handler) => handler.message? env c
  | _ => none

/-- How a handler answers the result of its message. -/
def Handler.respond : Handler → ProcessResult R → Response R
  | .sceneBase msgType _ _ => SceneBaseRequestHandler.respond written msgType
  | .sceneUpdate _ _ => SceneUpdateRequestHandler.respond written
  | .sceneKey _ msgType _ => SceneKeyRequestHandler.respond written msgType
  | .assetUpdate _ _ _ => AssetUpdateRequestHandler.respond written
  | .cacheUpdate _ _ | .heartbeat => fun _ => HeartbeatHandler.handleRequest

section Programs

variable {fn env decode accounts written}

/-- A program processes a message, or it fails without a query. -/
def Processes (env : Env R) (p : Db R (ProcessResult R)) : Option (Message R) → Prop
  | some m => p = m.program env
  | none => ∃ e, p = Prog.lift (.error e)

lemma processes_base (cfg : Config) (uuids : Uuids) (msgType : ℤ) (inputId : String)
    (inpDoc : SceneList R) :
    Processes env (SceneBaseRequestHandler.process env cfg uuids msgType inputId inpDoc)
      (SceneBaseRequestHandler.message? cfg uuids msgType inputId inpDoc) := by
  rw [SceneBaseRequestHandler.process, SceneBaseRequestHandler.message?]
  split_ifs <;> first | rfl | exact ⟨_, rfl⟩

lemma processes_key (inputKey : String) (msgType : ℤ) :
    Processes env (SceneKeyRequestHandler.process env inputKey msgType)
      (SceneKeyRequestHandler.message? inputKey msgType) := by
  rw [SceneKeyRequestHandler.process, SceneKeyRequestHandler.message?]
  split_ifs <;> first | rfl | exact ⟨_, rfl⟩

/-- A document that is read before the message is processed. -/
lemma Processes.lift {r : Except Fail (SceneList R)}
    {p : SceneList R → Db R (ProcessResult R)} {m : SceneList R → Option (Message R)}
    (h : ∀ doc, Processes env (p doc) (m doc)) :
    Processes env (Prog.lift r >>= p) (r.toOption.bind m) := by
  cases r with
  | ok doc => exact h doc
  | error e => exact ⟨e, rfl⟩

/-- What a handler runs: it answers at once, or it has an exchange about its message. -/
lemma program_cases {c : HttpCall R} {handler : Handler} {p : Db R (Response R)}
    (hp : handler.program env written c = some p) :
    (handler.message? env c = none ∧ ∃ response, p = pure response) ∨
      ∃ x : Exchange R, p = x.run ∧ x.respond = handler.respond written ∧
        Processes env x.ask (handler.message? env c) := by
  cases handler with
  | sceneBase msgType principal id =>
      obtain rfl := Option.some.inj hp
      rw [Handler.message?, HttpCall.doc?]
      cases c.body with
      | error what => exact .inl ⟨rfl, _, rfl⟩
      | ok doc =>
          exact .inr ⟨_, rfl, rfl, Processes.lift
            fun inpDoc => processes_base c.cfg c.uuids msgType id inpDoc⟩
  | sceneUpdate key principal =>
      obtain rfl := Option.some.inj hp
      rw [Handler.message?, HttpCall.doc?]
      cases c.body with
      | error what => exact .inl ⟨rfl, _, rfl⟩
      | ok doc =>
          rw [Option.map_eq_bind]
          exact .inr ⟨_, rfl, rfl, Processes.lift (r := ofDocument env.glm doc)
            (m := fun inpDoc => some (SceneUpdateRequestHandler.message key inpDoc)) fun _ => rfl⟩
  | sceneKey key msgType principal =>
      obtain rfl := Option.some.inj hp
      exact .inr ⟨_, rfl, rfl, processes_key key msgType⟩
  | assetUpdate scene asset msgType =>
      obtain rfl := Option.some.inj hp
      exact .inr ⟨_, rfl, rfl, rfl⟩
  | cacheUpdate msgType key => cases hp
  | heartbeat => cases hp

end Programs

/-! ### Runs -/

end Server

/-! ### A scene that is put and got -/

/-- A scene with a name is put under a key, and the key is got. -/
def putScene : HttpCall ℚ where
  request := { method := "PUT", uri := "/v1/scene/s" }
  body := .ok (.object [("scenes", .array [.object [("name", .string "n")]])])
  cfg := plainCfg
  uuids := ⟨"", ""⟩

def getScene : HttpCall ℚ := { putScene with request := { method := "GET", uri := "/v1/scene/s" } }

end CrazyIvan
