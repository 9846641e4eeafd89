import CrazyIvan.App.IvanUtils

/-!
The factory of the request handlers: a request is authenticated, and then given
the handler of its method and path.

The decoding of base64 and the keyed hash are parameters.
-/

namespace CrazyIvan

open Lines

/-! ### Codes -/

def cacheAdd : ℤ := 8
def cacheDel : ℤ := 9
def assetAdd : ℤ := 10
def assetDel : ℤ := 11

/-- The authentication that accounts can ask for. -/
def ivanBasicAuth : ℤ := 1

/-- A request: the credentials are the scheme and the text behind it. -/
structure HttpRequest where
  method : String
  uri : String
  credentials : Option (String × String) := none
  principal : Option String := none
deriving DecidableEq, Repr

/-! ### Accounts -/

/-- The account manager for a single login. The password is held hashed, under
the key the hash was set up with. -/
structure SingleAccountManager where
  username : String
  password : String
  hashString : String → String
  type : ℤ := ivanBasicAuth

namespace SingleAccountManager

/-- The constructor: user name, password and the key of the hash. -/
def new (hmac : String → String → String) (un pw shaPw : String) : SingleAccountManager where
  username := un
  password := hmac shaPw pw
  hashString := hmac shaPw

/-- Determine if a user is valid or not. -/
def authenticateUser (accounts : SingleAccountManager) (_user passwd : String) : Bool :=
  accounts.hashString passwd = accounts.password

end SingleAccountManager

/-! ### The factory -/

/-- The handlers, with what they are built from. -/
inductive Handler where
  | sceneBase (msgType : ℤ) (principal id : String)
  | sceneUpdate (key principal : String)
  | sceneKey (key : String) (msgType : ℤ) (principal : String)
  | cacheUpdate (msgType : ℤ) (key : String)
  | assetUpdate (scene asset : String) (msgType : ℤ)
  | heartbeat
deriving DecidableEq, Repr

/-- What a reading leaves in a string that was empty. -/
def orEmpty (line : Option (List Char)) : List Char := line.getD []

/-- User name and password: the first line of a text, split at the first colon. -/
def userAndPassword (authInfo : String) : String × String :=
  let authInfoStr := orEmpty (getline '\n' ⟨authInfo.toList, true⟩).1
  let (username, stream) := getline ':' ⟨authInfoStr, true⟩
  let (password, _) := getline '\n' stream
  (String.ofList (orEmpty username), String.ofList (orEmpty password))

/-- The request fails to authenticate. -/
def authenticationFailure (decode : String → String) (accounts : Option SingleAccountManager)
    (request : HttpRequest) : Bool :=
  match accounts with
  | none => false
  | some accounts =>
      match request.credentials with
      | none => true
      | some (scheme, reqAuthInfo) =>
          if accounts.type = ivanBasicAuth then
            if scheme = "Basic" then
              let (username, password) := userAndPassword (decode reqAuthInfo)
              !accounts.authenticateUser username password
            else true
          else false

/-- The handler for the elements of a path. -/
def route (method : String) (uriPath : List String) (principal : String) :
    Except Fail (Option Handler) := do
  if ← allOf [.ok (uriPath.length > 1), elementIs uriPath 0 "v1", .ok (method = "POST")] then
    if ← allOf [sizeIs uriPath 2, elementIs uriPath 1 "scene"] then
      return some (.sceneBase sceneCrt principal "")
    else if ← allOf [sizeIs uriPath 3, elementIs uriPath 1 "scene",
        elementIs uriPath 2 "query"] then
      return some (.sceneBase sceneGet principal "")
    else if ← allOf [sizeIs uriPath 3, elementIs uriPath 1 "scene"] then
      let key ← orUndefined uriPath[2]?
      return some (.sceneUpdate key principal)
    else if ← allOf [sizeIs uriPath 2, elementIs uriPath 1 "register"] then
      return some (.sceneBase sceneEnter principal "")
    else if ← allOf [sizeIs uriPath 2, elementIs uriPath 1 "deregister"] then
      return some (.sceneBase sceneLeave principal "")
    else if ← allOf [sizeIs uriPath 2, elementIs uriPath 1 "align"] then
      return some (.sceneBase deviceAlign principal "")
    else if ← allOf [sizeIs uriPath 3, elementIs uriPath 1 "device",
        elementIs uriPath 2 "query"] then
      return some (.sceneBase deviceGet principal "")
    else return none
  else if ← allOf [sizeIs uriPath 3, .ok (method = "PUT"), elementIs uriPath 0 "v1",
      elementIs uriPath 1 "scene"] then
    let id ← orUndefined uriPath[2]?
    return some (.sceneBase sceneCrt principal id)
  else if ← allOf [sizeIs uriPath 4, elementIs uriPath 0 "v1", elementIs uriPath 1 "scene",
      elementIs uriPath 2 "cache"] then
    let key ← orUndefined uriPath[3]?
    if method = "PUT" then return some (.cacheUpdate cacheAdd key)
    else if method = "DELETE" then return some (.cacheUpdate cacheDel key)
    else return none
  else if ← allOf [sizeIs uriPath 3, elementIs uriPath 0 "v1", elementIs uriPath 1 "scene",
      .ok (method = "DELETE")] then
    let key ← orUndefined uriPath[2]?
    return some (.sceneKey key sceneDel principal)
  else if ← allOf [sizeIs uriPath 5, elementIs uriPath 0 "v1", elementIs uriPath 1 "scene",
      elementIs uriPath 3 "asset"] then
    let scene ← orUndefined uriPath[2]?
    let asset ← orUndefined uriPath[4]?
    if method = "PUT" then return some (.assetUpdate scene asset assetAdd)
    else if method = "DELETE" then return some (.assetUpdate scene asset assetDel)
    else return none
  else if ← allOf [.ok (method = "GET"), elementIs uriPath 0 "v1",
      elementIs uriPath 1 "scene"] then
    let key ← orUndefined uriPath[2]?
    return some (.sceneKey key sceneGet principal)
  else if ← allOf [sizeIs uriPath 1, elementIs uriPath 0 "health", .ok (method = "GET")] then
    return some .heartbeat
  else return none

/-- Build a handler for a request, none where it is refused. -/
def createRequestHandler (decode : String → String) (accounts : Option SingleAccountManager)
    (request : HttpRequest) : Except Fail (Option Handler) :=
  if authenticationFailure decode accounts request then .ok none
  else route request.method (split request.uri '/') (request.principal.getD "")

end CrazyIvan
