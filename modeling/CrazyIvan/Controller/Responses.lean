import CrazyIvan.Api.RoundTrip
import CrazyIvan.Controller.SceneHandlers

/-!
What a client learns of the result.

* `Conveys`: a body is a message with the code of the result.
* `ProcessResult.Coded`, `ProcessResult.Carried`: what all results have in common,
  and those of the messages whose results are passed on.
* `reported_iff`: every handler reports every result, but for the failed ones of a
  scene that is retrieved by its key.
-/

namespace CrazyIvan

open Cypher Resumption

section Responses

variable {R : Type} [Field R] [LinearOrder R]

/-! ### Bodies that convey a result -/

section Bodies

variable (glm : Glm R) (unset : ℤ) (parse : String → Option (Json.Value R))

/-- The document in a body. -/
def ReturnStr.document : ReturnStr R → Option (Json.Value R)
  | .str s => parse s
  | .msg m => some (toMsgString glm unset m)

/-- The body is a message. It has the code and the description of a result that
failed, and no error, or the code that the result carries, otherwise. A description
is a C string. -/
def Conveys (result : ProcessResult R) (body : ReturnStr R) : Prop :=
  ∃ doc m, body.document glm unset parse = some doc ∧ doc.isObject = true ∧
    ofDocument glm doc = .ok m ∧
    (result.successful = false →
      m.errCode = result.errCode ∧ m.errMsg = Json.cstr result.errDesc) ∧
    (result.successful = true →
      m.errCode = noError ∨ ∃ own, result.message? = some own ∧ m.errCode = own.errCode)

end Bodies

/-- An error code as it can be written. -/
def IsCode (errCode : ℤ) : Prop := 0 ≤ errCode ∧ errCode < 2 ^ 31

/-- The code of the result can be written. -/
def ProcessResult.Coded (result : ProcessResult R) : Prop := IsCode result.errCode

/-- A result that is passed on: a message, unless it has failed. -/
def ProcessResult.Carried (result : ProcessResult R) : Prop :=
  result.Coded ∧ (result.successful = true → ∃ m, result.returnStr = .msg m ∧ IsCode m.errCode)

/-- A failed result has no return string. -/
def ProcessResult.Cleared (result : ProcessResult R) : Prop :=
  result.successful = false → result.returnStr = .str ""

/-! ### The results of the processor -/

lemma isCode_noError : IsCode noError := ⟨by decide, by decide⟩

lemma isCode_processingError : IsCode processingError := ⟨by decide, by decide⟩

lemma isCode_notFound : IsCode notFound := ⟨by decide, by decide⟩

lemma isCode_insuffDataError : IsCode insuffDataError := ⟨by decide, by decide⟩

omit [Field R] [LinearOrder R] in
lemma returns_askAndRead {α : Type} {P : α → Prop} {q : Query R}
    {read : Answer R → Except Fail α} (h : ∀ a r, read a = .ok r → P r) :
    (askAndRead q read).Returns P :=
  .ask fun a => .lift (h a)

omit [LinearOrder R] in
lemma coded_of_readCreated {response r : ProcessResult R} (hresponse : response.Coded)
    {a : Answer R} (h : readCreated response a = .ok r) : r.Coded := by
  unfold readCreated at h
  split at h <;> cases h
  · exact isCode_processingError
  · exact isCode_processingError
  · exact hresponse
  · exact hresponse
  · exact isCode_notFound

omit [LinearOrder R] in
lemma coded_of_readChanged {response r : ProcessResult R} (hresponse : response.Coded)
    {key failed : String} {a : Answer R} (h : readChanged response key failed a = .ok r) :
    r.Coded := by
  unfold readChanged at h
  split at h <;> cases h
  · exact isCode_processingError
  · exact isCode_processingError
  · exact hresponse
  · exact hresponse
  · exact isCode_notFound

omit [LinearOrder R] in
/-- A message is refused with a code, or asks its one query. -/
lemma returns_guarded {c : Prop} [Decidable c] {refused : ProcessResult R} {q : Query R}
    {read : Answer R → Except Fail (ProcessResult R)} (hrefused : refused.Coded)
    (hread : ∀ a r, read a = .ok r → r.Coded) :
    (if c then pure refused else askAndRead q read : Db R (ProcessResult R)).Returns
      ProcessResult.Coded := by
  split
  · exact .pure hrefused
  · exact returns_askAndRead hread

lemma returns_processCreateMessage (uuid : String) (m : SceneList R) :
    (processCreateMessage uuid m).Returns ProcessResult.Coded := by
  rw [processCreateMessage]
  cases m.scenes with
  | nil => exact .pure isCode_processingError
  | cons scn _ =>
      exact returns_guarded isCode_processingError fun _ _ =>
        coded_of_readCreated (by exact isCode_noError)

lemma returns_processUpdateMessage (m : SceneList R) :
    (processUpdateMessage m).Returns ProcessResult.Coded := by
  rw [processUpdateMessage]
  cases m.scenes with
  | nil => exact .pure isCode_processingError
  | cons scn _ =>
      exact returns_guarded isCode_insuffDataError fun _ _ =>
        coded_of_readChanged (by exact isCode_noError)

lemma returns_processDeleteMessage (m : SceneList R) :
    (processDeleteMessage m).Returns ProcessResult.Coded := by
  rw [processDeleteMessage]
  cases m.scenes with
  | nil => exact .pure isCode_processingError
  | cons scn _ =>
      exact returns_guarded isCode_insuffDataError fun _ _ =>
        coded_of_readChanged (by exact isCode_noError)

omit [LinearOrder R] in
/-- An error is a result that is passed on, with an empty return string. -/
lemma carried_setError (response : ProcessResult R) {errCode : ℤ} (h : IsCode errCode)
    (errDesc : String) : (response.setError errCode errDesc).Carried ∧
      (response.setError errCode errDesc).Cleared :=
  ⟨⟨h, nofun⟩, fun _ => rfl⟩

omit [LinearOrder R] in
lemma carried_of_readRetrieved {env : Env R} {r : ProcessResult R} {transactionId : String}
    {a : Answer R} (h : readRetrieved env {} transactionId a = .ok r) :
    r.Carried ∧ r.Cleared := by
  unfold readRetrieved at h
  split at h
  · cases h
  · cases h
    exact carried_setError _ isCode_processingError _
  · next rows =>
      cases hscenes : retrievedScenes env rows with
      | error e => rw [hscenes] at h; cases h
      | ok scenes =>
          rw [hscenes, bind_of_ok] at h
          split at h <;> cases h
          · exact ⟨⟨isCode_noError, fun _ => ⟨_, rfl, isCode_noError⟩⟩, nofun⟩
          · exact carried_setError _ isCode_notFound _

lemma returns_processRetrieveMessage (env : Env R) (m : SceneList R) :
    (processRetrieveMessage env m).Returns fun r => r.Carried ∧ r.Cleared := by
  rw [processRetrieveMessage]
  cases m.scenes with
  | nil => exact .pure (carried_setError _ isCode_processingError _)
  | cons scn _ =>
      dsimp only
      split
      · refine .handle (returns_askAndRead fun _ _ => carried_of_readRetrieved) fun e => ?_
        cases e with
        | exn what => exact .pure (carried_setError _ isCode_processingError _)
        | undefined => exact .fail _
      · exact .pure (carried_setError _ isCode_processingError _)

omit [LinearOrder R] in
lemma carried_of_readDeviceResult {env : Env R} {r : ProcessResult R}
    {transactionId deviceKey : String} {a : Answer R}
    (h : readDeviceResult env {} transactionId deviceKey a = .ok r) : r.Carried := by
  unfold readDeviceResult at h
  split at h
  · cases h
    exact (carried_setError _ isCode_processingError _).1
  · cases h
    exact (carried_setError _ isCode_processingError _).1
  · cases h
    exact (carried_setError _ isCode_notFound _).1
  · next n _ _ =>
      cases hdata : assignDeviceProperties env n.props { key := deviceKey } with
      | error e => rw [hdata] at h; cases h
      | ok data =>
          rw [hdata] at h
          cases h
          exact ⟨isCode_noError, fun _ => ⟨_, rfl, isCode_noError⟩⟩
  · cases h
    exact ⟨isCode_notFound, nofun⟩
  · cases h

omit [LinearOrder R] in
lemma returns_processDeviceGetMessage (env : Env R) (m : SceneList R) :
    (processDeviceGetMessage env m).Returns ProcessResult.Carried := by
  rw [processDeviceGetMessage]
  cases m.scenes with
  | nil => exact .pure (carried_setError _ isCode_processingError _).1
  | cons scn _ =>
      cases hdevices : scn.devices with
      | nil =>
          simp only [hdevices]
          exact .pure (carried_setError _ isCode_insuffDataError _).1
      | cons dev _ =>
          simp only [hdevices]
          exact returns_askAndRead fun _ _ => carried_of_readDeviceResult

/-! ### The results of the device messages -/

omit [Field R] [LinearOrder R] in
lemma returns_catching {α : Type} {P : α → Prop} {p : Db R α} {g : String → Db R α}
    (hp : p.Returns P) (hg : ∀ what, (g what).Returns P) : (catching p g).Returns P := by
  refine .handle hp fun e => ?_
  cases e with
  | exn what => exact hg what
  | undefined => exact .fail _

/-- The code of a registration can be written. -/
def Reg.Coded (r : Reg R) : Prop := IsCode r.currentErrCode

section Registration

variable {env : Env R} {m : SceneList R} {r : Reg R}

omit [LinearOrder R]

lemma returns_whenOk (hr : r.Coded) {block : Db R (Reg R)} (hblock : block.Returns Reg.Coded) :
    (r.whenOk block).Returns Reg.Coded := by
  rw [Reg.whenOk]
  split
  · exact hblock
  · exact .pure hr

lemma returns_attempt {block : Db R (Reg R)} (hblock : block.Returns Reg.Coded) :
    (r.attempt block).Returns Reg.Coded :=
  returns_catching hblock fun _ => .pure isCode_processingError

/-- A value that only goes into other variables. -/
lemma returns_bind_pure {α : Type} (p : Db R α) {f : α → Reg R} (hf : ∀ a, (f a).Coded) :
    (p >>= fun a => pure (f a)).Returns Reg.Coded :=
  .bind (.trivial p) fun a _ => .pure (hf a)

lemma coded_checkFields (what : String) : (checkFields m Reg.init what).Coded := by
  unfold checkFields
  split
  · exact isCode_insuffDataError
  · split
    · exact isCode_insuffDataError
    · exact isCode_noError

lemma returns_checkScene (hr : r.Coded) : (checkScene m r).Returns Reg.Coded :=
  returns_whenOk hr <| returns_attempt <| .bind (.trivial _) fun _ _ =>
    returns_bind_pure _ fun _ => hr

lemma returns_chooseKey (uuids : Uuids) (hr : r.Coded) :
    (chooseKey uuids m r).Returns Reg.Coded := by
  refine returns_whenOk hr <| .bind (.trivial _) fun scn _ => .bind (.trivial _) fun dev _ => ?_
  split
  · dsimp only
    split
    · exact .pure isCode_processingError
    · exact .pure hr
  · exact .pure hr

lemma returns_findRegistrations (hr : r.Coded) : (findRegistrations env r).Returns Reg.Coded := by
  refine .bind (returns_whenOk hr <| returns_attempt <| returns_bind_pure _ fun _ => hr)
    fun r hr => ?_
  split
  · exact .pure hr
  · exact .pure hr

/-- The search for a path, along the scenes that are left. -/
lemma returns_searchPaths (scns : List (SceneDocument R)) (deleted : Bool) (hr : r.Coded) :
    (searchPaths env m scns deleted r).Returns Reg.Coded := by
  induction scns generalizing deleted r with
  | nil => exact .pure hr
  | cons scn scns ih =>
      refine .bind (.trivial _) fun found _ => ?_
      cases found with
      | error what =>
          dsimp only
          split
          · exact .fail _
          · exact ih deleted isCode_processingError
      | ok stResult =>
          dsimp only
          split
          · exact .pure hr
          · exact ih true hr

lemma returns_findTransform (hr : r.Coded) : (findTransform env m r).Returns Reg.Coded := by
  rw [findTransform]
  dsimp only
  split
  · split
    · exact returns_searchPaths _ _ hr
    · exact .fail _
  · exact .pure hr

lemma returns_createLink (hr : r.Coded) : (createLink env m r).Returns Reg.Coded := by
  rw [createLink]
  split
  · refine returns_attempt <| .bind (.trivial _) fun scn _ => .bind (.trivial _) fun dev _ => ?_
    exact returns_bind_pure _ fun _ => hr
  · exact .pure hr

lemma returns_linkNewScene (hr : r.Coded) : (linkNewScene env m r).Returns Reg.Coded := by
  rw [linkNewScene]
  split
  · exact returns_bind_pure _ fun _ => hr
  · exact .pure hr

lemma errCode_addEventInfo {cfg : Config} {resp resp' : SceneList R}
    (h : addEventInfo cfg resp = .ok resp') : resp'.errCode = resp.errCode := by
  unfold addEventInfo at h
  split at h
  · obtain ⟨found, -, h⟩ := exists_of_bind_ok h
    cases found with
    | none => cases h; rfl
    | some found =>
        obtain ⟨port, -, h⟩ := exists_of_bind_ok h
        cases h
        rfl
  · cases h
    rfl

lemma carried_registrationResponse {cfg : Config} {result : ProcessResult R} (hr : r.Coded)
    (h : registrationResponse cfg m r = .ok result) : result.Carried := by
  obtain ⟨scn, -, h⟩ := exists_of_bind_ok h
  dsimp only at h
  split at h
  · obtain ⟨resp, hresp, h⟩ := exists_of_bind_ok h
    obtain ⟨resp', hinfo, h⟩ := exists_of_bind_ok h
    obtain rfl := Except.ok.inj h
    obtain rfl := Except.ok.inj hresp
    refine ⟨isCode_noError, fun _ => ⟨_, rfl, ?_⟩⟩
    show IsCode resp'.errCode
    exact (errCode_addEventInfo hinfo).symm ▸ hr
  · cases h
    exact ⟨isCode_noError, fun _ => ⟨_, rfl, hr⟩⟩

end Registration

lemma returns_enterScene {env : Env R} (uuids : Uuids) {m : SceneList R} {r : Reg R}
    (hr : r.Coded) : (enterScene env uuids m r).Returns Reg.Coded := by
  refine returns_whenOk hr ?_
  split
  · refine .bind (.trivial _) fun response _ => ?_
    split
    · exact .pure isCode_processingError
    · exact .pure hr
  · exact returns_attempt <| .bind (.trivial _) fun scn _ => returns_bind_pure _ fun _ => hr

lemma returns_processRegistrationMessage (env : Env R) (cfg : Config) (uuids : Uuids)
    (m : SceneList R) :
    (processRegistrationMessage env cfg uuids m).Returns ProcessResult.Carried :=
  .bind (returns_checkScene (coded_checkFields _)) fun _ hr =>
  .bind (returns_chooseKey uuids hr) fun _ hr =>
  .bind (returns_enterScene uuids hr) fun _ hr =>
  .bind (returns_findRegistrations hr) fun _ hr =>
  .bind (returns_findTransform hr) fun _ hr =>
  .bind (returns_createLink hr) fun _ hr =>
  .bind (returns_linkNewScene hr) fun _ hr =>
  .lift fun _ => carried_registrationResponse hr

omit [LinearOrder R] in
/-- A response in the form of a string. -/
lemma carried_buildStringResponse (msgType : ℤ) {errCode : ℤ} (h : IsCode errCode)
    (errMsg tranId sceneId : String) :
    (buildStringResponse msgType errCode errMsg tranId sceneId : ProcessResult R).Carried :=
  ⟨isCode_noError, fun _ => ⟨_, rfl, h⟩⟩

omit [LinearOrder R] in
lemma returns_processDeregistrationMessage (m : SceneList R) :
    (processDeregistrationMessage m).Returns ProcessResult.Carried := by
  have hfields : IsCode (fieldErrs m "registration").currentErrCode :=
    coded_checkFields (m := m) "registration"
  have hresponse : ∀ e : Errs, IsCode e.currentErrCode →
      (Prog.lift (m.getScene 0) >>= fun scn => pure (buildStringResponse sceneLeave
        e.currentErrCode e.currentErrMsg m.transactionId scn.key) :
          Db R (ProcessResult R)).Returns ProcessResult.Carried := fun e he =>
    .bind (.trivial _) fun scn _ => .pure (carried_buildStringResponse _ he _ _ _)
  unfold processDeregistrationMessage
  dsimp only
  split
  · refine .bind (returns_catching ?_ fun _ => .pure isCode_processingError) hresponse
    exact .bind (.trivial _) fun scn _ => .bind (.trivial _) fun dev _ =>
      .bind (.trivial _) fun _ _ => .pure hfields
  · exact hresponse _ hfields

/-- The code of an alignment can be written. -/
def Align.Coded (a : Align R) : Prop := IsCode a.currentErrCode

section Alignment

variable {env : Env R} {m : SceneList R} {a : Align R}

omit [LinearOrder R]

/-- A block that is run while there is no error, in a `try`. -/
lemma returns_whenOk_attempt (ha : a.Coded) {block : Db R (Align R)}
    (hblock : block.Returns Align.Coded) :
    (a.whenOk (a.attempt block)).Returns Align.Coded := by
  rw [Align.whenOk]
  split
  · exact returns_catching hblock fun _ => .pure isCode_processingError
  · exact .pure ha

lemma returns_updateRegistration (ha : a.Coded) :
    (updateRegistration env m a).Returns Align.Coded :=
  returns_whenOk_attempt ha <| .bind (.trivial _) fun _ _ => .bind (.trivial _) fun _ _ =>
    .bind (.trivial _) fun _ _ => .pure ha

lemma coded_checkFound (ha : a.Coded) : (checkFound a).Coded := by
  rw [checkFound]
  split
  · exact isCode_notFound
  · exact ha

lemma returns_findAligned (ha : a.Coded) : (findAligned env m a).Returns Align.Coded :=
  returns_whenOk_attempt ha <| .bind (.trivial _) fun _ _ => .bind (.trivial _) fun _ _ =>
    .bind (.trivial _) fun _ _ => .pure ha

lemma returns_linkAligned (ha : a.Coded) : (linkAligned env m a).Returns Align.Coded :=
  returns_whenOk_attempt ha <| .bind (.trivial _) fun _ _ => .pure ha

lemma returns_processDeviceAlignmentMessage (env : Env R) (m : SceneList R) :
    (processDeviceAlignmentMessage env m).Returns ProcessResult.Carried :=
  .bind (returns_updateRegistration (coded_checkFields (R := R) (m := m) "alignment")) fun _ ha =>
  .bind (returns_findAligned (coded_checkFound ha)) fun _ ha =>
  .bind (returns_linkAligned ha) fun _ ha =>
  .bind (.trivial _) fun _ _ => .pure (carried_buildStringResponse _ ha _ _ _)

end Alignment

/-! ### The bodies of the handlers -/

section Handlers

variable (written : SceneList R → String) {env : Env R} (unset : ℤ)
  (parse : String → Option (Json.Value R))

/-- A message in its written form is read as its copy. -/
lemma conveys_msg_iff (result : ProcessResult R) {m : SceneList R} (hm : IsCode m.errCode) :
    Conveys env.glm unset parse result (.msg m) ↔
      (result.successful = false →
        m.errCode = result.errCode ∧ Json.cstr m.errMsg = Json.cstr result.errDesc) ∧
      (result.successful = true →
        m.errCode = noError ∨ ∃ own, result.message? = some own ∧ m.errCode = own.errCode) := by
  have hcode : (m.copy env.glm).errCode = m.errCode := getInt_uint hm.1 hm.2 _
  constructor
  · rintro ⟨doc, m', hdoc, -, hm', h⟩
    obtain rfl := Option.some.inj hdoc
    rw [ofDocument_write] at hm'
    obtain rfl := Except.ok.inj hm'
    rwa [hcode] at h
  · intro h
    refine ⟨_, _, rfl, rfl, ofDocument_write env.glm unset m, ?_⟩
    rwa [hcode]

/-- The message that a handler builds itself. -/
lemma conveys_responseBody {result : ProcessResult R} (hresult : result.Coded) (msgType : ℤ) :
    Conveys env.glm unset parse result (.msg (responseBody written msgType result)) := by
  have hcode : IsCode (responseBody written msgType result).errCode := by
    rw [responseBody]
    split
    · exact isCode_noError
    · exact hresult
  rw [conveys_msg_iff unset parse result hcode]
  cases h : result.successful with
  | false => simp [responseBody, h]
  | true => simp [responseBody, h]

/-- The message that a result carries. -/
lemma conveys_returnStr {result : ProcessResult R} (hresult : result.Carried)
    (h : result.successful = true) : Conveys env.glm unset parse result result.returnStr := by
  obtain ⟨m, hm, hcode⟩ := hresult.2 h
  rw [hm, conveys_msg_iff unset parse result hcode]
  exact ⟨fun h' => absurd h (by simp [h']),
    fun _ => Or.inr ⟨m, by rw [ProcessResult.message?, hm], rfl⟩⟩

/-- An empty body conveys nothing. -/
lemma not_conveys_empty (hparse : parse "" = none) (result : ProcessResult R) :
    ¬ Conveys env.glm unset parse result (.str "") := by
  rintro ⟨doc, m, hdoc, -⟩
  exact absurd (hparse.symm.trans hdoc) nofun

/-- The answer to a body that is not parsed is a message too, with the text of the
parse error. -/
lemma exists_parseErrorResponse (glm : Glm R) (msgType : ℤ) (what : String) :
    ∃ doc m, (parseErrorResponse msgType what).body.document glm unset parse = some doc ∧
      ofDocument glm doc = .ok m ∧ m.errCode = translationError ∧ m.errMsg = Json.cstr what :=
  ⟨_, _, rfl, ofDocument_write glm unset _,
    getInt_uint (R := R) (n := translationError) (by decide) (by decide) noError, rfl⟩

/-- The results of a message by its type: those of a type that is passed on can be
passed on. -/
lemma returns_process (cfg : Config) (uuids : Uuids) (msgType : ℤ) (inputId : String)
    (m : SceneList R) :
    (SceneBaseRequestHandler.process env cfg uuids msgType inputId m).Returns fun r =>
      r.Coded ∧ (SceneBaseRequestHandler.passesOn msgType → r.Carried) := by
  have hcarried : ∀ {p : Db R (ProcessResult R)}, p.Returns ProcessResult.Carried →
      p.Returns fun r => r.Coded ∧ (SceneBaseRequestHandler.passesOn msgType → r.Carried) :=
    fun hp => hp.mono fun _ hr => ⟨hr.1, fun _ => hr⟩
  unfold SceneBaseRequestHandler.process
  dsimp only
  split
  · exact hcarried (returns_processRegistrationMessage ..)
  split
  · exact hcarried (returns_processDeregistrationMessage _)
  split
  · next hcrt =>
      refine (returns_processCreateMessage _ _).mono fun _ hr => ⟨hr, fun hpasses => ?_⟩
      rw [hcrt] at hpasses
      exact absurd hpasses (by decide)
  split
  · exact hcarried ((returns_processRetrieveMessage ..).mono fun _ hr => hr.1)
  split
  · exact hcarried (returns_processDeviceAlignmentMessage ..)
  split
  · exact hcarried (returns_processDeviceGetMessage ..)
  · exact .fail _

/-- Every handler conveys every result to the client, but for the failed ones of a
scene that is retrieved by its key. -/
theorem conveyed_iff (hparse : parse "" = none) (cfg : Config) (uuids : Uuids)
    (doc : Json.Value R) (handler : Handler) {x : Exchange R}
    (hx : handler.exchange written env cfg uuids doc = some x) :
    x.ask.Returns fun result =>
      Conveys env.glm unset parse result (x.respond result).body ↔
        ((∃ key principal, handler = .sceneKey key sceneGet principal) →
          result.successful = true) := by
  cases handler with
  | sceneBase msgType principal id =>
      obtain rfl := Option.some.inj hx
      refine .bind (.trivial _) fun m _ =>
        (returns_process cfg uuids msgType id m).mono fun result hresult => ?_
      refine iff_of_true ?_ (by rintro ⟨key, principal, ⟨⟩⟩)
      show Conveys env.glm unset parse result (if _ then _ else _)
      split
      · next h => exact conveys_returnStr unset parse (hresult.2 h.2) h.1
      · exact conveys_responseBody written unset parse hresult.1 msgType
  | sceneUpdate key principal =>
      obtain rfl := Option.some.inj hx
      refine .bind (.trivial _) fun m _ =>
        (returns_processUpdateMessage _).mono fun result hresult => ?_
      refine iff_of_true ?_ (by rintro ⟨key, principal, ⟨⟩⟩)
      exact conveys_responseBody written unset parse hresult sceneUpd
  | sceneKey key msgType principal =>
      obtain rfl := Option.some.inj hx
      show (SceneKeyRequestHandler.process env key msgType).Returns _
      unfold SceneKeyRequestHandler.process
      split
      · next hdel =>
          subst hdel
          refine (returns_processDeleteMessage _).mono fun result hresult => ?_
          refine iff_of_true ?_ (by rintro ⟨key, principal, ⟨⟩⟩)
          exact conveys_responseBody written unset parse hresult sceneDel
      split
      · next hget =>
          subst hget
          refine (returns_processRetrieveMessage env _).mono fun result hresult => ?_
          show Conveys env.glm unset parse result result.returnStr ↔ _
          refine ⟨fun h _ => ?_, fun h => conveys_returnStr unset parse hresult.1 (h ⟨_, _, rfl⟩)⟩
          by_contra hfailed
          rw [hresult.2 (Bool.eq_false_iff.mpr hfailed)] at h
          exact not_conveys_empty unset parse hparse result h
      · exact .fail _
  | assetUpdate scene asset msgType =>
      obtain rfl := Option.some.inj hx
      refine (returns_processUpdateMessage _).mono fun result hresult => ?_
      refine iff_of_true ?_ (by rintro ⟨key, principal, ⟨⟩⟩)
      exact conveys_responseBody written unset parse hresult sceneUpd
  | cacheUpdate msgType key => cases hx
  | heartbeat => cases hx

end Handlers

end Responses

/-- A scene that is retrieved by its key. -/
theorem conveyed_lobby :
    (SceneKeyRequestHandler.exchange (fun _ => "") plainEnv "lobby" sceneGet).ask.Returns
      fun result =>
        Conveys plainEnv.glm 0 (fun _ => none) result
            ((SceneKeyRequestHandler.exchange (fun _ => "") plainEnv "lobby" sceneGet).respond
              result).body ↔
          ((∃ key principal, Handler.sceneKey "lobby" sceneGet "" =
              .sceneKey key sceneGet principal) → result.successful = true) :=
  conveyed_iff (fun _ => "") 0 (fun _ => none) rfl plainCfg ⟨"", ""⟩ .null
    (.sceneKey "lobby" sceneGet "") rfl

/-- Where there is no such scene, the body is empty. -/
theorem not_all_conveyed :
    ¬ ∀ (handler : Handler) (doc : Json.Value ℚ) (x : Exchange ℚ),
      handler.exchange (fun _ => "") plainEnv plainCfg ⟨"", ""⟩ doc = some x →
        x.ask.Returns fun result =>
          Conveys plainEnv.glm 0 (fun _ => none) result (x.respond result).body := by
  intro h
  have hlobby := h (.sceneKey "lobby" sceneGet "") .null _ rfl
  have hrun := hlobby.run (fun _ s => (.rows [], s)) (s := ())
    (a := ({} : ProcessResult ℚ).setError notFound "Document not found") rfl
  exact not_conveys_empty 0 (fun _ => none) rfl _ hrun

end CrazyIvan
