import CrazyIvan.Network.Alignment

/-!
When a device message returns a result at all.

* `Returns`, `Safe`: a result, and an outcome that is at worst an exception, which
  a `try` can catch.
* `Documented`: what the driver can answer a query with.
* `messages_return_iff`: the messages that return a result, against any store
  whose answers are documented.
-/

namespace CrazyIvan

open Cypher Resumption

/-! ### Outcomes -/

section Outcomes

variable {α β : Type}

/-- A result is returned. -/
def Returns (r : Except Fail α) : Prop := ∃ a, r = .ok a

lemma not_returns_error (e : Fail) : ¬ Returns (.error e : Except Fail α) := by rintro ⟨_, ⟨⟩⟩

lemma Returns.bind {r : Except Fail α} {f : α → Except Fail β} (hr : Returns r)
    (hf : ∀ a, r = .ok a → Returns (f a)) : Returns (r >>= f) := by
  obtain ⟨a, rfl⟩ := hr
  exact hf a rfl

/-- A result with `P`, or an exception. -/
def Safe (P : α → Prop) : Except Fail α → Prop
  | .ok a => P a
  | .error e => e ≠ .undefined

namespace Safe

variable {P : α → Prop} {P' : β → Prop} {r : Except Fail α}

lemma mono {Q : α → Prop} (hr : Safe P r) (h : ∀ a, P a → Q a) : Safe Q r := by
  cases r with
  | ok a => exact h a hr
  | error e => exact hr

lemma bind {f : α → Except Fail β} (hr : Safe P r) (hf : ∀ a, P a → Safe P' (f a)) :
    Safe P' (r >>= f) := by
  cases r with
  | ok a => exact hf a hr
  | error e => exact hr

end Safe

end Outcomes

section Answers

variable {R : Type} (env : Env R)

/-! ### What the driver answers -/

/-- Properties of these types, or a driver that throws on others. -/
def Readable (ps : Props R) : Prop := Typed ps ∨ ∃ what, env.mistyped = .exn what

/-- A row of a result has a column and readable properties. That of a registration
is a scene, a relationship and a device with a key. -/
structure DocumentedRow (q : Query R) (row : List (Binding R)) : Prop where
  columns : row ≠ []
  readable : ∀ b ∈ row, ∀ ps, elementProps b = some ps → Readable env ps
  registration : ∀ dk, q = getRegistrationsQuery dk →
    ∃ scn tr ud, row = [.node scn, .rel tr, .node ud] ∧ (ud.props "key").isSome

/-- No result, an exception, or documented rows. -/
def Documented (q : Query R) (a : Answer R) : Prop :=
  ∀ rows, a = .rows rows → ∀ row ∈ rows, DocumentedRow env q row

/-! ### Reading it -/

variable {env}

lemma safe_readElement {α : Type} {get : Value R → Except Fail α} {map : Props R}
    {name : String} (h : ∀ v, map name = some v → Safe (fun _ => True) (get v)) (current : α) :
    Safe (fun _ => True) (readElement get map name current) := by
  rw [readElement]
  cases hv : map name with
  | none => trivial
  | some v => exact h v hv

namespace Readable

variable {ps : Props R} (h : Readable env ps)
include h

lemma str (name : String)
    (hname : name ∈ ["key", "name", "region", "description", "user", "thumbnail"])
    (current : String) :
    Safe (fun _ => True) (readElement env.getStringElement ps name current) := by
  refine safe_readElement (fun v hv => ?_) current
  rcases h with h | ⟨what, h⟩
  · obtain ⟨s, rfl⟩ := (typed_iff.mp h name v hv).1 hname
    trivial
  · cases v <;> simp [Safe, Env.getStringElement, h]

lemma num (name : String)
    (hname : name ∈ ["latitude", "longitude", "translation_x", "translation_y", "translation_z",
      "rotation_x", "rotation_y", "rotation_z"]) (current : R) :
    Safe (fun _ => True) (readElement env.getFloatElement ps name current) := by
  refine safe_readElement (fun v hv => ?_) current
  rcases h with h | ⟨what, h⟩
  · obtain ⟨x, rfl⟩ := (typed_iff.mp h name v hv).2.1 hname
    trivial
  · cases v <;> simp [Safe, Env.getFloatElement, h]

lemma bool (current : Bool) :
    Safe (fun _ => True) (readElement env.getBoolElement ps "active" current) := by
  refine safe_readElement (fun v hv => ?_) current
  rcases h with h | ⟨what, h⟩
  · obtain ⟨b, rfl⟩ := (typed_iff.mp h _ v hv).2.2.1 rfl
    trivial
  · cases v <;> simp [Safe, Env.getBoolElement, h]

lemma strs (name : String) (hname : name ∈ ["assets", "tags"]) (current : List String) :
    Safe (fun _ => True) (readElement env.getListElement ps name current) := by
  refine safe_readElement (fun v hv => ?_) current
  rcases h with h | ⟨what, h⟩
  · obtain ⟨l, rfl⟩ := (typed_iff.mp h name v hv).2.2.2 hname
    trivial
  · cases v <;> simp [Safe, Env.getListElement, h]

end Readable

/-- An answer, by its first value. -/
lemma Documented.head {q : Query R} {a : Answer R} (h : Documented env q a) :
    (∃ what, a = .throw what) ∨ a = .null ∨ a = .rows [] ∨
      ∃ b row rows, a = .rows ((b :: row) :: rows) := by
  cases a with
  | throw what => exact .inl ⟨what, rfl⟩
  | null => exact .inr (.inl rfl)
  | rows rows =>
      cases rows with
      | nil => exact .inr (.inr (.inl rfl))
      | cons row rows =>
          cases row with
          | nil => exact absurd rfl (h _ rfl [] (by simp)).columns
          | cons b row => exact .inr (.inr (.inr ⟨b, row, rows, rfl⟩))

lemma Documented.readSceneExists {q : Query R} {a : Answer R} (h : Documented env q a) :
    Safe (fun _ => True) (readSceneExists a) := by
  obtain ⟨what, rfl⟩ | rfl | rfl | ⟨b, row, rows, rfl⟩ := h.head
  · simp [Safe, CrazyIvan.readSceneExists, queryException]
  · trivial
  · trivial
  · cases b <;> trivial

lemma Documented.readUpdated {q : Query R} {a : Answer R} (h : Documented env q a) :
    Safe (fun _ => True) (readUpdated a) := by
  obtain ⟨what, rfl⟩ | rfl | rfl | ⟨b, row, rows, rfl⟩ := h.head
  · simp [Safe, CrazyIvan.readUpdated, queryException]
  · trivial
  · trivial
  · cases b <;> trivial

lemma Documented.readWritten {q : Query R} {a : Answer R} (h : Documented env q a)
    (text noResult noTree noValue : String) :
    Safe (fun _ => True) (readWritten text noResult noTree noValue a) := by
  obtain ⟨what, rfl⟩ | rfl | rfl | ⟨b, row, rows, rfl⟩ := h.head
  · simp [Safe, CrazyIvan.readWritten, queryException]
  · simp [Safe, CrazyIvan.readWritten, queryException]
  · simp [Safe, CrazyIvan.readWritten, queryException]
  · cases b <;> simp [Safe, CrazyIvan.readWritten, queryException]

lemma Documented.readSceneLink {q : Query R} {a : Answer R} (h : Documented env q a)
    (k₁ k₂ : String) : Safe (fun _ => True) (readSceneLink env k₁ k₂ a) := by
  obtain ⟨what, rfl⟩ | rfl | rfl | ⟨b, row, rows, rfl⟩ := h.head
  · trivial
  · trivial
  · trivial
  · cases b with
    | rel r =>
        have hread := ((h _ rfl _ List.mem_cons_self).readable (.rel r) (by simp) _ rfl).str
          "key" (by simp) ""
        rw [readElement] at hread
        rw [CrazyIvan.readSceneLink]
        cases hkey : r.props "key" with
        | none => trivial
        | some v =>
            rw [hkey] at hread
            exact Safe.bind hread fun key _ => by split_ifs <;> trivial
    | node n | path p | value v => trivial

lemma Documented.readUdRegistered {q : Query R} {a : Answer R} (h : Documented env q a)
    (dk : String) : Safe (fun _ => True) (readUdRegistered env dk a) := by
  have hscan : ∀ rows : List (List (Binding R)), (∀ row ∈ rows, DocumentedRow env q row) →
      ∀ found, Safe (fun _ => True) (scanDevices env dk rows found) := by
    intro rows
    induction rows with
    | nil => exact fun _ _ => trivial
    | cons row rows ih =>
        intro hrows found
        have hrow := hrows row (by simp)
        match row, hrow with
        | [], hrow => exact absurd rfl hrow.columns
        | .node n :: _, hrow =>
            exact ((hrow.readable (.node n) (by simp) _ rfl).str "key" (by simp) "").bind
              fun key _ => ih (fun row hrow => hrows row (by simp [hrow])) _
        | .rel _ :: _, _ | .path _ :: _, _ | .value _ :: _, _ => trivial
  cases a with
  | throw what => trivial
  | null => trivial
  | rows rows => exact hscan rows (h rows rfl) false

end Answers

section Failures

variable {R : Type} [Field R] {env : Env R}

lemma Readable.assignSceneProperties {ps : Props R} (h : Readable env ps)
    (data : SceneDocument R) :
    Safe (fun s => s.devices = data.devices) (assignSceneProperties env ps data) :=
  (h.str "key" (by simp) _).bind fun _ _ =>
  (h.str "name" (by simp) _).bind fun _ _ =>
  (h.str "region" (by simp) _).bind fun _ _ =>
  (h.str "description" (by simp) _).bind fun _ _ =>
  (h.str "user" (by simp) _).bind fun _ _ =>
  (h.str "thumbnail" (by simp) _).bind fun _ _ =>
  (h.num "latitude" (by simp) _).bind fun _ _ =>
  (h.bool _).bind fun _ _ =>
  (h.num "longitude" (by simp) _).bind fun _ _ =>
  (h.strs "assets" (by simp) _).bind fun _ _ =>
  (h.strs "tags" (by simp) _).bind fun _ _ => rfl

lemma Readable.edgeValues {r : Rel R} (h : Readable env r.props) :
    Safe (fun _ => True) (edgeValues env (.rel r)) :=
  (h.num "translation_x" (by simp) _).bind fun _ _ =>
  (h.num "translation_y" (by simp) _).bind fun _ _ =>
  (h.num "translation_z" (by simp) _).bind fun _ _ =>
  (h.num "rotation_x" (by simp) _).bind fun _ _ =>
  (h.num "rotation_y" (by simp) _).bind fun _ _ =>
  (h.num "rotation_z" (by simp) _).bind fun _ _ => trivial

/-- A scene whose first device has a transform. -/
def Placed (s : SceneDocument R) : Prop := Returns (s.getDevice 0 >>= UserDevice.transform)

/-- A registration is read with the transform of its device. -/
lemma safe_registrationRow {q : Query R} {scn : Node R} {tr : Rel R} {ud : Node R}
    (h : DocumentedRow env q [.node scn, .rel tr, .node ud]) (hkey : (ud.props "key").isSome) :
    Safe Placed (registrationRow env scn.props (.rel tr) (.node ud)) := by
  have hud : Readable env ud.props := h.readable (.node ud) (by simp) _ rfl
  obtain ⟨v, hv⟩ := Option.isSome_iff_exists.mp hkey
  rw [registrationRow]
  refine ((h.readable (.node scn) (by simp) _ rfl).assignSceneProperties {}).bind
    fun newData hnew => (h.readable (.rel tr) (by simp) _ rfl).edgeValues.bind fun values _ => ?_
  have hget := hud.str "key" (by simp) ""
  rw [readElement, hv] at hget
  dsimp only
  rw [hv]
  refine hget.bind fun key _ => ?_
  obtain ⟨t, ht⟩ : ∃ t, placeDevice env { key, trans := some Transform.new } values.1 values.2 =
      .ok { key, trans := some t } := ⟨_, rfl⟩
  rw [ht]
  exact ⟨t, by simp [SceneDocument.getDevice, SceneDocument.addDevice, hnew]; rfl⟩

/-- One scene for each row. The induction is on the rows. -/
lemma safe_registrationRows {dk : String} {rows : List (List (Binding R))}
    (h : ∀ row ∈ rows, DocumentedRow env (getRegistrationsQuery dk) row) :
    Safe (fun scns => scns.length = rows.length ∧ ∀ s ∈ scns, Placed s)
      (registrationRows env rows) := by
  induction rows with
  | nil => exact ⟨rfl, by simp⟩
  | cons row rows ih =>
      have hrow := h row (by simp)
      obtain ⟨scn, tr, ud, rfl, hkey⟩ := hrow.registration dk rfl
      refine (safe_registrationRow hrow hkey).bind fun s hs =>
        (ih fun row hrow => h row (by simp [hrow])).bind fun scns hscns => ?_
      exact ⟨by simp [hscns.1], List.forall_mem_cons.mpr ⟨hs, hscns.2⟩⟩

/-- The registrations are read if there are any. -/
lemma Documented.readRegistrations {dk : String} {a : Answer R}
    (h : Documented env (getRegistrationsQuery dk) a) :
    Safe (fun regs => (∀ m ∈ regs, ∀ s ∈ m.scenes, Placed s) ∧
      (regs.isSome ↔ ∃ row rows, a = .rows (row :: rows))) (readRegistrations env a) := by
  cases a with
  | throw what => exact ⟨by simp, by simp⟩
  | null => exact ⟨by simp, by simp⟩
  | rows rows =>
      refine (safe_registrationRows (h rows rfl)).bind fun scns hscns => ?_
      cases rows with
      | nil =>
          rw [if_pos (show scns.length = 0 from hscns.1)]
          exact ⟨by simp, by simp⟩
      | cons row rows =>
          rw [if_neg (by rw [hscns.1]; simp)]
          exact ⟨by rintro m ⟨rfl⟩; exact hscns.2, by simp⟩

/-- Without a row there is no list. -/
lemma readRegistrations_eq_none {a : Answer R} (h : ¬ ∃ row rows, a = .rows (row :: rows)) :
    readRegistrations env a = .ok none := by
  match a with
  | .throw _ | .null | .rows [] => rfl
  | .rows (row :: rows) => exact absurd ⟨row, rows, rfl⟩ h

/-! ### The links of an alignment -/

omit [Field R] in
lemma ends_askAndRead {α : Type} {q : Query R} {read : Answer R → Except Fail α}
    {E : Except Fail α → Prop} (h : ∀ a, Documented env q a → E (read a)) :
    (askAndRead q read).Ends (Documented env) E := h

lemma ends_processUDUDScene {scene1 scene2 : SceneDocument R} (h₁ : Placed scene1)
    (h₂ : Placed scene2) :
    (processUDUDScene env scene1 scene2).Ends (Documented env) (Safe fun _ => True) := by
  obtain ⟨origin, horigin⟩ := h₁
  obtain ⟨dest, hdest⟩ := h₂
  rw [processUDUDScene]
  split_ifs
  · trivial
  · rw [horigin, Prog.ok_bind, hdest, Prog.ok_bind]
    refine Prog.Ends.bind (E := Safe fun _ => True)
      (ends_askAndRead fun a ha => ha.readSceneLink _ _) (fun e he => he) fun results _ => ?_
    split_ifs
    · exact ends_askAndRead fun a ha => ha.readWritten ..
    · exact ends_askAndRead fun a ha => ha.readWritten ..
    · exact ends_askAndRead fun a ha => ha.readWritten ..
    · trivial

lemma ends_processUDUDScenes {scene2 : SceneDocument R} (h₂ : Placed scene2)
    {scns : List (SceneDocument R)} (h : ∀ s ∈ scns, Placed s) :
    (processUDUDScenes env scene2 scns).Ends (Documented env) (Safe fun _ => True) := by
  induction scns with
  | nil => trivial
  | cons s scns ih =>
      exact Prog.Ends.bind (ends_processUDUDScene (h s (by simp)) h₂) (fun e he => he)
        fun _ _ => ih fun s hs => h s (by simp [hs])

omit [Field R] in
/-- A block in a `try` returns if it is safe. -/
lemma ends_catching {α : Type} {p : Db R α} {g : String → Db R α}
    (hp : p.Ends (Documented env) (Safe fun _ => True))
    (hg : ∀ what, (g what).Ends (Documented env) Returns) :
    (catching p g).Ends (Documented env) Returns :=
  hp.handle (fun e he => match e, he with
    | .exn what, _ => hg what
    | .undefined, he => absurd rfl he) fun a _ => ⟨a, rfl⟩

/-! ### Registrations -/

/-- The cluster is asked without an exception, and the port of an instance is a
number. -/
def Config.Serves (cfg : Config) : Prop :=
  ∃ found, cfg.clymanInstance = .ok found ∧ ∀ i ∈ found, Returns (stoi i.2)

variable {m : SceneList R} {scn : SceneDocument R} {rest : List (SceneDocument R)}
  {dev : UserDevice R} {devs : List (UserDevice R)}

lemma returns_addEventInfo {cfg : Config} (h : cfg.Serves) (resp : SceneList R) :
    Returns (addEventInfo cfg resp) := by
  obtain ⟨found, hfound, hport⟩ := h
  rw [addEventInfo, hfound]
  split_ifs
  · refine Returns.bind ⟨found, rfl⟩ fun found' hfound' => ?_
    obtain rfl := Except.ok.inj hfound'
    cases found with
    | none => exact ⟨_, rfl⟩
    | some i => exact (hport i rfl).bind fun port _ => ⟨_, rfl⟩
  · exact ⟨_, rfl⟩

lemma ends_refuse (cfg : Config) (hscn : m.scenes = scn :: rest) {errCode : ℤ}
    (hcode : errCode ≠ noError) (errMsg : String) :
    (refuse cfg m errCode errMsg).Ends (Documented env) Returns := by
  show Returns (registrationResponse cfg m (Reg.init.fail errCode errMsg))
  rw [registrationResponse, getScene_zero hscn]
  refine Returns.bind ⟨scn, rfl⟩ fun _ _ => ?_
  rw [if_neg (show ¬ (Reg.init.fail errCode errMsg : Reg R).currentErrCode = noError from hcode)]
  exact ⟨_, rfl⟩

lemma returns_respond {cfg : Config} (hcfg : cfg.Serves) (hscn : m.scenes = scn :: rest)
    (dk : String) : Returns (registrationResponse cfg m (registered env dk)) := by
  rw [registrationResponse, getScene_zero hscn]
  refine Returns.bind ⟨scn, rfl⟩ fun _ _ => ?_
  rw [if_pos (show (registered env dk).currentErrCode = noError from rfl)]
  exact Returns.bind ⟨_, rfl⟩ fun resp _ =>
    (returns_addEventInfo hcfg resp).bind fun _ _ => ⟨_, rfl⟩

lemma ends_orRefuse {α : Type} (cfg : Config) (hscn : m.scenes = scn :: rest)
    {result : Except Fail α} (hresult : Safe (fun _ => True) result)
    {next : α → Db R (ProcessResult R)}
    (hnext : ∀ a, (next a).Ends (Documented env) Returns) :
    (orRefuse cfg m result next).Ends (Documented env) Returns := by
  match result, hresult with
  | .ok a, _ => exact hnext a
  | .error (.exn what), _ => exact ends_refuse cfg hscn (by decide) what
  | .error .undefined, h => exact absurd rfl h

lemma ends_linkDevice {cfg : Config} (hcfg : cfg.Serves) (uuids : Uuids)
    (hscn : m.scenes = scn :: rest) (alreadyRegistered : Bool) :
    (linkDevice env cfg uuids m scn dev alreadyRegistered).Ends (Documented env) Returns := by
  intro a ha
  refine ends_orRefuse cfg hscn (ha.readRegistrations.mono fun _ _ => trivial) fun _ => ?_
  split_ifs
  · exact returns_respond hcfg hscn _
  · exact fun _ _ => returns_respond hcfg hscn _

variable [LinearOrder R]

lemma ends_processCreateMessage (uuid : String) (m : SceneList R) :
    (processCreateMessage uuid m).Ends (Documented env) Returns := by
  rw [processCreateMessage]
  split
  · dsimp only
    split_ifs
    · exact ⟨_, rfl⟩
    · refine ends_askAndRead fun a ha => ?_
      obtain ⟨what, rfl⟩ | rfl | rfl | ⟨b, row, rows, rfl⟩ := ha.head
      · exact ⟨_, rfl⟩
      · exact ⟨_, rfl⟩
      · exact ⟨_, rfl⟩
      · cases b <;> exact ⟨_, rfl⟩
  · exact ⟨_, rfl⟩

lemma ends_registration {cfg : Config} (hcfg : cfg.Serves) (uuids : Uuids)
    (hscn : m.scenes = scn :: rest) :
    (registration env cfg uuids m scn dev).Ends (Documented env) Returns := by
  intro a ha
  refine ends_orRefuse cfg hscn ha.readSceneExists fun doesSceneExist => ?_
  split_ifs
  · exact ends_refuse cfg hscn (by decide) _
  · intro a ha
    exact ends_orRefuse cfg hscn (ha.readUdRegistered _) fun _ => ends_linkDevice hcfg uuids hscn _
  · refine (ends_processCreateMessage uuids.scene m).bind 
      (fun e he => absurd he (not_returns_error e)) fun r _ => ?_
    split_ifs
    · exact ends_linkDevice hcfg uuids hscn _
    · exact ends_refuse cfg hscn (by decide) _

/-! ### The other messages -/

omit [LinearOrder R] in
/-- A message with a scene is removed from, or refused. -/
lemma ends_deregistration (hscn : m.scenes = scn :: rest) :
    (processDeregistrationMessage m).Ends (Documented env) Returns := by
  have hend : ∀ e : Errs, (Prog.lift (m.getScene 0) >>= fun scn => pure (buildStringResponse
      sceneLeave e.currentErrCode e.currentErrMsg m.transactionId scn.key) :
        Db R (ProcessResult R)).Ends (Documented env) Returns := fun e => by
    rw [getScene_zero hscn]
    exact ⟨_, rfl⟩
  rw [processDeregistrationMessage]
  split_ifs with hcode
  · refine Prog.Ends.bind (ends_catching ?_ fun what => ⟨_, rfl⟩)
      (fun e he => absurd he (not_returns_error e)) fun e _ => hend e
    rw [getScene_zero hscn, Prog.ok_bind]
    cases hdev : scn.devices with
    | nil =>
        rw [fieldErrs, checkFields, hscn] at hcode
        simp [SceneDocument.numDevices, hdev, Reg.fail, insuffDataError, noError] at hcode
    | cons dev devs =>
        rw [getDevice_zero hdev, Prog.ok_bind]
        exact fun _ _ => trivial
  · exact hend _

omit [LinearOrder R] in
/-- A query in a `try` whose handler sets the error. -/
lemma Align.attempt_ask {α : Type} (a : Align R) (q : Query R) (read : Answer R → Except Fail α)
    (f : α → Align R) :
    a.attempt (do let x ← askAndRead q read; pure (f x)) = .ask q fun ans =>
      match read ans with
      | .ok x => pure (f x)
      | .error (.exn what) =>
          pure { a with currentErrCode := processingError, currentErrMsg := what }
      | .error .undefined => Prog.fail .undefined := by
  show Prog.ask q (fun ans => ((Prog.lift (read ans)).bind fun x => pure (f x)).handle _) = _
  congr 1
  funext ans
  cases read ans with
  | ok x => rfl
  | error e => cases e <;> rfl

/-- The response to an alignment. -/
def alignmentResponse (m : SceneList R) (scn : SceneDocument R) (errCode : ℤ) (errMsg : String) :
    ProcessResult R :=
  buildStringResponse deviceAlign errCode errMsg m.transactionId scn.key

variable (env m) in
/-- The end of an alignment, once the registrations are found. -/
def linkAndRespond (a : Align R) : Db R (ProcessResult R) := do
  let a ← linkAligned env m a
  let scn ← Prog.lift (m.getScene 0)
  pure (buildStringResponse deviceAlign a.currentErrCode a.currentErrMsg m.transactionId scn.key)

omit [LinearOrder R] in
/-- The first block of an alignment asks for the update. -/
lemma updateRegistration_eq (hscn : m.scenes = scn :: rest) (hdev : scn.devices = dev :: devs)
    {dest : Transform R} (hdest : dev.trans = some dest) :
    updateRegistration env m ⟨noError, "", false, none⟩ =
      .ask (updateDeviceQuery env dev.key scn.key dest) fun a =>
        match readUpdated a with
        | .ok found => pure ⟨noError, "", found, none⟩
        | .error (.exn what) => pure ⟨processingError, what, false, none⟩
        | .error .undefined => Prog.fail .undefined := by
  rw [updateRegistration, Align.whenOk, if_pos rfl, getScene_zero hscn, Prog.ok_bind,
    getDevice_zero hdev, Prog.ok_bind, UserDevice.getTransform, hdest, updateDeviceRegistration]
  refine (Align.attempt_ask (⟨noError, "", false, none⟩ : Align R) _ readUpdated fun found =>
    ⟨noError, "", found, none⟩).trans (congrArg _ (funext fun a => ?_))
  rcases readUpdated a with (_ | _) | _ <;> rfl

omit [LinearOrder R] in
/-- The second block of an alignment asks for the registrations. -/
lemma findAligned_eq (hscn : m.scenes = scn :: rest) (hdev : scn.devices = dev :: devs) :
    findAligned env m ⟨noError, "", true, none⟩ =
      .ask (getRegistrationsQuery dev.key) fun a =>
        match readRegistrations env a with
        | .ok regs => pure ⟨noError, "", true, regs⟩
        | .error (.exn what) => pure ⟨processingError, what, true, none⟩
        | .error .undefined => Prog.fail .undefined := by
  rw [findAligned, Align.whenOk, if_pos rfl, getScene_zero hscn, Prog.ok_bind,
    getDevice_zero hdev, Prog.ok_bind, getRegistrations]
  refine (Align.attempt_ask (⟨noError, "", true, none⟩ : Align R) _ (readRegistrations env)
    fun regs => ⟨noError, "", true, regs⟩).trans (congrArg _ (funext fun a => ?_))
  rcases readRegistrations env a with (_ | _) | _ <;> rfl

variable (env) in
omit [LinearOrder R] in
/-- After an error the last block of an alignment does nothing. -/
lemma linkAndRespond_of_error (hscn : m.scenes = scn :: rest) {errCode : ℤ}
    (hcode : errCode ≠ noError) (errMsg : String) (found : Bool) :
    linkAndRespond env m ⟨errCode, errMsg, found, none⟩ =
      pure (alignmentResponse m scn errCode errMsg) := by
  rw [linkAndRespond, linkAligned, Align.whenOk, if_neg hcode, Prog.pure_bind,
    getScene_zero hscn]
  rfl

omit [LinearOrder R] in
/-- After an error in the first block the blocks that are left do nothing. -/
lemma findAligned_linkAndRespond_of_error (hscn : m.scenes = scn :: rest) {errCode : ℤ}
    (hcode : errCode ≠ noError) (errMsg : String) (found : Bool) :
    (do let a ← findAligned env m ⟨errCode, errMsg, found, none⟩; linkAndRespond env m a) =
      pure (alignmentResponse m scn errCode errMsg) := by
  have hfind : findAligned env m ⟨errCode, errMsg, found, none⟩ =
      pure ⟨errCode, errMsg, found, none⟩ := if_neg hcode
  rw [hfind, Prog.pure_bind]
  exact linkAndRespond_of_error env hscn hcode errMsg found

omit [LinearOrder R] in
/-- An alignment of a device with a transform, as the queries it asks. -/
lemma processDeviceAlignmentMessage_eq (hscn : m.scenes = scn :: rest)
    (hdev : scn.devices = dev :: devs) {dest : Transform R} (hdest : dev.trans = some dest) :
    processDeviceAlignmentMessage env m =
      .ask (updateDeviceQuery env dev.key scn.key dest) fun a =>
        match readUpdated a with
        | .ok true => .ask (getRegistrationsQuery dev.key) fun a =>
            match readRegistrations env a with
            | .ok regs => linkAndRespond env m ⟨noError, "", true, regs⟩
            | .error (.exn what) => pure (alignmentResponse m scn processingError what)
            | .error .undefined => Prog.fail .undefined
        | .ok false =>
            pure (alignmentResponse m scn notFound "No Existing Registrations Found")
        | .error (.exn what) => pure (alignmentResponse m scn processingError what)
        | .error .undefined => Prog.fail .undefined := by
  have herrs : fieldErrs m "alignment" = ⟨noError, ""⟩ := by
    rw [fieldErrs, checkFields_eq hscn hdev]
    rfl
  have hcode : processingError ≠ noError := by decide
  have hcode' : notFound ≠ noError := by decide
  rw [processDeviceAlignmentMessage, herrs]
  dsimp only
  rw [updateRegistration_eq hscn hdev hdest, Prog.ask_bind]
  congr 1
  funext a
  cases hread : readUpdated a with
  | error e =>
      cases e with
      | undefined => rfl
      | exn what =>
          have hcheck : checkFound (⟨processingError, what, false, none⟩ : Align R) =
              ⟨processingError, what, false, none⟩ := if_neg fun h => hcode h.2
          rw [Prog.pure_bind, hcheck]
          exact findAligned_linkAndRespond_of_error hscn hcode what false
  | ok found =>
      cases found with
      | false =>
          have hcheck : checkFound (⟨noError, "", false, none⟩ : Align R) =
              ⟨notFound, "No Existing Registrations Found", false, none⟩ := if_pos ⟨by simp, rfl⟩
          rw [Prog.pure_bind, hcheck]
          exact findAligned_linkAndRespond_of_error hscn hcode' _ false
      | true =>
          have hcheck : checkFound (⟨noError, "", true, none⟩ : Align R) =
              ⟨noError, "", true, none⟩ := if_neg fun h => h.1 rfl
          rw [Prog.pure_bind, hcheck, findAligned_eq hscn hdev, Prog.ask_bind]
          congr 1
          funext b
          cases readRegistrations env b with
          | ok regs => rfl
          | error e =>
              cases e with
              | undefined => rfl
              | exn what => exact linkAndRespond_of_error env hscn hcode what true

/-- The link that an alignment corrects is reported. -/
def LinkReported (a : Answer R) : Prop := ∃ n row rows, a = .rows ((.node n :: row) :: rows)

omit [Field R] [LinearOrder R] in
lemma readUpdated_eq_true_iff {a : Answer R} : readUpdated a = .ok true ↔ LinkReported a := by
  constructor
  · intro h
    match a, h with
    | .rows ((.node n :: row) :: rows), _ => exact ⟨n, row, rows, rfl⟩
  · rintro ⟨n, row, rows, rfl⟩
    rfl

omit [LinearOrder R] in
/-- After a failed check only the response is built. -/
lemma processDeviceAlignmentMessage_of_error
    (hcode : (fieldErrs m "alignment").currentErrCode ≠ noError) :
    processDeviceAlignmentMessage env m = Prog.lift (m.getScene 0) >>= fun scn =>
      pure (alignmentResponse m scn (fieldErrs m "alignment").currentErrCode
        (fieldErrs m "alignment").currentErrMsg) := by
  rw [processDeviceAlignmentMessage]
  generalize fieldErrs m "alignment" = e at hcode ⊢
  obtain ⟨errCode, errMsg⟩ := e
  have hcode : errCode ≠ noError := hcode
  have hupdate : updateRegistration env m ⟨errCode, errMsg, false, none⟩ =
      pure ⟨errCode, errMsg, false, none⟩ := if_neg hcode
  have hcheck : checkFound (⟨errCode, errMsg, false, none⟩ : Align R) =
      ⟨errCode, errMsg, false, none⟩ := if_neg fun h => hcode h.2
  have hfind : findAligned env m ⟨errCode, errMsg, false, none⟩ =
      pure ⟨errCode, errMsg, false, none⟩ := if_neg hcode
  have hlink : linkAligned env m ⟨errCode, errMsg, false, none⟩ =
      pure ⟨errCode, errMsg, false, none⟩ := if_neg hcode
  dsimp only
  rw [hupdate, Prog.pure_bind, hcheck, hfind, Prog.pure_bind, hlink, Prog.pure_bind]
  rfl

section Store

variable {σ : Type} {db : Query R → σ → Answer R × σ} (hdb : ∀ q s, Documented env q (db q s).1)
include hdb

/-- A registration without a scene ends in the exception of the missing scene. -/
lemma returns_registration_iff {cfg : Config} (hcfg : cfg.Serves) (uuids : Uuids)
    (m : SceneList R) (s : σ) :
    Returns ((processRegistrationMessage env cfg uuids m).run db s).1 ↔ m.scenes ≠ [] := by
  cases hscn : m.scenes with
  | nil =>
      have hempty : ∀ scn ∈ m.scenes.head?, scn.devices = [] := by simp [hscn]
      obtain ⟨errMsg, hrefuse⟩ := processRegistrationMessage_refused env cfg uuids hempty
      refine iff_of_false ?_ (by simp)
      rw [hrefuse, refuse, Prog.run_lift, registrationResponse, SceneList.getScene, hscn]
      exact not_returns_error _
  | cons scn rest =>
      refine iff_of_true ?_ (by simp)
      cases hdev : scn.devices with
      | nil =>
          have hempty : ∀ scn ∈ m.scenes.head?, scn.devices = [] := by simpa [hscn] using hdev
          obtain ⟨errMsg, hrefuse⟩ := processRegistrationMessage_refused env cfg uuids hempty
          rw [hrefuse]
          exact (ends_refuse cfg hscn (by decide) errMsg).run hdb s
      | cons dev devs =>
          rw [processRegistrationMessage_eq env cfg uuids hscn hdev]
          exact (ends_registration hcfg uuids hscn).run hdb s

omit [LinearOrder R] in
lemma returns_deregistration_iff (m : SceneList R) (s : σ) :
    Returns ((processDeregistrationMessage m).run db s).1 ↔ m.scenes ≠ [] := by
  cases hscn : m.scenes with
  | nil =>
      have hcode : (fieldErrs m "registration").currentErrCode ≠ noError := by
        rw [fieldErrs, checkFields, hscn]
        exact (by decide : insuffDataError ≠ noError)
      refine iff_of_false ?_ (by simp)
      rw [processDeregistrationMessage, if_neg hcode, SceneList.getScene, hscn]
      exact not_returns_error _
  | cons scn rest => exact iff_of_true ((ends_deregistration hscn).run hdb s) (by simp)

omit [LinearOrder R] in
/-- A registered device whose registrations are not found: the null list is followed. -/
lemma returns_linkAndRespond_iff (hscn : m.scenes = scn :: rest) (hdev : scn.devices = dev :: devs)
    {dest : Transform R} (hdest : dev.trans = some dest) {regs : Option (SceneList R)}
    (hregs : ∀ r ∈ regs, ∀ s ∈ r.scenes, Placed s) (s : σ) :
    Returns ((linkAndRespond env m ⟨noError, "", true, regs⟩).run db s).1 ↔ regs.isSome := by
  cases regs with
  | none => exact iff_of_false (not_returns_error _) (by simp)
  | some r =>
      have hplaced : Placed scn := ⟨dest, by
        rw [getDevice_zero hdev]
        show UserDevice.transform dev = _
        rw [UserDevice.transform, hdest]⟩
      have hlink : (linkAndRespond env m ⟨noError, "", true, some r⟩).Ends (Documented env)
          Returns := by
        refine Prog.Ends.bind (E := Returns) ?_ (fun e he => absurd he (not_returns_error e))
          fun a _ => by rw [getScene_zero hscn]; exact ⟨_, rfl⟩
        rw [linkAligned, Align.whenOk, if_pos rfl]
        refine ends_catching ?_ fun what => ⟨_, rfl⟩
        rw [processUDUDTransformation, getScene_zero hscn, Prog.ok_bind]
        exact (ends_processUDUDScenes hplaced (hregs r rfl)).bind (fun e he => he)
          fun _ _ => trivial
      exact iff_of_true (hlink.run hdb s) rfl

omit [LinearOrder R] in
lemma returns_alignment_iff (hscn : m.scenes = scn :: rest) (hdev : scn.devices = dev :: devs)
    {dest : Transform R} (hdest : dev.trans = some dest) (s : σ) :
    Returns ((processDeviceAlignmentMessage env m).run db s).1 ↔
      (LinkReported (db (updateDeviceQuery env dev.key scn.key dest) s).1 →
        ∃ row rows, (db (getRegistrationsQuery dev.key)
          (db (updateDeviceQuery env dev.key scn.key dest) s).2).1 = .rows (row :: rows)) := by
  have hupdated := (hdb (updateDeviceQuery env dev.key scn.key dest) s).readUpdated
  rw [processDeviceAlignmentMessage_eq hscn hdev hdest, Prog.run_ask, ← readUpdated_eq_true_iff]
  cases hread : readUpdated (db (updateDeviceQuery env dev.key scn.key dest) s).1 with
  | error e =>
      rw [hread] at hupdated
      cases e with
      | undefined => exact absurd rfl hupdated
      | exn what => exact iff_of_true ⟨_, rfl⟩ (by rintro ⟨⟩)
  | ok found =>
      cases found with
      | false => exact iff_of_true ⟨_, rfl⟩ (by rintro ⟨⟩)
      | true =>
          have hregs := (hdb (getRegistrationsQuery dev.key)
            (db (updateDeviceQuery env dev.key scn.key dest) s).2).readRegistrations
          dsimp only
          rw [Prog.run_ask, forall_prop_of_true rfl]
          by_cases hrow : ∃ row rows, (db (getRegistrationsQuery dev.key)
              (db (updateDeviceQuery env dev.key scn.key dest) s).2).1 = .rows (row :: rows)
          · refine iff_of_true ?_ hrow
            cases hread' : readRegistrations env (db (getRegistrationsQuery dev.key)
                (db (updateDeviceQuery env dev.key scn.key dest) s).2).1 with
            | error e =>
                rw [hread'] at hregs
                cases e with
                | undefined => exact absurd rfl hregs
                | exn what => exact ⟨_, rfl⟩
            | ok regs =>
                rw [hread'] at hregs
                exact (returns_linkAndRespond_iff hdb hscn hdev hdest hregs.1 _).mpr
                  (hregs.2.mpr hrow)
          · refine iff_of_false ?_ hrow
            rw [readRegistrations_eq_none hrow]
            exact not_returns_error _

end Store

/-- The messages that return a result. A registration and a deregistration need a
scene; an alignment needs a scene, a transform of the device, if there is a device,
and, where a link is reported, a registration of the device. -/
theorem messages_return_iff {σ : Type} {db : Query R → σ → Answer R × σ}
    (hdb : ∀ q s, Documented env q (db q s).1) {cfg : Config} (hcfg : cfg.Serves)
    (uuids : Uuids) (m : SceneList R) (s : σ) :
    (Returns ((processRegistrationMessage env cfg uuids m).run db s).1 ↔ m.scenes ≠ []) ∧
    (Returns ((processDeregistrationMessage m).run db s).1 ↔ m.scenes ≠ []) ∧
    (Returns ((processDeviceAlignmentMessage env m).run db s).1 ↔
      ∃ scn rest, m.scenes = scn :: rest ∧ ∀ dev devs, scn.devices = dev :: devs →
        ∃ t, dev.trans = some t ∧
          (LinkReported (db (updateDeviceQuery env dev.key scn.key t) s).1 →
            ∃ row rows, (db (getRegistrationsQuery dev.key)
              (db (updateDeviceQuery env dev.key scn.key t) s).2).1 = .rows (row :: rows))) := by
  refine ⟨returns_registration_iff hdb hcfg uuids m s, returns_deregistration_iff hdb m s, ?_⟩
  cases hscn : m.scenes with
  | nil =>
      have hcode : (fieldErrs m "alignment").currentErrCode ≠ noError := by
        rw [fieldErrs, checkFields, hscn]
        exact (by decide : insuffDataError ≠ noError)
      refine iff_of_false ?_ (by simp)
      rw [processDeviceAlignmentMessage_of_error hcode, SceneList.getScene, hscn]
      exact not_returns_error _
  | cons scn rest =>
      have hexists : ∀ P : SceneDocument R → Prop,
          (∃ scn' rest', scn :: rest = scn' :: rest' ∧ P scn') ↔ P scn := fun P =>
        ⟨by rintro ⟨_, _, ⟨rfl, rfl⟩, h⟩; exact h, fun h => ⟨scn, rest, rfl, h⟩⟩
      rw [hexists]
      cases hdev : scn.devices with
      | nil =>
          have hcode : (fieldErrs m "alignment").currentErrCode ≠ noError := by
            rw [fieldErrs, checkFields, hscn]
            simp [SceneDocument.numDevices, hdev, Reg.fail, insuffDataError, noError]
          refine iff_of_true ?_ (by simp)
          rw [processDeviceAlignmentMessage_of_error hcode, getScene_zero hscn]
          exact ⟨_, rfl⟩
      | cons dev devs =>
          have hforall : ∀ P : UserDevice R → Prop,
              (∀ dev' devs', dev :: devs = dev' :: devs' → P dev') ↔ P dev := fun P =>
            ⟨fun h => h dev devs rfl, by rintro h _ _ ⟨rfl, rfl⟩; exact h⟩
          rw [hforall]
          cases hdest : dev.trans with
          | none =>
              refine iff_of_false ?_ (by simp)
              rw [run_alignment_noTransform db hscn hdev hdest]
              exact not_returns_error _
          | some dest =>
              rw [returns_alignment_iff hdb hscn hdev hdest]
              simp

/-! ### Examples -/

/-- A database that cannot be reached. -/
def unreachable (_ : Query ℚ) (s : Unit) : Answer ℚ × Unit := (.throw "Connection refused", s)

/-- A device in a scene. -/
def oneDevice (trans : Option (Transform ℚ)) : SceneList ℚ where
  scenes := [{ key := "scene", devices := [{ key := "device", trans }] }]

theorem messages_return_unreachable :
    (Returns ((processRegistrationMessage plainEnv plainCfg ⟨"", ""⟩
      (oneDevice (some .new))).run unreachable ()).1 ↔ (oneDevice (some .new)).scenes ≠ []) ∧
    (Returns ((processDeregistrationMessage (oneDevice (some .new))).run unreachable ()).1 ↔
      (oneDevice (some .new)).scenes ≠ []) ∧
    (Returns ((processDeviceAlignmentMessage plainEnv (oneDevice (some .new))).run
        unreachable ()).1 ↔
      ∃ scn rest, (oneDevice (some .new)).scenes = scn :: rest ∧
        ∀ dev devs, scn.devices = dev :: devs → ∃ t, dev.trans = some t ∧
          (LinkReported (unreachable (updateDeviceQuery plainEnv dev.key scn.key t) ()).1 →
            ∃ row rows, (unreachable (getRegistrationsQuery dev.key) ()).1 =
              .rows (row :: rows))) :=
  messages_return_iff (fun _ _ _ h => by cases h) ⟨none, rfl, by simp⟩ _ _ _

/-- A database that reports a link and then has no result. -/
def lostResult (_ : Query ℚ) (asked : Bool) : Answer ℚ × Bool :=
  (if asked then .null else .rows [[.node ⟨0, "Scene", fun _ => none⟩]], true)

/-- No message returns a result without a scene. A device without a transform, and a
result that is lost, are followed as null pointers. -/
theorem messages_fail :
    ¬ Returns ((processRegistrationMessage plainEnv plainCfg ⟨"", ""⟩ {}).run unreachable ()).1 ∧
    ¬ Returns ((processDeregistrationMessage {}).run unreachable ()).1 ∧
    ¬ Returns ((processDeviceAlignmentMessage plainEnv {}).run unreachable ()).1 ∧
    ¬ Returns ((processDeviceAlignmentMessage plainEnv (oneDevice none)).run unreachable ()).1 ∧
    ¬ Returns ((processDeviceAlignmentMessage plainEnv (oneDevice (some .new))).run
      lostResult false).1 := by
  refine ⟨not_returns_error _, not_returns_error _, not_returns_error _, not_returns_error _, ?_⟩
  rw [processDeviceAlignmentMessage_eq rfl rfl rfl]
  exact not_returns_error _

end Failures

end CrazyIvan
