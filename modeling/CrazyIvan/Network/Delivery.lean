import CrazyIvan.Network.Registration

/-!
What a registration that reports no error leaves in the graph, when any query may
fail.

* `Outcome`, `faulty`: a database that serves a query, or hands back a null
  result or an exception, with or without the effect of the query.
* `Delivered`: the graph holds the registration that the response describes.
* `registration_delivered_iff`: when it does.
-/

namespace CrazyIvan

open Cypher Resumption

section Delivery

variable {R : Type} [Field R] [LinearOrder R] (fn : String → R → R) (env : Env R) (cfg : Config)
  (uuids : Uuids)

/-! ### A database that fails -/

/-- What becomes of a query: it is served, or fails with a null result or an
exception, before or after its effect. -/
inductive Outcome where
  | served
  | null (applied : Bool)
  | throw (applied : Bool) (what : String)
deriving DecidableEq

/-- The effect of the query is in the graph. -/
def Outcome.applied : Outcome → Bool
  | .served => true
  | .null applied => applied
  | .throw applied _ => applied

/-- What the driver hands back. -/
def Outcome.answer : Outcome → Answer R → Answer R
  | .served, a => a
  | .null _, _ => .null
  | .throw _ what, _ => .throw what

/-- A database with the outcomes of the queries to come; when they are used up
every query is served. -/
def faulty (q : Query R) (s : List Outcome × Graph R) : Answer R × (List Outcome × Graph R) :=
  let o := s.1.headD .served
  (o.answer (db fn q s.2).1, (s.1.tail, if o.applied then (db fn q s.2).2 else s.2))

/-! ### Delivery -/

/-- A device node carries the address of a device. -/
def Addressed (dev : UserDevice R) (n : Node R) : Prop :=
  n.props "connection_string" = some (.str dev.connectionString) ∧
    n.props "hostname" = some (.str dev.hostname) ∧ n.props "port" = some (.int dev.port)

/-- A registration of a device to a scene with a transform, under the keys of
the two and with the address of the device. -/
def Registered (glm : Glm R) (g : Graph R) (sk dk : String) (t : Transform R)
    (dev : UserDevice R) : Prop :=
  ∃ e ∈ registrationsTo g sk dk, Stores glm t e.2.1.props ∧ Addressed dev e.2.2

/-- The graph holds the registration that a response describes, with the address
in the request. -/
def Delivered (glm : Glm R) (g : Graph R) (dev : UserDevice R) (msg : SceneList R) : Prop :=
  ∃ scn ∈ msg.scenes.head?, ∃ rdev ∈ scn.devices.head?, ∃ t ∈ rdev.trans,
    Registered glm g scn.key rdev.key t dev

/-- The outcome of a query to come. -/
def outcomeAt (os : List Outcome) (i : ℕ) : Outcome := (os[i]?).getD .served

/-- The registration finds the device in the scene: the first two queries are
served, and there is such an edge. -/
def AlreadyRegistered (os : List Outcome) (g : Graph R) (sk dk : String) : Prop :=
  outcomeAt os 0 = .served ∧ outcomeAt os 1 = .served ∧ registrationsTo g sk dk ≠ []

/-! ### The reads -/

lemma headD_eq_outcomeAt (os : List Outcome) : os.headD .served = outcomeAt os 0 := by
  cases os <;> rfl

lemma headD_tail_eq_outcomeAt (os : List Outcome) : os.tail.headD .served = outcomeAt os 1 := by
  rcases os with _ | ⟨_, _ | _⟩ <;> rfl

lemma headD_tail_tail_tail_eq_outcomeAt (os : List Outcome) :
    os.tail.tail.tail.headD .served = outcomeAt os 3 := by
  rcases os with _ | ⟨_, _ | ⟨_, _ | ⟨_, _ | _⟩⟩⟩ <;> rfl

lemma faulty_sceneExists (k : String) (os : List Outcome) (g : Graph R) :
    faulty fn (sceneExistsQuery k) (os, g) =
      ((os.headD .served).answer (.rows ((scenes g k).map fun n => [.node n])), (os.tail, g)) := by
  simp only [faulty, answer_sceneExists, ite_self]

lemma faulty_isUdRegistered (k : String) (os : List Outcome) (g : Graph R) :
    faulty fn (isUdRegisteredQuery k) (os, g) =
      ((os.headD .served).answer (.rows ((devicesOf g k).map fun n => [.node n])),
        (os.tail, g)) := by
  simp only [faulty, answer_isUdRegistered, ite_self]

lemma faulty_getRegistrations (dk : String) (os : List Outcome) (g : Graph R) :
    (faulty fn (getRegistrationsQuery dk) (os, g)).2 = (os.tail, g) := by
  simp only [faulty, answer_getRegistrations, ite_self]

omit [Field R] [LinearOrder R] in
/-- The existence check says yes only on a served query that finds the scene. -/
lemma readSceneExists_faulty {o : Outcome} {ns : List (Node R)} {b : Bool}
    (h : readSceneExists (o.answer (.rows (ns.map fun n => [.node n]))) = .ok b) :
    b = true ↔ o = .served ∧ ns ≠ [] := by
  cases o with
  | served => cases ns <;> cases h <;> simp
  | null applied => cases h; simp
  | throw applied what => cases h

omit [Field R] [LinearOrder R] in
/-- A string that is read is the stored one, or the default. -/
lemma readElement_string {ps : Props R} {name k dk : String} (hdk : dk ≠ "")
    (h : readElement env.getStringElement ps name "" = .ok k) :
    k = dk ↔ ps name = some (.str dk) := by
  rw [readElement] at h
  cases hps : ps name with
  | none =>
      rw [hps] at h
      cases h
      simp [Ne.symm hdk]
  | some v =>
      rw [hps] at h
      cases v with
      | str s => cases h; simp
      | _ => cases h

omit [Field R] [LinearOrder R] in
/-- The scan says yes exactly when a device with the key is among the rows. -/
lemma scanDevices_ok {dk : String} (hdk : dk ≠ "") {ns : List (Node R)} {b found : Bool}
    (h : scanDevices env dk (ns.map fun n => [.node n]) b = .ok found) :
    found = true ↔ b = true ∨ ∃ n ∈ ns, n.props "key" = some (.str dk) := by
  induction ns generalizing b with
  | nil => cases h; simp
  | cons n ns ih =>
      rw [List.map_cons, scanDevices] at h
      cases hread : readElement env.getStringElement n.props "key" "" with
      | error e => rw [hread] at h; cases h
      | ok k =>
          rw [hread] at h
          have hk := readElement_string env hdk hread
          rw [ih h, List.exists_mem_cons_iff, ← hk]
          by_cases hkd : k = dk <;> simp [hkd]

omit [Field R] [LinearOrder R] in
lemma readUdRegistered_faulty {dk : String} (hdk : dk ≠ "") {o : Outcome} {ns : List (Node R)}
    {b : Bool}
    (h : readUdRegistered env dk (o.answer (.rows (ns.map fun n => [.node n]))) = .ok b) :
    b = true ↔ o = .served ∧ ∃ n ∈ ns, n.props "key" = some (.str dk) := by
  cases o with
  | served => simpa using scanDevices_ok env hdk h
  | null applied => cases h; simp
  | throw applied what => cases h; simp

/-! ### Entering the scene -/

omit [Field R] in
lemma scenes_addNode (g : Graph R) (ps : Props R) (k : String) :
    scenes (g.addNode "Scene" ps) k
      = scenes g k ++ if ps "key" = some (.str k) then [g.newNode "Scene" ps] else [] := by
  rw [scenes, Graph.nodes_addNode, List.filter_append, scenes]
  congr 1
  by_cases h : ps "key" = some (.str k) <;> simp [HasKey, Graph.newNode, h]

omit [Field R] [LinearOrder R] in
lemma Outcome.answer_eq_rows {o : Outcome} {a : Answer R} {l : List (List (Binding R))}
    (h : o.answer a = .rows l) : o = .served ∧ a = .rows l := by
  cases o with
  | served => exact ⟨rfl, h⟩
  | null applied => cases h
  | throw applied what => cases h

/-- A create query that gives rows has created the scene. -/
lemma faulty_create_rows {newId : String} (hnew : newId ≠ "") {scn : SceneDocument R}
    {os : List Outcome} {g : Graph R} {l : List (List (Binding R))}
    (h : (faulty fn (createSceneQuery newId scn) (os, g)).1 = .rows l) :
    (faulty fn (createSceneQuery newId scn) (os, g)).2
      = (os.tail, g.addNode "Scene" (sceneProps newId scn)) := by
  obtain ⟨hserved, hans⟩ := Outcome.answer_eq_rows h
  have hserved' : os.headD .served = .served := hserved
  by_cases hscn : Storable scn
  · simp only [faulty, hserved', answer_create fn hnew hscn]
    rfl
  · obtain ⟨what, hthrow⟩ := answer_create_refused fn hnew hscn g
    rw [hthrow] at hans
    cases hans

/-- What entering the scene leaves: the relationships are the old ones, and the
scene is there unless it was created under a generated key. -/
lemma enters_faulty {scn : SceneDocument R} {dev : UserDevice R} {os : List Outcome}
    {g : Graph R} {already : Bool} {s : List Outcome × Graph R}
    (hkey : newDeviceKey uuids dev ≠ "")
    (h : Enters env uuids (faulty fn) scn dev (os, g) already s) :
    s.1 = os.tail.tail ∧ s.2.triples = g.triples ∧
      (already = true ↔ AlreadyRegistered os g scn.key (newDeviceKey uuids dev)) ∧
      (scenes s.2 scn.key ≠ [] ↔ scn.key ≠ "" ∨ scenes g scn.key ≠ []) := by
  cases h with
  | existing hexists halready =>
      rw [faulty_sceneExists] at hexists halready ⊢
      rw [faulty_isUdRegistered] at halready ⊢
      obtain ⟨hserved, hscene⟩ := (readSceneExists_faulty hexists).mp rfl
      have hscenes : scenes g scn.key ≠ [] := hscene
      refine ⟨rfl, rfl, ?_, by simp [hscenes]⟩
      rw [readUdRegistered_faulty env hkey halready, AlreadyRegistered, exists_devicesOf_iff,
        ← headD_eq_outcomeAt, ← headD_tail_eq_outcomeAt]
      exact ⟨fun h => ⟨hserved, h⟩, fun h => h.2⟩
  | @missing l hexists hnew hrows =>
      rw [faulty_sceneExists] at hexists hrows ⊢
      have hnone := (readSceneExists_faulty hexists).not.mp (by simp)
      rw [faulty_create_rows fn hnew hrows]
      refine ⟨rfl, Graph.triples_addNode _ _ _, ?_, ?_⟩
      · simp only [Bool.false_eq_true, false_iff]
        rintro ⟨hserved, -, hreg⟩
        rw [← headD_eq_outcomeAt] at hserved
        obtain ⟨t, ht⟩ := List.exists_mem_of_ne_nil _ hreg
        obtain ⟨htg, hsk, -⟩ := mem_registrationsTo.mp ht
        exact hnone ⟨hserved, List.ne_nil_of_mem
          (mem_scenes.mpr ⟨g.src_mem_of_triple htg, hsk⟩)⟩
      · rw [scenes_addNode, sceneProps_key hnew]
        have hcreated : some (Value.str (newSceneKey uuids.scene scn) : Value R)
            = some (.str scn.key) ↔ scn.key ≠ "" := by
          rw [newSceneKey] at hnew ⊢
          split at hnew
          · next hk => simp [hk, hnew]
          · next hk => simp [hk]
        simp only [hcreated]
        by_cases hk : scn.key = ""
        · rw [if_neg (not_not.mpr hk), List.append_nil]
          exact ⟨Or.inr, fun h => h.resolve_left (not_not.mpr hk)⟩
        · rw [if_pos hk]
          simp [hk]

/-! ### The link -/

/-- Linking the device adds a registration exactly where the effect of the query
is applied and the scene is there. -/
lemma registered_faulty_link {scn : SceneDocument R} {dev : UserDevice R} {os : List Outcome}
    {g : Graph R} :
    Registered env.glm (faulty fn (linkQuery env uuids scn dev) (os, g)).2.2 scn.key
        (newDeviceKey uuids dev) (registeredTransform env.glm) dev ↔
      Registered env.glm g scn.key (newDeviceKey uuids dev) (registeredTransform env.glm) dev ∨
        (os.headD .served).applied = true ∧ scenes g scn.key ≠ [] := by
  by_cases happlied : (os.headD .served).applied = true
  · obtain ⟨ts, hts, -⟩ := answer_register fn env (newDeviceKey uuids dev) scn.key
      (registeredTransform env.glm) dev.connectionString dev.hostname dev.port g
    have hg : (faulty fn (linkQuery env uuids scn dev) (os, g)).2.2
        = (db fn (linkQuery env uuids scn dev) g).2 := if_pos happlied
    rw [hg, linkQuery, Registered, registrationsTo_attached hts, Registered]
    constructor
    · rintro ⟨e, he, hstores⟩
      rcases List.mem_append.mp he with he | he
      · exact Or.inl ⟨e, he, hstores⟩
      · exact Or.inr ⟨happlied, (attached_ne_nil hts).mp (List.ne_nil_of_mem he)⟩
    · rintro (⟨e, he, hstores⟩ | ⟨-, hscene⟩)
      · exact ⟨e, List.mem_append_left _ he, hstores⟩
      · obtain ⟨e, he⟩ := List.exists_mem_of_ne_nil _ ((attached_ne_nil hts).mpr hscene)
        refine ⟨e, List.mem_append_right _ he, fun name _ => ?_, ?_⟩
        · rw [(hts.rel e he).2]
        · rw [Addressed, (hts.dst e he).2]
          exact ⟨rfl, rfl, rfl⟩
  · have hg : (faulty fn (linkQuery env uuids scn dev) (os, g)).2.2 = g := if_neg happlied
    rw [hg]
    exact ⟨Or.inl, fun h => h.resolve_right fun h => happlied h.1⟩

/-! ### The promise of a response -/

lemma registered_congr {g g' : Graph R} (h : g'.triples = g.triples) (glm : Glm R)
    (sk dk : String) (t : Transform R) (dev : UserDevice R) :
    Registered glm g' sk dk t dev ↔ Registered glm g sk dk t dev := by
  rw [Registered, registrationsTo, h, Registered, registrationsTo]

/-- What the response to a registration promises is in the graph afterwards
exactly when a registration with these values was there before, or the device was
not found in the scene, the effect of the fourth query was applied and the scene
is one that the query finds. -/
theorem registration_delivered_iff {m : SceneList R} {os : List Outcome} {g : Graph R}
    {resp : ProcessResult R} {msg : SceneList R} {s' : List Outcome × Graph R}
    (hrun : (processRegistrationMessage env cfg uuids m).run (faulty fn) (os, g) = (.ok resp, s'))
    (hresp : Reports resp msg) :
    ∃ scn ∈ m.scenes.head?, ∃ dev ∈ scn.devices.head?,
      (Delivered env.glm s'.2 dev msg ↔
        Registered env.glm g scn.key (newDeviceKey uuids dev) (registeredTransform env.glm) dev ∨
        (¬ AlreadyRegistered os g scn.key (newDeviceKey uuids dev) ∧
          (outcomeAt os 3).applied = true ∧ (scn.key ≠ "" ∨ scenes g scn.key ≠ []))) := by
  by_cases hfields : ∀ scn ∈ m.scenes.head?, scn.devices = []
  · obtain ⟨errMsg, heq⟩ := processRegistrationMessage_refused env cfg uuids hfields
    rw [heq] at hrun
    exact absurd hresp (run_refuse_ok cfg (faulty fn) (by decide) hrun)
  · obtain ⟨scn, rest, dev, devs, hscenes, hdev⟩ := exists_head_device hfields
    refine ⟨scn, by rw [hscenes]; rfl, dev, by rw [hdev]; rfl, ?_⟩
    rw [processRegistrationMessage_eq env cfg uuids hscenes hdev] at hrun
    obtain ⟨hkey, hresult, already, s₂, henters, hs'⟩ :=
      run_registration_reports env cfg uuids (faulty fn) hscenes hrun hresp
    obtain ⟨msg', hresp', hmsg⟩ := registrationResponse_registered env cfg hscenes hresult
    obtain rfl : msg' = msg := Option.some.inj (hresp'.1.symm.trans hresp.1)
    obtain ⟨hos, htriples, halready, hscene⟩ := enters_faulty fn env uuids hkey henters
    have hdelivered : Delivered env.glm s'.2 dev msg' ↔ Registered env.glm s'.2 scn.key
        (newDeviceKey uuids dev) (registeredTransform env.glm) dev := by
      simp [Delivered, hmsg, registeredScene]
    obtain ⟨os₂, g₂⟩ := s₂
    obtain rfl : os₂ = os.tail.tail := hos
    rw [hdelivered]
    rw [linked, faulty_getRegistrations] at hs'
    cases already with
    | true =>
        rw [hs', if_pos rfl, registered_congr htriples]
        exact ⟨Or.inl, fun h => h.resolve_right fun h => h.1 (halready.mp rfl)⟩
    | false =>
        rw [hs', if_neg Bool.false_ne_true, registered_faulty_link, registered_congr htriples,
          hscene, headD_tail_tail_tail_eq_outcomeAt]
        have hnot := halready.not.mp (by simp)
        simp only [hnot, not_false_eq_true, true_and]

/-! ### A lost link -/

omit [LinearOrder R] in
/-- Without encryption the response is always built. -/
lemma exists_registrationResponse {m : SceneList R} {scn : SceneDocument R}
    {rest : List (SceneDocument R)} (hscn : m.scenes = scn :: rest)
    (haes : cfg.aesEnabled ≠ "true") (dk : String) :
    ∃ resp, registrationResponse cfg m (registered env dk) = .ok resp := by
  have hadd : addEventInfo cfg (registeredMsg env m scn dk) = .ok (registeredMsg env m scn dk) :=
    if_neg haes
  refine ⟨{ returnStr := .msg ((registeredMsg env m scn dk).addScene { key := "" }) }, ?_⟩
  rw [registrationResponse, getScene_zero hscn]
  show (addEventInfo cfg (registeredMsg env m scn dk) >>= _) = _
  rw [hadd]
  rfl

/-- The run of a registration in a graph without relationships, up to its fourth
query. -/
lemma run_registration_fresh {m : SceneList R} {scn : SceneDocument R}
    {rest : List (SceneDocument R)} {dev : UserDevice R} {devs : List (UserDevice R)}
    (hscn : m.scenes = scn :: rest) (hdev : scn.devices = dev :: devs)
    (hkey : newDeviceKey uuids dev ≠ "") {g : Graph R} (hscene : scenes g scn.key ≠ [])
    (htriples : g.triples = []) (os : List Outcome) :
    (processRegistrationMessage env cfg uuids m).run (faulty fn)
        (.served :: .served :: .served :: os, g) =
      (registrationResponse cfg m (registered env (newDeviceKey uuids dev)),
        (faulty fn (linkQuery env uuids scn dev) (os, g)).2) := by
  have hdevices : devicesOf g scn.key = [] := by rw [devicesOf, htriples]; rfl
  have hregs : registrations g (newDeviceKey uuids dev) = [] := by
    rw [registrations, htriples]; rfl
  obtain ⟨n, ns, hns⟩ := List.exists_cons_of_ne_nil hscene
  rw [processRegistrationMessage_eq env cfg uuids hscn hdev, registration]
  simp [faulty, answer_sceneExists, answer_isUdRegistered, answer_getRegistrations, hdevices,
    hregs, hns, hkey, Outcome.answer, readSceneExists, readUdRegistered, scanDevices, linkDevice,
    readRegistrations, orRefuse, registrationRows]

/-- The scene on its own. -/
def someGraph : Graph ℚ :=
  Graph.empty.addNode "Scene" fun k => if k = "key" then some (.str "s") else none

lemma scenes_someGraph : scenes someGraph someScene.key ≠ [] := by decide

lemma triples_someGraph : someGraph.triples = [] := by
  rw [someGraph, Graph.triples_addNode, Graph.triples_empty]

/-- On a database that serves every query the promise is kept. -/
theorem registration_delivered_someGraph :
    ∃ resp msg s', (processRegistrationMessage plainEnv plainCfg ⟨"", ""⟩ someMsg).run
        (faulty fun _ x => x) ([.served, .served, .served], someGraph) = (.ok resp, s') ∧
      Reports resp msg ∧ Delivered plainEnv.glm s'.2 someDevice msg := by
  obtain ⟨resp, hresp⟩ := exists_registrationResponse plainEnv plainCfg scenes_someMsg
    (by decide) (newDeviceKey ⟨"", ""⟩ someDevice)
  obtain ⟨msg, hmsg, -⟩ := registrationResponse_registered plainEnv plainCfg scenes_someMsg hresp
  have hrun := run_registration_fresh (fun _ x => x) plainEnv plainCfg ⟨"", ""⟩ scenes_someMsg
    devices_someScene newDeviceKey_someDevice scenes_someGraph triples_someGraph []
  rw [hresp] at hrun
  refine ⟨resp, msg, _, hrun, hmsg, ?_⟩
  obtain ⟨scn, hscn, dev, hdev, hiff⟩ :=
    registration_delivered_iff (fun _ x => x) plainEnv plainCfg ⟨"", ""⟩ hrun hmsg
  obtain rfl : someScene = scn := Option.some.inj hscn
  obtain rfl : someDevice = dev := Option.some.inj hdev
  refine hiff.mpr (Or.inr ⟨fun halready => halready.2.2 ?_, rfl, Or.inl (by decide)⟩)
  rw [registrationsTo, triples_someGraph]
  rfl

/-- The link query fails and the response reports no error. -/
theorem registration_loses_link :
    ¬ ∀ (m : SceneList ℚ) (uuids : Uuids) (os : List Outcome) (g : Graph ℚ)
        (resp : ProcessResult ℚ) (msg : SceneList ℚ) (s' : List Outcome × Graph ℚ),
      (processRegistrationMessage plainEnv plainCfg uuids m).run (faulty fun _ x => x) (os, g)
        = (.ok resp, s') → Reports resp msg →
      ∃ scn ∈ m.scenes.head?, ∃ dev ∈ scn.devices.head?,
        Delivered plainEnv.glm s'.2 dev msg := by
  intro h
  obtain ⟨resp, hresp⟩ := exists_registrationResponse plainEnv plainCfg scenes_someMsg
    (by decide) (newDeviceKey ⟨"", ""⟩ someDevice)
  obtain ⟨msg, hmsg, -⟩ := registrationResponse_registered plainEnv plainCfg scenes_someMsg hresp
  have hrun := run_registration_fresh (fun _ x => x) plainEnv plainCfg ⟨"", ""⟩ scenes_someMsg
    devices_someScene newDeviceKey_someDevice scenes_someGraph triples_someGraph
    [.throw false "Connection lost"]
  rw [hresp] at hrun
  obtain ⟨-, -, dev, -, scn, -, rdev, -, t, -, e, he, -⟩ := h _ _ _ _ _ _ _ hrun hmsg
  have hg : (faulty (fun _ x => x) (linkQuery plainEnv ⟨"", ""⟩ someScene someDevice)
      ([.throw false "Connection lost"], someGraph)).2.2 = someGraph := rfl
  rw [hg, registrationsTo, triples_someGraph] at he
  cases he

end Delivery

end CrazyIvan
