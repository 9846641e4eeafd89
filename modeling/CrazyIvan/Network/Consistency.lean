import CrazyIvan.Network.Deregistration
import CrazyIvan.Network.Failures
import CrazyIvan.Network.Messages

/-!
The invariant of the database, under any interleaving of the messages and whatever
becomes of their queries.

* `IsScene`, `IsDevice`, `Consistent`: scenes with a key, devices with an address, and
  whole transforms between them; a device has one registration at most.
* `Consistent.change`, `consistent_served`: every query keeps it.
* `Consistent.exists_readRegistrations`, `Consistent.exists_readUdRegistered`: what such
  a graph answers can be read.
* `registration_succeeds`: a registration succeeds beside any other messages, where no
  query fails.
-/

namespace CrazyIvan

open Cypher Resumption

section Consistency

variable {R : Type}

/-! ### The invariant -/

/-- A scene has a key. -/
def IsScene (n : Node R) : Prop :=
  n.label = "Scene" ∧ ∃ k, k ≠ "" ∧ n.props "key" = some (.str k)

/-- A device has a key and an address, and nothing else. -/
def IsDevice (n : Node R) : Prop :=
  n.label = "UserDevice" ∧
    ∃ dk conn host port, dk ≠ "" ∧ n.props = deviceProps dk conn host port

/-- What holds of every state of the database. -/
structure Consistent [CommRing R] (glm : Glm R) (g : Graph R) : Prop where
  typed : WellTyped g
  parent : SingleParent g
  node : ∀ n ∈ g.nodes, IsScene n ∨ IsDevice n
  rel : ∀ t ∈ g.triples, t.2.1.type = "TRANSFORM" ∧ ∃ T, t.2.1.props = linkProps glm T

/-- The nodes that are found under the key of a scene. -/
lemma mem_scenes_ids [LinearOrder R] {g : Graph R} {n : Node R} (hn : n ∈ g.nodes) {k : String} :
    n.id ∈ (scenes g k).map Node.id ↔ HasKey "Scene" k n := by
  constructor
  · intro hid
    obtain ⟨m, hm, heq⟩ := List.mem_map.mp hid
    obtain ⟨hmem, hkey⟩ := mem_scenes.mp hm
    obtain rfl : m = n := g.eq_of_id_eq hmem hn heq
    exact hkey
  · exact fun hkey => List.mem_map_of_mem (mem_scenes.mpr ⟨hn, hkey⟩)

/-- Storing a transform over another one leaves nothing of it. -/
lemma storeTransform_linkProps [CommRing R] (glm : Glm R) (t T : Transform R) :
    storeTransform glm t (linkProps glm T) = linkProps glm t := by
  funext name
  by_cases hname : name ∈ transformEntries.map Prod.fst
  · exact Option.or_of_isSome (isSome_linkProps glm t hname)
  · simp only [storeTransform, linkProps, mkProps_of_notMem _ hname, Option.or_none]

lemma deviceProps_key (dk conn host : String) (port : ℤ) :
    (deviceProps dk conn host port : Props R) "key" = some (.str dk) := rfl

namespace Consistent

variable [Field R] {glm : Glm R} {g g' : Graph R}

lemma empty : Consistent glm Graph.empty where
  typed := .empty
  parent := .empty
  node n hn := by cases hn
  rel t ht := by cases ht

/-! ### The steps -/

variable [LinearOrder R]

/-- The nodes that a change leaves. -/
lemma node_change {fn : String → R → R} {env : Env R} {r : Request R}
    (h : ∀ n ∈ g.nodes, IsScene n ∨ IsDevice n) (hg' : Change fn env g r g') :
    ∀ n ∈ g'.nodes, IsScene n ∨ IsDevice n := by
  have hscene : ∀ {k : String} {scn : SceneDocument R}, k ≠ "" →
      ∀ n ∈ (g.addNode "Scene" (sceneProps k scn)).nodes, IsScene n ∨ IsDevice n := by
    intro k scn hk n hn
    rw [Graph.nodes_addNode] at hn
    rcases List.mem_append.mp hn with hn | hn
    · exact h n hn
    · obtain rfl := List.mem_singleton.mp hn
      exact .inl ⟨rfl, k, hk, sceneProps_key hk scn⟩
  cases hg' with
  | none => exact h
  | create hm hnew hscn => exact hscene hnew
  | enter hm hnew hscn => exact hscene hnew
  | attach hm hdev hkey hts =>
      rw [hts.nodes]
      intro n hn
      rcases List.mem_append.mp hn with hn | hn
      · exact h n hn
      · obtain ⟨e, he, rfl⟩ := List.mem_map.mp hn
        exact .inr ⟨(hts.dst e he).1, _, _, _, _, hkey, (hts.dst e he).2⟩
  | @update m scn _ hm hkey hscn =>
      intro n hn
      obtain ⟨n₀, hn₀, rfl⟩ := List.mem_map.mp hn
      by_cases hid : n₀.id ∈ (scenes g scn.key).map Node.id
      · -- an updated node is a scene, and it keeps its key
        obtain ⟨hlabel, hkey'⟩ := (mem_scenes_ids hn₀).mp hid
        refine .inl ⟨hlabel, scn.key, hkey, ?_⟩
        simp only [if_pos hid, updateProps_key]
        exact hkey'
      · simp only [if_neg hid]
        exact h n₀ hn₀
  | delete hm hkey => exact fun n hn => h n (List.mem_of_mem_filter hn)
  | setRegistrations hm hdev t =>
      rw [nodes_setRegistrations]
      exact h
  | link hm hts =>
      rw [hts.nodes]
      exact h
  | remove hm hdev => exact fun n hn => h n (List.mem_of_mem_filter hn)

/-- The relationships that an effect leaves carry whole transforms. -/
lemma rel_effect {fn : String → R → R} {env : Env R}
    (h : ∀ t ∈ g.triples, t.2.1.type = "TRANSFORM" ∧ ∃ T, t.2.1.props = linkProps env.glm T)
    (hg' : Effect fn env g g') :
    ∀ t ∈ g'.triples, t.2.1.type = "TRANSFORM" ∧ ∃ T, t.2.1.props = linkProps env.glm T := by
  have hadded : ∀ {ts : List (Node R × Rel R × Node R)} {t : Transform R},
      g'.triples = g.triples ++ ts →
      (∀ e ∈ ts, e.2.1.type = "TRANSFORM" ∧ e.2.1.props = linkProps env.glm t) →
      ∀ e ∈ g'.triples, e.2.1.type = "TRANSFORM" ∧ ∃ T, e.2.1.props = linkProps env.glm T := by
    intro ts t htriples hts e he
    rw [htriples] at he
    rcases List.mem_append.mp he with he | he
    · exact h e he
    · exact ⟨(hts e he).1, t, (hts e he).2⟩
  cases hg' with
  | maintenance hm =>
      cases hm with
      | realignment hr =>
          cases hr with
          | none => exact h
          | link hts => exact hadded hts.triples hts.rel
          | setRegistrations dk sk t =>
              intro e he
              rw [setRegistrations, Graph.triples_mapRels] at he
              obtain ⟨e₀, he₀, rfl⟩ := List.mem_map.mp he
              obtain ⟨htype, T, hT⟩ := h e₀ he₀
              refine ⟨htype, ?_⟩
              dsimp only
              split
              · exact ⟨t, by rw [hT, storeTransform_linkProps]⟩
              · exact ⟨T, hT⟩
      | none => exact h
      | updateScenes opType scn =>
          intro e he
          rw [updateScenes, Graph.triples_mapNodes] at he
          obtain ⟨e₀, he₀, rfl⟩ := List.mem_map.mp he
          exact h e₀ he₀
      | deleteScenes k =>
          intro e he
          rw [Graph.triples_detachDelete] at he
          exact h e (List.mem_of_mem_filter he)
      | removeDevices dk sk =>
          intro e he
          rw [Graph.triples_detachDelete] at he
          exact h e (List.mem_of_mem_filter he)
  | create hnew hscn =>
      rw [Graph.triples_addNode]
      exact h
  | attach hts => exact hadded hts.triples hts.rel

/-- Every change keeps the invariant. -/
lemma change {fn : String → R → R} {env : Env R} {r : Request R} (h : Consistent env.glm g)
    (hg' : Change fn env g r g') : Consistent env.glm g' where
  typed := h.typed.effect (hg'.effect fn)
  parent := SingleParent.effect (hg'.effect fn) h.parent
  node := node_change h.node hg'
  rel := rel_effect h.rel (hg'.effect fn)

lemma db_of_asked (fn : String → R → R) {env : Env R} {m : Message R} {q : Query R}
    (h : Consistent env.glm g) (hq : m.Asked env q) : Consistent env.glm (db fn q g).2 := by
  rcases change_of_message fn hq g with hsame | ⟨r, -, hchange⟩
  · rwa [hsame]
  · exact h.change hchange

lemma of_serve (fn : String → R → R) {env : Env R} (h : Consistent env.glm g) (r : Request R) :
    Consistent env.glm (serve fn env g r) :=
  process_invariant fn (fun _ _ _ hchange h => h.change hchange) (.request r) h

end Consistent

section Served

variable [Field R] [LinearOrder R] (fn : String → R → R) (env : Env R)

/-- Whatever messages are processed at once, however their queries are interleaved and
whatever becomes of each of them, the database is consistent at every point. -/
theorem consistent_served (ms : List (Message R)) (os : List Outcome) (sched : List ℕ) :
    Consistent env.glm (served fn env os Graph.empty ms sched) :=
  serving_invariant_of_changes fn (fun _ _ _ _ hg' hg => hg.change hg') .empty os sched

end Served

/-! ### What is stored can be read -/

namespace Consistent

variable [Field R] {env : Env R} {g : Graph R} (h : Consistent env.glm g)
include h

/-- The node of a device that is found under a key. -/
lemma exists_deviceProps {n : Node R} (hn : n ∈ g.nodes) (hlabel : n.label = "UserDevice") :
    ∃ dk conn host port, dk ≠ "" ∧ n.props = deviceProps dk conn host port := by
  rcases h.node n hn with ⟨hscene, -⟩ | ⟨-, hdev⟩
  · exact absurd (hscene.symm.trans hlabel) (by decide)
  · exact hdev

variable [LinearOrder R] (fn : String → R → R)

lemma exists_readRegistrations (dk : String) :
    ∃ regs, readRegistrations env (db fn (getRegistrationsQuery dk) g).1 = .ok regs := by
  rw [answer_getRegistrations]
  obtain ⟨scns, hscns, -⟩ := readRegistrations_wellTyped h.typed dk
  exact ⟨_, hscns⟩

omit [LinearOrder R] in
/-- The loop over the devices of a scene reads every one. -/
lemma exists_scanDevices (dk : String) {ns : List (Node R)}
    (hns : ∀ n ∈ ns, n ∈ g.nodes ∧ n.label = "UserDevice") (found : Bool) :
    ∃ b, scanDevices env dk (ns.map fun n => [Binding.node n]) found = .ok b := by
  induction ns generalizing found with
  | nil => exact ⟨found, rfl⟩
  | cons n ns ih =>
      obtain ⟨hn, hns⟩ := List.forall_mem_cons.mp hns
      obtain ⟨dk', conn, host, port, -, hprops⟩ := h.exists_deviceProps hn.1 hn.2
      obtain ⟨b, hb⟩ := ih hns (if dk' = dk then true else found)
      refine ⟨b, ?_⟩
      rw [List.map_cons, scanDevices, hprops, readElement, deviceProps_key]
      exact hb

lemma exists_readUdRegistered (k dk : String) :
    ∃ b, readUdRegistered env dk (db fn (isUdRegisteredQuery k) g).1 = .ok b := by
  rw [answer_isUdRegistered]
  refine h.exists_scanDevices dk (fun n hn => ?_) false
  obtain ⟨t, ht, rfl⟩ := List.mem_map.mp hn
  obtain ⟨htriple, hdev⟩ := List.mem_filter.mp ht
  exact ⟨g.dst_mem_of_triple htriple, (of_decide_eq_true hdev).2.2⟩

end Consistent

/-! ### A registration -/

section Register

variable [Field R] [LinearOrder R] (fn : String → R → R) {env : Env R} {g : Graph R}
  (h : Consistent env.glm g)
include h

lemma Consistent.created (uuid : String) (scn : SceneDocument R) :
    Consistent env.glm (created uuid scn g) := by
  rw [CrazyIvan.created]
  split
  · next hnew =>
      have hchange : Change (fun _ x => x) env g (.create uuid { scenes := [scn] }) _ :=
        .create rfl hnew.1 hnew.2
      exact h.change hchange
  · exact h

/-- Whether a device is registered is read as it is. -/
lemma Consistent.readUdRegistered_eq (sk : String) {dk : String} (hdk : dk ≠ "") :
    readUdRegistered env dk (db fn (isUdRegisteredQuery sk) g).1
      = .ok (!(registrationsTo g sk dk).isEmpty) := by
  obtain ⟨b, hb⟩ := h.exists_readUdRegistered fn sk dk
  rw [hb]
  rw [answer_isUdRegistered] at hb
  have hiff := readUdRegistered_faulty env hdk (o := .served) hb
  rw [exists_devicesOf_iff] at hiff
  cases b <;> cases hlist : registrationsTo g sk dk <;> simp_all

variable (cfg : Config) (uuids : Uuids) (m : SceneList R) {scn : SceneDocument R}
  (dev : UserDevice R)

lemma Consistent.run_linkDevice (already : Bool) :
    ((linkDevice env cfg uuids m scn dev already).run (db fn) g).2
      = if already then g else (db fn (linkQuery env uuids scn dev) g).2 := by
  obtain ⟨regs, hregs⟩ := h.exists_readRegistrations fn (newDeviceKey uuids dev)
  rw [linkDevice, Prog.run_ask, hregs, answer_getRegistrations, orRefuse]
  cases already with
  | true => rfl
  | false => rw [if_neg Bool.false_ne_true, Prog.snd_run_ask_lift, if_neg Bool.false_ne_true]

/-- What a registration does to a consistent graph: it creates the scene if there is none,
and links the device if it is not registered. -/
theorem Consistent.serve_register {rest : List (SceneDocument R)} {devs : List (UserDevice R)}
    (hscn : m.scenes = scn :: rest) (hdev : scn.devices = dev :: devs) :
    serve fn env g (.register cfg uuids m) =
      if newDeviceKey uuids dev = "" then g
      else if scenes g scn.key = [] then
        if newSceneKey uuids.scene scn ≠ "" ∧ Storable scn then
          (db fn (linkQuery env uuids scn dev) (CrazyIvan.created uuids.scene scn g)).2
        else g
      else if registrationsTo g scn.key (newDeviceKey uuids dev) = [] then
        (db fn (linkQuery env uuids scn dev) g).2
      else g := by
  have hserve : serve fn env g (.register cfg uuids m)
      = ((registration env cfg uuids m scn dev).run (db fn) g).2 := by
    rw [← processRegistrationMessage_eq env cfg uuids hscn hdev]
    rfl
  have hread : readSceneExists (.rows ((scenes g scn.key).map fun n => [Binding.node n]))
      = .ok (!(scenes g scn.key).isEmpty) := by
    cases scenes g scn.key <;> rfl
  rw [hserve, registration, Prog.run_ask, answer_sceneExists, hread, orRefuse]
  by_cases hkey : newDeviceKey uuids dev = ""
  · rw [if_pos hkey, if_pos hkey]
    rfl
  rw [if_neg hkey, if_neg hkey]
  by_cases hscene : scenes g scn.key = []
  · obtain ⟨response, hrun, hok⟩ := run_create fn hscn uuids.scene g
    rw [if_pos (by simp [hscene]), if_pos hscene, Prog.run_bind, hrun]
    by_cases hnew : newSceneKey uuids.scene scn ≠ "" ∧ Storable scn
    · simp only [if_neg (not_not.mpr (hok.mpr hnew)), if_pos hnew]
      rw [(h.created uuids.scene scn).run_linkDevice fn cfg uuids m dev, if_neg Bool.false_ne_true]
    · simp only [if_pos (fun hs => hnew (hok.mp hs)), if_neg hnew, CrazyIvan.created]
      rfl
  · rw [if_neg (by simpa using hscene), if_neg hscene, Prog.run_ask,
      h.readUdRegistered_eq fn scn.key hkey, answer_isUdRegistered, orRefuse,
      h.run_linkDevice fn cfg uuids m dev]
    by_cases hreg : registrationsTo g scn.key (newDeviceKey uuids dev) = []
    · rw [if_pos hreg, if_neg (by simp [hreg])]
    · rw [if_neg hreg, if_pos (by simpa using hreg)]

end Register

/-! ### No message makes a registration fail -/

section Succeeds

variable [Field R] [LinearOrder R] (fn : String → R → R) (env : Env R)

/-- An answer that a consistent graph gives. -/
def Given (q : Query R) (a : Answer R) : Prop :=
  ∃ g, Consistent env.glm g ∧ a = (db fn q g).1

/-- The registration has returned a message that reports no error and has the device in
the scene. -/
def Succeeds (scn : SceneDocument R) (dk : String) (r : Except Fail (ProcessResult R)) : Prop :=
  ∃ resp msg, r = .ok resp ∧ Reports resp msg ∧
    msg.scenes.head? = some (registeredScene env scn dk)

variable {env} {cfg : Config} {uuids : Uuids} {m : SceneList R} {scn : SceneDocument R}
  {rest : List (SceneDocument R)} {dev : UserDevice R} {devs : List (UserDevice R)}

omit [LinearOrder R] in
lemma succeeds_respond (hcfg : cfg.Serves) (hscn : m.scenes = scn :: rest) (dk : String) :
    Succeeds env scn dk (registrationResponse cfg m (registered env dk)) := by
  have hreturns : Returns (registrationResponse cfg m (registered env dk)) :=
    returns_respond hcfg hscn dk
  obtain ⟨resp, hresp⟩ := hreturns
  obtain ⟨msg, hreports, hscenes⟩ := registrationResponse_registered env cfg hscn hresp
  exact ⟨resp, msg, hresp, hreports, by rw [hscenes]; rfl⟩

lemma ends_linkDevice_given (hcfg : cfg.Serves) (hscn : m.scenes = scn :: rest)
    (already : Bool) :
    (linkDevice env cfg uuids m scn dev already).Ends (Given fn env)
      (Succeeds env scn (newDeviceKey uuids dev)) := by
  rintro _ ⟨g, hg, rfl⟩
  obtain ⟨regs, hregs⟩ := hg.exists_readRegistrations fn (newDeviceKey uuids dev)
  dsimp only
  rw [hregs, orRefuse]
  split_ifs
  · exact succeeds_respond hcfg hscn _
  · exact fun _ _ => succeeds_respond hcfg hscn _

/-- The creation of the scene, before the device is linked. -/
lemma ends_create_given (hcfg : cfg.Serves) (hscn : m.scenes = scn :: rest)
    (hnew : newSceneKey uuids.scene scn ≠ "") (hstorable : Storable scn) :
    (do
      let response ← processCreateMessage uuids.scene m
      if ¬ response.successful then
        refuse cfg m processingError "Scene not found and creation failed"
      else linkDevice env cfg uuids m scn dev false : Db R (ProcessResult R)).Ends
        (Given fn env) (Succeeds env scn (newDeviceKey uuids dev)) := by
  rw [processCreateMessage, hscn]
  simp only [if_neg hnew]
  rintro _ ⟨g, -, rfl⟩
  rw [answer_create fn hnew hstorable]
  exact ends_linkDevice_given fn hcfg hscn false

/-- On the answers of consistent graphs a registration succeeds. -/
lemma ends_registration_given (hcfg : cfg.Serves) (hscn : m.scenes = scn :: rest)
    (hkey : newDeviceKey uuids dev ≠ "") (hnew : newSceneKey uuids.scene scn ≠ "")
    (hstorable : Storable scn) :
    (registration env cfg uuids m scn dev).Ends (Given fn env)
      (Succeeds env scn (newDeviceKey uuids dev)) := by
  rintro _ ⟨g, -, rfl⟩
  have hread : readSceneExists (.rows ((scenes g scn.key).map fun n => [Binding.node n]))
      = .ok (!(scenes g scn.key).isEmpty) := by
    cases scenes g scn.key <;> rfl
  dsimp only
  rw [answer_sceneExists, hread, orRefuse, if_neg hkey]
  refine Prog.Ends.ite (fun _ => ends_create_given fn hcfg hscn hnew hstorable) fun _ => ?_
  rintro _ ⟨g', hg', rfl⟩
  obtain ⟨already, halready⟩ := hg'.exists_readUdRegistered fn scn.key (newDeviceKey uuids dev)
  dsimp only
  rw [halready, orRefuse]
  exact ends_linkDevice_given fn hcfg hscn already

/-- Beside whatever other messages, their queries interleaved with its own in any order,
a registration that has ended has succeeded, where no query fails. -/
theorem registration_succeeds (hscn : m.scenes = scn :: rest) (hdev : scn.devices = dev :: devs)
    (hcfg : cfg.Serves) (hkey : newDeviceKey uuids dev ≠ "")
    (hnew : newSceneKey uuids.scene scn ≠ "") (hstorable : Storable scn) {g : Graph R}
    (hg : Consistent env.glm g) {ms : List (Message R)} {i : ℕ}
    (hi : ms[i]? = some (.request (.register cfg uuids m))) (sched : List ℕ)
    {r : Except Fail (ProcessResult R)}
    (hr : ((serving env [] g ms).interleave (faulty fn) sched).threads[i]? = some (.ret r)) :
    Succeeds env scn (newDeviceKey uuids dev) r := by
  have hasks : ∀ p ∈ (serving env [] g ms).threads, p.Asks fun q => ∃ m : Message R,
      m.Asked env q := by
    intro p hp
    obtain ⟨m, -, rfl⟩ := List.mem_map.mp hp
    exact (asked_message m).mono fun q hq => ⟨m, hq⟩
  have hthread : (serving env [] g ms).threads[i]?
      = some (registration env cfg uuids m scn dev) := by
    rw [serving, List.getElem?_map, hi, ← processRegistrationMessage_eq env cfg uuids hscn hdev]
    rfl
  refine Pool.ends_interleave (I := fun s => s.1 = [] ∧ Consistent env.glm s.2) ?_ sched hasks
    ⟨rfl, hg⟩ hthread (ends_registration_given fn hcfg hscn hkey hnew hstorable) hr
  rintro q ⟨os, g⟩ ⟨m, hq⟩ ⟨hos, hg⟩
  obtain rfl : os = [] := hos
  exact ⟨⟨rfl, hg.db_of_asked fn hq⟩, g, hg, rfl⟩

/-- `registration_succeeds` for a registration that is alone. -/
theorem registration_succeeds_someMsg : ∃ sched r,
    ((serving plainEnv [] Graph.empty
        [.request (.register plainCfg ⟨"", ""⟩ someMsg)]).interleave
          (faulty fun _ x => x) sched).threads[0]? = some (.ret r) ∧
      Succeeds plainEnv someScene (newDeviceKey ⟨"", ""⟩ someDevice) r := by
  obtain ⟨n, hn⟩ := Pool.exists_interleave_alone (faulty fun _ x => x)
    (serving plainEnv [] Graph.empty [.request (.register plainCfg ⟨"", ""⟩ someMsg)]) (i := 0) rfl
  have hr := congrArg (fun c => c.threads[0]?) hn
  exact ⟨_, _, hr, registration_succeeds _ scenes_someMsg devices_someScene ⟨none, rfl, nofun⟩
    newDeviceKey_someDevice (by decide) (by decide) .empty rfl _ hr⟩

end Succeeds

end Consistency

end CrazyIvan
