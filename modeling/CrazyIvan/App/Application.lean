import CrazyIvan.App.Forwarding
import CrazyIvan.Cache.DeviceMap
import CrazyIvan.Controller.Server
import CrazyIvan.Network.SceneDevices

/-!
The application: the server, the loader of the cache and the senders of the event stream, over
one database and one cache.

* `Application`, `Action`, `Application.step`: what is shared, and what can happen next; a step
  that has no meaning, or ends the application, has no next state.
* `Application.start`: the application after it has asked for the scenes of its cluster.
* `arrive_cases`, `advance_cases`, `load_cases`, `cache_step`: what a step can do.
* `Confined`: the threads process messages of some kind, and the database has a property;
  `Confined.run`.
-/

namespace CrazyIvan

open Cypher Resumption

variable {R : Type} [Field R] [LinearOrder R]

/-! ### The state -/

/-- The threads of the server with the database, the cache, and the loader: the scenes its pass
still has to load, and the answer about the first of these once it is there. -/
structure Application (R : Type) [Field R] where
  pool : Pool (List Outcome × Graph R) (Query R) (Answer R) Fail (Response R)
  cache : DeviceCache := {}
  keys : List String := []
  answer : Option (Answer R) := none

/-- A request, a step of a thread, a step of the loader, or a datagram with the configuration of
the stream at that time. -/
inductive Action (R : Type) where
  | arrive (c : HttpCall R)
  | advance (thread : ℕ)
  | load
  | event (cfg : SenderConfig) (text : String)

/-- The scenes of the cluster: the strings of the array in the response. -/
def clusterScenes : Except String (Json.Value R) → List String
  | .ok (.array elements) => elements.filterMap Json.Value.getString
  | _ => []

namespace Application

variable (fn : String → R → R) (env : Env R) (decode : String → String)
  (accounts : Option SingleAccountManager) (written : SceneList R → String)

def graph (s : Application R) : Graph R := s.pool.store.2

/-- The application over an empty database, with the outcomes of the queries to come. -/
def start (os : List Outcome) (adrestia : Except String (Json.Value R)) : Application R where
  pool := ⟨(os, Graph.empty), []⟩
  cache := (clusterScenes adrestia).foldl DeviceCache.addScene {}

/-- What does not fail, or fails with an exception, which is logged. -/
def orLogged (s : Application R) : Except Fail (Application R) → Option (Application R)
  | .ok t => some t
  | .error (.exn _) => some s
  | .error .undefined => none

/-- A handler that asks the processor runs on a thread of its own. -/
def arrive (s : Application R) (c : HttpCall R) : Option (Application R) :=
  s.orLogged do
    match ← createRequestHandler decode accounts c.request with
    | none => pure s
    | some handler =>
        match handler.program env written c, handler with
        | some p, _ => pure { s with pool := { s.pool with threads := s.pool.threads ++ [p] } }
        | none, .cacheUpdate msgType key =>
            (CacheUpdateHandler.handleRequest (R := R) msgType key s.cache).map
              fun updated => { s with cache := updated.2 }
        | none, _ => pure s

/-- A thread asks its next query. -/
def advance (s : Application R) (thread : ℕ) : Option (Application R) :=
  match s.pool.threads[thread]? with
  | some (.ret (.error .undefined)) => none
  | _ => some { s with pool := s.pool.step (faulty fn) thread }

/-- The loader begins a pass, asks for the devices of the next scene, or stores them. An
exception is not caught on its thread. -/
def load (s : Application R) : Option (Application R) :=
  match s.keys, s.answer with
  | [], _ => some { s with keys := s.cache.sceneList, answer := none }
  | k :: _, none =>
      let (a, store) := faulty fn (loadSceneQuery k) s.pool.store
      some { s with pool := { s.pool with store }, answer := some a }
  | k :: keys, some a =>
      (storeDevices env s.cache k a).toOption.map fun cache =>
        { s with cache, keys, answer := none }

/-- One step. The run of a sender reads the cache and leaves it. -/
def step (s : Application R) : Action R → Option (Application R)
  | .arrive c => s.arrive env decode accounts written c
  | .advance thread => s.advance fn thread
  | .load => s.load fn env
  | .event cfg text => s.orLogged ((runSender cfg s.cache.devices text).map fun _ => s)

/-! ### What a step can do -/

section Steps

variable {fn : String → R → R} {env : Env R} {decode : String → String}
  {accounts : Option SingleAccountManager} {written : SceneList R → String} {s t : Application R}

omit [LinearOrder R] in
lemma orLogged_cases {x : Except Fail (Application R)} (h : s.orLogged x = some t) :
    x = .ok t ∨ t = s := by
  rcases x with (what | _) | u
  · exact .inr (Option.some.inj h).symm
  · cases h
  · exact .inl (congrArg _ (Option.some.inj h))

omit [LinearOrder R] in
/-- A scene is added or removed, or the cache stays as it is. -/
lemma handleRequest_cache {msgType : ℤ} {key : String} {c c' : DeviceCache} {response : Response R}
    (h : CacheUpdateHandler.handleRequest msgType key c = .ok (response, c')) :
    c' = c ∨ (msgType = cacheAdd ∧ c.call (.addScene key) = some c') ∨
      (msgType = cacheDel ∧ c.call (.removeScene key) = some c') := by
  rw [CacheUpdateHandler.handleRequest] at h
  dsimp only at h
  split_ifs at h with hadd hdel
  · exact .inr (.inl ⟨hadd, congrArg some (Prod.mk.inj (Except.ok.inj h)).2⟩)
  · cases hremove : c.removeScene key with
    | error e => rw [hremove] at h; cases h
    | ok c₁ =>
        rw [hremove] at h
        refine .inr (.inr ⟨hdel, ?_⟩)
        rw [DeviceCache.call, hremove]
        exact congrArg some (Prod.mk.inj (Except.ok.inj h)).2
  · exact .inl (Prod.mk.inj (Except.ok.inj h)).2.symm

/-- A request begins a thread, updates the cache, or does nothing. -/
lemma arrive_cases {c : HttpCall R} (h : s.arrive env decode accounts written c = some t) :
    t = s ∨
      (∃ handler p, createRequestHandler decode accounts c.request = .ok (some handler) ∧
        handler.program env written c = some p ∧
        t = { s with pool := { s.pool with threads := s.pool.threads ++ [p] } }) ∨
      ∃ msgType key response cache,
        createRequestHandler decode accounts c.request = .ok (some (.cacheUpdate msgType key)) ∧
        CacheUpdateHandler.handleRequest (R := R) msgType key s.cache = .ok (response, cache) ∧
        t = { s with cache } := by
  rcases orLogged_cases h with h | h
  · rcases hhandler : createRequestHandler decode accounts c.request with e | _ | handler
    · rw [hhandler] at h
      cases h
    · rw [hhandler] at h
      exact .inl (Except.ok.inj h).symm
    · rw [hhandler, bind_of_ok] at h
      dsimp only at h
      cases hp : handler.program env written c with
      | some p =>
          rw [hp] at h
          exact .inr (.inl ⟨handler, p, rfl, hp, (Except.ok.inj h).symm⟩)
      | none =>
          rw [hp] at h
          cases handler with
          | cacheUpdate msgType key =>
              dsimp only at h
              rcases hcache : CacheUpdateHandler.handleRequest (R := R) msgType key s.cache
                with e | ⟨response, cache⟩
              · rw [hcache] at h
                cases h
              · rw [hcache] at h
                exact .inr (.inr ⟨msgType, key, response, cache, rfl, hcache,
                  (Except.ok.inj h).symm⟩)
          | heartbeat => exact .inl (Except.ok.inj h).symm
          | _ => cases hp
  · exact .inl h

lemma advance_cases {i : ℕ} (h : s.advance fn i = some t) :
    t = { s with pool := s.pool.step (faulty fn) i } := by
  rw [advance] at h
  split at h
  · cases h
  · exact (Option.some.inj h).symm

/-- The loader begins a pass, asks, or stores. -/
lemma load_cases (h : s.load fn env = some t) :
    (s.keys = [] ∧ t = { s with keys := s.cache.sceneList, answer := none }) ∨
      (∃ k keys, s.keys = k :: keys ∧ s.answer = none ∧
        t = { s with pool := { s.pool with store := (faulty fn (loadSceneQuery k) s.pool.store).2 }
                     answer := some (faulty fn (loadSceneQuery k) s.pool.store).1 }) ∨
      ∃ k keys a cache, s.keys = k :: keys ∧ s.answer = some a ∧
        storeDevices env s.cache k a = .ok cache ∧ t = { s with cache, keys, answer := none } := by
  rw [load] at h
  split at h
  · next hkeys => exact .inl ⟨hkeys, (Option.some.inj h).symm⟩
  · next k keys hkeys hans => exact .inr (.inl ⟨k, keys, hkeys, hans, (Option.some.inj h).symm⟩)
  · next k keys a hkeys hans =>
      cases hstore : storeDevices env s.cache k a with
      | error e => rw [hstore] at h; cases h
      | ok cache =>
          rw [hstore] at h
          exact .inr (.inr ⟨k, keys, a, cache, hkeys, hans, hstore, (Option.some.inj h).symm⟩)

lemma event_eq {cfg : SenderConfig} {text : String}
    (h : s.step fn env decode accounts written (.event cfg text) = some t) : t = s := by
  rcases orLogged_cases h with h | h
  · cases hrun : runSender cfg s.cache.devices text with
    | error e => rw [hrun] at h; cases h
    | ok sent => rw [hrun] at h; exact (Except.ok.inj h).symm
  · exact h

omit [Field R] [LinearOrder R] in
/-- What the loader stores: nothing, or the addresses it has read. -/
lemma storeDevices_cases {c c' : DeviceCache} {k : String} {a : Answer R}
    (h : storeDevices env c k a = .ok c') :
    (c' = c ∧ ∀ rows, a = .rows rows → readAddresses env rows = .ok []) ∨
      ∃ rows l, a = .rows rows ∧ readAddresses env rows = .ok l ∧
        c.call (.setDevices k l) = some c' := by
  cases a with
  | throw what => exact .inl ⟨(Except.ok.inj h).symm, nofun⟩
  | null => exact .inl ⟨(Except.ok.inj h).symm, nofun⟩
  | rows rows =>
      rw [storeDevices] at h
      cases hl : readAddresses env rows with
      | error e => rw [hl] at h; cases h
      | ok l =>
          rw [hl, bind_of_ok] at h
          split_ifs at h with hlen
          · exact .inr ⟨rows, l, rfl, hl, by rw [DeviceCache.call, h]; rfl⟩
          · refine .inl ⟨(Except.ok.inj h).symm, fun rows' hrows => ?_⟩
            obtain rfl := Answer.rows.inj hrows
            rw [hl, List.length_eq_zero_iff.mp (Nat.eq_zero_of_not_pos hlen)]

/-- The calls of the cache that a step can make: scenes are added and removed by request, and
set to what the loader has read. -/
inductive CallsCache (env : Env R) (decode : String → String)
    (accounts : Option SingleAccountManager) (s : Application R) :
    Action R → DeviceCache.Call → Prop
  | add {c : HttpCall R} {k : String}
      (h : createRequestHandler decode accounts c.request
        = .ok (some (.cacheUpdate cacheAdd k))) :
      CallsCache env decode accounts s (.arrive c) (.addScene k)
  | remove {c : HttpCall R} {k : String}
      (h : createRequestHandler decode accounts c.request
        = .ok (some (.cacheUpdate cacheDel k))) :
      CallsCache env decode accounts s (.arrive c) (.removeScene k)
  | set {k : String} {keys : List String} {rows : List (List (Binding R))} {l : List Address}
      (hkeys : s.keys = k :: keys) (hans : s.answer = some (.rows rows))
      (hl : readAddresses env rows = .ok l) :
      CallsCache env decode accounts s .load (.setDevices k l)

/-- A step leaves the cache, or makes one of these calls. -/
lemma cache_step {a : Action R} (h : s.step fn env decode accounts written a = some t) :
    t.cache = s.cache ∨
      ∃ r, CallsCache env decode accounts s a r ∧ s.cache.call r = some t.cache := by
  cases a with
  | arrive c =>
      rcases arrive_cases h with rfl | ⟨-, -, -, -, rfl⟩ |
        ⟨msgType, key, response, cache, hhandler, hcache, rfl⟩
      · exact .inl rfl
      · exact .inl rfl
      · rcases handleRequest_cache hcache with rfl | ⟨rfl, hcall⟩ | ⟨rfl, hcall⟩
        · exact .inl rfl
        · exact .inr ⟨_, .add hhandler, hcall⟩
        · exact .inr ⟨_, .remove hhandler, hcall⟩
  | advance i =>
      obtain rfl := advance_cases h
      exact .inl rfl
  | load =>
      rcases load_cases h with ⟨-, rfl⟩ | ⟨-, -, -, -, rfl⟩ |
        ⟨k, keys, a, cache, hkeys, hans, hstore, rfl⟩
      · exact .inl rfl
      · exact .inl rfl
      · rcases storeDevices_cases hstore with ⟨rfl, -⟩ | ⟨rows, l, rfl, hl, hcall⟩
        · exact .inl rfl
        · exact .inr ⟨_, .set hkeys hans hl, hcall⟩
  | event cfg text =>
      obtain rfl := event_eq h
      exact .inl rfl

end Steps

/-! ### What the database keeps -/

/-- The queries that messages of some kind can ask. -/
def Carried (env : Env R) (P : Message R → Prop) (q : Query R) : Prop := ∃ m, P m ∧ m.Asked env q

/-- The threads process messages of some kind, the database has a property, and had it when the
answer of the loader was given. -/
structure Confined (env : Env R) (P : Message R → Prop) (I : Graph R → Prop)
    (s : Application R) : Prop where
  threads : ∀ p ∈ s.pool.threads, p.Asks (Carried env P)
  graph : I s.graph
  answer : ∀ k keys rows, s.keys = k :: keys → s.answer = some (.rows rows) →
    ∃ g, I g ∧ deviceRows g k = .rows rows

section Confined

variable {fn : String → R → R} {env : Env R} {decode : String → String}
  {accounts : Option SingleAccountManager} {written : SceneList R → String}
  {P : Message R → Prop} {I : Graph R → Prop} {s t : Application R}

/-- The run of a handler asks the queries of its message. -/
lemma asks_handler {c : HttpCall R} {handler : Handler} {p : Db R (Response R)}
    (hp : handler.program env written c = some p)
    (hP : ∀ m, handler.message? env c = some m → P m) : p.Asks (Carried env P) := by
  rcases program_cases hp with ⟨-, r, rfl⟩ | ⟨x, rfl, -, hx⟩
  · exact Prog.Asks.pure r
  · refine Prog.Asks.bind ?_ fun _ => Prog.Asks.pure _
    cases hm : handler.message? env c with
    | none =>
        rw [hm] at hx
        obtain ⟨e, he⟩ := hx
        rw [he]
        exact Prog.Asks.lift _
    | some m =>
        rw [hm] at hx
        have hask : x.ask = m.program env := hx
        rw [hask]
        exact (asked_message m).mono fun q hq => ⟨m, hP m hm, hq⟩

/-- The query of the loader, answered or not. -/
lemma faulty_loadScene (k : String) (os : List Outcome) (g : Graph R) :
    faulty fn (loadSceneQuery k) (os, g)
      = ((os.headD .served).answer (deviceRows g k), (os.tail, g)) :=
  faulty_isUdRegistered fn k os g

namespace Confined

/-- What the queries of the messages keep, every step keeps. -/
lemma step (hI : ∀ m, P m → ∀ q g, m.Asked env q → I g → I (db fn q g).2)
    (h : Confined env P I s) {a : Action R}
    (hcall : ∀ c m, a = .arrive c → c.message? env decode accounts = some m → P m)
    (hstep : s.step fn env decode accounts written a = some t) : Confined env P I t := by
  have hfaulty : ∀ q (u : List Outcome × Graph R), Carried env P q → I u.2 →
      I (faulty fn q u).2.2 := by
    rintro q ⟨os, g⟩ ⟨m, hm, hq⟩ hg
    rcases snd_faulty fn q os g with heq | heq <;> rw [heq]
    · exact hg
    · exact hI m hm q g hq hg
  cases a with
  | arrive c =>
      rcases arrive_cases hstep with rfl | ⟨handler, p, hhandler, hp, rfl⟩ | ⟨-, -, -, -, -, -, rfl⟩
      · exact h
      · refine ⟨fun p' hp' => ?_, h.graph, h.answer⟩
        rcases List.mem_append.mp hp' with hp' | hp'
        · exact h.threads p' hp'
        · obtain rfl := List.mem_singleton.mp hp'
          refine asks_handler hp fun m hm => hcall c m rfl ?_
          rw [HttpCall.message?, hhandler]
          exact hm
      · exact ⟨h.threads, h.graph, h.answer⟩
  | advance i =>
      obtain rfl := advance_cases hstep
      exact ⟨Pool.asks_step _ h.threads i,
        Pool.interleave_invariant (I := fun u : List Outcome × Graph R => I u.2) hfaulty [i]
          h.threads h.graph, h.answer⟩
  | load =>
      rcases load_cases hstep with ⟨-, rfl⟩ | ⟨k, keys, hkeys, -, rfl⟩ |
        ⟨k, keys, a, cache, -, -, -, rfl⟩
      · exact ⟨h.threads, h.graph, fun _ _ _ _ hans => by cases hans⟩
      · refine ⟨h.threads, ?_, fun k' keys' rows hkeys' hans => ?_⟩
        · show I (faulty fn (loadSceneQuery k) (s.pool.store.1, s.pool.store.2)).2.2
          rw [faulty_loadScene]
          exact h.graph
        · obtain ⟨rfl, rfl⟩ := List.cons.inj (hkeys.symm.trans hkeys')
          have hans' := Option.some.inj hans
          rw [← Prod.mk.eta (p := s.pool.store), faulty_loadScene] at hans'
          exact ⟨s.graph, h.graph, (Outcome.answer_eq_rows hans').2⟩
      · exact ⟨h.threads, h.graph, fun _ _ _ _ hans => by cases hans⟩
  | event cfg text =>
      obtain rfl := event_eq hstep
      exact h

lemma start (hI : I Graph.empty) (os : List Outcome) (adrestia : Except String (Json.Value R)) :
    Confined env P I (Application.start os adrestia) where
  threads _ hp := by cases hp
  graph := hI
  answer _ _ _ hkeys := by cases hkeys

/-- What the queries of the messages keep, every run keeps. -/
lemma run (hI : ∀ m, P m → ∀ q g, m.Asked env q → I g → I (db fn q g).2) {as : List (Action R)}
    (hcall : ∀ c m, .arrive c ∈ as → c.message? env decode accounts = some m → P m)
    (h : Confined env P I s)
    (hrun : as.foldlM (Application.step fn env decode accounts written) s = some t) :
    Confined env P I t := by
  refine foldlM_invariant (K := fun a => a ∈ as) (fun s a t h ha hstep => ?_) h
    (fun _ ha => ha) hrun
  exact h.step hI (fun c m hc hm => hcall c m (hc ▸ ha) hm) hstep

end Confined

end Confined

end Application

end CrazyIvan
