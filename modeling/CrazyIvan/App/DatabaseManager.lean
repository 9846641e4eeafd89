import CrazyIvan.Library.Heap
import CrazyIvan.Library.Resumption
import Mathlib.Tactic

/-!
The connection to the database, which many calls of `execute` share: it is made by
the call that is first, and replaced once too many queries have failed.

* `DatabaseManager`, `findNewConnection`, `setNewConnection`: the manager, with its
  services and connections on heaps. A null pointer that is followed, and an object
  that is used or deleted after it was deleted, have no meaning.
* `Execution`, `step`: the calls of `execute`, each at one of its steps: the flag,
  the discovery behind it, the query under the read lock, the failure counter, and
  the section under the write lock.
* `Cautious`: what a step has to heed.
* `throughout_iff_cautious`: the runs that have a meaning.
-/

namespace CrazyIvan

open Resumption

/-! ### The manager -/

/-- How a discovery ends: with a service, with none, or with an exception: from
`get_service`, behind it (with a service or with none), or where the new interface is
built. -/
inductive Discovery where
  | found
  | noService
  | noAnswer
  | noOptions
  | noServiceNoOptions
  | noInterface
deriving DecidableEq, Repr

/-- The manager. `discoveries` records how the discoveries have ended, the last one
first. The counter has no bound here: 2^31 failed queries, at a time or over reconnections that
end in exceptions, would overflow it. -/
structure DatabaseManager where
  internalConnection : Heap.Ptr := none
  connectedService : Heap.Ptr := none
  failures : ℕ := 0
  initialized : Bool := false
  connections : Heap Unit := []
  services : Heap Unit := []
  discoveries : List Discovery := []
deriving DecidableEq, Repr

namespace DatabaseManager

def maxFailures : ℕ := 5
def maxRetries : ℕ := 11

/-- `delete`. -/
def delete (h : Heap Unit) (ptr : Heap.Ptr) : Option (Heap Unit) := h.free (fun _ => true) ptr

/-- Discover a service and connect to it. The flag is false if an exception is
thrown. -/
def findNewConnection (m : DatabaseManager) (d : Discovery) : Option (DatabaseManager × Bool) :=
  let m := { m with discoveries := d :: m.discoveries }
  if d = .noAnswer then some (m, false)
  else
    let m :=
      if d = .noService ∨ d = .noServiceNoOptions then { m with connectedService := none }
      else { m with
        services := m.services ++ [some ()]
        connectedService := some m.services.length }
    if d = .noOptions ∨ d = .noServiceNoOptions then some (m, false)
    else do
      -- The address of the service is read.
      let _ ← m.services.deref m.connectedService
      let connections ← delete m.connections m.internalConnection
      if d = .noInterface then some ({ m with connections }, false)
      else some ({ m with
        connections := connections ++ [some ()]
        internalConnection := some connections.length }, true)

/-- Replace the connection if the queries failed too often. The pointer to the
service that is deleted keeps its value until there is another service. -/
def setNewConnection (m : DatabaseManager) (d : Discovery) : Option (DatabaseManager × Bool) :=
  if m.failures > maxFailures then do
    let services ← delete m.services m.connectedService
    let (m, returned) ← { m with services }.findNewConnection d
    some (if returned then { m with failures := 0 } else m, returned)
  else some (m, true)

end DatabaseManager

/-! ### Calls -/

/-- Where a call of `execute` is, with the retries it has made; or that it has
returned what the query returned, has returned a null pointer, or has thrown. -/
inductive ExecutePc where
  | ready (retries : ℕ)
  | discovering (retries : ℕ)
  | querying (retries : ℕ)
  | failed (retries : ℕ)
  | reconnecting (retries : ℕ)
  | returned
  | exhausted
  | raised
deriving DecidableEq, Repr

/-- A call of `execute`. `failedOn` records the connections of its failed
attempts. -/
structure Execute where
  pc : ExecutePc := .ready 0
  failedOn : List Heap.Ptr := []
deriving DecidableEq, Repr

/-- The manager with its calls. -/
structure Execution (ι : Type) where
  manager : DatabaseManager := {}
  calls : ι → Execute := fun _ => {}

/-- The call that makes its next step, whether a query throws, and how a discovery
ends. -/
structure Turn (ι : Type) where
  call : ι
  throws : Bool := false
  discovery : Discovery := .found

namespace Execution

open DatabaseManager

variable {ι : Type} [DecidableEq ι]

/-- A call goes on, with the manager as it is now. -/
def move (s : Execution ι) (i : ι) (m : DatabaseManager) (pc : ExecutePc) : Execution ι where
  manager := m
  calls := Function.update s.calls i { s.calls i with pc }

/-- The query of a call throws. -/
def fail (s : Execution ι) (i : ι) (retries : ℕ) : Execution ι where
  manager := s.manager
  calls := Function.update s.calls i
    ⟨.failed retries, s.manager.internalConnection :: (s.calls i).failedOn⟩

/-- The next step of a call; one that has ended does nothing. -/
def step (s : Execution ι) (t : Turn ι) : Option (Execution ι) :=
  let m := s.manager
  let i := t.call
  match (s.calls i).pc with
  | .ready retries =>
      if retries < maxRetries then
        -- `compare_exchange_strong`
        if m.initialized then some (s.move i m (.querying retries))
        else some (s.move i { m with initialized := true } (.discovering retries))
      else some (s.move i m .exhausted)
  | .discovering retries => do
      let (m, returned) ← m.findNewConnection t.discovery
      some (s.move i m (if returned then .querying retries else .raised))
  | .querying retries => do
      let _ ← m.connections.deref m.internalConnection
      some (if t.throws then s.fail i retries else s.move i m .returned)
  | .failed retries =>
      some (s.move i { m with failures := m.failures + 1 } (.reconnecting retries))
  | .reconnecting retries => do
      let (m, returned) ← m.setNewConnection t.discovery
      some (s.move i m (if returned then .ready (retries + 1) else .raised))
  | .returned | .exhausted | .raised => some s

end Execution

/-! ### The manager on its own -/

/-- Since a discovery last found a service, none has failed while it built the
interface. -/
def Usable : List Discovery → Prop
  | [] => False
  | .found :: _ => True
  | .noInterface :: _ => False
  | _ :: l => Usable l

/-- The pointer to the service is not null: `get_service` has set it last to a service. -/
def Serviced : List Discovery → Prop
  | [] => False
  | .noAnswer :: l => Serviced l
  | .noService :: _ => False
  | .noServiceNoOptions :: _ => False
  | _ => True

namespace DatabaseManager

/-- What the outcomes of the discoveries say of the pointers. -/
structure Sound (m : DatabaseManager) : Prop where
  usable : Usable m.discoveries ↔ (m.connections.deref m.internalConnection).isSome = true
  created : .found ∈ m.discoveries ↔ m.internalConnection ≠ none
  serviced : Serviced m.discoveries ↔ m.connectedService ≠ none
  service : (m.services.deref m.connectedService).isSome = true ↔
    Serviced m.discoveries ∧ m.discoveries.head? ≠ some .noAnswer

/-- Where a discovery can go on, with the service deleted before. -/
structure Discoverable (m : DatabaseManager) (d : Discovery) : Prop where
  usable : Usable m.discoveries ↔ (m.connections.deref m.internalConnection).isSome = true
  created : .found ∈ m.discoveries ↔ m.internalConnection ≠ none
  serviced : Serviced m.discoveries ↔ m.connectedService ≠ none
  service : m.services.deref m.connectedService = none
  isService : d ≠ .noService
  deletable : d = .found ∨ d = .noInterface → m.internalConnection = none ∨ Usable m.discoveries

/-- What a discovery leaves. -/
structure Discovered (m : DatabaseManager) (d : Discovery) (m' : DatabaseManager)
    (returned : Bool) : Prop where
  sound : m'.Sound
  discoveries : m'.discoveries = d :: m.discoveries
  failures : m'.failures = m.failures
  initialized : m'.initialized = m.initialized
  returned : returned = true → d = .found

lemma exists_findNewConnection {m : DatabaseManager} {d : Discovery} (h : m.Discoverable d) :
    ∃ m' returned, m.findNewConnection d = some (m', returned) ∧ m.Discovered d m' returned := by
  have hnew := Heap.deref_append_new m.services ()
  cases d with
  | noService => exact absurd rfl h.isService
  | noAnswer =>
      refine ⟨_, _, rfl, ⟨h.usable, ?_, h.serviced, ?_⟩, rfl, rfl, rfl, nofun⟩
      · simpa using h.created
      · simp [h.service]
  | noOptions =>
      refine ⟨_, _, rfl, ⟨h.usable, ?_, ?_, ?_⟩, rfl, rfl, rfl, nofun⟩
      · simpa using h.created
      · simp [Serviced]
      · simp [hnew, Serviced]
  | noServiceNoOptions =>
      refine ⟨_, _, rfl, ⟨h.usable, ?_, ?_, ?_⟩, rfl, rfl, rfl, nofun⟩
      · simpa using h.created
      · simp [Serviced]
      · simp [Serviced]
  | noInterface =>
      -- The connection is deleted, and none takes its place.
      obtain ⟨connections, hfree⟩ := Heap.exists_free_iff.mpr
        ((h.deletable (.inr rfl)).imp_right h.usable.mp)
      have heq : m.findNewConnection .noInterface = some ({ m with
          connections
          services := m.services ++ [some ()]
          connectedService := some m.services.length
          discoveries := .noInterface :: m.discoveries }, false) := by
        simp [findNewConnection, delete, hnew, hfree]
      refine ⟨_, _, heq, ⟨?_, ?_, ?_, ?_⟩, rfl, rfl, rfl, nofun⟩
      · simp [Usable, Heap.deref_of_free hfree]
      · simpa using h.created
      · simp [Serviced]
      · simp [hnew, Serviced]
  | found =>
      obtain ⟨connections, hfree⟩ := Heap.exists_free_iff.mpr
        ((h.deletable (.inl rfl)).imp_right h.usable.mp)
      have heq : m.findNewConnection .found = some ({ m with
          connections := connections ++ [some ()]
          internalConnection := some connections.length
          services := m.services ++ [some ()]
          connectedService := some m.services.length
          discoveries := .found :: m.discoveries }, true) := by
        simp [findNewConnection, delete, hnew, hfree]
      refine ⟨_, _, heq, ⟨?_, ?_, ?_, ?_⟩, rfl, rfl, rfl, fun _ => rfl⟩
      · simp [Usable, Heap.deref_append_new]
      · simp
      · simp [Serviced]
      · simp [hnew, Serviced]

/-- A discovery without a service has no meaning. -/
lemma findNewConnection_noService (m : DatabaseManager) :
    m.findNewConnection .noService = none := rfl

/-- A discovery that replaces a connection deletes it. -/
lemma deletable_of_findNewConnection {m : DatabaseManager} {d : Discovery}
    (hd : d = .found ∨ d = .noInterface) {r : DatabaseManager × Bool}
    (h : m.findNewConnection d = some r) :
    m.internalConnection = none ∨ (m.connections.deref m.internalConnection).isSome = true := by
  refine Heap.exists_free_iff.mp ?_
  by_contra hfree
  have hnone : delete m.connections m.internalConnection = none :=
    Option.eq_none_iff_forall_ne_some.mpr fun h' h => hfree ⟨h', h⟩
  rcases hd with rfl | rfl
  · simp [findNewConnection, hnone, Heap.deref_append_new] at h
  · simp [findNewConnection, hnone, Heap.deref_append_new] at h

lemma sound_new : ({} : DatabaseManager).Sound where
  usable := by simp [Usable]
  created := by simp
  serviced := by simp [Serviced]
  service := by simp [Serviced]

/-- The discovery behind the flag. -/
lemma exists_findNewConnection_first {m : DatabaseManager} (hm : m.Sound)
    (hfirst : m.discoveries = []) {d : Discovery} (hd : d ≠ .noService) :
    ∃ m' returned, m.findNewConnection d = some (m', returned) ∧ m.Discovered d m' returned := by
  have hconnection : m.internalConnection = none := by
    by_contra h
    simpa [hfirst] using hm.created.mpr h
  have hservice : m.services.deref m.connectedService = none := by
    by_contra h
    simpa [hfirst, Serviced] using hm.service.mp (Option.isSome_iff_ne_none.mpr h)
  exact exists_findNewConnection
    ⟨hm.usable, hm.created, hm.serviced, hservice, hd, fun _ => .inl hconnection⟩

/-- A reconnection does not come back without a service, the one that is replaced was not
deleted before, and neither was the connection that is replaced. -/
structure Replaceable (m : DatabaseManager) (d : Discovery) : Prop where
  isService : d ≠ .noService
  service : Serviced m.discoveries → m.discoveries.head? ≠ some .noAnswer
  connection : d = .found ∨ d = .noInterface → Usable m.discoveries

/-- A reconnection, after a connection was made. -/
lemma exists_setNewConnection {m : DatabaseManager} (hm : m.Sound)
    (hfound : .found ∈ m.discoveries) {d : Discovery}
    (hd : m.failures > maxFailures → m.Replaceable d) :
    ∃ m' returned, m.setNewConnection d = some (m', returned) ∧ m'.Sound ∧
      m'.initialized = m.initialized ∧ .found ∈ m'.discoveries := by
  by_cases hmax : m.failures > maxFailures
  · have hreplace := hd hmax
    have hservice : m.connectedService = none ∨
        (m.services.deref m.connectedService).isSome = true := by
      by_cases hnone : m.connectedService = none
      · exact .inl hnone
      · have hserviced := hm.serviced.mpr hnone
        exact .inr (hm.service.mpr ⟨hserviced, hreplace.service hserviced⟩)
    obtain ⟨services, hfree⟩ := Heap.exists_free_iff.mpr hservice
    obtain ⟨m', returned, hfind, hdiscovered⟩ :=
      exists_findNewConnection (m := { m with services }) (d := d) ⟨hm.usable, hm.created,
        hm.serviced, Heap.deref_of_free hfree, hreplace.isService,
        fun h => .inr (hreplace.connection h)⟩
    refine ⟨if returned then { m' with failures := 0 } else m', returned, ?_, ?_, ?_, ?_⟩
    · rw [setNewConnection, if_pos hmax, delete, hfree]
      simp [hfind]
    · have hsound := hdiscovered.sound
      split
      · exact ⟨hsound.usable, hsound.created, hsound.serviced, hsound.service⟩
      · exact hsound
    · have hinitialized := hdiscovered.initialized
      split <;> exact hinitialized
    · have hmem : .found ∈ m'.discoveries :=
        hdiscovered.discoveries ▸ List.mem_cons_of_mem _ hfound
      split <;> exact hmem
  · exact ⟨m, true, if_neg hmax, hm, rfl, hfound⟩

/-- A reconnection that has a meaning replaces what can be replaced. -/
lemma replaceable_of_setNewConnection {m : DatabaseManager} (hm : m.Sound)
    (hfound : .found ∈ m.discoveries) {d : Discovery} (hmax : m.failures > maxFailures)
    {r : DatabaseManager × Bool} (h : m.setNewConnection d = some r) : m.Replaceable d := by
  rw [setNewConnection, if_pos hmax] at h
  obtain ⟨services, hfree, h⟩ := Option.bind_eq_some_iff.mp h
  obtain ⟨r', hfind, -⟩ := Option.bind_eq_some_iff.mp h
  refine ⟨?_, fun hserviced => ?_, fun hd => ?_⟩
  · rintro rfl
    rw [findNewConnection_noService] at hfind
    cases hfind
  · rcases Heap.exists_free_iff.mp ⟨services, hfree⟩ with hnone | hsome
    · exact absurd hnone (hm.serviced.mp hserviced)
    · exact (hm.service.mp hsome).2
  · rcases deletable_of_findNewConnection hd hfind with hnone | hsome
    · exact absurd hnone (hm.created.mp hfound)
    · exact hm.usable.mpr hsome

end DatabaseManager

/-! ### Runs -/

namespace Execution

open DatabaseManager

variable {ι : Type} [DecidableEq ι]

/-- A call is between the flag and the end of its discovery. -/
def Discovering (s : Execution ι) (i : ι) : Prop :=
  ∃ retries, (s.calls i).pc = .discovering retries

/-- A query of the call has failed, and it has not yet come back. -/
def Failing (s : Execution ι) (i : ι) : Prop :=
  ∃ retries, (s.calls i).pc = .failed retries ∨ (s.calls i).pc = .reconnecting retries

/-- A query comes after a discovery that has made a connection; no discovery comes
back without a service; and a reconnection does not follow on one where an exception
left a deleted object behind. -/
def Cautious (s : Execution ι) (t : Turn ι) : Prop :=
  match (s.calls t.call).pc with
  | .discovering _ => t.discovery ≠ .noService
  | .querying _ => Usable s.manager.discoveries
  | .reconnecting _ => s.manager.failures > maxFailures → s.manager.Replaceable t.discovery
  | _ => True

/-- What holds between two steps. -/
structure Invariant (s : Execution ι) : Prop where
  sound : s.manager.Sound
  fresh : s.manager.initialized = false → s.manager.discoveries = [] ∧ ∀ i, ¬ s.Discovering i
  alone : ∀ i j, s.Discovering i → s.Discovering j → i = j
  first : ∀ i, s.Discovering i → s.manager.discoveries = []
  failing : ∀ i, s.Failing i → .found ∈ s.manager.discoveries

lemma move_self (s : Execution ι) (i : ι) (m : DatabaseManager) (pc : ExecutePc) :
    (s.move i m pc).calls i = ⟨pc, (s.calls i).failedOn⟩ :=
  Function.update_self ..

lemma move_of_ne (s : Execution ι) {i j : ι} (h : j ≠ i) (m : DatabaseManager) (pc : ExecutePc) :
    (s.move i m pc).calls j = s.calls j :=
  Function.update_of_ne h _ _

lemma fail_of_ne (s : Execution ι) {i j : ι} (h : j ≠ i) (retries : ℕ) :
    (s.fail i retries).calls j = s.calls j :=
  Function.update_of_ne h _ _

omit [DecidableEq ι] in
lemma discovering_congr {s s' : Execution ι} {i : ι} (h : s'.calls i = s.calls i) :
    s'.Discovering i ↔ s.Discovering i := by
  rw [Discovering, h, Discovering]

omit [DecidableEq ι] in
/-- A step of a call that does not begin a discovery. -/
lemma Invariant.of_others {s s' : Execution ι} (hs : s.Invariant) {i : ι}
    (hothers : ∀ j, j ≠ i → s'.calls j = s.calls j) (hi : ¬ s'.Discovering i)
    (hfailing : s'.Failing i → .found ∈ s'.manager.discoveries)
    (hsound : s'.manager.Sound) (hinit : s'.manager.initialized = s.manager.initialized)
    (hdiscoveries : s'.manager.discoveries = s.manager.discoveries ∨
      (∀ j, j ≠ i → ¬ s.Discovering j) ∧ s.manager.initialized = true ∧
        (.found ∈ s.manager.discoveries → .found ∈ s'.manager.discoveries)) : s'.Invariant := by
  have hback : ∀ j, s'.Discovering j → j ≠ i ∧ s.Discovering j := fun j hj => by
    have hne : j ≠ i := fun h => hi (h ▸ hj)
    exact ⟨hne, (discovering_congr (hothers j hne)).mp hj⟩
  refine ⟨hsound, fun hfresh => ?_, fun j k hj hk => ?_, fun j hj => ?_, fun j hj => ?_⟩
  · obtain ⟨hnil, hnone⟩ := hs.fresh (hinit.symm.trans hfresh)
    refine ⟨?_, fun j hj => hnone j (hback j hj).2⟩
    rcases hdiscoveries with heq | ⟨-, htrue, -⟩
    · rw [heq, hnil]
    · exact absurd (hinit.symm.trans hfresh) (by simp [htrue])
  · exact hs.alone j k (hback j hj).2 (hback k hk).2
  · obtain ⟨hne, hj⟩ := hback j hj
    rcases hdiscoveries with heq | ⟨hnone, -, -⟩
    · rw [heq, hs.first j hj]
    · exact absurd hj (hnone j hne)
  · by_cases hij : j = i
    · exact hfailing (hij ▸ hj)
    · have hfound : .found ∈ s.manager.discoveries := hs.failing j <| by
        rwa [Failing, hothers j hij] at hj
      rcases hdiscoveries with heq | ⟨-, -, hmono⟩
      · exact heq ▸ hfound
      · exact hmono hfound

lemma found_of_usable {l : List Discovery} (h : Usable l) : .found ∈ l := by
  induction l with
  | nil => exact h.elim
  | cons d l ih =>
      cases d with
      | found => exact List.mem_cons_self
      | noInterface => exact h.elim
      | _ => exact List.mem_cons_of_mem _ (ih h)

/-- A call that goes on with something else than a discovery. -/
lemma Invariant.move {s : Execution ι} (hs : s.Invariant) {i : ι} {m : DatabaseManager}
    {pc : ExecutePc} (hpc : ∀ retries, pc ≠ .discovering retries)
    (hfailing : (∃ retries, pc = .failed retries ∨ pc = .reconnecting retries) →
      .found ∈ m.discoveries)
    (hsound : m.Sound) (hinit : m.initialized = s.manager.initialized)
    (hdiscoveries : m.discoveries = s.manager.discoveries ∨
      (∀ j, j ≠ i → ¬ s.Discovering j) ∧ s.manager.initialized = true ∧
        (.found ∈ s.manager.discoveries → .found ∈ m.discoveries)) :
    (s.move i m pc).Invariant := by
  refine hs.of_others (fun j hj => s.move_of_ne hj m pc) ?_ ?_ hsound hinit hdiscoveries
  · rintro ⟨retries, h⟩
    rw [move_self] at h
    exact hpc retries h
  · rintro ⟨retries, h⟩
    rw [move_self] at h
    exact hfailing ⟨retries, h⟩

/-- The first call raises the flag. -/
lemma Invariant.raise {s : Execution ι} (hs : s.Invariant) (i : ι) (retries : ℕ)
    (hinit : s.manager.initialized = false) :
    (s.move i { s.manager with initialized := true } (.discovering retries)).Invariant := by
  obtain ⟨hnil, hnone⟩ := hs.fresh hinit
  have honly : ∀ j, (s.move i { s.manager with initialized := true }
      (.discovering retries)).Discovering j → j = i := by
    intro j hj
    by_contra hne
    exact hnone j ((discovering_congr (s.move_of_ne hne _ _)).mp hj)
  have hsound := hs.sound
  refine ⟨⟨hsound.usable, hsound.created, hsound.serviced, hsound.service⟩, nofun,
    fun j k hj hk => (honly j hj).trans (honly k hk).symm, fun _ _ => hnil, fun j hj => ?_⟩
  by_cases hne : j = i
  · subst hne
    obtain ⟨n, h⟩ := hj
    rw [move_self] at h
    rcases h with h | h <;> cases h
  · refine hs.failing j ?_
    rwa [Failing, s.move_of_ne hne] at hj

omit [DecidableEq ι] in
/-- A call that discovers has the flag raised. -/
lemma Invariant.initialized_of_discovering {s : Execution ι} (hs : s.Invariant) {i : ι}
    (hi : s.Discovering i) : s.manager.initialized = true := by
  by_contra h
  exact (hs.fresh (by simpa using h)).2 i hi

/-- The end of a discovery. -/
lemma exists_step_discovering {s : Execution ι} (hs : s.Invariant) {t : Turn ι} {retries : ℕ}
    (hpc : (s.calls t.call).pc = .discovering retries) (hd : t.discovery ≠ .noService) :
    ∃ s', s.step t = some s' ∧ s'.Invariant := by
  have hcall : s.Discovering t.call := ⟨retries, hpc⟩
  obtain ⟨m', returned, hfind, hdiscovered⟩ :=
    exists_findNewConnection_first hs.sound (hs.first _ hcall) hd
  have hothers : ∀ j, j ≠ t.call → ¬ s.Discovering j := fun j hne hj =>
    hne (hs.alone j t.call hj hcall)
  refine ⟨s.move t.call m' (if returned then .querying retries else .raised),
    by simp [step, hpc, hfind], hs.move ?_ ?_ hdiscovered.sound hdiscovered.initialized
      (.inr ⟨hothers, hs.initialized_of_discovering hcall, fun h => ?_⟩)⟩
  · cases returned <;> simp
  · cases returned <;> simp
  · rw [hdiscovered.discoveries]
    exact List.mem_cons_of_mem _ h

/-- A query, on a connection that was made. -/
lemma exists_step_querying {s : Execution ι} (hs : s.Invariant) {t : Turn ι} {retries : ℕ}
    (hpc : (s.calls t.call).pc = .querying retries) (husable : Usable s.manager.discoveries) :
    ∃ s', s.step t = some s' ∧ s'.Invariant := by
  obtain ⟨r, hderef⟩ := Option.isSome_iff_exists.mp (hs.sound.usable.mp husable)
  cases hthrows : t.throws with
  | true =>
      refine ⟨s.fail t.call retries, by simp [step, hpc, hderef, hthrows],
        hs.of_others (i := t.call) (fun j hj => s.fail_of_ne hj retries) ?_ ?_ hs.sound rfl
          (.inl rfl)⟩
      · rintro ⟨n, h⟩
        simp [fail] at h
      · exact fun _ => found_of_usable husable
  | false =>
      exact ⟨s.move t.call s.manager .returned, by simp [step, hpc, hderef, hthrows],
        hs.move (by simp) (by simp) hs.sound rfl (.inl rfl)⟩

/-- A reconnection: by then a discovery has made a connection. -/
lemma exists_step_reconnecting {s : Execution ι} (hs : s.Invariant) {t : Turn ι} {retries : ℕ}
    (hpc : (s.calls t.call).pc = .reconnecting retries)
    (hreplace : s.manager.failures > maxFailures → s.manager.Replaceable t.discovery) :
    ∃ s', s.step t = some s' ∧ s'.Invariant := by
  have hfound := hs.failing t.call ⟨retries, .inr hpc⟩
  obtain ⟨m', returned, hset, hsound, hinit, hfound'⟩ :=
    exists_setNewConnection hs.sound hfound hreplace
  have hnone : ∀ j, ¬ s.Discovering j := fun j hj => by
    rw [hs.first j hj] at hfound
    cases hfound
  have hraised : s.manager.initialized = true := by
    by_contra h
    rw [(hs.fresh (by simpa using h)).1] at hfound
    cases hfound
  refine ⟨s.move t.call m' (if returned then .ready (retries + 1) else .raised),
    by simp [step, hpc, hset], hs.move ?_ ?_ hsound hinit
      (.inr ⟨fun j _ => hnone j, hraised, fun _ => hfound'⟩)⟩
  · cases returned <;> simp
  · cases returned <;> simp

/-- A cautious step has a meaning, and keeps the invariant. -/
lemma exists_step {s : Execution ι} (hs : s.Invariant) {t : Turn ι} (ht : s.Cautious t) :
    ∃ s', s.step t = some s' ∧ s'.Invariant := by
  cases hpc : (s.calls t.call).pc with
  | ready retries =>
      by_cases hretries : retries < maxRetries
      · cases hinit : s.manager.initialized with
        | true =>
            exact ⟨s.move t.call s.manager (.querying retries),
              by simp [step, hpc, hretries, hinit],
              hs.move (by simp) (by simp) hs.sound rfl (.inl rfl)⟩
        | false => exact ⟨_, by simp [step, hpc, hretries, hinit], hs.raise t.call retries hinit⟩
      · exact ⟨s.move t.call s.manager .exhausted, by simp [step, hpc, hretries],
          hs.move (by simp) (by simp) hs.sound rfl (.inl rfl)⟩
  | discovering retries => exact exists_step_discovering hs hpc (by simpa [Cautious, hpc] using ht)
  | querying retries => exact exists_step_querying hs hpc (by simpa [Cautious, hpc] using ht)
  | failed retries =>
      have hfound := hs.failing t.call ⟨retries, .inl hpc⟩
      have hsound := hs.sound
      exact ⟨s.move t.call { s.manager with failures := s.manager.failures + 1 }
        (.reconnecting retries), by simp [step, hpc], hs.move (by simp)
        (fun _ => hfound) ⟨hsound.usable, hsound.created, hsound.serviced, hsound.service⟩ rfl
        (.inl rfl)⟩
  | reconnecting retries =>
      exact exists_step_reconnecting hs hpc (by simpa [Cautious, hpc] using ht)
  | returned => exact ⟨s, by simp [step, hpc], hs⟩
  | exhausted => exact ⟨s, by simp [step, hpc], hs⟩
  | raised => exact ⟨s, by simp [step, hpc], hs⟩

/-- A step that has a meaning is cautious. -/
lemma cautious_of_step {s s' : Execution ι} (hs : s.Invariant) {t : Turn ι}
    (h : s.step t = some s') : s.Cautious t := by
  cases hpc : (s.calls t.call).pc with
  | discovering retries =>
      suffices t.discovery ≠ .noService by simpa [Cautious, hpc]
      intro hd
      simp [step, hpc, hd, findNewConnection_noService] at h
  | querying retries =>
      suffices Usable s.manager.discoveries by simpa [Cautious, hpc]
      rw [hs.sound.usable]
      by_contra hnone
      rw [Bool.not_eq_true, Option.isSome_eq_false_iff, Option.isNone_iff_eq_none] at hnone
      simp [step, hpc, hnone] at h
  | reconnecting retries =>
      suffices s.manager.failures > maxFailures → s.manager.Replaceable t.discovery by
        simpa [Cautious, hpc]
      intro hmax
      simp only [step, hpc] at h
      obtain ⟨r, hset, -⟩ := Option.bind_eq_some_iff.mp h
      exact replaceable_of_setNewConnection hs.sound (hs.failing _ ⟨retries, .inr hpc⟩) hmax hset
  | _ => simp [Cautious, hpc]

omit [DecidableEq ι] in
lemma invariant_start : ({} : Execution ι).Invariant where
  sound := sound_new
  fresh _ := ⟨rfl, by rintro i ⟨retries, ⟨⟩⟩⟩
  alone := by rintro i j ⟨retries, ⟨⟩⟩
  first := by rintro i ⟨retries, ⟨⟩⟩
  failing := by rintro i ⟨retries, ⟨⟨⟩⟩ | ⟨⟨⟩⟩⟩

/-- The runs of any number of calls in which every step has a meaning: those in which
every step is cautious. -/
theorem throughout_iff_cautious (ts : List (Turn ι)) :
    Throughout step (fun _ _ _ => True) ({} : Execution ι) ts ↔ Admitted step Cautious {} ts :=
  throughout_iff_admitted (I := Invariant)
    (fun _ _ hs ht => (exists_step hs ht).imp fun _ h => ⟨h.1, trivial, h.2⟩)
    (fun _ _ _ hs h _ => cautious_of_step hs h) invariant_start ts

/-- A second call passes the flag before the first one has a connection. -/
theorem not_throughout_overtaking :
    ¬ ∀ ts : List (Turn Bool), Throughout step (fun _ _ _ => True) ({} : Execution Bool) ts := by
  intro h
  obtain ⟨s, hs⟩ := (h [{ call := false }, { call := true }, { call := true }]).exists_foldlM
  exact absurd hs nofun

end Execution

end CrazyIvan
