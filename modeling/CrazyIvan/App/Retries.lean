import CrazyIvan.App.DatabaseManager

/-!
The attempts of a call on one connection, and on several ones.

* `Installed`: the first connection is there, and no call has made an attempt yet.
* `Execute.Counted`: the failed attempts of a call on the current connection, against
  the failures that are counted since it was made.
* `attempts_bounded`: a call fails at most six times on one connection, and gives up
  after eleven failures, on at least two connections.
-/

namespace CrazyIvan

open Resumption DatabaseManager

/-- The manager after a reconnection, with what is left of the old objects. -/
def DatabaseManager.renewed (m : DatabaseManager) (connections services : Heap Unit) :
    DatabaseManager where
  internalConnection := some connections.length
  connectedService := some services.length
  failures := 0
  initialized := m.initialized
  connections := connections ++ [some ()]
  services := services ++ [some ()]
  discoveries := .found :: m.discoveries

/-- A reconnection that finds a service. -/
lemma DatabaseManager.setNewConnection_found {m : DatabaseManager}
    (hmax : m.failures > maxFailures)
    (hservice : (m.services.deref m.connectedService).isSome = true)
    (hconnection : (m.connections.deref m.internalConnection).isSome = true) :
    ∃ connections services, connections.length = m.connections.length ∧
      m.setNewConnection .found = some (m.renewed connections services, true) := by
  obtain ⟨services, hfree⟩ := Heap.exists_free_iff.mpr (.inr hservice)
  obtain ⟨connections, hfree'⟩ := Heap.exists_free_iff.mpr (.inr hconnection)
  refine ⟨connections, services, Heap.length_of_free hfree', ?_⟩
  rw [setNewConnection, if_pos hmax, delete, hfree]
  simp [findNewConnection, delete, hfree', Heap.deref_append_new, renewed]

/-! ### The counter -/

/-- A call at one of its steps: how many attempts have failed, and how many of them on
the current connection. What has failed since the connection was made is counted, but
for an attempt that has just failed. -/
def Execute.Counted (connection : Heap.Ptr) (failures : ℕ) (e : Execute) : Prop :=
  match e.pc with
  | .ready retries =>
      e.failedOn.length = retries ∧ retries ≤ maxRetries ∧
        e.failedOn.count connection ≤ failures ∧ e.failedOn.count connection ≤ maxFailures
  | .querying retries =>
      e.failedOn.length = retries ∧ retries < maxRetries ∧
        e.failedOn.count connection ≤ failures ∧ e.failedOn.count connection ≤ maxFailures
  | .failed retries =>
      e.failedOn.length = retries + 1 ∧ retries < maxRetries ∧
        e.failedOn.count connection ≤ failures + 1
  | .reconnecting retries =>
      e.failedOn.length = retries + 1 ∧ retries < maxRetries ∧
        e.failedOn.count connection ≤ failures
  | .exhausted => e.failedOn.length = maxRetries
  | .returned => True
  | .discovering _ | .raised => False

namespace Execute

variable {connection connection' : Heap.Ptr} {failures failures' : ℕ} {e : Execute}

/-- The failure of another call is counted too. -/
lemma Counted.mono (h : e.Counted connection failures) (hle : failures ≤ failures') :
    e.Counted connection failures' := by
  cases hpc : e.pc <;> simp only [Counted, hpc] at h ⊢ <;> omega

/-- A connection on which nothing has failed. -/
lemma Counted.fresh (h : e.Counted connection failures)
    (hfresh : e.failedOn.count connection' = 0) : e.Counted connection' failures' := by
  cases hpc : e.pc <;> simp only [Counted, hpc] at h ⊢ <;> omega

end Execute

namespace Execution

variable {ι : Type}

/-- The first connection is there, and no query has been attempted. -/
structure Installed (s : Execution ι) : Prop where
  initialized : s.manager.initialized = true
  connection : (s.manager.connections.deref s.manager.internalConnection).isSome = true
  service : (s.manager.services.deref s.manager.connectedService).isSome = true
  calls : ∀ i, ((s.calls i).pc = .ready 0 ∨ (s.calls i).pc = .querying 0) ∧
    (s.calls i).failedOn = []

/-- What holds between two steps. -/
structure Bounded (s : Execution ι) : Prop where
  initialized : s.manager.initialized = true
  connection : (s.manager.connections.deref s.manager.internalConnection).isSome = true
  service : (s.manager.services.deref s.manager.connectedService).isSome = true
  known : ∀ i, ∀ p ∈ (s.calls i).failedOn, ∃ q < s.manager.connections.length, p = some q
  counted : ∀ i, (s.calls i).Counted s.manager.internalConnection s.manager.failures
  bound : ∀ i p, (s.calls i).failedOn.count p ≤ maxFailures + 1

lemma Installed.bounded {s : Execution ι} (hs : s.Installed) : s.Bounded where
  initialized := hs.initialized
  connection := hs.connection
  service := hs.service
  known i p hp := by simp [(hs.calls i).2] at hp
  counted i := by
    obtain ⟨hpc, hnil⟩ := hs.calls i
    rcases hpc with hpc | hpc <;> simp [Execute.Counted, hpc, hnil, maxRetries]
  bound i p := by simp [(hs.calls i).2]

/-- A call that gives up has used different connections. -/
lemma Bounded.exists_ne {s : Execution ι} (hs : s.Bounded) {i : ι}
    (hlength : (s.calls i).failedOn.length = maxRetries) :
    ∃ p ∈ (s.calls i).failedOn, ∃ q ∈ (s.calls i).failedOn, p ≠ q := by
  obtain ⟨p, hp⟩ := List.exists_mem_of_ne_nil (s.calls i).failedOn
    (List.ne_nil_of_length_pos (by rw [hlength]; decide))
  refine ⟨p, hp, ?_⟩
  by_contra hnone
  have hsame : ∀ q ∈ (s.calls i).failedOn, p = q := fun q hq =>
    by_contra fun hne => hnone ⟨q, hq, hne⟩
  have hcount := List.count_eq_length.mpr hsame
  have hbound := hs.bound i p
  rw [hcount, hlength] at hbound
  exact absurd hbound (by decide)

variable [DecidableEq ι]

lemma failedOn_move (s : Execution ι) (i j : ι) (m : DatabaseManager) (pc : ExecutePc) :
    ((s.move i m pc).calls j).failedOn = (s.calls j).failedOn := by
  by_cases hj : j = i
  · rw [hj, move_self]
  · rw [move_of_ne s hj]

/-- A call goes on, where the manager still has the connection and has counted no
less. -/
lemma Bounded.move {s : Execution ι} (hs : s.Bounded) {i : ι} {failures : ℕ} {pc : ExecutePc}
    (hfailures : s.manager.failures ≤ failures)
    (hi : (⟨pc, (s.calls i).failedOn⟩ : Execute).Counted s.manager.internalConnection failures) :
    (s.move i { s.manager with failures } pc).Bounded := by
  refine ⟨hs.initialized, hs.connection, hs.service, fun j => ?_, fun j => ?_, fun j => ?_⟩
  · rw [failedOn_move]
    exact hs.known j
  · by_cases hj : j = i
    · rw [hj, move_self]
      exact hi
    · rw [move_of_ne s hj]
      exact (hs.counted j).mono hfailures
  · rw [failedOn_move]
    exact hs.bound j

/-- An attempt fails. -/
lemma Bounded.fail {s : Execution ι} (hs : s.Bounded) {i : ι} {retries : ℕ}
    (hpc : (s.calls i).pc = .querying retries) : (s.fail i retries).Bounded := by
  have hi := hs.counted i
  simp only [Execute.Counted, hpc] at hi
  obtain ⟨hlength, hretries, hcurrent, hmax⟩ := hi
  have hself : (s.fail i retries).calls i =
      ⟨.failed retries, s.manager.internalConnection :: (s.calls i).failedOn⟩ :=
    Function.update_self ..
  refine ⟨hs.initialized, hs.connection, hs.service, fun j => ?_, fun j => ?_, fun j p => ?_⟩
  · by_cases hj : j = i
    · rw [hj, hself]
      refine List.forall_mem_cons.mpr ⟨?_, hs.known i⟩
      obtain ⟨r, hr⟩ := Option.isSome_iff_exists.mp hs.connection
      obtain ⟨hptr, hslot⟩ := Heap.deref_eq_some.mp hr
      exact ⟨r.1, Heap.lt_length hslot, hptr⟩
    · rw [fail_of_ne s hj]
      exact hs.known j
  · by_cases hj : j = i
    · rw [hj, hself]
      have hcount : (s.manager.internalConnection :: (s.calls i).failedOn).count
          s.manager.internalConnection ≤ s.manager.failures + 1 := by
        rw [List.count_cons_self]
        exact Nat.add_le_add_right hcurrent 1
      exact ⟨by simp [hlength], hretries, hcount⟩
    · rw [fail_of_ne s hj]
      exact hs.counted j
  · by_cases hj : j = i
    · rw [hj, hself, List.count_cons]
      by_cases hp : s.manager.internalConnection = p
      · subst hp
        simpa using hmax
      · simpa [hp] using hs.bound i p
    · rw [fail_of_ne s hj]
      exact hs.bound j p

/-- The connection is replaced. -/
lemma Bounded.replace {s : Execution ι} (hs : s.Bounded) {i : ι} {retries : ℕ}
    (hpc : (s.calls i).pc = .reconnecting retries) {connections services : Heap Unit}
    (hlength : connections.length = s.manager.connections.length) :
    (s.move i (s.manager.renewed connections services) (.ready (retries + 1))).Bounded := by
  have hfresh : ∀ j, (s.calls j).failedOn.count (some connections.length) = 0 := fun j => by
    refine List.count_eq_zero.mpr fun hmem => ?_
    obtain ⟨q, hq, heq⟩ := hs.known j _ hmem
    exact absurd (Option.some.inj heq) (by omega)
  have hi := hs.counted i
  simp only [Execute.Counted, hpc] at hi
  refine ⟨hs.initialized, ?_, ?_, fun j => ?_, fun j => ?_, fun j => ?_⟩
  · exact Option.isSome_iff_exists.mpr ⟨_, Heap.deref_append_new ..⟩
  · exact Option.isSome_iff_exists.mpr ⟨_, Heap.deref_append_new ..⟩
  · rw [failedOn_move]
    intro p hp
    obtain ⟨q, hq, heq⟩ := hs.known j p hp
    refine ⟨q, ?_, heq⟩
    show q < (connections ++ [some ()]).length
    rw [List.length_append, hlength]
    exact Nat.lt_succ_of_lt hq
  · by_cases hj : j = i
    · rw [hj, move_self]
      exact ⟨hi.1, hi.2.1, (hfresh i).le, (hfresh i).trans_le (Nat.zero_le _)⟩
    · rw [move_of_ne s hj]
      exact (hs.counted j).fresh (hfresh j)
  · rw [failedOn_move]
    exact hs.bound j

/-- One step, where a discovery finds a service. -/
lemma Bounded.exists_step {s : Execution ι} (hs : s.Bounded) {t : Turn ι}
    (ht : t.discovery = .found) : ∃ s', s.step t = some s' ∧ s'.Bounded := by
  have hi := hs.counted t.call
  cases hpc : (s.calls t.call).pc with
  | ready retries =>
      simp only [Execute.Counted, hpc] at hi
      obtain ⟨hlength, hretries, hcurrent, hmax⟩ := hi
      by_cases hlt : retries < maxRetries
      · exact ⟨s.move t.call s.manager (.querying retries),
          by simp [step, hpc, hlt, hs.initialized],
          hs.move le_rfl ⟨hlength, hlt, hcurrent, hmax⟩⟩
      · have hend : retries = maxRetries := by omega
        exact ⟨s.move t.call s.manager .exhausted, by simp [step, hpc, hlt],
          hs.move le_rfl (hlength.trans hend)⟩
  | querying retries =>
      obtain ⟨r, hderef⟩ := Option.isSome_iff_exists.mp hs.connection
      cases hthrows : t.throws with
      | true =>
          exact ⟨s.fail t.call retries, by simp [step, hpc, hderef, hthrows], hs.fail hpc⟩
      | false =>
          exact ⟨s.move t.call s.manager .returned, by simp [step, hpc, hderef, hthrows],
            hs.move le_rfl trivial⟩
  | failed retries =>
      simp only [Execute.Counted, hpc] at hi
      exact ⟨s.move t.call { s.manager with failures := s.manager.failures + 1 }
        (.reconnecting retries), by simp [step, hpc], hs.move (Nat.le_succ _) hi⟩
  | reconnecting retries =>
      simp only [Execute.Counted, hpc] at hi
      obtain ⟨hlength, hretries, hcurrent⟩ := hi
      by_cases hmax : s.manager.failures > maxFailures
      · obtain ⟨connections, services, hconnections, hset⟩ :=
          setNewConnection_found hmax hs.service hs.connection
        exact ⟨s.move t.call (s.manager.renewed connections services) (.ready (retries + 1)),
          by simp [step, hpc, ht, hset], hs.replace hpc hconnections⟩
      · have hset : s.manager.setNewConnection t.discovery = some (s.manager, true) :=
          if_neg hmax
        exact ⟨s.move t.call s.manager (.ready (retries + 1)), by simp [step, hpc, hset],
          hs.move le_rfl ⟨hlength, hretries, hcurrent, hcurrent.trans (not_lt.mp hmax)⟩⟩
  | discovering retries => simp [Execute.Counted, hpc] at hi
  | raised => simp [Execute.Counted, hpc] at hi
  | returned => exact ⟨s, by simp [step, hpc], hs⟩
  | exhausted => exact ⟨s, by simp [step, hpc], hs⟩

/-- Once the first connection is there, and while every discovery finds a service, no
call of any number fails more than six times on one connection; and a call that gives
up has failed eleven times, on different connections. -/
theorem attempts_bounded {s : Execution ι} (hs : s.Installed) {ts : List (Turn ι)}
    (hts : ∀ t ∈ ts, t.discovery = .found) :
    ∃ s', ts.foldlM step s = some s' ∧ ∀ i,
      (∀ p, (s'.calls i).failedOn.count p ≤ maxFailures + 1) ∧
        ((s'.calls i).pc = .exhausted → (s'.calls i).failedOn.length = maxRetries ∧
          ∃ p ∈ (s'.calls i).failedOn, ∃ q ∈ (s'.calls i).failedOn, p ≠ q) := by
  obtain ⟨s', hrun, hbounded⟩ :=
    exists_foldlM_invariant (I := Bounded) (K := fun t : Turn ι => t.discovery = .found)
      (fun _ _ h ht => h.exists_step ht) hs.bounded hts
  refine ⟨s', hrun, fun i => ⟨hbounded.bound i, fun hpc => ?_⟩⟩
  have hlength := hbounded.counted i
  simp only [Execute.Counted, hpc] at hlength
  exact ⟨hlength, hbounded.exists_ne hlength⟩

/-- Two calls; one of them has made the first connection. -/
def connected : Execution Bool where
  manager :=
    { internalConnection := some 0
      connectedService := some 0
      initialized := true
      connections := [some ()]
      services := [some ()]
      discoveries := [.found] }
  calls i := if i then { pc := .querying 0 } else {}

/-- This is where the first call leads to. -/
example : ∃ s : Execution Bool,
    [({ call := true } : Turn Bool), { call := true }].foldlM step {} = some s ∧
      s.manager = connected.manager ∧ ∀ i, s.calls i = connected.calls i :=
  ⟨_, rfl, rfl, fun i => by cases i <;> rfl⟩

lemma installed_connected : connected.Installed where
  initialized := rfl
  connection := rfl
  service := rfl
  calls i := by cases i <;> simp [connected]

/-- A query of each of the two calls fails. -/
theorem attempts_bounded_connected :
    ∃ s', [({ call := true, throws := true } : Turn Bool), { call := false },
        { call := false, throws := true }].foldlM step connected = some s' ∧ ∀ i,
      (∀ p, (s'.calls i).failedOn.count p ≤ maxFailures + 1) ∧
        ((s'.calls i).pc = .exhausted → (s'.calls i).failedOn.length = maxRetries ∧
          ∃ p ∈ (s'.calls i).failedOn, ∃ q ∈ (s'.calls i).failedOn, p ≠ q) :=
  attempts_bounded installed_connected (by simp)

end Execution

end CrazyIvan
