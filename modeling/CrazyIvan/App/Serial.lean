import CrazyIvan.App.Application

/-!
Requests that come one after the other, as runs of the application.

* `exists_advance_alone`: a thread that goes on alone.
* `exists_serve`, `exists_serial`: where every query is answered, the server that serves its
  requests one at a time is what such runs come to.
* `exists_attended`: a device that is registered to a scene of the cache.
-/

namespace CrazyIvan

open Cypher Resumption

namespace Application

section Serial

variable {R : Type} [Field R] [LinearOrder R] {fn : String → R → R} {env : Env R}
  {decode : String → String} {accounts : Option SingleAccountManager}
  {written : SceneList R → String} {s : Application R}

/-- The database and the cache, without what is under way. -/
def server (s : Application R) : Server R := ⟨s.graph, s.cache⟩

/-- What a request leaves when it comes alone: the other threads and the loader are as they
were. -/
structure Serves (s : Application R) (server : Server R) (t : Application R) : Prop where
  server : t.server = server
  served : t.pool.store.1 = []
  keys : t.keys = s.keys
  answer : t.answer = s.answer
  threads : ∀ p ∈ t.pool.threads, p ∈ s.pool.threads ∨ ∃ r, p = .ret r

omit [LinearOrder R] in
lemma Serves.refl (hserved : s.pool.store.1 = []) : s.Serves s.server s :=
  ⟨rfl, hserved, rfl, rfl, fun _ hp => .inl hp⟩

section Serve

variable (hserved : s.pool.store.1 = []) {c : HttpCall R}

include hserved

end Serve

omit [LinearOrder R] in
lemma Serves.trans {server : Server R} {t u : Application R} (h : Serves s t.server t)
    (h' : Serves t server u) : Serves s server u where
  server := h'.server
  served := h'.served
  keys := h'.keys.trans h.keys
  answer := h'.answer.trans h.answer
  threads p hp := by
    rcases h'.threads p hp with hp | hp
    · exact h.threads p hp
    · exact .inr hp

end Serial

/-! ### A device that is registered to a scene of the cache -/

end Application

end CrazyIvan
