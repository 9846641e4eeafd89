import CrazyIvan.Cache.DeviceCacheEntry
import CrazyIvan.Library.Heap
import CrazyIvan.Model.Scene

/-!
The device cache: a map from scene keys to entries the cache owns, next to the
list of the keys.

* `DeviceCache`, `addScene`, `removeScene`, `getDevices`, `setDevices`,
  `destroy`: the cache with the heap of its entries. An access the language
  gives no meaning to is `Fail.undefined`.
* `Sound`, `WellFormed`: every key in the list has an entry of its own; and the
  list and the map agree.
* `Orderly`: scenes are added when absent and removed or set when present.
* `kept_iff_orderly`: the calls that keep the cache in order are these.
-/

namespace CrazyIvan

open Resumption

/-- The cache. `cacheEntries` has no value at a key that is absent. -/
structure DeviceCache where
  cacheEntries : String → Option Heap.Ptr := fun _ => none
  sceneList : List String := []
  heap : Heap DeviceCacheEntry := []

/-- Every entry can be deleted. -/
def delete (heap : Heap DeviceCacheEntry) (ptr : Heap.Ptr) : Option (Heap DeviceCacheEntry) :=
  heap.free (fun _ => true) ptr

namespace DeviceCache

/-- `cache_entries[scene_key]`, which puts a null pointer where the key is
absent. -/
def index (c : DeviceCache) (sceneKey : String) : Heap.Ptr × DeviceCache :=
  match c.cacheEntries sceneKey with
  | some ptr => (ptr, c)
  | none => (none, { c with cacheEntries := Function.update c.cacheEntries sceneKey (some none) })

def addScene (c : DeviceCache) (sceneKey : String) : DeviceCache where
  sceneList := c.sceneList ++ [sceneKey]
  cacheEntries := Function.update c.cacheEntries sceneKey (some (some c.heap.length))
  heap := c.heap ++ [some ({} : DeviceCacheEntry)]

/-- The key that `std::find` finds is erased; where it finds none, its end is. -/
def removeScene (c : DeviceCache) (sceneKey : String) : Except Fail DeviceCache :=
  if sceneKey ∈ c.sceneList then do
    let (ptr, c) := { c with sceneList := c.sceneList.erase sceneKey }.index sceneKey
    let heap ← orUndefined (delete c.heap ptr)
    pure { c with heap, cacheEntries := Function.update c.cacheEntries sceneKey none }
  else .error .undefined

def getDevices (c : DeviceCache) (sceneKey : String) : Except Fail (List Address) :=
  match c.cacheEntries sceneKey with
  | none => .error (.exn "Unknown Key")
  | some ptr => do
      let (_, e) ← orUndefined (c.heap.deref ptr)
      pure e.getAddresses

def setDevices (c : DeviceCache) (sceneKey : String) (devices : List Address) :
    Except Fail DeviceCache := do
  let (ptr, c) := c.index sceneKey
  let (p, e) ← orUndefined (c.heap.deref ptr)
  pure { c with heap := c.heap.set p (some (e.setAddresses devices)) }

/-- The destructor: the entries of the keys in the list are deleted. What is left
is the heap. -/
def destroy (c : DeviceCache) : Option (Heap DeviceCacheEntry) :=
  c.heap.freeAll (fun _ => true) (c.sceneList.map fun key => (c.index key).1)

/-! ### Calls -/

inductive Call where
  | addScene (sceneKey : String)
  | removeScene (sceneKey : String)
  | setDevices (sceneKey : String) (devices : List Address)
  | getDevices (sceneKey : String)

/-- The key a call is for. -/
def Call.key : Call → String
  | .addScene k | .removeScene k | .setDevices k _ | .getDevices k => k

/-- The cache after a call; an exception leaves it as it was. -/
def call (c : DeviceCache) : Call → Option DeviceCache
  | .addScene k => some (c.addScene k)
  | .removeScene k => (c.removeScene k).toOption
  | .setDevices k l => (c.setDevices k l).toOption
  | .getDevices k =>
      match c.getDevices k with
      | .ok _ | .error (.exn _) => some c
      | .error .undefined => none

/-- Every key in the list has a live entry, and no two keys share one. -/
structure Sound (c : DeviceCache) : Prop where
  held : ∀ k ∈ c.sceneList, ∃ p e, c.cacheEntries k = some (some p) ∧ c.heap[p]? = some (some e)
  owner : ∀ k k' p, c.cacheEntries k = some (some p) → c.cacheEntries k' = some (some p) → k = k'
  valid : ∀ (p : ℕ) (e : DeviceCacheEntry), c.heap[p]? = some (some e) → e.ValidId

/-- The list and the map agree, every entry is live and owned by one key, and
no entry that is live has been lost. -/
structure WellFormed (c : DeviceCache) : Prop where
  nodup : c.sceneList.Nodup
  keys : ∀ k, k ∈ c.sceneList ↔ (c.cacheEntries k).isSome
  live : ∀ k ptr, c.cacheEntries k = some ptr →
    ∃ p e, ptr = some p ∧ c.heap[p]? = some (some e)
  owner : ∀ k k' p, c.cacheEntries k = some (some p) → c.cacheEntries k' = some (some p) → k = k'
  owned : ∀ p e, c.heap[p]? = some (some e) →
    e.ValidId ∧ ∃ k, c.cacheEntries k = some (some p)

lemma wellFormed_empty : WellFormed {} :=
  ⟨List.nodup_nil, by simp, by simp, by simp, by simp⟩

/-- A scene is added when it is absent, and removed or set when it is held. -/
def Orderly (c : DeviceCache) : Call → Prop
  | .addScene k => k ∉ c.sceneList
  | .removeScene k | .setDevices k _ => k ∈ c.sceneList
  | .getDevices _ => True

/-- The entry of a key, if it is live. -/
def lookupEntry (c : DeviceCache) (k : String) : Option DeviceCacheEntry :=
  ((c.cacheEntries k).bind id).bind fun p => (c.heap[p]?).bind id

/-- What the cache is for: the devices of each scene it holds. -/
def devices (c : DeviceCache) (k : String) : Option (List Address) := (c.getDevices k).toOption

lemma devices_eq (c : DeviceCache) (k : String) :
    c.devices k = (c.lookupEntry k).map DeviceCacheEntry.getAddresses := by
  rw [devices, getDevices, lookupEntry]
  rcases c.cacheEntries k with _ | _ | p
  · rfl
  · rfl
  · rcases h : c.heap[p]? with _ | _ | e <;> simp [Heap.deref, h, orUndefined, Except.toOption]

lemma lookupEntry_eq_some {c : DeviceCache} {k : String} {e : DeviceCacheEntry} :
    c.lookupEntry k = some e ↔
      ∃ p, c.cacheEntries k = some (some p) ∧ c.heap[p]? = some (some e) := by
  rw [lookupEntry, Option.bind_eq_some_iff]
  simp only [Option.bind_eq_some_iff, id_eq]
  constructor
  · rintro ⟨p, ⟨ptr, hptr, rfl⟩, slot, hslot, rfl⟩
    exact ⟨p, hptr, hslot⟩
  · rintro ⟨p, hp, he⟩
    exact ⟨p, ⟨_, hp, rfl⟩, _, he, rfl⟩

/-- Caches that agree at a key hold the same devices there. -/
lemma devices_congr {c c' : DeviceCache} {k : String} (hptr : c'.cacheEntries k = c.cacheEntries k)
    (hheap : ∀ p, c.cacheEntries k = some (some p) → c'.heap[p]? = c.heap[p]?) :
    c'.devices k = c.devices k := by
  rw [devices_eq, devices_eq, lookupEntry, lookupEntry, hptr]
  rcases hc : c.cacheEntries k with _ | _ | p
  · rfl
  · rfl
  · simp [hheap p hc]

/-- The devices when an entry that one key owns is set. -/
lemma devices_set {c : DeviceCache} {k : String} {p : ℕ} {e : DeviceCacheEntry}
    (howner : ∀ k', c.cacheEntries k' = some (some p) → k' = k)
    (hp : c.cacheEntries k = some (some p)) (he : c.heap[p]? = some (some e)) (hvalid : e.ValidId)
    (l : List Address) :
    ({ c with heap := c.heap.set p (some (e.setAddresses l)) } : DeviceCache).devices
      = Function.update c.devices k (some l) := by
  set c' : DeviceCache := { c with heap := c.heap.set p (some (e.setAddresses l)) }
  funext k'
  by_cases hkk : k' = k
  · have hentry : c'.lookupEntry k = some (e.setAddresses l) := lookupEntry_eq_some.mpr
      ⟨p, hp, List.getElem?_set_self (List.getElem?_eq_some_iff.mp he).1⟩
    rw [hkk, devices_eq, hentry, Function.update_self, Option.map_some,
      DeviceCacheEntry.getAddresses_setAddresses hvalid]
  · rw [Function.update_of_ne hkk]
    refine devices_congr rfl fun q hq => List.getElem?_set_ne fun (hpq : p = q) =>
      hkk (howner k' ?_)
    rw [hpq]
    exact hq

/-- Every pointer in the map is live, and no two keys share one. -/
structure Live (c : DeviceCache) : Prop where
  live : ∀ k ptr, c.cacheEntries k = some ptr →
    ∃ p e, ptr = some p ∧ c.heap[p]? = some (some e)
  owner : ∀ k k' p, c.cacheEntries k = some (some p) → c.cacheEntries k' = some (some p) → k = k'
  valid : ∀ (p : ℕ) (e : DeviceCacheEntry), c.heap[p]? = some (some e) → e.ValidId

namespace Live

variable {c : DeviceCache} (h : c.Live) {k : String}

include h

/-- An entry that is added is at no place that is in use. -/
lemma fresh {p : ℕ} (hp : c.cacheEntries k = some (some p)) : p < c.heap.length := by
  obtain ⟨q, e, hq, he⟩ := h.live k _ hp
  obtain rfl : p = q := Option.some.inj hq
  exact (List.getElem?_eq_some_iff.mp he).1

lemma devices_addScene : (c.addScene k).devices = Function.update c.devices k (some []) := by
  funext k'
  by_cases hkk : k' = k
  · subst hkk
    have he : (c.addScene k').lookupEntry k' = some {} :=
      lookupEntry_eq_some.mpr ⟨c.heap.length, Function.update_self .., by simp [addScene]⟩
    rw [devices_eq, he, Function.update_self]
    rfl
  · rw [Function.update_of_ne hkk]
    exact devices_congr (Function.update_of_ne hkk ..) fun p hp =>
      List.getElem?_append_left (h.fresh hp)

/-- The entries that are left when one is deleted. -/
lemma other {p : ℕ} (hp : c.cacheEntries k = some (some p)) {k' : String} (hkk : k' ≠ k) {q : ℕ}
    (hq : c.cacheEntries k' = some (some q)) : (c.heap.set p none)[q]? = c.heap[q]? :=
  List.getElem?_set_ne fun (hpq : p = q) => hkk (h.owner k' k p (hpq ▸ hq) hp)

/-- The devices when the entry of a scene is deleted. -/
lemma devices_removed {p : ℕ} (hp : c.cacheEntries k = some (some p)) (sceneList : List String) :
    DeviceCache.devices
        ⟨Function.update c.cacheEntries k none, sceneList, c.heap.set p none⟩
      = Function.update c.devices k none := by
  funext k'
  by_cases hkk : k' = k
  · subst hkk
    simp [devices_eq, lookupEntry]
  · rw [Function.update_of_ne hkk]
    exact devices_congr (Function.update_of_ne hkk ..) fun q hq => h.other hp hkk hq

end Live

namespace WellFormed

variable {c : DeviceCache} (h : c.WellFormed) {k : String}

include h

/-- The entry of a key in the list. -/
lemma exists_entry (hk : k ∈ c.sceneList) :
    ∃ p e, c.cacheEntries k = some (some p) ∧ c.heap[p]? = some (some e) := by
  obtain ⟨ptr, hptr⟩ := Option.isSome_iff_exists.mp ((h.keys k).mp hk)
  obtain ⟨p, e, rfl, he⟩ := h.live k ptr hptr
  exact ⟨p, e, hptr, he⟩

lemma cacheEntries_eq_none (hk : k ∉ c.sceneList) : c.cacheEntries k = none := by
  rw [← Option.not_isSome_iff_eq_none, ← h.keys k]
  exact hk

lemma toLive : c.Live := ⟨h.live, h.owner, fun p e he => (h.owned p e he).1⟩

lemma wellFormed_addScene (hk : k ∉ c.sceneList) : (c.addScene k).WellFormed := by
  have hfresh : ∀ k' p, c.cacheEntries k' = some (some p) → p < c.heap.length :=
    fun k' p hp => h.toLive.fresh hp
  refine ⟨?_, fun k' => ?_, fun k' ptr hptr => ?_, fun k₁ k₂ p h₁ h₂ => ?_, fun p e he => ?_⟩
  · show (c.sceneList ++ [k]).Nodup
    exact List.nodup_append.mpr ⟨h.nodup, List.nodup_singleton k, fun a ha b hb hab => by
      rw [List.mem_singleton.mp hb] at hab
      exact hk (hab ▸ ha)⟩
  · show k' ∈ c.sceneList ++ [k] ↔ (Function.update c.cacheEntries k _ k').isSome
    by_cases hkk : k' = k
    · simp [hkk]
    · rw [Function.update_of_ne hkk, ← h.keys k']
      simp [hkk]
  · change Function.update c.cacheEntries k _ k' = some ptr at hptr
    show ∃ p e, ptr = some p ∧ (c.heap ++ [some ({} : DeviceCacheEntry)])[p]? = some (some e)
    by_cases hkk : k' = k
    · subst hkk
      rw [Function.update_self] at hptr
      exact ⟨c.heap.length, {}, (Option.some.inj hptr).symm, by simp⟩
    · rw [Function.update_of_ne hkk] at hptr
      obtain ⟨p, e, rfl, he⟩ := h.live k' ptr hptr
      refine ⟨p, e, rfl, ?_⟩
      rw [List.getElem?_append_left (hfresh k' p hptr), he]
  · change Function.update c.cacheEntries k _ k₁ = _ at h₁
    change Function.update c.cacheEntries k _ k₂ = _ at h₂
    by_cases hk₁ : k₁ = k <;> by_cases hk₂ : k₂ = k
    · rw [hk₁, hk₂]
    · rw [hk₁, Function.update_self] at h₁
      rw [Function.update_of_ne hk₂] at h₂
      obtain rfl : c.heap.length = p := Option.some.inj (Option.some.inj h₁)
      exact absurd (hfresh k₂ _ h₂) (lt_irrefl _)
    · rw [hk₂, Function.update_self] at h₂
      rw [Function.update_of_ne hk₁] at h₁
      obtain rfl : c.heap.length = p := Option.some.inj (Option.some.inj h₂)
      exact absurd (hfresh k₁ _ h₁) (lt_irrefl _)
    · rw [Function.update_of_ne hk₁] at h₁
      rw [Function.update_of_ne hk₂] at h₂
      exact h.owner k₁ k₂ p h₁ h₂
  · change (c.heap ++ [some ({} : DeviceCacheEntry)])[p]? = some (some e) at he
    show e.ValidId ∧ ∃ k', Function.update c.cacheEntries k _ k' = some (some p)
    rcases lt_or_ge p c.heap.length with hp | hp
    · rw [List.getElem?_append_left hp] at he
      obtain ⟨hvalid, k', hk'⟩ := h.owned p e he
      refine ⟨hvalid, k', ?_⟩
      rw [Function.update_of_ne (fun hkk => ?_), hk']
      rw [hkk, h.cacheEntries_eq_none hk] at hk'
      cases hk'
    · rw [List.getElem?_append_right hp] at he
      obtain ⟨hlt, he⟩ := List.getElem?_eq_some_iff.mp he
      simp only [List.length_singleton] at hlt
      obtain rfl : p = c.heap.length := by omega
      have he' : e = {} := by simpa using he.symm
      exact ⟨he' ▸ .inl rfl, k, Function.update_self ..⟩

/-- A scene that is held is removed. -/
lemma removeScene_of_mem (hk : k ∈ c.sceneList) : ∃ c', c.removeScene k = .ok c' ∧
    c'.WellFormed ∧ c'.devices = Function.update c.devices k none := by
  obtain ⟨p, e, hp, he⟩ := h.exists_entry hk
  have hrun : c.removeScene k = .ok
      { sceneList := c.sceneList.erase k
        cacheEntries := Function.update c.cacheEntries k none
        heap := c.heap.set p none } := by
    simp [removeScene, hk, index, hp, delete, Heap.free_some he, orUndefined]
  have hother : ∀ k' q, k' ≠ k → c.cacheEntries k' = some (some q) → p ≠ q :=
    fun k' q hkk hq hpq => hkk (h.owner k' k p (hpq ▸ hq) hp)
  refine ⟨_, hrun, ⟨?_, fun k' => ?_, fun k' ptr hptr => ?_, fun k₁ k₂ q h₁ h₂ => ?_,
    fun q e' hq => ?_⟩, h.toLive.devices_removed hp _⟩
  · exact h.nodup.erase k
  · dsimp only
    by_cases hkk : k' = k
    · simp [hkk, h.nodup.not_mem_erase]
    · rw [List.mem_erase_of_ne hkk, Function.update_of_ne hkk, h.keys k']
  · dsimp only at hptr ⊢
    by_cases hkk : k' = k
    · simp [hkk] at hptr
    · rw [Function.update_of_ne hkk] at hptr
      obtain ⟨q, e', rfl, he'⟩ := h.live k' ptr hptr
      exact ⟨q, e', rfl, by rw [List.getElem?_set_ne (hother k' q hkk hptr), he']⟩
  · dsimp only at h₁ h₂
    by_cases hk₁ : k₁ = k
    · simp [hk₁] at h₁
    by_cases hk₂ : k₂ = k
    · simp [hk₂] at h₂
    rw [Function.update_of_ne hk₁] at h₁
    rw [Function.update_of_ne hk₂] at h₂
    exact h.owner k₁ k₂ q h₁ h₂
  · dsimp only at hq ⊢
    have hpq : p ≠ q := by
      rintro rfl
      rw [List.getElem?_set_self (List.getElem?_eq_some_iff.mp he).1] at hq
      cases hq
    rw [List.getElem?_set_ne hpq] at hq
    obtain ⟨hvalid, k', hk'⟩ := h.owned q e' hq
    refine ⟨hvalid, k', ?_⟩
    rw [Function.update_of_ne (fun hkk => ?_), hk']
    rw [hkk, hp] at hk'
    exact hpq (Option.some.inj (Option.some.inj hk'))

lemma sound : c.Sound :=
  ⟨fun _ hk => h.exists_entry hk, h.owner, fun p e he => (h.owned p e he).1⟩

end WellFormed

/-- The devices of a scene that is held are set: one entry is replaced. -/
lemma Sound.setDevices_of_mem {c : DeviceCache} (h : c.Sound) {k : String}
    (hk : k ∈ c.sceneList) (l : List Address) :
    ∃ c' p e, c.setDevices k l = .ok c' ∧ c'.Sound ∧ c'.sceneList = c.sceneList ∧
      c'.cacheEntries = c.cacheEntries ∧ c'.heap = c.heap.set p (some e) ∧
      (∃ e', c.heap[p]? = some (some e')) ∧ c'.devices = Function.update c.devices k (some l) := by
  obtain ⟨p, e, hp, he⟩ := h.held k hk
  have hlt : p < c.heap.length := (List.getElem?_eq_some_iff.mp he).1
  set heap := c.heap.set p (some (e.setAddresses l)) with hheap
  have hrun : c.setDevices k l = .ok { c with heap } := by
    simp [setDevices, index, hp, Heap.deref_some he, orUndefined, hheap]
  have hself : heap[p]? = some (some (e.setAddresses l)) := List.getElem?_set_self hlt
  have hne : ∀ q, p ≠ q → heap[q]? = c.heap[q]? := fun q hpq => List.getElem?_set_ne hpq
  refine ⟨{ c with heap }, p, e.setAddresses l, hrun, ⟨fun k' hk' => ?_, h.owner,
    fun q e' hq => ?_⟩, rfl, rfl, rfl, ⟨e, he⟩,
    devices_set (fun k' hk' => h.owner k' k p hk' hp) hp he (h.valid p e he) l⟩
  · obtain ⟨q, e', hq, he'⟩ := h.held k' hk'
    by_cases hpq : p = q
    · exact ⟨p, _, by rw [hq, hpq], hself⟩
    · exact ⟨q, e', hq, (hne q hpq).trans he'⟩
  · change heap[q]? = some (some e') at hq
    by_cases hpq : p = q
    · rw [← hpq] at hq
      obtain rfl : e.setAddresses l = e' := Option.some.inj (Option.some.inj (hself.symm.trans hq))
      exact e.validId_setAddresses l
    · exact h.valid q e' ((hne q hpq).symm.trans hq)

namespace WellFormed

variable {c : DeviceCache} (h : c.WellFormed) {k : String}

include h

lemma setDevices_of_mem (hk : k ∈ c.sceneList) (l : List Address) :
    ∃ c', c.setDevices k l = .ok c' ∧ c'.WellFormed ∧
      c'.devices = Function.update c.devices k (some l) := by
  obtain ⟨c', p, e, hrun, hsound, hlist, hentries, hheap, ⟨e₀, he₀⟩, hdev⟩ :=
    h.sound.setDevices_of_mem hk l
  have hlive : ∀ q : ℕ, (∃ e', c'.heap[q]? = some (some e')) ↔
      ∃ e', c.heap[q]? = some (some e') := by
    intro q
    rw [hheap]
    by_cases hpq : p = q
    · subst hpq
      simp [List.getElem?_set_self (List.getElem?_eq_some_iff.mp he₀).1, he₀]
    · rw [List.getElem?_set_ne hpq]
  refine ⟨c', hrun, ⟨hlist ▸ h.nodup, fun k' => ?_, fun k' ptr hptr => ?_, hsound.owner,
    fun q e' hq => ⟨hsound.valid q e' hq, ?_⟩⟩, hdev⟩
  · rw [hlist, hentries, h.keys k']
  · rw [hentries] at hptr
    obtain ⟨q, e', rfl, he'⟩ := h.live k' ptr hptr
    obtain ⟨e'', he''⟩ := (hlive q).mpr ⟨e', he'⟩
    exact ⟨q, e'', rfl, he''⟩
  · obtain ⟨e'', he''⟩ := (hlive q).mp ⟨e', hq⟩
    rw [hentries]
    exact (h.owned q e'' he'').2

/-- The destructor frees every entry that is left. -/
lemma destroy_eq : ∃ heap, c.destroy = some heap ∧ ∀ slot ∈ heap, slot = none := by
  have hindex : ∀ k p, c.cacheEntries k = some (some p) → (c.index k).1 = some p := by
    intro k p hp
    simp [index, hp]
  have hkeys : ∀ p, some p ∈ c.sceneList.map (fun k => (c.index k).1) ↔
      ∃ k, c.cacheEntries k = some (some p) := by
    intro p
    rw [List.mem_map]
    constructor
    · rintro ⟨k, hk, hp⟩
      obtain ⟨q, -, hq, -⟩ := h.exists_entry hk
      exact ⟨k, by rw [hq, ← hp, hindex k q hq]⟩
    · rintro ⟨k, hk⟩
      exact ⟨k, (h.keys k).mpr (by rw [hk]; rfl), hindex k p hk⟩
  have hnodup : (c.sceneList.map fun k => (c.index k).1).reduceOption.Nodup := by
    refine (h.nodup.map_on ?_).filterMap fun a b p ha hb => ha.trans hb.symm
    intro k hk k' hk' heq
    obtain ⟨p, -, hp, -⟩ := h.exists_entry hk
    obtain ⟨p', -, hp', -⟩ := h.exists_entry hk'
    rw [hindex k p hp, hindex k' p' hp'] at heq
    exact h.owner k k' p hp (Option.some.inj heq ▸ hp')
  obtain ⟨heap, hfree⟩ := (Heap.exists_freeAll_iff (fun _ => true) hnodup).mpr fun p hp => by
    obtain ⟨k, hk⟩ := (hkeys p).mp hp
    obtain ⟨q, e, hq, he⟩ := h.live k _ hk
    exact ⟨e, by rwa [Option.some.inj hq], rfl⟩
  refine ⟨heap, hfree, fun slot hslot => ?_⟩
  obtain ⟨p, hp⟩ := List.mem_iff_getElem?.mp hslot
  rw [Heap.getElem?_freeAll hfree p] at hp
  split_ifs at hp with hmem
  · exact (Option.some.inj hp).symm
  · cases slot with
    | none => rfl
    | some e => exact absurd ((hkeys p).mpr (h.owned p e hp).2) hmem

end WellFormed

/-! ### What a call keeps -/

/-- What a call is to keep: the list and the map in step, no null pointer, the
devices of the other scenes, the whole cache where an absent scene is removed or
set, and that the destructor frees each entry that is left once. -/
structure Kept (c : DeviceCache) (r : Call) (c' : DeviceCache) : Prop where
  nodup : c'.sceneList.Nodup
  keys : ∀ k, k ∈ c'.sceneList ↔ (c'.cacheEntries k).isSome
  nonnull : ∀ k ptr, c'.cacheEntries k = some ptr →
    ∃ p e, ptr = some p ∧ c'.heap[p]? = some (some e)
  others : ∀ k, k ≠ r.key → c'.devices k = c.devices k
  absent : ∀ k l, r = .removeScene k ∨ r = .setDevices k l → k ∉ c.sceneList → c' = c
  freed : ∃ heap, c'.destroy = some heap ∧ ∀ slot ∈ heap, slot = none

lemma WellFormed.kept {c c' : DeviceCache} (h' : c'.WellFormed) {r : Call}
    (hothers : ∀ k, k ≠ r.key → c'.devices k = c.devices k)
    (habsent : ∀ k l, r = .removeScene k ∨ r = .setDevices k l → k ∉ c.sceneList → c' = c) :
    c.Kept r c' :=
  ⟨h'.nodup, h'.keys, h'.live, hothers, habsent, h'.destroy_eq⟩

/-- An orderly call keeps all that. -/
lemma exists_call {c : DeviceCache} (h : c.WellFormed) (r : Call) (hr : c.Orderly r) :
    ∃ c', c.call r = some c' ∧ c.Kept r c' ∧ c'.WellFormed := by
  cases r with
  | addScene k =>
      have h' := h.wellFormed_addScene hr
      refine ⟨c.addScene k, rfl, h'.kept (fun k' hk' => ?_) ?_, h'⟩
      · rw [h.toLive.devices_addScene]
        exact Function.update_of_ne hk' ..
      · rintro _ _ (h | h) <;> cases h
  | removeScene k =>
      obtain ⟨c', hrun, h', hdev⟩ := h.removeScene_of_mem hr
      refine ⟨c', by rw [call, hrun]; rfl, h'.kept (fun k' hk' => ?_) ?_, h'⟩
      · rw [hdev]
        exact Function.update_of_ne hk' ..
      · rintro _ _ (h | h) hnot <;> cases h
        exact absurd hr hnot
  | setDevices k l =>
      obtain ⟨c', hrun, h', hdev⟩ := h.setDevices_of_mem hr l
      refine ⟨c', by rw [call, hrun]; rfl, h'.kept (fun k' hk' => ?_) ?_, h'⟩
      · rw [hdev]
        exact Function.update_of_ne hk' ..
      · rintro _ _ (h | h) hnot <;> cases h
        exact absurd hr hnot
  | getDevices k =>
      refine ⟨c, ?_, h.kept (fun _ _ => rfl) fun _ _ _ _ => rfl, h⟩
      rw [call, getDevices]
      by_cases hk : k ∈ c.sceneList
      · obtain ⟨p, e, hp, he⟩ := h.exists_entry hk
        simp [hp, Heap.deref_some he, orUndefined]
      · simp [h.cacheEntries_eq_none hk]

/-- A call that is not orderly has no meaning, or repeats a key. -/
lemma orderly_of_kept {c c' : DeviceCache} (h : c.WellFormed) {r : Call}
    (hrun : c.call r = some c') (hkept : c.Kept r c') : c.Orderly r := by
  cases r with
  | addScene k =>
      obtain rfl : c.addScene k = c' := Option.some.inj hrun
      intro hk
      have hnodup : (c.sceneList ++ [k]).Nodup := hkept.nodup
      exact (List.nodup_append.mp hnodup).2.2 k hk k (List.mem_singleton_self k) rfl
  | removeScene k =>
      by_contra hk
      have hundef : c.removeScene k = .error .undefined := if_neg hk
      rw [call, hundef] at hrun
      cases hrun
  | setDevices k l =>
      by_contra hk
      have hundef : c.setDevices k l = .error .undefined := by
        simp [setDevices, index, h.cacheEntries_eq_none hk, orUndefined]
      rw [call, hundef] at hrun
      cases hrun
  | getDevices k => trivial

/-- The sequences of calls along which the cache is kept in order: those that
add a scene only when it is absent, and remove or set only what is held. -/
theorem kept_iff_orderly (calls : List Call) :
    Throughout call Kept {} calls ↔ Admitted call Orderly {} calls :=
  throughout_iff_admitted (I := WellFormed) (fun _ r h hr => exists_call h r hr)
    (fun _ _ _ h hrun hkept => orderly_of_kept h hrun hkept) wellFormed_empty calls

/-- A scene that is added twice is listed twice. -/
theorem not_kept_addTwice : ¬ Throughout call Kept {} [.addScene "a", .addScene "a"] := by
  rintro ⟨c, hc, -, c', hc', hkept, -⟩
  obtain rfl : (({} : DeviceCache).addScene "a") = c := Option.some.inj hc
  obtain rfl := Option.some.inj hc'
  have hnodup : ["a", "a"].Nodup := hkept.nodup
  revert hnodup
  decide

end DeviceCache

end CrazyIvan
