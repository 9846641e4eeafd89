import CrazyIvan.Cache.DeviceCache

/-!
The cache as a map from scenes to devices, whatever the order of the calls.

* `mapCall`: what a call does to the map.
* `Live.call`: a call that has a meaning does that, and leaves every pointer live.
* `devices_calls`: any sequence of calls that has a meaning leaves the map of its calls, and
  no lookup is undefined after it.
-/

namespace CrazyIvan

namespace DeviceCache

open Function

lemma eq_ok_of_toOption {α : Type} {x : Except Fail α} {a : α} (h : x.toOption = some a) :
    x = .ok a := by
  cases x with
  | error e => cases h
  | ok b => exact congrArg _ (Option.some.inj h)

/-- What a call does to the devices of the scenes. -/
def mapCall (m : String → Option (List Address)) : Call → String → Option (List Address)
  | .addScene k => update m k (some [])
  | .removeScene k => update m k none
  | .setDevices k l => update m k (some l)
  | .getDevices _ => m

/-- A lookup leaves the cache. -/
lemma eq_of_getDevices {c c' : DeviceCache} {k : String}
    (hrun : c.call (.getDevices k) = some c') : c' = c := by
  rw [call] at hrun
  split at hrun
  · exact (Option.some.inj hrun).symm
  · exact (Option.some.inj hrun).symm
  · cases hrun

/-- What a scene has after a call, it had before, or it was added or set. -/
lemma mapCall_cases {m : String → Option (List Address)} {r : Call} {k : String}
    {l : List Address} (h : mapCall m r k = some l) :
    m k = some l ∨ (r = .addScene k ∧ l = []) ∨ r = .setDevices k l := by
  have hother : ∀ {k' : String} {x : Option (List Address)}, update m k' x k = some l →
      m k = some l ∨ (k = k' ∧ x = some l) := by
    intro k' x h
    by_cases hkk : k = k'
    · rw [hkk, update_self] at h
      exact .inr ⟨hkk, h⟩
    · exact .inl (update_of_ne hkk x m ▸ h)
  cases r with
  | addScene k' =>
      refine (hother h).imp id ?_
      rintro ⟨rfl, hl⟩
      exact .inl ⟨rfl, (Option.some.inj hl).symm⟩
  | removeScene k' =>
      refine (hother h).imp id ?_
      rintro ⟨-, hl⟩
      cases hl
  | setDevices k' l' =>
      refine (hother h).imp id ?_
      rintro ⟨rfl, hl⟩
      exact .inr (Option.some.inj hl ▸ rfl)
  | getDevices k' => exact .inl h

namespace Live

lemma empty : Live {} := ⟨by simp, by simp, by simp⟩

variable {c : DeviceCache} (h : c.Live)

include h

lemma addScene (k : String) : (c.addScene k).Live where
  live k' ptr hptr := by
    change update c.cacheEntries k _ k' = some ptr at hptr
    show ∃ p e, ptr = some p ∧ (c.heap ++ [some ({} : DeviceCacheEntry)])[p]? = some (some e)
    by_cases hkk : k' = k
    · subst hkk
      rw [update_self] at hptr
      exact ⟨c.heap.length, {}, (Option.some.inj hptr).symm, by simp⟩
    · rw [update_of_ne hkk] at hptr
      obtain ⟨p, e, rfl, he⟩ := h.live k' ptr hptr
      exact ⟨p, e, rfl, by rw [List.getElem?_append_left (h.fresh hptr), he]⟩
  owner k₁ k₂ p h₁ h₂ := by
    change update c.cacheEntries k _ k₁ = _ at h₁
    change update c.cacheEntries k _ k₂ = _ at h₂
    have hnew : ∀ k', k' ≠ k → c.cacheEntries k' = some (some p) → c.heap.length ≠ p :=
      fun k' _ hp hlen => absurd (h.fresh hp) (by rw [hlen]; exact lt_irrefl p)
    by_cases hk₁ : k₁ = k <;> by_cases hk₂ : k₂ = k
    · rw [hk₁, hk₂]
    · rw [hk₁, update_self] at h₁
      rw [update_of_ne hk₂] at h₂
      exact absurd (Option.some.inj (Option.some.inj h₁)) (hnew k₂ hk₂ h₂)
    · rw [hk₂, update_self] at h₂
      rw [update_of_ne hk₁] at h₁
      exact absurd (Option.some.inj (Option.some.inj h₂)) (hnew k₁ hk₁ h₁)
    · rw [update_of_ne hk₁] at h₁
      rw [update_of_ne hk₂] at h₂
      exact h.owner k₁ k₂ p h₁ h₂
  valid p e he := by
    change (c.heap ++ [some ({} : DeviceCacheEntry)])[p]? = some (some e) at he
    rcases lt_or_ge p c.heap.length with hp | hp
    · exact h.valid p e (List.getElem?_append_left hp ▸ he)
    · rw [List.getElem?_append_right hp] at he
      obtain ⟨hlt, he⟩ := List.getElem?_eq_some_iff.mp he
      simp only [List.length_singleton] at hlt
      obtain rfl : p = c.heap.length := by omega
      have he' : e = {} := by simpa using he.symm
      exact he' ▸ .inl rfl

/-- What is left of the map when the entry of a scene goes. -/
lemma erase {k : String} {sceneList : List String} {heap : Heap DeviceCacheEntry}
    (hother : ∀ k' p, k' ≠ k → c.cacheEntries k' = some (some p) → heap[p]? = c.heap[p]?)
    (hvalid : ∀ (p : ℕ) (e : DeviceCacheEntry), heap[p]? = some (some e) → e.ValidId) :
    Live ⟨update c.cacheEntries k none, sceneList, heap⟩ where
  live k' ptr hptr := by
    dsimp only at hptr ⊢
    by_cases hkk : k' = k
    · rw [hkk, update_self] at hptr
      cases hptr
    · rw [update_of_ne hkk] at hptr
      obtain ⟨p, e, rfl, he⟩ := h.live k' ptr hptr
      exact ⟨p, e, rfl, (hother k' p hkk hptr).trans he⟩
  owner k₁ k₂ p h₁ h₂ := by
    dsimp only at h₁ h₂
    by_cases hk₁ : k₁ = k
    · rw [hk₁, update_self] at h₁
      cases h₁
    by_cases hk₂ : k₂ = k
    · rw [hk₂, update_self] at h₂
      cases h₂
    rw [update_of_ne hk₁] at h₁
    rw [update_of_ne hk₂] at h₂
    exact h.owner k₁ k₂ p h₁ h₂
  valid := hvalid

/-- A scene that is removed: its entry is deleted, or it has none by now. -/
lemma removeScene {k : String} {c' : DeviceCache} (hrun : c.removeScene k = .ok c') :
    c'.Live ∧ c'.devices = update c.devices k none := by
  rw [DeviceCache.removeScene] at hrun
  split_ifs at hrun with hk
  cases hptr : c.cacheEntries k with
  | none =>
      have hc' : c' = ⟨update c.cacheEntries k none, c.sceneList.erase k, c.heap⟩ := by
        simp [index, hptr, delete, orUndefined] at hrun
        exact hrun.symm
      subst hc'
      refine ⟨h.erase (fun _ _ _ _ => rfl) h.valid, funext fun k' => ?_⟩
      have hentries : update c.cacheEntries k none = c.cacheEntries := by
        rw [← hptr, update_eq_self]
      have hdevices : c.devices k = none := by
        rw [DeviceCache.devices, getDevices, hptr]
        rfl
      rw [hentries, ← hdevices, update_eq_self]
      exact devices_congr rfl fun _ _ => rfl
  | some ptr =>
      obtain ⟨p, e, rfl, he⟩ := h.live k ptr hptr
      have hc' : c' = ⟨update c.cacheEntries k none, c.sceneList.erase k, c.heap.set p none⟩ := by
        simp [index, hptr, delete, Heap.free_some he, orUndefined] at hrun
        exact hrun.symm
      subst hc'
      refine ⟨h.erase (fun k' q hkk hq => h.other hptr hkk hq) fun q e' hq => ?_,
        h.devices_removed hptr _⟩
      by_cases hpq : p = q
      · subst hpq
        rw [List.getElem?_set_self (List.getElem?_eq_some_iff.mp he).1] at hq
        cases hq
      · rw [List.getElem?_set_ne hpq] at hq
        exact h.valid q e' hq

/-- Devices are set where there is an entry. -/
lemma setDevices {k : String} {l : List Address} {c' : DeviceCache}
    (hrun : c.setDevices k l = .ok c') : c'.Live ∧ c'.devices = update c.devices k (some l) := by
  cases hptr : c.cacheEntries k with
  | none => simp [DeviceCache.setDevices, index, hptr, Heap.deref, orUndefined] at hrun
  | some ptr =>
      obtain ⟨p, e, rfl, he⟩ := h.live k ptr hptr
      have hc' : c' = { c with heap := c.heap.set p (some (e.setAddresses l)) } := by
        simp [DeviceCache.setDevices, index, hptr, Heap.deref_some he, orUndefined] at hrun
        exact hrun.symm
      subst hc'
      have hlt : p < c.heap.length := (List.getElem?_eq_some_iff.mp he).1
      have hentry : ∀ (q : ℕ) (e' : DeviceCacheEntry), c.heap[q]? = some (some e') →
          ∃ e'', (c.heap.set p (some (e.setAddresses l)))[q]? = some (some e'') := by
        intro q e' hq
        by_cases hpq : p = q
        · exact ⟨e.setAddresses l, by rw [← hpq, List.getElem?_set_self hlt]⟩
        · exact ⟨e', by rw [List.getElem?_set_ne hpq, hq]⟩
      refine ⟨⟨fun k' ptr' hptr' => ?_, h.owner, fun q e' hq => ?_⟩,
        devices_set (fun k' hk' => h.owner k' k p hk' hptr) hptr he (h.valid p e he) l⟩
      · obtain ⟨q, e', rfl, he'⟩ := h.live k' ptr' hptr'
        obtain ⟨e'', he''⟩ := hentry q e' he'
        exact ⟨q, e'', rfl, he''⟩
      · dsimp only at hq
        by_cases hpq : p = q
        · rw [← hpq, List.getElem?_set_self hlt] at hq
          obtain rfl : e.setAddresses l = e' := Option.some.inj (Option.some.inj hq)
          exact e.validId_setAddresses l
        · exact h.valid q e' ((List.getElem?_set_ne hpq).symm.trans hq)

/-- A call that has a meaning does to the map what `mapCall` says. -/
lemma call {r : Call} {c' : DeviceCache} (hrun : c.call r = some c') :
    c'.Live ∧ c'.devices = mapCall c.devices r := by
  cases r with
  | addScene k =>
      obtain rfl := Option.some.inj hrun
      exact ⟨h.addScene k, h.devices_addScene⟩
  | removeScene k => exact h.removeScene (eq_ok_of_toOption hrun)
  | setDevices k l => exact h.setDevices (eq_ok_of_toOption hrun)
  | getDevices k =>
      obtain rfl := eq_of_getDevices hrun
      exact ⟨h, rfl⟩

/-- The devices of a scene are set only where it has an entry. -/
lemma isSome_of_setDevices {k : String} {l : List Address} {c' : DeviceCache}
    (hrun : c.call (.setDevices k l) = some c') : (c.devices k).isSome := by
  cases hptr : c.cacheEntries k with
  | none =>
      simp [DeviceCache.call, DeviceCache.setDevices, index, hptr, Heap.deref, orUndefined,
        Except.toOption] at hrun
  | some ptr =>
      obtain ⟨p, e, rfl, he⟩ := h.live k ptr hptr
      rw [devices_eq, lookupEntry_eq_some.mpr ⟨p, hptr, he⟩]
      rfl

/-- A scene keeps its entry until it is removed. -/
lemma isSome_call {r : Call} {c' : DeviceCache} (hrun : c.call r = some c') {k : String}
    (hr : r ≠ .removeScene k) (hk : (c.devices k).isSome) : (c'.devices k).isSome := by
  have hupdate : ∀ (k' : String) (l : List Address),
      (update c.devices k' (some l) k).isSome := by
    intro k' l
    by_cases hkk : k = k'
    · rw [hkk, update_self]
      rfl
    · rw [update_of_ne hkk]
      exact hk
  rw [(h.call hrun).2]
  cases r with
  | addScene k' => exact hupdate k' []
  | removeScene k' =>
      rw [mapCall, update_of_ne fun (hkk : k = k') => hr (hkk ▸ rfl)]
      exact hk
  | setDevices k' l => exact hupdate k' l
  | getDevices k' => exact hk

end Live

lemma sceneList_index (c : DeviceCache) (k : String) : (c.index k).2.sceneList = c.sceneList := by
  rw [index]
  cases c.cacheEntries k <;> rfl

lemma sceneList_removeScene {c c' : DeviceCache} {k : String} (hrun : c.removeScene k = .ok c') :
    c'.sceneList = c.sceneList.erase k := by
  rw [removeScene] at hrun
  split_ifs at hrun with hk
  set c₁ : DeviceCache := { c with sceneList := c.sceneList.erase k }
  rcases hfree : delete (c₁.index k).2.heap (c₁.index k).1 with _ | heap
  · simp [hfree, orUndefined] at hrun
  · simp [hfree, orUndefined] at hrun
    rw [← hrun]
    exact sceneList_index c₁ k

lemma sceneList_setDevices {c c' : DeviceCache} {k : String} {l : List Address}
    (hrun : c.setDevices k l = .ok c') : c'.sceneList = c.sceneList := by
  rw [setDevices] at hrun
  rcases hderef : (c.index k).2.heap.deref (c.index k).1 with _ | ⟨p, e⟩
  · simp [hderef, orUndefined] at hrun
  · simp [hderef, orUndefined] at hrun
    rw [← hrun]
    exact sceneList_index c k

/-- A scene that is listed was listed before, or was added. -/
lemma mem_sceneList_of_call {c c' : DeviceCache} {r : Call} (hrun : c.call r = some c')
    {k : String} (hk : k ∈ c'.sceneList) : k ∈ c.sceneList ∨ r = .addScene k := by
  cases r with
  | addScene k' =>
      obtain rfl := Option.some.inj hrun
      rcases List.mem_append.mp hk with hk | hk
      · exact .inl hk
      · exact .inr (List.mem_singleton.mp hk ▸ rfl)
  | removeScene k' =>
      rw [sceneList_removeScene (eq_ok_of_toOption hrun)] at hk
      exact .inl (List.mem_of_mem_erase hk)
  | setDevices k' l =>
      rw [sceneList_setDevices (eq_ok_of_toOption hrun)] at hk
      exact .inl hk
  | getDevices k' =>
      exact .inl (eq_of_getDevices hrun ▸ hk)

/-- Every scene that is listed has an entry. -/
structure Stocked (c : DeviceCache) : Prop where
  live : c.Live
  listed : ∀ k ∈ c.sceneList, (c.devices k).isSome

lemma Stocked.empty : Stocked {} := ⟨.empty, by simp⟩

/-- Calls that remove nothing keep it so. -/
lemma Stocked.call {c c' : DeviceCache} (h : c.Stocked) {r : Call} (hrun : c.call r = some c')
    (hr : ∀ k, r ≠ .removeScene k) : c'.Stocked := by
  obtain ⟨hlive, hdevices⟩ := h.live.call hrun
  refine ⟨hlive, fun k hk => ?_⟩
  rcases mem_sceneList_of_call hrun hk with hk | rfl
  · exact h.live.isSome_call hrun (hr k) (h.listed k hk)
  · rw [hdevices, mapCall, update_self]
    rfl

end DeviceCache

end CrazyIvan
