import CrazyIvan.Library.Heap
import CrazyIvan.Library.Resumption
import Mathlib.Tactic

/-!
The event stream: a ring of senders, each handed to a thread pool with the event
of one datagram.

* `EventStream`, `receive`, `shutdown`: the loop of the source, one datagram at a
  time. An index past the ring, a sender that is run twice and one that is
  deleted during its run have no meaning, and no next state.
* `Ring`: what holds between two datagrams.
* `Orderly`: a datagram finds room in the ring, and the loop ends when no sender
  is running.
* `delivered_iff_orderly`: the runs in which every event is sent once are these.
-/

namespace CrazyIvan

open Resumption

/-- A sender: its event, whether its run has begun, and whether it is under way
on a thread of the pool. -/
structure EventSender (E : Type) where
  event : E
  begun : Bool := false
  running : Bool := false
deriving DecidableEq, Repr

/-- The event stream process. `handed` records the events whose run has begun. -/
structure EventStream (E : Type) where
  evtSenders : List Heap.Ptr := List.replicate 12 none
  senderIndex : ℕ := 0
  heap : Heap (EventSender E) := []
  handed : List E := []
  listening : Bool := true
deriving DecidableEq, Repr

/-- How the pool takes a sender: on a thread, or not at all, in which case it is
run by the loop, and returns or throws. -/
inductive Start where
  | started
  | refused (returns : Bool)
deriving DecidableEq, Repr

/-- What happens to the process: a datagram, the end of the run of a sender, or
the end of the loop. -/
inductive Happening (E : Type) where
  | receive (event : E) (start : Start)
  | finish (sender : ℕ)
  | shutdown
deriving DecidableEq, Repr

namespace EventStream

variable {E : Type}

/-- A sender whose run is under way cannot be deleted. -/
def idle (x : EventSender E) : Bool := !x.running

/-- All runs have ended: `joinAll`. -/
def joinAll (s : EventStream E) : EventStream E :=
  { s with heap := s.heap.map fun slot => slot.map fun x => { x with running := false } }

/-- Begin the run of a sender. The run frees the event, so there is no second
one. -/
def begin (s : EventStream E) (ptr : Heap.Ptr) (running : Bool) : Option (EventStream E) := do
  let (p, x) ← s.heap.deref ptr
  if x.begun then none
  else some { s with
    heap := s.heap.set p (some { x with begun := true, running })
    handed := s.handed ++ [x.event] }

/-- The end of the loop: the senders in the ring are deleted. -/
def shutdown (s : EventStream E) : Option (EventStream E) := do
  let heap ← s.heap.freeAll idle s.evtSenders
  some { s with heap, listening := false }

/-- One datagram. The new sender goes into the slot of the index before the index
is compared with the size of the ring. -/
def receive (s : EventStream E) (event : E) (start : Start) : Option (EventStream E) := do
  let leftOver ← s.evtSenders[s.senderIndex]?
  let heap ← s.heap.free idle leftOver
  let s := { s with
    heap := heap ++ [some ({ event } : EventSender E)]
    evtSenders := s.evtSenders.set s.senderIndex (some heap.length) }
  let s := if s.senderIndex = 12 then { s.joinAll with senderIndex := 0 } else s
  let sender ← s.evtSenders[s.senderIndex]?
  match start with
  | .started => do
      let s ← s.begin sender true
      some { s with senderIndex := s.senderIndex + 1 }
  | .refused returns => do
      let s ← s.begin sender false
      if returns then some { s.joinAll with senderIndex := 0 } else s.shutdown

/-- The run of a sender ends. -/
def finish (s : EventStream E) (p : ℕ) : EventStream E :=
  { s with heap := s.heap.modify p fun slot => slot.map fun x => { x with running := false } }

/-- The process after a happening; once the loop has ended no datagram is
accepted. -/
def step (s : EventStream E) : Happening E → Option (EventStream E)
  | .receive event start => if s.listening then s.receive event start else some s
  | .finish p => some (s.finish p)
  | .shutdown => if s.listening then s.shutdown else some s

/-- The events that are accepted. -/
def accepted (s : EventStream E) : Happening E → List E
  | .receive event _ => if s.listening then [event] else []
  | _ => []

/-- The event that was accepted is handed to a sender, and no sender is left
that was not run. -/
def Delivered (s : EventStream E) (h : Happening E) (t : EventStream E) : Prop :=
  t.handed = s.handed ++ s.accepted h ∧ ∀ x, some x ∈ t.heap → x.begun = true

/-- No sender is running. -/
def Quiet (s : EventStream E) : Prop := ∀ x, some x ∈ s.heap → x.running = false

/-- A datagram comes while fewer than twelve senders were started since the index
was last reset; and the loop ends, by itself or because a run on it throws, when
no sender is running. -/
def Orderly (s : EventStream E) : Happening E → Prop
  | .receive _ start => s.listening = true →
      s.senderIndex < 12 ∧ (start = .refused false → s.Quiet)
  | .finish _ => True
  | .shutdown => s.listening = true → s.Quiet

/-- What holds between two happenings. -/
structure Ring (s : EventStream E) : Prop where
  size : s.evtSenders.length = 12
  begun : ∀ x, some x ∈ s.heap → x.begun = true
  apart : s.listening = true → ∀ (i j p : ℕ), s.evtSenders[i]? = some (some p) →
    s.evtSenders[j]? = some (some p) → i = j
  live : s.listening = true → ∀ (i p : ℕ), s.evtSenders[i]? = some (some p) →
    ∃ x, s.heap[p]? = some (some x)
  running : s.listening = true → ∀ (p : ℕ) (x : EventSender E), s.heap[p]? = some (some x) →
    x.running = true → ∃ i < s.senderIndex, s.evtSenders[i]? = some (some p)

lemma ring_start : Ring ({} : EventStream E) := by
  have hslot : ∀ (i p : ℕ), (List.replicate 12 (none : Heap.Ptr))[i]? ≠ some (some p) :=
    fun i p h => by
      have hmem := List.eq_of_mem_replicate (List.mem_of_getElem? h)
      cases hmem
  refine ⟨rfl, by simp, fun _ i j p h => absurd h (hslot i p), fun _ i p h => absurd h (hslot i p),
    by simp⟩

/-- The process once a sender with the event has been put into the slot of the
index, in a heap without the one left over, and its run has begun. -/
def taken (s : EventStream E) (heap : Heap (EventSender E)) (event : E) (running : Bool) :
    EventStream E :=
  { s with
    heap := heap ++ [some ⟨event, true, running⟩]
    evtSenders := s.evtSenders.set s.senderIndex (some heap.length)
    handed := s.handed ++ [event] }

/-- The heap without the sender that was left over in the slot of the index. -/
def Cleared (s : EventStream E) (heap : Heap (EventSender E)) : Prop :=
  heap.length = s.heap.length ∧ ∀ p, heap[p]? =
    if s.evtSenders[s.senderIndex]? = some (some p) then some none else s.heap[p]?

/-- A sender is one that was there before and is not in the slot of the index, or
the new one. -/
lemma Cleared.eq_or_new {s : EventStream E} {heap : Heap (EventSender E)} (h : s.Cleared heap)
    {x new : EventSender E} {p : ℕ} (hx : (heap ++ [some new])[p]? = some (some x)) :
    s.heap[p]? = some (some x) ∧ s.evtSenders[s.senderIndex]? ≠ some (some p) ∨
      p = heap.length ∧ x = new := by
  rcases lt_or_ge p heap.length with hp | hp
  · rw [List.getElem?_append_left hp, h.2] at hx
    split_ifs at hx with hslot
    · cases hx
    · exact .inl ⟨hx, hslot⟩
  · rw [List.getElem?_append_right hp] at hx
    obtain ⟨hlt, hx⟩ := List.getElem?_eq_some_iff.mp hx
    simp only [List.length_singleton] at hlt
    refine .inr ⟨by omega, ?_⟩
    simpa using hx.symm

namespace Ring

variable {s : EventStream E} (h : s.Ring) (hopen : s.listening = true)

include h hopen

/-- A sender left over at the index is not running, and is deleted. -/
lemma exists_cleared (hi : s.senderIndex < 12) : ∃ leftOver heap,
    s.evtSenders[s.senderIndex]? = some leftOver ∧ s.heap.free idle leftOver = some heap ∧
      s.Cleared heap := by
  have hlt : s.senderIndex < s.evtSenders.length := h.size ▸ hi
  cases hslot : s.evtSenders[s.senderIndex] with
  | none =>
      have hnone : s.evtSenders[s.senderIndex]? = some none :=
        List.getElem?_eq_some_iff.mpr ⟨hlt, hslot⟩
      exact ⟨none, s.heap, hnone, rfl, rfl, fun p => by simp [hnone]⟩
  | some p =>
      have hsome : s.evtSenders[s.senderIndex]? = some (some p) :=
        List.getElem?_eq_some_iff.mpr ⟨hlt, hslot⟩
      obtain ⟨x, hx⟩ := h.live hopen _ p hsome
      have hidle : idle x = true := by
        rw [idle, Bool.not_eq_true']
        by_contra hrun
        obtain ⟨i, hlt, hi⟩ := h.running hopen p x hx (by simpa using hrun)
        exact absurd (h.apart hopen i _ p hi hsome) hlt.ne
      refine ⟨some p, s.heap.set p none, hsome, Heap.free_some hx hidle, by simp, fun q => ?_⟩
      rw [hsome]
      by_cases hpq : p = q
      · subst hpq
        simp [List.getElem?_set_self (Heap.lt_length hx)]
      · simp [hpq, List.getElem?_set_ne hpq]

lemma receive_eq (hi : s.senderIndex < 12) (event : E) : ∃ heap, s.Cleared heap ∧
    ∀ start, s.receive event start = match start with
      | .started => some { s.taken heap event true with senderIndex := s.senderIndex + 1 }
      | .refused true => some { (s.taken heap event false).joinAll with senderIndex := 0 }
      | .refused false => (s.taken heap event false).shutdown := by
  obtain ⟨leftOver, heap, hslot, hfree, hcleared⟩ := h.exists_cleared hopen hi
  have hlt : s.senderIndex < s.evtSenders.length := h.size ▸ hi
  refine ⟨heap, hcleared, fun start => ?_⟩
  have hbegin : ∀ running, begin
      { s with
        heap := heap ++ [some ({ event } : EventSender E)]
        evtSenders := s.evtSenders.set s.senderIndex (some heap.length) } (some heap.length)
        running = some (s.taken heap event running) := by
    intro running
    simp [begin, Heap.deref, taken]
  have hself : (s.evtSenders.set s.senderIndex (some heap.length))[s.senderIndex]? =
      some (some heap.length) := List.getElem?_set_self hlt
  rcases start with _ | _ | _
  · simp [receive, hslot, hfree, hi.ne, hself, hbegin, taken]
  · simp [receive, hslot, hfree, hi.ne, hself, hbegin]
  · simp [receive, hslot, hfree, hi.ne, hself, hbegin]

/-- What the other slots point to was allocated before, and is kept. -/
lemma kept {heap : Heap (EventSender E)} (hcleared : s.Cleared heap) {j p : ℕ}
    (hj : j ≠ s.senderIndex) (hp : s.evtSenders[j]? = some (some p)) :
    p < heap.length ∧ heap[p]? = s.heap[p]? := by
  obtain ⟨hlen, hget⟩ := hcleared
  obtain ⟨x, hx⟩ := h.live hopen j p hp
  refine ⟨hlen ▸ Heap.lt_length hx, ?_⟩
  rw [hget, if_neg fun hslot => hj (h.apart hopen j _ p hp hslot)]

/-- The ring with a new sender in the slot of the index, which is running only if
the index moves on. -/
lemma ring_taken (hi : s.senderIndex < 12) {heap : Heap (EventSender E)}
    (hcleared : s.Cleared heap) (event : E) (running : Bool) {n : ℕ} (hn : s.senderIndex ≤ n)
    (hrun : running = true → s.senderIndex < n) :
    Ring { s.taken heap event running with senderIndex := n } := by
  have hlt : s.senderIndex < s.evtSenders.length := h.size ▸ hi
  have hself : (s.evtSenders.set s.senderIndex (some heap.length))[s.senderIndex]? =
      some (some heap.length) := List.getElem?_set_self hlt
  have hother : ∀ j, j ≠ s.senderIndex →
      (s.evtSenders.set s.senderIndex (some heap.length))[j]? = s.evtSenders[j]? :=
    fun j hj => List.getElem?_set_ne hj.symm
  refine ⟨?_, fun x hx => ?_, fun _ i j p hpi hpj => ?_, fun _ i p hp => ?_,
    fun _ p x hx hxrun => ?_⟩
  · exact (List.length_set ..).trans h.size
  · -- A sender on the heap has begun.
    obtain ⟨p, hp⟩ := List.mem_iff_getElem?.mp hx
    rcases hcleared.eq_or_new hp with ⟨hold, -⟩ | ⟨-, rfl⟩
    · exact h.begun x (List.mem_of_getElem? hold)
    · rfl
  · -- No two slots have one sender: an old one is not in the new slot.
    change (s.evtSenders.set _ _)[i]? = _ at hpi
    change (s.evtSenders.set _ _)[j]? = _ at hpj
    by_cases hii : i = s.senderIndex <;> by_cases hjj : j = s.senderIndex
    · rw [hii, hjj]
    · rw [hii, hself] at hpi
      rw [hother j hjj] at hpj
      obtain rfl : heap.length = p := Option.some.inj (Option.some.inj hpi)
      exact absurd (h.kept hopen hcleared hjj hpj).1 (lt_irrefl _)
    · rw [hjj, hself] at hpj
      rw [hother i hii] at hpi
      obtain rfl : heap.length = p := Option.some.inj (Option.some.inj hpj)
      exact absurd (h.kept hopen hcleared hii hpi).1 (lt_irrefl _)
    · rw [hother i hii] at hpi
      rw [hother j hjj] at hpj
      exact h.apart hopen i j p hpi hpj
  · -- A slot has a sender that lives.
    change (s.evtSenders.set _ _)[i]? = _ at hp
    show ∃ x, (heap ++ [some ⟨event, true, running⟩])[p]? = some (some x)
    by_cases hii : i = s.senderIndex
    · rw [hii, hself] at hp
      obtain rfl : heap.length = p := Option.some.inj (Option.some.inj hp)
      exact ⟨⟨event, true, running⟩, by simp⟩
    · rw [hother i hii] at hp
      obtain ⟨hlt', hsame⟩ := h.kept hopen hcleared hii hp
      obtain ⟨x, hx⟩ := h.live hopen i p hp
      exact ⟨x, by rw [List.getElem?_append_left hlt', hsame, hx]⟩
  · -- A running sender is in a slot below the index.
    show ∃ i < n, (s.evtSenders.set _ _)[i]? = some (some p)
    rcases hcleared.eq_or_new hx with ⟨hold, -⟩ | ⟨rfl, rfl⟩
    · obtain ⟨i, hii, hp⟩ := h.running hopen p x hold hxrun
      exact ⟨i, hii.trans_le hn, by rw [hother i hii.ne, hp]⟩
    · exact ⟨s.senderIndex, hrun hxrun, hself⟩

end Ring

/-- Once all runs have ended the index can be reset. -/
lemma Ring.joinAll {s : EventStream E} (h : s.Ring) : Ring { s.joinAll with senderIndex := 0 } := by
  have hget : ∀ (p : ℕ) (x : EventSender E), s.joinAll.heap[p]? = some (some x) →
      ∃ y, s.heap[p]? = some (some y) ∧ x = { y with running := false } := by
    intro p x hx
    simp only [EventStream.joinAll, List.getElem?_map, Option.map_eq_some_iff] at hx
    obtain ⟨slot, hslot, y, rfl, rfl⟩ := hx
    exact ⟨y, hslot, rfl⟩
  refine ⟨h.size, fun x hx => ?_, h.apart, fun hopen i p hp => ?_, fun _ p x hx hrun => ?_⟩
  · obtain ⟨p, hp⟩ := List.mem_iff_getElem?.mp hx
    obtain ⟨y, hy, rfl⟩ := hget p x hp
    exact h.begun y (List.mem_of_getElem? hy)
  · obtain ⟨x, hx⟩ := h.live hopen i p hp
    exact ⟨{ x with running := false }, by simp [EventStream.joinAll, hx]⟩
  · obtain ⟨y, -, rfl⟩ := hget p x hx
    cases hrun

/-- The senders that are left can be deleted exactly when none is running. -/
lemma Ring.exists_shutdown_iff {s : EventStream E} (h : s.Ring) (hopen : s.listening = true) :
    (∃ t, s.shutdown = some t) ↔ s.Quiet := by
  have hnodup := Heap.nodup_reduceOption_iff.mpr (h.apart hopen)
  have hfree := Heap.exists_freeAll_iff (h := s.heap) idle hnodup
  have hshut : (∃ t, s.shutdown = some t) ↔
      ∃ heap, s.heap.freeAll idle s.evtSenders = some heap := by
    simp [shutdown, Option.bind_eq_some_iff]
  rw [hshut, hfree]
  constructor
  · intro hall x hx
    obtain ⟨p, hp⟩ := List.mem_iff_getElem?.mp hx
    by_contra hrun
    obtain ⟨i, -, hi⟩ := h.running hopen p x hp (by simpa using hrun)
    obtain ⟨y, hy, hidle⟩ := hall p (List.mem_of_getElem? hi)
    rw [hp] at hy
    obtain rfl : x = y := Option.some.inj (Option.some.inj hy)
    simp [idle] at hidle
    exact hrun hidle
  · intro hquiet p hp
    obtain ⟨i, hi⟩ := List.mem_iff_getElem?.mp hp
    obtain ⟨x, hx⟩ := h.live hopen i p hi
    exact ⟨x, hx, by simp [idle, hquiet x (List.mem_of_getElem? hx)]⟩

/-- The end of the loop leaves nothing to do, and no sender that was not run. -/
lemma Ring.of_shutdown {s t : EventStream E} (h : s.Ring) (ht : s.shutdown = some t) :
    t.Ring ∧ t.handed = s.handed := by
  obtain ⟨heap, hfree, ht⟩ := Option.bind_eq_some_iff.mp ht
  obtain rfl := Option.some.inj ht
  refine ⟨⟨h.size, fun x hx => ?_, by simp, by simp, by simp⟩, rfl⟩
  obtain ⟨p, hp⟩ := List.mem_iff_getElem?.mp hx
  rw [Heap.getElem?_freeAll hfree p] at hp
  split_ifs at hp with hmem
  · cases hp
  · exact h.begun x (List.mem_of_getElem? hp)

/-- The end of a run changes nothing but what is running. -/
lemma Ring.finish {s : EventStream E} (h : s.Ring) (p : ℕ) : (s.finish p).Ring := by
  have hget : ∀ (q : ℕ) (x : EventSender E), (s.finish p).heap[q]? = some (some x) →
      ∃ y, s.heap[q]? = some (some y) ∧ y.begun = x.begun ∧
        (x.running = true → y.running = true) := by
    intro q x hx
    simp only [EventStream.finish, List.getElem?_modify, Option.map_eq_map,
      Option.map_eq_some_iff] at hx
    obtain ⟨slot, hslot, hx⟩ := hx
    split_ifs at hx with hpq
    · obtain ⟨y, rfl, rfl⟩ := Option.map_eq_some_iff.mp hx
      exact ⟨y, hslot, rfl, by simp⟩
    · exact ⟨x, hx ▸ hslot, rfl, id⟩
  refine ⟨h.size, fun x hx => ?_, h.apart, fun hopen i q hq => ?_, fun hopen q x hx hrun => ?_⟩
  · obtain ⟨q, hq⟩ := List.mem_iff_getElem?.mp hx
    obtain ⟨y, hy, hbegun, -⟩ := hget q x hq
    exact hbegun ▸ h.begun y (List.mem_of_getElem? hy)
  · obtain ⟨x, hx⟩ := h.live hopen i q hq
    simp only [EventStream.finish, List.getElem?_modify, hx]
    split_ifs <;> simp
  · obtain ⟨y, hy, -, hyrun⟩ := hget q x hx
    exact h.running hopen q y hy (hyrun hrun)

/-- The sender that is left over at the index is not running, so the process is
as quiet without it. -/
lemma Ring.quiet_taken_iff {s : EventStream E} (h : s.Ring) (hopen : s.listening = true)
    {heap : Heap (EventSender E)} (hcleared : s.Cleared heap) (event : E) :
    (s.taken heap event false).Quiet ↔ s.Quiet := by
  have hmem : ∀ x, some x ∈ (s.taken heap event false).heap ↔
      some x ∈ heap ∨ x = ⟨event, true, false⟩ := fun x => by simp [taken]
  constructor
  · intro hquiet x hx
    obtain ⟨p, hp⟩ := List.mem_iff_getElem?.mp hx
    by_contra hrun
    obtain ⟨i, hi, hslot⟩ := h.running hopen p x hp (by simpa using hrun)
    have hkept : heap[p]? = some (some x) := by
      rw [hcleared.2, if_neg fun hleft => hi.ne (h.apart hopen i _ p hslot hleft), hp]
    exact hrun (hquiet x ((hmem x).mpr (.inl (List.mem_of_getElem? hkept))))
  · intro hquiet x hx
    rcases (hmem x).mp hx with hx | rfl
    · obtain ⟨p, hp⟩ := List.mem_iff_getElem?.mp hx
      rw [hcleared.2] at hp
      split_ifs at hp with hleft
      · cases hp
      · exact hquiet x (List.mem_of_getElem? hp)
    · rfl

/-- An orderly happening is gone through, and its event handed over. -/
lemma exists_step {s : EventStream E} (h : s.Ring) (r : Happening E) (hr : s.Orderly r) :
    ∃ t, s.step r = some t ∧ s.Delivered r t ∧ t.Ring := by
  cases hopen : s.listening with
  | false =>
      cases r with
      | receive event start =>
          exact ⟨s, by simp [step, hopen], ⟨by simp [accepted, hopen], h.begun⟩, h⟩
      | finish p =>
          exact ⟨_, rfl, ⟨by simp [accepted, EventStream.finish], (h.finish p).begun⟩, h.finish p⟩
      | shutdown => exact ⟨s, by simp [step, hopen], ⟨by simp [accepted], h.begun⟩, h⟩
  | true =>
      cases r with
      | receive event start =>
          obtain ⟨hi, hquiet⟩ := hr hopen
          obtain ⟨heap, hcleared, hreceive⟩ := h.receive_eq hopen hi event
          have hstep : s.step (.receive event start) = s.receive event start := if_pos hopen
          have haccepted : s.accepted (.receive event start) = [event] := if_pos hopen
          rw [hstep, hreceive]
          rcases start with _ | _ | _
          · have ht := h.ring_taken hopen hi hcleared event true (Nat.le_succ _)
              fun _ => Nat.lt_succ_self _
            exact ⟨_, rfl, ⟨haccepted ▸ rfl, ht.begun⟩, ht⟩
          · have ht := h.ring_taken hopen hi hcleared event false le_rfl (by simp)
            obtain ⟨t, hshut⟩ := (ht.exists_shutdown_iff hopen).mpr
              ((h.quiet_taken_iff hopen hcleared event).mpr (hquiet rfl))
            obtain ⟨ht', hhanded⟩ := ht.of_shutdown hshut
            exact ⟨t, hshut, ⟨hhanded.trans (haccepted ▸ rfl), ht'.begun⟩, ht'⟩
          · have ht := (h.ring_taken hopen hi hcleared event false le_rfl
              (by simp)).joinAll
            exact ⟨_, rfl, ⟨haccepted ▸ rfl, ht.begun⟩, ht⟩
      | finish p =>
          exact ⟨_, rfl, ⟨by simp [accepted, EventStream.finish], (h.finish p).begun⟩, h.finish p⟩
      | shutdown =>
          obtain ⟨t, hshut⟩ := (h.exists_shutdown_iff hopen).mpr (hr hopen)
          obtain ⟨ht, hhanded⟩ := h.of_shutdown hshut
          exact ⟨t, by simp [step, hopen, hshut], ⟨by simp [accepted, hhanded], ht.begun⟩, ht⟩

/-- What is not orderly leaves the ring, or deletes a sender that is running. -/
lemma orderly_of_step {s t : EventStream E} (h : s.Ring) {r : Happening E}
    (hstep : s.step r = some t) : s.Orderly r := by
  cases r with
  | receive event start =>
      intro hopen
      rw [step, if_pos hopen] at hstep
      obtain ⟨leftOver, hslot, -⟩ := Option.bind_eq_some_iff.mp hstep
      have hi : s.senderIndex < 12 := h.size ▸ (List.getElem?_eq_some_iff.mp hslot).1
      refine ⟨hi, ?_⟩
      rintro rfl
      obtain ⟨heap, hcleared, hreceive⟩ := h.receive_eq hopen hi event
      rw [hreceive] at hstep
      have ht := h.ring_taken hopen hi hcleared event false le_rfl (by simp)
      exact (h.quiet_taken_iff hopen hcleared event).mp
        ((ht.exists_shutdown_iff hopen).mp ⟨t, hstep⟩)
  | finish p => trivial
  | shutdown =>
      intro hopen
      rw [step, if_pos hopen] at hstep
      exact (h.exists_shutdown_iff hopen).mp ⟨t, hstep⟩

/-- The runs along which every event is sent by one sender, run once, and no
sender is deleted during its run: those in which each datagram finds room in the
ring and the loop ends when no sender is running. -/
theorem delivered_iff_orderly (hs : List (Happening E)) :
    Throughout step Delivered {} hs ↔ Admitted step Orderly {} hs :=
  throughout_iff_admitted (I := Ring) (fun _ r h hr => exists_step h r hr)
    (fun _ _ _ h hstep _ => orderly_of_step h hstep) ring_start hs

/-- The thirteenth sender started in a row has no slot; and a sender that is
running when the loop ends is deleted. -/
theorem not_delivered :
    ¬ Throughout step Delivered {} ((List.range 13).map fun n => .receive n .started) ∧
      ¬ Throughout step Delivered {} [.receive 0 .started, .shutdown] := by
  constructor
  · intro h
    obtain ⟨t, ht⟩ := h.exists_foldlM
    have hnone : ((List.range 13).map fun n => Happening.receive n .started).foldlM step
      ({} : EventStream ℕ) = none := by decide
    cases hnone.symm.trans ht
  · intro h
    obtain ⟨t, ht⟩ := h.exists_foldlM
    have hnone : [Happening.receive 0 .started, .shutdown].foldlM step
      ({} : EventStream ℕ) = none := by decide
    cases hnone.symm.trans ht

end EventStream

end CrazyIvan
