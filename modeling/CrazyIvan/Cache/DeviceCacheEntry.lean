import CrazyIvan.Library.Resumption
import Mathlib.Tactic

/-!
An entry of the device cache: two vectors of addresses, the id of the one that
is served, and a counter of readers for each.

* `DeviceCacheEntry`, `getAddresses`, `setAddresses`: a call that runs alone.
* `Reader`, `Writer`, `System.step`: the same calls in their atomic steps, run
  by any number of threads. A copy during which a move into the vector is under
  way is torn.
* `System.Conflict`: a move into a vector while it is copied.
* `Invariant`: what holds as long as no writer passes its wait while a reader
  has loaded the id of the buffer and not yet raised its counter.
-/

namespace CrazyIvan

open Resumption

/-- A host name and a port. -/
abbrev Address := String × ℤ

/-- The two vectors of an entry. -/
inductive Buffer where
  | zero
  | one
deriving DecidableEq, Repr

instance : Fintype Buffer := ⟨{.zero, .one}, fun b => by cases b <;> simp⟩

/-- A 32-bit counter after an increment or a decrement. -/
def wrap (n : ℤ) : ℤ := n.bmod (2 ^ 32)

structure DeviceCacheEntry where
  deviceAddresses0 : List Address := []
  deviceAddresses1 : List Address := []
  writeGuard : Bool := false
  currentVectorId : ℤ := 0
  addresses0Counter : ℤ := 0
  addresses1Counter : ℤ := 0
deriving DecidableEq, Repr

namespace DeviceCacheEntry

/-- The constructor that takes the first vector. -/
def ofAddresses (addresses : List Address) : DeviceCacheEntry := { deviceAddresses0 := addresses }

/-- Get the latest complete list of addresses, no other call running: the
counter is raised and lowered again. -/
def getAddresses (e : DeviceCacheEntry) : List Address :=
  if e.currentVectorId = 0 then e.deviceAddresses0 else e.deviceAddresses1

/-- Update the list of addresses, no other call running. -/
def setAddresses (e : DeviceCacheEntry) (updatedAddresses : List Address) : DeviceCacheEntry :=
  let e := if e.currentVectorId = 0 then { e with deviceAddresses1 := updatedAddresses }
    else { e with deviceAddresses0 := updatedAddresses }
  { e with currentVectorId := (e.currentVectorId + 1) % 2 }

/-- The id is that of a vector. -/
def ValidId (e : DeviceCacheEntry) : Prop := e.currentVectorId = 0 ∨ e.currentVectorId = 1

lemma validId_setAddresses (e : DeviceCacheEntry) (l : List Address) :
    (e.setAddresses l).ValidId := by
  have h : (e.setAddresses l).currentVectorId = (e.currentVectorId + 1) % 2 := by
    rw [setAddresses]; split <;> rfl
  rw [ValidId, h]
  omega

/-- What was set is read back. -/
lemma getAddresses_setAddresses {e : DeviceCacheEntry} (he : e.ValidId) (l : List Address) :
    (e.setAddresses l).getAddresses = l := by
  rcases he with h | h <;> simp [setAddresses, getAddresses, h]

/-! ### Access by vector -/

def addresses (e : DeviceCacheEntry) : Buffer → List Address
  | .zero => e.deviceAddresses0
  | .one => e.deviceAddresses1

def counter (e : DeviceCacheEntry) : Buffer → ℤ
  | .zero => e.addresses0Counter
  | .one => e.addresses1Counter

/-- The vector `get_addresses` turns to. -/
def readBuffer (e : DeviceCacheEntry) : Buffer := if e.currentVectorId = 0 then .zero else .one

/-- The vector `set_addresses` turns to. -/
def writeBuffer (e : DeviceCacheEntry) : Buffer := if e.currentVectorId = 0 then .one else .zero

def setCounter (e : DeviceCacheEntry) (n : ℤ) : Buffer → DeviceCacheEntry
  | .zero => { e with addresses0Counter := n }
  | .one => { e with addresses1Counter := n }

def store (e : DeviceCacheEntry) (l : List Address) : Buffer → DeviceCacheEntry
  | .zero => { e with deviceAddresses0 := l }
  | .one => { e with deviceAddresses1 := l }

/-- `addresses_counter++`. -/
def raise (e : DeviceCacheEntry) (b : Buffer) : DeviceCacheEntry :=
  e.setCounter (wrap (e.counter b + 1)) b

/-- `addresses_counter--`. -/
def lower (e : DeviceCacheEntry) (b : Buffer) : DeviceCacheEntry :=
  e.setCounter (wrap (e.counter b - 1)) b

def flip (e : DeviceCacheEntry) : DeviceCacheEntry :=
  { e with currentVectorId := (e.currentVectorId + 1) % 2 }

variable (e : DeviceCacheEntry) (b b' : Buffer)

lemma counter_setCounter (n : ℤ) :
    (e.setCounter n b).counter b' = if b' = b then n else e.counter b' := by
  cases b <;> cases b' <;> rfl

@[simp] lemma addresses_setCounter (n : ℤ) : (e.setCounter n b).addresses = e.addresses := by
  funext b'
  cases b <;> cases b' <;> rfl

@[simp] lemma currentVectorId_setCounter (n : ℤ) :
    (e.setCounter n b).currentVectorId = e.currentVectorId := by
  cases b <;> rfl

@[simp] lemma writeGuard_setCounter (n : ℤ) : (e.setCounter n b).writeGuard = e.writeGuard := by
  cases b <;> rfl

lemma addresses_store (l : List Address) :
    (e.store l b).addresses b' = if b' = b then l else e.addresses b' := by
  cases b <;> cases b' <;> rfl

@[simp] lemma counter_store (l : List Address) : (e.store l b).counter = e.counter := by
  funext b'
  cases b <;> cases b' <;> rfl

@[simp] lemma currentVectorId_store (l : List Address) :
    (e.store l b).currentVectorId = e.currentVectorId := by
  cases b <;> rfl

@[simp] lemma writeGuard_store (l : List Address) : (e.store l b).writeGuard = e.writeGuard := by
  cases b <;> rfl

lemma writeBuffer_ne_readBuffer : e.writeBuffer ≠ e.readBuffer := by
  rw [writeBuffer, readBuffer]
  split <;> simp

/-- The vector that was written is the one served after the flip. -/
lemma readBuffer_flip (he : e.ValidId) : e.flip.readBuffer = e.writeBuffer := by
  rcases he with h | h <;> simp [flip, readBuffer, writeBuffer, h]

lemma validId_flip : e.flip.ValidId := by
  show (e.currentVectorId + 1) % 2 = 0 ∨ (e.currentVectorId + 1) % 2 = 1
  omega

end DeviceCacheEntry

/-! ### Threads -/

/-- A thread that calls `get_addresses` again and again. `copying` carries what
the copy has found and whether it is whole so far. -/
inductive Reader where
  | idle
  | loaded (b : Buffer)
  | counted (b : Buffer)
  | copying (b : Buffer) (found : List Address) (whole : Bool)
  | copied (b : Buffer) (result : Option (List Address))
  | returned (result : Option (List Address))
deriving DecidableEq, Repr

/-- The steps of `set_addresses`. -/
inductive WriterPc where
  | idle
  | locked
  | found (b : Buffer)
  | passed (b : Buffer)
  | moving (b : Buffer)
  | moved (b : Buffer)
  | flipped
deriving DecidableEq, Repr

/-- A thread that calls `set_addresses` with one list after the other. -/
structure Writer where
  todo : List (List Address)
  pc : WriterPc := .idle
deriving DecidableEq, Repr

/-- The entry with the threads that use it. `installed` records the lists whose
move has ended. -/
structure System (ρ ω : Type) where
  entry : DeviceCacheEntry
  readers : ρ → Reader
  writers : ω → Writer
  installed : List (List Address) := []

/-- The next step of a call of `get_addresses`; `moving` tells whether a move
into a vector is under way. -/
def Reader.step (e : DeviceCacheEntry) (moving : Buffer → Bool) :
    Reader → DeviceCacheEntry × Reader
  | .idle => (e, .loaded e.readBuffer)
  | .loaded b => (e.raise b, .counted b)
  | .counted b => (e, .copying b (e.addresses b) (!moving b))
  | .copying b found whole => (e, .copied b (if whole then some found else none))
  | .copied b result => (e.lower b, .returned result)
  | .returned _ => (e, .idle)

/-- A move into `b` begins: what is copied from it is torn. -/
def Reader.tear (b : Buffer) : Reader → Reader
  | .copying b' found whole => .copying b' found (whole && b' ≠ b)
  | r => r

namespace System

variable {ρ ω : Type} [Fintype ρ] [Fintype ω] [DecidableEq ρ] [DecidableEq ω]

/-- A move into `b` is under way. -/
def Moving (s : System ρ ω) (b : Buffer) : Prop := ∃ j, (s.writers j).pc = .moving b

instance (s : System ρ ω) (b : Buffer) : Decidable (s.Moving b) := by
  unfold Moving; infer_instance

def setWriter (s : System ρ ω) (j : ω) (e : DeviceCacheEntry) (p : WriterPc) : System ρ ω :=
  { s with entry := e, writers := Function.update s.writers j { s.writers j with pc := p } }

/-- The next step of one thread: a writer that finds the guard taken, or the
counter of its vector above zero, stays where it is. -/
def step (s : System ρ ω) : ρ ⊕ ω → System ρ ω
  | .inl i =>
      let next := (s.readers i).step s.entry fun b => s.Moving b
      { s with entry := next.1, readers := Function.update s.readers i next.2 }
  | .inr j =>
      let e := s.entry
      match (s.writers j).pc with
      | .idle =>
          if (s.writers j).todo = [] ∨ e.writeGuard then s
          else s.setWriter j { e with writeGuard := true } .locked
      | .locked => s.setWriter j e (.found e.writeBuffer)
      | .found b => if e.counter b > 0 then s else s.setWriter j e (.passed b)
      | .passed b =>
          { s.setWriter j e (.moving b) with readers := fun i => (s.readers i).tear b }
      | .moving b =>
          let l := (s.writers j).todo.headD []
          { s.setWriter j (e.store l b) (.moved b) with installed := s.installed ++ [l] }
      | .moved _ => s.setWriter j e.flip .flipped
      | .flipped =>
          { s with
            entry := { e with writeGuard := false }
            writers := Function.update s.writers j { todo := (s.writers j).todo.tail } }

/-- The state after the steps of a schedule. -/
def run (s : System ρ ω) (sched : List (ρ ⊕ ω)) : System ρ ω := sched.foldl step s

/-- An entry that was given `addresses`, with threads that have not begun. -/
def start (addresses : List Address) (calls : ω → List (List Address)) : System ρ ω where
  entry := .ofAddresses addresses
  readers := fun _ => .idle
  writers := fun j => { todo := calls j }

/-- A move into a vector that is being copied. -/
def Conflict (s : System ρ ω) : Prop :=
  ∃ b, s.Moving b ∧ ∃ i l whole, s.readers i = .copying b l whole

/-- Every call of `get_addresses` returns the first list or one that was
installed. -/
def Whole (addresses : List Address) (s : System ρ ω) : Prop :=
  ∀ i result, s.readers i = .returned result →
    ∃ l ∈ addresses :: s.installed, result = some l

/-! ### The steps that keep a move apart from the copies -/

end System

namespace Reader

/-- Between loading the id of `b` and raising its counter. -/
def Gap (r : Reader) (b : Buffer) : Prop := r = .loaded b

/-- The counter of `b` is raised and the copy has not ended. -/
def Ahead (r : Reader) (b : Buffer) : Prop :=
  r = .counted b ∨ ∃ l whole, r = .copying b l whole

/-- Between raising the counter of `b` and lowering it. -/
def Holds (b : Buffer) : Reader → Bool
  | .counted b' | .copying b' _ _ | .copied b' _ => b' = b
  | _ => false

/-- Where a reader stands with respect to the lists that were installed. -/
def Ok (e : DeviceCacheEntry) (known : List (List Address)) : Reader → Prop
  | .idle => True
  | .loaded b | .counted b => e.addresses b ∈ known
  | .copying _ found whole => whole = true ∧ found ∈ known
  | .copied _ result | .returned result => ∃ l ∈ known, result = some l

lemma Ahead.holds {r : Reader} {b : Buffer} (h : r.Ahead b) : r.Holds b = true := by
  rcases h with rfl | ⟨l, whole, rfl⟩ <;> simp [Holds]

variable {e : DeviceCacheEntry} {known : List (List Address)} {moving : Buffer → Bool} {r : Reader}

variable (e moving) in
/-- A reader changes nothing but the counters. -/
lemma step_entry (r : Reader) : (r.step e moving).1.addresses = e.addresses ∧
    (r.step e moving).1.currentVectorId = e.currentVectorId ∧
    (r.step e moving).1.writeGuard = e.writeGuard := by
  cases r <;> simp [step, DeviceCacheEntry.raise, DeviceCacheEntry.lower]

/-- The counter of a vector follows the readers that hold it. -/
lemma step_counter (r : Reader) (b : Buffer) {n : ℕ} {n' : ℕ} (hn : e.counter b = wrap n)
    (h : n' + (if r.Holds b then 1 else 0)
      = n + if (r.step e moving).2.Holds b then 1 else 0) :
    (r.step e moving).1.counter b = wrap n' := by
  have hcast : (n' : ℤ) = n + (if (r.step e moving).2.Holds b then 1 else 0)
      - if r.Holds b then 1 else 0 := by
    have := congrArg (Nat.cast (R := ℤ)) h
    push_cast at this
    linarith
  rw [hcast]
  cases r with
  | loaded b' =>
      by_cases hb : b = b'
      · subst hb
        simp [step, Holds, DeviceCacheEntry.raise, DeviceCacheEntry.counter_setCounter, hn, wrap]
      · simp [step, Holds, DeviceCacheEntry.raise, DeviceCacheEntry.counter_setCounter, hn, hb,
          Ne.symm hb]
  | copied b' result =>
      by_cases hb : b = b'
      · subst hb
        simp [step, Holds, DeviceCacheEntry.lower, DeviceCacheEntry.counter_setCounter, hn, wrap]
      · simp [step, Holds, DeviceCacheEntry.lower, DeviceCacheEntry.counter_setCounter, hn, hb,
          Ne.symm hb]
  | _ => simp [step, Holds, hn]

variable (moving) in
/-- A reader turns to no vector but the one that is served. -/
lemma step_apart {b : Buffer} (hb : b ≠ e.readBuffer) (hgap : ¬ r.Gap b) (hahead : ¬ r.Ahead b) :
    ¬ (r.step e moving).2.Gap b ∧ ¬ (r.step e moving).2.Ahead b := by
  cases r <;> simp_all [step, Gap, Ahead, eq_comm]

/-- A reader that is `Ok` stays so while no move is under way where it copies. -/
lemma step_ok (hserved : e.addresses e.readBuffer ∈ known)
    (hmoving : ∀ b, r.Ahead b → moving b = false) (h : r.Ok e known) :
    (r.step e moving).2.Ok (r.step e moving).1 known := by
  cases r with
  | idle => exact hserved
  | loaded b => simpa [step, Ok, DeviceCacheEntry.raise] using h
  | counted b => exact ⟨by simp [hmoving b (.inl rfl)], h⟩
  | copying b found whole => exact ⟨found, h.2, by simp [h.1]⟩
  | copied b result => exact h
  | returned result => trivial

lemma Ok.mono {known' : List (List Address)} (hk : known ⊆ known') (h : r.Ok e known) :
    r.Ok e known' := by
  cases r with
  | idle => trivial
  | loaded b | counted b => exact hk h
  | copying b found whole => exact ⟨h.1, hk h.2⟩
  | copied b result | returned result =>
      obtain ⟨l, hl, hr⟩ := h
      exact ⟨l, hk hl, hr⟩

/-- An entry with the same vectors serves a reader as well. -/
lemma Ok.congr {e' : DeviceCacheEntry} (he : e'.addresses = e.addresses) (h : r.Ok e known) :
    r.Ok e' known := by
  cases r with
  | loaded b | counted b =>
      show e'.addresses b ∈ known
      rw [he]
      exact h
  | _ => exact h

lemma tear_of_not_ahead {b : Buffer} (h : ¬ r.Ahead b) : r.tear b = r := by
  cases r with
  | copying b' found whole =>
      have hb : b' ≠ b := fun hb => h (.inr ⟨found, whole, by rw [hb]⟩)
      simp [tear, hb]
  | _ => rfl

end Reader

namespace System

variable {ρ ω : Type} [Fintype ρ] [Fintype ω] [DecidableEq ρ] [DecidableEq ω]

/-! ### Calls that run alone -/

omit [Fintype ρ] in
/-- A call of `get_addresses` no other thread interferes with. -/
lemma run_reader_alone (s : System ρ ω) {i : ρ} (hi : s.readers i = .idle)
    (hmoving : ∀ b, ¬ s.Moving b) :
    (s.run (List.replicate 5 (.inl i))).readers i = .returned (some s.entry.getAddresses) := by
  have haddr : s.entry.addresses s.entry.readBuffer = s.entry.getAddresses := by
    rw [DeviceCacheEntry.readBuffer, DeviceCacheEntry.getAddresses]
    split <;> rfl
  have hnone : ∀ b j, (s.writers j).pc ≠ .moving b := fun b j hj => hmoving b ⟨j, hj⟩
  simp [run, List.replicate, step, Reader.step, hi, Moving, hnone, DeviceCacheEntry.raise, haddr]

omit [Fintype ρ] in
/-- A call of `set_addresses` no other thread interferes with. -/
lemma run_writer_alone (s : System ρ ω) {j : ω} {l : List Address} {rest : List (List Address)}
    (hj : s.writers j = { todo := l :: rest }) (hguard : s.entry.writeGuard = false)
    (hcounter : ∀ b, s.entry.counter b = 0) :
    (s.run (List.replicate 7 (.inr j))).entry = s.entry.setAddresses l := by
  have hzero : s.entry.addresses0Counter = 0 := hcounter .zero
  have hone : s.entry.addresses1Counter = 0 := hcounter .one
  by_cases hid : s.entry.currentVectorId = 0 <;>
    simp [run, List.replicate, step, setWriter, hj, hguard, hid, hzero, hone,
      DeviceCacheEntry.writeBuffer, DeviceCacheEntry.counter, DeviceCacheEntry.store,
      DeviceCacheEntry.flip, DeviceCacheEntry.setAddresses]

/-- The readers between raising the counter of `b` and lowering it. -/
def holders (s : System ρ ω) (b : Buffer) : ℕ :=
  (Finset.univ.filter fun i => (s.readers i).Holds b = true).card

/-- When a writer passes its wait on a vector, no reader has loaded the id of
the vector and not yet raised its counter; and the counter has not wrapped
around, or no reader it counts has its copy still to end. -/
def Heeds (s : System ρ ω) : ρ ⊕ ω → Prop
  | .inl _ => True
  | .inr j => ∀ b, (s.writers j).pc = .found b → ¬ s.entry.counter b > 0 →
      (∀ i, ¬ (s.readers i).Gap b) ∧
        (s.holders b < 2 ^ 31 ∨ ∀ i, ¬ (s.readers i).Ahead b)

omit [DecidableEq ρ] in
/-- What one reader does to the number of readers that hold a counter. -/
lemma holders_update (f : ρ → Reader) [DecidableEq ρ] (i : ρ) (r : Reader) (b : Buffer) :
    (Finset.univ.filter fun k => (Function.update f i r k).Holds b = true).card
        + (if (f i).Holds b then 1 else 0)
      = (Finset.univ.filter fun k => (f k).Holds b = true).card
        + (if r.Holds b then 1 else 0) := by
  have hrest : ∑ k ∈ Finset.univ.erase i,
        (if (Function.update f i r k).Holds b = true then 1 else 0)
      = ∑ k ∈ Finset.univ.erase i, if (f k).Holds b = true then 1 else 0 :=
    Finset.sum_congr rfl fun k hk => by
      rw [Function.update_of_ne (Finset.ne_of_mem_erase hk)]
  rw [Finset.card_filter, Finset.card_filter,
    ← Finset.add_sum_erase _ _ (Finset.mem_univ i),
    ← Finset.add_sum_erase _ _ (Finset.mem_univ i), hrest, Function.update_self]
  ring

/-- What a writer has seen to, in the state it is in. -/
def WriterOk (s : System ρ ω) (known : List (List Address)) : WriterPc → Prop
  | .idle | .locked | .flipped => True
  | .found b => b = s.entry.writeBuffer
  | .passed b | .moving b => b = s.entry.writeBuffer ∧
      ∀ i, ¬ (s.readers i).Gap b ∧ ¬ (s.readers i).Ahead b
  | .moved b => b = s.entry.writeBuffer ∧ s.entry.addresses b ∈ known

/-- What holds as long as the steps heed the readers. -/
structure Invariant (addresses : List Address) (s : System ρ ω) : Prop where
  valid : s.entry.ValidId
  counter : ∀ b, s.entry.counter b = wrap (s.holders b)
  served : s.entry.addresses s.entry.readBuffer ∈ addresses :: s.installed
  readers : ∀ i, (s.readers i).Ok s.entry (addresses :: s.installed)
  writers : ∀ j, s.WriterOk (addresses :: s.installed) (s.writers j).pc
  guard : ∀ j, (s.writers j).pc ≠ .idle →
    s.entry.writeGuard = true ∧ ∀ k, (s.writers k).pc ≠ .idle → k = j

omit [Fintype ω] [DecidableEq ρ] [DecidableEq ω] in
lemma invariant_start (addresses : List Address) (calls : ω → List (List Address)) :
    (start addresses calls : System ρ ω).Invariant addresses where
  valid := .inl rfl
  counter := fun b => by cases b <;> simp [start, holders, Reader.Holds, wrap] <;> rfl
  served := by simp [start, DeviceCacheEntry.readBuffer, DeviceCacheEntry.ofAddresses,
    DeviceCacheEntry.addresses]
  readers := fun _ => trivial
  writers := fun _ => trivial
  guard := fun _ h => absurd rfl h

variable {addresses : List Address} {s : System ρ ω}

namespace Invariant

omit [Fintype ω] [DecidableEq ρ] [DecidableEq ω] in
/-- A move under way keeps clear of every reader. -/
lemma not_ahead (h : s.Invariant addresses) {b : Buffer} (hb : s.Moving b) (i : ρ) :
    ¬ (s.readers i).Ahead b := by
  obtain ⟨j, hj⟩ := hb
  have hw := h.writers j
  rw [hj] at hw
  exact (hw.2 i).2

lemma step_reader (h : s.Invariant addresses) (i : ρ) :
    (s.step (.inl i)).Invariant addresses := by
  obtain ⟨haddr, hid, hguard⟩ :=
    Reader.step_entry s.entry (fun b => s.Moving b) (s.readers i)
  have hread : (s.step (.inl i)).entry.readBuffer = s.entry.readBuffer := by
    simp only [step, DeviceCacheEntry.readBuffer, hid]
  have hwrite : (s.step (.inl i)).entry.writeBuffer = s.entry.writeBuffer := by
    simp only [step, DeviceCacheEntry.writeBuffer, hid]
  have hmoving : ∀ b, (s.readers i).Ahead b → (decide (s.Moving b)) = false := fun b hb =>
    decide_eq_false fun hm => h.not_ahead hm i hb
  refine ⟨?_, fun b => ?_, ?_, fun k => ?_, fun j => ?_, ?_⟩
  · show (s.step (.inl i)).entry.currentVectorId = 0 ∨ _ = 1
    simp only [step, hid]
    exact h.valid
  · exact Reader.step_counter (s.readers i) b (h.counter b)
      (holders_update s.readers i _ b)
  · rw [hread]
    simp only [step, haddr]
    exact h.served
  · show ((Function.update s.readers i _) k).Ok _ (addresses :: s.installed)
    by_cases hk : k = i
    · subst hk
      rw [Function.update_self]
      exact Reader.step_ok h.served hmoving (h.readers k)
    · rw [Function.update_of_ne hk]
      exact (h.readers k).congr haddr
  · have hw := h.writers j
    show (s.step (.inl i)).WriterOk (addresses :: s.installed) (s.writers j).pc
    have hapart : ∀ b, b = s.entry.writeBuffer →
        (∀ k, ¬ (s.readers k).Gap b ∧ ¬ (s.readers k).Ahead b) →
        ∀ k, ¬ ((s.step (.inl i)).readers k).Gap b ∧ ¬ ((s.step (.inl i)).readers k).Ahead b := by
      intro b hb hall k
      show ¬ ((Function.update s.readers i _) k).Gap b ∧ _
      by_cases hk : k = i
      · subst hk
        have hne : b ≠ s.entry.readBuffer := hb ▸ s.entry.writeBuffer_ne_readBuffer
        have hstep := Reader.step_apart (fun b => s.Moving b) hne (hall k).1 (hall k).2
        simpa [step] using hstep
      · simpa [step, Function.update_of_ne hk] using hall k
    cases hpc : (s.writers j).pc with
    | idle | locked | flipped => trivial
    | found b => rw [hpc] at hw; exact hw.trans hwrite.symm
    | passed b | moving b =>
        rw [hpc] at hw
        exact ⟨hw.1.trans hwrite.symm, hapart b hw.1 hw.2⟩
    | moved b =>
        rw [hpc] at hw
        refine ⟨hw.1.trans hwrite.symm, ?_⟩
        simp only [step, haddr]
        exact hw.2
  · intro j hj
    obtain ⟨hup, hone⟩ := h.guard j hj
    refine ⟨?_, hone⟩
    simp only [step, hguard]
    exact hup

omit [Fintype ω] [DecidableEq ρ] [DecidableEq ω] in
/-- A writer that has begun is the only one. -/
lemma others_idle (h : s.Invariant addresses) {j : ω} (hj : (s.writers j).pc ≠ .idle) {k : ω}
    (hk : k ≠ j) : (s.writers k).pc = .idle := by
  by_contra hne
  exact hk ((h.guard j hj).2 k hne)

omit [Fintype ω] [DecidableEq ρ] in
/-- A step of the only writer, which leaves the readers and their counters as
they are. -/
lemma of_writer (h : s.Invariant addresses) {s' : System ρ ω} (j : ω)
    (hreaders : s'.readers = s.readers) (hcounter : s'.entry.counter = s.entry.counter)
    (hothers : ∀ k, k ≠ j → (s'.writers k).pc = .idle) (hvalid : s'.entry.ValidId)
    (hserved : s'.entry.addresses s'.entry.readBuffer ∈ addresses :: s'.installed)
    (hok : ∀ i, (s.readers i).Ok s'.entry (addresses :: s'.installed))
    (hj : s'.WriterOk (addresses :: s'.installed) (s'.writers j).pc)
    (hguard : (s'.writers j).pc ≠ .idle → s'.entry.writeGuard = true) :
    s'.Invariant addresses := by
  have honly : ∀ k, (s'.writers k).pc ≠ .idle → k = j := fun k hk => by
    by_contra hne
    exact hk (hothers k hne)
  refine ⟨hvalid, fun b => ?_, hserved, fun i => hreaders ▸ hok i, fun k => ?_, fun k hk => ?_⟩
  · rw [hcounter, h.counter b, holders, holders, hreaders]
  · by_cases hk : k = j
    · exact hk ▸ hj
    · rw [hothers k hk]
      trivial
  · rw [honly k hk]
    exact ⟨hguard (honly k hk ▸ hk), fun k' hk' => honly k' hk'⟩

omit [Fintype ω] [DecidableEq ρ] [DecidableEq ω] in
/-- Where the counter of a vector is not above zero and has not wrapped around,
no reader has its copy of it still to end. -/
lemma not_ahead_of_counter (h : s.Invariant addresses) {b : Buffer}
    (hzero : ¬ s.entry.counter b > 0) (hlt : s.holders b < 2 ^ 31) (i : ρ) :
    ¬ (s.readers i).Ahead b := by
  intro hahead
  have hmem : i ∈ Finset.univ.filter fun i => (s.readers i).Holds b = true :=
    Finset.mem_filter.mpr ⟨Finset.mem_univ i, hahead.holds⟩
  have hpos : 0 < s.holders b := Finset.card_pos.mpr ⟨i, hmem⟩
  have hbmod : wrap (s.holders b) = s.holders b :=
    Int.bmod_eq_of_le (by omega) (by omega)
  rw [h.counter b, hbmod] at hzero
  omega

/-- A vector with new addresses is moved into place. -/
lemma step_moving (h : s.Invariant addresses) {j : ω} {b : Buffer}
    (hpc : (s.writers j).pc = .moving b)
    (hothers : ∀ (w : Writer) (k : ω), k ≠ j → (Function.update s.writers j w k).pc = .idle) :
    (s.step (.inr j)).Invariant addresses := by
  have hj : (s.writers j).pc ≠ .idle := by simp [hpc]
  have hw := h.writers j
  rw [hpc] at hw
  set l := (s.writers j).todo.headD [] with hl
  have hsub : addresses :: s.installed ⊆ addresses :: (s.installed ++ [l]) := by
    intro x hx
    rcases List.mem_cons.mp hx with rfl | hx
    · exact List.mem_cons_self
    · exact List.mem_cons_of_mem _ (List.mem_append_left _ hx)
  have hread : (s.entry.store l b).readBuffer = s.entry.readBuffer := by
    simp [DeviceCacheEntry.readBuffer]
  have hwrite : (s.entry.store l b).writeBuffer = s.entry.writeBuffer := by
    simp [DeviceCacheEntry.writeBuffer]
  have hkeep : ∀ b', b' ≠ b → (s.entry.store l b).addresses b' = s.entry.addresses b' :=
    fun b' hb' => by rw [DeviceCacheEntry.addresses_store, if_neg hb']
  simp only [System.step, hpc, ← hl]
  refine h.of_writer j rfl (DeviceCacheEntry.counter_store _ b l) (hothers _) ?_ ?_
    (fun i => ?_) ?_ fun _ => ?_
  · show (s.entry.store l b).ValidId
    rw [DeviceCacheEntry.ValidId, DeviceCacheEntry.currentVectorId_store]
    exact h.valid
  · show (s.entry.store l b).addresses (s.entry.store l b).readBuffer ∈ _
    rw [hread, hkeep _ (hw.1 ▸ s.entry.writeBuffer_ne_readBuffer.symm)]
    exact hsub h.served
  · show (s.readers i).Ok (s.entry.store l b) (addresses :: (s.installed ++ [l]))
    have hi := (h.readers i).mono hsub
    obtain ⟨hgap, hahead⟩ := hw.2 i
    cases hr : s.readers i with
    | loaded b' | counted b' =>
        rw [hr] at hi hgap hahead
        have hne : b' ≠ b := fun hb => by simp [Reader.Gap, Reader.Ahead, hb] at hgap hahead
        show (s.entry.store l b).addresses b' ∈ _
        rw [hkeep b' hne]
        exact hi
    | _ =>
        rw [hr] at hi
        exact hi
  · simp only [setWriter, Function.update_self]
    refine ⟨hw.1.trans hwrite.symm, ?_⟩
    show (s.entry.store l b).addresses b ∈ _
    rw [DeviceCacheEntry.addresses_store, if_pos rfl]
    simp
  · show (s.entry.store l b).writeGuard = true
    rw [DeviceCacheEntry.writeGuard_store]
    exact (h.guard j hj).1

/-- The vector that was moved into place becomes the one that is read. -/
lemma step_moved (h : s.Invariant addresses) {j : ω} {b : Buffer}
    (hpc : (s.writers j).pc = .moved b)
    (hothers : ∀ (w : Writer) (k : ω), k ≠ j → (Function.update s.writers j w k).pc = .idle) :
    (s.step (.inr j)).Invariant addresses := by
  have hj : (s.writers j).pc ≠ .idle := by simp [hpc]
  have hw := h.writers j
  rw [hpc] at hw
  simp only [System.step, hpc]
  refine h.of_writer j rfl ?_ (hothers _) s.entry.validId_flip ?_
    (fun i => (h.readers i).congr ?_) ?_ fun _ => (h.guard j hj).1
  · exact funext fun b' => by cases b' <;> rfl
  · show s.entry.flip.addresses s.entry.flip.readBuffer ∈ _
    rw [s.entry.readBuffer_flip h.valid, ← hw.1]
    exact hw.2
  · exact funext fun b' => by cases b' <;> rfl
  · simp [setWriter, WriterOk]

lemma step_writer (h : s.Invariant addresses) (j : ω) (hheeds : s.Heeds (.inr j)) :
    (s.step (.inr j)).Invariant addresses := by
  have hw := h.writers j
  have hothers : (s.writers j).pc ≠ .idle → ∀ (w : Writer) (k : ω), k ≠ j →
      (Function.update s.writers j w k).pc = .idle := fun hj w k hk => by
    rw [Function.update_of_ne hk]
    exact h.others_idle hj hk
  cases hpc : (s.writers j).pc with
  | idle =>
      simp only [System.step, hpc]
      split_ifs with hstay
      · exact h
      · have hidle : ∀ k, (s.writers k).pc = .idle := fun k => by
          by_contra hk
          exact hstay (.inr (h.guard k hk).1)
        refine h.of_writer j rfl rfl (fun k hk => ?_) h.valid h.served h.readers ?_ fun _ => rfl
        · simpa [setWriter, Function.update_of_ne hk] using hidle k
        · simp [setWriter, WriterOk]
  | locked =>
      have hj : (s.writers j).pc ≠ .idle := by simp [hpc]
      simp only [System.step, hpc]
      exact h.of_writer j rfl rfl (hothers hj _) h.valid h.served h.readers
        (by simp [setWriter, WriterOk]) fun _ => (h.guard j hj).1
  | found b =>
      have hj : (s.writers j).pc ≠ .idle := by simp [hpc]
      simp only [System.step, hpc]
      split_ifs with hstay
      · exact h
      · obtain ⟨hgap, hcount⟩ := hheeds b hpc hstay
        have hahead : ∀ i, ¬ (s.readers i).Ahead b :=
          hcount.elim (fun hlt => h.not_ahead_of_counter hstay hlt) id
        rw [hpc] at hw
        refine h.of_writer j rfl rfl (hothers hj _) h.valid h.served h.readers ?_
          fun _ => (h.guard j hj).1
        simp only [setWriter, Function.update_self]
        exact ⟨hw, fun i => ⟨hgap i, hahead i⟩⟩
  | passed b =>
      have hj : (s.writers j).pc ≠ .idle := by simp [hpc]
      rw [hpc] at hw
      have htear : (fun i => (s.readers i).tear b) = s.readers :=
        funext fun i => Reader.tear_of_not_ahead (hw.2 i).2
      simp only [System.step, hpc, htear]
      refine h.of_writer j rfl rfl (hothers hj _) h.valid h.served h.readers ?_
        fun _ => (h.guard j hj).1
      simp only [setWriter, Function.update_self]
      exact hw
  | moving b => exact h.step_moving hpc (hothers (by simp [hpc]))
  | moved b => exact h.step_moved hpc (hothers (by simp [hpc]))
  | flipped =>
      have hj : (s.writers j).pc ≠ .idle := by simp [hpc]
      simp only [System.step, hpc]
      refine h.of_writer j rfl rfl (hothers hj _) h.valid h.served h.readers ?_ ?_
      · simp [WriterOk]
      · simp

/-- What every step that heeds the readers keeps. -/
lemma step (h : s.Invariant addresses) (pick : ρ ⊕ ω) (hheeds : s.Heeds pick) :
    (s.step pick).Invariant addresses := by
  cases pick with
  | inl i => exact h.step_reader i
  | inr j => exact h.step_writer j hheeds

omit [Fintype ω] [DecidableEq ρ] [DecidableEq ω] in
lemma not_conflict (h : s.Invariant addresses) : ¬ s.Conflict := by
  rintro ⟨b, hb, i, l, whole, hi⟩
  exact h.not_ahead hb i (.inr ⟨l, whole, hi⟩)

omit [Fintype ω] [DecidableEq ρ] [DecidableEq ω] in
lemma whole (h : s.Invariant addresses) : s.Whole addresses := by
  intro i result hi
  have hr := h.readers i
  rw [hi] at hr
  exact hr

end Invariant

/-! ### A step that does not heed them -/

omit [Fintype ρ] in
lemma readers_step (s : System ρ ω) (i : ρ) :
    (s.step (.inl i)).readers i = ((s.readers i).step s.entry fun b => s.Moving b).2 := by
  simp [step]

omit [Fintype ρ] in
/-- Once a move into `b` is under way, a reader on its way to `b` gets there. -/
lemma exists_conflict {s : System ρ ω} {b : Buffer} (hb : s.Moving b) {i : ρ}
    (hi : (s.readers i).Gap b ∨ (s.readers i).Ahead b) : ∃ rest, (s.run rest).Conflict := by
  have hahead : ∀ {t : System ρ ω}, t.Moving b → (t.readers i).Ahead b →
      ∃ rest, (t.run rest).Conflict := by
    rintro t ht (hc | ⟨l, whole, hc⟩)
    · exact ⟨[.inl i], b, ht, i, t.entry.addresses b, !t.Moving b, by
        rw [run, List.foldl_cons, List.foldl_nil, readers_step, hc, Reader.step]⟩
    · exact ⟨[], b, ht, i, l, whole, hc⟩
  rcases hi with hgap | hi
  · have hnext : ((s.step (.inl i)).readers i).Ahead b := by
      rw [readers_step, hgap]
      exact .inl rfl
    obtain ⟨rest, hrest⟩ := hahead (t := s.step (.inl i)) hb hnext
    exact ⟨.inl i :: rest, hrest⟩
  · exact hahead hb hi

omit [Fintype ρ] [Fintype ω] [DecidableEq ρ] [DecidableEq ω] in
/-- The begin of a move leaves the readers where they are. -/
lemma tear_iff {r : Reader} {b : Buffer} :
    (r.tear b).Gap b ∨ (r.tear b).Ahead b ↔ r.Gap b ∨ r.Ahead b := by
  cases r <;> simp [Reader.tear, Reader.Gap, Reader.Ahead]

/-- A writer that passes its wait while a reader is on its way to the vector can
be run into a conflict. -/
lemma exists_conflict_of_not_heeds {s : System ρ ω} {pick : ρ ⊕ ω} (h : ¬ s.Heeds pick) :
    ∃ rest, (s.run (pick :: rest)).Conflict := by
  cases pick with
  | inl i => exact absurd trivial h
  | inr j =>
      simp only [Heeds, not_forall] at h
      obtain ⟨b, hpc, hzero, hnot⟩ := h
      have hreader : ∃ i, (s.readers i).Gap b ∨ (s.readers i).Ahead b := by
        by_contra hnone
        push Not at hnone
        exact hnot ⟨fun i => (hnone i).1, .inr fun i => (hnone i).2⟩
      obtain ⟨i, hi⟩ := hreader
      have hpass : s.step (.inr j) = s.setWriter j s.entry (.passed b) := by
        simp only [step, hpc, if_neg hzero]
      have hpc' : ((s.step (.inr j)).writers j).pc = .passed b := by
        rw [hpass]
        simp [setWriter]
      have hmove : (s.run [.inr j, .inr j]).Moving b := ⟨j, by
        show ((s.step (.inr j)).step (.inr j) |>.writers j).pc = _
        rw [step, hpc']
        simp [setWriter]⟩
      have hstill : ((s.run [.inr j, .inr j]).readers i) = (s.readers i).tear b := by
        show ((s.step (.inr j)).step (.inr j)).readers i = _
        rw [step, hpc', hpass]
        rfl
      obtain ⟨rest, hrest⟩ := exists_conflict hmove (hstill ▸ tear_iff.mpr hi)
      exact ⟨.inr j :: rest, hrest⟩

/-- A run whose steps heed the readers keeps every move apart from the copies and
returns whole lists; a step that does not heed them leads into a conflict. -/
theorem run_heeding (addresses : List Address) (calls : ω → List (List Address)) :
    (∀ sched, Along step Heeds (start addresses calls : System ρ ω) sched →
      ∀ s ∈ sched.scanl step (start addresses calls), ¬ s.Conflict ∧ s.Whole addresses) ∧
    ∀ sched pick, ¬ ((start addresses calls : System ρ ω).run sched).Heeds pick →
      ∃ rest, ((start addresses calls : System ρ ω).run (sched ++ pick :: rest)).Conflict := by
  constructor
  · intro sched halong s hs
    have hinv := forall_states_of_along (fun t pick (ht : t.Invariant addresses) hheeds =>
      ht.step pick hheeds) (invariant_start addresses calls) halong s hs
    exact ⟨hinv.not_conflict, hinv.whole⟩
  · intro sched pick hnot
    obtain ⟨rest, hrest⟩ := exists_conflict_of_not_heeds hnot
    refine ⟨rest, ?_⟩
    rw [run, List.foldl_append]
    exact hrest

instance (r : Reader) (b : Buffer) : Decidable (r.Gap b) := by
  unfold Reader.Gap; infer_instance

instance (r : Reader) (b : Buffer) : Decidable (r.Ahead b) :=
  match r with
  | .counted b' => decidable_of_iff (b' = b) (by simp [Reader.Ahead])
  | .copying b' _ _ => decidable_of_iff (b' = b) (by simp [Reader.Ahead])
  | .idle | .loaded _ | .copied _ _ | .returned _ => isFalse (by simp [Reader.Ahead])

instance (s : System ρ ω) (pick : ρ ⊕ ω) : Decidable (s.Heeds pick) :=
  match pick with
  | .inl _ => isTrue trivial
  | .inr j => by unfold Heeds; infer_instance

/-- One call of each kind, the reader after the writer. -/
def inTurn : List (Unit ⊕ Unit) := List.replicate 7 (.inr ()) ++ List.replicate 5 (.inl ())

theorem run_heeding_inTurn :
    let s : System Unit Unit := start [("a", 1)] fun _ => [[("b", 2)]]
    ¬ (s.run inTurn).Conflict ∧ (s.run inTurn).Whole [("a", 1)] :=
  (run_heeding [("a", 1)] fun _ : Unit => [[("b", 2)]]).1 inTurn (by decide) _
    (List.mem_of_getLast? List.getLast?_scanl)

/-- A reader that loads an id, and two calls of `set_addresses` before it goes
on. -/
def overtaken : List (Unit ⊕ Unit) :=
  .inl () :: List.replicate 11 (.inr ()) ++ [.inl (), .inl ()]

/-- The copy runs into the move of the second call, and is returned torn. -/
theorem conflict_overtaken :
    let s : System Unit Unit := start [("a", 1)] fun _ => [[("b", 2)], [("c", 3)]]
    (s.run overtaken).Conflict ∧
      (s.run (overtaken ++ [.inl (), .inl ()])).readers () = .returned none := by
  refine ⟨⟨.zero, ⟨(), by decide⟩, (), [("a", 1)], false, by decide⟩, by decide⟩

end System

end CrazyIvan
