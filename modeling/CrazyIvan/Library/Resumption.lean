import Mathlib.Data.List.Basic

/-!
Programs that talk to a shared store one query at a time.

A program is a resumption: either it has ended, with a value or with an error,
or it asks one query and goes on with the answer. The store stays outside, so
one and the same program can be run alone or interleaved with others.

* `Prog`, `Prog.bind`, `Prog.handle`: the resumption, its sequencing and its
  error handler; a handler sees the errors of the program it guards only.
* `Prog.run`: the program run alone against a store that answers by `h`;
  `run_bind` and `run_handle` say how the two combinators run.
* `Prog.Asks P`: every query the program can ever ask satisfies `P`, whatever
  it is answered. `Asks.run_invariant` is the frame rule this gives: what every
  such query keeps, the whole run keeps.
* `Prog.Ends adm E`: the program ends with `E`, however it is answered within
  what `adm` allows.
* `Prog.Returns P`: every value the program can return satisfies `P`.
* `Pool`, `Pool.interleave`: finitely many programs over one store, a schedule
  naming the program that asks next. `Pool.interleave_iff` characterises the
  schedules that keep an invariant by the single queries asked along them, and
  `Pool.interleave_invariant` is the frame rule for them. `Pool.ends_interleave`: how a
  thread ends; `Pool.exists_interleave_runAll`: programs that run one at a time are one
  of them.
* `Along`: a condition on each step of a run of a transition function;
  `forall_states_of_along` is the induction over the states of such a run.
  `outputs`: what the steps give out. `foldl_simulation`, `outputs_simulation`: an
  abstraction that follows the steps follows the runs and what they give out.
* `Throughout`, `Admitted`: the same for a transition function that can get
  stuck; `throughout_iff_admitted` characterises the runs that go well by their
  steps, and `admitted_congr` one condition on the steps by another.
  `exists_foldlM_invariant` is the induction for steps that all go well, and
  `exists_foldlM_simulation` the one for steps that total ones simulate.
-/

namespace Resumption

/-- A program asking queries `Q`, answered by `A`, and ending in an `α` or in
an error `ε`. -/
inductive Prog (Q A ε α : Type) where
  | ret (r : Except ε α)
  | ask (q : Q) (k : A → Prog Q A ε α)

variable {Q A ε α β σ : Type}

namespace Prog

/-- Sequencing: the second program starts on the value of the first. -/
def bind : Prog Q A ε α → (α → Prog Q A ε β) → Prog Q A ε β
  | .ret (.ok a), f => f a
  | .ret (.error e), _ => .ret (.error e)
  | .ask q k, f => .ask q fun a => (k a).bind f

/-- An error handler around a program. -/
def handle : Prog Q A ε α → (ε → Prog Q A ε α) → Prog Q A ε α
  | .ret (.ok a), _ => .ret (.ok a)
  | .ret (.error e), g => g e
  | .ask q k, g => .ask q fun a => (k a).handle g

instance : Monad (Prog Q A ε) where
  pure a := .ret (.ok a)
  bind := Prog.bind

/-- A program that fails at once. -/
def fail (e : ε) : Prog Q A ε α := .ret (.error e)

/-- A program that asks one query and returns the answer. -/
def query (q : Q) : Prog Q A ε A := .ask q fun a => .ret (.ok a)

/-- A computation without queries, as a program. -/
def lift (r : Except ε α) : Prog Q A ε α := .ret r

/-! ### Computing with programs -/

@[simp] lemma pure_bind (a : α) (f : α → Prog Q A ε β) : (pure a >>= f) = f a := rfl

@[simp] lemma ok_bind (a : α) (f : α → Prog Q A ε β) : (lift (.ok a) >>= f) = f a := rfl

@[simp] lemma error_bind (e : ε) (f : α → Prog Q A ε β) :
    (lift (.error e) >>= f) = lift (.error e) := rfl

@[simp] lemma fail_bind (e : ε) (f : α → Prog Q A ε β) : (fail e >>= f) = fail e := rfl

@[simp] lemma ask_bind (q : Q) (k : A → Prog Q A ε α) (f : α → Prog Q A ε β) :
    (ask q k >>= f) = ask q fun a => k a >>= f := rfl

@[simp] lemma query_bind (q : Q) (f : A → Prog Q A ε β) : (query q >>= f) = ask q f := rfl

lemma bind_assoc {γ : Type} (p : Prog Q A ε α) (f : α → Prog Q A ε β) (g : β → Prog Q A ε γ) :
    ((p >>= f) >>= g) = p >>= fun a => f a >>= g := by
  show (p.bind f).bind g = p.bind fun a => (f a).bind g
  induction p with
  | ret r => cases r <;> rfl
  | ask q k ih => exact congrArg (ask q) (funext ih)

@[simp] lemma handle_pure (a : α) (g : ε → Prog Q A ε α) :
    (pure a : Prog Q A ε α).handle g = pure a := rfl

@[simp] lemma handle_ok (a : α) (g : ε → Prog Q A ε α) :
    (lift (.ok a) : Prog Q A ε α).handle g = pure a := rfl

@[simp] lemma handle_error (e : ε) (g : ε → Prog Q A ε α) :
    (lift (.error e) : Prog Q A ε α).handle g = g e := rfl

@[simp] lemma handle_ask (q : Q) (k : A → Prog Q A ε α) (g : ε → Prog Q A ε α) :
    (ask q k).handle g = ask q fun a => (k a).handle g := rfl

/-! ### Running alone -/

/-- The program run alone; `h` answers a query and says what it does to the
store. -/
def run (h : Q → σ → A × σ) : Prog Q A ε α → σ → Except ε α × σ
  | .ret r, s => (r, s)
  | .ask q k, s => (k (h q s).1).run h (h q s).2

variable (h : Q → σ → A × σ)

@[simp] lemma run_ret (r : Except ε α) (s : σ) : run h (.ret r) s = (r, s) := rfl

@[simp] lemma run_ask (q : Q) (k : A → Prog Q A ε α) (s : σ) :
    run h (.ask q k) s = run h (k (h q s).1) (h q s).2 := rfl

/-- What a program that ends after one query leaves. -/
lemma snd_run_ask_lift (q : Q) (r : Except ε α) (s : σ) :
    (run h (.ask q fun _ => lift r) s).2 = (h q s).2 := rfl

@[simp] lemma run_pure (a : α) (s : σ) :
    run h (pure a : Prog Q A ε α) s = (.ok a, s) := rfl

@[simp] lemma run_fail (e : ε) (s : σ) :
    run h (fail e : Prog Q A ε α) s = (.error e, s) := rfl

@[simp] lemma run_lift (r : Except ε α) (s : σ) :
    run h (lift r : Prog Q A ε α) s = (r, s) := rfl

@[simp] lemma run_query (q : Q) (s : σ) :
    run h (query q : Prog Q A ε A) s = (.ok (h q s).1, (h q s).2) := rfl

/-- Sequencing runs the second program from where the first one left the
store. -/
@[simp] lemma run_bind (p : Prog Q A ε α) (f : α → Prog Q A ε β) (s : σ) :
    run h (p >>= f) s = match run h p s with
      | (.ok a, s') => run h (f a) s'
      | (.error e, s') => (.error e, s') := by
  show run h (p.bind f) s = _
  induction p generalizing s with
  | ret r => cases r <;> rfl
  | ask q k ih => exact ih _ _

/-- A handler runs from where the failing program left the store. -/
@[simp] lemma run_handle (p : Prog Q A ε α) (g : ε → Prog Q A ε α) (s : σ) :
    run h (p.handle g) s = match run h p s with
      | (.ok a, s') => (.ok a, s')
      | (.error e, s') => run h (g e) s' := by
  induction p generalizing s with
  | ret r => cases r <;> rfl
  | ask q k ih => exact ih _ _

/-! ### The queries a program can ask -/

/-- Every query the program can ask, on whatever answers, satisfies `P`. -/
def Asks (P : Q → Prop) : Prog Q A ε α → Prop
  | .ret _ => True
  | .ask q k => P q ∧ ∀ a, (k a).Asks P

variable {P P' : Q → Prop}

namespace Asks

@[simp] lemma ret (r : Except ε α) : Asks P (.ret r : Prog Q A ε α) := trivial

@[simp] lemma pure (a : α) : Asks P (Pure.pure a : Prog Q A ε α) := trivial

@[simp] lemma fail (e : ε) : Asks P (Prog.fail e : Prog Q A ε α) := trivial

@[simp] lemma lift (r : Except ε α) : Asks P (Prog.lift r : Prog Q A ε α) := trivial

lemma query {q : Q} (hq : P q) : Asks P (Prog.query q : Prog Q A ε A) :=
  ⟨hq, fun _ => trivial⟩

lemma mono (hPP' : ∀ q, P q → P' q) {p : Prog Q A ε α} (hp : Asks P p) : Asks P' p := by
  induction p with
  | ret r => trivial
  | ask q k ih => exact ⟨hPP' q hp.1, fun a => ih a (hp.2 a)⟩

lemma bind {p : Prog Q A ε α} {f : α → Prog Q A ε β} (hp : Asks P p)
    (hf : ∀ a, Asks P (f a)) : Asks P (p >>= f) := by
  show Asks P (p.bind f)
  induction p with
  | ret r => cases r with
    | ok a => exact hf a
    | error e => trivial
  | ask q k ih => exact ⟨hp.1, fun a => ih a (hp.2 a)⟩

lemma handle {p : Prog Q A ε α} {g : ε → Prog Q A ε α} (hp : Asks P p)
    (hg : ∀ e, Asks P (g e)) : Asks P (p.handle g) := by
  induction p with
  | ret r => cases r with
    | ok a => trivial
    | error e => exact hg e
  | ask q k ih => exact ⟨hp.1, fun a => ih a (hp.2 a)⟩

lemma ite {c : Prop} [Decidable c] {p p' : Prog Q A ε α} (hp : c → Asks P p)
    (hp' : ¬ c → Asks P p') : Asks P (if c then p else p') := by
  split
  · exact hp ‹_›
  · exact hp' ‹_›

/-- The frame rule: a store property kept by every query the program can ask
is kept by the whole run. -/
lemma run_invariant {I : σ → Prop} (hI : ∀ q s, P q → I s → I (h q s).2)
    {p : Prog Q A ε α} (hp : Asks P p) {s : σ} (hs : I s) : I (run h p s).2 := by
  induction p generalizing s with
  | ret r => exact hs
  | ask q k ih => exact ih _ (hp.2 _) (hI q s hp.1 hs)

end Asks

/-! ### How a program can end -/

/-- However it is answered, within what `adm` allows, the program ends with `E`. -/
def Ends (adm : Q → A → Prop) (E : Except ε α → Prop) : Prog Q A ε α → Prop
  | .ret r => E r
  | .ask q k => ∀ a, adm q a → (k a).Ends adm E

namespace Ends

variable {adm : Q → A → Prop} {E : Except ε α → Prop} {F : Except ε β → Prop}

lemma bind {p : Prog Q A ε α} {f : α → Prog Q A ε β} (hp : p.Ends adm E)
    (herror : ∀ e, E (.error e) → F (.error e)) (hok : ∀ a, E (.ok a) → (f a).Ends adm F) :
    (p >>= f).Ends adm F := by
  show (p.bind f).Ends adm F
  induction p with
  | ret r => cases r with
    | ok a => exact hok a hp
    | error e => exact herror e hp
  | ask q k ih => exact fun a ha => ih a (hp a ha)

lemma handle {E' : Except ε α → Prop} {p : Prog Q A ε α} {g : ε → Prog Q A ε α}
    (hp : p.Ends adm E) (herror : ∀ e, E (.error e) → (g e).Ends adm E')
    (hok : ∀ a, E (.ok a) → E' (.ok a)) : (p.handle g).Ends adm E' := by
  induction p with
  | ret r => cases r with
    | ok a => exact hok a hp
    | error e => exact herror e hp
  | ask q k ih => exact fun a ha => ih a (hp a ha)

lemma ite {c : Prop} [Decidable c] {p p' : Prog Q A ε α} (hp : c → p.Ends adm E)
    (hp' : ¬ c → p'.Ends adm E) : (if c then p else p').Ends adm E := by
  split
  · exact hp ‹_›
  · exact hp' ‹_›

/-- A program that is run alone against such a store ends so. -/
lemma run {h : Q → σ → A × σ} (hadm : ∀ q s, adm q (h q s).1) {p : Prog Q A ε α}
    (hp : p.Ends adm E) (s : σ) : E (p.run h s).1 := by
  induction p generalizing s with
  | ret r => exact hp
  | ask q k ih => exact ih _ (hp _ (hadm q s)) _

/-- A program that is run alone, where the queries it can ask keep an invariant under which
the answers are such. -/
lemma run_invariant {P : Q → Prop} {I : σ → Prop} {h : Q → σ → A × σ}
    (hI : ∀ q s, P q → I s → I (h q s).2 ∧ adm q (h q s).1) {p : Prog Q A ε α}
    (hasks : p.Asks P) (hp : p.Ends adm E) {s : σ} (hs : I s) : E (p.run h s).1 := by
  induction p generalizing s with
  | ret r => exact hp
  | ask q k ih =>
      obtain ⟨hI', hadm⟩ := hI q s hasks.1 hs
      exact ih _ (hasks.2 _) (hp _ hadm) hI'

end Ends

/-! ### What a program can return -/

/-- Whatever it is answered, a value that the program returns satisfies `P`. -/
def Returns (P : α → Prop) (p : Prog Q A ε α) : Prop :=
  p.Ends (fun _ _ => True) fun r => ∀ a, r = .ok a → P a

namespace Returns

variable {P P' : α → Prop} {S : β → Prop}

lemma lift {r : Except ε α} (h : ∀ a, r = .ok a → P a) : Returns P (Prog.lift r : Prog Q A ε α) :=
  h

lemma pure {a : α} (h : P a) : Returns P (Pure.pure a : Prog Q A ε α) := by
  rintro _ ⟨⟩
  exact h

lemma fail (e : ε) : Returns P (Prog.fail e : Prog Q A ε α) := nofun

lemma ask {q : Q} {k : A → Prog Q A ε α} (h : ∀ a, Returns P (k a)) : Returns P (.ask q k) :=
  fun a _ => h a

lemma trivial (p : Prog Q A ε α) : Returns (fun _ => True) p := by
  induction p with
  | ret r => exact fun _ _ => True.intro
  | ask q k ih => exact .ask ih

lemma bind {p : Prog Q A ε α} {f : α → Prog Q A ε β} (hp : Returns P p)
    (hf : ∀ a, P a → Returns S (f a)) : Returns S (p >>= f) :=
  Ends.bind hp (fun _ _ => nofun) fun a ha => hf a (ha a rfl)

lemma handle {p : Prog Q A ε α} {g : ε → Prog Q A ε α} (hp : Returns P p)
    (hg : ∀ e, Returns P (g e)) : Returns P (p.handle g) :=
  Ends.handle hp (fun e _ => hg e) fun _ ha => ha

lemma mono (hPP' : ∀ a, P a → P' a) {p : Prog Q A ε α} (hp : Returns P p) : Returns P' p := by
  induction p with
  | ret r => exact fun a ha => hPP' a (hp a ha)
  | ask q k ih => exact fun a ha => ih a (hp a ha)

/-- A program that is run alone. -/
lemma run (h : Q → σ → A × σ) {p : Prog Q A ε α} (hp : Returns P p) {s : σ} {a : α}
    (ha : (p.run h s).1 = .ok a) : P a :=
  Ends.run (fun _ _ => True.intro) hp s a ha

end Returns

/-- One query of a program: the program that is left and the store after it. -/
def advance (h : Q → σ → A × σ) : Prog Q A ε α → σ → Prog Q A ε α × σ
  | .ret r, s => (.ret r, s)
  | .ask q k, s => (k (h q s).1, (h q s).2)

/-- The query a program asks next, none once it has ended. -/
def next? : Prog Q A ε α → Option Q
  | .ret _ => none
  | .ask q _ => some q

lemma Asks.advance {p : Prog Q A ε α} (hp : Asks P p) (s : σ) :
    Asks P (p.advance h s).1 := by
  cases p with
  | ret r => trivial
  | ask q k => exact hp.2 _

end Prog

/-! ### Interleavings -/

/-- Programs over one store. -/
structure Pool (σ Q A ε α : Type) where
  store : σ
  threads : List (Prog Q A ε α)

namespace Pool

variable (h : Q → σ → A × σ)

/-- Thread `i` asks its next query; a thread that has ended does nothing. -/
def step (c : Pool σ Q A ε α) (i : ℕ) : Pool σ Q A ε α :=
  match c.threads[i]? with
  | none => c
  | some p => ⟨(p.advance h c.store).2, c.threads.set i (p.advance h c.store).1⟩

/-- The pool after the queries of a schedule. -/
def interleave (c : Pool σ Q A ε α) (sched : List ℕ) : Pool σ Q A ε α :=
  sched.foldl (step h) c

/-- The query thread `i` asks next. -/
def pending (c : Pool σ Q A ε α) (i : ℕ) : Option Q :=
  (c.threads[i]?).bind Prog.next?

/-- Every query along the schedule meets `ok` in the store it is asked in. -/
def QueriesOk (ok : Q → σ → Prop) : Pool σ Q A ε α → List ℕ → Prop
  | _, [] => True
  | c, i :: sched =>
      (∀ q, c.pending i = some q → ok q c.store) ∧ QueriesOk ok (c.step h i) sched

variable {P : Q → Prop}

lemma asks_step {c : Pool σ Q A ε α} (hc : ∀ p ∈ c.threads, p.Asks P) (i : ℕ) :
    ∀ p ∈ (c.step h i).threads, p.Asks P := by
  intro p hp
  rw [step] at hp
  split at hp
  · exact hc p hp
  · next p₀ hp₀ =>
      rcases List.mem_or_eq_of_mem_set hp with h' | h'
      · exact hc p h'
      · rw [h']
        exact (hc p₀ (List.mem_of_getElem? hp₀)).advance h c.store

variable {h}

/-- One step keeps the invariant exactly when its query is in order. -/
lemma step_iff {I : σ → Prop} {ok : Q → σ → Prop}
    (hI : ∀ q s, P q → (I (h q s).2 ↔ I s ∧ ok q s)) {c : Pool σ Q A ε α}
    (hc : ∀ p ∈ c.threads, p.Asks P) (i : ℕ) :
    I (c.step h i).store ↔ I c.store ∧ ∀ q, c.pending i = some q → ok q c.store := by
  rw [step, pending]
  cases hp : c.threads[i]? with
  | none => simp
  | some p =>
      have hasks := hc p (List.mem_of_getElem? hp)
      cases p with
      | ret r => simp [Prog.advance, Prog.next?]
      | ask q k => simpa [Prog.advance, Prog.next?] using hI q c.store hasks.1

/-- The schedules that keep an invariant: exactly those along which every
query is in order. The induction is on the schedule. -/
theorem interleave_iff {I : σ → Prop} {ok : Q → σ → Prop}
    (hI : ∀ q s, P q → (I (h q s).2 ↔ I s ∧ ok q s)) (sched : List ℕ)
    {c : Pool σ Q A ε α} (hc : ∀ p ∈ c.threads, p.Asks P) :
    I (c.interleave h sched).store ↔ I c.store ∧ QueriesOk h ok c sched := by
  induction sched generalizing c with
  | nil => simp [interleave, QueriesOk]
  | cons i sched ih =>
      have hstep := step_iff hI hc i
      have hrest := ih (asks_step h hc i)
      rw [interleave, List.foldl_cons, ← interleave, hrest, hstep, QueriesOk, and_assoc]

/-- The frame rule: what every query that the threads can ask keeps, every
interleaving keeps. The induction is on the schedule. -/
theorem interleave_invariant {I : σ → Prop} (hI : ∀ q s, P q → I s → I (h q s).2)
    (sched : List ℕ) {c : Pool σ Q A ε α} (hc : ∀ p ∈ c.threads, p.Asks P) (hs : I c.store) :
    I (c.interleave h sched).store := by
  induction sched generalizing c with
  | nil => exact hs
  | cons i sched ih =>
      refine ih (asks_step h hc i) ?_
      rw [step]
      cases hp : c.threads[i]? with
      | none => exact hs
      | some p =>
          have hasks := hc p (List.mem_of_getElem? hp)
          cases p with
          | ret r => exact hs
          | ask q k => exact hI q c.store hasks.1 hs

/-- A thread that goes on alone until it has ended. The induction is on its program. -/
theorem exists_interleave_alone (h : Q → σ → A × σ) (c : Pool σ Q A ε α) {i : ℕ}
    {p : Prog Q A ε α} (hp : c.threads[i]? = some p) :
    ∃ n, c.interleave h (List.replicate n i)
      = ⟨(p.run h c.store).2, c.threads.set i (.ret (p.run h c.store).1)⟩ := by
  obtain ⟨hlt, hget⟩ := List.getElem?_eq_some_iff.mp hp
  induction p generalizing c with
  | ret r =>
      refine ⟨0, ?_⟩
      rw [Prog.run_ret, ← hget, List.set_getElem_self]
      rfl
  | ask q k ih =>
      have hstep : c.step h i = ⟨(h q c.store).2, c.threads.set i (k (h q c.store).1)⟩ := by
        rw [step, hp]
        rfl
      obtain ⟨n, hn⟩ := ih (h q c.store).1 (c.step h i)
        (by rw [hstep]; exact List.getElem?_set_self hlt) (by rw [hstep]; simpa using hlt)
        (by simp only [hstep, List.getElem_set_self])
      refine ⟨n + 1, ?_⟩
      rw [List.replicate_succ, interleave, List.foldl_cons, ← interleave, hn, hstep,
        List.set_set, Prog.run_ask]

/-- Programs that run one at a time, each to its end. -/
def runAll (h : Q → σ → A × σ) (s : σ) (ps : List (Prog Q A ε α)) : σ :=
  ps.foldl (fun s p => (p.run h s).2) s

/-- Behind threads that have ended, the others run one at a time. The induction is on these. -/
lemma exists_interleave_behind (h : Q → σ → A × σ) (s : σ) (ended : List (Prog Q A ε α))
    (hended : ∀ p ∈ ended, ∃ r, p = .ret r) (ps : List (Prog Q A ε α)) :
    ∃ sched : List ℕ, sched.Pairwise (· ≤ ·) ∧ (∀ i ∈ sched, ended.length ≤ i) ∧
      ((⟨s, ended ++ ps⟩ : Pool σ Q A ε α).interleave h sched).store = runAll h s ps ∧
      ∀ p ∈ ((⟨s, ended ++ ps⟩ : Pool σ Q A ε α).interleave h sched).threads, ∃ r, p = .ret r := by
  induction ps generalizing s ended with
  | nil => exact ⟨[], .nil, by simp, rfl, by simpa [interleave] using hended⟩
  | cons p ps ih =>
      obtain ⟨n, hn⟩ := exists_interleave_alone h (⟨s, ended ++ p :: ps⟩ : Pool σ Q A ε α)
        (i := ended.length) (p := p) (by simp)
      have hset : (ended ++ p :: ps).set ended.length (.ret (p.run h s).1)
          = (ended ++ [.ret (p.run h s).1]) ++ ps := by simp
      rw [hset] at hn
      obtain ⟨sched, hsorted, hge, hstore, hthreads⟩ := ih (p.run h s).2
        (ended ++ [.ret (p.run h s).1]) (by
          intro q hq
          rcases List.mem_append.mp hq with hq | hq
          · exact hended q hq
          · exact ⟨_, List.mem_singleton.mp hq⟩)
      have hlen : ∀ i ∈ sched, ended.length ≤ i := fun i hi =>
        Nat.le_trans (Nat.le_succ _) (by simpa using hge i hi)
      have hrun : ∀ c : Pool σ Q A ε α, c.interleave h (List.replicate n ended.length ++ sched)
          = (c.interleave h (List.replicate n ended.length)).interleave h sched :=
        fun c => List.foldl_append
      refine ⟨List.replicate n ended.length ++ sched, ?_, ?_, ?_, ?_⟩
      · refine List.pairwise_append.mpr
          ⟨List.pairwise_replicate.mpr (.inr Nat.le.refl), hsorted, fun i hi j hj => ?_⟩
        rw [List.eq_of_mem_replicate hi]
        exact hlen j hj
      · intro i hi
        rcases List.mem_append.mp hi with hi | hi
        · exact Nat.le_of_eq (List.eq_of_mem_replicate hi).symm
        · exact hlen i hi
      · rw [hrun, hn]
        exact hstore
      · rw [hrun, hn]
        exact hthreads

/-- Programs that run one at a time are one of their interleavings. -/
theorem exists_interleave_runAll (h : Q → σ → A × σ) (s : σ) (ps : List (Prog Q A ε α)) :
    ∃ sched : List ℕ, sched.Pairwise (· ≤ ·) ∧
      ((⟨s, ps⟩ : Pool σ Q A ε α).interleave h sched).store = runAll h s ps ∧
      ∀ p ∈ ((⟨s, ps⟩ : Pool σ Q A ε α).interleave h sched).threads, ∃ r, p = .ret r := by
  obtain ⟨sched, hsorted, -, hstore, hthreads⟩ :=
    exists_interleave_behind h s [] (by simp) ps
  exact ⟨sched, hsorted, hstore, hthreads⟩

/-- A thread that ends with `E` on the answers `adm` allows, in a pool where the stores
of `I` give only such answers, ends with `E` in every interleaving. The induction is on
the schedule. -/
theorem ends_interleave {I : σ → Prop} {adm : Q → A → Prop} {E : Except ε α → Prop}
    (hI : ∀ q s, P q → I s → I (h q s).2 ∧ adm q (h q s).1) (sched : List ℕ)
    {c : Pool σ Q A ε α} (hc : ∀ p ∈ c.threads, p.Asks P) (hs : I c.store) {i : ℕ}
    {p : Prog Q A ε α} (hp : c.threads[i]? = some p) (hends : p.Ends adm E)
    {r : Except ε α} (hr : (c.interleave h sched).threads[i]? = some (.ret r)) : E r := by
  induction sched generalizing c p with
  | nil =>
      obtain rfl : p = .ret r := Option.some.inj (hp.symm.trans hr)
      exact hends
  | cons j sched ih =>
      have hstore : I (c.step h j).store := interleave_invariant (fun q s hq hs => (hI q s hq hs).1)
        [j] hc hs
      by_cases hij : j = i
      · subst hij
        have hlt : j < c.threads.length := (List.getElem?_eq_some_iff.mp hp).1
        refine ih (asks_step h hc j) hstore (p := (p.advance h c.store).1) ?_ ?_ hr
        · rw [step, hp]
          exact List.getElem?_set_self hlt
        · cases p with
          | ret r => exact hends
          | ask q k =>
              exact hends _ (hI q c.store (hc _ (List.mem_of_getElem? hp)).1 hs).2
      · refine ih (asks_step h hc j) hstore (p := p) ?_ hends hr
        rw [step]
        cases c.threads[j]? with
        | none => exact hp
        | some p' => exact (List.getElem?_set_ne hij).trans hp

/-- What every schedule that keeps the invariant at its end kept before. -/
lemma invariant_of_append {I : σ → Prop} {ok : Q → σ → Prop}
    (hI : ∀ q s, P q → (I (h q s).2 ↔ I s ∧ ok q s)) {c : Pool σ Q A ε α}
    (hc : ∀ p ∈ c.threads, p.Asks P) (sched rest : List ℕ)
    (hend : I (c.interleave h (sched ++ rest)).store) : I (c.interleave h sched).store := by
  have happend : ∀ (c : Pool σ Q A ε α) (sched : List ℕ),
      QueriesOk h ok c (sched ++ rest) → QueriesOk h ok c sched := by
    intro c sched
    induction sched generalizing c with
    | nil => exact fun _ => trivial
    | cons i sched ih => exact fun hok => ⟨hok.1, ih _ hok.2⟩
  obtain ⟨hs, hok⟩ := (interleave_iff hI _ hc).mp hend
  exact (interleave_iff hI _ hc).mpr ⟨hs, happend c sched hok⟩

end Pool

/-! ### Runs of a transition function -/

section Runs

variable {ρ : Type} (step : σ → ρ → σ)

/-- Every step of the run meets `ok` in the state it starts in. -/
def Along (ok : σ → ρ → Prop) : σ → List ρ → Prop
  | _, [] => True
  | s, r :: rs => ok s r ∧ Along ok (step s r) rs

instance decidableAlong (ok : σ → ρ → Prop) [∀ s r, Decidable (ok s r)] :
    ∀ s rs, Decidable (Along step ok s rs)
  | _, [] => isTrue trivial
  | s, r :: rs =>
      haveI := decidableAlong ok (step s r) rs
      inferInstanceAs (Decidable (ok s r ∧ Along step ok (step s r) rs))

variable {step}

/-- Where a step that meets `ok` keeps `I`, every state of a run whose steps meet
`ok` is in `I`. -/
theorem forall_states_of_along {I : σ → Prop} {ok : σ → ρ → Prop}
    (hstep : ∀ s r, I s → ok s r → I (step s r)) {s : σ} (hs : I s) {rs : List ρ}
    (hrs : Along step ok s rs) : ∀ t ∈ rs.scanl step s, I t := by
  induction rs generalizing s with
  | nil => simpa using hs
  | cons r rs ih =>
      rw [List.scanl_cons, List.forall_mem_cons]
      exact ⟨hs, ih (hstep s r hs hrs.1) hrs.2⟩

/-- A state property kept by every step is kept by every run. -/
theorem foldl_invariant {I : σ → Prop} (hstep : ∀ s r, I s → I (step s r)) {s : σ}
    (hs : I s) (rs : List ρ) : I (rs.foldl step s) := by
  induction rs generalizing s with
  | nil => exact hs
  | cons r rs ih => exact ih (hstep s r hs)

/-- An abstraction of the states that follows every step in `I` follows the runs. -/
theorem foldl_simulation {τ : Type} {f : σ → τ} {astep : τ → ρ → τ} {I : σ → Prop}
    (hI : ∀ s r, I s → I (step s r)) (hf : ∀ s r, I s → f (step s r) = astep (f s) r) {s : σ}
    (hs : I s) (rs : List ρ) : f (rs.foldl step s) = rs.foldl astep (f s) := by
  induction rs generalizing s with
  | nil => rfl
  | cons r rs ih => rw [List.foldl_cons, ih (hI s r hs), hf s r hs, List.foldl_cons]

variable (step) in
/-- What the steps of a run give out. -/
def outputs {ο : Type} (out : σ → ρ → ο) : σ → List ρ → List ο
  | _, [] => []
  | s, r :: rs => out s r :: outputs out (step s r) rs

/-- Where the abstraction gives out the same, so do the runs. -/
theorem outputs_simulation {τ ο : Type} {f : σ → τ} {astep : τ → ρ → τ} {out : σ → ρ → ο}
    {aout : τ → ρ → ο} {I : σ → Prop} (hI : ∀ s r, I s → I (step s r))
    (hf : ∀ s r, I s → f (step s r) = astep (f s) r)
    (hout : ∀ s r, I s → out s r = aout (f s) r) {s : σ} (hs : I s) (rs : List ρ) :
    outputs step out s rs = outputs astep aout (f s) rs := by
  induction rs generalizing s with
  | nil => rfl
  | cons r rs ih => rw [outputs, outputs, hout s r hs, ih (hI s r hs), hf s r hs]

end Runs

/-! ### Runs of a transition function that can get stuck -/

section PartialRuns

variable {ρ : Type} (step : σ → ρ → Option σ)

/-- Every step of the run has a next state, and satisfies `P` with it. -/
def Throughout (P : σ → ρ → σ → Prop) : σ → List ρ → Prop
  | _, [] => True
  | s, r :: rs => ∃ t, step s r = some t ∧ P s r t ∧ Throughout P t rs

/-- Every step of the run, as far as it goes, meets `ok` in the state it starts
in. -/
def Admitted (ok : σ → ρ → Prop) : σ → List ρ → Prop
  | _, [] => True
  | s, r :: rs => ok s r ∧ ∀ t, step s r = some t → Admitted ok t rs

variable {step} {I : σ → Prop} {P : σ → ρ → σ → Prop} {ok : σ → ρ → Prop}

/-- Where in the states of `I` the steps that satisfy `P` are those that meet
`ok`, and these stay in `I`, the same holds of runs. -/
theorem throughout_iff_admitted
    (hstep : ∀ s r, I s → ok s r → ∃ t, step s r = some t ∧ P s r t ∧ I t)
    (hok : ∀ s r t, I s → step s r = some t → P s r t → ok s r) {s : σ} (hs : I s)
    (rs : List ρ) : Throughout step P s rs ↔ Admitted step ok s rs := by
  induction rs generalizing s with
  | nil => exact Iff.rfl
  | cons r rs ih =>
      constructor
      · rintro ⟨t, ht, hP, hrest⟩
        have hr : ok s r := hok s r t hs ht hP
        obtain ⟨t', ht', -, hI⟩ := hstep s r hs hr
        obtain rfl : t = t' := Option.some.inj (ht.symm.trans ht')
        refine ⟨hr, fun u hu => ?_⟩
        obtain rfl : t = u := Option.some.inj (ht.symm.trans hu)
        exact (ih hI).mp hrest
      · rintro ⟨hr, hrest⟩
        obtain ⟨t, ht, hP, hI⟩ := hstep s r hs hr
        exact ⟨t, ht, hP, (ih hI).mpr (hrest t ht)⟩

/-- Two conditions that agree in the states of `I` admit the same runs. -/
theorem admitted_congr {ok' : σ → ρ → Prop} (hstep : ∀ s r t, I s → step s r = some t → I t)
    (hok : ∀ s r, I s → (ok s r ↔ ok' s r)) {s : σ} (hs : I s) (rs : List ρ) :
    Admitted step ok s rs ↔ Admitted step ok' s rs := by
  induction rs generalizing s with
  | nil => exact Iff.rfl
  | cons r rs ih =>
      exact and_congr (hok s r hs) (forall_congr' fun t => forall_congr' fun ht =>
        ih (hstep s r t hs ht))

/-- A run that goes well has an end. -/
lemma Throughout.exists_foldlM {s : σ} {rs : List ρ} (h : Throughout step P s rs) :
    ∃ t, rs.foldlM step s = some t := by
  induction rs generalizing s with
  | nil => exact ⟨s, rfl⟩
  | cons r rs ih =>
      obtain ⟨t, ht, -, hrest⟩ := h
      obtain ⟨u, hu⟩ := ih hrest
      exact ⟨u, by rw [List.foldlM_cons, ht]; exact hu⟩

/-- Where in the states of `I` the steps of some kind have a next state in `I`, so do
the runs of such steps. -/
theorem exists_foldlM_invariant {K : ρ → Prop}
    (hstep : ∀ s r, I s → K r → ∃ t, step s r = some t ∧ I t) {s : σ} (hs : I s) {rs : List ρ}
    (hrs : ∀ r ∈ rs, K r) : ∃ t, rs.foldlM step s = some t ∧ I t := by
  induction rs generalizing s with
  | nil => exact ⟨s, rfl, hs⟩
  | cons r rs ih =>
      obtain ⟨hr, hrs⟩ := List.forall_mem_cons.mp hrs
      obtain ⟨t, ht, hI⟩ := hstep s r hs hr
      obtain ⟨u, hu, hIu⟩ := ih hI hrs
      exact ⟨u, by rw [List.foldlM_cons, ht]; exact hu, hIu⟩

/-- What the steps of some kind keep, the runs of such steps keep. -/
theorem foldlM_invariant {K : ρ → Prop}
    (hstep : ∀ s r t, I s → K r → step s r = some t → I t) {s t : σ} (hs : I s) {rs : List ρ}
    (hrs : ∀ r ∈ rs, K r) (hrun : rs.foldlM step s = some t) : I t := by
  induction rs generalizing s with
  | nil =>
      obtain rfl : s = t := Option.some.inj hrun
      exact hs
  | cons r rs ih =>
      obtain ⟨hr, hrs⟩ := List.forall_mem_cons.mp hrs
      rw [List.foldlM_cons, Option.bind_eq_bind, Option.bind_eq_some_iff] at hrun
      obtain ⟨u, hu, hrun⟩ := hrun
      exact ih (hstep s r u hs hr hu) hrs hrun

/-- Where the steps of some kind are simulated by total ones, so are the runs of such
steps. -/
theorem exists_foldlM_simulation {τ : Type} {f : τ → ρ → τ} {S : σ → τ → Prop} {K : ρ → Prop}
    (hstep : ∀ s t r, S s t → K r → ∃ s', step s r = some s' ∧ S s' (f t r)) {s : σ} {t : τ}
    (h : S s t) {rs : List ρ} (hrs : ∀ r ∈ rs, K r) :
    ∃ s', rs.foldlM step s = some s' ∧ S s' (rs.foldl f t) := by
  induction rs generalizing s t with
  | nil => exact ⟨s, rfl, h⟩
  | cons r rs ih =>
      obtain ⟨hr, hrs⟩ := List.forall_mem_cons.mp hrs
      obtain ⟨s₁, hs₁, h₁⟩ := hstep s t r h hr
      obtain ⟨s', hs', h'⟩ := ih h₁ hrs
      exact ⟨s', by rw [List.foldlM_cons, hs₁]; exact hs', h'⟩

/-- A condition on the steps alone, under which every state of `I` has a next one in
`I`, is met along a run exactly when all steps meet it. -/
theorem admitted_iff_forall {K : ρ → Prop}
    (hstep : ∀ s r, I s → K r → ∃ t, step s r = some t ∧ I t) {s : σ} (hs : I s) (rs : List ρ) :
    Admitted step (fun _ => K) s rs ↔ ∀ r ∈ rs, K r := by
  induction rs generalizing s with
  | nil => simp [Admitted]
  | cons r rs ih =>
      rw [List.forall_mem_cons]
      constructor
      · rintro ⟨hr, hrest⟩
        obtain ⟨t, ht, hI⟩ := hstep s r hs hr
        exact ⟨hr, (ih hI).mp (hrest t ht)⟩
      · rintro ⟨hr, hrs⟩
        obtain ⟨t, ht, hI⟩ := hstep s r hs hr
        refine ⟨hr, fun u hu => ?_⟩
        obtain rfl : t = u := Option.some.inj (ht.symm.trans hu)
        exact (ih hI).mpr hrs

end PartialRuns

end Resumption
