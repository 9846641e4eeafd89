import CrazyIvan.Network.Delivery
import CrazyIvan.Network.Types
import CrazyIvan.Query.RetrieveStatements

/-!
All messages of the server over one database, when any query may fail.

* `Message`, `Message.program`: a message of any kind; `Message.Asked`,
  `asked_message`: the queries it can ask.
* `process`: one message alone; `serving`: messages whose queries are interleaved over a
  database that fails.
* `serving_invariant`, `serving_invariant_of_changes`: what every query the messages
  can ask keeps, every interleaving keeps, whatever becomes of the queries.
* `exists_served`: requests that are processed one at a time are such an interleaving.
-/

namespace CrazyIvan

open Cypher Resumption

section Messages

variable {R : Type} [Field R] [LinearOrder R]

/-! ### Messages -/

/-- A message of any kind. -/
inductive Message (R : Type) [CommRing R] where
  | request (r : Request R)
  | retrieve (objMsg : SceneList R)
  | deviceGet (objMsg : SceneList R)

variable (fn : String → R → R) (env : Env R)

/-- The processing of a message. -/
def Message.program : Message R → Db R (ProcessResult R)
  | .request r => r.program env
  | .retrieve objMsg => processRetrieveMessage env objMsg
  | .deviceGet objMsg => processDeviceGetMessage env objMsg

/-- The queries that the processing of a message can ask. -/
inductive Message.Asked : Message R → Query R → Prop
  | request {r : Request R} {q : Query R} (hq : CrazyIvan.Asked env r q) :
      Message.Asked (.request r) q
  | retrieve {m : SceneList R} {scn : SceneDocument R} {rest : List (SceneDocument R)}
      (hm : m.scenes = scn :: rest) (hacc : retrieveAccepted scn) :
      Message.Asked (.retrieve m) (retrieveSceneQuery m scn)
  | device {m : SceneList R} (dk : String) : Message.Asked (.deviceGet m) (deviceQuery dk)

variable {env}

lemma asked_retrieve (objMsg : SceneList R) :
    (processRetrieveMessage env objMsg).Asks (Message.Asked env (.retrieve objMsg)) := by
  rw [processRetrieveMessage]
  cases hm : objMsg.scenes with
  | nil => exact Prog.Asks.pure _
  | cons scn rest =>
      refine Prog.Asks.ite (fun hacc => ?_) fun _ => Prog.Asks.pure _
      exact (asks_askAndRead (.retrieve hm hacc) _).handle fun e => match e with
        | .exn what => Prog.Asks.pure _
        | .undefined => Prog.Asks.fail _

lemma asked_deviceGet (objMsg : SceneList R) :
    (processDeviceGetMessage env objMsg).Asks (Message.Asked env (.deviceGet objMsg)) := by
  rw [processDeviceGetMessage]
  cases objMsg.scenes with
  | nil => exact Prog.Asks.pure _
  | cons scn rest =>
      dsimp only
      cases scn.devices with
      | nil => exact Prog.Asks.pure _
      | cons dev devs => exact asks_askAndRead (.device dev.key) _

/-- The processing of a message asks only the queries of the message. -/
theorem asked_message (m : Message R) : (m.program env).Asks (m.Asked env) :=
  match m with
  | .request r => (asked_program r).mono fun _ => .request
  | .retrieve objMsg => asked_retrieve objMsg
  | .deviceGet objMsg => asked_deviceGet objMsg

/-! ### Reads -/

/-- A retrieve query leaves the graph as it is. -/
lemma snd_db_retrieve (m : SceneList R) {scn : SceneDocument R} (hacc : retrieveAccepted scn)
    (g : Graph R) : (db fn (retrieveSceneQuery m scn) g).2 = g := by
  by_cases hkey : scn.key = ""
  · have hparse : parse (lex (retrieveSceneQuery m scn).text) = some (retrieveStatement scn) := by
      rw [retrieveSceneQuery, hkey]
      exact parse_retrieve opAppend scn
    exact answer_reads fn hparse rfl _ g
  · rw [answer_retrieve_key fn m hkey hacc]

/-- A query of a message does nothing, or one of the changes of a request. -/
lemma change_of_message {m : Message R} {q : Query R} (hq : m.Asked env q) (g : Graph R) :
    (db fn q g).2 = g ∨ ∃ r, m = .request r ∧ Change fn env g r (db fn q g).2 := by
  cases hq with
  | @request r _ hq => exact .inr ⟨r, rfl, change_of_asked fn hq g⟩
  | retrieve _ hacc => exact .inl (snd_db_retrieve fn _ hacc g)
  | device dk => exact .inl (by rw [answer_device])

variable (env) in
/-- The graph after a message that is processed alone. -/
def process (g : Graph R) (m : Message R) : Graph R := ((m.program env).run (db fn) g).2

/-- What the changes of the requests keep, a message keeps. -/
lemma process_invariant {I : Graph R → Prop}
    (hI : ∀ r g g', Change fn env g r g' → I g → I g') (m : Message R) {g : Graph R} (hg : I g) :
    I (process fn env g m) := by
  refine Prog.Asks.run_invariant (db fn) (fun q g hq hg => ?_) (asked_message m) hg
  rcases change_of_message fn hq g with h | ⟨r, -, h⟩
  · rw [h]
    exact hg
  · exact hI r g _ h hg

/-! ### Interleavings over a database that fails -/

variable (env) in
/-- Messages whose queries are interleaved, over a database with the outcomes of the
queries to come. -/
def serving (os : List Outcome) (g : Graph R) (ms : List (Message R)) :
    Pool (List Outcome × Graph R) (Query R) (Answer R) Fail (ProcessResult R) :=
  ⟨(os, g), ms.map (Message.program env)⟩

variable (env) in
/-- The graph after the queries of a schedule. -/
def served (os : List Outcome) (g : Graph R) (ms : List (Message R)) (sched : List ℕ) :
    Graph R :=
  ((serving env os g ms).interleave (faulty fn) sched).store.2

/-- Whatever becomes of a query, it is applied as a whole or not at all. -/
lemma snd_faulty (q : Query R) (os : List Outcome) (g : Graph R) :
    (faulty fn q (os, g)).2.2 = g ∨ (faulty fn q (os, g)).2.2 = (db fn q g).2 := by
  rw [faulty]
  cases (os.headD .served).applied with
  | false => exact .inl rfl
  | true => exact .inr rfl

/-- What the queries that the messages can ask keep, every interleaving keeps, whatever
becomes of the queries. -/
theorem serving_invariant {I : Graph R → Prop} {ms : List (Message R)}
    (hI : ∀ m ∈ ms, ∀ q g, m.Asked env q → I g → I (db fn q g).2) {g : Graph R} (hg : I g)
    (os : List Outcome) (sched : List ℕ) : I (served fn env os g ms sched) := by
  have hasks : ∀ p ∈ (serving env os g ms).threads, p.Asks fun q => ∃ m ∈ ms, m.Asked env q := by
    intro p hp
    obtain ⟨m, hm, rfl⟩ := List.mem_map.mp hp
    exact (asked_message m).mono fun q hq => ⟨m, hm, hq⟩
  refine Pool.interleave_invariant (I := fun s => I s.2) ?_ sched hasks hg
  rintro q ⟨os, g⟩ ⟨m, hm, hq⟩ hg
  rcases snd_faulty fn q os g with h | h
  · rw [h]
    exact hg
  · rw [h]
    exact hI m hm q g hq hg

/-- What the changes of the requests among the messages keep, every interleaving keeps. -/
theorem serving_invariant_of_changes {I : Graph R → Prop} {ms : List (Message R)}
    (hI : ∀ r, .request r ∈ ms → ∀ g g', Change fn env g r g' → I g → I g') {g : Graph R}
    (hg : I g) (os : List Outcome) (sched : List ℕ) : I (served fn env os g ms sched) := by
  refine serving_invariant fn (fun m hm q g hq hg => ?_) hg os sched
  rcases change_of_message fn hq g with h | ⟨r, rfl, h⟩
  · rw [h]
    exact hg
  · exact hI r hm g _ h hg

/-! ### One message at a time -/

/-- Without failures a program runs as it does over the database. -/
lemma run_faulty_nil {α : Type} (p : Db R α) (g : Graph R) :
    p.run (faulty fn) ([], g) = ((p.run (db fn) g).1, ([], (p.run (db fn) g).2)) := by
  induction p generalizing g with
  | ret r => rfl
  | ask q k ih => exact ih _ _

variable (env) in
/-- Requests that are processed one after the other. -/
lemma runAll_requests (rs : List (Request R)) (g : Graph R) :
    Pool.runAll (faulty fn) ([], g) ((rs.map .request).map (Message.program env))
      = ([], serveAll fn env g rs) := by
  induction rs generalizing g with
  | nil => rfl
  | cons r rs ih =>
      rw [List.map_cons, List.map_cons, Pool.runAll, List.foldl_cons, run_faulty_nil]
      exact ih _

/-- Requests that are processed one at a time are one of the interleavings. -/
theorem exists_served (rs : List (Request R)) (g : Graph R) :
    ∃ sched, served fn env [] g (rs.map .request) sched = serveAll fn env g rs := by
  obtain ⟨sched, -, hstore, -⟩ := Pool.exists_interleave_runAll (faulty fn) ([], g)
    ((rs.map .request).map (Message.program env))
  rw [runAll_requests] at hstore
  exact ⟨sched, congrArg Prod.snd hstore⟩

end Messages

end CrazyIvan
