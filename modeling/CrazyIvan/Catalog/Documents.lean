import CrazyIvan.Network.Messages
import CrazyIvan.Network.Retrieval

/-!
What the scene messages are for: a list of scene documents, in the order they were
created.

* `SceneDocument.updatedBy`: a document after an update.
* `SceneDocument.Answers`: the documents that a retrieve message asks for.
* `catalogStep`, `catalogResponse`: the documents after a message, and the response to
  a retrieve message.
-/

namespace CrazyIvan

open Resumption

section Documents

variable {R : Type} [Field R] [LinearOrder R]

/-! ### Documents -/

namespace SceneDocument

/-- A list of names after an update. -/
def mergeList (opType : ℤ) (given old : List String) : List String :=
  if opType = opAppend then old ++ given
  else if opType = opRemove then old.filter fun x => x ∉ given
  else old

/-- A document after an update: what is given replaces what was there, the flags are always
given, and the lists are merged. -/
def updatedBy (old : SceneDocument R) (opType : ℤ) (given : SceneDocument R) :
    SceneDocument R :=
  { old with
    name := if given.name = "" then old.name else given.name
    region := if given.region = "" then old.region else given.region
    description := if given.description = "" then old.description else given.description
    user := if given.user = "" then old.user else given.user
    thumbnail := if given.thumbnail = "" then old.thumbnail else given.thumbnail
    latitude := if given.latitude = -9999 then old.latitude else given.latitude
    longitude := if given.longitude = -9999 then old.longitude else given.longitude
    active := given.active
    isPublic := given.isPublic
    assets := mergeList opType given.assets old.assets
    tags := mergeList opType given.tags old.tags }

/-- A query for public scenes sees the public ones, any other those of its user. -/
def VisibleTo (q d : SceneDocument R) : Prop :=
  if q.isPublic then d.isPublic = true else d.user = q.user

instance (q d : SceneDocument R) : Decidable (VisibleTo q d) := by
  unfold VisibleTo; infer_instance

/-- A document is within the distance of a query, by the haversine formula. -/
def Near (fn : String → R → R) (q d : SceneDocument R) : Prop :=
  d.latitude ≠ -9999 ∧ d.longitude ≠ -9999 ∧
    12742000 * fn "asin" (fn "sqrt" (fn "haversin" (fn "radians" (q.latitude - d.latitude)) +
      fn "cos" (fn "radians" q.latitude) * fn "cos" (fn "radians" d.latitude) *
        fn "haversin" (fn "radians" (d.longitude - q.longitude)))) < q.distance

instance (fn : String → R → R) (q d : SceneDocument R) : Decidable (Near fn q d) := by
  unfold Near; infer_instance

/-- The documents that a query without a key asks for. Who may see them counts only where it
names a name or a region. -/
def Answers (fn : String → R → R) (q d : SceneDocument R) : Prop :=
  (q.name ≠ "" → d.name = q.name) ∧ (q.region ≠ "" → d.region = q.region) ∧
    (q.name ≠ "" ∨ q.region ≠ "" → VisibleTo q d) ∧ (∀ t ∈ q.tags, t ∈ d.tags) ∧
    (HasPosition q → Near fn q d)

instance (fn : String → R → R) (q d : SceneDocument R) : Decidable (Answers fn q d) := by
  unfold Answers; infer_instance

end SceneDocument

/-! ### The catalog -/

/-- The documents after a scene is created. -/
def addDocument (uuid : String) (s : SceneDocument R) (c : List (SceneDocument R)) :
    List (SceneDocument R) :=
  if newSceneKey uuid s ≠ "" ∧ Storable s then c ++ [s.stored (newSceneKey uuid s)] else c

/-- The documents after a message. -/
def catalogStep (c : List (SceneDocument R)) : Message R → List (SceneDocument R)
  | .request (.create uuid m) => m.scenes.head?.elim c fun s => addDocument uuid s c
  | .request (.update m) => m.scenes.head?.elim c fun s =>
      if s.key ≠ "" ∧ Storable s then
        c.map fun d => if d.key = s.key then d.updatedBy m.opType s else d
      else c
  | .request (.delete m) => m.scenes.head?.elim c fun s => c.filter fun d => d.key ≠ s.key
  | .request (.register _ uuids m) => m.scenes.head?.elim c fun s =>
      s.devices.head?.elim c fun dev =>
        if newDeviceKey uuids dev ≠ "" ∧ ∀ d ∈ c, d.key ≠ s.key then
          addDocument uuids.scene s c
        else c
  | _ => c

/-- The response with some documents. They come back as public, whatever they are. -/
def foundDocuments (transactionId : String) (c : List (SceneDocument R)) : ProcessResult R :=
  if c = [] then ({} : ProcessResult R).setError notFound "Document not found"
  else foundResult transactionId (c.map fun d => { d with isPublic := true })

/-- The response to a retrieve message. -/
def catalogResponse (fn : String → R → R) (c : List (SceneDocument R)) (m : SceneList R) :
    ProcessResult R :=
  let refused : ProcessResult R :=
    ({} : ProcessResult R).setError processingError "Insufficient Scene Data recieved"
  m.scenes.head?.elim refused fun q =>
    if ¬ retrieveAccepted q then refused
    else if q.key ≠ "" then
      foundDocuments m.transactionId (c.filter fun d => d.key = q.key ∧ q.VisibleTo d)
    else if ¬ DistanceSent q then
      ({} : ProcessResult R).setError processingError "Expected a parameter named inp_distance"
    else if m.startRecord < 0 ∨ m.numRecords < 0 then
      ({} : ProcessResult R).setError processingError
        "SKIP and LIMIT must be non-negative integers"
    else
      foundDocuments m.transactionId
        ((((c.filter fun d => q.Answers fn d).insertionSort fun d d' => d.key ≤ d'.key).drop
          m.startRecord.toNat).take m.numRecords.toNat)

end Documents

end CrazyIvan
