import Mathlib.Data.List.TakeWhile
import Mathlib.Tactic

/-!
JSON values and the accessors of a parser in the style of RapidJSON.

* `Value`: what a parser returns, integers and doubles kept apart. `findMember`
  finds the first member with a name, and only objects have members; an accessor
  has no result on a value of another type.
* `cstr`: a string read as a C string ends at its first null character.
* `member?`: the member with a name, if it is of the type an accessor reads. A
  reader that tests the type first depends on nothing else. `typed?`: the first
  member of the type among those with the name.
* `mapMembers`: an object some of whose members are left out or changed;
  `member?_mapMembers` says what is read of it.
* `optMember`, `optString`: members that are written under a condition;
  `lookup_optString` and its companions compute what is found among them.
-/

namespace Json

/-- A JSON value. -/
inductive Value (R : Type) where
  | null
  | bool (b : Bool)
  | int (n : ℤ)
  | double (x : R)
  | string (s : String)
  | array (elements : List (Value R))
  | object (members : List (String × Value R))

variable {R α : Type}

/-- A string as a C string. -/
def cstr (s : String) : String := String.ofList (s.toList.takeWhile (· ≠ '\x00'))

/-- A string without a null character. -/
def NoNul (s : String) : Prop := '\x00' ∉ s.toList

lemma cstr_of_noNul {s : String} (h : NoNul s) : cstr s = s := by
  rw [cstr, List.takeWhile_eq_self_iff.mpr, String.ofList_toList]
  exact fun c hc => decide_eq_true fun hnul => h (hnul ▸ hc)

namespace Value

/-! ### Accessors -/

def getBool : Value R → Option Bool
  | .bool b => some b
  | _ => none

/-- An integer of 32 bits. -/
def getInt : Value R → Option ℤ
  | .int n => if -2 ^ 31 ≤ n ∧ n < 2 ^ 31 then some n else none
  | _ => none

def getDouble : Value R → Option R
  | .double x => some x
  | _ => none

def getString : Value R → Option String
  | .string s => some (cstr s)
  | _ => none

def getArray : Value R → Option (List (Value R))
  | .array l => some l
  | _ => none

def getObject : Value R → Option (List (String × Value R))
  | .object ms => some ms
  | _ => none

def isBool (v : Value R) : Bool := v.getBool.isSome

def isInt (v : Value R) : Bool := v.getInt.isSome

def isDouble (v : Value R) : Bool := v.getDouble.isSome

def isString (v : Value R) : Bool := v.getString.isSome

def isArray (v : Value R) : Bool := v.getArray.isSome

def isObject (v : Value R) : Bool := v.getObject.isSome

/-- The first member with a name; only an object can be asked. -/
def findMember (v : Value R) (name : String) : Option (Option (Value R)) :=
  v.getObject.map fun ms => ms.lookup name

/-- A double, or an integer of 32 bits as a double. -/
def getNumber [IntCast R] (v : Value R) : Option R :=
  v.getDouble.or (v.getInt.map fun n => (n : R))

@[simp] lemma getString_string (s : String) : (string s : Value R).getString = some (cstr s) := rfl

@[simp] lemma getBool_bool (b : Bool) : (bool b : Value R).getBool = some b := rfl

@[simp] lemma getDouble_double (x : R) : (double x : Value R).getDouble = some x := rfl

@[simp] lemma getNumber_double [IntCast R] (x : R) : (double x).getNumber = some x := rfl

@[simp] lemma getArray_array (l : List (Value R)) : (array l).getArray = some l := rfl

@[simp] lemma getObject_object (ms : List (String × Value R)) :
    (object ms).getObject = some ms := rfl

lemma getInt_int {n : ℤ} (h : -2 ^ 31 ≤ n) (h' : n < 2 ^ 31) :
    (int n : Value R).getInt = some n := if_pos ⟨h, h'⟩

end Value

open Value

/-! ### Members of a type -/

/-- The first member with a name, if it is of the type that `get` reads. -/
def member? (get : Value R → Option α) (ms : List (String × Value R)) (name : String) :
    Option α :=
  (ms.lookup name).bind get

/-- A member that is written under a condition. -/
def optMember (c : Prop) [Decidable c] (name : String) (v : Value R) :
    List (String × Value R) :=
  if c then [(name, v)] else []

/-- A string that is written unless it is empty. -/
def optString (name s : String) : List (String × Value R) := optMember (s ≠ "") name (.string s)

/-- The first member with a name among those of the type that `get` reads. -/
def typed? (get : Value R → Option α) (ms : List (String × Value R)) (name : String) :
    Option α :=
  ms.findSome? fun member => if member.1 = name then get member.2 else none

/-- The members that are left when `f` changes or leaves out each of them. -/
def mapMembers (f : String → Value R → Option (Value R)) (ms : List (String × Value R)) :
    List (String × Value R) :=
  ms.filterMap fun member => (f member.1 member.2).map (member.1, ·)

/-- A value, if it is of the type that `get` reads. -/
def ofType (get : Value R → Option α) (v : Value R) : Option (Value R) :=
  if (get v).isSome then some v else none

variable {get : Value R → Option α} {ms : List (String × Value R)} {name : String}

lemma lookup_cons (name name' : String) (v : Value R) (ms : List (String × Value R)) :
    ((name', v) :: ms).lookup name = if name = name' then some v else ms.lookup name := by
  by_cases h : name = name'
  · simp [h]
  · have hb : (name == name') = false := by simpa using h
    simp [List.lookup_cons, hb, h]

lemma lookup_optMember (c : Prop) [Decidable c] (name name' : String) (v : Value R) :
    (optMember c name' v).lookup name = if name = name' ∧ c then some v else none := by
  by_cases hc : c <;> by_cases hn : name = name' <;> simp [optMember, hc, hn]

lemma lookup_optString (name name' s : String) :
    (optString name' s : List (String × Value R)).lookup name =
      if name = name' ∧ s ≠ "" then some (.string s) else none :=
  lookup_optMember ..

lemma ofType_eq_some {v : Value R} {x : α} (h : get v = some x) : ofType get v = some v := by
  rw [ofType, h]
  rfl

lemma ofType_eq_none {v : Value R} (h : get v = none) : ofType get v = none := by
  rw [ofType, h]
  rfl

/-- The first of the members that are left is the first that `f` leaves. -/
lemma lookup_mapMembers (f : String → Value R → Option (Value R)) :
    (mapMembers f ms).lookup name =
      ms.findSome? fun member => if member.1 = name then f name member.2 else none := by
  induction ms with
  | nil => rfl
  | cons member ms ih =>
      obtain ⟨name', v⟩ := member
      rw [List.findSome?_cons, mapMembers, List.filterMap_cons, ← mapMembers]
      by_cases hn : name' = name
      · subst hn
        cases hv : f name' v with
        | none => simpa [hv] using ih
        | some v' => simp
      · cases hv : f name' v with
        | none => simpa [hn] using ih
        | some v' => simpa [hn, lookup_cons, Ne.symm hn] using ih

/-- The first member after a change of those that `get` reads. -/
lemma lookup_mapMembers_map {f : String → Value R → Option (Value R)} {k : α → Value R}
    (hf : ∀ v, f name v = (get v).map k) :
    (mapMembers f ms).lookup name = (typed? get ms name).map k := by
  rw [lookup_mapMembers, typed?, List.map_findSome?]
  congr 1
  funext member
  by_cases hn : member.1 = name <;> simp [hn, hf]

/-- Members of the type that `get` reads are left as they are. -/
lemma member?_mapMembers {f : String → Value R → Option (Value R)} (hf : f name = ofType get) :
    member? get (mapMembers f ms) name = typed? get ms name := by
  rw [member?, lookup_mapMembers, typed?]
  induction ms with
  | nil => rfl
  | cons member ms ih =>
      rw [List.findSome?_cons, List.findSome?_cons]
      by_cases hn : member.1 = name
      · rw [if_pos hn, if_pos hn, hf]
        cases hv : get member.2 with
        | none => rw [ofType_eq_none hv, ← hf]; exact ih
        | some x => rw [ofType_eq_some hv]; exact hv
      · rw [if_neg hn, if_neg hn]
        exact ih

lemma forall_mem_mapMembers {f : String → Value R → Option (Value R)}
    {P : String × Value R → Prop} :
    (∀ member ∈ mapMembers f ms, P member) ↔
      ∀ member ∈ ms, ∀ v, f member.1 member.2 = some v → P (member.1, v) := by
  simp only [mapMembers, List.mem_filterMap, Option.map_eq_some_iff]
  constructor
  · exact fun h member hmem v hv => h _ ⟨member, hmem, v, hv, rfl⟩
  · rintro h _ ⟨member, hmem, v, hv, rfl⟩
    exact h member hmem v hv

/-- The first member of a name is the first of its type, if it is of the type at all. -/
lemma typed?_of_member? {x : α} (h : member? get ms name = some x) :
    typed? get ms name = some x := by
  induction ms with
  | nil => cases h
  | cons member ms ih =>
      obtain ⟨name', v⟩ := member
      rw [member?, lookup_cons] at h
      rw [typed?, List.findSome?_cons]
      by_cases hn : name' = name
      · rw [if_pos hn.symm, Option.bind_some] at h
        rw [if_pos hn, h]
      · rw [if_neg (Ne.symm hn)] at h
        rw [if_neg hn]
        exact ih h

/-- A member of the type is a member. -/
lemma lookup_isSome_of_typed? {x : α} (h : typed? get ms name = some x) :
    (ms.lookup name).isSome := by
  induction ms with
  | nil => cases h
  | cons member ms ih =>
      obtain ⟨name', v⟩ := member
      rw [lookup_cons]
      rw [typed?, List.findSome?_cons] at h
      by_cases hn : name' = name
      · rw [if_pos hn.symm]
        rfl
      · rw [if_neg hn] at h
        rw [if_neg (Ne.symm hn)]
        exact ih h

end Json
