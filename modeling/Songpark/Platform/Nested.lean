import Songpark.Core.NestedMap
import Songpark.Platform.Server

/-!
# Maps of maps as values

The stores of the platform are maps whose entries are maps again.  As values
they are read with `get-in` and changed with `assoc-in`.  A map whose entries
have a type of their own stands for such a value, entry by entry, and a
replaced entry stays a replaced entry.
-/

namespace Songpark.Platform

open Songpark.NestedMap

/-- What the database keeps under an id. -/
def storedValue : Option Record → Value
  | none => .nil
  | some record => mapValue record

/-! ## Paths -/

/-- `assoc`, but for the indices of a vector. -/
def Value.assoc (node key value : Value) : Except Thrown Value := do
  let record ← node.asRecord
  return mapValue (record.insert key value)

theorem assoc_eq_ok {node key value reached : Value} :
    node.assoc key value = .ok reached ↔
      ∃ record, node.asRecord = .ok record ∧
        mapValue (record.insert key value) = reached := by
  unfold Value.assoc
  cases node.asRecord with
  | error thrown => simp [bind, Except.bind]
  | ok record => simp [bind, Except.bind, pure, Except.pure]

/-- Values as the nodes of nested maps. -/
def valueOps : NodeOps Value Value Thrown where
  get := Value.get
  assoc := Value.assoc
  get_congr := fun {node _ _} hsame => get_congr node hsame
  get_self := by
    intro node key value reached hassoc
    obtain ⟨record, _, rfl⟩ := assoc_eq_ok.mp hassoc
    rw [get_mapValue, KeyedMap.lookup_insert_self, Option.getD_some]
  get_other := by
    intro node key value reached other hassoc hne
    obtain ⟨record, hrecord, rfl⟩ := assoc_eq_ok.mp hassoc
    rw [get_mapValue, KeyedMap.lookup_insert_ne hne, get_of_asRecord hrecord]

section Paths

variable {node inner value : Value} {record : Record} {key next : Value}
variable {keys : List Value}

theorem assocIn_nil (hnode : node.asRecord = .ok record) (key value : Value) :
    assocIn valueOps node key [] value =
      .ok (mapValue (record.insert key value)) :=
  assoc_eq_ok.mpr ⟨record, hnode, rfl⟩

theorem assocIn_cons (hnode : node.asRecord = .ok record)
    (hinner : assocIn valueOps (node.get key) next keys value = .ok inner) :
    assocIn valueOps node key (next :: keys) value =
      .ok (mapValue (record.insert key inner)) := by
  have hnext : updateIn valueOps (fun _ => .ok value) (valueOps.get node key)
      next keys = .ok inner := hinner
  rw [assocIn, updateIn, hnext]
  exact assoc_eq_ok.mpr ⟨record, hnode, rfl⟩

end Paths

/-! ## Merging -/

/-- `merge` of whatever is stored with another value. -/
def Value.mergeWith (stored value : Value) : Except Thrown Value :=
  match stored with
  | .nil | .bool false => (Value.merge none value).map storedValue
  | .map entries => (Value.merge (some entries.record) value).map storedValue
  | .coll kind items => .ok (.coll kind (items.conj kind value))
  | _ => .error .classCast

theorem mergeWith_storedValue (stored : Option Record) (value : Value) :
    (storedValue stored).mergeWith value =
      (Value.merge stored value).map storedValue := by
  cases stored with
  | none => rfl
  | some record =>
      rw [storedValue, mapValue, Value.mergeWith, record_ofList]

end Songpark.Platform
