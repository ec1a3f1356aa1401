import Mathlib.Data.Setoid.Basic

/-!
# Nested maps and paths

A store that is a map of maps is read and changed along paths of keys.  What a
single map has to satisfy is that equivalent keys name one entry, that a
replaced entry is read back and that the other entries stay; a replacement may
fail where there is no map.  Then a change along a path changes nothing under
every path that parts from it.
-/

namespace Songpark.NestedMap

/-- Nodes whose entries are read and replaced. -/
structure NodeOps (Key Node Error : Type) [Setoid Key] where
  get : Node → Key → Node
  assoc : Node → Key → Node → Except Error Node
  get_congr : ∀ {node key other}, key ≈ other → get node key = get node other
  get_self : ∀ {node key value reached},
    assoc node key value = .ok reached → get reached key = value
  get_other : ∀ {node key value reached other},
    assoc node key value = .ok reached → ¬ key ≈ other →
      get reached other = get node other

variable {Key Node Error : Type} [Setoid Key] (ops : NodeOps Key Node Error)

/-- The node under a path. -/
def getIn (node : Node) (path : List Key) : Node := path.foldl ops.get node

/-- Change the node under a path, which is given by its first key and the
others. -/
def updateIn (change : Node → Except Error Node) :
    Node → Key → List Key → Except Error Node
  | node, key, [] => do
      let value ← change (ops.get node key)
      ops.assoc node key value
  | node, key, next :: keys => do
      let value ← updateIn change (ops.get node key) next keys
      ops.assoc node key value

/-- Replace the node under a path. -/
def assocIn (node : Node) (key : Key) (keys : List Key) (value : Node) :
    Except Error Node :=
  updateIn ops (fun _ => .ok value) node key keys

/-- The paths part: neither goes on from the other. -/
inductive Apart : List Key → List Key → Prop
  | here {key other : Key} {keys others : List Key} (hne : ¬ key ≈ other) :
      Apart (key :: keys) (other :: others)
  | later {key other : Key} {keys others : List Key}
      (hapart : Apart keys others) : Apart (key :: keys) (other :: others)

section Laws

variable {ops} {change : Node → Except Error Node} {node reached : Node}
variable {key : Key} {keys other : List Key} {value : Node}

theorem getIn_cons (node : Node) (key : Key) (keys : List Key) :
    getIn ops node (key :: keys) = getIn ops (ops.get node key) keys := rfl

/-- A change of one entry. -/
theorem updateIn_nil_eq_ok
    (hupdate : updateIn ops change node key [] = .ok reached) :
    ∃ inner, change (ops.get node key) = .ok inner ∧
      ops.assoc node key inner = .ok reached := by
  rw [updateIn] at hupdate
  cases hinner : change (ops.get node key) with
  | error thrown =>
      rw [hinner] at hupdate
      cases hupdate
  | ok inner =>
      rw [hinner] at hupdate
      exact ⟨inner, rfl, hupdate⟩

/-- A change further down replaces the entry on the way. -/
theorem updateIn_cons_eq_ok {next : Key}
    (hupdate : updateIn ops change node key (next :: keys) = .ok reached) :
    ∃ inner, updateIn ops change (ops.get node key) next keys = .ok inner ∧
      ops.assoc node key inner = .ok reached := by
  rw [updateIn] at hupdate
  cases hinner : updateIn ops change (ops.get node key) next keys with
  | error thrown =>
      rw [hinner] at hupdate
      cases hupdate
  | ok inner =>
      rw [hinner] at hupdate
      exact ⟨inner, rfl, hupdate⟩

/-- A path that parts from that of the change leads where it led before. -/
theorem getIn_updateIn_apart
    (hupdate : updateIn ops change node key keys = .ok reached)
    (hapart : Apart (key :: keys) other) :
    getIn ops reached other = getIn ops node other := by
  induction keys generalizing node reached key other with
  | nil =>
      obtain ⟨inner, _, hassoc⟩ := updateIn_nil_eq_ok hupdate
      cases hapart with
      | here hne => rw [getIn_cons, getIn_cons, ops.get_other hassoc hne]
      | later hrest => cases hrest
  | cons next rest ih =>
      obtain ⟨inner, hinner, hassoc⟩ := updateIn_cons_eq_ok hupdate
      cases hapart with
      | here hne => rw [getIn_cons, getIn_cons, ops.get_other hassoc hne]
      | @later _ first _ others hrest =>
          rw [getIn_cons, getIn_cons]
          by_cases hfirst : key ≈ first
          · rw [← ops.get_congr hfirst, ← ops.get_congr hfirst,
              ops.get_self hassoc]
            exact ih hinner hrest
          · rw [ops.get_other hassoc hfirst]

end Laws

end Songpark.NestedMap
