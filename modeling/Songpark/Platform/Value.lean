import Songpark.Core.KeyedMap
import Songpark.Core.Matching

/-!
# Values of the platform

The routes of the platform take request bodies of any shape.  This file models
the values such a body is made of, when two of them are equal, and the functions
on maps that the handlers use, errors included: what `merge` does depends on
what it is given.
-/

namespace Songpark.Platform

open Songpark.Matching

inductive CollKind
  | vector
  | list
  | set
  deriving DecidableEq

mutual

/-- A decoded value, with its sets and maps in the order in which they are
written; no two keys of a decoded map are equal. -/
inductive Value
  | nil
  | bool (flag : Bool)
  | number (n : ℤ)
  | string (text : String)
  | keyword (name : String)
  | uuid (digits : String)
  | inst (nanos : ℤ)
  | coll (kind : CollKind) (items : Items)
  | map (entries : Entries)
  deriving DecidableEq

inductive Items
  | nil
  | cons (first : Value) (rest : Items)
  deriving DecidableEq

inductive Entries
  | nil
  | cons (key value : Value) (rest : Entries)
  deriving DecidableEq

end

def Items.toList : Items → List Value
  | .nil => []
  | .cons first rest => first :: rest.toList

def Entries.toList : Entries → List (Value × Value)
  | .nil => []
  | .cons key value rest => (key, value) :: rest.toList

/-! ## Equality

Sequential collections are compared item by item, whether they are vectors or
lists; in a set or a map the order does not count. -/

mutual

/-- `=` of the language. -/
def Value.same : Value → Value → Bool
  | .coll kind items, .coll kind' others =>
      match kind, kind' with
      | .set, .set => items.within others.toList && others.toList.all items.has
      | .set, _ => false
      | _, .set => false
      | _, _ => items.same others.toList
  | .map entries, .map others =>
      entries.within others.toList && others.toList.all entries.has
  | .coll _ _, _ => false
  | .map _, _ => false
  | .nil, other => other = .nil
  | .bool flag, other => other = .bool flag
  | .number n, other => other = .number n
  | .string text, other => other = .string text
  | .keyword name, other => other = .keyword name
  | .uuid digits, other => other = .uuid digits
  | .inst nanos, other => other = .inst nanos

def Items.same : Items → List Value → Bool
  | .nil, others => others.isEmpty
  | .cons _ _, [] => false
  | .cons first rest, other :: others => first.same other && rest.same others

def Items.within : Items → List Value → Bool
  | .nil, _ => true
  | .cons first rest, others => others.any first.same && rest.within others

def Items.has : Items → Value → Bool
  | .nil, _ => false
  | .cons first rest, other => first.same other || rest.has other

def Entries.within : Entries → List (Value × Value) → Bool
  | .nil, _ => true
  | .cons key value rest, others =>
      others.any (fun other => key.same other.1 && value.same other.2) &&
        rest.within others

def Entries.has : Entries → Value × Value → Bool
  | .nil, _ => false
  | .cons key value rest, other =>
      key.same other.1 && value.same other.2 || rest.has other

end

section Same

variable {value other third : Value} {kind kind' : CollKind}
variable {items others : Items} {entries entries' : Entries}

/-- Neither a collection nor a map. -/
def Value.atomic : Value → Bool
  | .coll _ _ => false
  | .map _ => false
  | _ => true

/-- What holds of atoms, and of a collection or a map as soon as it holds of all
that is in it, holds of every value. -/
theorem Value.induction {motive : Value → Prop}
    (atom : ∀ value : Value, value.atomic → motive value)
    (coll : ∀ kind items, (∀ item ∈ Items.toList items, motive item) →
      motive (.coll kind items))
    (map : ∀ entries, (∀ entry ∈ Entries.toList entries,
      motive entry.1 ∧ motive entry.2) → motive (.map entries))
    (value : Value) : motive value := by
  refine @Value.rec motive (fun items => ∀ item ∈ items.toList, motive item)
    (fun entries => ∀ entry ∈ entries.toList, motive entry.1 ∧ motive entry.2)
    (atom _ rfl) (fun _ => atom _ rfl) (fun _ => atom _ rfl)
    (fun _ => atom _ rfl) (fun _ => atom _ rfl) (fun _ => atom _ rfl)
    (fun _ => atom _ rfl) coll map nofun ?_ nofun ?_ value
  · intro first rest hfirst hrest item hitem
    rcases List.mem_cons.mp hitem with rfl | hlater
    · exact hfirst
    · exact hrest item hlater
  · intro key value rest hkey hvalue hrest entry hentry
    rcases List.mem_cons.mp hentry with rfl | hlater
    · exact ⟨hkey, hvalue⟩
    · exact hrest entry hlater

theorem Items.same_iff {others : List Value} :
    items.same others ↔
      List.Forall₂ (fun item other => item.same other) items.toList others := by
  induction others generalizing items with
  | nil => cases items <;> simp [Items.same, Items.toList]
  | cons other others ih => cases items <;> simp [Items.same, Items.toList, ih]

theorem Items.within_iff {others : List Value} : (items : Items) →
    (items.within others ↔
      ∀ item ∈ items.toList, ∃ other ∈ others, item.same other)
  | .nil => by simp [Items.within, Items.toList]
  | .cons _ rest => by simp [Items.within, Items.toList, Items.within_iff rest]

theorem Items.has_iff : (items : Items) →
    (items.has other ↔ ∃ item ∈ items.toList, item.same other)
  | .nil => by simp [Items.has, Items.toList]
  | .cons _ rest => by simp [Items.has, Items.toList, Items.has_iff rest]

/-- Equal keys with equal values. -/
def SameEntry (entry other : Value × Value) : Prop :=
  entry.1.same other.1 ∧ entry.2.same other.2

theorem Entries.within_iff {others : List (Value × Value)} :
    (entries : Entries) →
      (entries.within others ↔
        ∀ entry ∈ entries.toList, ∃ other ∈ others, SameEntry entry other)
  | .nil => by simp [Entries.within, Entries.toList]
  | .cons _ _ rest => by
      simp [Entries.within, Entries.toList, SameEntry, Entries.within_iff rest]

theorem Entries.has_iff {other : Value × Value} : (entries : Entries) →
    (entries.has other ↔ ∃ entry ∈ entries.toList, SameEntry entry other)
  | .nil => by simp [Entries.has, Entries.toList]
  | .cons _ _ rest => by
      simp [Entries.has, Entries.toList, SameEntry, Entries.has_iff rest]

theorem same_of_atomic (hatomic : value.atomic) :
    value.same other ↔ other = value := by
  cases value with
  | coll | map => cases hatomic
  | _ => simp [Value.same]

theorem same_coll_iff :
    (Value.coll kind items).same (.coll kind' others) ↔
      (kind = .set ∧ kind' = .set ∧
        Matched (fun item other => item.same other) items.toList others.toList) ∨
      (kind ≠ .set ∧ kind' ≠ .set ∧
        List.Forall₂ (fun item other => item.same other) items.toList
          others.toList) := by
  cases kind <;> cases kind' <;>
    simp [Value.same, Items.same_iff, Items.within_iff, Items.has_iff, Matched]

theorem same_map_iff :
    (Value.map entries).same (.map entries') ↔
      Matched SameEntry entries.toList entries'.toList := by
  simp [Value.same, Entries.within_iff, Entries.has_iff, Matched]

/-- Only a collection equals a collection, and only a map a map. -/
theorem coll_of_same (hsame : (Value.coll kind items).same other) :
    ∃ kind' others, other = .coll kind' others := by
  cases other <;> first | exact ⟨_, _, rfl⟩ | cases hsame

theorem map_of_same (hsame : (Value.map entries).same other) :
    ∃ entries', other = .map entries' := by
  cases other <;> first | exact ⟨_, rfl⟩ | cases hsame

theorem Value.same_refl (value : Value) : value.same value := by
  induction value using Value.induction with
  | atom value hatomic => exact (same_of_atomic hatomic).mpr rfl
  | coll kind items ih =>
      rw [same_coll_iff]
      by_cases hkind : kind = .set
      · exact Or.inl ⟨hkind, hkind, matched_refl ih⟩
      · exact Or.inr ⟨hkind, hkind, List.forall₂_same.mpr ih⟩
  | map entries ih => exact same_map_iff.mpr (matched_refl ih)

theorem Value.same_symm (hsame : value.same other) : other.same value := by
  induction value using Value.induction generalizing other with
  | atom value hatomic =>
      rw [(same_of_atomic hatomic).mp hsame]
      exact value.same_refl
  | coll kind items ih =>
      obtain ⟨kind', others, rfl⟩ := coll_of_same hsame
      rw [same_coll_iff] at hsame ⊢
      rcases hsame with ⟨hkind, hkind', hitems⟩ | ⟨hkind, hkind', hitems⟩
      · exact Or.inl ⟨hkind', hkind,
          matched_symm (fun item hitem _ => ih item hitem) hitems⟩
      · exact Or.inr ⟨hkind', hkind,
          forall₂_symm (fun item hitem _ => ih item hitem) hitems⟩
  | map entries ih =>
      obtain ⟨entries', rfl⟩ := map_of_same hsame
      rw [same_map_iff] at hsame ⊢
      refine matched_symm (fun entry hentry _ hboth => ?_) hsame
      exact ⟨(ih entry hentry).1 hboth.1, (ih entry hentry).2 hboth.2⟩

theorem Value.same_trans (hsame : value.same other) (hsame' : other.same third) :
    value.same third := by
  induction value using Value.induction generalizing other third with
  | atom value hatomic =>
      rw [(same_of_atomic hatomic).mp hsame] at hsame'
      exact hsame'
  | coll kind items ih =>
      obtain ⟨kind', others, rfl⟩ := coll_of_same hsame
      obtain ⟨kind'', others', rfl⟩ := coll_of_same hsame'
      rw [same_coll_iff] at hsame hsame' ⊢
      rcases hsame with ⟨hkind, hkind', hitems⟩ | ⟨hkind, hkind', hitems⟩
      · obtain ⟨_, hkind'', hitems'⟩ | ⟨hne, _⟩ := hsame'
        · exact Or.inl ⟨hkind, hkind'',
            matched_trans (fun item hitem _ _ => ih item hitem) hitems hitems'⟩
        · exact absurd hkind' hne
      · obtain ⟨heq, _⟩ | ⟨_, hkind'', hitems'⟩ := hsame'
        · exact absurd heq hkind'
        · exact Or.inr ⟨hkind, hkind'',
            forall₂_trans (fun item hitem _ _ => ih item hitem) hitems hitems'⟩
  | map entries ih =>
      obtain ⟨entries', rfl⟩ := map_of_same hsame
      obtain ⟨entries'', rfl⟩ := map_of_same hsame'
      rw [same_map_iff] at hsame hsame' ⊢
      refine matched_trans (fun entry hentry _ _ hboth hboth' => ?_) hsame hsame'
      exact ⟨(ih entry hentry).1 hboth.1 hboth'.1,
        (ih entry hentry).2 hboth.2 hboth'.2⟩

instance Value.setoid : Setoid Value where
  r value other := value.same other
  iseqv := ⟨Value.same_refl, Value.same_symm, Value.same_trans⟩

instance (value other : Value) : Decidable (value ≈ other) :=
  inferInstanceAs (Decidable (value.same other = true))

/-- Neither the order of a map nor the kind of a sequence counts. -/
example :
    Value.map (.cons (.keyword "a") (.coll .vector (.cons (.number 1) .nil))
        (.cons (.keyword "b") .nil .nil)) ≈
      .map (.cons (.keyword "b") .nil (.cons (.keyword "a")
        (.coll .list (.cons (.number 1) .nil)) .nil)) := by
  decide

/-- A keyword is equal to no other value. -/
@[simp]
theorem keyword_equiv_iff {name : String} :
    .keyword name ≈ value ↔ value = .keyword name :=
  same_of_atomic rfl

end Same

/-! ## Maps -/

/-- The contents of a map. -/
abbrev Record := KeyedMap Value Value

/-- What a handler can throw; the last one comes from the MQTT client. -/
inductive Thrown
  | illegalArgument
  | classCast
  | mqtt
  deriving DecidableEq

def Entries.record (entries : Entries) : Record :=
  KeyedMap.insertAll entries.toList ∅

def Entries.ofList : List (Value × Value) → Entries
  | [] => .nil
  | (key, value) :: rest => .cons key value (.ofList rest)

/-- A map as a value. -/
def mapValue (record : Record) : Value := .map (.ofList record.entries)

namespace Value

/-- Everything but `nil` and `false` counts as true. -/
def truthy : Value → Bool
  | .nil => false
  | .bool flag => flag
  | _ => true

/-- The map that a list of keys and values in turn stands for. -/
def listRecord : List Value → Record → Except Thrown Record
  | [], record => .ok record
  | [_], _ => .error .illegalArgument
  | key :: value :: rest, record => listRecord rest (record.insert key value)

/-- Destructuring by keys turns a list into a map first. -/
def destructured : Value → Except Thrown Value
  | .coll .list items => do
      let record ← listRecord items.toList ∅
      return mapValue record
  | value => .ok value

/-- `get`: a set returns the member itself, and what is no collection has
nothing. -/
def get (value key : Value) : Value :=
  match value with
  | .map entries => (entries.record.lookup key).getD .nil
  | .coll .set items => (items.toList.find? (· ≈ key)).getD .nil
  | _ => .nil

/-- The map that `assoc` with a keyword works on. -/
def asRecord : Value → Except Thrown Record
  | .nil => .ok ∅
  | .map entries => .ok entries.record
  | .coll .vector _ => .error .illegalArgument
  | _ => .error .classCast

/-- What `conj` adds to a map: the entries of another map, or a pair.  Empty
collections add nothing, the items of others are no entries. -/
def additions : Value → Except Thrown Record
  | .nil => .ok ∅
  | .map entries => .ok entries.record
  | .coll .vector (.cons key (.cons value .nil)) => .ok (.singleton key value)
  | .coll .vector _ => .error .illegalArgument
  | .coll _ .nil => .ok ∅
  | .coll _ (.cons _ _) => .error .classCast
  | .string text => if text = "" then .ok ∅ else .error .classCast
  | _ => .error .illegalArgument

/-- `merge` of a stored map, or nothing, with a value; it is `nil` only when
neither counts as true. -/
def merge (stored : Option Record) (value : Value) :
    Except Thrown (Option Record) :=
  if stored.isNone && !value.truthy then .ok none
  else do
    let added ← value.additions
    return some ((stored.getD ∅).merge added)

end Value

/-! ## Collections -/

def Items.snoc : Items → Value → Items
  | .nil, last => .cons last .nil
  | .cons first rest, last => .cons first (rest.snoc last)

/-- `conj` of one more item to a collection that is no map. -/
def Items.conj (kind : CollKind) (items : Items) (item : Value) : Items :=
  match kind with
  | .vector => items.snoc item
  | .list => .cons item items
  | .set => if items.has item then items else .cons item items

section Merge

variable {value : Value} {key other : Value} {record stored added : Record}

theorem truthy_congr (hsame : value ≈ other) : value.truthy = other.truthy := by
  by_cases hatomic : value.atomic
  · rw [(same_of_atomic hatomic).mp hsame]
  · cases value with
    | coll kind items =>
        obtain ⟨kind', others, rfl⟩ := coll_of_same hsame
        rfl
    | map entries =>
        obtain ⟨entries', rfl⟩ := map_of_same hsame
        rfl
    | _ => exact absurd rfl hatomic

theorem toList_ofList (entries : List (Value × Value)) :
    (Entries.ofList entries).toList = entries := by
  induction entries with
  | nil => rfl
  | cons entry rest ih => rw [Entries.ofList, Entries.toList, ih]

/-- The value of a map stands for that map. -/
theorem record_ofList (record : Record) :
    (Entries.ofList record.entries).record = record := by
  rw [Entries.record, toList_ofList, KeyedMap.insertAll_entries]

@[simp]
theorem asRecord_mapValue (record : Record) :
    (mapValue record).asRecord = .ok record :=
  congrArg Except.ok (record_ofList record)

@[simp]
theorem get_mapValue (record : Record) (key : Value) :
    (mapValue record).get key = (record.lookup key).getD .nil := by
  rw [mapValue, Value.get, record_ofList]

/-- Equal keys get the same. -/
theorem get_congr (value : Value) (hsame : key ≈ other) :
    value.get key = value.get other := by
  unfold Value.get
  split
  · rw [KeyedMap.lookup_congr hsame]
  · simp only [KeyedMap.decide_equiv_congr hsame]
  · rfl

/-- `assoc` works on the map that `get` looks into. -/
theorem get_of_asRecord (hrecord : value.asRecord = .ok record) (key : Value) :
    value.get key = (record.lookup key).getD .nil := by
  unfold Value.asRecord at hrecord
  split at hrecord
  · cases hrecord
    rfl
  · cases hrecord
    rfl
  · cases hrecord
  · cases hrecord

theorem merge_some (value : Value) (stored : Record) :
    value.merge (some stored) =
      value.additions.map fun added => some (stored.merge added) := by
  unfold Value.merge
  cases value.additions <;> rfl

/-- Merged into nothing, a value fails only where its entries are asked for. -/
theorem merge_none_eq_error_iff {thrown : Thrown} :
    value.merge none = .error thrown ↔
      value.truthy ∧ value.additions = .error thrown := by
  unfold Value.merge
  cases htruthy : value.truthy with
  | false => simp
  | true => cases hadded : value.additions <;> simp [bind, Except.bind, pure, Except.pure]

end Merge

end Songpark.Platform
