import Mathlib.Data.List.Basic
import Mathlib.Data.Setoid.Basic

/-!
# Maps up to an equivalence of keys

Two keys that are equivalent name one entry.  A map is its list of entries, no
two of which have equivalent keys; a key that comes first stays when its entry
is replaced.  What a map holds under a key does not depend on how the key is
written, so every law says what is found under an arbitrary key afterwards.
-/

namespace Songpark

/-- Entries with inequivalent keys. -/
structure KeyedMap (Key Content : Type) [Setoid Key] where
  entries : List (Key × Content)
  distinct : (entries.map Prod.fst).Pairwise fun key other => ¬ key ≈ other

namespace KeyedMap

variable {Key Content Other : Type} [Setoid Key]

@[ext]
theorem ext {map other : KeyedMap Key Content}
    (hentries : map.entries = other.entries) : map = other := by
  cases map
  cases other
  cases hentries
  rfl

instance : EmptyCollection (KeyedMap Key Content) := ⟨⟨[], List.Pairwise.nil⟩⟩

instance : Membership Key (KeyedMap Key Content) :=
  ⟨fun map key => ∃ entry ∈ map.entries, entry.1 ≈ key⟩

theorem mem_def {map : KeyedMap Key Content} {key : Key} :
    key ∈ map ↔ ∃ entry ∈ map.entries, entry.1 ≈ key := Iff.rfl

/-- All contents are replaced, all keys stay. -/
def mapValues (f : Content → Other) (map : KeyedMap Key Content) :
    KeyedMap Key Other where
  entries := map.entries.map fun entry => (entry.1, f entry.2)
  distinct := by
    rw [List.map_map]
    exact map.distinct

theorem entries_mapValues (f : Content → Other) (map : KeyedMap Key Content) :
    (map.mapValues f).entries =
      map.entries.map fun entry => (entry.1, f entry.2) := rfl

variable [∀ key other : Key, Decidable (key ≈ other)]

instance (key : Key) (map : KeyedMap Key Content) : Decidable (key ∈ map) :=
  inferInstanceAs (Decidable (∃ entry ∈ map.entries, entry.1 ≈ key))

/-- The entry of a key, with the key as the map has it. -/
def find? (map : KeyedMap Key Content) (key : Key) : Option (Key × Content) :=
  map.entries.find? fun entry => entry.1 ≈ key

def lookup (map : KeyedMap Key Content) (key : Key) : Option Content :=
  (map.find? key).map Prod.snd

/-- A key that is there keeps its place and its spelling. -/
def insert (map : KeyedMap Key Content) (key : Key) (content : Content) :
    KeyedMap Key Content :=
  if hmem : key ∈ map then {
    entries := map.entries.map fun entry =>
      if entry.1 ≈ key then (entry.1, content) else entry
    distinct := by
      have hkeys : (Prod.fst ∘ fun entry : Key × Content =>
          if entry.1 ≈ key then (entry.1, content) else entry) = Prod.fst := by
        funext entry
        rw [Function.comp_apply]
        split_ifs <;> rfl
      rw [List.map_map, hkeys]
      exact map.distinct }
  else {
    entries := (key, content) :: map.entries
    distinct := by
      rw [List.map_cons, List.pairwise_cons]
      refine ⟨fun other hother hsame => ?_, map.distinct⟩
      obtain ⟨entry, hentry, rfl⟩ := List.mem_map.mp hother
      exact hmem ⟨entry, hentry, Setoid.symm hsame⟩ }

def erase (map : KeyedMap Key Content) (key : Key) : KeyedMap Key Content where
  entries := map.entries.filter fun entry => ¬ entry.1 ≈ key
  distinct := map.distinct.sublist (List.filter_sublist.map _)

/-- The entries are added to the map; the first of equivalent keys wins. -/
def insertAll (entries : List (Key × Content)) (map : KeyedMap Key Content) :
    KeyedMap Key Content :=
  entries.foldr (fun entry map => map.insert entry.1 entry.2) map

/-- The added entries replace those of the map. -/
def merge (map added : KeyedMap Key Content) : KeyedMap Key Content :=
  map.insertAll added.entries

def singleton (key : Key) (content : Content) : KeyedMap Key Content where
  entries := [(key, content)]
  distinct := List.pairwise_singleton _ _

section Laws

variable {map added : KeyedMap Key Content} {key other : Key}
variable {content : Content} {entries : List (Key × Content)}

/-- A test for a key is one for every equivalent key. -/
theorem decide_equiv_congr (hsame : key ≈ other) (tested : Key) :
    decide (tested ≈ key) = decide (tested ≈ other) :=
  decide_eq_decide.mpr ⟨fun hkey => Setoid.trans hkey hsame,
    fun hother => Setoid.trans hother (Setoid.symm hsame)⟩

theorem find?_congr (hsame : key ≈ other) : map.find? key = map.find? other := by
  simp only [find?, decide_equiv_congr hsame]

theorem lookup_congr (hsame : key ≈ other) :
    map.lookup key = map.lookup other := by
  rw [lookup, lookup, find?_congr hsame]

omit [∀ key other : Key, Decidable (key ≈ other)] in
theorem mem_congr (hsame : key ≈ other) : key ∈ map ↔ other ∈ map := by
  constructor
  · rintro ⟨entry, hentry, hkey⟩
    exact ⟨entry, hentry, Setoid.trans hkey hsame⟩
  · rintro ⟨entry, hentry, hother⟩
    exact ⟨entry, hentry, Setoid.trans hother (Setoid.symm hsame)⟩

theorem find?_isSome : (map.find? key).isSome ↔ key ∈ map := by
  simp [find?, mem_def]

theorem lookup_isSome : (map.lookup key).isSome ↔ key ∈ map := by
  rw [lookup, Option.isSome_map, find?_isSome]

theorem lookup_eq_none : map.lookup key = none ↔ key ∉ map := by
  rw [← lookup_isSome, Option.not_isSome_iff_eq_none]

theorem mem_of_lookup (hlookup : map.lookup key = some content) : key ∈ map := by
  rw [← lookup_isSome, hlookup]
  rfl

/-- An entry is found under its key: no other entry has an equivalent one. -/
theorem find?_of_mem {entry : Key × Content} (hentry : entry ∈ map.entries)
    (hkey : entry.1 ≈ key) : map.find? key = some entry := by
  obtain ⟨before, after, hsplit⟩ := List.append_of_mem hentry
  have hdistinct := map.distinct
  rw [hsplit, List.map_append, List.pairwise_append] at hdistinct
  rw [find?, hsplit, List.find?_append, List.find?_eq_none.mpr,
    List.find?_cons_of_pos (by simpa using hkey), Option.none_or]
  intro earlier hearlier
  have hne := hdistinct.2.2 earlier.1 (List.mem_map_of_mem hearlier) entry.1
    (List.mem_map_of_mem List.mem_cons_self)
  simp only [decide_eq_true_iff]
  exact fun hsame => hne (Setoid.trans hsame (Setoid.symm hkey))

theorem find?_eq_some_iff {entry : Key × Content} :
    map.find? key = some entry ↔ entry ∈ map.entries ∧ entry.1 ≈ key := by
  constructor
  · intro hfound
    rw [find?] at hfound
    have htest := List.find?_some hfound
    exact ⟨List.mem_of_find?_eq_some hfound, of_decide_eq_true htest⟩
  · exact fun hentry => find?_of_mem hentry.1 hentry.2

theorem lookup_eq_some_iff :
    map.lookup key = some content ↔
      ∃ entry ∈ map.entries, entry.1 ≈ key ∧ entry.2 = content := by
  rw [lookup, Option.map_eq_some_iff]
  simp only [find?_eq_some_iff, and_assoc]

@[simp]
theorem lookup_empty (key : Key) :
    (∅ : KeyedMap Key Content).lookup key = none := rfl

omit [∀ key other : Key, Decidable (key ≈ other)] in
theorem notMem_empty (key : Key) : key ∉ (∅ : KeyedMap Key Content) := by
  rintro ⟨entry, hentry, _⟩
  cases hentry

theorem insert_of_mem (hmem : key ∈ map) :
    (map.insert key content).entries = map.entries.map fun entry =>
      if entry.1 ≈ key then (entry.1, content) else entry := by
  rw [insert, dif_pos hmem]

theorem insert_of_notMem (hmem : key ∉ map) :
    (map.insert key content).entries = (key, content) :: map.entries := by
  rw [insert, dif_neg hmem]

@[simp]
theorem mem_insert : other ∈ map.insert key content ↔ key ≈ other ∨ other ∈ map := by
  by_cases hmem : key ∈ map
  · have hkey : key ≈ other → other ∈ map := fun hsame => (mem_congr hsame).mp hmem
    rw [or_iff_right_of_imp hkey, mem_def, mem_def, insert_of_mem hmem]
    simp only [List.mem_map, exists_exists_and_eq_and]
    refine exists_congr fun entry => and_congr_right fun _ => ?_
    split_ifs <;> rfl
  · rw [mem_def, mem_def, insert_of_notMem hmem, List.exists_mem_cons_iff]

/-- An insertion is seen under every key that is equivalent to its own. -/
theorem lookup_insert :
    (map.insert key content).lookup other =
      if key ≈ other then some content else map.lookup other := by
  by_cases hmem : key ∈ map
  · split_ifs with hsame
    · obtain ⟨entry, hentry, hkey⟩ := hmem
      rw [lookup_eq_some_iff, insert_of_mem ⟨entry, hentry, hkey⟩]
      refine ⟨(entry.1, content), List.mem_map.mpr ⟨entry, hentry, if_pos hkey⟩,
        Setoid.trans hkey hsame, rfl⟩
    · apply Option.ext
      intro found
      rw [lookup_eq_some_iff, lookup_eq_some_iff, insert_of_mem hmem]
      simp only [List.mem_map, exists_exists_and_eq_and]
      refine exists_congr fun entry => and_congr_right fun _ => ?_
      split_ifs with hkey
      · have hother : ¬ entry.1 ≈ other :=
          fun hentry => hsame (Setoid.trans (Setoid.symm hkey) hentry)
        simp [hother]
      · rfl
  · rw [lookup, find?, insert_of_notMem hmem, List.find?_cons]
    by_cases hsame : key ≈ other
    · simp [hsame]
    · simp [hsame, lookup, find?]

@[simp]
theorem lookup_insert_self (map : KeyedMap Key Content) (key : Key)
    (content : Content) : (map.insert key content).lookup key = some content := by
  rw [lookup_insert, if_pos (Setoid.refl key)]

theorem lookup_insert_ne (hne : ¬ key ≈ other) :
    (map.insert key content).lookup other = map.lookup other := by
  rw [lookup_insert, if_neg hne]

theorem lookup_singleton :
    (singleton key content).lookup other =
      if key ≈ other then some content else none := by
  rw [lookup, find?, singleton, List.find?_singleton]
  split_ifs <;> simp_all

theorem lookup_erase :
    (map.erase key).lookup other =
      if key ≈ other then none else map.lookup other := by
  apply Option.ext
  intro found
  rw [lookup_eq_some_iff, erase]
  simp only [List.mem_filter, decide_eq_true_iff]
  split_ifs with hsame
  · simp only [iff_false, not_exists, not_and]
    rintro entry ⟨_, hne⟩ hother
    exact absurd (Setoid.trans hother (Setoid.symm hsame)) hne
  · rw [lookup_eq_some_iff]
    refine exists_congr fun entry => ?_
    rw [and_assoc]
    refine and_congr_right fun _ => and_iff_right_of_imp fun hother hkey => ?_
    exact hsame (Setoid.trans (Setoid.symm hkey) hother.1)

theorem insertAll_cons (entry : Key × Content) :
    insertAll (entry :: entries) map =
      (insertAll entries map).insert entry.1 entry.2 := rfl

/-- Of the added entries the first one counts. -/
theorem lookup_insertAll :
    (insertAll entries map).lookup key =
      ((entries.find? fun entry => entry.1 ≈ key).map Prod.snd).or
        (map.lookup key) := by
  induction entries with
  | nil => rfl
  | cons entry entries ih =>
      rw [insertAll_cons, lookup_insert, ih, List.find?_cons]
      by_cases hsame : entry.1 ≈ key
      · simp [hsame]
      · simp [hsame]

theorem lookup_merge :
    (map.merge added).lookup key = (added.lookup key).or (map.lookup key) :=
  lookup_insertAll

/-- A map is what its entries make of the empty map. -/
theorem insertAll_entries (map : KeyedMap Key Content) :
    insertAll map.entries ∅ = map := by
  obtain ⟨entries, hdistinct⟩ := map
  apply ext
  dsimp only
  induction entries with
  | nil => rfl
  | cons entry entries ih =>
      rw [List.map_cons, List.pairwise_cons] at hdistinct
      have hrest := ih hdistinct.2
      have hnew : entry.1 ∉ insertAll entries ∅ := by
        rw [mem_def, hrest]
        rintro ⟨earlier, hearlier, hsame⟩
        exact hdistinct.1 earlier.1 (List.mem_map_of_mem hearlier)
          (Setoid.symm hsame)
      rw [insertAll_cons, insert_of_notMem hnew, hrest]

theorem lookup_mapValues (f : Content → Other) (map : KeyedMap Key Content)
    (key : Key) : (map.mapValues f).lookup key = (map.lookup key).map f := by
  rw [lookup, lookup, find?, find?, mapValues, List.find?_map, Option.map_map,
    Option.map_map]
  rfl

theorem mapValues_insert (f : Content → Other) (map : KeyedMap Key Content)
    (key : Key) (content : Content) :
    (map.insert key content).mapValues f =
      (map.mapValues f).insert key (f content) := by
  have hsame : key ∈ map.mapValues f ↔ key ∈ map := by
    simp [mem_def, entries_mapValues]
  apply ext
  rw [entries_mapValues]
  by_cases hmem : key ∈ map
  · rw [insert_of_mem (hsame.mpr hmem), insert_of_mem hmem, entries_mapValues,
      List.map_map, List.map_map]
    apply List.map_congr_left
    intro entry _
    simp only [Function.comp_apply]
    split_ifs <;> rfl
  · rw [insert_of_notMem (hsame.not.mpr hmem), insert_of_notMem hmem]
    rfl

/-! ## What a map holds -/

section Contents

variable [Setoid Content]

/-- The map has this content under the key. -/
def Holds (map : KeyedMap Key Content) (key : Key) (content : Content) : Prop :=
  ∃ found, map.lookup key = some found ∧ found ≈ content

/-- Every entry of the map is in the other. -/
def Included (map other : KeyedMap Key Content) : Prop :=
  ∀ key content, map.lookup key = some content → other.Holds key content

/-- Under every key both maps have nothing, or equivalent contents. -/
def Alike (map other : KeyedMap Key Content) : Prop :=
  ∀ key, Option.Rel (· ≈ ·) (map.lookup key) (other.lookup key)

omit [Setoid Key] [∀ key other : Key, Decidable (key ≈ other)] in
theorem rel_refl (found : Option Content) :
    Option.Rel (· ≈ ·) found found := by
  cases found with
  | none => exact .none
  | some content => exact .some (Setoid.refl content)

theorem alike_insert {content' : Content} (hsame : content ≈ content') :
    (map.insert key content).Alike (map.insert key content') := by
  intro other
  rw [lookup_insert, lookup_insert]
  split_ifs
  · exact .some hsame
  · exact rel_refl _

/-- What is merged into a map is in it. -/
theorem included_merge : added.Included (map.merge added) := by
  intro key content hlookup
  refine ⟨content, ?_, Setoid.refl content⟩
  rw [lookup_merge, hlookup, Option.some_or]

/-- The other keys hold what they held. -/
theorem holds_merge_of_notMem (hkey : key ∉ added) :
    (map.merge added).Holds key content ↔ map.Holds key content := by
  rw [Holds, Holds, lookup_merge, lookup_eq_none.mpr hkey, Option.none_or]

theorem included_merge_iff {others : KeyedMap Key Content}
    (hdisjoint : ∀ key ∈ others, key ∉ added) :
    others.Included (map.merge added) ↔ others.Included map := by
  refine forall_congr' fun key => forall₂_congr fun content hlookup => ?_
  exact holds_merge_of_notMem (hdisjoint key (mem_of_lookup hlookup))

end Contents

end Laws

end KeyedMap

end Songpark
