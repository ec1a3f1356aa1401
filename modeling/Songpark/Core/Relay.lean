import Mathlib.Algebra.BigOperators.Group.List.Basic
import Mathlib.Algebra.GroupWithZero.Nat
import Mathlib.Data.List.Forall2
import Mathlib.Data.List.Induction

/-!
# Relays and their tallies

A relay receives a packet in every round and passes it on; either can fail.
What was received and what was sent are read off the history of the rounds: the
sent packets come from a subsequence of the received ones, and every received
packet was either sent or dropped.

A tally counts the failures and adds up the sizes in registers of a fixed width.
After a history the registers hold the numbers of that history, reduced to
their width.
-/

namespace Songpark.Relay

variable {α β : Type*}

/-- What becomes of a round: nothing is received, a packet is received and not
passed on, or a packet is received and something is sent for it. -/
inductive Outcome (α β : Type*)
  | missed
  | dropped (packet : α)
  | passed (packet : α) (datagram : β)

def Outcome.received : Outcome α β → Option α
  | .missed => none
  | .dropped packet => some packet
  | .passed packet _ => some packet

def Outcome.sent : Outcome α β → Option β
  | .missed => none
  | .dropped _ => none
  | .passed _ datagram => some datagram

def Outcome.isMissed : Outcome α β → Bool
  | .missed => true
  | _ => false

def Outcome.isDropped : Outcome α β → Bool
  | .dropped _ => true
  | _ => false

section History

variable (history : List (Outcome α β))

def received : List α := history.filterMap Outcome.received

def sent : List β := history.filterMap Outcome.sent

def missedCount : ℕ := history.countP Outcome.isMissed

def droppedCount : ℕ := history.countP Outcome.isDropped

/-- Every received packet was sent or dropped. -/
theorem length_received :
    (received history).length =
      (sent history).length + droppedCount history := by
  rw [received, sent, droppedCount]
  induction history with
  | nil => rfl
  | cons outcome history ih =>
      simp only [List.filterMap_cons, List.countP_cons]
      cases outcome with
      | missed => exact ih
      | dropped packet =>
          simp only [Outcome.received, Outcome.sent, Outcome.isDropped,
            List.length_cons, if_true, ih]
          exact Nat.add_assoc _ _ 1
      | passed packet datagram =>
          simp only [Outcome.received, Outcome.sent, Outcome.isDropped,
            List.length_cons, Bool.false_eq_true, if_false, ih]
          exact Nat.add_right_comm _ _ 1

/-- Sizes can be added up over the rounds or over the packets. -/
theorem sum_map_filterMap {γ : Type*} (seen : Outcome α β → Option γ)
    (size : γ → ℕ) :
    (history.map fun outcome => ((seen outcome).map size).getD 0).sum =
      ((history.filterMap seen).map size).sum := by
  induction history with
  | nil => rfl
  | cons outcome history ih =>
      rw [List.map_cons, List.sum_cons, ih, List.filterMap_cons]
      cases seen outcome with
      | none => exact Nat.zero_add _
      | some packet => rfl

variable {history}

/-- What was sent comes, in order, from a subsequence of what was received. -/
theorem sent_sublistForall₂ {relation : β → α → Prop}
    (hpassed : ∀ packet datagram, .passed packet datagram ∈ history →
      relation datagram packet) :
    List.SublistForall₂ relation (sent history) (received history) := by
  rw [sent, received]
  induction history with
  | nil => exact .nil
  | cons outcome history ih =>
      have hlater := ih fun packet datagram hmem =>
        hpassed packet datagram (List.mem_cons_of_mem outcome hmem)
      cases outcome with
      | missed => exact hlater
      | dropped packet => exact .cons_right hlater
      | passed packet datagram =>
          exact .cons (hpassed packet datagram List.mem_cons_self) hlater

/-- A relay that sends what it has received sends a subsequence of it. -/
theorem sent_sublist {history : List (Outcome α α)}
    (hpassed : ∀ packet datagram, .passed packet datagram ∈ history →
      datagram = packet) :
    (sent history).Sublist (received history) := by
  obtain ⟨sources, hsources, hsublist⟩ :=
    List.sublistForall₂_iff.mp (sent_sublistForall₂ hpassed)
  rw [List.forall₂_eq_eq_eq] at hsources
  exact hsources ▸ hsublist

end History

/-! ## Tallies -/

/-- What a relay has sent, and its registers. -/
@[ext]
structure Tally (β : Type*) (width : ℕ) where
  sent : List β
  missed : BitVec width
  dropped : BitVec width
  bytes : BitVec width

variable {width : ℕ}

/-- Account for one round, whose packet has some size. -/
def Tally.record (size : Outcome α β → ℕ) (tally : Tally β width)
    (outcome : Outcome α β) : Tally β width :=
  let counted :=
    { tally with bytes := tally.bytes + BitVec.ofNat width (size outcome) }
  match outcome with
  | .missed => { counted with missed := counted.missed + 1 }
  | .dropped _ => { counted with dropped := counted.dropped + 1 }
  | .passed _ datagram => { counted with sent := counted.sent ++ [datagram] }

/-- A round without a packet of any size is only counted. -/
theorem record_missed {size : Outcome α β → ℕ} (hsize : size .missed = 0)
    (tally : Tally β width) :
    tally.record size .missed = { tally with missed := tally.missed + 1 } := by
  rw [Tally.record, hsize, BitVec.add_zero]

/-- The registers that hold the numbers of a history. -/
def Tally.of (width : ℕ) (size : Outcome α β → ℕ)
    (history : List (Outcome α β)) : Tally β width where
  sent := Relay.sent history
  missed := BitVec.ofNat width (missedCount history)
  dropped := BitVec.ofNat width (droppedCount history)
  bytes := BitVec.ofNat width (history.map size).sum

/-- One more round adds to the numbers what it adds to the registers. -/
theorem record_of (size : Outcome α β → ℕ) (history : List (Outcome α β))
    (outcome : Outcome α β) :
    (Tally.of width size history).record size outcome =
      Tally.of width size (history ++ [outcome]) := by
  cases outcome <;>
    simp [Tally.record, Tally.of, sent, missedCount, droppedCount,
      Outcome.sent, Outcome.isMissed, Outcome.isDropped, BitVec.ofNat_add]

/-- After a history the registers hold its numbers. -/
theorem foldl_record (size : Outcome α β → ℕ)
    (history : List (Outcome α β)) :
    history.foldl (Tally.record size) (Tally.of width size []) =
      Tally.of width size history := by
  induction history using List.reverseRecOn with
  | nil => rfl
  | append_singleton history outcome ih =>
      rw [List.foldl_concat, ih, record_of]

/-- A view of a state that every step keeps or changes by an outcome goes
through the outcomes of a run. -/
theorem view_foldl {State Label View Effect : Type*} (view : State → View)
    (step : State → Label → State) (effect : Label → Option Effect)
    (act : View → Effect → View)
    (hstep : ∀ state label, view (step state label) =
      (effect label).elim (view state) (act (view state)))
    (labels : List Label) (state : State) :
    view (labels.foldl step state) =
      (labels.filterMap effect).foldl act (view state) := by
  induction labels generalizing state with
  | nil => rfl
  | cons label labels ih =>
      rw [List.foldl_cons, ih, hstep, List.filterMap_cons]
      cases effect label with
      | none => rfl
      | some outcome => rfl

/-- A register is exact as long as the number fits. -/
theorem toNat_ofNat_eq_iff {count : ℕ} :
    (BitVec.ofNat width count).toNat = count ↔ count < 2 ^ width := by
  rw [BitVec.toNat_ofNat]
  constructor
  · intro hcount
    rw [← hcount]
    exact Nat.mod_lt count (Nat.two_pow_pos width)
  · exact Nat.mod_eq_of_lt

end Songpark.Relay
