import Songpark.Core.LastSet
import Mathlib.Data.List.Infix
import Mathlib.Data.List.TakeWhile
import Mathlib.Data.Set.Basic
import Mathlib.Logic.Function.Basic

/-!
# Memory-mapped register files

A driver talks to its hardware through the registers of several devices, each
mapped behind a base pointer of its own.  This file models such a board as one
memory cell per device and byte offset, together with the log of all accesses
made through the base pointers.  A register program is a function on boards, so
read-modify-write sequences are ordinary monadic code.

The frame rule of the file is `Within`: a program that writes only cells of a
given footprint leaves every other cell of the board as it was.
-/

namespace Songpark.RegisterFile

open Songpark.LastSet

/-- A register: the device whose base pointer is used, and the byte offset
added to it. -/
structure Cell (Dev : Type*) where
  dev : Dev
  offset : ℕ
  deriving DecidableEq

/-- What a base pointer holds: `NULL`, the error value of a failed mapping, or
the address of a mapped page. -/
inductive Base
  | null
  | mapFailed
  | mapped
  deriving DecidableEq

/-- One access through a base pointer. -/
inductive Access (Dev Word : Type*)
  | read (cell : Cell Dev)
  | write (cell : Cell Dev) (value : Word)
  deriving DecidableEq

def Access.dev {Dev Word : Type*} : Access Dev Word → Dev
  | .read cell => cell.dev
  | .write cell _ => cell.dev

/-- The written cell and value of an access, if it is a write. -/
def Access.written? {Dev Word : Type*} :
    Access Dev Word → Option (Cell Dev × Word)
  | .read _ => none
  | .write cell value => some (cell, value)

/-- All devices at once: the base pointers, the register contents, and the
accesses made so far, the newest first. -/
structure Board (Dev Word : Type*) where
  base : Dev → Base
  content : Cell Dev → Word
  accesses : List (Access Dev Word)

/-- A register program. -/
def RegM (Dev Word : Type*) (α : Type) := Board Dev Word → α × Board Dev Word

variable {Dev : Type*} {Word α β : Type}

instance : Monad (RegM Dev Word) where
  pure value board := (value, board)
  bind program next board := next (program board).1 (program board).2

@[simp]
theorem pure_apply (value : α) (board : Board Dev Word) :
    (pure value : RegM Dev Word α) board = (value, board) := rfl

@[simp]
theorem bind_apply (program : RegM Dev Word α) (next : α → RegM Dev Word β)
    (board : Board Dev Word) :
    (program >>= next) board = next (program board).1 (program board).2 := rfl

@[simp]
theorem map_apply (f : α → β) (program : RegM Dev Word α)
    (board : Board Dev Word) :
    (f <$> program) board = (f (program board).1, (program board).2) := rfl

/-- The base pointer itself is compared with `NULL`; no device is touched. -/
def isNull (dev : Dev) : RegM Dev Word Bool := fun board =>
  (board.base dev == .null, board)

@[simp]
theorem isNull_apply (dev : Dev) (board : Board Dev Word) :
    isNull dev board = (board.base dev == .null, board) := rfl

def readReg (dev : Dev) (offset : ℕ) : RegM Dev Word Word := fun board =>
  (board.content ⟨dev, offset⟩,
    { board with accesses := .read ⟨dev, offset⟩ :: board.accesses })

variable [DecidableEq Dev]

def writeReg (dev : Dev) (offset : ℕ) (value : Word) : RegM Dev Word Unit :=
  fun board =>
    ((), { board with
      content := Function.update board.content ⟨dev, offset⟩ value
      accesses := .write ⟨dev, offset⟩ value :: board.accesses })

section Contents

omit [DecidableEq Dev]

@[simp]
theorem readReg_value (dev : Dev) (offset : ℕ) (board : Board Dev Word) :
    (readReg dev offset board).1 = board.content ⟨dev, offset⟩ := rfl

@[simp]
theorem readReg_content (dev : Dev) (offset : ℕ) (board : Board Dev Word) :
    (readReg dev offset board).2.content = board.content := rfl

@[simp]
theorem readReg_base (dev : Dev) (offset : ℕ) (board : Board Dev Word) :
    (readReg dev offset board).2.base = board.base := rfl

end Contents

@[simp]
theorem writeReg_content (dev : Dev) (offset : ℕ) (value : Word)
    (board : Board Dev Word) :
    (writeReg dev offset value board).2.content =
      Function.update board.content ⟨dev, offset⟩ value := rfl

@[simp]
theorem writeReg_base (dev : Dev) (offset : ℕ) (value : Word)
    (board : Board Dev Word) :
    (writeReg dev offset value board).2.base = board.base := rfl

/-! ## Footprints -/

/-- The program writes no cell outside `footprint`, never moves a base pointer,
and only adds to the log. -/
structure Within (footprint : Set (Cell Dev)) (program : RegM Dev Word α) :
    Prop where
  content_eq : ∀ (board : Board Dev Word) (cell : Cell Dev),
    cell ∉ footprint → (program board).2.content cell = board.content cell
  base_eq : ∀ board : Board Dev Word, (program board).2.base = board.base
  logs : ∀ board : Board Dev Word,
    board.accesses <:+ (program board).2.accesses

namespace Within

variable {footprint : Set (Cell Dev)}

omit [DecidableEq Dev] in
@[simp]
theorem pure (value : α) :
    Within footprint (Pure.pure value : RegM Dev Word α) :=
  ⟨fun _ _ _ => rfl, fun _ => rfl, fun _ => List.suffix_refl _⟩

omit [DecidableEq Dev] in
@[simp]
theorem isNull (dev : Dev) :
    Within footprint (RegisterFile.isNull dev : RegM Dev Word Bool) :=
  ⟨fun _ _ _ => rfl, fun _ => rfl, fun _ => List.suffix_refl _⟩

omit [DecidableEq Dev] in
@[simp]
theorem readReg (dev : Dev) (offset : ℕ) :
    Within footprint (RegisterFile.readReg dev offset : RegM Dev Word Word) :=
  ⟨fun _ _ _ => rfl, fun _ => rfl, fun _ => List.suffix_cons _ _⟩

@[simp]
theorem writeReg {dev : Dev} {offset : ℕ} {value : Word}
    (hmem : (⟨dev, offset⟩ : Cell Dev) ∈ footprint) :
    Within footprint (RegisterFile.writeReg dev offset value) where
  content_eq board cell hcell := by
    have hne : cell ≠ ⟨dev, offset⟩ := fun heq => hcell (heq ▸ hmem)
    simp [hne]
  base_eq _ := rfl
  logs _ := List.suffix_cons _ _

omit [DecidableEq Dev] in
@[simp]
theorem bind {program : RegM Dev Word α} {next : α → RegM Dev Word β}
    (hprogram : Within footprint program)
    (hnext : ∀ value, Within footprint (next value)) :
    Within footprint (program >>= next) where
  content_eq board cell hcell := by
    rw [bind_apply, (hnext _).content_eq _ cell hcell,
      hprogram.content_eq board cell hcell]
  base_eq board := by
    rw [bind_apply, (hnext _).base_eq, hprogram.base_eq]
  logs board := (hprogram.logs board).trans ((hnext _).logs _)

omit [DecidableEq Dev] in
@[simp]
theorem ite {condition : Prop} [Decidable condition]
    {left right : RegM Dev Word α} (hleft : Within footprint left)
    (hright : Within footprint right) :
    Within footprint (if condition then left else right) := by
  split <;> assumption

end Within

/-! ## Devices a program cannot do without -/

/-- From every board the program accesses the device. -/
def Uses (dev : Dev) (program : RegM Dev Word α) : Prop :=
  ∀ board : Board Dev Word,
    ∃ access ∈ (program board).2.accesses, access.dev = dev

namespace Uses

variable {dev : Dev} {program : RegM Dev Word α} {next : α → RegM Dev Word β}

theorem writeReg {offset : ℕ} {value : Word} :
    Uses dev (RegisterFile.writeReg dev offset value) := fun _ =>
  ⟨_, List.mem_cons_self, rfl⟩

omit [DecidableEq Dev] in
theorem readReg {offset : ℕ} :
    Uses dev (RegisterFile.readReg dev offset : RegM Dev Word Word) := fun _ =>
  ⟨_, List.mem_cons_self, rfl⟩

omit [DecidableEq Dev] in
theorem bind_left (hprogram : Uses dev program)
    (hnext : ∀ value, Within Set.univ (next value)) :
    Uses dev (program >>= next) := by
  intro board
  obtain ⟨access, hmem, hdev⟩ := hprogram board
  exact ⟨access, ((hnext _).logs _).mem hmem, hdev⟩

omit [DecidableEq Dev] in
theorem bind_right (hnext : ∀ value, Uses dev (next value)) :
    Uses dev (program >>= next) := fun _ => hnext _ _

end Uses

/-! ## Devices a program leaves alone -/

/-- The base pointers, and the accesses made to one device. -/
def Board.trace (dev : Dev) (board : Board Dev Word) :
    (Dev → Base) × List (Access Dev Word) :=
  (board.base, board.accesses.filter fun access => access.dev = dev)

/-- The program makes no access to the device and moves no base pointer. -/
def Avoids (dev : Dev) (program : RegM Dev Word α) : Prop :=
  ∀ board : Board Dev Word, (program board).2.trace dev = board.trace dev

namespace Avoids

variable {dev : Dev}

theorem pure (value : α) :
    Avoids dev (Pure.pure value : RegM Dev Word α) := fun _ => rfl

theorem isNull (other : Dev) :
    Avoids dev (RegisterFile.isNull other : RegM Dev Word Bool) := fun _ => rfl

theorem readReg {other : Dev} {offset : ℕ} (hother : other ≠ dev) :
    Avoids dev (RegisterFile.readReg other offset : RegM Dev Word Word) := by
  intro board
  simp [RegisterFile.readReg, Board.trace, Access.dev, hother]

theorem writeReg {other : Dev} {offset : ℕ} {value : Word}
    (hother : other ≠ dev) :
    Avoids dev (RegisterFile.writeReg other offset value) := by
  intro board
  simp [RegisterFile.writeReg, Board.trace, Access.dev, hother]

theorem bind {program : RegM Dev Word α} {next : α → RegM Dev Word β}
    (hprogram : Avoids dev program) (hnext : ∀ value, Avoids dev (next value)) :
    Avoids dev (program >>= next) := fun board =>
  (hnext _ _).trans (hprogram board)

theorem ite {condition : Prop} [Decidable condition]
    {left right : RegM Dev Word α} (hleft : Avoids dev left)
    (hright : Avoids dev right) :
    Avoids dev (if condition then left else right) := by
  split <;> assumption

end Avoids

/-- On a board where a single device may be missing, a log without accesses to
that device goes through mapped bases only. -/
theorem mapped_of_trace {board : Board Dev Word} {dev : Dev}
    (htrace : (board.trace dev).2 = [])
    (hmapped : ∀ other, other ≠ dev → board.base other = .mapped) :
    ∀ access ∈ board.accesses, board.base access.dev = .mapped := by
  intro access hmem
  have hfilter := List.filter_eq_nil_iff.mp htrace access hmem
  exact hmapped access.dev (by simpa using hfilter)

/-! ## Sequences of calls -/

section Sequences

variable {Call View : Type}

/-- The board after a sequence of driver calls. -/
def drive (program : Call → RegM Dev Word Unit) (calls : List Call)
    (board : Board Dev Word) : Board Dev Word :=
  calls.foldl (fun current call => (program call current).2) board

variable {program : Call → RegM Dev Word Unit} {board : Board Dev Word}

omit [DecidableEq Dev] in
theorem drive_base (hbase : ∀ call (current : Board Dev Word),
    (program call current).2.base = current.base) (calls : List Call) :
    (drive program calls board).base = board.base := by
  induction calls generalizing board with
  | nil => rfl
  | cons call calls ih => exact ih.trans (hbase call board)

omit [DecidableEq Dev] in
/-- A view that every call either sets or keeps is what was set last. -/
theorem drive_lastSet (view : Board Dev Word → View)
    (sets : Call → Option View)
    (hstep : ∀ call (current : Board Dev Word),
      view (program call current).2 = (sets call).getD (view current))
    (calls : List Call) :
    view (drive program calls board) =
      (lastSet sets calls).getD (view board) := by
  rw [← foldl_getD]
  induction calls generalizing board with
  | nil => rfl
  | cons call calls ih =>
      rw [List.foldl_cons, ← hstep]
      exact ih

end Sequences

/-! ## Issued writes -/

/-- The logged writes in the order in which they were made, up to the first
access through a base that is not mapped: there the process dies. -/
def Board.issued (board : Board Dev Word) : List (Cell Dev × Word) :=
  (board.accesses.reverse.takeWhile fun access =>
    decide (board.base access.dev = .mapped)).filterMap Access.written?

omit [DecidableEq Dev] in
/-- With a single device either all writes are issued or none is. -/
theorem issued_eq_of_dev {board : Board Dev Word} {dev : Dev}
    (hdev : ∀ access ∈ board.accesses, access.dev = dev) :
    board.issued =
      if board.base dev = .mapped then
        board.accesses.reverse.filterMap Access.written?
      else [] := by
  have hall : ∀ access ∈ board.accesses.reverse,
      decide (board.base access.dev = .mapped) =
        decide (board.base dev = .mapped) := by
    intro access hmem
    rw [hdev access (List.mem_reverse.mp hmem)]
  unfold Board.issued
  by_cases hmapped : board.base dev = .mapped
  · rw [if_pos hmapped, List.takeWhile_eq_self_iff.mpr]
    intro access hmem
    rw [hall access hmem, decide_eq_true hmapped]
  · rw [if_neg hmapped]
    cases hlog : board.accesses.reverse with
    | nil => rfl
    | cons access rest =>
        have hfirst := hall access (hlog ▸ List.mem_cons_self)
        rw [decide_eq_false hmapped] at hfirst
        rw [List.takeWhile_cons, hfirst]
        rfl

end Songpark.RegisterFile
