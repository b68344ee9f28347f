import Mathlib.Logic.Function.Basic

/-!
# Register files with two decoders

A register file is a store of fields behind addresses.  Reading and writing an address are decoded
separately, so the field that an address reads need not be the one it writes.  An address that
decodes to no field reads as a fixed value, and a write to it is lost.

The law of such a file, that a write is seen at its own address and nowhere else, holds of a pair
of addresses if the decoders agree on them, and otherwise only by the coincidence that the value
is already there (`RegisterFile.lawful_iff`).

So there are two ways in which a pair of addresses can be lawful, and the equivalence says that
there is no third.  In a description of hardware the two decoders are one; in a program they are
often two `switch` statements, and what is wrong with them, a case that is missing or two cases
that are crossed, shows as a pair of addresses that are connected without being equal, or equal
without being connected.

* `Connected` is the relation between addresses that the decoders make.
* `read_write_of_connected` and `read_write_of_not_connected` are the two cases of a read after a
  write.
-/

set_option autoImplicit false

open Function (update)

/-- The decoders of a register file, and what an address without a field reads as. -/
structure RegisterFile (α φ β : Type*) where
  readField : α → Option φ
  writeField : α → Option φ
  blank : β

namespace RegisterFile

variable {α φ β : Type*} (R : RegisterFile α φ β)

/-- What is read at an address. -/
def read (s : φ → β) (b : α) : β := (R.readField b).elim R.blank s

/-- The fields after a write. -/
def write [DecidableEq φ] (s : φ → β) (a : α) (v : β) : φ → β :=
  (R.writeField a).elim s fun f ↦ update s f v

/-- The field that `b` reads is the one that `a` writes.  An address without a field is connected
to nothing, not even to itself. -/
def Connected (a b : α) : Prop := ∃ f, R.writeField a = some f ∧ R.readField b = some f

instance [DecidableEq φ] (a b : α) : Decidable (R.Connected a b) :=
  decidable_of_iff ((R.writeField a).any fun f ↦ R.readField b = some f) (by
    rw [Option.any_eq_true]
    exact exists_congr fun f ↦ and_congr_right' decide_eq_true_iff)

/-- A write to `a` is seen at `b` exactly if `b` is `a`.  For a single state and value, so that a
coincidence counts. -/
def Lawful [DecidableEq α] [DecidableEq φ] (s : φ → β) (a b : α) (v : β) : Prop :=
  R.read (R.write s a v) b = if b = a then v else R.read s b

section

variable [DecidableEq φ] {s : φ → β} {a b : α} {v : β}

theorem read_write_of_connected (h : R.Connected a b) : R.read (R.write s a v) b = v := by
  obtain ⟨f, ha, hb⟩ := h
  rw [read, write, ha, hb]
  exact Function.update_self f v s

theorem read_write_of_not_connected (h : ¬R.Connected a b) :
    R.read (R.write s a v) b = R.read s b := by
  rw [read, read, write]
  cases hb : R.readField b with
  | none => rfl
  | some f =>
    cases ha : R.writeField a with
    | none => rfl
    | some f' =>
      have hne : f ≠ f' := fun hf ↦ h ⟨f, hf ▸ ha, hb⟩
      exact Function.update_of_ne hne v s

/-- **The law of a register file**, for two addresses. -/
theorem lawful_iff [DecidableEq α] :
    R.Lawful s a b v ↔ (R.Connected a b ↔ b = a) ∨ R.read s b = v := by
  rw [Lawful]
  by_cases hconnected : R.Connected a b <;> by_cases hsame : b = a
  · rw [R.read_write_of_connected hconnected, if_pos hsame]
    exact iff_of_true rfl (.inl (iff_of_true hconnected hsame))
  · rw [R.read_write_of_connected hconnected, if_neg hsame, eq_comm]
    exact (or_iff_right fun h ↦ hsame (h.1 hconnected)).symm
  · rw [R.read_write_of_not_connected hconnected, if_pos hsame]
    exact (or_iff_right fun h ↦ hconnected (h.2 hsame)).symm
  · rw [R.read_write_of_not_connected hconnected, if_neg hsame]
    exact iff_of_true rfl (.inl (iff_of_false hconnected hsame))

end

end RegisterFile
