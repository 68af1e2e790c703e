namespace TagContext

-- A line and a UTF-8 byte column in it. The source keeps both in u32; Nat agrees with it below
-- 2^32 lines and columns.
structure Position where
  line : Nat
  character : Nat
  deriving DecidableEq, Repr, Inhabited

namespace Position

-- Positions are ordered line first.
def lt (a b : Position) : Prop :=
  a.line < b.line ∨ (a.line = b.line ∧ a.character < b.character)

def le (a b : Position) : Prop :=
  a.line < b.line ∨ (a.line = b.line ∧ a.character ≤ b.character)

instance : LT Position := ⟨lt⟩
instance : LE Position := ⟨le⟩

instance (a b : Position) : Decidable (a < b) := by
  show Decidable (lt a b); unfold lt; infer_instance
instance (a b : Position) : Decidable (a ≤ b) := by
  show Decidable (le a b); unfold le; infer_instance

-- The position `n` columns to the left, stopping at column 0.
def back (p : Position) (n : Nat) : Position := ⟨p.line, p.character - n⟩

theorem lt_iff (a b : Position) :
    a < b ↔ a.line < b.line ∨ (a.line = b.line ∧ a.character < b.character) := Iff.rfl

theorem le_iff (a b : Position) :
    a ≤ b ↔ a.line < b.line ∨ (a.line = b.line ∧ a.character ≤ b.character) := Iff.rfl

theorem lt_asymm {a b : Position} (ab : a < b) : ¬b < a := by
  rw [lt_iff] at *
  omega

theorem le_antisymm {a b : Position} (ab : a ≤ b) (ba : b ≤ a) : a = b := by
  obtain ⟨line,column⟩ := a
  obtain ⟨line',column'⟩ := b
  simp only [le_iff] at ab ba
  simp only [Position.mk.injEq]
  omega

end Position

structure Range where
  start : Position
  stop : Position
  deriving DecidableEq, Repr

end TagContext
