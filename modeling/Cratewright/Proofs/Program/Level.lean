import Cratewright.Program

/-!
# The level of a program

Which level a program ends at depends on the level at which it starts and on its operations alone, wherever it succeeds.
`levelFrom` computes it, and answers nothing if the program dedents below a floor. Without a floor the level stops at
zero, as that of a writer does. A program that stays above a floor stays as much above it when it starts some levels
deeper.
-/

namespace Cratewright

/-- The level after it was lowered, unless that takes it below a floor. Without a floor it stops at zero. -/
def lowered : Option Nat → Nat → Nat → Option Nat
  | none, levels, level => some (level - levels)
  | some floor, levels, level => if floor + levels ≤ level then some (level - levels) else none

mutual

/-- The level after an operation that starts at a level, unless the operation dedents below a floor. -/
def Op.levelFrom (floor : Option Nat) : Op → Nat → Option Nat
  | .write _ _, level => some level
  | .writeNamed _ _, level => some level
  | .block _ _ body, level => (programLevelFrom floor body (level + 1)).bind (lowered floor 1)
  | .indent levels, level => some (level + levels)
  | .dedent levels, level => lowered floor levels level
  | .resolve _, level => some level
  | .register _, level => some level
  | .insert writable, level => writable.levelFrom floor level
  | .fail _, level => some level

/-- The level after a program that starts at a level, unless the program dedents below a floor. -/
def programLevelFrom (floor : Option Nat) : List Op → Nat → Option Nat
  | [], level => some level
  | operation :: rest, level => (operation.levelFrom floor level).bind (programLevelFrom floor rest)

/-- The level after a writable that starts at a level, unless the writable dedents below a floor. -/
def Writable.levelFrom (floor : Option Nat) : Writable → Nat → Option Nat
  | .empty, level => some level
  | .program operations, level => programLevelFrom floor operations level

end

mutual

/-- Without a floor every operation has a level after it. -/
theorem Op.exists_levelFrom_none :
    ∀ (operation : Op) (level : Nat), ∃ after, operation.levelFrom none level = some after
  | .write _ _, level | .writeNamed _ _, level | .resolve _, level | .register _, level | .fail _, level =>
    ⟨level, by rw [Op.levelFrom]⟩
  | .block _ _ body, level => by
    obtain ⟨after, reached⟩ := exists_programLevelFrom_none body (level + 1)
    exact ⟨after - 1, by rw [Op.levelFrom, reached, Option.bind_some, lowered]⟩
  | .indent levels, level => ⟨level + levels, by rw [Op.levelFrom]⟩
  | .dedent levels, level => ⟨level - levels, by rw [Op.levelFrom, lowered]⟩
  | .insert writable, level => by
    rw [Op.levelFrom]
    exact Writable.exists_levelFrom_none writable level

/-- Without a floor a program always has a level at which it ends. -/
theorem exists_programLevelFrom_none :
    ∀ (operations : List Op) (level : Nat), ∃ after, programLevelFrom none operations level = some after
  | [], level => ⟨level, by rw [programLevelFrom]⟩
  | operation :: rest, level => by
    obtain ⟨between, reached⟩ := Op.exists_levelFrom_none operation level
    rw [programLevelFrom, reached, Option.bind_some]
    exact exists_programLevelFrom_none rest between

/-- Without a floor a writable always has a level at which it ends. -/
theorem Writable.exists_levelFrom_none :
    ∀ (writable : Writable) (level : Nat), ∃ after, writable.levelFrom none level = some after
  | .empty, level => ⟨level, by rw [Writable.levelFrom]⟩
  | .program operations, level => by
    rw [Writable.levelFrom]
    exact exists_programLevelFrom_none operations level

end

/-- With the floor and the start some levels deeper, coming back ends as many levels deeper. -/
theorem lowered_raised {floor levels level after : Nat} (reached : lowered (some floor) levels level = some after)
    (depth : Nat) : lowered (some (floor + depth)) levels (level + depth) = some (after + depth) := by
  rw [lowered] at reached
  split at reached <;> cases reached
  have above : floor + depth + levels ≤ level + depth := by omega
  rw [lowered, if_pos above]
  exact congrArg some (by omega)

mutual

/-- An operation that stays above a floor stays as much above it some levels deeper. -/
theorem Op.levelFrom_raised : ∀ {operation : Op} {floor level after : Nat},
    operation.levelFrom (some floor) level = some after → ∀ depth,
    operation.levelFrom (some (floor + depth)) (level + depth) = some (after + depth)
  | .write _ _, _, _, _, reached, depth | .writeNamed _ _, _, _, _, reached, depth
  | .resolve _, _, _, _, reached, depth | .register _, _, _, _, reached, depth
  | .fail _, _, _, _, reached, depth => by
    rw [Op.levelFrom] at reached ⊢
    cases reached
    rfl
  | .block _ _ body, floor, level, after, reached, depth => by
    rw [Op.levelFrom] at reached ⊢
    obtain ⟨inner, reachedInner, reached⟩ := Option.bind_eq_some_iff.mp reached
    rw [Nat.add_right_comm, programLevelFrom_raised reachedInner depth, Option.bind_some]
    exact lowered_raised reached depth
  | .indent levels, _, _, _, reached, depth => by
    rw [Op.levelFrom] at reached ⊢
    cases reached
    rw [Nat.add_right_comm]
  | .dedent levels, _, _, _, reached, depth => by
    rw [Op.levelFrom] at reached ⊢
    exact lowered_raised reached depth
  | .insert writable, _, _, _, reached, depth => by
    rw [Op.levelFrom] at reached ⊢
    exact Writable.levelFrom_raised reached depth

/-- With the floor and the start some levels deeper, a program ends as many levels deeper. -/
theorem programLevelFrom_raised : ∀ {operations : List Op} {floor level after : Nat},
    programLevelFrom (some floor) operations level = some after → ∀ depth,
    programLevelFrom (some (floor + depth)) operations (level + depth) = some (after + depth)
  | [], _, _, _, reached, depth => by
    rw [programLevelFrom] at reached ⊢
    cases reached
    rfl
  | operation :: rest, _, _, _, reached, depth => by
    rw [programLevelFrom] at reached ⊢
    obtain ⟨between, reachedBetween, reached⟩ := Option.bind_eq_some_iff.mp reached
    rw [Op.levelFrom_raised reachedBetween depth, Option.bind_some]
    exact programLevelFrom_raised reached depth

/-- With the floor and the start some levels deeper, a writable ends as many levels deeper. -/
theorem Writable.levelFrom_raised : ∀ {writable : Writable} {floor level after : Nat},
    writable.levelFrom (some floor) level = some after → ∀ depth,
    writable.levelFrom (some (floor + depth)) (level + depth) = some (after + depth)
  | .empty, _, _, _, reached, depth => by
    rw [Writable.levelFrom] at reached ⊢
    cases reached
    rfl
  | .program operations, _, _, _, reached, depth => by
    rw [Writable.levelFrom] at reached ⊢
    exact programLevelFrom_raised reached depth

end

end Cratewright
