import Mathlib.Data.List.Basic

/-!
Lists linked end to end: every element begins where the one before it ended. `Linked` tells
where such a list begins and where it ends.
-/

variable {α H : Type} {before after : α → H}

/-- The list begins at `start` and ends at `finish`. -/
def Linked (before after : α → H) : H → List α → H → Prop
  | start, [], finish => start = finish
  | start, head :: tail, finish => before head = start ∧ Linked before after (after head) tail finish

namespace Linked

theorem append_iff {start finish : H} {earlier later : List α} :
    Linked before after start (earlier ++ later) finish ↔
      ∃ middle, Linked before after start earlier middle ∧
        Linked before after middle later finish := by
  induction earlier generalizing start with
  | nil =>
    constructor
    · intro linked
      exact ⟨start, rfl, linked⟩
    · rintro ⟨middle, same, linked⟩
      have begins : start = middle := same
      rw [begins]
      exact linked
  | cons head tail ih =>
    constructor
    · intro linked
      obtain ⟨middle, first, second⟩ := ih.mp linked.2
      exact ⟨middle, ⟨linked.1, first⟩, second⟩
    · rintro ⟨middle, first, second⟩
      exact ⟨first.1, ih.mpr ⟨middle, first.2, second⟩⟩

theorem concat {start finish : H} {list : List α} (linked : Linked before after start list finish)
    {element : α} (begins : before element = finish) :
    Linked before after start (list ++ [element]) (after element) :=
  append_iff.mpr ⟨finish, linked, begins, rfl⟩

theorem after_element {start finish : H} {earlier later : List α} {element : α}
    (linked : Linked before after start (earlier ++ element :: later) finish) :
    Linked before after (after element) later finish := by
  obtain ⟨middle, _, second⟩ := append_iff.mp linked
  exact second.2

end Linked
