import Mathlib.Data.List.Range
import Mathlib.Data.List.TakeDrop

/-!
Lists whose elements carry their place: the first one a number, and each next one the next. What
a filter on the numbers keeps is a segment of the list.
-/

variable {α : Type} {number : α → Nat} {first : Nat} {list : List α}

def NumberedFrom (number : α → Nat) (first : Nat) (list : List α) : Prop :=
  list.map number = List.range' first list.length

namespace NumberedFrom

theorem nil : NumberedFrom number first [] := rfl

theorem cons_iff {head : α} {tail : List α} :
    NumberedFrom number first (head :: tail) ↔
      number head = first ∧ NumberedFrom number (first + 1) tail := by
  unfold NumberedFrom
  rw [List.map_cons, List.length_cons, List.range'_succ, List.cons.injEq]

theorem append_iff {earlier later : List α} :
    NumberedFrom number first (earlier ++ later) ↔
      NumberedFrom number first earlier ∧ NumberedFrom number (first + earlier.length) later := by
  induction earlier generalizing first with
  | nil => simp [nil]
  | cons head tail ih =>
    rw [List.cons_append, cons_iff, cons_iff, ih, List.length_cons, and_assoc, Nat.add_right_comm,
      Nat.add_assoc]

theorem take (numbering : NumberedFrom number first list) (count : Nat) :
    NumberedFrom number first (list.take count) := by
  rw [← List.take_append_drop count list, append_iff] at numbering
  exact numbering.1

theorem drop (numbering : NumberedFrom number first list) {count : Nat}
    (within : count ≤ list.length) : NumberedFrom number (first + count) (list.drop count) := by
  rw [← List.take_append_drop count list, append_iff, List.length_take,
    Nat.min_eq_left within] at numbering
  exact numbering.2

theorem le_of_mem (numbering : NumberedFrom number first list) {element : α}
    (member : element ∈ list) :
    first ≤ number element ∧ number element < first + list.length := by
  have isNumber : number element ∈ list.map number := List.mem_map_of_mem member
  rw [numbering, List.mem_range'_1] at isNumber
  exact isNumber

theorem getElem? (numbering : NumberedFrom number first list) {index : Nat} {element : α}
    (found : list[index]? = some element) : number element = first + index := by
  induction list generalizing first index with
  | nil => cases found
  | cons head tail ih =>
    obtain ⟨isFirst, rest⟩ := cons_iff.mp numbering
    cases index with
    | zero =>
      rw [List.getElem?_cons_zero] at found
      rw [← Option.some.inj found, isFirst, Nat.add_zero]
    | succ before =>
      rw [List.getElem?_cons_succ] at found
      rw [ih rest found]
      omega

theorem pairwise_le (numbering : NumberedFrom number first list) :
    list.Pairwise fun earlier later => number earlier ≤ number later := by
  induction list generalizing first with
  | nil => exact List.Pairwise.nil
  | cons head tail ih =>
    obtain ⟨isFirst, rest⟩ := cons_iff.mp numbering
    constructor
    · intro later member
      have bounds := rest.le_of_mem member
      omega
    · exact ih rest

theorem filter_le (numbering : NumberedFrom number first list) (last : Nat) :
    (list.filter fun element => decide (number element ≤ last)) = list.take (last + 1 - first) := by
  induction list generalizing first with
  | nil => simp
  | cons head tail ih =>
    obtain ⟨isFirst, rest⟩ := cons_iff.mp numbering
    by_cases within : number head ≤ last
    · have length : last + 1 - first = last + 1 - (first + 1) + 1 := by omega
      rw [List.filter_cons_of_pos (by simpa using within), ih rest, length, List.take_succ_cons]
    · have length : last + 1 - first = 0 := by omega
      rw [List.filter_cons_of_neg (by simpa using within), ih rest, length, List.take_zero]
      have short : last + 1 - (first + 1) = 0 := by omega
      rw [short, List.take_zero]

theorem filter_lt (numbering : NumberedFrom number first list) (bound : Nat) :
    (list.filter fun element => decide (bound < number element)) =
      list.drop (bound + 1 - first) := by
  induction list generalizing first with
  | nil => simp
  | cons head tail ih =>
    obtain ⟨isFirst, rest⟩ := cons_iff.mp numbering
    by_cases above : bound < number head
    · have length : bound + 1 - first = 0 := by omega
      have short : bound + 1 - (first + 1) = 0 := by omega
      rw [List.filter_cons_of_pos (by simpa using above), ih rest, length, short]
      rfl
    · have length : bound + 1 - first = bound + 1 - (first + 1) + 1 := by omega
      rw [List.filter_cons_of_neg (by simpa using above), ih rest, length, List.drop_succ_cons]

theorem filter_between (numbering : NumberedFrom number 1 list) (bound last : Nat) :
    (list.filter fun element => decide (bound < number element) && decide (number element ≤ last)) =
      (list.take last).drop bound := by
  rw [← List.filter_filter, numbering.filter_le, Nat.add_sub_cancel,
    (numbering.take last).filter_lt, Nat.add_sub_cancel]

end NumberedFrom
