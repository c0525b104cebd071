import Mathlib.Algebra.Order.Ring.Rat
import Mathlib.Data.List.Induction
import Mathlib.Data.List.Sort
import Mathlib.Tactic.Linarith
import SdarRuntime.Library.OrderedMap

/-!
The covered area of a map: square display cells of one edge, merged within a row where they touch
up to a tolerance, as rectangles. Numbers are rational.
-/

namespace SdarRuntime

namespace CoveredCells

structure Cell where
  x : ℚ
  y : ℚ
  deriving DecidableEq

structure Rectangle where
  left : ℚ
  right : ℚ
  bottom : ℚ
  top : ℚ
  deriving DecidableEq

/-- How far the borders of two cells may be apart, or one over the other, to be merged. -/
def tolerance : ℚ := 0.11

def rows (cells : List Cell) : OrderedMap ℚ (List ℚ) :=
  cells.foldl
    (fun rows cell => rows.set cell.y ((rows.get? cell.y).getD [] ++ [cell.x]))
    OrderedMap.empty

def rectangle (edge y left right : ℚ) : Rectangle :=
  { left := left
    right := right
    bottom := y - edge / 2
    top := y + edge / 2 }

/-- The loop over the cells of a row behind the first, with the running borders. -/
def merge (edge y : ℚ) : ℚ → ℚ → List ℚ → List Rectangle
  | left, right, [] => [rectangle edge y left right]
  | left, right, x :: rest =>
    if |x - edge / 2 - right| ≤ tolerance then
      merge edge y left (x + edge / 2) rest
    else
      rectangle edge y left right :: merge edge y (x - edge / 2) (x + edge / 2) rest

def rowRectangles (edge y : ℚ) (xs : List ℚ) : List Rectangle :=
  match xs.insertionSort (· ≤ ·) with
  | [] => []
  | first :: rest => merge edge y (first - edge / 2) (first + edge / 2) rest

def rectangles (cells : List Cell) (edge : ℚ) : List Rectangle :=
  ((rows cells).entries.insertionSort fun first second => first.1 ≤ second.1).flatMap
    fun row => rowRectangles edge row.1 row.2

def toGeo (x y : ℚ) : ℚ × ℚ := (106.81485 + x / 111320, 29.7195 + y / 110540)

/-- The polygon of a rectangle, one closed ring. -/
def polygon (rectangle : Rectangle) : List (List (ℚ × ℚ)) :=
  [[toGeo rectangle.left rectangle.bottom, toGeo rectangle.right rectangle.bottom,
    toGeo rectangle.right rectangle.top, toGeo rectangle.left rectangle.top,
    toGeo rectangle.left rectangle.bottom]]

/-- The coordinates of the `MultiPolygon`. -/
def airportCoveredCells (cells : List Cell) (edge : ℚ) :
    Option (List (List (List (ℚ × ℚ)))) :=
  if edge ≤ 0 ∨ 10000 < cells.length ∨ cells = [] then none
  else if 100 < (rectangles cells edge).length then none
  else some ((rectangles cells edge).map polygon)

def Rectangle.Contains (rectangle : Rectangle) (point : ℚ × ℚ) : Prop :=
  (rectangle.left ≤ point.1 ∧ point.1 ≤ rectangle.right) ∧
    rectangle.bottom ≤ point.2 ∧ point.2 ≤ rectangle.top

def Cell.square (cell : Cell) (edge : ℚ) : Rectangle :=
  rectangle edge cell.y (cell.x - edge / 2) (cell.x + edge / 2)

/-- Two cells of one row with no cell between them. -/
structure Neighbours (cells : List Cell) (left right : Cell) : Prop where
  left_mem : left ∈ cells
  right_mem : right ∈ cells
  row : left.y = right.y
  next : ∀ other ∈ cells, other.y = left.y → other.x ≤ left.x ∨ right.x ≤ other.x

/-- Between the squares of two neighbours that are no more than the tolerance apart. -/
def InGap (cells : List Cell) (edge : ℚ) (point : ℚ × ℚ) : Prop :=
  ∃ left right, Neighbours cells left right ∧
    right.x - edge / 2 - (left.x + edge / 2) ≤ tolerance ∧
    Rectangle.Contains (rectangle edge left.y (left.x + edge / 2) (right.x - edge / 2)) point

variable {edge y left last : ℚ} {rest : List ℚ} {found : Rectangle}

theorem merge_row {right : ℚ} (member : found ∈ merge edge y left right rest) :
    found.bottom = y - edge / 2 ∧ found.top = y + edge / 2 := by
  induction rest generalizing left right with
  | nil =>
    rw [List.mem_singleton.mp member]
    exact ⟨rfl, rfl⟩
  | cons x rest ih =>
    unfold merge at member
    by_cases touches : |x - edge / 2 - right| ≤ tolerance
    · rw [if_pos touches] at member
      exact ih member
    · rw [if_neg touches] at member
      rcases List.mem_cons.mp member with rfl | later
      · exact ⟨rfl, rfl⟩
      · exact ih later

/-- The running rectangle comes out with its left border and with no less on the right, and the
square of every later cell lies in a rectangle. -/
theorem merge_covers (y : ℚ) (sorted : (last :: rest).Pairwise (· ≤ ·))
    (begins : left ≤ last - edge / 2) :
    (∃ found ∈ merge edge y left (last + edge / 2) rest,
      found.left = left ∧ last + edge / 2 ≤ found.right) ∧
    ∀ x ∈ rest, ∃ found ∈ merge edge y left (last + edge / 2) rest,
      found.left ≤ x - edge / 2 ∧ x + edge / 2 ≤ found.right := by
  induction rest generalizing left last with
  | nil =>
    constructor
    · exact ⟨_, List.mem_singleton_self _, rfl, le_refl _⟩
    · intro x member
      cases member
  | cons x rest ih =>
    obtain ⟨after, sorted⟩ := List.pairwise_cons.mp sorted
    have next : last ≤ x := after x List.mem_cons_self
    unfold merge
    by_cases touches : |x - edge / 2 - (last + edge / 2)| ≤ tolerance
    · rw [if_pos touches]
      have before : left ≤ x - edge / 2 := by linarith
      obtain ⟨⟨found, member, isLeft, reaches⟩, later⟩ := ih sorted before
      constructor
      · exact ⟨found, member, isLeft, by linarith⟩
      · intro other among
        rcases List.mem_cons.mp among with rfl | among
        · exact ⟨found, member, by linarith, reaches⟩
        · exact later other among
    · rw [if_neg touches]
      obtain ⟨⟨found, member, isLeft, reaches⟩, later⟩ :=
        ih sorted (le_refl (x - edge / 2))
      constructor
      · exact ⟨_, List.mem_cons_self, rfl, le_refl _⟩
      · intro other among
        rcases List.mem_cons.mp among with rfl | among
        · exact ⟨found, List.mem_cons_of_mem _ member, le_of_eq isLeft, reaches⟩
        · obtain ⟨found, member, covers⟩ := later other among
          exact ⟨found, List.mem_cons_of_mem _ member, covers⟩

/-- What a rectangle spans was in the running rectangle, is in the square of a later cell, or lies
between the squares of two cells that follow each other. -/
theorem merge_within {right p : ℚ} (member : found ∈ merge edge y left right rest)
    (isRight : right = last + edge / 2) (inside : found.left ≤ p ∧ p ≤ found.right) :
    (left ≤ p ∧ p ≤ right) ∨ (∃ x ∈ rest, x - edge / 2 ≤ p ∧ p ≤ x + edge / 2) ∨
      ∃ earlier first second later, last :: rest = earlier ++ first :: second :: later ∧
        second - edge / 2 - (first + edge / 2) ≤ tolerance ∧
        first + edge / 2 ≤ p ∧ p ≤ second - edge / 2 := by
  induction rest generalizing left right last with
  | nil =>
    rw [List.mem_singleton.mp member] at inside
    exact Or.inl inside
  | cons x rest ih =>
    have inSquare (low : x - edge / 2 ≤ p) (high : p ≤ x + edge / 2) :
        ∃ other ∈ x :: rest, other - edge / 2 ≤ p ∧ p ≤ other + edge / 2 :=
      ⟨x, List.mem_cons_self, low, high⟩
    unfold merge at member
    by_cases touches : |x - edge / 2 - right| ≤ tolerance
    · rw [if_pos touches] at member
      rcases ih member rfl with ⟨low, high⟩ | ⟨other, among, square⟩ | gap
      · by_cases earlier : p ≤ right
        · exact Or.inl ⟨low, earlier⟩
        · by_cases square : x - edge / 2 ≤ p
          · exact Or.inr (Or.inl (inSquare square high))
          · have apart := (abs_le.mp touches).2
            rw [isRight] at apart earlier
            exact Or.inr (Or.inr ⟨[], last, x, rest, rfl, apart, by linarith, by linarith⟩)
      · exact Or.inr (Or.inl ⟨other, List.mem_cons_of_mem _ among, square⟩)
      · obtain ⟨earlier, first, second, later, split, between⟩ := gap
        exact Or.inr (Or.inr ⟨last :: earlier, first, second, later, by rw [split]; rfl, between⟩)
    · rw [if_neg touches] at member
      rcases List.mem_cons.mp member with rfl | among
      · exact Or.inl inside
      · rcases ih among rfl with ⟨low, high⟩ | ⟨other, among, square⟩ | gap
        · exact Or.inr (Or.inl (inSquare low high))
        · exact Or.inr (Or.inl ⟨other, List.mem_cons_of_mem _ among, square⟩)
        · obtain ⟨earlier, first, second, later, split, between⟩ := gap
          exact Or.inr
            (Or.inr ⟨last :: earlier, first, second, later, by rw [split]; rfl, between⟩)

theorem merge_disjoint (positive : 0 < edge)
    (apart : (last :: rest).Pairwise fun first second => first + edge ≤ second)
    (begins : left ≤ last - edge / 2) :
    (∀ found ∈ merge edge y left (last + edge / 2) rest, left ≤ found.left) ∧
      (merge edge y left (last + edge / 2) rest).Pairwise fun first second =>
        first.right < second.left := by
  induction rest generalizing left last with
  | nil =>
    constructor
    · intro found member
      rw [List.mem_singleton.mp member]
      exact le_refl _
    · exact List.pairwise_singleton _ _
  | cons x rest ih =>
    obtain ⟨after, apart⟩ := List.pairwise_cons.mp apart
    have next : last + edge ≤ x := after x List.mem_cons_self
    unfold merge
    by_cases touches : |x - edge / 2 - (last + edge / 2)| ≤ tolerance
    · rw [if_pos touches]
      exact ih apart (by linarith)
    · rw [if_neg touches]
      obtain ⟨behind, pairs⟩ := ih apart (le_refl (x - edge / 2))
      have gap : 0 ≤ x - edge / 2 - (last + edge / 2) := by linarith
      rw [abs_of_nonneg gap, not_le] at touches
      have tolerant : 0 ≤ tolerance := by norm_num [tolerance]
      constructor
      · intro found member
        rcases List.mem_cons.mp member with rfl | later
        · exact le_refl _
        · have := behind found later
          linarith
      · refine List.pairwise_cons.mpr ⟨?_, pairs⟩
        intro found member
        have := behind found member
        change last + edge / 2 < found.left
        linarith

variable {cells others : List Cell} {xs : List ℚ}

def xsOf (cells : List Cell) (y : ℚ) : List ℚ :=
  (cells.filter (·.y = y)).map Cell.x

theorem mem_xsOf {x : ℚ} : x ∈ xsOf cells y ↔ { x := x, y := y } ∈ cells := by
  unfold xsOf
  simp only [List.mem_map, List.mem_filter, decide_eq_true_eq]
  constructor
  · rintro ⟨cell, ⟨member, rfl⟩, rfl⟩
    exact member
  · intro member
    exact ⟨_, ⟨member, rfl⟩, rfl⟩

theorem get?_rows (cells : List Cell) (y : ℚ) :
    (rows cells).get? y = if xsOf cells y = [] then none else some (xsOf cells y) := by
  induction cells using List.reverseRecOn with
  | nil => rfl
  | append_singleton earlier cell ih =>
    have later : rows (earlier ++ [cell]) = (rows earlier).set cell.y
        (((rows earlier).get? cell.y).getD [] ++ [cell.x]) := by
      unfold rows
      rw [List.foldl_append]
      rfl
    have values : xsOf (earlier ++ [cell]) y =
        xsOf earlier y ++ if cell.y = y then [cell.x] else [] := by
      unfold xsOf
      rw [List.filter_append, List.map_append]
      by_cases same : cell.y = y
      · simp [same]
      · simp [same]
    rw [later, OrderedMap.get?_set, values]
    by_cases same : y = cell.y
    · subst same
      rw [if_pos rfl, if_pos rfl, if_neg (by simp), ih]
      by_cases empty : xsOf earlier cell.y = []
      · rw [if_pos empty, empty]
        rfl
      · rw [if_neg empty]
        rfl
    · rw [if_neg same, if_neg (Ne.symm same), List.append_nil, ih]

theorem mem_keys_rows : y ∈ (rows cells).keys ↔ xsOf cells y ≠ [] := by
  rw [OrderedMap.mem_keys, get?_rows]
  by_cases empty : xsOf cells y = []
  · simp [empty]
  · simp [empty]

def sortedKeys (cells : List Cell) : List ℚ := (rows cells).keys.insertionSort (· ≤ ·)

theorem mem_sortedKeys : y ∈ sortedKeys cells ↔ xsOf cells y ≠ [] := by
  unfold sortedKeys
  rw [List.mem_insertionSort, mem_keys_rows]

theorem rectangles_eq (cells : List Cell) (edge : ℚ) :
    rectangles cells edge =
      (sortedKeys cells).flatMap fun y => rowRectangles edge y (xsOf cells y) := by
  have keys : sortedKeys cells =
      ((rows cells).entries.insertionSort fun first second => first.1 ≤ second.1).map Prod.fst :=
    (List.map_insertionSort _ (· ≤ ·) Prod.fst _ fun _ _ _ _ => Iff.rfl).symm
  unfold rectangles
  rw [keys, List.flatMap_map]
  apply List.flatMap_congr
  intro row member
  have read := OrderedMap.mem_entries.mp ((List.mem_insertionSort _).mp member)
  rw [get?_rows] at read
  by_cases empty : xsOf cells row.1 = []
  · rw [if_pos empty] at read
    cases read
  · rw [if_neg empty] at read
    rw [Option.some.inj read]

theorem mem_rectangles : found ∈ rectangles cells edge ↔
    ∃ y, xsOf cells y ≠ [] ∧ found ∈ rowRectangles edge y (xsOf cells y) := by
  rw [rectangles_eq]
  simp only [List.mem_flatMap, mem_sortedKeys]

theorem insertionSort_eq_of_perm {left right : List ℚ} (same : left.Perm right) :
    left.insertionSort (· ≤ ·) = right.insertionSort (· ≤ ·) :=
  List.Perm.eq_of_pairwise'
    (List.pairwise_insertionSort _ _) (List.pairwise_insertionSort _ _)
    ((List.perm_insertionSort _ _).trans (same.trans (List.perm_insertionSort _ _).symm))

theorem rectangles_perm (same : cells.Perm others) (edge : ℚ) :
    rectangles cells edge = rectangles others edge := by
  have rows_perm : ∀ y, (xsOf cells y).Perm (xsOf others y) := fun y =>
    (same.filter _).map _
  have keys : (rows cells).keys.Perm (rows others).keys := by
    apply (List.perm_ext_iff_of_nodup (rows cells).distinct (rows others).distinct).mpr
    intro y
    change y ∈ (rows cells).keys ↔ y ∈ (rows others).keys
    rw [mem_keys_rows, mem_keys_rows, ← List.length_pos_iff, (rows_perm y).length_eq,
      List.length_pos_iff]
  rw [rectangles_eq, rectangles_eq, sortedKeys, insertionSort_eq_of_perm keys]
  apply List.flatMap_congr
  intro y _
  unfold rowRectangles
  rw [insertionSort_eq_of_perm (rows_perm y)]

theorem rowRectangles_sorted (edge y : ℚ) (nonempty : xs ≠ []) :
    ∃ first rest, (first :: rest).Perm xs ∧ (first :: rest).Pairwise (· ≤ ·) ∧
      rowRectangles edge y xs = merge edge y (first - edge / 2) (first + edge / 2) rest := by
  have perm := List.perm_insertionSort (· ≤ ·) xs
  have sorted := List.pairwise_insertionSort (· ≤ ·) xs
  cases inOrder : xs.insertionSort (· ≤ ·) with
  | nil =>
    rw [inOrder] at perm
    exact absurd perm.symm.eq_nil nonempty
  | cons first rest =>
    rw [inOrder] at perm sorted
    refine ⟨first, rest, perm, sorted, ?_⟩
    unfold rowRectangles
    rw [inOrder]

theorem covers_cells {cell : Cell} (member : cell ∈ cells) :
    ∃ found ∈ rectangles cells edge,
      ∀ point, (cell.square edge).Contains point → found.Contains point := by
  have inRow : cell.x ∈ xsOf cells cell.y := mem_xsOf.mpr member
  have nonempty := List.ne_nil_of_mem inRow
  obtain ⟨first, rest, perm, sorted, isRow⟩ :=
    rowRectangles_sorted edge cell.y nonempty
  obtain ⟨⟨running, runs, isLeft, reaches⟩, later⟩ :=
    merge_covers cell.y sorted (le_refl (first - edge / 2))
  have spanned : ∃ found ∈ rowRectangles edge cell.y (xsOf cells cell.y),
      found.left ≤ cell.x - edge / 2 ∧ cell.x + edge / 2 ≤ found.right := by
    rw [isRow]
    rcases List.mem_cons.mp (perm.mem_iff.mpr inRow) with isFirst | among
    · rw [isFirst]
      exact ⟨running, runs, le_of_eq isLeft, reaches⟩
    · exact later cell.x among
  obtain ⟨found, among, low, high⟩ := spanned
  refine ⟨found, mem_rectangles.mpr ⟨cell.y, nonempty, among⟩, ?_⟩
  rw [isRow] at among
  obtain ⟨bottom, top⟩ := merge_row among
  rintro point ⟨⟨isLow, isHigh⟩, isAbove, isBelow⟩
  exact ⟨⟨low.trans isLow, isHigh.trans high⟩, bottom.trans_le isAbove, isBelow.trans_eq top.symm⟩

theorem within_cells (member : found ∈ rectangles cells edge) {point : ℚ × ℚ}
    (inside : found.Contains point) :
    (∃ cell ∈ cells, (cell.square edge).Contains point) ∨ InGap cells edge point := by
  obtain ⟨y, nonempty, among⟩ := mem_rectangles.mp member
  obtain ⟨first, rest, perm, sorted, isRow⟩ := rowRectangles_sorted edge y nonempty
  rw [isRow] at among
  obtain ⟨bottom, top⟩ := merge_row among
  have height : y - edge / 2 ≤ point.2 ∧ point.2 ≤ y + edge / 2 := by
    rw [← bottom, ← top]
    exact inside.2
  have isCell : ∀ x ∈ first :: rest, ({ x := x, y := y } : Cell) ∈ cells := fun x within =>
    mem_xsOf.mp (perm.mem_iff.mp within)
  rcases merge_within among rfl inside.1 with square | ⟨x, later, square⟩ | gap
  · exact Or.inl ⟨_, isCell first List.mem_cons_self, square, height⟩
  · exact Or.inl ⟨_, isCell x (List.mem_cons_of_mem _ later), square, height⟩
  · obtain ⟨earlier, left, right, later, split, near, between⟩ := gap
    rw [split] at isCell sorted
    refine Or.inr ⟨{ x := left, y := y }, { x := right, y := y }, ?_, near, between, height⟩
    constructor
    · exact isCell left (by simp)
    · exact isCell right (by simp)
    · rfl
    · rintro ⟨x, row⟩ other isRow
      cases isRow
      have within := perm.mem_iff.mpr (mem_xsOf.mpr other)
      rw [split] at within
      obtain ⟨-, sorted, before⟩ := List.pairwise_append.mp sorted
      obtain ⟨afterLeft, sorted⟩ := List.pairwise_cons.mp sorted
      rcases List.mem_append.mp within with early | late
      · exact Or.inl (before x early left List.mem_cons_self)
      · rcases List.mem_cons.mp late with rfl | late
        · exact Or.inl (le_refl _)
        · rcases List.mem_cons.mp late with rfl | late
          · exact Or.inr (le_refl _)
          · exact Or.inr ((List.pairwise_cons.mp sorted).1 x late)

/-- The centres within each row are at least an edge apart. -/
def Apart (cells : List Cell) (edge : ℚ) : Prop :=
  cells.Pairwise fun first second => first.y = second.y → edge ≤ |first.x - second.x|

theorem rowRectangles_disjoint (positive : 0 < edge) (apart : Apart cells edge)
    (nonempty : xsOf cells y ≠ []) :
    (rowRectangles edge y (xsOf cells y)).Pairwise fun first second =>
      first.right < second.left := by
  obtain ⟨first, rest, perm, sorted, isRow⟩ := rowRectangles_sorted edge y nonempty
  have distances : (xsOf cells y).Pairwise fun first second => edge ≤ |first - second| := by
    refine List.pairwise_map.mpr ?_
    refine (List.pairwise_filter.mpr ?_)
    refine apart.imp ?_
    intro first second far isFirst isSecond
    exact far ((of_decide_eq_true isFirst).trans (of_decide_eq_true isSecond).symm)
  have spread : (first :: rest).Pairwise fun first second => edge ≤ |first - second| :=
    (perm.pairwise_iff fun far => by rwa [abs_sub_comm]).mpr distances
  have steps : (first :: rest).Pairwise fun first second => first + edge ≤ second := by
    refine (sorted.and spread).imp ?_
    rintro first second ⟨order, far⟩
    rw [abs_sub_comm, abs_of_nonneg (sub_nonneg.mpr order)] at far
    linarith
  rw [isRow]
  exact (merge_disjoint positive steps (le_refl _)).2

/-- Rectangles of one row have no point in common. -/
def RowDisjoint (first second : Rectangle) : Prop :=
  first.bottom = second.bottom → ∀ point, ¬(first.Contains point ∧ second.Contains point)

theorem rectangles_disjoint (positive : 0 < edge) (apart : Apart cells edge) :
    (rectangles cells edge).Pairwise RowDisjoint := by
  rw [rectangles_eq, List.pairwise_flatMap]
  constructor
  · intro y member
    refine (rowRectangles_disjoint positive apart (mem_sortedKeys.mp member)).imp ?_
    rintro first second behind - point ⟨⟨⟨-, inFirst⟩, -⟩, ⟨inSecond, -⟩, -⟩
    exact absurd (inFirst.trans_lt behind) (not_lt.mpr inSecond)
  · have distinct : (sortedKeys cells).Nodup :=
      (List.perm_insertionSort _ _).nodup_iff.mpr (rows cells).distinct
    have bottoms : ∀ y ∈ sortedKeys cells, ∀ found ∈ rowRectangles edge y (xsOf cells y),
        found.bottom = y - edge / 2 := by
      intro y member found among
      obtain ⟨_, _, -, -, isRow⟩ :=
        rowRectangles_sorted edge y (mem_sortedKeys.mp member)
      rw [isRow] at among
      exact (merge_row among).1
    refine (List.Pairwise.and_mem.mp distinct).imp ?_
    rintro y z ⟨isKey, isOther, different⟩ first inFirst second inSecond sameRow
    rw [bottoms y isKey first inFirst, bottoms z isOther second inSecond] at sameRow
    exact absurd (sub_left_injective sameRow) different

/-- The rectangles hold every cell and little else: what is in no cell lies in a gap of no more
than the tolerance. The order of the cells does not matter, and cells that do not overlap give
rectangles of a row that do not meet. -/
theorem airportCoveredCells_correct {geometry : List (List (List (ℚ × ℚ)))}
    (returned : airportCoveredCells cells edge = some geometry) :
    geometry = (rectangles cells edge).map polygon ∧
    (∀ cell ∈ cells, ∃ found ∈ rectangles cells edge,
      ∀ point, (cell.square edge).Contains point → found.Contains point) ∧
    (∀ found ∈ rectangles cells edge, ∀ point, found.Contains point →
      (∃ cell ∈ cells, (cell.square edge).Contains point) ∨ InGap cells edge point) ∧
    (∀ others, cells.Perm others → airportCoveredCells others edge = some geometry) ∧
    (Apart cells edge → (rectangles cells edge).Pairwise RowDisjoint) := by
  have order : ∀ others, cells.Perm others →
      airportCoveredCells others edge = airportCoveredCells cells edge := by
    intro others same
    have empty : others = [] ↔ cells = [] := by
      rw [← List.length_eq_zero_iff, ← same.length_eq, List.length_eq_zero_iff]
    unfold airportCoveredCells
    simp only [rectangles_perm same, ← same.length_eq, empty]
  have result := returned
  unfold airportCoveredCells at result
  split at result
  · cases result
  · rename_i accepted
    split at result
    · cases result
    · have positive : 0 < edge := lt_of_not_ge fun low => accepted (Or.inl low)
      refine ⟨(Option.some.inj result).symm, fun _ member => covers_cells member,
        fun _ member _ inside => within_cells member inside, ?_, rectangles_disjoint positive⟩
      intro others same
      rw [order others same, returned]

/-- Two cells a tenth apart, a third one behind them and one in the next row. -/
def display : List Cell := [⟨3, 0⟩, ⟨0, 0⟩, ⟨1.1, 0⟩, ⟨0, 1⟩]

theorem airportCoveredCells_correct_display :
    (rectangles display 1).length = 3 ∧ (rectangles display 1).Pairwise RowDisjoint := by
  have returned : airportCoveredCells display 1 = some ((rectangles display 1).map polygon) := by
    decide +kernel
  have apart : Apart display 1 := by
    unfold Apart
    decide +kernel
  exact ⟨by decide +kernel, (airportCoveredCells_correct returned).2.2.2.2 apart⟩

end CoveredCells

end SdarRuntime
