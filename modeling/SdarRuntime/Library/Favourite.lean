import Mathlib.Data.Set.Finite.Lemmas
import Mathlib.Data.Set.Finite.List

/-!
Keeping a favourite while a list is read: the next item replaces the one held where it is
preferred to it. The preference need not be transitive, and then the outcome depends on the order.
-/

namespace Favourite

variable {α : Type} (prefer : α → α → Bool)

def keep (held item : α) : α :=
  if prefer item held then item else held

def after (held : α) (items : List α) : α :=
  items.foldl (keep prefer) held

def favourite : List α → Option α
  | [] => none
  | item :: rest => some (after prefer item rest)

variable {prefer} {held : α} {items : List α}

theorem after_append (held : α) (earlier later : List α) :
    after prefer held (earlier ++ later) = after prefer (after prefer held earlier) later :=
  List.foldl_append

variable {chosen : α}

theorem favourite_append {earlier : List α} (later : List α)
    (isChosen : favourite prefer earlier = some chosen) :
    favourite prefer (earlier ++ later) = some (after prefer chosen later) := by
  cases earlier with
  | nil => cases isChosen
  | cons item rest =>
    cases isChosen
    exact congrArg some (after_append item rest later)

theorem favourite_of_ne_nil (some_item : items ≠ []) :
    ∃ chosen, favourite prefer items = some chosen := by
  cases items with
  | nil => exact absurd rfl some_item
  | cons item rest => exact ⟨_, rfl⟩

/-- A property that every preferred item of the list takes over stays with the favourite. -/
theorem after_keeps {P : α → Prop} (holds : P held)
    (takesOver : ∀ item ∈ items, ∀ held, P held → prefer item held = true → P item) :
    P (after prefer held items) := by
  induction items generalizing held with
  | nil => exact holds
  | cons item rest ih =>
    apply ih
    · unfold keep
      by_cases preferred : prefer item held = true
      · rw [if_pos preferred]
        exact takesOver item List.mem_cons_self held holds preferred
      · rw [if_neg preferred]
        exact holds
    · intro other member
      exact takesOver other (List.mem_cons_of_mem item member)

theorem after_mem : after prefer held items = held ∨ after prefer held items ∈ items := by
  apply after_keeps (P := fun item => item = held ∨ item ∈ items)
  · exact Or.inl rfl
  · intro item member _ _ _
    exact Or.inr member

theorem favourite_mem (isChosen : favourite prefer items = some chosen) :
    chosen ∈ items := by
  cases items with
  | nil => cases isChosen
  | cons item rest =>
    cases isChosen
    have either : after prefer item rest = item ∨ after prefer item rest ∈ rest := after_mem
    rcases either with same | later
    · rw [same]
      exact List.mem_cons_self
    · exact List.mem_cons_of_mem item later

theorem after_unbeaten (unbeaten : ∀ item ∈ items, prefer item held = false) :
    after prefer held items = held := by
  induction items with
  | nil => rfl
  | cons item rest ih =>
    have stays : keep prefer held item = held := by
      unfold keep
      rw [unbeaten item List.mem_cons_self]
      rfl
    unfold after at ih ⊢
    rw [List.foldl_cons, stays]
    apply ih
    intro other member
    exact unbeaten other (List.mem_cons_of_mem item member)

variable {T : α → Prop} {among : List α}

/-- Items that beat every other one, and that only such items beat, hold the favourite once one of
them has been read. -/
theorem after_top (inAmong : held ∈ among) (sub : ∀ item ∈ items, item ∈ among)
    (reached : T held ∨ ∃ item ∈ items, T item)
    (beats : ∀ top ∈ among, T top → ∀ other ∈ among, ¬ T other → prefer top other = true)
    (closed : ∀ top ∈ among, T top → ∀ other ∈ among, prefer other top = true → T other) :
    T (after prefer held items) := by
  induction items generalizing held with
  | nil =>
    rcases reached with already | ⟨item, member, _⟩
    · exact already
    · cases member
  | cons item rest ih =>
    have itemAmong := sub item List.mem_cons_self
    have restAmong : ∀ other ∈ rest, other ∈ among := fun other member =>
      sub other (List.mem_cons_of_mem item member)
    change T (after prefer (keep prefer held item) rest)
    unfold keep
    by_cases preferred : prefer item held = true
    · rw [if_pos preferred]
      apply ih itemAmong restAmong
      rcases reached with already | ⟨top, member, isTop⟩
      · exact Or.inl (closed held inAmong already item itemAmong preferred)
      · rcases List.mem_cons.mp member with rfl | later
        · exact Or.inl isTop
        · exact Or.inr ⟨top, later, isTop⟩
    · rw [if_neg preferred]
      apply ih inAmong restAmong
      by_cases already : T held
      · exact Or.inl already
      · rcases reached with impossible | ⟨top, member, isTop⟩
        · exact absurd impossible already
        · rcases List.mem_cons.mp member with rfl | later
          · exact absurd (beats top itemAmong isTop held inAmong already) preferred
          · exact Or.inr ⟨top, later, isTop⟩

theorem favourite_top (isChosen : favourite prefer items = some chosen)
    (reached : ∃ item ∈ items, T item)
    (beats : ∀ top ∈ items, T top → ∀ other ∈ items, ¬ T other → prefer top other = true)
    (closed : ∀ top ∈ items, T top → ∀ other ∈ items, prefer other top = true → T other) :
    T chosen := by
  cases items with
  | nil => cases isChosen
  | cons item rest =>
    cases isChosen
    apply after_top List.mem_cons_self (fun _ => List.mem_cons_of_mem item) _ beats closed
    obtain ⟨top, member, isTop⟩ := reached
    rcases List.mem_cons.mp member with rfl | later
    · exact Or.inl isTop
    · exact Or.inr ⟨top, later, isTop⟩

theorem exists_most {P : α → Prop} {τ : Type} [LinearOrder τ] (measure : α → τ)
    (present : ∃ item ∈ items, P item) :
    ∃ most ∈ items, P most ∧ ∀ item ∈ items, P item → measure item ≤ measure most := by
  have finite : Set.Finite {item | item ∈ items ∧ P item} :=
    (List.finite_toSet items).subset fun _ member => member.1
  obtain ⟨item, member, kind⟩ := present
  obtain ⟨most, isMost, greatest⟩ :=
    Set.exists_max_image _ measure finite ⟨item, member, kind⟩
  exact ⟨most, isMost.1, isMost.2, fun other isItem isKind => greatest other ⟨isItem, isKind⟩⟩

/-! ### A preference whose middle part is not always there

Items of the better class come first. Two of one class are compared by a measure where both have
one, and by an amount where they do not or where the measures agree.
-/

section Mixed

variable {τ : Type} [LinearOrder τ] (better : α → Bool) (measure : α → Option τ) (amount : α → Nat)

def mixed (candidate held : α) : Bool :=
  if better candidate && !better held then true
  else if !better candidate && better held then false
  else
    match measure candidate, measure held with
    | some new, some old =>
      if new = old then decide (amount held < amount candidate) else decide (old < new)
    | _, _ => decide (amount held < amount candidate)

def InBest (items : List α) (item : α) : Prop :=
  item ∈ items ∧ (better item = true ∨ ∀ other ∈ items, better other = false)

/-- One kind of item wins whatever the order: one without a measure has more than all with one, or
one of the greatest measure has more than all without. -/
def Settled (items : List α) : Prop :=
  (∃ item, InBest better items item ∧ measure item = none ∧
      ∀ other, InBest better items other → measure other ≠ none → amount other < amount item) ∨
    ∃ item greatest, InBest better items item ∧ measure item = some greatest ∧
      (∀ other value, InBest better items other → measure other = some value →
        value ≤ greatest) ∧
      ∀ other, InBest better items other → measure other = none → amount other < amount item

variable {better measure amount}

variable {others : List α} {item : α}

theorem inBest_perm (same : items.Perm others) :
    InBest better items item ↔ InBest better others item := by
  simp only [InBest, same.mem_iff]

theorem exists_inBest (some_item : items ≠ []) : ∃ item, InBest better items item := by
  by_cases hasBetter : ∃ item ∈ items, better item = true
  · obtain ⟨item, member, isBetter⟩ := hasBetter
    exact ⟨item, member, Or.inl isBetter⟩
  · obtain ⟨item, member⟩ := List.exists_mem_of_ne_nil items some_item
    refine ⟨item, member, Or.inr ?_⟩
    intro other inItems
    cases isBetter : better other with
    | false => rfl
    | true => exact absurd ⟨other, inItems, isBetter⟩ hasBetter

theorem class_eq {item other : α} (first : InBest better items item)
    (second : InBest better items other) : better item = better other := by
  rcases first.2 with isBetter | none
  · rcases second.2 with alsoBetter | none
    · rw [isBetter, alsoBetter]
    · rw [none item first.1, none other second.1]
  · rw [none item first.1, none other second.1]

variable {candidate held : α}

theorem mixed_of_class_eq (same : better candidate = better held) :
    mixed better measure amount candidate held =
      match measure candidate, measure held with
      | some new, some old =>
        if new = old then decide (amount held < amount candidate) else decide (old < new)
      | _, _ => decide (amount held < amount candidate) := by
  unfold mixed
  rw [same]
  cases better held with
  | false => rfl
  | true => rfl

theorem mixed_outside {top other : α} (inBest : InBest better items top) (member : other ∈ items)
    (outside : ¬ InBest better items other) :
    mixed better measure amount top other = true ∧
      mixed better measure amount other top = false := by
  have notBetter : better other = false := by
    cases isBetter : better other with
    | false => rfl
    | true => exact absurd ⟨member, Or.inl isBetter⟩ outside
  have topBetter : better top = true := by
    rcases inBest.2 with isBetter | none
    · exact isBetter
    · exact absurd ⟨member, Or.inr none⟩ outside
  unfold mixed
  rw [notBetter, topBetter]
  exact ⟨rfl, rfl⟩

theorem mixed_without (same : better candidate = better held)
    (without : measure candidate = none ∨ measure held = none) :
    mixed better measure amount candidate held = decide (amount held < amount candidate) := by
  rw [mixed_of_class_eq same]
  rcases without with isNone | isNone
  · rw [isNone]
  · rw [isNone]
    cases measure candidate with
    | none => rfl
    | some _ => rfl

theorem mixed_with (same : better candidate = better held) {new old : τ}
    (isNew : measure candidate = some new) (isOld : measure held = some old) :
    mixed better measure amount candidate held =
      if new = old then decide (amount held < amount candidate) else decide (old < new) := by
  rw [mixed_of_class_eq same, isNew, isOld]

theorem favourite_without (isChosen : favourite (mixed better measure amount) items = some chosen)
    (inBest : InBest better items item) (isNone : measure item = none)
    (most : ∀ other, InBest better items other → measure other ≠ none →
      amount other < amount item) :
    InBest better items chosen ∧ measure chosen = none ∧
      ∀ other ∈ items, mixed better measure amount other chosen = false := by
  obtain ⟨top, topMember, ⟨topBest, topNone⟩, greatest⟩ :=
    exists_most (P := fun item => InBest better items item ∧ measure item = none) amount
      ⟨item, inBest.1, inBest, isNone⟩
  -- What an item of the same amount and kind does against another item.
  have against : ∀ winner, InBest better items winner → measure winner = none →
      amount winner = amount top → ∀ other ∈ items, InBest better items other →
        amount other < amount winner ∨
          (measure other = none ∧ amount other = amount winner) := by
    intro winner _ _ sameAmount other member otherBest
    have itemLe := greatest item inBest.1 ⟨inBest, isNone⟩
    by_cases otherNone : measure other = none
    · have otherLe := greatest other member ⟨otherBest, otherNone⟩
      by_cases same : amount other = amount winner
      · exact Or.inr ⟨otherNone, same⟩
      · left
        omega
    · left
      have less := most other otherBest otherNone
      omega
  have isTop : InBest better items chosen ∧ measure chosen = none ∧
      amount chosen = amount top := by
    apply favourite_top (T := fun item => InBest better items item ∧ measure item = none ∧
      amount item = amount top) isChosen ⟨top, topMember, topBest, topNone, rfl⟩
    · rintro winner _ ⟨winnerBest, winnerNone, sameAmount⟩ other member notTop
      by_cases otherBest : InBest better items other
      · rw [mixed_without (class_eq winnerBest otherBest) (Or.inl winnerNone)]
        rcases against winner winnerBest winnerNone sameAmount other member otherBest with
          less | ⟨otherNone, same⟩
        · exact decide_eq_true less
        · exact absurd ⟨otherBest, otherNone, same.trans sameAmount⟩ notTop
      · exact (mixed_outside winnerBest member otherBest).1
    · rintro winner _ ⟨winnerBest, winnerNone, sameAmount⟩ other member preferred
      by_cases otherBest : InBest better items other
      · rw [mixed_without (class_eq otherBest winnerBest) (Or.inr winnerNone),
          decide_eq_true_eq] at preferred
        rcases against winner winnerBest winnerNone sameAmount other member otherBest with
          less | ⟨_, same⟩
        · omega
        · omega
      · rw [(mixed_outside winnerBest member otherBest).2] at preferred
        cases preferred
  obtain ⟨chosenBest, chosenNone, sameAmount⟩ := isTop
  refine ⟨chosenBest, chosenNone, ?_⟩
  intro other member
  by_cases otherBest : InBest better items other
  · rw [mixed_without (class_eq otherBest chosenBest) (Or.inr chosenNone), decide_eq_false_iff_not]
    rcases against chosen chosenBest chosenNone sameAmount other member otherBest with
      less | ⟨_, same⟩
    · omega
    · omega
  · exact (mixed_outside chosenBest member otherBest).2

variable {greatest : τ}

theorem favourite_greatest (isChosen : favourite (mixed better measure amount) items = some chosen)
    (inBest : InBest better items item) (isGreatest : measure item = some greatest)
    (bound : ∀ other value, InBest better items other → measure other = some value →
      value ≤ greatest) (most : ∀ other, InBest better items other → measure other = none →
      amount other < amount item) :
    InBest better items chosen ∧ measure chosen = some greatest ∧
      ∀ other ∈ items, mixed better measure amount other chosen = false := by
  obtain ⟨top, topMember, ⟨topBest, topGreatest⟩, richest⟩ :=
    exists_most (P := fun item => InBest better items item ∧ measure item = some greatest) amount
      ⟨item, inBest.1, inBest, isGreatest⟩
  have itemLe := richest item inBest.1 ⟨inBest, isGreatest⟩
  have loses : ∀ winner, InBest better items winner → measure winner = some greatest →
      amount winner = amount top → ∀ other ∈ items, InBest better items other →
        mixed better measure amount other winner = false ∧
          (mixed better measure amount winner other = true ∨
            measure other = some greatest ∧ amount other = amount top) := by
    intro winner winnerBest winnerGreatest sameAmount other member otherBest
    have forth := class_eq winnerBest otherBest
    cases value : measure other with
    | none =>
      have less := most other otherBest value
      rw [mixed_without forth (Or.inr value), mixed_without forth.symm (Or.inl value)]
      constructor
      · exact decide_eq_false (by omega)
      · exact Or.inl (decide_eq_true (by omega))
    | some number =>
      have below := bound other number otherBest value
      rw [mixed_with forth winnerGreatest value, mixed_with forth.symm value winnerGreatest]
      by_cases same : number = greatest
      · have otherLe := richest other member ⟨otherBest, by rw [value, same]⟩
        rw [if_pos same, if_pos same.symm]
        constructor
        · exact decide_eq_false (by omega)
        · by_cases sameRichness : amount other = amount top
          · exact Or.inr ⟨congrArg some same, sameRichness⟩
          · exact Or.inl (decide_eq_true (by omega))
      · have less := lt_of_le_of_ne below same
        rw [if_neg same, if_neg (Ne.symm same)]
        constructor
        · exact decide_eq_false (not_lt.mpr below)
        · exact Or.inl (decide_eq_true less)
  have isTop : InBest better items chosen ∧ measure chosen = some greatest ∧
      amount chosen = amount top := by
    apply favourite_top (T := fun item => InBest better items item ∧
      measure item = some greatest ∧ amount item = amount top) isChosen
      ⟨top, topMember, topBest, topGreatest, rfl⟩
    · rintro winner _ ⟨winnerBest, winnerGreatest, sameAmount⟩ other member notTop
      by_cases otherBest : InBest better items other
      · rcases (loses winner winnerBest winnerGreatest sameAmount other member otherBest).2 with
          beaten | ⟨otherGreatest, same⟩
        · exact beaten
        · exact absurd ⟨otherBest, otherGreatest, same⟩ notTop
      · exact (mixed_outside winnerBest member otherBest).1
    · rintro winner _ ⟨winnerBest, winnerGreatest, sameAmount⟩ other member preferred
      by_cases otherBest : InBest better items other
      · rw [(loses winner winnerBest winnerGreatest sameAmount other member otherBest).1]
          at preferred
        cases preferred
      · rw [(mixed_outside winnerBest member otherBest).2] at preferred
        cases preferred
  obtain ⟨chosenBest, chosenGreatest, sameAmount⟩ := isTop
  refine ⟨chosenBest, chosenGreatest, ?_⟩
  intro other member
  by_cases otherBest : InBest better items other
  · exact (loses chosen chosenBest chosenGreatest sameAmount other member otherBest).1
  · exact (mixed_outside chosenBest member otherBest).2

theorem favourite_settled (isChosen : favourite (mixed better measure amount) items = some chosen)
    (settled : Settled better measure amount items) :
    InBest better items chosen ∧
      ∀ other ∈ items, mixed better measure amount other chosen = false := by
  rcases settled with ⟨item, inBest, isNone, most⟩ | ⟨item, greatest, inBest, isGreatest, bound, most⟩
  · obtain ⟨chosenBest, _, unbeaten⟩ := favourite_without isChosen inBest isNone most
    exact ⟨chosenBest, unbeaten⟩
  · obtain ⟨chosenBest, _, unbeaten⟩ :=
      favourite_greatest isChosen inBest isGreatest bound most
    exact ⟨chosenBest, unbeaten⟩

theorem favourite_perm (same : items.Perm others) (settled : Settled better measure amount items)
    {chosen chosen' : α} (isChosen : favourite (mixed better measure amount) items = some chosen)
    (isChosen' : favourite (mixed better measure amount) others = some chosen') :
    better chosen = better chosen' ∧ measure chosen = measure chosen' := by
  rcases settled with ⟨item, inBest, isNone, most⟩ | ⟨item, greatest, inBest, isGreatest, bound, most⟩
  · obtain ⟨chosenBest, chosenNone, _⟩ := favourite_without isChosen inBest isNone most
    simp only [inBest_perm same] at inBest most chosenBest
    obtain ⟨chosenBest', chosenNone', _⟩ := favourite_without isChosen' inBest isNone most
    exact ⟨class_eq chosenBest chosenBest', chosenNone.trans chosenNone'.symm⟩
  · obtain ⟨chosenBest, chosenGreatest, _⟩ :=
      favourite_greatest isChosen inBest isGreatest bound most
    simp only [inBest_perm same] at inBest bound most chosenBest
    obtain ⟨chosenBest', chosenGreatest', _⟩ :=
      favourite_greatest isChosen' inBest isGreatest bound most
    exact ⟨class_eq chosenBest chosenBest', chosenGreatest.trans chosenGreatest'.symm⟩

theorem after_greatest (inAmong : held ∈ among) (sub : ∀ item ∈ items, item ∈ among)
    (alike : ∀ item ∈ among, ∀ other ∈ among, better item = better other)
    (measured : ∀ item ∈ among, ∃ value, measure item = some value ∧ value ≤ greatest)
    (reached : measure held = some greatest ∨ ∃ item ∈ items, measure item = some greatest) :
    measure (after (mixed better measure amount) held items) = some greatest := by
  apply after_top (T := fun item => measure item = some greatest) inAmong sub reached
  · intro top topMember isTop other member notTop
    obtain ⟨value, isValue, below⟩ := measured other member
    have different : value ≠ greatest := fun same => notTop (isValue.trans (congrArg some same))
    rw [mixed_with (alike top topMember other member) isTop isValue, if_neg (Ne.symm different)]
    exact decide_eq_true (lt_of_le_of_ne below different)
  · intro top topMember isTop other member preferred
    obtain ⟨value, isValue, below⟩ := measured other member
    rw [mixed_with (alike other member top topMember) isValue isTop] at preferred
    by_cases same : value = greatest
    · rw [isValue, same]
    · rw [if_neg same, decide_eq_true_eq] at preferred
      exact absurd preferred (not_lt.mpr below)

theorem decide_split (p : α → Prop) [DecidablePred p] (items : List α) :
    (items.filter p ++ items.filter fun item => ¬ p item).Perm items := by
  have parts := List.filter_append_perm (fun item => decide (p item)) items
  simpa only [decide_not] using parts

theorem favourite_append_outside {best rest : List α} (same : (best ++ rest).Perm items)
    (isBest : ∀ item ∈ best, InBest better items item)
    (outside : ∀ item ∈ rest, ¬ InBest better items item)
    (isChosen : favourite (mixed better measure amount) best = some chosen) :
    favourite (mixed better measure amount) (best ++ rest) = some chosen := by
  rw [favourite_append rest isChosen, after_unbeaten]
  intro item member
  have inItems := same.mem_iff.mp (List.mem_append_right best member)
  exact (mixed_outside (isBest chosen (favourite_mem isChosen)) inItems (outside item member)).2

variable {bare timed : List α}

/-- A measured item before all those without keeps them out, and the greatest follows. -/
theorem exists_order_greatest
    (alike : ∀ item ∈ bare ++ timed, ∀ other ∈ bare ++ timed, better item = better other)
    (without : ∀ item ∈ bare, measure item = none)
    (measured : ∀ item ∈ timed, ∃ value, measure item = some value ∧ value ≤ greatest)
    (present : ∃ item ∈ timed, measure item = some greatest) {opening : α}
    (inTimed : opening ∈ timed) (enough : ∀ item ∈ bare, amount item ≤ amount opening) :
    ∃ order chosen, order.Perm (bare ++ timed) ∧
      favourite (mixed better measure amount) order = some chosen ∧
      measure chosen = some greatest := by
  obtain ⟨front, back, rfl⟩ := List.append_of_mem inTimed
  have arranged : (opening :: (bare ++ (front ++ back))).Perm
      (bare ++ (front ++ opening :: back)) := by
    have moved : (opening :: (front ++ back)).Perm (front ++ opening :: back) :=
      List.perm_middle.symm
    exact List.perm_middle.symm.trans (moved.append_left bare)
  refine ⟨_, _, arranged, rfl, ?_⟩
  have keepsOut : after (mixed better measure amount) opening bare = opening := by
    apply after_unbeaten
    intro item member
    have same := alike item (List.mem_append_left _ member) opening
      (List.mem_append_right bare inTimed)
    rw [mixed_without same (Or.inl (without item member)), decide_eq_false_iff_not]
    exact Nat.not_lt.mpr (enough item member)
  rw [after_append, keepsOut]
  have sub : ∀ item ∈ front ++ back, item ∈ front ++ opening :: back := by
    intro item member
    rcases List.mem_append.mp member with inFront | inBack
    · exact List.mem_append_left _ inFront
    · exact List.mem_append_right front (List.mem_cons_of_mem opening inBack)
  apply after_greatest inTimed sub _ measured
  · obtain ⟨item, member, isGreatest⟩ := present
    rcases List.mem_append.mp member with inFront | inBack
    · exact Or.inr ⟨item, List.mem_append_left back inFront, isGreatest⟩
    · rcases List.mem_cons.mp inBack with rfl | later
      · exact Or.inl isGreatest
      · exact Or.inr ⟨item, List.mem_append_right front later, isGreatest⟩
  · intro item member other otherMember
    exact alike item (List.mem_append_right bare member) other
      (List.mem_append_right bare otherMember)

theorem exists_order_not_greatest
    (alike : ∀ item ∈ bare ++ timed, ∀ other ∈ bare ++ timed, better item = better other)
    (without : ∀ item ∈ bare, measure item = none) {most : α} (isBare : most ∈ bare)
    (isMost : ∀ item ∈ bare, amount item ≤ amount most)
    (poor : ∀ item ∈ timed, measure item = some greatest → amount item ≤ amount most) :
    ∃ order chosen, order.Perm (bare ++ timed) ∧
      favourite (mixed better measure amount) order = some chosen ∧
      measure chosen ≠ some greatest := by
  have split := decide_split (fun item => measure item = some greatest) timed
  generalize isTop : (timed.filter fun item => measure item = some greatest) = top at split
  generalize isRest : (timed.filter fun item => ¬ measure item = some greatest) = rest at split
  obtain ⟨first, isFirst⟩ : ∃ first, favourite (mixed better measure amount) bare = some first :=
    favourite_of_ne_nil (List.ne_nil_of_mem isBare)
  have firstBare := favourite_mem isFirst
  have firstMost : amount first = amount most := by
    apply favourite_top (T := fun item => amount item = amount most) isFirst ⟨most, isBare, rfl⟩
    · intro winner winnerBare isWinner other otherBare notWinner
      have bound := isMost other otherBare
      rw [mixed_without (alike winner (List.mem_append_left timed winnerBare) other
        (List.mem_append_left timed otherBare)) (Or.inl (without winner winnerBare)),
        decide_eq_true_eq]
      omega
    · intro winner winnerBare isWinner other otherBare preferred
      have bound := isMost other otherBare
      rw [mixed_without (alike other (List.mem_append_left timed otherBare) winner
        (List.mem_append_left timed winnerBare)) (Or.inl (without other otherBare)),
        decide_eq_true_eq] at preferred
      omega
  have firstNone := without first firstBare
  refine ⟨bare ++ (top ++ rest), _, split.append_left bare, favourite_append _ isFirst, ?_⟩
  have keepsOut : after (mixed better measure amount) first top = first := by
    apply after_unbeaten
    intro item member
    rw [← isTop, List.mem_filter, decide_eq_true_eq] at member
    have bound := poor item member.1 member.2
    rw [mixed_without (alike item (List.mem_append_right bare member.1) first
      (List.mem_append_left timed firstBare)) (Or.inr firstNone), decide_eq_false_iff_not]
    omega
  rw [after_append, keepsOut]
  apply after_keeps (P := fun item => measure item ≠ some greatest)
  · rw [firstNone]
    exact nofun
  · intro item member _ _ _
    rw [← isRest, List.mem_filter, decide_eq_true_eq] at member
    exact member.2

open Classical in
theorem exists_orders_of_not_settled (some_item : items ≠ [])
    (unsettled : ¬ Settled better measure amount items) :
    ∃ first second chosen chosen', first.Perm items ∧ second.Perm items ∧
      favourite (mixed better measure amount) first = some chosen ∧
      favourite (mixed better measure amount) second = some chosen' ∧
      measure chosen ≠ measure chosen' := by
  unfold Settled at unsettled
  rw [not_or] at unsettled
  obtain ⟨noneWins, greatestWins⟩ := unsettled
  -- The best class, in which some items have a measure and some have none.
  have split := decide_split (InBest better items) items
  generalize isBestList : (items.filter fun item => InBest better items item) = best at split
  generalize isRest : (items.filter fun item => ¬ InBest better items item) = rest at split
  have mem_best : ∀ item, item ∈ best ↔ InBest better items item := by
    intro item
    rw [← isBestList, List.mem_filter, decide_eq_true_eq]
    exact ⟨fun both => both.2, fun inBest => ⟨inBest.1, inBest⟩⟩
  have outside : ∀ item ∈ rest, ¬ InBest better items item := by
    intro item member
    rw [← isRest, List.mem_filter, decide_eq_true_eq] at member
    exact member.2
  have parts := decide_split (fun item => measure item = none) best
  generalize isBare : (best.filter fun item => measure item = none) = bare at parts
  generalize isTimed : (best.filter fun item => ¬ measure item = none) = timed at parts
  have mem_bare : ∀ item, item ∈ bare ↔ InBest better items item ∧ measure item = none := by
    intro item
    rw [← isBare, List.mem_filter, decide_eq_true_eq, mem_best]
  have mem_timed : ∀ item, item ∈ timed ↔ InBest better items item ∧ measure item ≠ none := by
    intro item
    rw [← isTimed, List.mem_filter, decide_eq_true_eq, mem_best]
  have mem_parts : ∀ item ∈ bare ++ timed, InBest better items item := fun item member =>
    (mem_best item).mp (parts.mem_iff.mp member)
  have alike : ∀ item ∈ bare ++ timed, ∀ other ∈ bare ++ timed, better item = better other :=
    fun item member other otherMember => class_eq (mem_parts item member) (mem_parts other otherMember)
  have without : ∀ item ∈ bare, measure item = none := fun item member =>
    ((mem_bare item).mp member).2
  have timedItem : ∃ item ∈ timed, True := by
    obtain ⟨item, inBest⟩ : ∃ item, InBest better items item := exists_inBest some_item
    by_contra noTimed
    have untimed : ∀ other, InBest better items other → measure other = none := by
      intro other otherBest
      by_contra hasMeasure
      exact noTimed ⟨other, (mem_timed other).mpr ⟨otherBest, hasMeasure⟩, trivial⟩
    apply noneWins
    exact ⟨item, inBest, untimed item inBest, fun other otherBest hasMeasure =>
      absurd (untimed other otherBest) hasMeasure⟩
  obtain ⟨latest, latestTimed, _, isLatest⟩ :=
    exists_most (τ := WithBot τ) (P := fun _ => True) (fun item => measure item) timedItem
  obtain ⟨latestBest, hasMeasure⟩ := (mem_timed latest).mp latestTimed
  obtain ⟨greatest, isGreatest⟩ := Option.ne_none_iff_exists'.mp hasMeasure
  have measured : ∀ item ∈ timed, ∃ value, measure item = some value ∧ value ≤ greatest := by
    intro item member
    obtain ⟨value, isValue⟩ := Option.ne_none_iff_exists'.mp ((mem_timed item).mp member).2
    have below := isLatest item member trivial
    rw [isValue, isGreatest] at below
    exact ⟨value, isValue, WithBot.coe_le_coe.mp below⟩
  have bound : ∀ other value, InBest better items other → measure other = some value →
      value ≤ greatest := by
    intro other value otherBest isValue
    have hasValue : measure other ≠ none := by
      rw [isValue]
      exact nofun
    obtain ⟨number, isNumber, below⟩ := measured other ((mem_timed other).mpr ⟨otherBest, hasValue⟩)
    rw [isValue] at isNumber
    cases isNumber
    exact below
  -- Every item of the greatest measure has no more than some item without.
  have poor : ∀ item, InBest better items item → measure item = some greatest →
      ∃ other ∈ bare, amount item ≤ amount other := by
    intro item inBest itemGreatest
    by_contra rich
    apply greatestWins
    refine ⟨item, greatest, inBest, itemGreatest, bound, ?_⟩
    intro other otherBest isNone
    by_contra notLess
    exact rich ⟨other, (mem_bare other).mpr ⟨otherBest, isNone⟩, Nat.not_lt.mp notLess⟩
  obtain ⟨someBare, someIsBare, _⟩ := poor latest latestBest isGreatest
  obtain ⟨most, mostBare, _, isMost⟩ :=
    exists_most (P := fun _ => True) amount ⟨someBare, someIsBare, trivial⟩
  have opening : ∃ item ∈ timed, amount most ≤ amount item := by
    by_contra allLess
    apply noneWins
    refine ⟨most, ((mem_bare most).mp mostBare).1, without most mostBare, ?_⟩
    intro other otherBest hasValue
    by_contra notLess
    exact allLess ⟨other, (mem_timed other).mpr ⟨otherBest, hasValue⟩, Nat.not_lt.mp notLess⟩
  obtain ⟨item, itemTimed, enough⟩ := opening
  have bareLe : ∀ other ∈ bare, amount other ≤ amount item := by
    intro other member
    exact Nat.le_trans (isMost other member trivial) enough
  have topLe : ∀ other ∈ timed, measure other = some greatest → amount other ≤ amount most := by
    intro other member otherGreatest
    obtain ⟨richer, richerBare, less⟩ := poor other ((mem_timed other).mp member).1 otherGreatest
    exact Nat.le_trans less (isMost richer richerBare trivial)
  obtain ⟨first, chosen, isFirst, isChosen, chosenGreatest⟩ :=
    exists_order_greatest alike without measured ⟨latest, latestTimed, isGreatest⟩ itemTimed bareLe
  obtain ⟨second, chosen', isSecond, isChosen', notGreatest⟩ :=
    exists_order_not_greatest alike without mostBare
      (fun other member => isMost other member trivial) topLe
  have whole : ∀ order : List α, order.Perm (bare ++ timed) → (order ++ rest).Perm items :=
    fun order same => ((same.trans parts).append_right rest).trans split
  have ofBest : ∀ order : List α, order.Perm (bare ++ timed) → ∀ item ∈ order,
      InBest better items item := fun order same item member =>
    mem_parts item (same.mem_iff.mp member)
  refine ⟨first ++ rest, second ++ rest, chosen, chosen', whole first isFirst,
    whole second isSecond, ?_, ?_, ?_⟩
  · exact favourite_append_outside (whole first isFirst) (ofBest first isFirst) outside isChosen
  · exact favourite_append_outside (whole second isSecond) (ofBest second isSecond) outside
      isChosen'
  · rw [chosenGreatest]
    exact Ne.symm notGreatest

end Mixed

end Favourite
