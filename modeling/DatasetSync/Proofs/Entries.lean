import Mathlib.Algebra.Ring.Nat

/-!
# Replacing an entry

The channels of a link, the values of an image and the seats of a hub are lists of which one entry
at a time is replaced.
-/

namespace DatasetSync

/-- An entry of a list is replaced, seen from every place. -/
theorem getElem?_set_eq_map {α : Type} {items : List α} {target : Nat} {item : α}
    (found : items[target]? = some item) (change : α → α) (place : Nat) :
    (items.set target (change item))[place]? =
      items[place]?.map fun other => if target = place then change other else other := by
  by_cases same : target = place
  · subst same
    rw [List.getElem?_set_self (List.getElem?_eq_some_iff.mp found).1, found, Option.map_some,
      if_pos rfl]
  · rw [List.getElem?_set_ne same]
    cases items[place]? with
    | none => rfl
    | some other => rw [Option.map_some, if_neg same]

theorem set_eq_self {α : Type} {items : List α} {place : Nat} {item : α}
    (found : items[place]? = some item) : items.set place item = items := by
  obtain ⟨inside, rfl⟩ := List.getElem?_eq_some_iff.mp found
  exact List.set_getElem_self inside

/-- The sum over a list in which one entry is replaced. -/
theorem sum_map_set {α : Type} {items : List α} {place : Nat} {item : α}
    (found : items[place]? = some item) (new : α) (weigh : α → Nat) :
    ((items.set place new).map weigh).sum + weigh item = (items.map weigh).sum + weigh new := by
  induction items generalizing place with
  | nil => cases found
  | cons first rest ih =>
      cases place with
      | zero =>
          cases found
          simp only [List.set_cons_zero, List.map_cons, List.sum_cons]
          omega
      | succ place =>
          have later := ih found
          simp only [List.set_cons_succ, List.map_cons, List.sum_cons]
          omega

end DatasetSync
