/-!
# Totals

A quantity of the members of a list added up. The total of an appended list is the sum of the totals,
and it does not depend on how the list is presented.
-/

namespace LiveLint

variable {α β : Type}

/-- The quantity of all members together. -/
def total (quantity : α → Nat) : List α → Nat
  | [] => 0
  | x :: rest => quantity x + total quantity rest

theorem total_cons (quantity : α → Nat) (x : α) (rest : List α) :
    total quantity (x :: rest) = quantity x + total quantity rest := rfl

theorem total_append (quantity : α → Nat) (xs ys : List α) :
    total quantity (xs ++ ys) = total quantity xs + total quantity ys := by
  induction xs with
  | nil => simp [total]
  | cons x rest ih => rw [List.cons_append, total_cons, total_cons, ih, Nat.add_assoc]

theorem total_map (quantity : β → Nat) (f : α → β) (xs : List α) :
    total quantity (xs.map f) = total (fun x => quantity (f x)) xs := by
  induction xs with
  | nil => rfl
  | cons x rest ih => rw [List.map_cons, total_cons, total_cons, ih]

theorem total_congr {quantity quantity' : α → Nat} {xs : List α}
    (same : ∀ x ∈ xs, quantity x = quantity' x) : total quantity xs = total quantity' xs := by
  induction xs with
  | nil => rfl
  | cons x rest ih =>
    rw [total_cons, total_cons, same x List.mem_cons_self,
      ih fun y member => same y (List.mem_cons_of_mem x member)]

theorem total_attach (quantity : α → Nat) (xs : List α) :
    total (fun x => quantity x.1) xs.attach = total quantity xs := by
  rw [← total_map quantity Subtype.val, List.attach_map_subtype_val]

end LiveLint
