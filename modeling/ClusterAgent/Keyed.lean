/-
Lists of keys with values, in the order in which the keys first came.

* `upsert` — change the value of a key, which goes to the end if it is new;
* `lookup` — the value of a key;
* `lookup_upsert_self`, `lookup_upsert_of_ne` — a change shows at its own key and
  nowhere else.
-/
namespace ClusterAgent.Keyed

variable {κ β : Type} [DecidableEq κ]

/-- Change the value of a key, which goes to the end if it is new. -/
def upsert (key : κ) (change : Option β → β) : List (κ × β) → List (κ × β)
  | [] => [(key, change none)]
  | (k, v) :: rest =>
    if k = key then (k, change (some v)) :: rest else (k, v) :: upsert key change rest

/-- The value of a key. -/
def lookup (key : κ) : List (κ × β) → Option β
  | [] => none
  | (k, v) :: rest => if k = key then some v else lookup key rest

theorem lookup_upsert_self (key : κ) (change : Option β → β) (l : List (κ × β)) :
    lookup key (upsert key change l) = some (change (lookup key l)) := by
  induction l with
  | nil => simp [upsert, lookup]
  | cons kv rest ih =>
    by_cases h : kv.1 = key
    · simp [upsert, lookup, h]
    · simp [upsert, lookup, h, ih]

theorem lookup_upsert_of_ne {key other : κ} (ne : other ≠ key) (change : Option β → β)
    (l : List (κ × β)) : lookup other (upsert key change l) = lookup other l := by
  induction l with
  | nil => simp [upsert, lookup, ne.symm]
  | cons kv rest ih =>
    by_cases h : kv.1 = key
    · simp [upsert, lookup, h, ne.symm]
    · by_cases h' : kv.1 = other
      · simp [upsert, lookup, h']
        split <;> simp_all [lookup]
      · simp [upsert, lookup, h, h', ih]

end ClusterAgent.Keyed
