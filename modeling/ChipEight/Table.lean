/-
Ordered tables: lists of keys with values, each key once.

A key that is put in again keeps its place and takes the new value.  The view of a table is
`get?`, and `get?_put` says what putting does to it.
-/

namespace ChipEight.Table

variable {κ ν : Type} [DecidableEq κ]

/-- The value of a key. -/
def get? (key : κ) : List (κ × ν) → Option ν
  | [] => none
  | e :: rest => if e.1 = key then some e.2 else get? key rest

/-- The table with a value for a key, at the end if the key is new. -/
def put (key : κ) (value : ν) : List (κ × ν) → List (κ × ν)
  | [] => [(key, value)]
  | e :: rest => if e.1 = key then (key, value) :: rest else e :: put key value rest

/-- The table of a list of pairs; of two pairs with one key the later one counts. -/
def ofPairs (pairs : List (κ × ν)) : List (κ × ν) :=
  pairs.foldl (fun table e => put e.1 e.2 table) []

@[simp] theorem get?_put (key k : κ) (value : ν) (t : List (κ × ν)) :
    get? k (put key value t) = if key = k then some value else get? k t := by
  induction t with
  | nil => simp [put, get?]
  | cons e rest ih =>
    unfold put
    by_cases he : e.1 = key
    · by_cases hk : key = k <;> simp [get?, he, hk]
    · rw [if_neg he, get?, get?, ih]
      by_cases hk : e.1 = k
      · have : ¬ key = k := fun h => he (hk.trans h.symm)
        simp [hk, this]
      · simp [hk]

end ChipEight.Table
