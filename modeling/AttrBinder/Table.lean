/-!
Tables from names to values, in the order in which the names were first entered.
-/

namespace AttrBinder

abbrev Table (α : Type) := List (String × α)

namespace Table

variable {α : Type}

def get? (t : Table α) (name : String) : Option α :=
  match t with
  | [] => none
  | (n, a) :: rest => if n = name then some a else get? rest name

def set (t : Table α) (name : String) (a : α) : Table α :=
  match t with
  | [] => [(name, a)]
  | (n, b) :: rest => if n = name then (n, a) :: rest else (n, b) :: set rest name a

def erase (t : Table α) (name : String) : Table α :=
  t.filter fun (n, _) => n ≠ name

def setAll (t entries : Table α) : Table α :=
  entries.foldl (fun t (n, a) => t.set n a) t

@[simp] theorem get?_nil (name : String) : get? ([] : Table α) name = none := rfl

theorem get?_set_self (t : Table α) (name : String) (a : α) :
    (t.set name a).get? name = some a := by
  induction t with
  | nil => simp [set, get?]
  | cons e rest ih => by_cases h : e.1 = name <;> simp [set, get?, h, ih]

theorem get?_set_ne (t : Table α) {name other : String} (a : α) (h : other ≠ name) :
    (t.set name a).get? other = t.get? other := by
  induction t with
  | nil => simp [set, get?, Ne.symm h]
  | cons e rest ih =>
    by_cases hn : e.1 = name
    · simp [set, get?, hn, Ne.symm h]
    · simp only [set, if_neg hn, get?, ih]

end Table

end AttrBinder
