/-!
# Keyed lists

A `Keyed` list holds values under keys in the order in which the keys were first put; putting a key
again replaces its value in place.  The keys are texts unless another type is given.  `get?_put` and
`keys_put` say what `put` does to the values and to the keys.
-/

namespace SchemaAtlas

/-- Values under keys, in the order of the keys' first use. -/
abbrev Keyed (α : Type) (κ : Type := String) := List (κ × α)

namespace Keyed

variable {α κ : Type}

/-- The keys, in order. -/
def keys (entries : Keyed α κ) : List κ :=
  entries.map Prod.fst

variable [DecidableEq κ]

/-- The value under a key. -/
def get? (entries : Keyed α κ) (key : κ) : Option α :=
  (entries.find? fun e => e.1 == key).map Prod.snd

/-- The list with `value` under `key`. -/
def put (entries : Keyed α κ) (key : κ) (value : α) : Keyed α κ :=
  match entries with
  | [] => [(key, value)]
  | e :: rest => if e.1 == key then (key, value) :: rest else e :: put rest key value

/-- Values put one after another, so that the last of a key counts. -/
def ofList (entries : List (κ × α)) : Keyed α κ :=
  entries.foldl (fun acc e => put acc e.1 e.2) []

@[simp] theorem get?_nil (key : κ) : get? ([] : Keyed α κ) key = none := rfl

theorem get?_cons (e : κ × α) (rest : Keyed α κ) (key : κ) :
    get? (e :: rest) key = if e.1 = key then some e.2 else get? rest key := by
  by_cases h : e.1 = key <;> simp [get?, h]

theorem get?_put (entries : Keyed α κ) (key : κ) (value : α) (name : κ) :
    (entries.put key value).get? name = if key = name then some value else entries.get? name := by
  induction entries with
  | nil => simp [put, get?_cons]
  | cons e rest ih =>
    by_cases h : e.1 = key
    · by_cases hn : key = name <;> simp [put, h, get?_cons, hn]
    · have hput : put (e :: rest) key value = e :: put rest key value := by simp [put, h]
      rw [hput, get?_cons, get?_cons, ih]
      by_cases hn : key = name
      · simp [← hn, h]
      · simp [hn]

theorem keys_put (entries : Keyed α κ) (key : κ) (value : α) :
    (entries.put key value).keys =
      if key ∈ entries.keys then entries.keys else entries.keys ++ [key] := by
  induction entries with
  | nil => simp [put, keys]
  | cons e rest ih =>
    simp only [keys, List.map_cons] at ih ⊢
    by_cases h : e.1 = key
    · simp [put, h]
    · have hs : key ≠ e.1 := Ne.symm h
      by_cases hm : key ∈ rest.map Prod.fst <;> simp_all [put]

end Keyed

end SchemaAtlas
