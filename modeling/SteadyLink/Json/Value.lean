import SteadyLink.Number.Binary64

/-!
# JSON values

JSON values. Objects hold their fields in the order of their names, each name once.
-/

namespace SteadyLink

/-- A JSON value. Integers and other numbers are kept apart. -/
inductive Json where
  | null
  | bool (b : Bool)
  | int (n : Int)
  | float (negative : Bool) (magnitude : Number.Magnitude)
  | str (s : String)
  | arr (items : List Json)
  | obj (fields : List (String × Json))

namespace Json

mutual

def decideEq : (a b : Json) → Decidable (a = b)
  | null, b => match b with
    | null => isTrue rfl
    | bool _ | int _ | float _ _ | str _ | arr _ | obj _ => isFalse nofun
  | bool x, b => match b with
    | bool y => decidable_of_iff (x = y) (by simp)
    | null | int _ | float _ _ | str _ | arr _ | obj _ => isFalse nofun
  | int x, b => match b with
    | int y => decidable_of_iff (x = y) (by simp)
    | null | bool _ | float _ _ | str _ | arr _ | obj _ => isFalse nofun
  | float s x, b => match b with
    | float t y => decidable_of_iff (s = t ∧ x = y) (by simp)
    | null | bool _ | int _ | str _ | arr _ | obj _ => isFalse nofun
  | str x, b => match b with
    | str y => decidable_of_iff (x = y) (by simp)
    | null | bool _ | int _ | float _ _ | arr _ | obj _ => isFalse nofun
  | arr x, b => match b with
    | arr y => @decidable_of_iff _ (x = y) (by simp) (decideItemsEq x y)
    | null | bool _ | int _ | float _ _ | str _ | obj _ => isFalse nofun
  | obj x, b => match b with
    | obj y => @decidable_of_iff _ (x = y) (by simp) (decideFieldsEq x y)
    | null | bool _ | int _ | float _ _ | str _ | arr _ => isFalse nofun

def decideItemsEq : (a b : List Json) → Decidable (a = b)
  | [], [] => isTrue rfl
  | [], _ :: _ => isFalse nofun
  | _ :: _, [] => isFalse nofun
  | x :: a, y :: b =>
    match decideEq x y, decideItemsEq a b with
    | isTrue h, isTrue h' => isTrue (by rw [h, h'])
    | isFalse h, _ => isFalse (by simp [h])
    | _, isFalse h => isFalse (by simp [h])

def decideFieldsEq : (a b : List (String × Json)) → Decidable (a = b)
  | [], [] => isTrue rfl
  | [], _ :: _ => isFalse nofun
  | _ :: _, [] => isFalse nofun
  | (k, x) :: a, (l, y) :: b =>
    match instDecidableEqString k l, decideEq x y, decideFieldsEq a b with
    | isTrue h, isTrue h', isTrue h'' => isTrue (by rw [h, h', h''])
    | isFalse h, _, _ => isFalse (by simp [h])
    | _, isFalse h, _ => isFalse (by simp [h])
    | _, _, isFalse h => isFalse (by simp [h])

end

instance : DecidableEq Json := decideEq

instance : Inhabited Json := ⟨null⟩

abbrev Fields := List (String × Json)

namespace Fields

/-- Sets a field, at its place in the order of names. -/
def insert (name : String) (value : Json) : Fields → Fields
  | [] => [(name, value)]
  | (n, v) :: rest =>
    if name < n then (name, value) :: (n, v) :: rest
    else if name = n then (name, value) :: rest
    else (n, v) :: insert name value rest

def get? (name : String) : Fields → Option Json
  | [] => none
  | (n, v) :: rest => if name = n then some v else get? name rest

def erase (name : String) : Fields → Fields
  | [] => []
  | (n, v) :: rest => if name = n then rest else (n, v) :: erase name rest

/-- The fields of both; where both have a field, the one of `newer`. -/
def union (older newer : Fields) : Fields :=
  newer.foldl (fun acc field => insert field.1 field.2 acc) older

/-- The fields in a list, where a later field of a name wins over an earlier one. -/
def ofList (fields : List (String × Json)) : Fields := union [] fields

end Fields

/-- The integers that stay integers; all other numbers are floating-point numbers. -/
def intRange (n : Int) : Bool := -9223372036854775808 ≤ n && n < 18446744073709551616

end Json

end SteadyLink
