import TfK8s.Py.Float

/-!
# `==` and `in` on loaded values

Python's `==` on the values `yaml.safe_load` and `json.load` make compares
numbers by value across `bool`, `int` and `float`, a NaN equal to nothing,
sequences element by element and of the same type (a `list` never equals a
`tuple`), and mappings and sets regardless of order. A mapping's keys, and a
set's elements, are distinct under `==`, so a key of one mapping is looked up
in the other by the first key equal to it.

`pyEq a` is computed by structural recursion on `a` alone, as the test
`(a == ·)`: a container's test is built from the tests of its elements, so a
mapping compares its keys and values with those of the other side without
recursing on it.

`x in c` for a loaded `c` follows CPython's `__contains__`: `==` for
sequences, lookup by key for mappings and sets (which first hash `x`), a
substring test for strings, and a `TypeError` for the rest.
-/

namespace TfK8s.Py

namespace PyVal

/-- The double a `float` holds, read back from the `repr` it is kept by. -/
def floatValue (r : String) : PyFloat :=
  match PyFloat.parse r with
  | .ok x => x
  | .error _ => .nan

/-- What a `bool`, `int` or `float` is as a number: an integer or a double. -/
def num? : PyVal → Option (Int ⊕ PyFloat)
  | .bool b => some (.inl (if b then 1 else 0))
  | .int i => some (.inl i)
  | .float r => some (.inr (floatValue r))
  | _ => Option.none

/-- `==` between two numbers. -/
def numEq : Int ⊕ PyFloat → Int ⊕ PyFloat → Bool
  | .inl i, .inl j => i == j
  | .inl i, .inr x | .inr x, .inl i => x.eqInt i
  | .inr x, .inr y => x.beq y

/-- The first value `test` accepts among a mapping's keys. -/
def lookupBy (test : PyVal → Bool) : List (PyVal × PyVal) → Option PyVal
  | [] => Option.none
  | (k, v) :: rest => if test k then some v else lookupBy test rest

/-- Sequences of the same length whose elements pass the tests in order. -/
def eqAll : List (PyVal → Bool) → List PyVal → Bool
  | [], [] => true
  | t :: ts, y :: ys => t y && eqAll ts ys
  | _, _ => false

mutual

/-- `a == ·`. -/
def pyEq : PyVal → PyVal → Bool
  | .none, b => match b with
    | .none => true
    | _ => false
  | .str s, b => match b with
    | .str t => s == t
    | _ => false
  | .bytes c, b => match b with
    | .bytes d => c == d
    | _ => false
  | .date s _, b => match b with
    | .date t _ => s == t
    | _ => false
  | .datetime s _, b => match b with
    | .datetime t _ => s == t
    | _ => false
  | .list xs, b => match b with
    | .list ys => eqAll (tests xs) ys
    | _ => false
  | .tuple xs, b => match b with
    | .tuple ys => eqAll (tests xs) ys
    | _ => false
  | .set xs, b => match b with
    | .set ys => xs.length == ys.length && (tests xs).all fun t => ys.any t
    | _ => false
  | .dict kvs, b => match b with
    | .dict lvs => kvs.length == lvs.length && (entryTests kvs).all fun (kt, vt) =>
        match lookupBy kt lvs with
        | some w => vt w
        | Option.none => false
    | _ => false
  | a@(.bool _), b | a@(.int _), b | a@(.float _), b =>
      match num? a, num? b with
      | some x, some y => numEq x y
      | _, _ => false

/-- The tests `(x == ·)` of a sequence's elements. -/
def tests : List PyVal → List (PyVal → Bool)
  | [] => []
  | x :: xs => pyEq x :: tests xs

/-- The tests of a mapping's keys and values. -/
def entryTests : List (PyVal × PyVal) → List ((PyVal → Bool) × (PyVal → Bool))
  | [] => []
  | (k, v) :: kvs => (pyEq k, pyEq v) :: entryTests kvs

end

mutual

/-- The type name in `unhashable type: '…'` when hashing `v` raises. -/
def unhashable? : PyVal → Option String
  | .list _ => some "list"
  | .dict _ => some "dict"
  | .set _ => some "set"
  | .tuple xs => unhashableIn xs
  | _ => Option.none

/-- The first element of a tuple whose hash raises. -/
def unhashableIn : List PyVal → Option String
  | [] => Option.none
  | x :: xs => (unhashable? x).orElse fun _ => unhashableIn xs

end

/-- `needle in v`. -/
def containsVal (v needle : PyVal) : Except PyExc Bool :=
  match v with
  | .list xs | .tuple xs => .ok (xs.any (pyEq needle))
  | .set xs => match unhashable? needle with
    | some t => .error (.typeError ("unhashable type: '" ++ t ++ "'"))
    | Option.none => .ok (xs.any (pyEq needle))
  | .dict kvs => match unhashable? needle with
    | some t => .error (.typeError ("unhashable type: '" ++ t ++ "'"))
    | Option.none => .ok (kvs.any fun kv => pyEq needle kv.1)
  | .str s => match needle with
    | .str t => .ok (isSubstr t.data s.data)
    | n => .error (.typeError ("'in <string>' requires string as left operand, not " ++ n.typeName))
  | .bytes b => match needle with
    | .bytes c => .ok (b.tails.any c.isPrefixOf)
    | .int i => if 0 ≤ i ∧ i < 256 then .ok (b.any fun x => x.toNat == i.toNat)
        else .error (.valueError "byte must be in range(0, 256)")
    | n => .error (.typeError ("a bytes-like object is required, not '" ++ n.typeName ++ "'"))
  | v => .error (.typeError ("argument of type '" ++ v.typeName ++ "' is not iterable"))

/-- `d.items()`. -/
def items : PyVal → Except PyExc (List (PyVal × PyVal))
  | .dict kvs => .ok kvs
  | v => .error (.attributeError v.typeName "items")

@[simp] theorem pyEq_str (s : String) : pyEq (.str s) = isStr s :=
  funext fun b => by cases b <;> simp [pyEq, isStr, eq_comm]

end PyVal

end TfK8s.Py
