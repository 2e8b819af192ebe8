import TfK8s.Py.Text

/-!
# The values a scenario document loads to

`yaml.safe_load` hands the scripts a tree of Python values, and neither the
runner nor the validator checks a type before using one: a step is asked for
`.get`, a command for `.replace`, a section for `in` and `len`, whatever they
turned out to be. So the model keeps every kind of value `safe_load` can build
and gives each Python operation the scripts use its real behaviour on all of
them, exceptions included.

The scripts never compute with a float or a timestamp; they pass them on, to
a report or into a message. So a float is kept by its `repr`, which is also
its `str` and the text `json.dump` writes, and a timestamp by the two texts
`str` and `repr` give it. A mapping keeps its entries in insertion order, each
key once, as a Python `dict` does; a set keeps its elements in the order
iteration visits them.

`str` and `repr` follow CPython's rules for quoting and escaping, with the
characters beyond Latin-1 that `repr` escapes read from a Unicode table.
CPython also refuses to write an `int` of more than 4300 decimal digits as
text, so `str`, an f-string and `json.dump` raise `ValueError` on a value that
holds one, keys included; `PyVal.format` and `jsonEncode` raise it where
CPython does. Exception messages are CPython 3.11's, the version whose `glob`,
`fnmatch` and Unicode tables the model follows.
-/

namespace TfK8s.Py

/-- A value `yaml.safe_load` can build. -/
inductive PyVal where
  | none
  | bool (b : Bool)
  | int (i : Int)
  /-- a `float`, by its `repr` -/
  | float (repr : String)
  | str (s : String)
  /-- `!!binary` -/
  | bytes (b : List UInt8)
  /-- `!!timestamp` without a time of day, by its `str` and `repr` -/
  | date (str repr : String)
  /-- `!!timestamp` with a time of day, by its `str` and `repr` -/
  | datetime (str repr : String)
  | list (xs : List PyVal)
  /-- the pairs of `!!omap` and `!!pairs` -/
  | tuple (xs : List PyVal)
  /-- `!!set` -/
  | set (xs : List PyVal)
  | dict (kvs : List (PyVal × PyVal))
  deriving Repr

/-- What the scripts' operations raise on a value of the wrong kind, with the
text CPython gives it. -/
inductive PyExc where
  | attributeError (type attr : String)
  | typeError (message : String)
  /-- `KeyError`, with the `repr` of the key -/
  | keyError (key : String)
  | osError (message : String)
  /-- `subprocess.CalledProcessError`, by its `str` -/
  | calledProcessError (message : String)
  | valueError (message : String)
  /-- `re.error`, without the position `str` appends -/
  | reError (message : String)
  | overflowError (message : String)
  | zeroDivisionError (message : String)
  deriving Repr

/-- `str(e)`. -/
def PyExc.message : PyExc → String
  | .attributeError t a => "'" ++ t ++ "' object has no attribute '" ++ a ++ "'"
  | .typeError m | .keyError m | .osError m | .calledProcessError m | .valueError m | .reError m
  | .overflowError m | .zeroDivisionError m => m

/-- The `ValueError` CPython raises rather than write an `int` of more than
`sys.get_int_max_str_digits()` digits, 4300 by default, as text. -/
def intStrError : PyExc :=
  .valueError ("Exceeds the limit (4300 digits) for integer string conversion; " ++
    "use sys.set_int_max_str_digits() to increase the limit")

/-- Whether CPython writes `i` as text: it has at most 4300 decimal digits. -/
def intFits (i : Int) : Bool := (Nat.toDigits 10 i.natAbs).length ≤ 4300

@[simp] theorem intFits_zero : intFits 0 = true := by decide

@[simp] theorem exceptOk_bind {ε α β : Type} (a : α) (f : α → Except ε β) :
    (Except.ok a >>= f) = f a := rfl

theorem isOk_eq_true {ε : Type} {x : Except ε Unit} : x.isOk = true ↔ x = .ok () := by
  cases x <;> simp [Except.isOk, Except.toBool]

theorem exceptBind_eq_ok {ε α β : Type} {x : Except ε α} {f : α → Except ε β} {b : β}
    (h : x >>= f = .ok b) : ∃ a, x = .ok a ∧ f a = .ok b := by
  cases x with
  | ok a => exact ⟨a, rfl, h⟩
  | error e => cases h

/-! ## `repr` and `str` -/

/-- Two lower-case hex digits, as `\x` escapes write them. -/
def hexByte (n : Nat) : List Char := [Nat.digitChar (n / 16 % 16), Nat.digitChar (n % 16)]

/-- The last `k` hex digits of `n`, lower case. -/
def hexDigits : Nat → Nat → List Char
  | 0, _ => []
  | k + 1, n => hexDigits k (n / 16) ++ [Nat.digitChar (n % 16)]

/-- How `repr` writes a character it escapes by its code: `\x`, `\u` or
`\U` and two, four or eight hex digits. -/
def escapeCode (n : Nat) : List Char :=
  if n < 0x100 then '\\' :: 'x' :: hexDigits 2 n
  else if n < 0x10000 then '\\' :: 'u' :: hexDigits 4 n
  else '\\' :: 'U' :: hexDigits 8 n

/-- Whether `repr` writes a character of a string as it is: `str.isprintable`
of the character. -/
def printable (c : Char) : Bool :=
  if c.toNat < 0x100 then (32 ≤ c.toNat && c.toNat < 127) || (161 ≤ c.toNat && c.toNat != 173)
  else !Unicode.inRanges Unicode.nonPrintableRanges c.toNat

/-- How `repr` writes a character of a quoted text, `quote` being the quote in use. -/
def escapeWith (quote : Char) (isPrintable : Char → Bool) (c : Char) : List Char :=
  if c = '\\' then ['\\', '\\']
  else if c = quote then ['\\', quote]
  else if c = '\t' then ['\\', 't']
  else if c = '\n' then ['\\', 'n']
  else if c = '\r' then ['\\', 'r']
  else if isPrintable c then [c]
  else escapeCode c.toNat

/-- The quote `repr` picks: double when the text holds a single quote and no
double quote, single otherwise. -/
def quoteFor (s : List Char) : Char :=
  if s.contains '\'' && !s.contains '"' then '"' else '\''

/-- `repr(s)` for a string. -/
def reprStr (s : String) : String :=
  let q := quoteFor s.data
  ⟨q :: s.data.flatMap (escapeWith q printable) ++ [q]⟩

set_option maxRecDepth 8000 in
example : reprStr ⟨['a', Char.ofNat 0x200b, 'é', Char.ofNat 0xe0001, Char.ofNat 0x378, Char.ofNat 0x85]⟩
    = "'a\\u200bé\\U000e0001\\u0378\\x85'" := by decide

/-- `repr(b)` for a byte string: only printable ASCII is written as it is. -/
def reprBytes (b : List UInt8) : String :=
  let cs := b.map fun x => Char.ofNat x.toNat
  let q := quoteFor cs
  ⟨'b' :: q :: cs.flatMap (escapeWith q fun c => 32 ≤ c.toNat && c.toNat < 127) ++ [q]⟩

namespace PyVal

/-- `type(v).__name__`, as error messages print it. -/
def typeName : PyVal → String
  | .none => "NoneType"
  | .bool _ => "bool"
  | .int _ => "int"
  | .float _ => "float"
  | .str _ => "str"
  | .bytes _ => "bytes"
  | .date _ _ => "datetime.date"
  | .datetime _ _ => "datetime.datetime"
  | .list _ => "list"
  | .tuple _ => "tuple"
  | .set _ => "set"
  | .dict _ => "dict"

mutual

/-- `repr(v)`. -/
def repr : PyVal → String
  | .none => "None"
  | .bool b => if b then "True" else "False"
  | .int i => toString i
  | .float r => r
  | .str s => reprStr s
  | .bytes b => reprBytes b
  | .date _ r | .datetime _ r => r
  | .list xs => "[" ++ reprItems xs ++ "]"
  | .tuple xs => reprTuple xs
  | .set xs => if xs.isEmpty then "set()" else "\x7b" ++ reprItems xs ++ "\x7d"
  | .dict kvs => "\x7b" ++ reprEntries kvs ++ "\x7d"

/-- The elements of a list or set, comma separated. -/
def reprItems : List PyVal → String
  | [] => ""
  | [x] => repr x
  | x :: y :: rest => repr x ++ ", " ++ reprItems (y :: rest)

/-- A tuple, whose one element is followed by a comma. -/
def reprTuple : List PyVal → String
  | [] => "()"
  | [x] => "(" ++ repr x ++ ",)"
  | x :: y :: rest => "(" ++ repr x ++ ", " ++ reprItems (y :: rest) ++ ")"

/-- The entries of a mapping. -/
def reprEntries : List (PyVal × PyVal) → String
  | [] => ""
  | [(k, v)] => repr k ++ ": " ++ repr v
  | (k, v) :: e :: rest => repr k ++ ": " ++ repr v ++ ", " ++ reprEntries (e :: rest)

end

/-- `str(v)`, as an f-string interpolates it. -/
def toStr : PyVal → String
  | .str s => s
  | .date s _ | .datetime s _ => s
  | v => v.repr

mutual

/-- Whether every `int` in `v`, keys included, has few enough digits for `str`
and `repr` to write it. -/
def intsFit : PyVal → Bool
  | .int i => intFits i
  | .list xs | .tuple xs | .set xs => intsFitList xs
  | .dict kvs => intsFitEntries kvs
  | _ => true

def intsFitList : List PyVal → Bool
  | [] => true
  | x :: xs => intsFit x && intsFitList xs

def intsFitEntries : List (PyVal × PyVal) → Bool
  | [] => true
  | (k, v) :: kvs => intsFit k && intsFit v && intsFitEntries kvs

end

/-- `f"{v}"`: the text `str(v)`, or the `ValueError` of an `int` too long to
write. -/
def format (v : PyVal) : Except PyExc String :=
  if v.intsFit then .ok v.toStr else .error intStrError

/-- `bool(v)`: what `if v`, `not v` and `and` test. -/
def truthy : PyVal → Bool
  | .none => false
  | .bool b => b
  | .int i => i != 0
  | .float r => r != "0.0" && r != "-0.0"
  | .str s => !s.isEmpty
  | .bytes b => !b.isEmpty
  | .date _ _ | .datetime _ _ => true
  | .list xs | .tuple xs | .set xs => !xs.isEmpty
  | .dict kvs => !kvs.isEmpty

/-- Whether `v == key` for a string `key`: only an equal `str` is. -/
def isStr (key : String) : PyVal → Bool
  | .str s => s == key
  | _ => false

/-- The value a mapping holds under the string key `key`. -/
def lookup (kvs : List (PyVal × PyVal)) (key : String) : Option PyVal :=
  (kvs.find? fun kv => isStr key kv.1).map Prod.snd

/-- `v.get(key, default)`. -/
def get (v : PyVal) (key : String) (default : PyVal) : Except PyExc PyVal :=
  match v with
  | .dict kvs => .ok ((lookup kvs key).getD default)
  | v => .error (.attributeError v.typeName "get")

/-- The `TypeError` a non-mapping raises when subscripted with a string. -/
def subscriptMessage : PyVal → String
  | .str _ => "string indices must be integers, not 'str'"
  | .list _ => "list indices must be integers or slices, not str"
  | .tuple _ => "tuple indices must be integers or slices, not str"
  | .bytes _ => "byte indices must be integers or slices, not str"
  | v => "'" ++ v.typeName ++ "' object is not subscriptable"

/-- `v[key]` for a string `key`. -/
def subscript (v : PyVal) (key : String) : Except PyExc PyVal :=
  match v with
  | .dict kvs => match lookup kvs key with
    | some x => .ok x
    | Option.none => .error (.keyError (reprStr key))
  | v => .error (.typeError (subscriptMessage v))

/-- `for x in v`: what the loop visits. A mapping yields its keys, a string its
characters, a byte string its byte values. -/
def iter : PyVal → Except PyExc (List PyVal)
  | .list xs | .tuple xs | .set xs => .ok xs
  | .dict kvs => .ok (kvs.map Prod.fst)
  | .str s => .ok (s.data.map fun c => .str (String.singleton c))
  | .bytes b => .ok (b.map fun x => .int x.toNat)
  | v => .error (.typeError ("'" ++ v.typeName ++ "' object is not iterable"))

/-- `item in v` for a string `item`. -/
def contains (v : PyVal) (item : String) : Except PyExc Bool :=
  match v with
  | .str s => .ok (isSubstr item.data s.data)
  | .list xs | .tuple xs | .set xs => .ok (xs.any (isStr item))
  | .dict kvs => .ok (kvs.any fun kv => isStr item kv.1)
  | .bytes _ => .error (.typeError "a bytes-like object is required, not 'str'")
  | v => .error (.typeError ("argument of type '" ++ v.typeName ++ "' is not iterable"))

/-- `len(v)`. -/
def len : PyVal → Except PyExc Nat
  | .str s => .ok s.length
  | .bytes b => .ok b.length
  | .list xs | .tuple xs | .set xs => .ok xs.length
  | .dict kvs => .ok kvs.length
  | v => .error (.typeError ("object of type '" ++ v.typeName ++ "' has no len()"))

/-- `v.replace(old, new)` with string arguments. -/
def replace (v : PyVal) (old new : String) : Except PyExc String :=
  match v with
  | .str s => .ok ⟨Py.replace s.data old.data new.data⟩
  | .bytes _ => .error (.typeError "a bytes-like object is required, not 'str'")
  | v => .error (.attributeError v.typeName "replace")

/-- `type(v).__name__` as `json` prints it, without the module. -/
def className : PyVal → String
  | .date _ _ => "date"
  | .datetime _ _ => "datetime"
  | v => v.typeName

/-- `json.dump` writing an `int`, as a value or as a key. -/
def jsonEncodeInt (i : Int) : Except PyExc Unit :=
  if intFits i then .ok () else .error intStrError

/-- The check `json.dump` makes of a mapping key before it writes the key: a
scalar, and an `int` only if it can be written. -/
def jsonEncodeKey : PyVal → Except PyExc Unit
  | .none | .bool _ | .float _ | .str _ => .ok ()
  | .int i => jsonEncodeInt i
  | k => .error (.typeError ("keys must be str, int, float, bool or None, not " ++ k.className))

mutual

/-- `json.dump(v, f)`: lists and tuples become arrays, and the first value in
writing order that is bytes, a date or a set, an `int` too long to write, or a
mapping key that is not a scalar, raises. -/
def jsonEncode : PyVal → Except PyExc Unit
  | .none | .bool _ | .float _ | .str _ => .ok ()
  | .int i => jsonEncodeInt i
  | .list xs | .tuple xs => jsonEncodeList xs
  | .dict kvs => jsonEncodeDict kvs
  | v => .error (.typeError ("Object of type " ++ v.className ++ " is not JSON serializable"))

/-- The elements of an array, in order. -/
def jsonEncodeList : List PyVal → Except PyExc Unit
  | [] => .ok ()
  | x :: xs => do jsonEncode x; jsonEncodeList xs

/-- The entries of a mapping, each key before its value. -/
def jsonEncodeDict : List (PyVal × PyVal) → Except PyExc Unit
  | [] => .ok ()
  | (k, v) :: kvs => do
      jsonEncodeKey k
      jsonEncode v
      jsonEncodeDict kvs

end

@[simp] theorem get_dict (kvs : List (PyVal × PyVal)) (key : String) (d : PyVal) :
    (PyVal.dict kvs).get key d = .ok ((lookup kvs key).getD d) := rfl

@[simp] theorem replace_str (s old new : String) :
    (PyVal.str s).replace old new = .ok ⟨Py.replace s.data old.data new.data⟩ := rfl

@[simp] theorem iter_list (xs : List PyVal) : (PyVal.list xs).iter = .ok xs := rfl

@[simp] theorem jsonEncode_none : PyVal.none.jsonEncode = .ok () := rfl

@[simp] theorem jsonEncode_bool (b : Bool) : (PyVal.bool b).jsonEncode = .ok () := rfl

@[simp] theorem jsonEncode_int (i : Int) : (PyVal.int i).jsonEncode = jsonEncodeInt i := rfl

@[simp] theorem jsonEncode_float (r : String) : (PyVal.float r).jsonEncode = .ok () := rfl

@[simp] theorem jsonEncode_str (s : String) : (PyVal.str s).jsonEncode = .ok () := rfl

@[simp] theorem jsonEncode_list (xs : List PyVal) : (PyVal.list xs).jsonEncode = jsonEncodeList xs :=
  rfl

@[simp] theorem jsonEncode_dict (kvs : List (PyVal × PyVal)) :
    (PyVal.dict kvs).jsonEncode = jsonEncodeDict kvs := rfl

@[simp] theorem jsonEncodeList_nil : jsonEncodeList [] = .ok () := rfl

@[simp] theorem jsonEncodeList_cons (x : PyVal) (xs : List PyVal) :
    jsonEncodeList (x :: xs) = x.jsonEncode >>= fun _ => jsonEncodeList xs := rfl

@[simp] theorem jsonEncodeDict_nil : jsonEncodeDict [] = .ok () := rfl

/-- A `str` key always passes the key check. -/
@[simp] theorem jsonEncodeDict_cons_str (k : String) (v : PyVal) (kvs : List (PyVal × PyVal)) :
    jsonEncodeDict ((.str k, v) :: kvs) = v.jsonEncode >>= fun _ => jsonEncodeDict kvs := rfl

@[simp] theorem jsonEncodeInt_eq_ok {i : Int} : jsonEncodeInt i = .ok () ↔ intFits i = true := by
  unfold jsonEncodeInt; split <;> simp_all

theorem intsFit_of_jsonEncodeKey {k : PyVal} (h : jsonEncodeKey k = .ok ()) : k.intsFit = true := by
  cases k <;> first | exact jsonEncodeInt_eq_ok.1 h | rfl | cases h

mutual

/-- An `int` too long for `str` is too long for `json.dump`: what `json.dump`
writes, `str` can write. -/
theorem intsFit_of_jsonEncode : ∀ {v : PyVal}, v.jsonEncode = .ok () → v.intsFit = true
  | .int _, h => jsonEncodeInt_eq_ok.1 h
  | .list _, h | .tuple _, h => intsFitList_of_jsonEncodeList h
  | .dict _, h => intsFitEntries_of_jsonEncodeDict h
  | .set _, h => by cases h
  | .none, _ | .bool _, _ | .float _, _ | .str _, _ | .bytes _, _ | .date _ _, _
  | .datetime _ _, _ => rfl

theorem intsFitList_of_jsonEncodeList : ∀ {xs : List PyVal}, jsonEncodeList xs = .ok () →
    intsFitList xs = true
  | [], _ => rfl
  | _ :: _, h => by
      obtain ⟨_, hx, hxs⟩ := exceptBind_eq_ok h
      simp only [intsFitList, intsFit_of_jsonEncode hx, intsFitList_of_jsonEncodeList hxs,
        Bool.and_self]

theorem intsFitEntries_of_jsonEncodeDict : ∀ {kvs : List (PyVal × PyVal)},
    jsonEncodeDict kvs = .ok () → intsFitEntries kvs = true
  | [], _ => rfl
  | (_, _) :: _, h => by
      obtain ⟨_, hk, h⟩ := exceptBind_eq_ok h
      obtain ⟨_, hv, h⟩ := exceptBind_eq_ok h
      simp only [intsFitEntries, intsFit_of_jsonEncodeKey hk, intsFit_of_jsonEncode hv,
        intsFitEntries_of_jsonEncodeDict h, Bool.and_self]

end

theorem format_of_intsFit {v : PyVal} (h : v.intsFit = true) : v.format = .ok v.toStr := by
  simp only [format, h, if_true]

theorem format_of_jsonEncode {v : PyVal} (h : v.jsonEncode = .ok ()) : v.format = .ok v.toStr :=
  format_of_intsFit (intsFit_of_jsonEncode h)

@[simp] theorem format_str (s : String) : (PyVal.str s).format = .ok s := rfl

theorem subscript_eq_ok {v x : PyVal} {key : String} :
    v.subscript key = .ok x ↔ ∃ kvs, v = .dict kvs ∧ lookup kvs key = some x := by
  unfold subscript
  split
  · split <;> simp_all
  · simp_all

/-- Where a subscript finds a value, `.get` finds the same one. -/
theorem get_of_subscript {v x : PyVal} {key : String} (d : PyVal) (h : v.subscript key = .ok x) :
    v.get key d = .ok x := by
  obtain ⟨kvs, rfl, hx⟩ := subscript_eq_ok.mp h
  simp [hx]

end PyVal

end TfK8s.Py
