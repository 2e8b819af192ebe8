import Mathlib.Data.List.Nodup
import TfK8s.Py.Equality

/-!
# `json.dump`, then `json.load`

`save_results` writes the results with `json.dump`, and what a reader of the
report gets is what `json.load` makes of that text. The two are modelled
together, by the value `json.load` returns for the text `json.dump` wrote,
following the conversion tables of the `json` module.

`None`, a `bool`, an `int` and a `str` come back as they were. A `float`
comes back as the same double: `json.dump` writes its `repr`, or `NaN`,
`Infinity` and `-Infinity`, which `json.load` reads back, so it keeps its
`repr`. A list and a tuple both come back as a list. A mapping comes back as a
`dict` whose keys are all `str`: `json.dump` writes `True` as `true`, `None` as
`null`, an `int` by its digits and a `float` as it writes the value, and
`json.load` builds the `dict` pair by pair, so keys that came out equal keep
the first one's place and the last one's value. A value `json.dump` refuses
leaves no complete text to read back, and is left as it is.

So the round trip gives back a value equal under `==` to the one dumped only
for some values, and `jsonPlain` names them: no NaN, no tuple, no `int` too
long to write, and mappings keyed by distinct `str`s. `pyEq_jsonLoaded` proves that these come back equal,
by structural recursion that follows `jsonLoaded`.
-/

namespace TfK8s.Py

namespace PyVal

/-- How `json.dump` writes a `float`, kept by its `repr`. -/
def jsonFloat (r : String) : String :=
  if r = "nan" then "NaN" else if r = "inf" then "Infinity" else if r = "-inf" then "-Infinity"
  else r

/-- The `str` a mapping key becomes in the text, for the keys `json.dump` accepts. -/
def jsonKey : PyVal → String
  | .str s => s
  | .float r => jsonFloat r
  | .bool true => "true"
  | .bool false => "false"
  | .none => "null"
  | .int i => toString i
  | _ => ""

/-- `d[key] = value` as `json.load` builds an object: a key already present
keeps its place and takes the new value. -/
def setItem (d : List (String × PyVal)) (key : String) (value : PyVal) : List (String × PyVal) :=
  if d.any (·.1 = key) then d.map fun e => if e.1 = key then (key, value) else e
  else d ++ [(key, value)]

mutual

/-- `json.load` of what `json.dump(v)` wrote. -/
def jsonLoaded : PyVal → PyVal
  | .list xs => .list (jsonLoadedList xs)
  | .tuple xs => .list (jsonLoadedList xs)
  | .dict kvs =>
      .dict (((jsonLoadedEntries kvs).foldl (fun d kv => setItem d kv.1 kv.2) []).map
        fun kv => (.str kv.1, kv.2))
  | v => v

/-- The elements of an array, read back. -/
def jsonLoadedList : List PyVal → List PyVal
  | [] => []
  | x :: xs => jsonLoaded x :: jsonLoadedList xs

/-- The members of an object in the order written, read back. -/
def jsonLoadedEntries : List (PyVal × PyVal) → List (String × PyVal)
  | [] => []
  | (k, v) :: kvs => (jsonKey k, jsonLoaded v) :: jsonLoadedEntries kvs

end

mutual

/-- A value the round trip gives back equal: built from `None`, `bool`, an
`int` of at most 4300 digits, non-NaN `float`, `str`, lists, and mappings keyed
by distinct `str`s. -/
def jsonPlain : PyVal → Bool
  | .none | .bool _ | .str _ => true
  | .int i => intFits i
  | .float r => floatValue r != .nan
  | .list xs => jsonPlainList xs
  | .dict kvs => jsonPlainEntries kvs && decide (kvs.map (jsonKey ·.1)).Nodup
  | _ => false

def jsonPlainList : List PyVal → Bool
  | [] => true
  | x :: xs => jsonPlain x && jsonPlainList xs

def jsonPlainEntries : List (PyVal × PyVal) → Bool
  | [] => true
  | (.str _, v) :: kvs => jsonPlain v && jsonPlainEntries kvs
  | _ :: _ => false

end

@[simp] theorem jsonKey_str (s : String) : jsonKey (.str s) = s := rfl

@[simp] theorem jsonPlain_str (s : String) : jsonPlain (.str s) = true := rfl

@[simp] theorem jsonPlain_bool (b : Bool) : jsonPlain (.bool b) = true := rfl

@[simp] theorem jsonPlain_int (i : Int) : jsonPlain (.int i) = intFits i := rfl

@[simp] theorem jsonPlain_list (xs : List PyVal) : jsonPlain (.list xs) = jsonPlainList xs := rfl

@[simp] theorem jsonPlain_dict (kvs : List (PyVal × PyVal)) :
    jsonPlain (.dict kvs) = (jsonPlainEntries kvs && decide (kvs.map (jsonKey ·.1)).Nodup) := rfl

@[simp] theorem jsonPlainList_nil : jsonPlainList [] = true := rfl

@[simp] theorem jsonPlainList_cons (x : PyVal) (xs : List PyVal) :
    jsonPlainList (x :: xs) = (jsonPlain x && jsonPlainList xs) := rfl

@[simp] theorem jsonPlainEntries_nil : jsonPlainEntries [] = true := rfl

@[simp] theorem jsonPlainEntries_str (k : String) (v : PyVal) (kvs : List (PyVal × PyVal)) :
    jsonPlainEntries ((.str k, v) :: kvs) = (jsonPlain v && jsonPlainEntries kvs) := rfl

theorem jsonPlainEntries_cons {k v : PyVal} {kvs : List (PyVal × PyVal)}
    (h : jsonPlainEntries ((k, v) :: kvs) = true) :
    (∃ s, k = .str s) ∧ jsonPlain v = true ∧ jsonPlainEntries kvs = true := by
  cases k <;> simp_all [jsonPlainEntries]

/-! ## Reading back a plain value -/

theorem jsonLoadedList_eq : ∀ xs : List PyVal, jsonLoadedList xs = xs.map jsonLoaded
  | [] => rfl
  | x :: xs => by rw [jsonLoadedList, jsonLoadedList_eq xs, List.map_cons]

theorem jsonLoadedEntries_eq :
    ∀ kvs : List (PyVal × PyVal), jsonLoadedEntries kvs = kvs.map fun kv => (jsonKey kv.1, jsonLoaded kv.2)
  | [] => rfl
  | (k, v) :: kvs => by rw [jsonLoadedEntries, jsonLoadedEntries_eq kvs, List.map_cons]

theorem tests_eq : ∀ xs : List PyVal, tests xs = xs.map pyEq
  | [] => rfl
  | x :: xs => by rw [tests, tests_eq xs, List.map_cons]

theorem entryTests_eq :
    ∀ kvs : List (PyVal × PyVal), entryTests kvs = kvs.map fun kv => (pyEq kv.1, pyEq kv.2)
  | [] => rfl
  | (k, v) :: kvs => by rw [entryTests, entryTests_eq kvs, List.map_cons]

/-- Building an object from members with distinct keys keeps them all, in order. -/
theorem foldl_setItem_of_nodup :
    ∀ (l acc : List (String × PyVal)), (acc.map Prod.fst ++ l.map Prod.fst).Nodup →
      l.foldl (fun d kv => setItem d kv.1 kv.2) acc = acc ++ l
  | [], acc, _ => (List.append_nil acc).symm
  | (k, v) :: l, acc, h => by
      have hk : k ∉ acc.map Prod.fst := fun hk =>
        (List.nodup_append.1 h).2.2 hk (List.mem_cons_self _ _)
      have hset : setItem acc k v = acc ++ [(k, v)] := by
        rw [setItem, if_neg (by
          rw [Bool.not_eq_true, List.any_eq_false]
          exact fun e he heq => hk (List.mem_map.2 ⟨e, he, of_decide_eq_true heq⟩))]
      rw [List.foldl_cons, hset, foldl_setItem_of_nodup l, List.append_assoc, List.singleton_append]
      simpa using h

theorem eqAll_map (f : PyVal → PyVal) : ∀ xs : List PyVal, (∀ x ∈ xs, pyEq (f x) x = true) →
    eqAll (tests (xs.map f)) xs = true
  | [], _ => rfl
  | x :: xs, h => by
      rw [List.map_cons, tests, eqAll, h x (List.mem_cons_self _ _),
        eqAll_map f xs fun y hy => h y (List.mem_cons_of_mem _ hy)]
      rfl

/-- In a mapping keyed by distinct `str`s, a key's value is found by its text. -/
theorem lookupBy_isStr : ∀ {kvs : List (PyVal × PyVal)}, jsonPlainEntries kvs = true →
    (kvs.map (jsonKey ·.1)).Nodup → ∀ kv ∈ kvs, ∃ s, kv.1 = .str s ∧ lookupBy (isStr s) kvs = some kv.2
  | [], _, _, kv, hkv => absurd hkv (List.not_mem_nil _)
  | (k, v) :: kvs, hp, hnd, kv, hkv => by
      obtain ⟨⟨t, rfl⟩, -, hp⟩ := jsonPlainEntries_cons hp
      rcases List.mem_cons.1 hkv with rfl | hkv
      · exact ⟨t, rfl, by simp [lookupBy, isStr]⟩
      · obtain ⟨s, hs, hl⟩ := lookupBy_isStr hp (List.nodup_cons.1 hnd).2 kv hkv
        have hne : t ≠ s := fun he => (List.nodup_cons.1 hnd).1
          (List.mem_map.2 ⟨kv, hkv, by rw [hs, ← he]⟩)
        refine ⟨s, hs, ?_⟩
        rw [lookupBy, if_neg (by simpa [isStr] using hne), hl]

mutual

/-- A plain value comes back from the round trip equal under `==`. -/
theorem pyEq_jsonLoaded : ∀ v : PyVal, jsonPlain v = true → pyEq (jsonLoaded v) v = true
  | .none, _ => rfl
  | .bool b, _ => by cases b <;> rfl
  | .int i, _ => by
      show numEq (.inl i) (.inl i) = true
      simp [numEq]
  | .str s, _ => by rw [show jsonLoaded (.str s) = .str s from rfl, pyEq_str, isStr, beq_self_eq_true]
  | .float r, h => by
      simp only [jsonPlain, bne_iff_ne, ne_eq] at h
      show (floatValue r).beq (floatValue r) = true
      cases hx : floatValue r <;> simp_all [PyFloat.beq]
  | .list xs, h => by
      rw [jsonLoaded, jsonLoadedList_eq]
      exact eqAll_map jsonLoaded xs (pyEq_jsonLoadedList xs h)
  | .dict kvs, h => by
      simp only [jsonPlain, Bool.and_eq_true, decide_eq_true_eq] at h
      have hvals := pyEq_jsonLoadedEntries kvs h.1
      have hfold : (jsonLoadedEntries kvs).foldl (fun d kv => setItem d kv.1 kv.2) [] =
          jsonLoadedEntries kvs :=
        foldl_setItem_of_nodup _ [] (by simpa [jsonLoadedEntries_eq, Function.comp_def] using h.2)
      rw [jsonLoaded, hfold, jsonLoadedEntries_eq]
      simp only [pyEq, List.length_map, List.map_map, entryTests_eq, beq_self_eq_true,
        Bool.true_and, List.all_eq_true, List.forall_mem_map]
      intro kv hkv
      obtain ⟨s, hs, hl⟩ := lookupBy_isStr h.1 h.2 kv hkv
      simp only [Function.comp_apply, hs, jsonKey, pyEq_str, hl]
      exact hvals kv hkv
  | .tuple _, h | .bytes _, h | .date _ _, h | .datetime _ _, h | .set _, h => by
      simp [jsonPlain] at h

theorem pyEq_jsonLoadedList :
    ∀ xs : List PyVal, jsonPlainList xs = true → ∀ x ∈ xs, pyEq (jsonLoaded x) x = true
  | [], _, _, hx => absurd hx (List.not_mem_nil _)
  | y :: ys, h, x, hx => by
      simp only [jsonPlainList, Bool.and_eq_true] at h
      rcases List.mem_cons.1 hx with rfl | hx
      · exact pyEq_jsonLoaded x h.1
      · exact pyEq_jsonLoadedList ys h.2 x hx

theorem pyEq_jsonLoadedEntries : ∀ kvs : List (PyVal × PyVal), jsonPlainEntries kvs = true →
    ∀ kv ∈ kvs, pyEq (jsonLoaded kv.2) kv.2 = true
  | [], _, _, hkv => absurd hkv (List.not_mem_nil _)
  | (_, v) :: kvs, h, kv, hkv => by
      obtain ⟨-, hv, h⟩ := jsonPlainEntries_cons h
      rcases List.mem_cons.1 hkv with rfl | hkv
      · exact pyEq_jsonLoaded v hv
      · exact pyEq_jsonLoadedEntries kvs h kv hkv

end

end PyVal

end TfK8s.Py
