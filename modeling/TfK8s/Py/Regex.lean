import Mathlib.Data.Char
import Mathlib.Data.List.Basic
import TfK8s.Py.Unicode

/-!
# `re.match` and `re.search` on patterns of character classes

The validator's regular expressions are sequences of single characters,
character classes repeated with `+` or `*`, and the anchors `^` and `$`; one
is an alternation of two such sequences. That is the fragment modelled here.
`re.match` tries the pattern at position 0 only and needs it to match a prefix
of the subject; `re.search` tries every position in turn. `$` matches at the
end, or just before a newline that ends the subject, since no pattern sets
`MULTILINE`.

Python's engine backtracks through the repetitions and reports a match when
any choice of lengths works, so `matchItems` is the Boolean search over those
choices. Its per-item equations turn acceptance into a plain existential: the
subject splits into pieces, one per item.

The ranges of the validator's classes are ASCII and match Lean's
`Char.isUpper`, `Char.isDigit` and `Char.isAlphanum` exactly; the lemmas at
the end give those ranges as numbers.
-/

namespace TfK8s.Py

/-- An item of an anchored pattern. -/
inductive Item where
  /-- one character of the class -/
  | one (cls : Char → Bool)
  /-- `[...]+`: one or more characters of the class -/
  | plus (cls : Char → Bool)
  /-- `[...]*`: zero or more characters of the class -/
  | star (cls : Char → Bool)
  /-- `^` -/
  | caret
  /-- `$` -/
  | dollar

/-- One or more characters of `cls`, then the rest of the pattern `k`. -/
def plusGo (cls : Char → Bool) (k : List Char → Bool) : List Char → Bool
  | [] => false
  | c :: cs => cls c && (k cs || plusGo cls k cs)

/-- Whether the items match a prefix of the subject; `atStart` says whether
nothing has been consumed yet. -/
def matchItems : List Item → Bool → List Char → Bool
  | [], _, _ => true
  | .one cls :: rest, _, cs =>
      match cs with
      | c :: cs => cls c && matchItems rest false cs
      | [] => false
  | .plus cls :: rest, _, cs => plusGo cls (matchItems rest false) cs
  | .star cls :: rest, atStart, cs => matchItems rest atStart cs || plusGo cls (matchItems rest false) cs
  | .caret :: rest, atStart, cs => atStart && matchItems rest atStart cs
  | .dollar :: rest, atStart, cs => (cs == [] || cs == ['\n']) && matchItems rest atStart cs

/-- `re.match(pattern, s) is not None`. -/
def reMatch (pattern : List Item) (s : String) : Bool :=
  matchItems pattern true s.data

/-- Whether some alternative matches at some position of `cs`, `atStart`
saying whether `cs` is the whole subject. -/
def searchGo (alternatives : List (List Item)) : Bool → List Char → Bool
  | atStart, [] => alternatives.any fun p => matchItems p atStart []
  | atStart, c :: cs =>
      (alternatives.any fun p => matchItems p atStart (c :: cs)) || searchGo alternatives false cs

/-- `re.search(p₁|p₂|…, s) is not None`, the pattern given by its alternatives. -/
def reSearch (alternatives : List (List Item)) (s : String) : Bool :=
  searchGo alternatives true s.data

/-- The items that match the characters of `s` one after another. -/
def literal (s : String) : List Item :=
  s.data.map fun c => .one (· == c)

/-- `\s` in a `str` pattern: the characters `str.isspace` accepts. -/
def isPySpace (c : Char) : Bool :=
  let n := c.toNat
  (9 ≤ n && n ≤ 13) || (28 ≤ n && n ≤ 32) || n == 0x85 || n == 0xa0 || n == 0x1680 ||
    (0x2000 ≤ n && n ≤ 0x200a) || n == 0x2028 || n == 0x2029 || n == 0x202f || n == 0x205f ||
    n == 0x3000

/-- `s.strip()`: the text without the `str.isspace` characters at either end. -/
def stripSpace (s : List Char) : List Char :=
  ((s.dropWhile isPySpace).reverse.dropWhile isPySpace).reverse

/-- `\w` in a `str` pattern: `[A-Za-z0-9_]`, and beyond ASCII the characters
`str.isalnum` accepts. -/
def isPyWord (c : Char) : Bool :=
  if c.toNat < 128 then c.isAlphanum || c == '_' else Unicode.inRanges Unicode.wordRanges c.toNat

theorem plusGo_iff (cls : Char → Bool) (k : List Char → Bool) :
    ∀ cs : List Char, plusGo cls k cs = true ↔
      ∃ pre post, cs = pre ++ post ∧ pre ≠ [] ∧ (∀ c ∈ pre, cls c = true) ∧ k post = true
  | [] => by simp [plusGo]
  | c :: cs => by
      simp only [plusGo, Bool.and_eq_true, Bool.or_eq_true, plusGo_iff cls k cs]
      constructor
      · rintro ⟨hc, hk | ⟨pre, post, rfl, -, hpre, hk⟩⟩
        · exact ⟨[c], cs, rfl, by simp, by simpa using hc, hk⟩
        · exact ⟨c :: pre, post, rfl, by simp, by simpa [hc] using hpre, hk⟩
      · rintro ⟨_ | ⟨d, pre⟩, post, hcs, hne, hpre, hk⟩
        · exact absurd rfl hne
        · obtain ⟨rfl, rfl⟩ := List.cons.inj hcs
          refine ⟨hpre _ (List.mem_cons_self _ _), ?_⟩
          rcases pre with _ | ⟨e, pre⟩
          · exact .inl hk
          · exact .inr ⟨e :: pre, post, rfl, by simp, fun x hx => hpre x (by simp_all), hk⟩

@[simp] theorem matchItems_nil (b : Bool) (cs : List Char) : matchItems [] b cs = true := rfl

@[simp] theorem matchItems_one (cls : Char → Bool) (rest : List Item) (b : Bool) (cs : List Char) :
    matchItems (.one cls :: rest) b cs = true ↔
      ∃ c cs', cs = c :: cs' ∧ cls c = true ∧ matchItems rest false cs' = true := by
  cases cs <;> simp [matchItems, and_assoc]

@[simp] theorem matchItems_plus (cls : Char → Bool) (rest : List Item) (b : Bool) (cs : List Char) :
    matchItems (.plus cls :: rest) b cs = true ↔
      ∃ pre post, cs = pre ++ post ∧ pre ≠ [] ∧ (∀ c ∈ pre, cls c = true) ∧
        matchItems rest false post = true :=
  plusGo_iff _ _ cs

@[simp] theorem matchItems_caret (rest : List Item) (b : Bool) (cs : List Char) :
    matchItems (.caret :: rest) b cs = (b && matchItems rest b cs) := rfl

@[simp] theorem matchItems_dollar (rest : List Item) (b : Bool) (cs : List Char) :
    matchItems (.dollar :: rest) b cs = true ↔
      (cs = [] ∨ cs = ['\n']) ∧ matchItems rest b cs = true := by
  simp [matchItems]

theorem infix_stripSpace (s : List Char) : stripSpace s <:+: s := by
  have h₁ : s.dropWhile isPySpace <:+: s := (List.dropWhile_suffix isPySpace).isInfix
  have h₂ : (s.dropWhile isPySpace).reverse.dropWhile isPySpace <:+: (s.dropWhile isPySpace).reverse :=
    (List.dropWhile_suffix isPySpace).isInfix
  exact (List.reverse_infix.2 h₂).trans (by simpa using h₁)

/-! ## The ASCII ranges as numbers -/

theorem toNat_ofNat_of_lt {m : Nat} (h : m < 0xd800) : (Char.ofNat m).toNat = m := by
  have hv : m.isValidChar := Or.inl h
  simp [Char.ofNat, hv, Char.ofNatAux, Char.toNat, UInt32.toNat]

theorem isUpper_iff_toNat (c : Char) : c.isUpper ↔ 65 ≤ c.toNat ∧ c.toNat ≤ 90 := by
  simp [Char.isUpper, UInt32.le_def, BitVec.le_def, Char.toNat, UInt32.toNat]

theorem isLower_iff_toNat (c : Char) : c.isLower ↔ 97 ≤ c.toNat ∧ c.toNat ≤ 122 := by
  simp [Char.isLower, UInt32.le_def, BitVec.le_def, Char.toNat, UInt32.toNat]

theorem isDigit_iff_toNat (c : Char) : c.isDigit ↔ 48 ≤ c.toNat ∧ c.toNat ≤ 57 := by
  simp [Char.isDigit, UInt32.le_def, BitVec.le_def, Char.toNat, UInt32.toNat]

theorem toNat_toLower (c : Char) :
    c.toLower.toNat = if 65 ≤ c.toNat ∧ c.toNat ≤ 90 then c.toNat + 32 else c.toNat := by
  simp only [Char.toLower, ge_iff_le]
  split
  · rw [toNat_ofNat_of_lt (by omega)]
  · rfl

end TfK8s.Py
