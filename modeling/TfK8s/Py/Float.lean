import Mathlib.Algebra.Group.Nat.Basic
import TfK8s.Py.Regex
import TfK8s.Py.Value

/-!
# Python's `float`

A CPython `float` is an IEEE 754 binary64, and each operation the scripts
apply to one (`int / int`, `float * int`, `float(str)`, `==`) gives its exact
result rounded once, to nearest with ties to even. A finite double is kept
here as its sign and its magnitude counted in units of `2^-1074`, the
smallest subnormal. Every finite double is a whole number of those units, so a
magnitude is a natural number and rounding is a division of naturals.

The doubles around a magnitude `q` are spaced by a power of two fixed by its
binade: `2^(log2 q - 52)` from `2^53` units on, and a single unit below, where
the subnormals and the first normal binade share the smallest spacing. A
magnitude that rounds to `2^2098` units or more, `2^1024`, overflows.

`float(s)` reads the grammar of the Python reference: surrounding whitespace,
a sign, then `inf`, `infinity` or `nan` in any case, or decimal digits with a
`_` allowed between two of them, an optional point and an optional exponent.
The value is the decimal's exact value, rounded once.
-/

namespace TfK8s.Py

/-- `a / d` rounded to the nearest natural number, ties to the even one. -/
def rne (a d : Nat) : Nat :=
  if 2 * (a % d) < d then a / d
  else if d < 2 * (a % d) then a / d + 1
  else if a / d % 2 = 0 then a / d else a / d + 1

/-- The spacing of the doubles around the magnitude `a / d`, as a power of two. -/
def ulpExp (a d : Nat) : Nat := (a / d).log2 - 52

/-- `2^1024` in units of `2^-1074`: the first magnitude no double has. -/
def overflowMag : Nat := 2 ^ 2098

/-- The magnitude `a / d` rounded to a double's, or `none` when it overflows. -/
def roundMag (a d : Nat) : Option Nat :=
  let m := rne a (d * 2 ^ ulpExp a d) * 2 ^ ulpExp a d
  if m < overflowMag then some m else none

/-- A Python `float`: a finite double by its sign and magnitude, an infinity,
or a NaN. -/
inductive PyFloat where
  | finite (neg : Bool) (mag : Nat)
  | inf (neg : Bool)
  | nan
  deriving DecidableEq, Repr

namespace PyFloat

/-- The double nearest `±a / d`, magnitudes in units of `2^-1074`. -/
def round (neg : Bool) (a d : Nat) : PyFloat :=
  match roundMag a d with
  | some m => finite neg m
  | none => inf neg

/-- The magnitude of `1.0`. -/
def unit : Nat := 2 ^ 1074

/-- `float(i)` for an `int`. -/
def ofInt (i : Int) : Except PyExc PyFloat :=
  match roundMag (i.natAbs * unit) 1 with
  | some m => .ok (finite (decide (i < 0)) m)
  | none => .error (.overflowError "int too large to convert to float")

/-- `a / b` for two `int`s: their exact quotient rounded once. -/
def trueDiv (a b : Int) : Except PyExc PyFloat :=
  if b = 0 then .error (.zeroDivisionError "division by zero")
  else match roundMag (a.natAbs * unit) b.natAbs with
    | some m => .ok (finite (xor (decide (a < 0)) (decide (b < 0))) m)
    | none => .error (.overflowError "integer division result too large for a float")

/-- `x * y`. -/
def mul : PyFloat → PyFloat → PyFloat
  | nan, _ | _, nan => nan
  | inf s, inf t => inf (xor s t)
  | inf s, finite t m | finite t m, inf s => if m = 0 then nan else inf (xor s t)
  | finite s m, finite t n => round (xor s t) (m * n) unit

/-- `x * i` for an `int` `i`, which is converted first. -/
def mulInt (x : PyFloat) (i : Int) : Except PyExc PyFloat :=
  (mul x ·) <$> ofInt i

/-- `x == y`: a NaN equals nothing, and the two zeros are equal. -/
def beq : PyFloat → PyFloat → Bool
  | finite s m, finite t n => m == n && (m == 0 || s == t)
  | inf s, inf t => s == t
  | _, _ => false

/-- `x == i` for an `int` `i`, compared exactly. -/
def eqInt : PyFloat → Int → Bool
  | finite s m, i => m == i.natAbs * unit && (m == 0 || s == decide (i < 0))
  | _, _ => false

/-! ## `float(str)` -/

/-- The digits of a `digitpart` at the front of `cs`, with a `_` allowed
between two digits, and what follows them. -/
def digitRun : List Char → List Char × List Char
  | c :: '_' :: d :: more =>
      if c.isDigit && d.isDigit then (c :: (digitRun (d :: more)).1, (digitRun (d :: more)).2)
      else if c.isDigit then ([c], '_' :: d :: more)
      else ([], c :: '_' :: d :: more)
  | c :: rest => if c.isDigit then (c :: (digitRun rest).1, (digitRun rest).2) else ([], c :: rest)
  | [] => ([], [])

/-- The number a run of decimal digits spells. -/
def digitsValue (ds : List Char) : Nat :=
  ds.foldl (fun n c => 10 * n + (c.toNat - '0'.toNat)) 0

/-- An optional `+` or `-`: whether it was `-`, and what follows. -/
def splitSign : List Char → Bool × List Char
  | '-' :: rest => (true, rest)
  | '+' :: rest => (false, rest)
  | cs => (false, cs)

/-- `floatnumber`, `[digitpart] "." digitpart | digitpart ["."]` and an
optional exponent, when it is all of `cs`: its digits, how many of them follow
the point, and the exponent. -/
def parseNumber (cs : List Char) : Option (List Char × Nat × Int) :=
  let (whole, rest) := digitRun cs
  let (frac, rest) := match rest with
    | '.' :: r => digitRun r
    | r => ([], r)
  if whole.isEmpty && frac.isEmpty then none
  else match rest with
    | [] => some (whole ++ frac, frac.length, 0)
    | e :: r =>
        if e = 'e' || e = 'E' then
          let (neg, r) := splitSign r
          match digitRun r with
          | (ds, []) =>
              if ds.isEmpty then none
              else some (whole ++ frac, frac.length,
                if neg then -(digitsValue ds : Int) else digitsValue ds)
          | _ => none
        else none

/-- `infinity` and `nan`, in any case. -/
def special (neg : Bool) (cs : List Char) : Option PyFloat :=
  let lower := cs.map Char.toLower
  if lower = "inf".data || lower = "infinity".data then some (inf neg)
  else if lower = "nan".data then some nan
  else none

/-- `±digits × 10^k`, rounded. -/
def ofDecimal (neg : Bool) (digits : Nat) (k : Int) : PyFloat :=
  if 0 ≤ k then round neg (digits * 10 ^ k.toNat * unit) 1
  else round neg (digits * unit) (10 ^ (-k).toNat)

/-- `float(s)` for a `str`. -/
def parse (s : String) : Except PyExc PyFloat :=
  let (neg, body) := splitSign (stripSpace s.data)
  match special neg body with
  | some x => .ok x
  | none =>
      match parseNumber body with
      | some (ds, f, e) => .ok (ofDecimal neg (digitsValue ds) (e - f))
      | none => .error (.valueError ("could not convert string to float: " ++ reprStr s))

end PyFloat

/-! ## Rounding to the nearest natural number -/

theorem rne_eq_or (a d : Nat) : rne a d = a / d ∨ rne a d = a / d + 1 := by
  unfold rne
  split_ifs <;> simp

/-- Below the midpoint `N + 1/2`, `a / d` rounds to at most `N`. -/
theorem rne_le {a d N : Nat} (h : 2 * a < (2 * N + 1) * d) : rne a d ≤ N := by
  have hd : 0 < d := Nat.pos_of_ne_zero fun h0 => by simp [h0] at h
  have hdm := Nat.div_add_mod a d
  have hq : a / d ≤ N := Nat.le_of_lt_succ ((Nat.div_lt_iff_lt_mul hd).2 (by
    rw [Nat.succ_mul]; rw [Nat.add_mul, Nat.mul_assoc] at h; omega))
  rcases Nat.lt_or_ge (a / d) N with hlt | hge
  · rcases rne_eq_or a d with he | he <;> omega
  · have hqN : a / d = N := by omega
    have h2 : 2 * (a % d) < d := by
      rw [hqN] at hdm; rw [Nat.add_mul, Nat.mul_assoc, Nat.mul_comm N d] at h; omega
    simp only [rne, h2, if_true]
    exact hq

/-- Above the midpoint `N - 1/2`, or on it with `N` even, `a / d` rounds to at
least `N`. -/
theorem le_rne {a d N : Nat} (hd : 0 < d)
    (h : (2 * N - 1) * d < 2 * a ∨ ((2 * N - 1) * d = 2 * a ∧ N % 2 = 0)) : N ≤ rne a d := by
  have hdm := Nat.div_add_mod a d
  have hr := Nat.mod_lt a hd
  rcases Nat.eq_zero_or_pos N with rfl | hN
  · exact Nat.zero_le _
  have hmul : (2 * N - 1) * d = 2 * ((N - 1) * d) + d := by
    rw [show 2 * N - 1 = 2 * (N - 1) + 1 by omega, Nat.add_mul, Nat.mul_assoc, Nat.one_mul]
  have hq : N - 1 ≤ a / d := (Nat.le_div_iff_mul_le hd).2 (by rw [hmul] at h; omega)
  rcases Nat.lt_or_ge (N - 1) (a / d) with hlt | heq
  · rcases rne_eq_or a d with he | he <;> omega
  · have hqN : a / d = N - 1 := by omega
    rw [hqN, Nat.mul_comm d] at hdm
    rw [hmul] at h
    unfold rne
    rw [hqN]
    split_ifs <;> omega

theorem rne_mul_left (m : Nat) {d : Nat} (hd : 0 < d) : rne (m * d) d = m := by
  simp [rne, Nat.mul_mod_left, Nat.mul_div_cancel m hd, hd]

theorem rne_scale (a d : Nat) {c : Nat} (hc : 0 < c) : rne (a * c) (d * c) = rne a d := by
  have e : 2 * (a % d * c) = 2 * (a % d) * c := (Nat.mul_assoc _ _ _).symm
  unfold rne
  rw [Nat.mul_div_mul_right _ _ hc, Nat.mul_mod_mul_right]
  simp only [e, Nat.mul_lt_mul_right hc]

/-! ## The spacing of the doubles -/

/-- In the binade `[2^(52+u), 2^(53+u))` with `u > 0`, the spacing is `2^u`. -/
theorem ulpExp_eq {a d u : Nat} (hd : 0 < d) (hu : 0 < u) (hlo : 2 ^ (52 + u) * d ≤ a)
    (hhi : a < 2 ^ (53 + u) * d) : ulpExp a d = u := by
  have hq1 : 2 ^ (52 + u) ≤ a / d := (Nat.le_div_iff_mul_le hd).2 hlo
  have hq2 : a / d < 2 ^ (53 + u) := (Nat.div_lt_iff_lt_mul hd).2 hhi
  have hq0 : a / d ≠ 0 := Nat.pos_iff_ne_zero.1 (Nat.lt_of_lt_of_le (Nat.two_pow_pos _) hq1)
  have h1 := (Nat.le_log2 hq0).2 hq1
  have h2 := (Nat.log2_lt hq0).2 hq2
  unfold ulpExp
  omega

/-- Below `2^53` units the spacing is a single unit. -/
theorem ulpExp_eq_zero {a d : Nat} (hd : 0 < d) (h : a < 2 ^ 53 * d) : ulpExp a d = 0 := by
  have hq2 : a / d < 2 ^ 53 := (Nat.div_lt_iff_lt_mul hd).2 h
  unfold ulpExp
  rcases Nat.eq_zero_or_pos (a / d) with h0 | h0
  · rw [h0, Nat.log2_zero]
  · have := (Nat.log2_lt (Nat.pos_iff_ne_zero.1 h0)).2 hq2
    omega

/-- Rounding in the binade `[2^(52+u), 2^(53+u))`: to a multiple of `2^u`. -/
theorem roundMag_of_binade {a d u : Nat} (hd : 0 < d) (hlo : u = 0 ∨ 2 ^ (52 + u) * d ≤ a)
    (hhi : a < 2 ^ (53 + u) * d) :
    roundMag a d = if rne a (d * 2 ^ u) * 2 ^ u < overflowMag
      then some (rne a (d * 2 ^ u) * 2 ^ u) else none := by
  have hu : ulpExp a d = u := by
    rcases Nat.eq_zero_or_pos u with rfl | hu
    · exact ulpExp_eq_zero hd hhi
    · exact ulpExp_eq hd hu (hlo.resolve_left (by omega)) hhi
  simp only [roundMag, hu]

/-- A magnitude some double has, `m × 2^p` with `m` a significand, rounds to
itself. -/
theorem roundMag_exact {m p d : Nat} (hd : 0 < d) (hm : m < 2 ^ 53) (hn : p = 0 ∨ 2 ^ 52 ≤ m)
    (hover : m * 2 ^ p < overflowMag) : roundMag (m * 2 ^ p * d) d = some (m * 2 ^ p) := by
  have hp : 0 < 2 ^ p := Nat.two_pow_pos p
  have hhi : m * 2 ^ p * d < 2 ^ (53 + p) * d := by
    rw [Nat.pow_add]
    exact Nat.mul_lt_mul_of_pos_right (Nat.mul_lt_mul_of_pos_right hm hp) hd
  have hlo : p = 0 ∨ 2 ^ (52 + p) * d ≤ m * 2 ^ p * d := hn.imp_right fun h => by
    rw [Nat.pow_add]
    exact Nat.mul_le_mul_right d (Nat.mul_le_mul_right _ h)
  have hr : rne (m * 2 ^ p * d) (d * 2 ^ p) = m := by
    rw [Nat.mul_assoc, Nat.mul_comm (2 ^ p) d]
    exact rne_mul_left m (Nat.mul_pos hd hp)
  rw [roundMag_of_binade hd hlo hhi, hr, if_pos hover]

/-- Every magnitude lies in the binade whose spacing `ulpExp` gives. -/
theorem binade_ulpExp (a : Nat) {d : Nat} (hd : 0 < d) :
    (ulpExp a d = 0 ∨ 2 ^ (52 + ulpExp a d) * d ≤ a) ∧ a < 2 ^ (53 + ulpExp a d) * d := by
  unfold ulpExp
  have hup : a < (a / d + 1) * d := (Nat.div_lt_iff_lt_mul hd).1 (Nat.lt_succ_self _)
  have htop : a / d + 1 ≤ 2 ^ ((a / d).log2 + 1) := Nat.lt_log2_self
  refine ⟨?_, Nat.lt_of_lt_of_le hup (Nat.mul_le_mul_right d
    (htop.trans (Nat.pow_le_pow_right (by decide) (by omega))))⟩
  rcases Nat.lt_or_ge (a / d).log2 53 with h | h
  · exact .inl (by omega)
  · have hq : a / d ≠ 0 := fun h0 => by rw [h0, Nat.log2_zero] at h; omega
    refine .inr ?_
    calc 2 ^ (52 + ((a / d).log2 - 52)) * d = 2 ^ (a / d).log2 * d := by
          rw [show 52 + ((a / d).log2 - 52) = (a / d).log2 by omega]
      _ ≤ a / d * d := Nat.mul_le_mul_right d (Nat.log2_self_le hq)
      _ ≤ a := Nat.div_mul_le_self a d

/-- Below the midpoint between the double `M × 2^p` and the next one up, a
magnitude rounds to at most `M × 2^p`. -/
theorem rounded_le_of_lt_mid {a d M p : Nat} (hd : 0 < d) (hM : M < 2 ^ 53)
    (hn : p = 0 ∨ 2 ^ 52 ≤ M) (h : 2 * a < (2 * M + 1) * (d * 2 ^ p)) :
    rne a (d * 2 ^ ulpExp a d) * 2 ^ ulpExp a d ≤ M * 2 ^ p := by
  obtain ⟨hlo, hhi⟩ := binade_ulpExp a hd
  rcases Nat.lt_trichotomy (ulpExp a d) p with hlt | heq | hgt
  · have hp : 2 ^ 52 ≤ M := hn.resolve_left (by omega)
    have hsplit : 2 ^ p = 2 ^ (p - ulpExp a d) * 2 ^ ulpExp a d := by
      rw [← Nat.pow_add, Nat.sub_add_cancel hlt.le]
    have ha : a < M * 2 ^ (p - ulpExp a d) * (d * 2 ^ ulpExp a d) := calc
      a < 2 ^ (53 + ulpExp a d) * d := hhi
      _ ≤ 2 ^ (52 + p) * d := Nat.mul_le_mul_right d (Nat.pow_le_pow_right (by decide) (by omega))
      _ ≤ M * 2 ^ p * d := by
        rw [Nat.pow_add]; exact Nat.mul_le_mul_right d (Nat.mul_le_mul_right _ hp)
      _ = M * 2 ^ (p - ulpExp a d) * (d * 2 ^ ulpExp a d) := by rw [hsplit]; ac_rfl
    have hr : rne a (d * 2 ^ ulpExp a d) ≤ M * 2 ^ (p - ulpExp a d) := rne_le (by
      rw [Nat.add_mul, Nat.mul_assoc, Nat.one_mul]; omega)
    calc rne a (d * 2 ^ ulpExp a d) * 2 ^ ulpExp a d
        ≤ M * 2 ^ (p - ulpExp a d) * 2 ^ ulpExp a d := Nat.mul_le_mul_right _ hr
      _ = M * 2 ^ p := by rw [hsplit, Nat.mul_assoc]
  · rw [heq]
    exact Nat.mul_le_mul_right _ (rne_le h)
  · have h1 : 2 ^ (53 + p) * d ≤ a := le_trans
      (Nat.mul_le_mul_right d (Nat.pow_le_pow_right (by decide) (by omega))) (hlo.resolve_left (by omega))
    have h2 : (2 * M + 1) * (d * 2 ^ p) ≤ 2 * (2 ^ (53 + p) * d) := calc
      (2 * M + 1) * (d * 2 ^ p) ≤ 2 ^ 54 * (d * 2 ^ p) := Nat.mul_le_mul_right _ (by omega)
      _ = 2 * (2 ^ (53 + p) * d) := by rw [Nat.pow_add, show 2 ^ 54 = 2 * 2 ^ 53 from rfl]; ac_rfl
    omega

/-- Rounding depends only on the quotient `a / d`. -/
theorem roundMag_mul_right (a d : Nat) {c : Nat} (hc : 0 < c) :
    roundMag (a * c) (d * c) = roundMag a d := by
  have hu : ulpExp (a * c) (d * c) = ulpExp a d := by
    simp only [ulpExp, Nat.mul_div_mul_right _ _ hc]
  simp only [roundMag, hu, Nat.mul_right_comm d c, rne_scale _ _ hc]

/-- Below the midpoint between the double `M × 2^p` and the next one up, a
magnitude rounds, without overflow, to at most `M × 2^p`. -/
theorem roundMag_le_of_lt_mid {a d M p : Nat} (hd : 0 < d) (hM : M < 2 ^ 53)
    (hn : p = 0 ∨ 2 ^ 52 ≤ M) (hover : M * 2 ^ p < overflowMag)
    (h : 2 * a < (2 * M + 1) * (d * 2 ^ p)) : ∃ x, roundMag a d = some x ∧ x ≤ M * 2 ^ p := by
  have hle := rounded_le_of_lt_mid hd hM hn h
  refine ⟨_, ?_, hle⟩
  simp only [roundMag]
  exact if_pos (Nat.lt_of_le_of_lt hle hover)

/-! ## A share as a percentage

`k / n * 100 == 100` for counts `k ≤ n`, as the verifiers compute a share of
checks passed: the quotient is rounded once, to `1.0` only when it lies within
half a spacing of it, and any double below `1.0` times `100` rounds below
`100.0`.
-/

namespace PyFloat

theorem ofInt_natCast {n m : Nat} (h : roundMag (n * unit) 1 = some m) :
    ofInt n = .ok (.finite false m) := by
  unfold ofInt
  rw [Int.natAbs_ofNat, h, decide_eq_false (by omega : ¬ (n : Int) < 0)]

theorem trueDiv_natCast {k n m : Nat} (hn : 0 < n) (h : roundMag (k * unit) n = some m) :
    trueDiv k n = .ok (.finite false m) := by
  unfold trueDiv
  rw [if_neg (by omega), Int.natAbs_ofNat, Int.natAbs_ofNat, h,
    decide_eq_false (by omega : ¬ (k : Int) < 0), decide_eq_false (by omega : ¬ (n : Int) < 0)]
  rfl

theorem round_of_roundMag {neg : Bool} {a d m : Nat} (h : roundMag a d = some m) :
    round neg a d = .finite neg m := by
  unfold round
  rw [h]

section Share

/- The magnitudes below are numerals of a few hundred digits; evaluating their
powers lets `omega` and `decide` treat them as the constants they are. -/
set_option exponentiation.threshold 2100

theorem roundMag_mul_unit (a : Nat) : roundMag (a * unit) unit = roundMag a 1 := by
  have := @roundMag_mul_right a 1 unit (by unfold unit; omega)
  rwa [Nat.one_mul] at this

theorem roundMag_hundred : roundMag (100 * unit) 1 = some (100 * unit) := by
  have := @roundMag_exact (100 * 2 ^ 46) 1028 1 Nat.one_pos (by omega) (.inr (by omega))
    (by unfold overflowMag; omega)
  rwa [show 100 * 2 ^ 46 * 2 ^ 1028 = 100 * unit by unfold unit; omega] at this

/-- When at most `n / 2^54` of `n` fall short, `k / n` rounds to `1.0`. -/
theorem roundMag_share_one {k n : Nat} (hn : 0 < n) (hk : k ≤ n) (h : 2 ^ 54 * (n - k) ≤ n) :
    roundMag (k * unit) n = some unit := by
  rcases Nat.lt_or_ge k n with hlt | hge
  · have hr : rne (k * unit) (n * 2 ^ 1021) = 2 ^ 53 := by
      unfold unit
      exact Nat.le_antisymm (rne_le (by omega)) (le_rne (by omega) (by omega))
    rw [@roundMag_of_binade (k * unit) n 1021 hn (.inr (by unfold unit; omega))
      (by unfold unit; omega), hr, if_pos (by unfold overflowMag; omega)]
    rfl
  · obtain rfl : k = n := Nat.le_antisymm hk hge
    have := @roundMag_exact (2 ^ 52) 1022 k hn (by omega) (.inr (Nat.le_refl _))
      (by unfold overflowMag; omega)
    rwa [show 2 ^ 52 * 2 ^ 1022 * k = k * unit by unfold unit; omega,
      show 2 ^ 52 * 2 ^ 1022 = unit from rfl] at this

/-- Otherwise `k / n` rounds to at most the double below `1.0`. -/
theorem roundMag_share_lt {k n : Nat} (h : n < 2 ^ 54 * (n - k)) :
    ∃ m, roundMag (k * unit) n = some m ∧ m ≤ (2 ^ 53 - 1) * 2 ^ 1021 :=
  roundMag_le_of_lt_mid (by omega) (by omega) (.inr (by omega)) (by unfold overflowMag; omega)
    (by unfold unit; omega)

/-- `x * 100` for a double `x` below `1.0` is below `100.0`. -/
theorem mul_hundred_lt {m : Nat} (hm : m ≤ (2 ^ 53 - 1) * 2 ^ 1021) :
    ∃ y, mul (.finite false m) (.finite false (100 * unit)) = .finite false y ∧ y < 100 * unit := by
  obtain ⟨y, hy, hle⟩ := @roundMag_le_of_lt_mid (m * 100) 1 (100 * 2 ^ 46 - 1) 1028 Nat.one_pos
    (by omega) (.inr (by omega)) (by unfold overflowMag; omega) (by omega)
  refine ⟨y, round_of_roundMag ?_, by unfold unit; omega⟩
  rwa [← Nat.mul_assoc, roundMag_mul_unit]

/-- `x * 100` for `x = 1.0` is `100.0`. -/
theorem mul_hundred_one :
    mul (.finite false unit) (.finite false (100 * unit)) = .finite false (100 * unit) := by
  refine round_of_roundMag ?_
  rw [Nat.mul_comm unit, roundMag_mul_unit, roundMag_hundred]

theorem ofInt_hundred : ofInt 100 = .ok (.finite false (100 * unit)) := by
  have h : ofInt ((100 : Nat) : Int) = .ok (.finite false (100 * unit)) :=
    ofInt_natCast roundMag_hundred
  exact h

theorem mulInt_hundred (x : PyFloat) : x.mulInt 100 = .ok (mul x (.finite false (100 * unit))) := by
  unfold mulInt
  rw [ofInt_hundred]
  rfl

end Share

/-- `k / n * 100 == 100` for counts `k ≤ n` of `n > 0`: it holds exactly when
at most `n / 2^54` of them fall short. -/
theorem share_percent_eq_hundred {k n : Nat} (hn : 0 < n) (hk : k ≤ n) :
    ∃ y, (trueDiv k n >>= fun share => share.mulInt 100) = .ok y ∧
      (y.eqInt 100 = true ↔ 2 ^ 54 * (n - k) ≤ n) := by
  by_cases h : 2 ^ 54 * (n - k) ≤ n
  · refine ⟨.finite false (100 * unit), ?_, iff_of_true (by simp [eqInt]) h⟩
    rw [trueDiv_natCast hn (roundMag_share_one hn hk h), exceptOk_bind, mulInt_hundred,
      mul_hundred_one]
  · obtain ⟨m, hm, hle⟩ := roundMag_share_lt (Nat.lt_of_not_le h)
    obtain ⟨y, hy, hlt⟩ := mul_hundred_lt hle
    refine ⟨.finite false y, ?_, iff_of_false (by simp [eqInt, Nat.ne_of_lt hlt]) h⟩
    rw [trueDiv_natCast hn hm, exceptOk_bind, mulInt_hundred, hy]

end PyFloat

end TfK8s.Py
