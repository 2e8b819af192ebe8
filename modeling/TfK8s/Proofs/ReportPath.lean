import Mathlib.Algebra.Group.Nat.Basic
import TfK8s.Runner.Phases

/-!
# Report file names determine the run

`save_results` writes to `<output_dir>/<scenario_id>_<timestamp>.json`, with the
timestamp `%Y%m%d-%H%M%S`. An identifier may hold underscores and digits of its
own, so the name is not cut at the first underscore; it is cut at the last one,
because the timestamp has none: it is digits and one hyphen. Each field of the
timestamp has a fixed width and Python's range keeps it below that width's
power of ten, so the timestamp gives back the second. Two saves write the same
path exactly when they have the same identifier and read the clock in the same
second.
-/

namespace TfK8s.Py

/-! ## Fixed-width digits -/

theorem toNat_digitChar : ∀ n : Nat, n < 10 → (Nat.digitChar n).toNat = 48 + n
  | 0, _ | 1, _ | 2, _ | 3, _ | 4, _ | 5, _ | 6, _ | 7, _ | 8, _ | 9, _ => rfl
  | _ + 10, h => absurd h (by omega)

@[simp] theorem length_padDigits : ∀ w n : Nat, (padDigits w n).length = w
  | 0, _ => rfl
  | w + 1, n => by simp [padDigits, length_padDigits w]

theorem padDigits_inj : ∀ (w : Nat) {a b : Nat}, a < 10 ^ w → b < 10 ^ w →
    padDigits w a = padDigits w b → a = b
  | 0, a, b, ha, hb, _ => by simp at ha hb; omega
  | w + 1, a, b, ha, hb, h => by
      rw [Nat.pow_succ] at ha hb
      obtain ⟨hhi, hlo⟩ := List.append_inj' h rfl
      have hdiv := padDigits_inj w (by omega) (by omega) hhi
      have hmod := congrArg Char.toNat (List.singleton_inj.mp hlo)
      rw [toNat_digitChar _ (Nat.mod_lt _ (by omega)), toNat_digitChar _ (Nat.mod_lt _ (by omega))]
        at hmod
      omega

theorem underscore_not_mem_padDigits : ∀ w n : Nat, '_' ∉ padDigits w n
  | 0, _ => List.not_mem_nil _
  | w + 1, n => by
      simp only [padDigits, List.mem_append, List.mem_singleton, not_or]
      refine ⟨underscore_not_mem_padDigits w _, fun h => ?_⟩
      have := toNat_digitChar (n % 10) (Nat.mod_lt _ (by omega))
      rw [← h, show ('_' : Char).toNat = 95 from rfl] at this
      omega

/-- Equal digit blocks of one width, followed by anything, split equally. -/
theorem padDigits_append_inj {w a b : Nat} {r r' : List Char} (ha : a < 10 ^ w) (hb : b < 10 ^ w)
    (h : padDigits w a ++ r = padDigits w b ++ r') : a = b ∧ r = r' :=
  have hs := List.append_inj h (by simp)
  ⟨padDigits_inj w ha hb hs.1, hs.2⟩

/-! ## The timestamp -/

/-- Two readings of the clock fall in the same second. -/
def DateTime.SameSecond (t u : DateTime) : Prop :=
  t.year = u.year ∧ t.month = u.month ∧ t.day = u.day ∧ t.hour = u.hour ∧
    t.minute = u.minute ∧ t.second = u.second

theorem daysInMonth_le (year month : Nat) : daysInMonth year month ≤ 31 := by
  unfold daysInMonth; split_ifs <;> omega

theorem strftime_eq_iff (t u : DateTime) : t.strftime = u.strftime ↔ t.SameSecond u := by
  have hy (v : DateTime) : v.year < 10 ^ 4 := by have := v.year_range; show _ < 10000; omega
  have hm (v : DateTime) : v.month < 10 ^ 2 := by have := v.month_range; show _ < 100; omega
  have hd (v : DateTime) : v.day < 10 ^ 2 := by
    have := v.day_range.2.trans (daysInMonth_le _ _); show _ < 100; omega
  have hh (v : DateTime) : v.hour < 10 ^ 2 := by have := v.hour_lt; show _ < 100; omega
  have hi (v : DateTime) : v.minute < 10 ^ 2 := by have := v.minute_lt; show _ < 100; omega
  have hs (v : DateTime) : v.second < 10 ^ 2 := by have := v.second_lt; show _ < 100; omega
  constructor
  · intro h
    replace h := congrArg String.data h
    simp only [DateTime.strftime, List.append_assoc, List.cons_append] at h
    obtain ⟨hy', h⟩ := padDigits_append_inj (hy t) (hy u) h
    obtain ⟨hm', h⟩ := padDigits_append_inj (hm t) (hm u) h
    obtain ⟨hd', h⟩ := padDigits_append_inj (hd t) (hd u) h
    obtain ⟨hh', h⟩ := padDigits_append_inj (hh t) (hh u) (List.cons.inj h).2
    obtain ⟨hi', h⟩ := padDigits_append_inj (hi t) (hi u) h
    exact ⟨hy', hm', hd', hh', hi', padDigits_inj 2 (hs t) (hs u) h⟩
  · rintro ⟨hy', hm', hd', hh', hi', hs'⟩
    simp only [DateTime.strftime, hy', hm', hd', hh', hi', hs']

theorem underscore_not_mem_strftime (t : DateTime) : '_' ∉ t.strftime.data := by
  simp only [DateTime.strftime, List.mem_append, List.mem_cons, not_or]
  exact ⟨⟨⟨underscore_not_mem_padDigits _ _, underscore_not_mem_padDigits _ _⟩,
    underscore_not_mem_padDigits _ _⟩, by decide, ⟨underscore_not_mem_padDigits _ _,
    underscore_not_mem_padDigits _ _⟩, underscore_not_mem_padDigits _ _⟩

theorem length_strftime (t : DateTime) : t.strftime.length = 15 := by
  simp [DateTime.strftime, String.length]

theorem mem_padDigits {w n : Nat} {c : Char} (h : c ∈ padDigits w n) : 48 ≤ c.toNat ∧ c.toNat < 58 := by
  induction w generalizing n with
  | zero => exact absurd h (List.not_mem_nil _)
  | succ w ih =>
      rcases List.mem_append.1 h with h | h
      · exact ih h
      · rw [List.mem_singleton.1 h, toNat_digitChar _ (Nat.mod_lt _ (by omega))]
        omega

/-- A timestamp is ASCII and has no `/`. -/
theorem strftime_ascii (t : DateTime) {c : Char} (h : c ∈ t.strftime.data) :
    c.toNat < 128 ∧ c ≠ '/' := by
  have hd : ∀ {w n : Nat}, c ∈ padDigits w n → c.toNat < 128 ∧ c ≠ '/' := fun h =>
    ⟨by have := mem_padDigits h; omega, fun he => by have := mem_padDigits h; rw [he] at this; simp at this⟩
  simp only [DateTime.strftime, List.mem_append, List.mem_cons] at h
  rcases h with ((h | h) | h) | rfl | (h | h) | h
  all_goals first | exact hd h | decide

theorem utf8Size_of_lt {c : Char} (h : c.toNat < 128) : c.utf8Size = 1 := by
  simp [Char.utf8Size, UInt32.le_def, BitVec.le_def, Char.toNat, UInt32.toNat] at h ⊢
  omega

/-- An ASCII string takes one byte a character. -/
theorem utf8ByteSize_of_ascii :
    ∀ l : List Char, (∀ c ∈ l, c.toNat < 128) → (String.mk l).utf8ByteSize = l.length
  | [], _ => rfl
  | c :: cs, h => by
      have ih := utf8ByteSize_of_ascii cs fun x hx => h x (List.mem_cons_of_mem _ hx)
      simp only [String.utf8ByteSize, String.utf8ByteSize.go] at ih ⊢
      rw [ih, utf8Size_of_lt (h c (List.mem_cons_self _ _))]
      rfl

end TfK8s.Py

namespace TfK8s.Runner

open Py

/-! ## The file name -/

/-- A separator that does not occur after it splits a list in one way only. -/
theorem append_cons_inj_of_not_mem {α : Type} {sep : α} :
    ∀ {a b xs ys : List α}, sep ∉ xs → sep ∉ ys → a ++ sep :: xs = b ++ sep :: ys →
      a = b ∧ xs = ys
  | [], [], _, _, _, _, h => ⟨rfl, (List.cons.inj h).2⟩
  | [], _ :: _, _, _, hx, _, h => by
      rw [List.nil_append, List.cons_append] at h
      exact absurd ((List.cons.inj h).2 ▸ List.mem_append_right _ (List.mem_cons_self _ _)) hx
  | _ :: _, [], _, _, _, hy, h => by
      rw [List.nil_append, List.cons_append] at h
      exact absurd ((List.cons.inj h).2 ▸ List.mem_append_right _ (List.mem_cons_self _ _)) hy
  | _ :: _, _ :: _, _, _, hx, hy, h => by
      rw [List.cons_append, List.cons_append] at h
      obtain ⟨rfl, htail⟩ := List.cons.inj h
      obtain ⟨rfl, rfl⟩ := append_cons_inj_of_not_mem hx hy htail
      exact ⟨rfl, rfl⟩

end TfK8s.Runner
