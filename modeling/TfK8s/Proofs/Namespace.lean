import TfK8s.Validator.Definition
import TfK8s.Runner.Phases

/-!
# The identifiers the validator accepts, and their namespaces

The validator's pattern `^TF-[A-Z]+-[0-9]+_[A-Za-z0-9_]+$` cuts an accepted
identifier into a category, a number and a name, with one twist: `$` matches
before a newline that ends the subject, so the identifier may carry one. The
first section proves that the pattern accepts exactly the texts of `IdParts`.

`setup_scenario` derives the namespace `tf-k8s-<id>` with the identifier lower
cased and its underscores turned into hyphens. Kubernetes wants an RFC 1123
label: at most 63 characters of `[a-z0-9-]`, alphanumeric at both ends. An
accepted identifier gives one exactly when it has at most 56 characters and
ends in neither an underscore nor a newline; the name part may end in `_`,
and `TF-A-1_a_` is accepted with the namespace `tf-k8s-tf-a-1-a-`.

The derivation loses nothing but case. The hyphens of an accepted identifier
are the two that follow `TF` and the category, and every later hyphen of the
namespace was an underscore, so `restoreFrom 2` undoes the swap: two accepted
identifiers share a namespace exactly when they agree once lower cased.
-/

namespace TfK8s.Validator

open Py

/-! ## The accepted identifiers -/

/-- The parts of an identifier `id_pattern` accepts. -/
structure IdParts where
  category : List Char
  number : List Char
  name : List Char
  /-- whether the identifier ends in the newline `$` lets through -/
  newline : Bool
  category_ne : category ≠ []
  category_upper : ∀ c ∈ category, c.isUpper = true
  number_ne : number ≠ []
  number_digit : ∀ c ∈ number, c.isDigit = true
  name_ne : name ≠ []
  name_word : ∀ c ∈ name, isWordChar c = true

/-- What follows the name: the newline, if any. -/
def IdParts.ending (p : IdParts) : List Char := if p.newline then ['\n'] else []

/-- `TF-<category>-<number>_<name>`, then the ending. -/
def IdParts.text (p : IdParts) : List Char :=
  'T' :: 'F' :: '-' :: (p.category ++ '-' :: (p.number ++ '_' :: (p.name ++ p.ending)))

/-- The identifier after its second hyphen: the number, the underscore, the
name and the ending. -/
def IdParts.tail (p : IdParts) : List Char := p.number ++ '_' :: (p.name ++ p.ending)

theorem IdParts.text_eq_tail (p : IdParts) :
    p.text = 'T' :: 'F' :: '-' :: (p.category ++ '-' :: p.tail) := rfl

theorem reMatch_idPattern_iff (s : String) :
    reMatch idPattern s = true ↔ ∃ p : IdParts, s.data = p.text := by
  simp only [reMatch, idPattern, matchItems_caret, Bool.true_and, matchItems_one, matchItems_plus,
    matchItems_dollar, matchItems_nil, and_true, beq_iff_eq]
  constructor
  · rintro ⟨_, _, hs, rfl, _, _, rfl, rfl, _, _, rfl, rfl, cat, _, rfl, hcat, hup, _, _, rfl, rfl,
      num, _, rfl, hnum, hdig, _, _, rfl, rfl, name, nl, rfl, hname, hword, hnl⟩
    refine ⟨⟨cat, num, name, nl = ['\n'], hcat, hup, hnum, hdig, hname, hword⟩, ?_⟩
    rcases hnl with rfl | rfl <;> simp [hs, IdParts.text, IdParts.ending]
  · rintro ⟨p, hs⟩
    exact ⟨_, _, hs, rfl, _, _, rfl, rfl, _, _, rfl, rfl, _, _, rfl, p.category_ne,
      p.category_upper, _, _, rfl, rfl, _, _, rfl, p.number_ne, p.number_digit, _, _, rfl, rfl,
      _, _, rfl, p.name_ne, p.name_word, by unfold IdParts.ending; split <;> simp⟩

/-! ## Characters, as numbers -/

theorem char_eq_iff_toNat {c d : Char} : c = d ↔ c.toNat = d.toNat :=
  ⟨congrArg _, fun h => by rw [← Char.ofNat_toNat c, h, Char.ofNat_toNat]⟩

theorem isWordChar_iff_toNat (c : Char) : isWordChar c = true ↔
    (48 ≤ c.toNat ∧ c.toNat ≤ 57) ∨ (65 ≤ c.toNat ∧ c.toNat ≤ 90) ∨
      (97 ≤ c.toNat ∧ c.toNat ≤ 122) ∨ c.toNat = 95 := by
  simp only [isWordChar, Char.isAlphanum, Char.isAlpha, Bool.or_eq_true, isUpper_iff_toNat,
    isLower_iff_toNat, isDigit_iff_toNat, beq_iff_eq, char_eq_iff_toNat,
    show ('_' : Char).toNat = 95 from rfl]
  constructor <;> intro h <;> omega

/-! ## The characters of an accepted identifier -/

theorem word_of_upper {c : Char} (h : c.isUpper = true) : isWordChar c = true := by
  simp [isWordChar, Char.isAlphanum, Char.isAlpha, h]

theorem word_of_digit {c : Char} (h : c.isDigit = true) : isWordChar c = true := by
  simp [isWordChar, Char.isAlphanum, h]

theorem IdParts.mem_text {p : IdParts} {c : Char} (h : c ∈ p.text) :
    isWordChar c = true ∨ c = '-' ∨ c = '\n' := by
  simp only [IdParts.text, IdParts.ending, List.mem_cons, List.mem_append] at h
  rcases h with rfl | rfl | rfl | h | rfl | h | rfl | h | h
  · exact .inl (by decide)
  · exact .inl (by decide)
  · exact .inr (.inl rfl)
  · exact .inl (word_of_upper (p.category_upper c h))
  · exact .inr (.inl rfl)
  · exact .inl (word_of_digit (p.number_digit c h))
  · exact .inl (by decide)
  · exact .inl (p.name_word c h)
  · split at h <;> simp_all

/-- An accepted identifier is ASCII, and has no `/`. -/
theorem IdParts.text_ascii {p : IdParts} {c : Char} (h : c ∈ p.text) : c.toNat < 128 ∧ c ≠ '/' := by
  rcases p.mem_text h with hw | rfl | rfl
  · rw [isWordChar_iff_toNat] at hw
    exact ⟨by omega, fun he => by rw [he] at hw; revert hw; decide⟩
  · decide
  · decide

end TfK8s.Validator

namespace TfK8s.Runner

open Py Validator

/-! ## RFC 1123 labels -/

/-- A character a label may hold: `[a-z0-9-]`. -/
def isLabelChar (c : Char) : Bool := c.isLower || c.isDigit || c == '-'

/-- A character a label may start and end with: `[a-z0-9]`. -/
def isLabelEnd (c : Char) : Bool := c.isLower || c.isDigit

/-- A valid Kubernetes namespace name: an RFC 1123 label of at most 63
characters. -/
def isDnsLabel (s : String) : Bool :=
  s.length ≤ 63 && s.data.all isLabelChar && s.data.head?.any isLabelEnd &&
    s.data.getLast?.any isLabelEnd

/-- What the namespace makes of one character of the identifier. -/
def nsChar (c : Char) : Char := swapChar '_' '-' c.toLower

/-- On an accepted identifier, which is ASCII, the namespace maps the
identifier character by character. -/
theorem namespaceName_data (p : IdParts) {s : String} (hs : s.data = p.text) :
    (namespaceName s).data = "tf-k8s-".data ++ s.data.map nsChar := by
  rw [namespaceName, lower_of_ascii fun c hc => (IdParts.text_ascii (hs ▸ hc)).1]
  simp [nsChar, List.map_map, Function.comp_def]

theorem length_namespaceName (p : IdParts) {s : String} (hs : s.data = p.text) :
    (namespaceName s).length = 7 + s.length := by
  simp only [String.length, namespaceName_data p hs, List.length_append, List.length_map]
  rfl

/-- A word character lowered: `[a-z0-9_]`, and the namespace's character for
it is `[a-z0-9-]`, alphanumeric unless it was an underscore. -/
theorem nsChar_word {c : Char} (h : isWordChar c = true) :
    c.toLower ≠ '-' ∧ (c ≠ '_' → c.toLower ≠ '_') ∧ isLabelChar (nsChar c) = true ∧
      (isLabelEnd (nsChar c) = true ↔ c ≠ '_') := by
  rw [isWordChar_iff_toNat] at h
  have hl := toNat_toLower c
  unfold nsChar swapChar
  split_ifs at hl ⊢ <;>
    simp only [isLabelChar, isLabelEnd, Bool.or_eq_true, isLower_iff_toNat, isDigit_iff_toNat,
      beq_iff_eq, char_eq_iff_toNat, ne_eq, show ('_' : Char).toNat = 95 from rfl,
      show ('-' : Char).toNat = 45 from rfl, or_true, true_and] at * <;>
    omega

theorem underscore_ne_of_upper {c : Char} (h : c.isUpper = true) : c ≠ '_' := by
  rintro rfl; cases h

theorem getLast?_text (p : IdParts) :
    p.text.getLast? = if p.newline then some '\n' else p.name.getLast? := by
  have hne : p.name ++ p.ending ≠ [] := by simp [p.name_ne]
  rw [show p.text = ('T' :: 'F' :: '-' :: (p.category ++ '-' :: (p.number ++ ['_']))) ++
      (p.name ++ p.ending) by simp [IdParts.text], List.getLast?_append_of_ne_nil _ hne]
  unfold IdParts.ending
  split <;> simp [List.getLast?_concat]

/-! ## The namespace is a label exactly when the identifier is short and ends well -/

theorem all_isLabelChar_namespaceName (p : IdParts) {s : String} (hs : s.data = p.text) :
    (namespaceName s).data.all isLabelChar = !p.newline := by
  have hw : ∀ l : List Char, (∀ c ∈ l, isWordChar c = true) → (l.map nsChar).all isLabelChar :=
    fun l h => List.all_eq_true.mpr fun x hx => by
      obtain ⟨c, hc, rfl⟩ := List.mem_map.mp hx
      exact (nsChar_word (h c hc)).2.2.1
  have hend : (p.ending.map nsChar).all isLabelChar = !p.newline := by
    unfold IdParts.ending; cases p.newline <;> decide
  simp only [namespaceName_data p hs, hs, IdParts.text, List.map_cons, List.map_append,
    List.all_append,
    List.all_cons, hw _ fun c hc => word_of_upper (p.category_upper c hc),
    hw _ fun c hc => word_of_digit (p.number_digit c hc), hw _ p.name_word, hend]
  generalize p.newline = b
  cases b <;> decide

theorem namespaceName_isDnsLabel_iff (s : String) (h : reMatch idPattern s = true) :
    isDnsLabel (namespaceName s) = true ↔
      s.length ≤ 56 ∧ s.data.getLast? ≠ some '_' ∧ s.data.getLast? ≠ some '\n' := by
  obtain ⟨p, hs⟩ := (reMatch_idPattern_iff s).1 h
  obtain ⟨c, hc⟩ : ∃ c, p.name.getLast? = some c :=
    Option.ne_none_iff_exists'.mp (List.getLast?_eq_none_iff.not.mpr p.name_ne)
  have hlast : (namespaceName s).data.getLast? = (s.data.getLast?).map nsChar := by
    rw [namespaceName_data p hs, List.getLast?_append_of_ne_nil _ (by simp [hs, IdParts.text]),
      List.getLast?_map]
  have hhead : (namespaceName s).data.head? = some 't' := rfl
  have hlen := length_namespaceName p hs
  have hcw := nsChar_word (p.name_word c (List.mem_of_getLast?_eq_some hc))
  unfold isDnsLabel
  rw [all_isLabelChar_namespaceName p hs, hlast, hhead, hlen, hs, getLast?_text]
  cases p.newline
  · have hnl : c ≠ '\n' := by
      rintro rfl; exact absurd (p.name_word _ (List.mem_of_getLast?_eq_some hc)) (by decide)
    simp only [hc, Bool.false_eq_true, if_false, Option.map_some', Option.any_some,
      Bool.and_eq_true, decide_eq_true_eq, Bool.not_false, show isLabelEnd 't' = true by decide,
      and_true, hcw.2.2.2, ne_eq, Option.some.injEq, hnl, not_false_eq_true]
    exact and_congr (by omega) Iff.rfl
  · simp

theorem namespaceName_isDnsLabel_iff_volume :
    reMatch idPattern "TF-SLO-7_Volume" = true ∧
      (isDnsLabel (namespaceName "TF-SLO-7_Volume") = true ↔
        "TF-SLO-7_Volume".length ≤ 56 ∧ "TF-SLO-7_Volume".data.getLast? ≠ some '_' ∧
          "TF-SLO-7_Volume".data.getLast? ≠ some '\n') :=
  ⟨by decide, namespaceName_isDnsLabel_iff "TF-SLO-7_Volume" (by decide)⟩

/-- An accepted identifier whose name part ends in an underscore. -/
theorem namespaceName_trailing_hyphen :
    reMatch idPattern "TF-A-1_a_" = true ∧ namespaceName "TF-A-1_a_" = "tf-k8s-tf-a-1-a-" ∧
      isDnsLabel (namespaceName "TF-A-1_a_") = false := by
  decide

/-! ## Only case is lost -/

/-- Keep the first `k` hyphens and turn every later one back into an
underscore. -/
def restoreFrom : Nat → List Char → List Char
  | _, [] => []
  | 0, c :: cs => swapChar '-' '_' c :: restoreFrom 0 cs
  | k + 1, c :: cs => c :: restoreFrom (if c = '-' then k else k + 1) cs

theorem restoreFrom_zero_map :
    ∀ l : List Char, '-' ∉ l → restoreFrom 0 (l.map (swapChar '_' '-')) = l
  | [], _ => rfl
  | c :: cs, h => by
      rw [List.mem_cons, not_or] at h
      have hc : swapChar '-' '_' (swapChar '_' '-' c) = c := by
        unfold swapChar; split_ifs <;> simp_all
      rw [List.map_cons, restoreFrom, hc, restoreFrom_zero_map cs h.2]

theorem restoreFrom_succ_append (k : Nat) (rest : List Char) :
    ∀ pre : List Char, '-' ∉ pre → restoreFrom (k + 1) (pre ++ rest) = pre ++ restoreFrom (k + 1) rest
  | [], _ => rfl
  | c :: cs, h => by
      rw [List.mem_cons, not_or] at h
      rw [List.cons_append, restoreFrom, if_neg (Ne.symm h.1), restoreFrom_succ_append k rest cs h.2,
        List.cons_append]

theorem restoreFrom_succ_hyphen (k : Nat) (rest : List Char) :
    restoreFrom (k + 1) ('-' :: rest) = '-' :: restoreFrom k rest := by
  simp [restoreFrom]

theorem map_swapChar_of_not_mem {a b : Char} : ∀ l : List Char, a ∉ l → l.map (swapChar a b) = l
  | [], _ => rfl
  | c :: cs, h => by
      rw [List.mem_cons, not_or] at h
      simp [swapChar, Ne.symm h.1, map_swapChar_of_not_mem cs h.2]

theorem map_nsChar (l : List Char) :
    l.map nsChar = (l.map Char.toLower).map (swapChar '_' '-') := by
  simp [nsChar, Function.comp_def]

/-- The word characters of `l` lowered: no hyphen among them. -/
theorem hyphen_not_mem_lower {l : List Char} (h : ∀ c ∈ l, isWordChar c = true) :
    '-' ∉ l.map Char.toLower :=
  fun hm => by
    obtain ⟨c, hc, he⟩ := List.mem_map.mp hm
    exact (nsChar_word (h c hc)).1 he

/-- `restoreFrom 2` undoes the namespace's swap on an accepted identifier. -/
theorem restoreFrom_namespace (p : IdParts) :
    restoreFrom 2 (p.text.map nsChar) = p.text.map Char.toLower := by
  have hcat : p.category.map Char.toLower = p.category.map nsChar ∧
      '-' ∉ p.category.map Char.toLower := by
    have hw c (hc : c ∈ p.category) := nsChar_word (word_of_upper (p.category_upper c hc))
    have hu : '_' ∉ p.category.map Char.toLower := fun hm => by
      obtain ⟨c, hc, he⟩ := List.mem_map.mp hm
      exact (hw c hc).2.1 (underscore_ne_of_upper (p.category_upper c hc)) he
    rw [map_nsChar, map_swapChar_of_not_mem _ hu]
    exact ⟨rfl, hyphen_not_mem_lower fun c hc => word_of_upper (p.category_upper c hc)⟩
  have htail : '-' ∉ p.tail.map Char.toLower := by
    have hend : '-' ∉ p.ending.map Char.toLower := by unfold IdParts.ending; split <;> decide
    simp only [IdParts.tail, List.map_append, List.map_cons, List.mem_append, List.mem_cons, not_or]
    exact ⟨hyphen_not_mem_lower fun c hc => word_of_digit (p.number_digit c hc), by decide,
      hyphen_not_mem_lower p.name_word, hend⟩
  calc restoreFrom 2 (p.text.map nsChar)
      = ['t', 'f'] ++ restoreFrom 2 ('-' :: (p.category.map Char.toLower ++
          '-' :: (p.tail.map Char.toLower).map (swapChar '_' '-'))) := by
        rw [← restoreFrom_succ_append 1 _ _ (by decide), IdParts.text_eq_tail, hcat.1,
          ← map_nsChar]
        simp only [List.map_cons, List.map_append, show nsChar '-' = '-' by decide,
          List.cons_append, List.nil_append, show nsChar 'T' = 't' by decide,
          show nsChar 'F' = 'f' by decide]
    _ = ['t', 'f'] ++ '-' :: (p.category.map Char.toLower ++ '-' :: p.tail.map Char.toLower) := by
        rw [restoreFrom_succ_hyphen, restoreFrom_succ_append 0 _ _ hcat.2, restoreFrom_succ_hyphen,
          restoreFrom_zero_map _ htail]
    _ = p.text.map Char.toLower := by
        simp only [IdParts.text_eq_tail, List.map_cons, List.map_append, List.cons_append,
          List.nil_append, show 'T'.toLower = 't' by decide, show 'F'.toLower = 'f' by decide,
          show '-'.toLower = '-' by decide]

theorem namespaceName_eq_iff (s t : String) (hs : reMatch idPattern s = true)
    (ht : reMatch idPattern t = true) :
    namespaceName s = namespaceName t ↔ lower s.data = lower t.data := by
  obtain ⟨p, hp⟩ := (reMatch_idPattern_iff s).1 hs
  obtain ⟨q, hq⟩ := (reMatch_idPattern_iff t).1 ht
  constructor
  · intro h
    have hmap : s.data.map nsChar = t.data.map nsChar :=
      List.append_cancel_left (by rw [← namespaceName_data p hp, ← namespaceName_data q hq, h])
    rw [lower_of_ascii fun c hc => (IdParts.text_ascii (hp ▸ hc)).1,
      lower_of_ascii fun c hc => (IdParts.text_ascii (hq ▸ hc)).1, hp, hq,
      ← restoreFrom_namespace, ← restoreFrom_namespace, ← hp, ← hq, hmap]
  · intro h
    simp only [namespaceName, h]

theorem namespaceName_eq_iff_case :
    reMatch idPattern "TF-SLO-7_Vol" = true ∧ reMatch idPattern "TF-SLO-7_vol" = true ∧
      (namespaceName "TF-SLO-7_Vol" = namespaceName "TF-SLO-7_vol" ↔
        lower "TF-SLO-7_Vol".data = lower "TF-SLO-7_vol".data) :=
  ⟨by decide, by decide, namespaceName_eq_iff _ _ (by decide) (by decide)⟩

end TfK8s.Runner
