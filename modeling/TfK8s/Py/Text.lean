import Mathlib.Data.List.Basic
import Mathlib.Data.List.Infix
import TfK8s.Py.Unicode

/-!
# Python's string methods on character lists

The runner builds every namespace, command and report path with
`str.replace`, `str.lower` and f-strings, and the validator tests fields with
`in`. Each is modelled here on `List Char` by structural recursion, so that a
model built from them evaluates under `decide` and a proof about it inducts on
the string itself. A Python `str` is the `String` whose `data` is that list.

`str.lower` maps each character by the Unicode tables, with two exceptions
the tables do not cover: `İ` becomes two characters, and `Σ` becomes `ς` at the
end of a word and `σ` elsewhere. What counts as the end of a word is CPython's
final-sigma test, which looks past case-ignorable characters on both sides, so
`lowerFrom` carries the characters already read, nearest first.
-/

namespace TfK8s.Py

/-- The scan behind `s.replace(old, new)` for a non-empty `old`: left to right,
each match replaced and passed over, so that matches never overlap. `skip`
counts the characters of the last match still to pass over. -/
def replaceGo (old new : List Char) : Nat → List Char → List Char
  | _, [] => []
  | skip + 1, _ :: cs => replaceGo old new skip cs
  | 0, c :: cs =>
      if old.isPrefixOf (c :: cs) then new ++ replaceGo old new (old.length - 1) cs
      else c :: replaceGo old new 0 cs

/-- `s.replace(old, new)`. An empty `old` matches before every character and
at the end. -/
def replace (s old new : List Char) : List Char :=
  if old.isEmpty then new ++ s.flatMap (· :: new) else replaceGo old new 0 s

/-- The lower case of a character other than `Σ`: ASCII letters by
`Char.toLower`, `İ` as `i` and a combining dot above, and every other character
by the first rule of `Unicode.lowerRules` that covers it, or unchanged. -/
def lowerChar (c : Char) : List Char :=
  if c.toNat < 128 then [c.toLower]
  else if c.toNat = 0x130 then ['i', '\u0307']
  else
    match Unicode.lowerRules.find? fun r =>
        r.1 ≤ c.toNat && c.toNat ≤ r.2.1 && (c.toNat - r.1) % r.2.2.1 == 0 with
    | some r => [Char.ofNat (c.toNat + r.2.2.2).toNat]
    | none => [c]

/-- Unicode's `Cased`, less the characters that are also case-ignorable. -/
def isCased (c : Char) : Bool := Unicode.inRanges Unicode.casedRanges c.toNat

/-- Unicode's `Case_Ignorable`. -/
def isCaseIgnorable (c : Char) : Bool := Unicode.inRanges Unicode.caseIgnorableRanges c.toNat

/-- CPython's final-sigma test for a `Σ` between `before` (nearest first) and
`after`: past the case-ignorable characters, a cased one precedes it and none
follows it. -/
def finalSigma (before after : List Char) : Bool :=
  (match before.dropWhile isCaseIgnorable with
    | c :: _ => isCased c
    | [] => false) &&
  (match after.dropWhile isCaseIgnorable with
    | c :: _ => !isCased c
    | [] => true)

/-- `str.lower` from a position on, `before` holding the characters already
read, nearest first. -/
def lowerFrom : List Char → List Char → List Char
  | _, [] => []
  | before, c :: cs =>
      (if c = 'Σ' then [if finalSigma before cs then 'ς' else 'σ'] else lowerChar c) ++
        lowerFrom (c :: before) cs

/-- `s.lower()`. -/
def lower (s : List Char) : List Char := lowerFrom [] s

/-- `sub in s` for two strings. -/
def isSubstr (sub s : List Char) : Bool := s.tails.any sub.isPrefixOf

/-- `s.split(sep)` for a one-character `sep`: the pieces between the
separators, empty ones kept. -/
def splitChar (sep : Char) : List Char → List (List Char)
  | [] => [[]]
  | c :: cs =>
      if c = sep then [] :: splitChar sep cs
      else
        match splitChar sep cs with
        | [] => [[c]]
        | p :: ps => (c :: p) :: ps

/-- The one-character substitution `s.replace(a, b)` used for namespaces. -/
def swapChar (a b c : Char) : Char := if c = a then b else c

/-- `s.split(sep, 1)` for a string with a `sep`: the text before the first
`sep`, and the text after it. -/
def splitFirst (sep : Char) (s : List Char) : List Char × List Char :=
  (s.takeWhile (· ≠ sep), (s.dropWhile (· ≠ sep)).drop 1)

/-- `s.strip(chars)`: the text without the characters of `chars` at either end. -/
def stripChars (chars s : List Char) : List Char :=
  ((s.dropWhile (· ∈ chars)).reverse.dropWhile (· ∈ chars)).reverse

/-- The characters `str.splitlines` ends a line at. -/
def isLineBreak (c : Char) : Bool :=
  c = '\n' || c = '\r' || c = '\x0b' || c = '\x0c' || c = '\x1c' || c = '\x1d' || c = '\x1e' ||
    c = '\x85' || c = '\u2028' || c = '\u2029'

/-- The lines of the rest of a string, `cur` holding the current line so far,
last character first, and `afterCR` saying whether a `\r` has just ended a
line, so that a `\n` right after it ends nothing more. What follows the last
break is a line only if it is not empty. -/
def splitlinesFrom (cur : List Char) (afterCR : Bool) : List Char → List (List Char)
  | [] => if cur.isEmpty then [] else [cur.reverse]
  | c :: rest =>
      if afterCR && c = '\n' then splitlinesFrom cur false rest
      else if isLineBreak c then cur.reverse :: splitlinesFrom [] (c = '\r') rest
      else splitlinesFrom (c :: cur) false rest

/-- `s.splitlines()`. -/
def splitlines (s : List Char) : List (List Char) := splitlinesFrom [] false s

theorem replaceGo_single (a b : Char) :
    ∀ s : List Char, replaceGo [a] [b] 0 s = s.map (swapChar a b)
  | [] => rfl
  | c :: cs => by
      have ih := replaceGo_single a b cs
      by_cases h : c = a
      · subst h; simp [replaceGo, swapChar, ih]
      · simp [replaceGo, swapChar, h, Ne.symm h, ih]

/-- Replacing one character by another is a map over the string. -/
@[simp] theorem replace_single (s : List Char) (a b : Char) :
    replace s [a] [b] = s.map (swapChar a b) := by
  simp [replace, replaceGo_single]

theorem replaceGo_nil_sublist (old : List Char) : ∀ (skip : Nat) (s : List Char),
    (replaceGo old [] skip s).Sublist s
  | skip, [] => by cases skip <;> exact List.Sublist.slnil
  | skip + 1, c :: cs => (replaceGo_nil_sublist old skip cs).cons c
  | 0, c :: cs => by
      rw [replaceGo]
      split
      · exact (replaceGo_nil_sublist old _ cs).cons c
      · exact (replaceGo_nil_sublist old 0 cs).cons₂ c

/-- Replacing by nothing only deletes characters. -/
theorem replace_nil_sublist (s old : List Char) : (replace s old []).Sublist s := by
  unfold replace
  split
  · simp
  · exact replaceGo_nil_sublist old 0 s

theorem lowerChar_of_ascii {c : Char} (h : c.toNat < 128) : lowerChar c = [c.toLower] := by
  simp only [lowerChar, if_pos h]

/-- On ASCII text `str.lower` is `Char.toLower` letter by letter, whatever came
before. -/
theorem lowerFrom_of_ascii (before : List Char) {s : List Char} (h : ∀ c ∈ s, c.toNat < 128) :
    lowerFrom before s = s.map Char.toLower := by
  induction s generalizing before with
  | nil => rfl
  | cons c cs ih =>
      have hc := h c (List.mem_cons_self _ _)
      have hsigma : c ≠ 'Σ' := fun he => by rw [he] at hc; exact absurd hc (by decide)
      rw [lowerFrom, if_neg hsigma, lowerChar_of_ascii hc,
        ih _ fun x hx => h x (List.mem_cons_of_mem _ hx)]
      rfl

theorem lower_of_ascii {s : List Char} (h : ∀ c ∈ s, c.toNat < 128) : lower s = s.map Char.toLower :=
  lowerFrom_of_ascii [] h

set_option maxRecDepth 8000 in
example : lower "ΟΔΟΣ Σ".data = "οδος σ".data := by decide

/-! ## Substrings -/

theorem isSubstr_iff (sub s : List Char) : isSubstr sub s = true ↔ sub <:+: s := by
  simp [isSubstr, List.mem_tails, List.infix_iff_prefix_suffix, List.isPrefixOf_iff_prefix, and_comm]

/-- A suffix without `c` of a list with a `c` is a suffix of what follows that `c`. -/
theorem suffix_of_not_mem {α : Type} {c : α} {w a d : List α} (hc : c ∉ w)
    (h : w <:+ a ++ c :: d) : w <:+ d := by
  obtain ⟨p, hp⟩ := h
  rcases List.append_eq_append_iff.1 hp with ⟨a₁, rfl, rfl⟩ | ⟨c₁, rfl, hd⟩
  · exact absurd (List.mem_append_right _ (List.mem_cons_self _ _)) hc
  · cases c₁ with
    | nil =>
        rw [List.nil_append] at hd
        exact absurd (hd ▸ List.mem_cons_self c d) hc
    | cons y c₂ =>
        obtain ⟨rfl, rfl⟩ := List.cons.inj hd
        exact List.suffix_append _ _

/-- An infix without `c` lies on one side of a `c`. -/
theorem infix_sides_of_not_mem {α : Type} {c : α} {w a b : List α} (hc : c ∉ w)
    (h : w <:+: a ++ c :: b) : w <:+: a ∨ w <:+: b := by
  obtain ⟨s, t, hst⟩ := h
  rcases List.append_eq_append_iff.1 hst with ⟨a₁, rfl, -⟩ | ⟨c₁, hs, hb⟩
  · exact .inl ⟨s, a₁, rfl⟩
  · cases c₁ with
    | nil => exact .inl ⟨s, [], by simpa using hs⟩
    | cons y c₂ =>
        obtain ⟨rfl, rfl⟩ := List.cons.inj hb
        obtain ⟨p, rfl⟩ := suffix_of_not_mem hc ⟨s, hs⟩
        exact .inr ⟨p, t, rfl⟩

/-- Text without `c` that occurs in lines each ended by `c` occurs in one of the lines. -/
theorem infix_of_infix_lines {α : Type} {c : α} {w : List α} (hc : c ∉ w) (hw : w ≠ []) :
    ∀ {l : List (List α)}, w <:+: (l.map (· ++ [c])).flatten → ∃ p ∈ l, w <:+: p
  | [], h => absurd (List.infix_nil.1 h) hw
  | p :: l, h => by
      rw [List.map_cons, List.flatten_cons, List.append_assoc, List.singleton_append] at h
      rcases infix_sides_of_not_mem hc h with h | h
      · exact ⟨p, List.mem_cons_self _ _, h⟩
      · obtain ⟨q, hq, h⟩ := infix_of_infix_lines hc hw h
        exact ⟨q, List.mem_cons_of_mem _ hq, h⟩

/-- `w + sep` occurs across the first `sep` exactly when `w` ends the part
before it; otherwise it occurs after it. -/
theorem append_sep_infix_iff {α : Type} {c : α} {w a b : List α} (hw : c ∉ w) (ha : c ∉ a) :
    (w ++ [c]) <:+: a ++ c :: b ↔ w <:+ a ∨ (w ++ [c]) <:+: b := by
  constructor
  · rintro ⟨s, t, hst⟩
    have e : s ++ (w ++ [c]) ++ t = (s ++ w) ++ c :: t := by simp
    rw [e] at hst
    rcases List.append_eq_append_iff.1 hst with ⟨a₁, rfl, ht⟩ | ⟨c₁, hs, hb⟩
    · cases a₁ with
      | nil => exact .inl ⟨s, by simp⟩
      | cons y a₂ =>
          obtain ⟨rfl, -⟩ := List.cons.inj ht
          exact absurd (List.mem_append_right _ (List.mem_cons_self _ _)) ha
    · cases c₁ with
      | nil => exact .inl ⟨s, by simpa using hs⟩
      | cons y c₂ =>
          obtain ⟨rfl, rfl⟩ := List.cons.inj hb
          obtain ⟨p, rfl⟩ := suffix_of_not_mem hw ⟨s, hs⟩
          exact .inr ⟨p, t, by simp⟩
  · rintro (⟨p, rfl⟩ | hb)
    · exact ⟨p, b, by simp⟩
    · exact hb.trans (by simpa using (List.suffix_append (a ++ [c]) b).isInfix)

/-- Every piece `s.split(sep)` returns is a run of `s`; the first one starts it. -/
theorem splitChar_pieces (sep : Char) :
    ∀ s : List Char, (∀ p ∈ splitChar sep s, p <:+: s) ∧
      ∀ q qs, splitChar sep s = q :: qs → q <+: s
  | [] => ⟨by simp [splitChar], by simp [splitChar]⟩
  | c :: cs => by
      obtain ⟨ih, ihd⟩ := splitChar_pieces sep cs
      unfold splitChar
      split
      · refine ⟨fun p hp => ?_, fun q qs h => ?_⟩
        · rcases List.mem_cons.1 hp with rfl | hp
          · exact List.nil_infix
          · exact List.infix_cons (ih p hp)
        · cases h; exact List.nil_prefix
      · split
        · next h =>
            exact ⟨fun p hp => by simp only [List.mem_singleton] at hp; exact hp ▸ ⟨[], cs, rfl⟩,
              fun q qs hq => by cases hq; simp⟩
        · next q' qs' h =>
            refine ⟨fun p hp => ?_, fun q qs hq => ?_⟩
            · rcases List.mem_cons.1 hp with rfl | hp
              · exact (List.prefix_cons_inj c |>.2 (ihd _ _ h)).isInfix
              · exact List.infix_cons (ih p (h ▸ List.mem_cons_of_mem _ hp))
            · cases hq; exact List.prefix_cons_inj c |>.2 (ihd _ _ h)

theorem splitChar_of_not_mem {sep : Char} : ∀ {p : List Char}, sep ∉ p → splitChar sep p = [p]
  | [], _ => rfl
  | c :: p, h => by
      rw [List.mem_cons, not_or] at h
      rw [splitChar, if_neg (Ne.symm h.1), splitChar_of_not_mem h.2]

theorem splitChar_append {sep : Char} {rest : List Char} :
    ∀ {p : List Char}, sep ∉ p → splitChar sep (p ++ sep :: rest) = p :: splitChar sep rest
  | [], _ => by simp [splitChar]
  | c :: p, h => by
      rw [List.mem_cons, not_or] at h
      rw [List.cons_append, splitChar, if_neg (Ne.symm h.1), splitChar_append h.2]

theorem intercalate_cons_cons {α : Type} (sep : α) (p q : List α) (rest : List (List α)) :
    [sep].intercalate (p :: q :: rest) = p ++ sep :: [sep].intercalate (q :: rest) := by
  simp [List.intercalate, List.intersperse]

/-- Splitting pieces without the separator, joined by it, gives them back. -/
theorem splitChar_intercalate {sep : Char} :
    ∀ {ps : List (List Char)}, ps ≠ [] → (∀ p ∈ ps, sep ∉ p) → splitChar sep ([sep].intercalate ps) = ps
  | [p], _, h => by simpa [List.intercalate] using splitChar_of_not_mem (h p (List.mem_singleton_self _))
  | p :: q :: rest, _, h => by
      obtain ⟨hp, hrest⟩ := List.forall_mem_cons.1 h
      rw [intercalate_cons_cons, splitChar_append hp, splitChar_intercalate (List.cons_ne_nil _ _) hrest]

theorem mem_intercalate {α : Type} {sep c : α} :
    ∀ {ps : List (List α)}, c ∈ [sep].intercalate ps → c = sep ∨ ∃ p ∈ ps, c ∈ p
  | [], h => by simp [List.intercalate] at h
  | [p], h => .inr ⟨p, List.mem_singleton_self _, by simpa [List.intercalate] using h⟩
  | p :: q :: rest, h => by
      rw [intercalate_cons_cons, List.mem_append, List.mem_cons] at h
      rcases h with h | rfl | h
      · exact .inr ⟨p, List.mem_cons_self _ _, h⟩
      · exact .inl rfl
      · rcases mem_intercalate h with h | ⟨r, hr, h⟩
        · exact .inl h
        · exact .inr ⟨r, List.mem_cons_of_mem _ hr, h⟩

theorem splitFirst_append {sep : Char} {k v : List Char} (hk : sep ∉ k) :
    splitFirst sep (k ++ sep :: v) = (k, v) := by
  have hpos : ∀ c ∈ k, (fun x => decide (x ≠ sep)) c = true := fun c hc => by
    simpa using fun e : c = sep => hk (e ▸ hc)
  simp only [splitFirst, List.takeWhile_append_of_pos hpos, List.dropWhile_append_of_pos hpos]
  simp

/-- Stripping the characters of `chars` from a value between two of them. -/
theorem stripChars_enclosed {chars v : List Char} {q : Char} (hq : q ∈ chars)
    (hhead : ∀ c, v.head? = some c → c ∉ chars) (hlast : ∀ c, v.getLast? = some c → c ∉ chars) :
    stripChars chars (q :: v ++ [q]) = v := by
  have hkeep : ∀ w : List Char, (∀ c, w.head? = some c → c ∉ chars) →
      w.dropWhile (· ∈ chars) = w := by
    rintro (_ | ⟨c, w⟩) h
    · rfl
    · simp [List.dropWhile_cons, h c rfl]
  unfold stripChars
  rcases v with _ | ⟨x, w⟩
  · simp [hq]
  · have h₁ : (x :: w ++ [q]).dropWhile (· ∈ chars) = x :: w ++ [q] :=
      hkeep _ (by simpa using hhead)
    have h₂ : (x :: w).reverse.dropWhile (· ∈ chars) = (x :: w).reverse :=
      hkeep _ fun c hc => hlast c (by rwa [List.head?_reverse] at hc)
    rw [List.cons_append, List.dropWhile_cons_of_pos (by simpa using hq), h₁, List.reverse_append,
      List.reverse_singleton, List.singleton_append, List.dropWhile_cons_of_pos (by simpa using hq), h₂,
      List.reverse_reverse]

theorem splitlinesFrom_plain :
    ∀ (cur s : List Char), (∀ c ∈ s, isLineBreak c = false) → cur ++ s ≠ [] →
      splitlinesFrom cur false s = [cur.reverse ++ s]
  | cur, [], _, h => by simp_all [splitlinesFrom]
  | cur, c :: rest, hs, _ => by
      obtain ⟨hc, hrest⟩ := List.forall_mem_cons.1 hs
      rw [splitlinesFrom, if_neg (by simp), if_neg (by simp [hc]),
        splitlinesFrom_plain (c :: cur) rest hrest (by simp)]
      simp

/-- A text without line breaks is one line. -/
theorem splitlines_plain {s : List Char} (hs : ∀ c ∈ s, isLineBreak c = false) (hne : s ≠ []) :
    splitlines s = [s] := by
  simpa using splitlinesFrom_plain [] s hs (by simpa using hne)

/-- A line without breaks, then `\n`: the line is ended there and the scan
starts afresh. -/
theorem splitlinesFrom_newline (rest : List Char) :
    ∀ (cur l : List Char), (∀ c ∈ l, isLineBreak c = false) →
      splitlinesFrom cur false (l ++ '\n' :: rest) = (cur.reverse ++ l) :: splitlinesFrom [] false rest
  | cur, [], _ => by simp [splitlinesFrom, isLineBreak]
  | cur, c :: l, hs => by
      obtain ⟨hc, hl⟩ := List.forall_mem_cons.1 hs
      rw [List.cons_append, splitlinesFrom, if_neg (by simp), if_neg (by simp [hc]),
        splitlinesFrom_newline rest (c :: cur) l hl]
      simp

/-- `"\n".join(lines).splitlines()` gives the lines back when none is empty or
holds a break. -/
theorem splitlines_intercalate :
    ∀ {ls : List (List Char)}, (∀ l ∈ ls, l ≠ [] ∧ ∀ c ∈ l, isLineBreak c = false) →
      splitlines (['\n'].intercalate ls) = ls
  | [], _ => rfl
  | [l], h => by
      simpa [List.intercalate] using splitlines_plain (h l (List.mem_singleton_self _)).2
        (h l (List.mem_singleton_self _)).1
  | l :: m :: rest, h => by
      obtain ⟨hl, hrest⟩ := List.forall_mem_cons.1 h
      rw [intercalate_cons_cons, splitlines, splitlinesFrom_newline _ [] l hl.2]
      exact congrArg (l :: ·) (splitlines_intercalate hrest)

theorem infix_of_mem_splitChar {sep : Char} {s p : List Char} (h : p ∈ splitChar sep s) :
    p <:+: s :=
  (splitChar_pieces sep s).1 p h

end TfK8s.Py
