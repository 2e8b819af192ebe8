import Mathlib.Data.List.Infix
import TfK8s.Py.Fnmatch

/-!
# The compiled search of `fnmatch` finds every match a pattern has

`translate` turns a shell pattern into `(?s:F0(?>.*?F1)...(?>.*?Fn).*Fl)\Z`:
the fixed blocks between the stars, the interior ones each inside an atomic
group. An atomic group is never retried, so each interior block is taken at
the leftmost place it matches and the search never goes back to try a later
one; CPython compiles it so that a pattern with many stars cannot make `re`
backtrack without end. This file proves that it loses nothing: the compiled
expression accepts a name exactly when the pattern's pieces match it under
the shell reading `Wild`, where a star matches any run of characters and every
other piece one character it accepts.

`wild_fixed` reads a block followed by the rest of a pattern as `matchFixed`
followed by the rest. The heart of the proof is that leftmost is best: after a
star, a pattern that matches a suffix of a text matches the text
(`Wild.star_suffix`), and the leftmost place a block matches leaves the longest
rest (`searchFixed_leftmost`), so taking it is never worse than taking another
(`wild_search`); `wild_interior` folds that over the interior blocks. At the
end, `.*Fl\Z` matches when the last `|Fl|` characters do (`wild_last`).
`blocks` cuts the pieces at their stars and loses nothing (`blocks_spec`);
`matches_iff_wild` assembles the parts, and `fnmatchFilter_wild` states it for
`fnmatch.filter`.
-/

namespace TfK8s.Py

/-- The shell reading of compiled pieces: a star, `none`, matches any run of
characters, newlines included; `some a` matches one character `a` accepts. -/
inductive Wild : List (Option Atom) → List Char → Prop
  | nil : Wild [] []
  | star {ps : List (Option Atom)} {s : List Char} (u : List Char) : Wild ps s → Wild (none :: ps) (u ++ s)
  | atom {a : Atom} {ps : List (Option Atom)} {c : Char} {s : List Char} :
      a.matches c = true → Wild ps s → Wild (some a :: ps) (c :: s)

namespace Wild

theorem nil_iff {s : List Char} : Wild [] s ↔ s = [] :=
  ⟨fun | .nil => rfl, fun h => h ▸ .nil⟩

theorem star_iff {ps : List (Option Atom)} {s : List Char} :
    Wild (none :: ps) s ↔ ∃ w, w <:+ s ∧ Wild ps w :=
  ⟨fun | .star u h => ⟨_, List.suffix_append u _, h⟩, fun ⟨_, ⟨u, hu⟩, h⟩ => hu ▸ .star u h⟩

theorem not_atom_nil {a : Atom} {ps : List (Option Atom)} : ¬Wild (some a :: ps) [] :=
  fun h => nomatch h

theorem atom_cons_iff {a : Atom} {ps : List (Option Atom)} {c : Char} {s : List Char} :
    Wild (some a :: ps) (c :: s) ↔ a.matches c = true ∧ Wild ps s :=
  ⟨fun | .atom hc h => ⟨hc, h⟩, fun ⟨hc, h⟩ => .atom hc h⟩

/-- After a star, a match of a suffix is a match. -/
theorem star_suffix {ps : List (Option Atom)} {r r' : List Char} (hr : r <:+ r')
    (h : Wild (none :: ps) r) : Wild (none :: ps) r' :=
  let ⟨w, hw, h⟩ := star_iff.1 h
  star_iff.2 ⟨w, hw.trans hr, h⟩

end Wild

/-! ## Fixed blocks -/

/-- A fixed block, then the rest of a pattern. -/
theorem wild_fixed {ps : List (Option Atom)} :
    ∀ (f : List Atom) (w : List Char),
      Wild (f.map some ++ ps) w ↔ ∃ r, matchFixed f w = some r ∧ Wild ps r
  | [], w => by simp [matchFixed]
  | a :: f, [] => by simp [matchFixed, Wild.not_atom_nil]
  | a :: f, c :: w => by
      by_cases hc : a.matches c = true <;> simp [matchFixed, Wild.atom_cons_iff, hc, wild_fixed f w]

/-- A block matched at the start of `w` leaves `w` past its length. -/
theorem matchFixed_eq_drop : ∀ {f : List Atom} {w r : List Char}, matchFixed f w = some r →
    f.length ≤ w.length ∧ r = w.drop f.length
  | [], _, _, h => by simp_all [matchFixed]
  | _ :: _, [], _, h => by simp [matchFixed] at h
  | a :: f, c :: w, r, h => by
      cases hc : a.matches c <;> simp only [matchFixed, hc, if_true, if_false] at h
      · cases h
      · simpa using matchFixed_eq_drop h

theorem drop_suffix_drop {l₁ l₂ : List Char} (h : l₁ <:+ l₂) (n : Nat) : l₁.drop n <:+ l₂.drop n :=
  List.suffix_of_suffix_length_le ((List.drop_suffix n l₁).trans h) (List.drop_suffix n l₂)
    (by simp only [List.length_drop]; have := h.length_le; omega)

/-! ## Leftmost is best -/

/-- What `searchFixed` finds is a match of the block at a suffix of the text. -/
theorem searchFixed_sound {f : List Atom} :
    ∀ {s r : List Char}, searchFixed f s = some r → ∃ w, w <:+ s ∧ matchFixed f w = some r
  | [], _, h => ⟨[], List.suffix_refl _, h⟩
  | c :: s, r, h => by
      cases hm : matchFixed f (c :: s) with
      | some r' =>
          simp only [searchFixed, hm, Option.some.injEq] at h
          exact ⟨c :: s, List.suffix_refl _, h ▸ hm⟩
      | none =>
          simp only [searchFixed, hm] at h
          obtain ⟨w, hw, hm'⟩ := searchFixed_sound h
          exact ⟨w, hw.trans (List.suffix_cons c s), hm'⟩

/-- The leftmost match leaves a rest that ends in the rest of any other. -/
theorem searchFixed_leftmost {f : List Atom} {w r : List Char} (hm : matchFixed f w = some r) :
    ∀ {s : List Char}, w <:+ s → ∃ r₀, searchFixed f s = some r₀ ∧ r <:+ r₀
  | [], hw => by
      rw [List.suffix_nil.1 hw] at hm
      exact ⟨r, hm, List.suffix_refl _⟩
  | c :: s, hw => by
      cases hs : matchFixed f (c :: s) with
      | some r₀ =>
          refine ⟨r₀, by simp [searchFixed, hs], ?_⟩
          rw [(matchFixed_eq_drop hm).2, (matchFixed_eq_drop hs).2]
          exact drop_suffix_drop hw _
      | none =>
          have hw' : w <:+ s := (List.suffix_cons_iff.1 hw).resolve_left fun h => by
            rw [h, hs] at hm; cases hm
          obtain ⟨r₀, h₀, hr⟩ := searchFixed_leftmost hm hw'
          exact ⟨r₀, by simp [searchFixed, hs, h₀], hr⟩

/-- A star, a block, and a rest that a longer text matches when a suffix of
it does: taking the block at its leftmost match is as good as any. -/
theorem wild_search {ps : List (Option Atom)} (hup : ∀ r r', r <:+ r' → Wild ps r → Wild ps r')
    (f : List Atom) (s : List Char) :
    Wild (none :: (f.map some ++ ps)) s ↔ ∃ r, searchFixed f s = some r ∧ Wild ps r := by
  rw [Wild.star_iff]
  constructor
  · rintro ⟨w, hw, h⟩
    obtain ⟨r, hm, hr⟩ := (wild_fixed f w).1 h
    obtain ⟨r₀, h₀, hsuf⟩ := searchFixed_leftmost hm hw
    exact ⟨r₀, h₀, hup r r₀ hsuf hr⟩
  · rintro ⟨r, h, hr⟩
    obtain ⟨w, hw, hm⟩ := searchFixed_sound h
    exact ⟨w, hw, (wild_fixed f w).2 ⟨r, hm, hr⟩⟩

/-- An interior block as `translate` lays it out: a star, then the block. -/
def starBlock (f : List Atom) : List (Option Atom) := none :: f.map some

/-- The atomic groups, one after another, before a part that starts with a star. -/
theorem wild_interior {qs : List (Option Atom)} :
    ∀ (interior : List (List Atom)) (s : List Char),
      Wild (interior.flatMap starBlock ++ none :: qs) s ↔
        ∃ t, interior.foldlM (fun s f => searchFixed f s) s = some t ∧ Wild (none :: qs) t
  | [], s => by simp
  | f :: interior, s => by
      have hup : ∀ r r', r <:+ r' → Wild (interior.flatMap starBlock ++ none :: qs) r →
          Wild (interior.flatMap starBlock ++ none :: qs) r' := by
        cases interior <;> exact fun _ _ => Wild.star_suffix
      simp only [List.flatMap_cons, starBlock, List.cons_append, List.append_assoc]
      rw [wild_search hup, List.foldlM_cons]
      simp only [wild_interior interior]
      constructor
      · rintro ⟨r, hr, t, ht, hw⟩
        exact ⟨t, by rw [hr]; exact ht, hw⟩
      · rintro ⟨t, ht, hw⟩
        obtain ⟨r, hr, ht⟩ := Option.bind_eq_some.1 ht
        exact ⟨r, hr, t, ht, hw⟩

/-! ## The end -/

/-- `.*F\Z`: the last `|F|` characters match `F`. -/
theorem wild_last (f : List Atom) (t : List Char) :
    Wild (none :: f.map some) t ↔
      f.length ≤ t.length ∧ (matchFixed f (t.drop (t.length - f.length))).isSome := by
  have hfix := @wild_fixed [] f
  simp only [List.append_nil, Wild.nil_iff, exists_eq_right] at hfix
  rw [Wild.star_iff]
  constructor
  · rintro ⟨w, hw, h⟩
    have hm := (hfix w).1 h
    obtain ⟨hle, hdrop⟩ := matchFixed_eq_drop hm
    have hlen : w.length = f.length := by
      have := congrArg List.length hdrop
      simp only [List.length_nil, List.length_drop] at this
      omega
    refine ⟨hlen ▸ hw.length_le, ?_⟩
    rw [← hlen, ← List.suffix_iff_eq_drop.1 hw, hm]
    rfl
  · rintro ⟨hle, hm⟩
    obtain ⟨r, hr⟩ := Option.isSome_iff_exists.1 hm
    have hnil : r = [] := by
      rw [(matchFixed_eq_drop hr).2, List.drop_eq_nil_iff, List.length_drop]
      omega
    exact ⟨_, List.drop_suffix _ _, (hfix _).2 (hnil ▸ hr)⟩

/-! ## The whole pattern -/

/-- `blocks` cuts the pieces at their stars: the first block, then each later
one after a star. -/
theorem blocks_spec : ∀ atoms : List (Option Atom),
    ∃ b bs, blocks atoms = b :: bs ∧ b.map some ++ bs.flatMap starBlock = atoms
  | [] => ⟨[], [], rfl, rfl⟩
  | none :: rest => by
      obtain ⟨b, bs, h, hp⟩ := blocks_spec rest
      exact ⟨[], b :: bs, by simp [blocks, h], by simp [starBlock, hp]⟩
  | some a :: rest => by
      obtain ⟨b, bs, h, hp⟩ := blocks_spec rest
      exact ⟨a :: b, bs, by simp [blocks, h], by simp [hp]⟩

/-- The compiled expression accepts a text exactly when the pieces match it
under the shell reading. -/
theorem matches_iff_wild (atoms : List (Option Atom)) (s : List Char) :
    (Regex.ofBlocks (blocks atoms)).matches s = true ↔ Wild atoms s := by
  obtain ⟨b, bs, hb, hp⟩ := blocks_spec atoms
  rw [hb, ← hp]
  rcases List.eq_nil_or_concat bs with rfl | ⟨interior, last, rfl⟩
  · have hfix := @wild_fixed [] b s
    simp only [List.append_nil, Wild.nil_iff, exists_eq_right] at hfix
    rw [List.flatMap_nil, List.append_nil, hfix]
    show (match matchFixed b s >>= fun s => [].foldlM (fun s f => searchFixed f s) s with
      | none => false | some s => s.isEmpty) = true ↔ _
    cases matchFixed b s <;> simp
  · rw [List.concat_eq_append, List.flatMap_append, List.flatMap_singleton, starBlock, wild_fixed]
    simp only [wild_interior, wild_last]
    obtain ⟨x, xs, hx⟩ : ∃ x xs, interior ++ [last] = x :: xs := List.exists_cons_of_ne_nil (by simp)
    simp only [hx, Regex.ofBlocks]
    rw [← hx, List.dropLast_concat, List.getLast?_concat]
    unfold Regex.matches
    cases h : matchFixed b s >>= fun s => interior.foldlM (fun s f => searchFixed f s) s with
    | none => simp_all [Option.bind_eq_some]
    | some t =>
        obtain ⟨r, hr, ht⟩ := Option.bind_eq_some.1 h
        simp only [hr, ht, Option.some.injEq, exists_eq_left']
        cases last <;> simp [matchFixed]

/-- Deciding the shell reading by the compiled search. -/
instance (atoms : List (Option Atom)) (s : List Char) : Decidable (Wild atoms s) :=
  decidable_of_iff _ (matches_iff_wild atoms s)

theorem compile_eq_ok {pieces : List Piece} {atoms : List (Option Atom)}
    (h : pieces.mapM compilePiece = .ok atoms) : compile pieces = .ok (Regex.ofBlocks (blocks atoms)) := by
  rw [compile, h]
  rfl

/-- `fnmatch.filter` keeps, in order, the names the pattern matches under the
shell reading, whenever `re` compiles the translation. -/
theorem fnmatchFilter_wild {pat : String} {atoms : List (Option Atom)}
    (h : (translate pat.data).mapM compilePiece = .ok atoms) (names : List String) :
    fnmatchFilter names pat = .ok (names.filter fun n => decide (Wild atoms n.data)) := by
  rw [fnmatchFilter, compile_eq_ok h]
  refine congrArg Except.ok (List.filter_congr fun n _ => ?_)
  exact Bool.eq_iff_iff.2 (by rw [decide_eq_true_iff, matches_iff_wild])

end TfK8s.Py
