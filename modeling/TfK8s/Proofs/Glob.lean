import Mathlib.Data.List.Infix
import Mathlib.Data.List.Nodup
import TfK8s.Py.Glob

/-!
# `glob` on patterns without magic

Two kinds of pattern are all `find_scenarios` builds when what it is given has
no `*`, `?` or `[`: a path with no magic at all, which `glob` looks up with
`lexists`, and a path whose one magic character is a `*` after a literal
prefix, which `fnmatch` turns into a prefix test. This file proves both, and
that resolving a path of ordinary names (none empty, `.` or `..`) finds exactly
the entry of the tree with those names: the tree is closed under parents, so a
missing or non-directory step on the way means the entry is not there.

A path built by `"/".join` from names with no `/` comes apart again under
`split('/')`, `os.path.split` and `os.path.join` at its slashes, and
`relpath` of such a path below a directory is its names below it.
-/

namespace TfK8s.Py

/-! ## A literal prefix and a star -/

theorem translateGo_lits (rest : List Char) :
    ∀ (g : List Char) (fuel : Nat) (res : List Piece), hasMagic g = false →
      translateGo (fuel + g.length) res (g ++ rest) = translateGo fuel (res ++ g.map .lit) rest
  | [], _, _, _ => by simp
  | c :: g, fuel, res, h => by
      simp only [hasMagic_cons, Bool.or_eq_false_iff, decide_eq_false_iff_not] at h
      obtain ⟨⟨⟨hstar, hq⟩, hbr⟩, hg⟩ := h
      rw [List.length_cons, ← Nat.add_assoc, List.cons_append]
      simp only [translateGo, hstar, hq, hbr, if_false]
      rw [translateGo_lits rest g fuel _ hg]
      simp

theorem translate_prefix_star {g : List Char} (h : hasMagic g = false) :
    translate (g ++ ['*']) = g.map .lit ++ [.star] := by
  have hlast : (g.map Piece.lit).getLast? ≠ some .star := by
    rw [List.getLast?_map]
    cases g.getLast? <;> simp
  rw [translate, List.length_append, List.length_singleton, Nat.add_comm,
    translateGo_lits _ g 1 [] h]
  simp [translateGo, hlast]

theorem mapM_compilePiece_lits :
    ∀ g : List Char, (g.map Piece.lit).mapM compilePiece = .ok (g.map fun c => some (.lit c))
  | [] => rfl
  | c :: g => by rw [List.map_cons, List.mapM_cons, mapM_compilePiece_lits g]; rfl

theorem blocks_prefix_star :
    ∀ g : List Char, blocks (g.map (fun c => some (Atom.lit c)) ++ [none]) = [g.map .lit, []]
  | [] => rfl
  | c :: g => by simp [blocks, blocks_prefix_star g]

theorem compile_prefix_star (g : List Char) :
    compile (g.map .lit ++ [.star]) = .ok ⟨g.map .lit, [], .star⟩ := by
  have hmap : (g.map Piece.lit ++ [Piece.star]).mapM compilePiece =
      .ok (g.map (fun c => some (Atom.lit c)) ++ [none]) := by
    rw [List.mapM_append, mapM_compilePiece_lits]; rfl
  rw [compile, hmap]
  show Except.ok (Regex.ofBlocks (blocks _)) = _
  rw [blocks_prefix_star]
  rfl

theorem matchFixed_lits : ∀ g s : List Char, (matchFixed (g.map .lit) s).isSome = g.isPrefixOf s
  | [], _ => by simp [matchFixed]
  | _ :: _, [] => by simp [matchFixed]
  | c :: g, d :: s => by
      by_cases h : d = c
      · subst h; simp [matchFixed, Atom.matches, List.isPrefixOf, matchFixed_lits g s]
      · simp [matchFixed, Atom.matches, List.isPrefixOf, h, Ne.symm h]

theorem matches_prefix_star (g s : List Char) :
    Regex.matches ⟨g.map .lit, [], .star⟩ s = g.isPrefixOf s := by
  rw [← matchFixed_lits]
  unfold Regex.matches
  cases matchFixed (g.map .lit) s <;> rfl

/-- A pattern that is a literal prefix and a star keeps the names with that
prefix. -/
theorem fnmatchFilter_prefix_star {g : List Char} (h : hasMagic g = false) (names : List String) :
    fnmatchFilter names ⟨g ++ ['*']⟩ = .ok (names.filter fun n => g.isPrefixOf n.data) := by
  rw [fnmatchFilter]
  simp only [translate_prefix_star h, compile_prefix_star]
  show Except.ok (names.filter fun name => Regex.matches _ name.data) = _
  simp only [matches_prefix_star]

/-! ## Paths -/

theorem splitSlash_of_not_mem : ∀ {a : List Char}, '/' ∉ a → splitSlash a = [a]
  | [], _ => rfl
  | c :: a, h => by
      rw [List.mem_cons, not_or] at h
      rw [splitSlash, if_neg (Ne.symm h.1), splitSlash_of_not_mem h.2]

theorem splitSlash_append {b : List Char} :
    ∀ {a : List Char}, '/' ∉ a → splitSlash (a ++ '/' :: b) = a :: splitSlash b
  | [], _ => by simp [splitSlash]
  | c :: a, h => by
      rw [List.mem_cons, not_or] at h
      rw [List.cons_append, splitSlash, if_neg (Ne.symm h.1), splitSlash_append h.2]

/-- Every character of `b.reverse` passes `· ≠ '/'`, in the form `simp` leaves it. -/
theorem not_slash_of_not_mem {b : List Char} (hb : '/' ∉ b) :
    ∀ c ∈ b.reverse, (!decide (c = '/')) = true := fun c hc => by
  simpa using fun e : c = '/' => hb (e ▸ List.mem_reverse.1 hc)

theorem pathSplit_snd {a b : List Char} (hb : '/' ∉ b) : (pathSplit (a ++ '/' :: b)).2 = b := by
  simp [pathSplit, List.takeWhile_append_of_pos (not_slash_of_not_mem hb)]

/-- `os.path.split` at a `/` after a character that is not one. -/
theorem pathSplit_append {a b : List Char} {x : Char} (hx : x ≠ '/') (hb : '/' ∉ b) :
    pathSplit (a ++ x :: '/' :: b) = (a ++ [x], b) := by
  have hsnd : (pathSplit ((a ++ [x]) ++ '/' :: b)).2 = b := pathSplit_snd hb
  simp only [List.append_assoc, List.singleton_append] at hsnd
  refine Prod.ext ?_ hsnd
  simp [pathSplit, List.dropWhile_append_of_pos (not_slash_of_not_mem hb), hx]

theorem pathJoin_of_ne {a b : List Char} {x : Char} (hx : x ≠ '/') (hb : b.head? ≠ some '/') :
    pathJoin (a ++ [x]) b = a ++ x :: '/' :: b := by
  simp [pathJoin, hb, hx]

/-! ## Resolution -/

/-- A name resolution steps into: not empty, `.` or `..`. -/
def Ordinary (n : String) : Prop :=
  n ≠ "" ∧ n ≠ "." ∧ n ≠ ".."

instance : DecidablePred Ordinary := fun _ => inferInstanceAs (Decidable (_ ∧ _ ∧ _))

theorem ValidName.ordinary {n : String} (h : ValidName n) : Ordinary n :=
  ⟨h.1, h.2.1, h.2.2.1⟩

theorem normComps_ordinary :
    ∀ (acc l : List String), (∀ c ∈ l, Ordinary c) → normComps acc l = acc.reverse ++ l
  | acc, [], _ => by simp [normComps]
  | acc, c :: l, h => by
      obtain ⟨⟨h₁, h₂, h₃⟩, hl⟩ := List.forall_mem_cons.1 h
      rw [normComps, if_neg (not_or.2 ⟨h₁, h₂⟩), if_neg h₃, normComps_ordinary _ l hl]
      simp

/-- `os.path.abspath` of a relative path of ordinary names. -/
theorem absComps_relative {cwd cs : List String} {p : List Char} (hp : p.head? ≠ some '/')
    (hs : (splitSlash p).map String.mk = cs) (hord : ∀ c ∈ cwd ++ cs, Ordinary c) :
    absComps cwd p = cwd ++ cs := by
  rw [absComps, if_neg hp, hs, normComps_ordinary _ _ hord]
  rfl

theorem commonLength_self_append : ∀ l rest : List String, commonLength l (l ++ rest) = l.length
  | [], rest => by cases rest <;> rfl
  | x :: l, rest => by simp [commonLength, commonLength_self_append l rest]

/-- `mapM` of a function that returns on every element. -/
theorem mapM_eq_ok {α β : Type} {f : α → Except PyExc β} {g : α → β} :
    ∀ {l : List α}, (∀ x ∈ l, f x = .ok (g x)) → l.mapM f = .ok (l.map g)
  | [], _ => rfl
  | x :: l, h => by
      rw [List.mapM_cons, h x (List.mem_cons_self _ _),
        mapM_eq_ok fun y hy => h y (List.mem_cons_of_mem _ hy)]
      rfl

/-- `mapM` of a function that only returns. -/
theorem mapM_pure {α β : Type} (f : α → β) :
    ∀ l : List α, l.mapM (fun x => (pure (f x) : Except PyExc β)) = .ok (l.map f)
  | [] => rfl
  | x :: l => by rw [List.mapM_cons, mapM_pure f l]; rfl

/-- `mapM` over a mapped list, of a function that returns on every element. -/
theorem mapM_map_eq_ok {α β γ : Type} {f : β → Except PyExc γ} {h : α → β} {g : α → γ} :
    ∀ {l : List α}, (∀ x ∈ l, f (h x) = .ok (g x)) → (l.map h).mapM f = .ok (l.map g)
  | [], _ => rfl
  | x :: l, hf => by
      rw [List.map_cons, List.mapM_cons, hf x (List.mem_cons_self _ _),
        mapM_map_eq_ok fun y hy => hf y (List.mem_cons_of_mem _ hy)]
      rfl

theorem flatten_map_ite {α β : Type} (p : α → Bool) (f : α → β) :
    ∀ l : List α, (l.map fun x => if p x then [f x] else []).flatten = (l.filter p).map f
  | [] => rfl
  | x :: l => by cases hx : p x <;> simp [List.filter_cons, hx, flatten_map_ite p f l]

/-! ## Joined paths -/

/-- A path component as `os.path.join` and `split('/')` see it: not empty, and
no `/`. -/
def Component (c : String) : Prop := c.data ≠ [] ∧ '/' ∉ c.data

instance : DecidablePred Component := fun _ => inferInstanceAs (Decidable (_ ∧ _))

theorem ValidName.component {n : String} (h : ValidName n) : Component n :=
  ⟨fun e => h.1 (String.ext e), h.2.2.2.1⟩

theorem Component.head?_ne {c : String} (h : Component c) : c.data.head? ≠ some '/' := by
  obtain ⟨x, xs, hx⟩ := List.exists_cons_of_ne_nil h.1
  rw [hx]
  rintro ⟨⟩
  exact h.2 (hx ▸ List.mem_cons_self _ _)

theorem Component.getLast?_ne {c : String} (h : Component c) : c.data.getLast? ≠ some '/' :=
  fun e => h.2 (List.mem_of_getLast?_eq_some e)

@[simp] theorem joinComps_nil : joinComps [] = [] := rfl

@[simp] theorem joinComps_singleton (c : String) : joinComps [c] = c.data := by
  simp [joinComps, List.intercalate]

theorem joinComps_cons_cons (c d : String) (rest : List String) :
    joinComps (c :: d :: rest) = c.data ++ '/' :: joinComps (d :: rest) := by
  simp [joinComps, List.intercalate, List.intersperse]

theorem joinComps_append :
    ∀ {a b : List String}, a ≠ [] → b ≠ [] → joinComps (a ++ b) = joinComps a ++ '/' :: joinComps b
  | [c], d :: b, _, _ => by simpa using joinComps_cons_cons c d b
  | c :: c' :: a, b, _, hb => by
      rw [List.cons_append, List.cons_append, joinComps_cons_cons, ← List.cons_append,
        joinComps_append (List.cons_ne_nil _ _) hb, joinComps_cons_cons, List.append_assoc]
      rfl

theorem joinComps_head? {c : String} (hc : Component c) (rest : List String) :
    (joinComps (c :: rest)).head? = c.data.head? := by
  cases rest <;> simp [joinComps_cons_cons, List.head?_append_of_ne_nil _ hc.1]

theorem joinComps_getLast? {c : String} (hc : Component c) :
    ∀ a : List String, (joinComps (a ++ [c])).getLast? = c.data.getLast?
  | [] => by simp
  | d :: a => by
      rw [joinComps_append (List.cons_ne_nil _ _) (List.cons_ne_nil _ _), joinComps_singleton,
        List.append_cons, List.getLast?_append_of_ne_nil _ hc.1]

theorem splitSlash_joinComps :
    ∀ {cs : List String}, cs ≠ [] → (∀ c ∈ cs, '/' ∉ c.data) →
      (splitSlash (joinComps cs)).map String.mk = cs
  | [c], _, h => by simp [splitSlash_of_not_mem (h c (List.mem_singleton_self _))]
  | c :: d :: rest, _, h => by
      obtain ⟨hc, hrest⟩ := List.forall_mem_cons.1 h
      rw [joinComps_cons_cons, splitSlash_append hc, List.map_cons,
        splitSlash_joinComps (List.cons_ne_nil _ _) hrest]

/-- `os.path.join` of two joined paths is the path of all their components. -/
theorem pathJoin_joinComps {a b : List String} (ha : a ≠ []) (hb : b ≠ [])
    (hca : ∀ c ∈ a, Component c) (hcb : ∀ c ∈ b, Component c) :
    pathJoin (joinComps a) (joinComps b) = joinComps (a ++ b) := by
  obtain ⟨a, c, rfl⟩ : ∃ a' c, a = a' ++ [c] := ⟨_, _, (List.dropLast_append_getLast ha).symm⟩
  obtain ⟨d, b, rfl⟩ := List.exists_cons_of_ne_nil hb
  have hc := hca c (by simp)
  have hlast := joinComps_getLast? hc a
  have hne : (joinComps (a ++ [c])).isEmpty = false := by
    cases h : joinComps (a ++ [c]) with
    | nil => rw [h] at hlast; exact absurd (List.getLast?_eq_none_iff.1 hlast.symm) hc.1
    | cons => rfl
  rw [pathJoin, if_neg (by rw [joinComps_head? (hcb d (by simp))]; exact (hcb d (by simp)).head?_ne),
    hne, Bool.false_or, if_neg (by rw [hlast]; simpa using hc.getLast?_ne),
    joinComps_append (by simp) hb]

/-- `os.path.split` of a joined path: the path of all components but the last,
and the last. -/
theorem pathSplit_joinComps {a : List String} (ha : a ≠ []) (hca : ∀ c ∈ a, Component c)
    {c : String} (hc : Component c) : pathSplit (joinComps (a ++ [c])) = (joinComps a, c.data) := by
  obtain ⟨a, d, rfl⟩ : ∃ a' d, a = a' ++ [d] := ⟨_, _, (List.dropLast_append_getLast ha).symm⟩
  have hd := hca d (by simp)
  obtain ⟨x, hx⟩ := Option.ne_none_iff_exists'.1 (show (joinComps (a ++ [d])).getLast? ≠ none by
    rw [joinComps_getLast? hd]; simpa using hd.1)
  obtain ⟨pre, hpre⟩ := List.getLast?_eq_some_iff.1 hx
  have hxs : x ≠ '/' := fun e => hd.getLast?_ne (by rw [← joinComps_getLast? hd a, hx, e])
  rw [joinComps_append ha (List.cons_ne_nil _ _), joinComps_singleton, hpre, List.append_assoc,
    List.singleton_append, pathSplit_append hxs hc.2]

namespace FileTree

variable (t : FileTree)

@[simp] theorem kind_nil : t.kind [] = some true := rfl

theorem kind_eq_some {p : List String} {b : Bool} (hp : p ≠ []) :
    t.kind p = some b ↔ (p, b) ∈ t.entries := by
  rw [kind, if_neg hp, Option.map_eq_some']
  constructor
  · rintro ⟨⟨q, c⟩, he, rfl⟩
    obtain rfl : q = p := by simpa using List.find?_some he
    exact List.mem_of_find?_eq_some he
  · intro hm
    cases he : t.entries.find? (fun e => decide (e.1 = p)) with
    | none => exact absurd (by simp) (List.find?_eq_none.1 he _ hm)
    | some e =>
        have hep : e.1 = p := by simpa using List.find?_some he
        exact ⟨e, rfl, congrArg Prod.snd
          (List.inj_on_of_nodup_map t.nodup (List.mem_of_find?_eq_some he) hm hep)⟩

/-- Every proper prefix of an entry's path is a directory. -/
theorem kind_prefix {p q : List String} (h : t.kind (p ++ q) ≠ none) (hq : q ≠ []) :
    t.kind p = some true := by
  obtain ⟨b, hb⟩ := Option.ne_none_iff_exists'.1 h
  by_cases hp : p = []
  · rw [hp]; rfl
  have hmem := (t.kind_eq_some (by simp [hp])).1 hb
  rcases t.ancestors_dirs _ hmem p ((List.mem_inits _ _).2 (List.prefix_append _ _))
    (by simpa using hq.symm) with rfl | hdir
  · exact absurd rfl hp
  · exact (t.kind_eq_some hp).2 hdir

theorem walk_ordinary :
    ∀ (ns cur : List String), (∀ n ∈ ns, Ordinary n) → t.kind cur ≠ none →
      t.walk cur ns = if t.kind (cur ++ ns) = none then none else some (cur ++ ns)
  | [], cur, _, hcur => by simp [walk, hcur]
  | n :: ns, cur, hns, hcur => by
      obtain ⟨⟨hn₁, hn₂, hn₃⟩, hns⟩ := List.forall_mem_cons.1 hns
      by_cases hdir : t.kind cur = some true
      · rw [walk, if_neg (not_not.2 hdir), if_neg (not_or.2 ⟨hn₁, hn₂⟩), if_neg hn₃]
        by_cases hnext : t.kind (cur ++ [n]) = none
        · rw [if_pos hnext, if_pos]
          by_contra hne
          cases ns with
          | nil => exact hne hnext
          | cons m ms =>
              have := t.kind_prefix
                (show t.kind ((cur ++ [n]) ++ m :: ms) ≠ none by simpa using hne)
                (List.cons_ne_nil _ _)
              rw [hnext] at this
              cases this
        · rw [if_neg hnext, walk_ordinary ns (cur ++ [n]) hns hnext, List.append_assoc,
            List.singleton_append]
      · rw [walk, if_pos hdir, if_pos]
        by_contra hne
        exact hdir (t.kind_prefix hne (List.cons_ne_nil _ _))

/-- A relative path whose components are ordinary names names the entry with
those names, if there is one. -/
theorem resolve_ordinary {p : List Char} {ns : List String} (hp : p.head? ≠ some '/')
    (hne : p ≠ []) (hs : (splitSlash p).map String.mk = ns) (hns : ∀ n ∈ ns, Ordinary n) :
    t.resolve p = if t.kind ns = none then none else some ns := by
  simp [resolve, hne, hp, hs, t.walk_ordinary ns [] hns]

theorem childName_eq_some {d p : List String} {n : String} :
    childName d p = some n ↔ p = d ++ [n] := by
  unfold childName
  constructor
  · intro h
    split at h
    · rename_i hp
      rw [← hp.2, ← List.dropLast_append_getLast hp.1, List.getLast?_eq_getLast _ hp.1] at *
      cases h
      simp
    · cases h
  · rintro rfl
    simp

/-! ## Listing a directory -/

/-- The directories `d` holds, in listing order. -/
def subdirs (d : List String) : List String :=
  t.entries.filterMap fun e => if e.2 then childName d e.1 else none

theorem mem_subdirs {d : List String} {n : String} :
    n ∈ t.subdirs d ↔ (d ++ [n], true) ∈ t.entries := by
  simp only [subdirs, List.mem_filterMap]
  constructor
  · rintro ⟨⟨p, b⟩, hm, h⟩
    cases b
    · cases h
    · rwa [← childName_eq_some.1 h]
  · intro hm
    exact ⟨_, hm, childName_eq_some.2 rfl⟩

theorem subdirs_nodup (d : List String) : (t.subdirs d).Nodup := by
  refine List.Nodup.filterMap ?_ (List.Nodup.of_map _ t.nodup)
  rintro ⟨p, b⟩ ⟨p', b'⟩ n hn hn'
  cases b <;> cases b' <;> simp only [Option.mem_def, if_false, reduceCtorEq] at hn hn'
  simp only [if_true] at hn hn'
  rw [childName_eq_some.1 hn, childName_eq_some.1 hn']

theorem subdirs_eq_nil {d : List String} (h : t.kind d ≠ some true) : t.subdirs d = [] := by
  refine List.eq_nil_iff_forall_not_mem.2 fun n hn => h ?_
  have hk : t.kind (d ++ [n]) = some true := (t.kind_eq_some (by simp)).2 ((t.mem_subdirs).1 hn)
  exact t.kind_prefix (show t.kind (d ++ [n]) ≠ none by rw [hk]; exact Option.some_ne_none _)
    (List.cons_ne_nil _ _)

/-- `_listdir(dirname, dironly=True)` on a path of ordinary names: the
directories of the entry it names, or nothing. -/
theorem listdir_dironly {p : List Char} {ns : List String} (hnul : '\x00' ∉ p)
    (hp : p.head? ≠ some '/') (hne : p ≠ []) (hs : (splitSlash p).map String.mk = ns)
    (hns : ∀ n ∈ ns, Ordinary n) : t.listdir p true = .ok (t.subdirs ns) := by
  have hemp : p.isEmpty = false := by cases p <;> first | exact absurd rfl hne | rfl
  rw [listdir, if_neg hnul, hemp, if_neg Bool.false_ne_true, t.resolve_ordinary hp hne hs hns]
  by_cases hk : t.kind ns = some true
  · rw [if_neg (by rw [hk]; exact Option.some_ne_none _)]
    simp only [hk, if_true, Bool.not_true, Bool.false_or]
    rfl
  · rw [t.subdirs_eq_nil hk]
    by_cases hn : t.kind ns = none
    · rw [if_pos hn]
    · rw [if_neg hn]
      show (if t.kind ns = some true then _ else _) = _
      rw [if_neg hk]

end FileTree

end TfK8s.Py
