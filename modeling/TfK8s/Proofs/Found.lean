import TfK8s.Proofs.Catalog
import TfK8s.Proofs.GlobRecursive

/-!
# Every path `find_scenarios` returns is a definition file that exists

Whatever the group and the identifier hold, `*`, `?`, classes, `..` or `/`,
each pattern `find_scenarios` builds ends in `/scenario_definition.yaml`, and
`glob` of such a pattern only returns paths that resolve in the tree to an
entry named `scenario_definition.yaml`. So `main` is only ever handed files
that exist under that name (`findScenarios_found`), even where `..` or a
magic character lets a pattern reach a directory outside `enabled`.

Two facts carry the proof. Walking a path only ever reaches entries of the
tree (`walk_kind`), and a path whose last component is an ordinary name
resolves, if at all, to an entry of that name (`resolve_last`). And `glob`
looks a last component without magic up rather than listing it: `_glob0`
checks it with `lexists` in each directory found, and a pattern without magic
is checked whole (`iglob_found`). Neither needs to know what the directories
found were.
-/

namespace TfK8s.Py

/-! ## Components -/

theorem splitSlash_ne_nil : ∀ s : List Char, splitSlash s ≠ []
  | [] => List.cons_ne_nil _ _
  | c :: s => by
      unfold splitSlash
      split_ifs
      · exact List.cons_ne_nil _ _
      · split <;> exact List.cons_ne_nil _ _

/-- The components of a path with a last `/`: those before it, then the last. -/
theorem splitSlash_concat {b : List Char} (hb : '/' ∉ b) :
    ∀ a : List Char, splitSlash (a ++ '/' :: b) = splitSlash a ++ [b]
  | [] => by simp [splitSlash, splitSlash_of_not_mem hb]
  | c :: a => by
      have ih := splitSlash_concat hb a
      obtain ⟨p, ps, hp⟩ := List.exists_cons_of_ne_nil (splitSlash_ne_nil a)
      by_cases hc : c = '/'
      · simp [splitSlash, hc, ih]
      · simp [splitSlash, hc, ih, hp]

/-- `os.path.join(d, b)` ends in the component `b`. -/
theorem splitSlash_pathJoin {b : List Char} (hb : '/' ∉ b) (d : List Char) :
    ∃ xs, splitSlash (pathJoin d b) = xs ++ [b] := by
  have hhead : b.head? ≠ some '/' := fun h => hb (List.mem_of_mem_head? h)
  unfold pathJoin
  rw [if_neg hhead]
  by_cases hd : d.isEmpty
  · rw [if_pos (by simp [hd]), List.isEmpty_iff.1 hd, List.nil_append, splitSlash_of_not_mem hb]
    exact ⟨[], rfl⟩
  · by_cases hl : d.getLast? = some '/'
    · rw [if_pos (by simp [hl])]
      obtain ⟨d', hd'⟩ := List.getLast?_eq_some_iff.1 hl
      rw [hd', List.append_assoc, List.singleton_append, splitSlash_concat hb]
      exact ⟨_, rfl⟩
    · rw [if_neg (by simp [hd, hl]), splitSlash_concat hb]
      exact ⟨_, rfl⟩

/-- The directory part of a path with a last `/` is not empty. -/
theorem pathSplit_fst_ne_nil {a b : List Char} (hb : '/' ∉ b) : (pathSplit (a ++ '/' :: b)).1 ≠ [] := by
  have hhead : ((a ++ '/' :: b).reverse.dropWhile (fun x => !decide (x = '/'))).reverse = a ++ ['/'] := by
    simp [List.dropWhile_append_of_pos (not_slash_of_not_mem hb)]
  simp only [pathSplit, ne_eq, decide_not, hhead]
  split_ifs with hall
  · simp
  · intro h
    rw [List.reverse_eq_nil_iff, List.dropWhile_eq_nil_iff] at h
    exact hall (List.all_eq_true.2 fun c hc => h c (List.mem_reverse.2 hc))

theorem globJoin_eq_pathJoin {b : List Char} (hb : b ≠ []) (d : List Char) :
    globJoin d b = pathJoin d b := by
  unfold globJoin pathJoin
  by_cases hd : d.isEmpty
  · simp [hd, List.isEmpty_iff.1 hd]
  · simp [hd, List.isEmpty_iff.not.2 hb]

namespace FileTree

variable (t : FileTree)

/-! ## Resolution -/

/-- A walk from an entry only reaches entries. -/
theorem walk_kind : ∀ (cs cur : List String) {q : List String}, t.kind cur ≠ none →
    t.walk cur cs = some q → t.kind q ≠ none
  | [], cur, q, hcur, h => by cases h; exact hcur
  | c :: cs, cur, q, hcur, h => by
      unfold walk at h
      split_ifs at h with hdir hdot hup hroot hnew
      · exact walk_kind cs cur hcur h
      · -- `..` steps back to the parent, a directory since `cur` is an entry
        refine walk_kind cs cur.dropLast ?_ h
        rw [t.kind_prefix (p := cur.dropLast) (q := [cur.getLast hroot])
          (by rwa [List.dropLast_append_getLast hroot]) (List.cons_ne_nil _ _)]
        exact Option.some_ne_none _
      · exact walk_kind cs (cur ++ [c]) hnew h

/-- A walk whose last step is an ordinary name ends at an entry of that name. -/
theorem walk_concat {c : String} (hc : Ordinary c) :
    ∀ (cs cur : List String) {q : List String}, t.walk cur (cs ++ [c]) = some q → ∃ q', q = q' ++ [c]
  | [], cur, q, h => by
      simp only [List.nil_append, walk, if_neg (not_or.2 ⟨hc.1, hc.2.1⟩), if_neg hc.2.2] at h
      split_ifs at h
      cases h
      exact ⟨cur, rfl⟩
  | d :: cs, cur, q, h => by
      rw [List.cons_append] at h
      unfold walk at h
      split_ifs at h
      · exact walk_concat hc cs cur h
      · exact walk_concat hc cs cur.dropLast h
      · exact walk_concat hc cs (cur ++ [d]) h

/-- A path whose last component is an ordinary name resolves, if at all, to an
entry of the tree with that name. -/
theorem resolve_last {p b : List Char} {xs : List (List Char)} (hs : splitSlash p = xs ++ [b])
    (hb : Ordinary ⟨b⟩) {q : List String} (h : t.resolve p = some q) :
    t.kind q ≠ none ∧ ∃ q', q = q' ++ [⟨b⟩] := by
  unfold resolve at h
  split_ifs at h
  rw [hs, List.map_append, List.map_singleton] at h
  exact ⟨t.walk_kind _ [] (by simp) h, t.walk_concat hb _ [] h⟩

/-! ## `glob` -/

/-- `_glob0` of a name without magic in each directory found: every path
exists and ends in that name. -/
theorem glob0_found {b : List Char} (hb : b ≠ []) (hslash : '/' ∉ b) (dirs : List (List Char)) :
    ∀ p ∈ (dirs.map fun d => (t.glob0 d b).map (pathJoin d)).flatten,
      t.lexists p = true ∧ ∃ xs, splitSlash p = xs ++ [b] := by
  have hbe : b.isEmpty = false := by cases b <;> simp_all
  intro p hp
  obtain ⟨l, hl, hp⟩ := List.mem_flatten.1 hp
  obtain ⟨d, -, rfl⟩ := List.mem_map.1 hl
  obtain ⟨n, hn, rfl⟩ := List.mem_map.1 hp
  simp only [glob0, hbe, Bool.false_eq_true, if_false] at hn
  split_ifs at hn with hex
  · obtain rfl := List.mem_singleton.1 hn
    rw [globJoin_eq_pathJoin hb] at hex
    exact ⟨hex, splitSlash_pathJoin hslash d⟩
  · cases hn

/-- A pattern whose last component has no magic: every path `glob` returns
exists and ends in that component. -/
theorem iglob_found {fuel : Nat} {a b : List Char} (hb : b ≠ []) (hmagic : hasMagic b = false)
    (hslash : '/' ∉ b) {paths : List (List Char)} (h : t.iglob (fuel + 1) (a ++ '/' :: b) false = .ok paths) :
    ∀ p ∈ paths, t.lexists p = true ∧ ∃ xs, splitSlash p = xs ++ [b] := by
  obtain ⟨dn, hs⟩ : ∃ dn, pathSplit (a ++ '/' :: b) = (dn, b) := ⟨_, Prod.ext rfl (pathSplit_snd hslash)⟩
  have hdn : dn.isEmpty = false := by simpa [hs] using pathSplit_fst_ne_nil (a := a) hslash
  have hbe : b.isEmpty = false := by simpa using hb
  unfold iglob at h
  simp only [hs, hdn, hbe, hmagic, Bool.false_eq_true, if_false] at h
  by_cases hm : hasMagic (a ++ '/' :: b) = true
  · -- the directories found, whichever they are, are searched with `_glob0`
    simp only [hm, Bool.not_true, Bool.false_eq_true, if_false] at h
    split at h <;>
    · obtain ⟨dirs, -, h⟩ := exceptBind_eq_ok h
      simp only [pure_bind] at h
      rw [mapM_pure, exceptOk_bind] at h
      cases h
      exact t.glob0_found hb hslash dirs
  · simp only [Bool.eq_false_iff.2 hm, Bool.not_false, if_true] at h
    cases h
    intro p hp
    split_ifs at hp with hex
    · obtain rfl := List.mem_singleton.1 hp
      exact ⟨hex, _, splitSlash_concat hslash a⟩
    · cases hp

end FileTree

end TfK8s.Py

namespace TfK8s.Runner

open Py FileTree

/-- `p` resolves to an entry of the tree named `scenario_definition.yaml`. -/
def NamesDefinition (t : FileTree) (p : String) : Prop :=
  ∃ q, t.resolve p.data = some (q ++ ["scenario_definition.yaml"]) ∧
    t.kind (q ++ ["scenario_definition.yaml"]) ≠ none

/-- Each pattern `find_scenarios` builds: what `glob` returns for it names an
entry called `scenario_definition.yaml`. -/
theorem glob_found (t : FileTree) {pat : String} {a : List Char}
    (hpat : pat.data = a ++ '/' :: "scenario_definition.yaml".data) {paths : List String}
    (h : t.glob pat = .ok paths) : ∀ p ∈ paths, NamesDefinition t p := by
  obtain ⟨found, hfound, rfl⟩ : ∃ found, t.iglob (pat.length + 1) pat.data false = .ok found ∧
      paths = found.map String.mk := by
    unfold FileTree.glob at h
    cases hf : t.iglob (pat.length + 1) pat.data false <;> rw [hf] at h <;> cases h
    exact ⟨_, rfl, rfl⟩
  rw [hpat] at hfound
  intro p hp
  obtain ⟨c, hc, rfl⟩ := List.mem_map.1 hp
  obtain ⟨hex, xs, hs⟩ := t.iglob_found (by decide) (by decide) (by decide) hfound c hc
  obtain ⟨q, hq⟩ := Option.isSome_iff_exists.1 hex
  obtain ⟨hk, q', rfl⟩ := t.resolve_last hs (by decide) hq
  exact ⟨q', hq, hk⟩

theorem definitionPattern_last (location scenarioId : String) :
    (definitionPattern location scenarioId).data =
      ("tf-k8s/scenarios/" ++ location ++ "/" ++ scenarioId).data ++ '/' :: "scenario_definition.yaml".data := by
  simp only [definitionPattern, String.data_append, List.append_assoc]

theorem groupPattern_last (group : String) :
    (groupPattern group).data =
      ("tf-k8s/scenarios/enabled/" ++ group ++ "*").data ++ '/' :: "scenario_definition.yaml".data := by
  simp only [groupPattern, String.data_append, List.append_assoc]
  rfl

/-- A group's search, by its catalog entry or by its prefix. -/
theorem byGroup_found (t : FileTree) (group : String) {paths : List String}
    (h : findScenarios.byGroup t group = .ok paths) : ∀ p ∈ paths, NamesDefinition t p := by
  unfold findScenarios.byGroup at h
  split at h
  · obtain ⟨found, hfound, h⟩ := exceptBind_eq_ok h
    cases h
    intro p hp
    obtain ⟨ps, hps, hp⟩ := List.mem_flatten.1 hp
    obtain ⟨scenarioId, -, hglob⟩ := mem_of_mapM_eq_ok hfound ps hps
    exact glob_found t (definitionPattern_last _ _) hglob p hp
  · exact glob_found t (groupPattern_last _) h

/-- For every group and identifier, whatever characters they hold, every path
`find_scenarios` returns resolves to an entry of the tree named
`scenario_definition.yaml`. -/
theorem findScenarios_found (t : FileTree) (group : String) (scenarioId : Option String)
    {paths : List String} (h : findScenarios t group scenarioId = .ok paths) :
    ∀ p ∈ paths, NamesDefinition t p := by
  unfold findScenarios at h
  split at h
  · split_ifs at h
    · -- the identifier's own pattern; the pending one is only looked at
      obtain ⟨scenarios, hglob, h⟩ := exceptBind_eq_ok h
      have hret : paths = scenarios := by
        split_ifs at h
        · obtain ⟨_, -, h⟩ := exceptBind_eq_ok h
          exact (Except.ok.inj h).symm
        · exact (Except.ok.inj h).symm
      exact hret ▸ glob_found t (definitionPattern_last _ _) hglob
    · exact byGroup_found t group h
  · exact byGroup_found t group h

/-- The identifier `../pending/TF-C-3_c` reaches the pending definition, which
exists. -/
theorem findScenarios_found_pending :
    findScenarios exampleTree "slo-core" (some "../pending/TF-C-3_c") =
        .ok ["tf-k8s/scenarios/enabled/../pending/TF-C-3_c/scenario_definition.yaml"] ∧
      NamesDefinition exampleTree "tf-k8s/scenarios/enabled/../pending/TF-C-3_c/scenario_definition.yaml" :=
  have h : findScenarios exampleTree "slo-core" (some "../pending/TF-C-3_c") =
      .ok ["tf-k8s/scenarios/enabled/../pending/TF-C-3_c/scenario_definition.yaml"] := rfl
  ⟨h, findScenarios_found exampleTree _ _ h _ (List.mem_singleton_self _)⟩

end TfK8s.Runner
