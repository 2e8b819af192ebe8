import TfK8s.Proofs.Wildcard
import TfK8s.Proofs.Glob
import TfK8s.Runner.Catalog

/-!
# What `find_scenarios` finds

With an identifier or a group that holds no `*`, `?`, `[` or `/`, and is not
`.`, `..` or empty, every pattern `find_scenarios` builds is read literally: the
identifier's pattern is one `lexists`, so the result is that one enabled
definition or nothing; an unknown group's pattern lists the enabled directory
and keeps the directories whose names start with the group; a catalog group
looks its identifiers up one by one, in the catalog's order. The catalog's own
identifiers all qualify, which is checked by evaluation.

Outside those conditions the patterns are read as `glob` reads them. A `*` as
the identifier finds every enabled scenario, `..` in it reaches the pending
ones, and a class in a group matches names that do not start with the group.
For any group outside the catalog with no `/`, magic or not, what is found is
exactly what `{group}*` matches as a shell wildcard, by the search `fnmatch`
compiles (`findScenarios_group_wild`); for an identifier with magic and no `/`,
what the identifier matches (`findScenarios_scenarioId_wild`). Both are one
lemma about a pattern `{location}/{c}/scenario_definition.yaml` with magic in
the component `c` (`glob_location`).
-/

namespace TfK8s.Runner

open Py FileTree

/-- The names of a scenario's definition file in `location`. -/
def definitionEntry (location scenarioId : String) : List String :=
  ["tf-k8s", "scenarios", location, scenarioId, "scenario_definition.yaml"]

/-- The names of the enabled directory. -/
def enabledDir : List String :=
  ["tf-k8s", "scenarios", "enabled"]

/-- The tree holds a definition file for `scenarioId` in `location`. -/
def hasDefinition (t : FileTree) (location scenarioId : String) : Bool :=
  (t.kind (definitionEntry location scenarioId)).isSome

/-- A name a path resolves through as itself: ordinary, with no `/`. -/
def PlainName (s : String) : Prop :=
  Ordinary s ∧ '/' ∉ s.data

/-- What `find_scenarios` can put into a pattern for `glob` to read literally. -/
def LiteralName (s : String) : Prop :=
  PlainName s ∧ hasMagic s.data = false

instance : DecidablePred PlainName := fun _ => inferInstanceAs (Decidable (_ ∧ _))

instance : DecidablePred LiteralName := fun _ => inferInstanceAs (Decidable (_ ∧ _))

/-! ## The identifier's pattern -/

theorem definitionPattern_data (location scenarioId : String) :
    (definitionPattern location scenarioId).data =
      "tf-k8s".data ++ '/' :: ("scenarios".data ++ '/' :: (location.data ++ '/' ::
        (scenarioId.data ++ '/' :: "scenario_definition.yaml".data))) := by
  simp only [definitionPattern, String.data_append, List.append_assoc]
  rfl

theorem definitionPattern_enabled_data (scenarioId : String) :
    (definitionPattern "enabled" scenarioId).data = "tf-k8s/scenarios/enabled".data ++
      '/' :: (scenarioId.data ++ '/' :: "scenario_definition.yaml".data) := by
  rw [definitionPattern_data]
  rfl

theorem definitionPattern_inj {location a b : String}
    (h : definitionPattern location a = definitionPattern location b) : a = b := by
  have := congrArg String.data h
  rw [definitionPattern_data, definitionPattern_data] at this
  simp only [List.append_cancel_left_eq, List.cons.injEq, true_and] at this
  exact String.ext (List.append_cancel_right this)

theorem lexists_definitionPattern (t : FileTree) {location scenarioId : String}
    (hloc : PlainName location) (hid : PlainName scenarioId) :
    t.lexists (definitionPattern location scenarioId).data = hasDefinition t location scenarioId := by
  have hsplit : (splitSlash (definitionPattern location scenarioId).data).map String.mk =
      definitionEntry location scenarioId := by
    rw [definitionPattern_data, splitSlash_append (by decide), splitSlash_append (by decide),
      splitSlash_append hloc.2, splitSlash_append hid.2, splitSlash_of_not_mem (by decide)]
    rfl
  have hord : ∀ n ∈ definitionEntry location scenarioId, Ordinary n := by
    simp only [definitionEntry, List.forall_mem_cons, List.not_mem_nil, false_imp_iff,
      implies_true, and_true]
    exact ⟨by decide, by decide, hloc.1, hid.1, by decide⟩
  rw [lexists, t.resolve_ordinary (by rw [definitionPattern_data]; exact nofun)
    (by rw [definitionPattern_data]; exact List.cons_ne_nil _ _) hsplit hord, hasDefinition]
  cases t.kind (definitionEntry location scenarioId) <;> rfl

/-- A pattern with no magic whose last component is not empty is one `lexists`. -/
theorem iglob_of_not_hasMagic (t : FileTree) {n : Nat} {p : List Char} (h : hasMagic p = false)
    (hb : (pathSplit p).2 ≠ []) (dironly : Bool) :
    t.iglob (n + 1) p dironly = .ok (if t.lexists p then [p] else []) := by
  cases hs : pathSplit p with
  | mk d b =>
      rw [hs] at hb
      have hb' : b.isEmpty = false := by cases b <;> first | exact absurd rfl hb | rfl
      simp only [iglob, hs, h, Bool.not_false, if_true, hb', Bool.false_eq_true, if_false]

theorem glob_definitionPattern (t : FileTree) {location scenarioId : String}
    (hloc : LiteralName location) (hid : LiteralName scenarioId) :
    t.glob (definitionPattern location scenarioId) =
      .ok (if hasDefinition t location scenarioId then [definitionPattern location scenarioId] else []) := by
  have hmagic : hasMagic (definitionPattern location scenarioId).data = false := by
    simp [definitionPattern_data, hloc.2, hid.2]
  have hb : (pathSplit (definitionPattern location scenarioId).data).2 ≠ [] := by
    have : (definitionPattern location scenarioId).data =
        ("tf-k8s/scenarios/" ++ location ++ "/" ++ scenarioId).data ++
          '/' :: "scenario_definition.yaml".data := by
      simp only [definitionPattern, String.data_append, List.append_assoc]
    rw [this, pathSplit_snd (by decide)]
    exact List.cons_ne_nil _ _
  rw [FileTree.glob, iglob_of_not_hasMagic t hmagic hb, lexists_definitionPattern t hloc.1 hid.1]
  split <;> rfl

/-! ## An unknown group's pattern -/

theorem groupPattern_data (group : String) :
    (groupPattern group).data = ("tf-k8s/scenarios/enabled".data ++ '/' :: group.data) ++
      '*' :: '/' :: "scenario_definition.yaml".data := by
  simp only [groupPattern, String.data_append, List.append_assoc]
  rfl

/-- `tf-k8s/scenarios/{location}`, the directory of the scenarios in `location`. -/
def locationPath (location : String) : List Char :=
  "tf-k8s/scenarios/".data ++ location.data

/-- The names of that directory. -/
def locationDir (location : String) : List String :=
  ["tf-k8s", "scenarios", location]

/-- A plain name is its characters before a last one that is not `/`. -/
theorem PlainName.concat {n : String} (h : PlainName n) :
    ∃ a x, n.data = a ++ [x] ∧ x ≠ '/' := by
  rcases List.eq_nil_or_concat n.data with hn | ⟨a, x, hax⟩
  · exact absurd (String.ext hn) h.1.1
  · rw [List.concat_eq_append] at hax
    exact ⟨a, x, hax, fun hx => h.2 (by rw [hax, hx]; exact List.mem_concat_self _ _)⟩

theorem locationPath_concat {location : String} (hloc : PlainName location) :
    ∃ a x, locationPath location = a ++ [x] ∧ x ≠ '/' := by
  obtain ⟨a, x, hax, hx⟩ := hloc.concat
  exact ⟨"tf-k8s/scenarios/".data ++ a, x, by rw [locationPath, hax, List.append_assoc], hx⟩

theorem listdir_location (t : FileTree) {location : String} (hloc : PlainName location)
    (hnul : '\x00' ∉ location.data) :
    t.listdir (locationPath location) true = .ok (t.subdirs (locationDir location)) := by
  have hdata : locationPath location = "tf-k8s".data ++ '/' :: ("scenarios".data ++ '/' :: location.data) :=
    rfl
  refine t.listdir_dironly ?_ (by rw [hdata]; exact nofun) (by rw [hdata]; exact List.cons_ne_nil _ _) ?_ ?_
  · simp only [locationPath, List.mem_append, not_or]
    exact ⟨by decide, hnul⟩
  · rw [hdata, splitSlash_append (by decide), splitSlash_append (by decide), splitSlash_of_not_mem hloc.2]
    rfl
  · simp only [locationDir, List.forall_mem_cons, List.not_mem_nil, false_imp_iff, implies_true, and_true]
    exact ⟨by decide, by decide, hloc.1⟩

theorem listdir_enabledDir (t : FileTree) :
    t.listdir "tf-k8s/scenarios/enabled".data true = .ok (t.subdirs enabledDir) :=
  listdir_location t (by decide) (by decide)

/-- With a pattern that is not empty, skipping hidden names first changes
nothing: a hidden name starts with a prefix only if the prefix is hidden. -/
theorem filter_hidden_prefix {g : List Char} (hg : g ≠ []) (names : List String) :
    ((if isHidden (g ++ ['*']) then names else names.filter fun n => !isHidden n.data).filter
      fun n => g.isPrefixOf n.data) = names.filter fun n => g.isPrefixOf n.data := by
  obtain ⟨c, g, rfl⟩ := List.exists_cons_of_ne_nil hg
  by_cases hc : c = '.'
  · simp [isHidden, hc]
  · rw [if_neg (by simp [isHidden, hc]), List.filter_filter]
    congr 1
    funext n
    cases n with
    | mk s =>
        cases s with
        | nil => simp [List.isPrefixOf]
        | cons d s =>
            by_cases hcd : d = c
            · subst hcd; simp [isHidden, List.isPrefixOf, hc]
            · simp [isHidden, List.isPrefixOf, Ne.symm hcd]

theorem glob1_enabledDir (t : FileTree) {group : String} (hne : group ≠ "")
    (hmagic : hasMagic group.data = false) :
    t.glob1 "tf-k8s/scenarios/enabled".data (group.data ++ ['*']) true =
      .ok (((t.subdirs enabledDir).filter fun n => group.data.isPrefixOf n.data).map String.data) := by
  have hg : group.data ≠ [] := fun h => hne (String.ext h)
  rw [glob1, listdir_enabledDir]
  simp only [exceptOk_bind, fnmatchFilter_prefix_star hmagic, filter_hidden_prefix hg]
  rfl

theorem isHidden_append_star (g : List Char) : isHidden (g ++ ['*']) = isHidden g := by
  cases g <;> rfl

/-- Any component: `glob1` keeps the directories under the location that it
matches under the shell reading, hidden ones only for a hidden component. -/
theorem glob1_location_wild (t : FileTree) {location : String} (hloc : PlainName location)
    (hnul : '\x00' ∉ location.data) {c : List Char} {atoms : List (Option Atom)}
    (hc : (translate c).mapM compilePiece = .ok atoms) :
    t.glob1 (locationPath location) c true =
      .ok (((t.subdirs (locationDir location)).filter fun n =>
        (isHidden c || !isHidden n.data) && decide (Wild atoms n.data)).map String.data) := by
  rw [glob1, listdir_location t hloc hnul]
  simp only [exceptOk_bind, @fnmatchFilter_wild ⟨c⟩ atoms hc]
  cases isHidden c <;> simp [List.filter_filter, Bool.and_comm] <;> rfl

/-- Any group: `glob1` keeps the directories under `enabled` that `{group}*`
matches under the shell reading, hidden ones only for a hidden group. -/
theorem glob1_enabledDir_wild (t : FileTree) {group : String} {atoms : List (Option Atom)}
    (hc : (translate (group.data ++ ['*'])).mapM compilePiece = .ok atoms) :
    t.glob1 "tf-k8s/scenarios/enabled".data (group.data ++ ['*']) true =
      .ok (((t.subdirs enabledDir).filter fun n =>
        (isHidden group.data || !isHidden n.data) && decide (Wild atoms n.data)).map String.data) := by
  rw [← isHidden_append_star]
  exact glob1_location_wild t (by decide) (by decide) hc

theorem subdirs_plainName (t : FileTree) {d : List String} {n : String} (hn : n ∈ t.subdirs d) :
    PlainName n := by
  have hv := t.valid_names _ ((t.mem_subdirs).1 hn) n (by simp)
  exact ⟨hv.ordinary, hv.2.2.2.1⟩

/-- A directory of the location, joined with a last component. -/
theorem pathJoin_location {location : String} (hloc : PlainName location) {b : List Char}
    (hb : b.head? ≠ some '/') : pathJoin (locationPath location) b = locationPath location ++ '/' :: b := by
  obtain ⟨a, x, hax, hx⟩ := locationPath_concat hloc
  rw [hax, pathJoin_of_ne hx hb]
  simp

/-- `{location}/<name>`, the directory `glob` found, joined with a last component. -/
theorem pathJoin_location_child (location : String) {n : String} (hn : PlainName n) {b : List Char} (hb : b.head? ≠ some '/') :
    pathJoin (locationPath location ++ '/' :: n.data) b = locationPath location ++ '/' :: (n.data ++ '/' :: b) := by
  obtain ⟨a, x, hax, hx⟩ := hn.concat
  have hd : locationPath location ++ '/' :: n.data = (locationPath location ++ '/' :: a) ++ [x] := by
    rw [hax]; simp
  rw [hd, pathJoin_of_ne hx hb, hax]
  simp

/-- The directory part of a pattern `{location}/{c}` with magic in `c`: the
directories under the location that `glob1` keeps, each joined to it. -/
theorem iglob_location (t : FileTree) {location : String} (hloc : LiteralName location) {c : List Char}
    (hslash : '/' ∉ c) (hmagic : hasMagic c = true) {keep : String → Bool}
    (h1 : t.glob1 (locationPath location) c true =
      .ok (((t.subdirs (locationDir location)).filter keep).map String.data)) (m : Nat) :
    t.iglob (m + 1) (locationPath location ++ '/' :: c) true =
      .ok (((t.subdirs (locationDir location)).filter keep).map
        fun n => locationPath location ++ '/' :: n.data) := by
  obtain ⟨a, x, hax, hx⟩ := locationPath_concat hloc.1
  have hsplit : pathSplit (locationPath location ++ '/' :: c) = (locationPath location, c) := by
    rw [hax, List.append_assoc, List.singleton_append]
    exact pathSplit_append hx hslash
  have hjoin : ∀ n ∈ t.subdirs (locationDir location), pathJoin (locationPath location) n.data =
      locationPath location ++ '/' :: n.data :=
    fun n hn => pathJoin_location hloc.1 fun h => (subdirs_plainName t hn).2 (List.mem_of_mem_head? h)
  have hEm : hasMagic (locationPath location) = false := by
    simp only [locationPath, hasMagic_append, hloc.2, Bool.or_false]
    decide
  have hEe : (locationPath location).isEmpty = false := by rw [hax]; simp
  have hPm : hasMagic (locationPath location ++ '/' :: c) = true := by simp [hmagic]
  generalize locationPath location = E at *
  simp only [iglob, hsplit, hEm, hEe, hPm, hmagic, Bool.not_true, Bool.false_eq_true, if_false, if_true,
    Bool.and_false, pure_bind, List.mapM_cons, List.mapM_nil, h1, exceptOk_bind, List.map_map,
    List.flatten_cons, List.flatten_nil, List.append_nil]
  exact congrArg Except.ok (List.map_congr_left fun n hn => hjoin n (List.mem_of_mem_filter hn))

theorem definitionPattern_location_data (location scenarioId : String) :
    (definitionPattern location scenarioId).data =
      locationPath location ++ '/' :: (scenarioId.data ++ '/' :: "scenario_definition.yaml".data) := by
  rw [definitionPattern_data]
  rfl

/-- `{location}/{n}/{b}` with plain names resolves through its names. -/
theorem resolve_locationChild (t : FileTree) {location n b : String} (hloc : PlainName location)
    (hn : PlainName n) (hb : PlainName b) :
    t.resolve (locationPath location ++ '/' :: (n.data ++ '/' :: b.data)) =
      if t.kind (locationDir location ++ [n, b]) = none then none else some (locationDir location ++ [n, b]) := by
  have hdata : locationPath location ++ '/' :: (n.data ++ '/' :: b.data) = "tf-k8s".data ++ '/' ::
      ("scenarios".data ++ '/' :: (location.data ++ '/' :: (n.data ++ '/' :: b.data))) := by
    simp [locationPath]
  have hsplit : (splitSlash (locationPath location ++ '/' :: (n.data ++ '/' :: b.data))).map String.mk =
      locationDir location ++ [n, b] := by
    rw [hdata, splitSlash_append (by decide), splitSlash_append (by decide), splitSlash_append hloc.2,
      splitSlash_append hn.2, splitSlash_of_not_mem hb.2]
    rfl
  have hord : ∀ x ∈ locationDir location ++ [n, b], Ordinary x := by
    simp only [locationDir, List.cons_append, List.nil_append, List.forall_mem_cons,
      List.not_mem_nil, false_imp_iff, implies_true, and_true]
    exact ⟨by decide, by decide, hloc.1, hn.1, hb.1⟩
  exact t.resolve_ordinary (by rw [hdata]; exact nofun) (by rw [hdata]; exact List.cons_ne_nil _ _) hsplit hord

theorem lexists_locationChild (t : FileTree) {location n b : String} (hloc : PlainName location)
    (hn : PlainName n) (hb : PlainName b) :
    t.lexists (locationPath location ++ '/' :: (n.data ++ '/' :: b.data)) =
      (t.kind (locationDir location ++ [n, b])).isSome := by
  rw [lexists, resolve_locationChild t hloc hn hb]
  cases t.kind (locationDir location ++ [n, b]) <;> rfl

/-- `_glob0` in a directory `{location}/{n}` that `glob` found: the path of
`b` in it when `b` is there, and nothing otherwise. -/
theorem glob0_locationChild (t : FileTree) {location n b : String} (hloc : PlainName location)
    (hn : PlainName n) (hb : PlainName b) :
    (t.glob0 (locationPath location ++ '/' :: n.data) b.data).map (pathJoin (locationPath location ++ '/' :: n.data)) =
      if (t.kind (locationDir location ++ [n, b])).isSome then
        [locationPath location ++ '/' :: (n.data ++ '/' :: b.data)] else [] := by
  have hbe : b.data.isEmpty = false := by
    simpa [List.isEmpty_iff, String.ext_iff] using hb.1.1
  have hjoin : pathJoin (locationPath location ++ '/' :: n.data) b.data =
      locationPath location ++ '/' :: (n.data ++ '/' :: b.data) :=
    pathJoin_location_child location hn fun h => hb.2 (List.mem_of_mem_head? h)
  have hglob : globJoin (locationPath location ++ '/' :: n.data) b.data =
      locationPath location ++ '/' :: (n.data ++ '/' :: b.data) := by
    rw [globJoin, if_neg (by simp), hbe, if_neg Bool.false_ne_true, hjoin]
  rw [glob0, hbe, if_neg Bool.false_ne_true, hglob, lexists_locationChild t hloc hn hb]
  split
  · rw [List.map_singleton, hjoin]
  · rfl

/-- A pattern `{location}/{c}/{b}` with magic in `c` only: the directories
under the location that `glob1` keeps and that hold `b`, each joined with `b`,
in listing order. -/
theorem iglob_locationChild (t : FileTree) {location : String} (hloc : LiteralName location) {c : List Char}
    (hslash : '/' ∉ c) (hmagic : hasMagic c = true) {keep : String → Bool}
    (h1 : t.glob1 (locationPath location) c true =
      .ok (((t.subdirs (locationDir location)).filter keep).map String.data))
    {b : String} (hb : LiteralName b) (m : Nat) (dironly : Bool) :
    t.iglob (m + 2) (locationPath location ++ '/' :: (c ++ '/' :: b.data)) dironly =
      .ok (((t.subdirs (locationDir location)).filter fun n =>
        keep n && (t.kind (locationDir location ++ [n, b])).isSome).map
          fun n => locationPath location ++ '/' :: (n.data ++ '/' :: b.data)) := by
  have hsplit : pathSplit (locationPath location ++ '/' :: (c ++ '/' :: b.data)) =
      (locationPath location ++ '/' :: c, b.data) := by
    obtain ⟨c', x, rfl, hx⟩ : ∃ c' x, c = c' ++ [x] ∧ x ≠ '/' := by
      rcases List.eq_nil_or_concat c with rfl | ⟨c', x, rfl⟩
      · cases hmagic
      · exact ⟨c', x, List.concat_eq_append _ _, fun h => hslash (by simp [h])⟩
    simpa using pathSplit_append (a := locationPath location ++ '/' :: c') hx hb.1.2
  have hg0 : ∀ n ∈ (t.subdirs (locationDir location)).filter keep,
      (t.glob0 (locationPath location ++ '/' :: n.data) b.data).map
        (pathJoin (locationPath location ++ '/' :: n.data)) =
      if (t.kind (locationDir location ++ [n, b])).isSome then
        [locationPath location ++ '/' :: (n.data ++ '/' :: b.data)] else [] :=
    fun n hn => glob0_locationChild t hloc.1 (subdirs_plainName t (List.mem_of_mem_filter hn)) hb.1
  have hinner := iglob_location t hloc hslash hmagic h1 m
  generalize locationPath location = E at *
  have hdiff : E ++ '/' :: c ≠ E ++ '/' :: (c ++ '/' :: b.data) := by simp
  have hDe : (E ++ '/' :: c).isEmpty = false := by simp
  have hDm : hasMagic (E ++ '/' :: c) = true := by simp [hmagic]
  have hPm : hasMagic (E ++ '/' :: (c ++ '/' :: b.data)) = true := by simp [hmagic]
  rw [iglob]
  simp only [hsplit, hb.2, hinner, hdiff, hDe, hDm, hPm, Bool.not_true, Bool.false_eq_true, if_false,
    if_true, ne_eq, not_false_eq_true, decide_True, Bool.true_and, exceptOk_bind, pure_bind, mapM_pure,
    List.map_map, Function.comp_def]
  rw [List.map_congr_left hg0, flatten_map_ite, List.filter_filter]
  simp only [Bool.and_comm]
  rfl

/-- A pattern `{location}/{c}/scenario_definition.yaml` with magic in `c` and
no `/`: the directories under the location that `glob1` keeps and that hold a
definition, in listing order. -/
theorem glob_location (t : FileTree) {location : String} (hloc : LiteralName location) {c : List Char}
    (hslash : '/' ∉ c) (hmagic : hasMagic c = true) {keep : String → Bool}
    (h1 : t.glob1 (locationPath location) c true =
      .ok (((t.subdirs (locationDir location)).filter keep).map String.data))
    {pat : String} (hpat : pat.data = locationPath location ++ '/' :: (c ++ '/' :: "scenario_definition.yaml".data)) :
    t.glob pat = .ok (((t.subdirs (locationDir location)).filter fun n =>
      keep n && hasDefinition t location n).map (definitionPattern location)) := by
  obtain ⟨m, hm⟩ : ∃ m, pat.length = m + 1 :=
    Nat.exists_eq_succ_of_ne_zero (by simp [String.length, hpat])
  rw [FileTree.glob, hm, hpat, iglob_locationChild t hloc hslash hmagic h1 (b := "scenario_definition.yaml")
    (by decide) m false]
  show Except.ok (List.map String.mk _) = _
  rw [List.map_map]
  exact congrArg Except.ok (List.map_congr_left fun n _ =>
    String.ext (definitionPattern_location_data location n).symm)

/-- An unknown group's pattern: the enabled directories `glob1` keeps that
hold a definition, in listing order. -/
theorem glob_groupPattern (t : FileTree) {group : String} (hslash : '/' ∉ group.data)
    {keep : String → Bool} (h1 : t.glob1 "tf-k8s/scenarios/enabled".data (group.data ++ ['*']) true =
      .ok (((t.subdirs enabledDir).filter keep).map String.data)) :
    t.glob (groupPattern group) = .ok (((t.subdirs enabledDir).filter fun n =>
      keep n && hasDefinition t "enabled" n).map (definitionPattern "enabled")) :=
  glob_location t (by decide) (by simpa using hslash) (by simp) h1 (by rw [groupPattern_data]; simp; rfl)

/-! ## `find_scenarios` -/

theorem mem_of_lookup {α β : Type} [BEq α] [LawfulBEq α] {a : α} {b : β} :
    ∀ {l : List (α × β)}, l.lookup a = some b → (a, b) ∈ l
  | [], h => by cases h
  | (k, v) :: l, h => by
      change (match a == k with | true => some v | false => l.lookup a) = some b at h
      cases hk : a == k
      · simp only [hk] at h
        exact List.mem_cons_of_mem _ (mem_of_lookup h)
      · simp only [hk, Option.some.injEq] at h
        rw [eq_of_beq hk, h]
        exact List.mem_cons_self _ _

/-- Every identifier of the catalog is read literally, and no group lists one
twice. -/
theorem scenarioGroups_literal :
    ∀ g ∈ scenarioGroups, (∀ scenarioId ∈ g.2, LiteralName scenarioId) ∧ g.2.Nodup := by
  decide

theorem findScenarios_scenarioId (t : FileTree) (group : String) {scenarioId : String}
    (hid : LiteralName scenarioId) :
    findScenarios t group (some scenarioId) = .ok (if hasDefinition t "enabled" scenarioId
      then [definitionPattern "enabled" scenarioId] else []) := by
  rw [findScenarios, if_pos hid.1.1.1, glob_definitionPattern t (by decide) hid]
  cases hasDefinition t "enabled" scenarioId
  · simp only [Bool.false_eq_true, if_false, exceptOk_bind, List.isEmpty_nil, if_true,
      glob_definitionPattern t (by decide : LiteralName "pending") hid]
    rfl
  · rfl

theorem findScenarios_unknownGroup (t : FileTree) {group : String}
    (hg : scenarioGroups.lookup group = none) (hne : group ≠ "")
    (hmagic : hasMagic group.data = false) (hslash : '/' ∉ group.data) :
    findScenarios t group none = .ok (((t.subdirs enabledDir).filter fun n =>
      group.data.isPrefixOf n.data && hasDefinition t "enabled" n).map (definitionPattern "enabled")) := by
  rw [findScenarios, findScenarios.byGroup, hg]
  exact glob_groupPattern t hslash (glob1_enabledDir t hne hmagic)

theorem findScenarios_catalogGroup (t : FileTree) {group : String} {scenarioIds : List String}
    (hg : scenarioGroups.lookup group = some scenarioIds) :
    findScenarios t group none =
      .ok ((scenarioIds.filter (hasDefinition t "enabled")).map (definitionPattern "enabled")) := by
  have hlit := (scenarioGroups_literal _ (mem_of_lookup hg)).1
  simp only [findScenarios, findScenarios.byGroup, hg, findGroupScenarios]
  rw [mapM_eq_ok fun scenarioId h => glob_definitionPattern t (by decide) (hlit scenarioId h)]
  exact congrArg Except.ok (flatten_map_ite _ _ _)

/-! ## Patterns read as patterns -/

/-- Two enabled scenarios and a pending one. -/
def exampleTree : FileTree where
  entries := [(["tf-k8s"], true), (["tf-k8s", "scenarios"], true),
    (["tf-k8s", "scenarios", "enabled"], true),
    (["tf-k8s", "scenarios", "enabled", "TF-A-1_a"], true),
    (["tf-k8s", "scenarios", "enabled", "TF-A-1_a", "scenario_definition.yaml"], false),
    (["tf-k8s", "scenarios", "enabled", "TF-B-2_b"], true),
    (["tf-k8s", "scenarios", "enabled", "TF-B-2_b", "scenario_definition.yaml"], false),
    (["tf-k8s", "scenarios", "pending"], true),
    (["tf-k8s", "scenarios", "pending", "TF-C-3_c"], true),
    (["tf-k8s", "scenarios", "pending", "TF-C-3_c", "scenario_definition.yaml"], false)]
  nodup := by decide
  not_root := by decide
  ancestors_dirs := by decide
  valid_names := by decide

/-- The identifier `*` finds both enabled scenarios, `../pending/TF-C-3_c`
finds the pending one, and the group `TF-[AB]` finds directories whose names do
not start with it. -/
theorem findScenarios_magic :
    findScenarios exampleTree "slo-core" (some "*") =
        .ok [definitionPattern "enabled" "TF-A-1_a", definitionPattern "enabled" "TF-B-2_b"] ∧
      findScenarios exampleTree "slo-core" (some "../pending/TF-C-3_c") =
        .ok ["tf-k8s/scenarios/enabled/../pending/TF-C-3_c/scenario_definition.yaml"] ∧
      findScenarios exampleTree "TF-[AB]" none =
        .ok [definitionPattern "enabled" "TF-A-1_a", definitionPattern "enabled" "TF-B-2_b"] :=
  ⟨rfl, rfl, rfl⟩

/-- For an identifier and a group that `glob` reads literally, `find_scenarios`
does what its callers expect. An identifier gives its enabled definition, in a
directory of that name right under `enabled`, or nothing. A group outside the
catalog gives the definitions of the directories under `enabled` whose names
start with it, each once. A catalog group gives its identifiers' enabled
definitions, in the catalog's order and each once. -/
theorem findScenarios_literal (t : FileTree) :
    (∀ group scenarioId : String, LiteralName scenarioId →
      findScenarios t group (some scenarioId) = .ok (if hasDefinition t "enabled" scenarioId
          then [definitionPattern "enabled" scenarioId] else []) ∧
        (hasDefinition t "enabled" scenarioId = true →
          t.kind (enabledDir ++ [scenarioId]) = some true)) ∧
    (∀ group : String, scenarioGroups.lookup group = none → group ≠ "" →
      hasMagic group.data = false → '/' ∉ group.data →
      ∃ paths, findScenarios t group none = .ok paths ∧ paths.Nodup ∧
        ∀ path, path ∈ paths ↔ ∃ name, group.data <+: name.data ∧
          t.kind (enabledDir ++ [name]) = some true ∧ hasDefinition t "enabled" name = true ∧
            path = definitionPattern "enabled" name) ∧
    (∀ (group : String) (scenarioIds : List String), scenarioGroups.lookup group = some scenarioIds →
      findScenarios t group none =
          .ok ((scenarioIds.filter (hasDefinition t "enabled")).map (definitionPattern "enabled")) ∧
        ((scenarioIds.filter (hasDefinition t "enabled")).map (definitionPattern "enabled")).Nodup) := by
  have hinj : Function.Injective (definitionPattern "enabled") := fun _ _ => definitionPattern_inj
  refine ⟨fun group scenarioId hid => ⟨findScenarios_scenarioId t group hid, fun hd => ?_⟩,
    fun group hg hne hmagic hslash => ⟨_, findScenarios_unknownGroup t hg hne hmagic hslash,
      ((t.subdirs_nodup _).filter _).map hinj, fun path => ?_⟩,
    fun group scenarioIds hg => ⟨findScenarios_catalogGroup t hg,
      ((scenarioGroups_literal _ (mem_of_lookup hg)).2.filter _).map hinj⟩⟩
  · exact t.kind_prefix (show t.kind ((enabledDir ++ [scenarioId]) ++ ["scenario_definition.yaml"]) ≠ none
      from Option.isSome_iff_ne_none.1 hd) (List.cons_ne_nil _ _)
  · simp only [List.mem_map, List.mem_filter, Bool.and_eq_true, List.isPrefixOf_iff_prefix,
      t.mem_subdirs, ← t.kind_eq_some (show enabledDir ++ [_] ≠ [] by simp)]
    constructor
    · rintro ⟨name, ⟨hdir, hpre, hdef⟩, rfl⟩
      exact ⟨name, hpre, hdir, hdef, rfl⟩
    · rintro ⟨name, hpre, hdir, hdef, rfl⟩
      exact ⟨name, ⟨hdir, hpre, hdef⟩, rfl⟩

theorem findScenarios_literal_example :
    (LiteralName "TF-A-1_a" ∧ findScenarios exampleTree "slo-core" (some "TF-A-1_a") =
      .ok (if hasDefinition exampleTree "enabled" "TF-A-1_a"
        then [definitionPattern "enabled" "TF-A-1_a"] else [])) ∧
    (scenarioGroups.lookup "TF-" = none ∧ "TF-" ≠ "" ∧ hasMagic "TF-".data = false ∧
      '/' ∉ "TF-".data ∧ ∃ paths, findScenarios exampleTree "TF-" none = .ok paths ∧ paths.Nodup) ∧
    (scenarioGroups.lookup "security" = some ["TF-SEC-1_SBOM_Validation",
      "TF-SEC-2_ImageSignature_Validation", "TF-SEC-3_EdgeProbeHardening"] ∧
      findScenarios exampleTree "security" none = .ok []) :=
  have h := findScenarios_literal exampleTree
  ⟨⟨by decide, (h.1 "slo-core" "TF-A-1_a" (by decide)).1⟩,
    ⟨rfl, by decide, rfl, by decide,
      let ⟨paths, hp, hnd, _⟩ := h.2.1 "TF-" rfl (by decide) rfl (by decide)
      ⟨paths, hp, hnd⟩⟩,
    ⟨rfl, (h.2.2 "security" _ rfl).1⟩⟩

/-! ## Any group outside the catalog -/

/-- A group outside the catalog with no `/`, whose pattern `re` compiles:
`find_scenarios` returns the definitions of the directories under `enabled`
that `{group}*` matches as a shell wildcard, hidden ones only for a group that
starts with `.`, in listing order. -/
theorem findScenarios_group_wild (t : FileTree) {group : String} {atoms : List (Option Atom)}
    (hg : scenarioGroups.lookup group = none) (hslash : '/' ∉ group.data)
    (hc : (translate (group.data ++ ['*'])).mapM compilePiece = .ok atoms) :
    findScenarios t group none = .ok (((t.subdirs enabledDir).filter fun n =>
      ((isHidden group.data || !isHidden n.data) && decide (Wild atoms n.data)) &&
        hasDefinition t "enabled" n).map (definitionPattern "enabled")) := by
  rw [findScenarios, findScenarios.byGroup, hg]
  exact glob_groupPattern t hslash (glob1_enabledDir_wild t hc)

theorem findScenarios_group_wild_class :
    scenarioGroups.lookup "TF-[AB]" = none ∧ '/' ∉ "TF-[AB]".data ∧
      (translate ("TF-[AB]".data ++ ['*'])).mapM compilePiece = .ok [some (.lit 'T'),
        some (.lit 'F'), some (.lit '-'), some (.set false [.single 'A', .single 'B']), none] ∧
      findScenarios exampleTree "TF-[AB]" none = .ok (((exampleTree.subdirs enabledDir).filter fun n =>
        ((isHidden "TF-[AB]".data || !isHidden n.data) && decide (Wild [some (.lit 'T'),
          some (.lit 'F'), some (.lit '-'), some (.set false [.single 'A', .single 'B']), none]
            n.data)) && hasDefinition exampleTree "enabled" n).map (definitionPattern "enabled")) :=
  have hc : (translate ("TF-[AB]".data ++ ['*'])).mapM compilePiece = .ok [some (.lit 'T'),
      some (.lit 'F'), some (.lit '-'), some (.set false [.single 'A', .single 'B']), none] := rfl
  ⟨rfl, by decide, hc, findScenarios_group_wild exampleTree rfl (by decide) hc⟩

/-! ## Any identifier with magic -/

/-- An identifier with magic and no `/`, whose pattern `re` compiles:
`find_scenarios` returns the definitions of the directories under `enabled`
that the identifier matches as a shell wildcard, hidden ones only for an
identifier that starts with `.`, in listing order. When it finds none, the
pending pattern is globbed as well, which only decides what is printed. -/
theorem findScenarios_scenarioId_wild (t : FileTree) (group : String) {scenarioId : String}
    {atoms : List (Option Atom)} (hmagic : hasMagic scenarioId.data = true)
    (hslash : '/' ∉ scenarioId.data) (hc : (translate scenarioId.data).mapM compilePiece = .ok atoms) :
    findScenarios t group (some scenarioId) = .ok (((t.subdirs enabledDir).filter fun n =>
      ((isHidden scenarioId.data || !isHidden n.data) && decide (Wild atoms n.data)) &&
        hasDefinition t "enabled" n).map (definitionPattern "enabled")) := by
  have hne : scenarioId ≠ "" := fun h => by rw [h] at hmagic; cases hmagic
  have hglob : ∀ location, LiteralName location → '\x00' ∉ location.data →
      t.glob (definitionPattern location scenarioId) = .ok (((t.subdirs (locationDir location)).filter
        fun n => ((isHidden scenarioId.data || !isHidden n.data) && decide (Wild atoms n.data)) &&
          hasDefinition t location n).map (definitionPattern location)) :=
    fun location hloc hnul => glob_location t hloc hslash hmagic (glob1_location_wild t hloc.1 hnul hc)
      (definitionPattern_location_data location scenarioId)
  rw [findScenarios, if_pos hne, hglob "enabled" (by decide) (by decide), exceptOk_bind]
  split
  · rw [hglob "pending" (by decide) (by decide)]
    rfl
  · rfl

theorem findScenarios_scenarioId_wild_range :
    hasMagic "TF-[A-B]-*".data = true ∧ '/' ∉ "TF-[A-B]-*".data ∧
      (translate "TF-[A-B]-*".data).mapM compilePiece = .ok [some (.lit 'T'), some (.lit 'F'),
        some (.lit '-'), some (.set false [.range 'A' 'B']), some (.lit '-'), none] ∧
      findScenarios exampleTree "slo-core" (some "TF-[A-B]-*") = .ok (((exampleTree.subdirs enabledDir).filter
        fun n => ((isHidden "TF-[A-B]-*".data || !isHidden n.data) && decide (Wild [some (.lit 'T'),
          some (.lit 'F'), some (.lit '-'), some (.set false [.range 'A' 'B']), some (.lit '-'), none]
            n.data)) && hasDefinition exampleTree "enabled" n).map (definitionPattern "enabled")) :=
  have hc : (translate "TF-[A-B]-*".data).mapM compilePiece = .ok [some (.lit 'T'), some (.lit 'F'),
      some (.lit '-'), some (.set false [.range 'A' 'B']), some (.lit '-'), none] := rfl
  ⟨rfl, by decide, hc, findScenarios_scenarioId_wild exampleTree "slo-core" rfl (by decide) hc⟩

end TfK8s.Runner
