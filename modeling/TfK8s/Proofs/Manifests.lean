import TfK8s.Proofs.Catalog

/-!
# The manifests `setup_scenario` applies

`setup_scenario` looks for a scenario's manifests beside its definition:
`k8s_dir = os.path.join(os.path.dirname(scenario_path), 'k8s')`, and, when
`os.path.exists(k8s_dir)`, `glob.glob(f"{k8s_dir}/*.yaml")`. `Disk.manifests`
stands for that list; here it is computed on the tree, for the definition paths
`find_scenarios` returns.

When `glob` reads the location and the identifier literally, the manifests
are the entries of the `k8s` directory whose names end in `.yaml` and do not
start with `.`, in listing order (`manifestFiles_literal`). An entry is listed
whether it is a file or a directory; a `.yml` file is not.

When the scenario directory has magic in its name, the path of the `k8s`
directory is a pattern itself. `os.path.exists` reads it literally, but `glob`
does not: it lists the `k8s` directories of every scenario directory the name
matches, in listing order (`manifestFiles_wild`). A directory `TF-[1]` gets the
manifests of `TF-1`, and not its own.
-/

namespace TfK8s.Py.FileTree

variable (t : FileTree)

/-- The entries of the directory `d`, files and directories, in listing order. -/
def listing (d : List String) : List String :=
  t.entries.filterMap fun e => childName d e.1

theorem listing_eq_nil {d : List String} (h : t.kind d ≠ some true) : t.listing d = [] := by
  refine List.eq_nil_iff_forall_not_mem.2 fun n hn => h ?_
  obtain ⟨⟨q, b⟩, he, hc⟩ := List.mem_filterMap.1 hn
  obtain rfl := childName_eq_some.1 hc
  have hk : t.kind (d ++ [n]) = some b := (t.kind_eq_some (by simp)).2 he
  exact t.kind_prefix (by rw [hk]; exact Option.some_ne_none _) (List.cons_ne_nil _ _)

theorem validName_of_listing {d : List String} {n : String} (hn : n ∈ t.listing d) : ValidName n := by
  obtain ⟨⟨q, b⟩, he, hc⟩ := List.mem_filterMap.1 hn
  obtain rfl := childName_eq_some.1 hc
  exact t.valid_names _ he n (by simp)

/-- `_listdir(dirname, dironly=False)` on a path that resolves through its
names: the entries of the directory it names, or nothing. -/
theorem listdir_all {p : List Char} {ns : List String} (hnul : '\x00' ∉ p) (hne : p ≠ [])
    (hr : t.resolve p = if t.kind ns = none then none else some ns) :
    t.listdir p false = .ok (t.listing ns) := by
  have hemp : p.isEmpty = false := by cases p <;> first | exact absurd rfl hne | rfl
  rw [listdir, if_neg hnul, hemp, if_neg Bool.false_ne_true, hr]
  by_cases hk : t.kind ns = some true
  · simp only [hk, reduceCtorEq, if_false, if_true, Bool.not_false, Bool.true_or]
    rfl
  · rw [t.listing_eq_nil hk]
    by_cases hn : t.kind ns = none
    · rw [if_pos hn]
    · rw [if_neg hn]
      show (if t.kind ns = some true then _ else _) = _
      rw [if_neg hk]

end TfK8s.Py.FileTree

namespace TfK8s.Runner

open Py FileTree

/-! ## The code -/

/-- `os.path.join(os.path.dirname(scenario_path), 'k8s')`. -/
def k8sDir (scenarioPath : String) : String :=
  ⟨pathJoin (pathSplit scenarioPath.data).1 "k8s".data⟩

/-- The manifests `setup_scenario` applies: `glob.glob(f"{k8s_dir}/*.yaml")`
when `os.path.exists(k8s_dir)`, and none otherwise. With no symbolic links,
`exists` is `lexists`. -/
def manifestFiles (t : FileTree) (scenarioPath : String) : Except PyExc (List String) :=
  if t.lexists (k8sDir scenarioPath).data then t.glob (k8sDir scenarioPath ++ "/*.yaml") else .ok []

/-! ## What is listed -/

/-- A name `*.yaml` keeps in a listing: it ends in `.yaml`, and it is not hidden. -/
def isManifestName (n : String) : Bool :=
  !isHidden n.data && ".yaml".data.isSuffixOf n.data

/-- The names of the `k8s` directory beside a scenario's definition. -/
def k8sEntry (location scenarioId : String) : List String :=
  locationDir location ++ [scenarioId, "k8s"]

/-- The scenario directory has a `k8s` entry. -/
def hasK8s (t : FileTree) (location scenarioId : String) : Bool :=
  (t.kind (k8sEntry location scenarioId)).isSome

/-- `tf-k8s/scenarios/{location}/{scenarioId}/k8s/{name}`. -/
def manifestPath (location scenarioId name : String) : String :=
  "tf-k8s/scenarios/" ++ location ++ "/" ++ scenarioId ++ "/k8s/" ++ name

/-- The manifests in a scenario directory's `k8s` directory, in listing order. -/
def yamlManifests (t : FileTree) (location scenarioId : String) : List String :=
  ((t.listing (k8sEntry location scenarioId)).filter isManifestName).map (manifestPath location scenarioId)

/-! ## `*.yaml` -/

/-- `*F` for a literal `F`: the names that end in `F`. -/
theorem wild_star_lits (s w : List Char) : Wild (none :: (s.map Atom.lit).map some) w ↔ s <:+ w := by
  rw [wild_last, matchFixed_lits, List.length_map, List.isPrefixOf_iff_prefix, List.suffix_iff_eq_drop]
  constructor
  · rintro ⟨hle, h⟩
    exact h.eq_of_length (by simp; omega)
  · intro h
    have hlen := congrArg List.length h
    simp only [List.length_drop] at hlen
    exact ⟨by omega, [], (List.append_nil s).trans h⟩

theorem fnmatchFilter_yaml (names : List String) :
    fnmatchFilter names "*.yaml" = .ok (names.filter fun n => ".yaml".data.isSuffixOf n.data) := by
  rw [@fnmatchFilter_wild "*.yaml" (none :: (".yaml".data.map Atom.lit).map some) rfl]
  refine congrArg Except.ok (List.filter_congr fun n _ => ?_)
  rw [Bool.eq_iff_iff, decide_eq_true_iff, wild_star_lits, List.isSuffixOf_iff_suffix]

/-- `_glob1(dirname, '*.yaml', False)` on a path that resolves through its
names: the manifests among the entries of the directory it names. -/
theorem glob1_yaml (t : FileTree) {p : List Char} {ns : List String} (hnul : '\x00' ∉ p) (hne : p ≠ [])
    (hr : t.resolve p = if t.kind ns = none then none else some ns) :
    t.glob1 p "*.yaml".data false = .ok (((t.listing ns).filter isManifestName).map String.data) := by
  rw [glob1, t.listdir_all hnul hne hr]
  simp only [exceptOk_bind, show isHidden "*.yaml".data = false from rfl, Bool.false_eq_true, if_false]
  rw [show (⟨"*.yaml".data⟩ : String) = "*.yaml" from rfl, fnmatchFilter_yaml, exceptOk_bind,
    List.filter_filter]
  exact congrArg (fun l => Except.ok (l.map String.data)) (List.filter_congr fun n _ => Bool.and_comm _ _)

/-- One level of `_iglob` on `{d}/*.yaml`: the directories `d` stands for, each
listed with `*.yaml`. -/
theorem iglob_yaml (t : FileTree) {a : List Char} {x : Char} (hx : x ≠ '/') (m : Nat) :
    t.iglob (m + 1) (a ++ [x] ++ "/*.yaml".data) false = (do
      let dirs ← if hasMagic (a ++ [x]) then t.iglob m (a ++ [x]) true else pure [a ++ [x]]
      let found ← dirs.mapM fun d => do
        let names ← t.glob1 d "*.yaml".data false
        pure (names.map (pathJoin d))
      pure found.flatten) := by
  have hsplit : pathSplit (a ++ [x] ++ "/*.yaml".data) = (a ++ [x], "*.yaml".data) := by
    simpa using pathSplit_append (a := a) hx (show '/' ∉ "*.yaml".data by decide)
  have hdiff : a ++ [x] ≠ a ++ [x] ++ "/*.yaml".data := by simp
  have hPm : hasMagic (a ++ [x] ++ "/*.yaml".data) = true := by simp
  have hDe : (a ++ [x]).isEmpty = false := by simp
  rw [iglob]
  simp only [hsplit, hPm, hdiff, hDe, Bool.not_true, Bool.false_eq_true, if_false, ne_eq,
    not_false_eq_true, decide_True, Bool.true_and, show hasMagic "*.yaml".data = true from rfl, if_true]

/-! ## The `k8s` directory -/

/-- The path of a `k8s` directory ends in `s`, which is not a `/`. -/
theorem k8sPath_concat (location scenarioId : String) :
    locationPath location ++ '/' :: (scenarioId.data ++ '/' :: "k8s".data) =
      locationPath location ++ '/' :: (scenarioId.data ++ ['/', 'k', '8']) ++ ['s'] := by
  simp

theorem manifestPath_data (location scenarioId name : String) :
    (manifestPath location scenarioId name).data =
      locationPath location ++ '/' :: (scenarioId.data ++ '/' :: "k8s".data) ++ '/' :: name.data := by
  simp [manifestPath, locationPath]

theorem k8sDir_definitionPattern (location : String) {scenarioId : String} (hid : PlainName scenarioId) :
    k8sDir (definitionPattern location scenarioId) =
      ⟨locationPath location ++ '/' :: (scenarioId.data ++ '/' :: "k8s".data)⟩ := by
  obtain ⟨a, x, hax, hx⟩ := hid.concat
  have hsplit : (pathSplit (definitionPattern location scenarioId).data).1 =
      locationPath location ++ '/' :: scenarioId.data := by
    rw [definitionPattern_location_data, hax]
    simpa using congrArg Prod.fst (pathSplit_append (a := locationPath location ++ '/' :: a) hx
      (show '/' ∉ "scenario_definition.yaml".data by decide))
  rw [k8sDir, hsplit, pathJoin_location_child location hid (by decide)]

theorem lexists_k8sDir (t : FileTree) {location scenarioId : String} (hloc : PlainName location)
    (hid : PlainName scenarioId) :
    t.lexists (k8sDir (definitionPattern location scenarioId)).data = hasK8s t location scenarioId := by
  rw [k8sDir_definitionPattern location hid]
  exact lexists_locationChild t hloc hid (by decide)

/-- The names of an existing `k8s` entry are names of the tree: none has a NUL. -/
theorem hasK8s_nul {t : FileTree} {location scenarioId : String} (h : hasK8s t location scenarioId = true) :
    '\x00' ∉ location.data ∧ '\x00' ∉ scenarioId.data := by
  obtain ⟨b, hb⟩ := Option.isSome_iff_exists.1 h
  have he := (t.kind_eq_some (by simp [k8sEntry, locationDir])).1 hb
  exact ⟨(t.valid_names _ he location (by simp [k8sEntry, locationDir])).2.2.2.2.1,
    (t.valid_names _ he scenarioId (by simp [k8sEntry])).2.2.2.2.1⟩

/-- The `k8s` directory of a scenario directory, listed with `*.yaml`: its
manifests, each joined to it. -/
theorem glob1_k8sDir (t : FileTree) {location scenarioId : String} (hloc : PlainName location)
    (hid : PlainName scenarioId) (hnul : '\x00' ∉ location.data ∧ '\x00' ∉ scenarioId.data) :
    (t.glob1 (locationPath location ++ '/' :: (scenarioId.data ++ '/' :: "k8s".data)) "*.yaml".data false >>=
        fun names => pure (names.map (pathJoin (locationPath location ++ '/' :: (scenarioId.data ++ '/' :: "k8s".data))))) =
      .ok ((yamlManifests t location scenarioId).map String.data) := by
  have hp : '\x00' ∉ locationPath location ++ '/' :: (scenarioId.data ++ '/' :: "k8s".data) := by
    simp only [locationPath, List.mem_append, List.mem_cons, not_or]
    exact ⟨⟨by decide, hnul.1⟩, by decide, hnul.2, by decide, by decide⟩
  rw [glob1_yaml t hp (by simp) (resolve_locationChild t hloc hid (by decide)), exceptOk_bind]
  refine congrArg Except.ok ?_
  simp only [yamlManifests, List.map_map]
  refine List.map_congr_left fun n hn => ?_
  have hv := t.validName_of_listing (List.mem_of_mem_filter hn)
  simp only [Function.comp_apply]
  rw [manifestPath_data, k8sPath_concat, pathJoin_of_ne (by decide) hv.component.head?_ne]
  simp

/-! ## The manifests -/

/-- For every tree, and every definition path whose location and identifier
`glob` reads literally: the manifests `setup_scenario` applies are the entries
of the scenario's `k8s` directory whose names end in `.yaml` and are not
hidden, files and directories alike, in listing order; none when there is no
`k8s` entry. -/
theorem manifestFiles_literal (t : FileTree) {location scenarioId : String} (hloc : LiteralName location)
    (hid : LiteralName scenarioId) :
    manifestFiles t (definitionPattern location scenarioId) = .ok (yamlManifests t location scenarioId) := by
  rw [manifestFiles, lexists_k8sDir t hloc.1 hid.1]
  cases hk : hasK8s t location scenarioId
  · -- no `k8s` entry, so nothing below it either
    have hnone : t.kind (k8sEntry location scenarioId) ≠ some true := by
      simp_all [hasK8s]
    rw [if_neg Bool.false_ne_true, yamlManifests, t.listing_eq_nil hnone]
    rfl
  · have hDm : hasMagic (locationPath location ++ '/' :: (scenarioId.data ++ '/' :: "k8s".data)) = false := by
      simp only [locationPath, hasMagic_append, hasMagic_cons, hloc.2, hid.2]
      decide
    rw [if_pos rfl, k8sDir_definitionPattern location hid.1, FileTree.glob]
    show List.map String.mk <$> t.iglob (_ + 1)
      (locationPath location ++ '/' :: (scenarioId.data ++ '/' :: "k8s".data) ++ "/*.yaml".data) false = _
    rw [k8sPath_concat, iglob_yaml t (by decide), ← k8sPath_concat, hDm, if_neg Bool.false_ne_true]
    simp only [pure_bind, List.mapM_cons, List.mapM_nil, glob1_k8sDir t hloc.1 hid.1 (hasK8s_nul hk),
      exceptOk_bind]
    show Except.ok _ = _
    simp [Function.comp_def]

/-- Two scenario directories, `TF-1` and `TF-[1]`, each with a `k8s`
directory; that of `TF-1` holds a manifest, a hidden one, a `.yml` file and a
directory named like a manifest. -/
def bracketTree : FileTree where
  entries := [(["tf-k8s"], true), (["tf-k8s", "scenarios"], true),
    (["tf-k8s", "scenarios", "enabled"], true),
    (["tf-k8s", "scenarios", "enabled", "TF-1"], true),
    (["tf-k8s", "scenarios", "enabled", "TF-1", "scenario_definition.yaml"], false),
    (["tf-k8s", "scenarios", "enabled", "TF-1", "k8s"], true),
    (["tf-k8s", "scenarios", "enabled", "TF-1", "k8s", "a.yaml"], false),
    (["tf-k8s", "scenarios", "enabled", "TF-1", "k8s", ".hidden.yaml"], false),
    (["tf-k8s", "scenarios", "enabled", "TF-1", "k8s", "c.yml"], false),
    (["tf-k8s", "scenarios", "enabled", "TF-1", "k8s", "d.yaml"], true),
    (["tf-k8s", "scenarios", "enabled", "TF-[1]"], true),
    (["tf-k8s", "scenarios", "enabled", "TF-[1]", "scenario_definition.yaml"], false),
    (["tf-k8s", "scenarios", "enabled", "TF-[1]", "k8s"], true),
    (["tf-k8s", "scenarios", "enabled", "TF-[1]", "k8s", "b.yaml"], false)]
  nodup := by decide
  not_root := by decide
  ancestors_dirs := by decide
  valid_names := by decide

/-- `TF-1` applies `a.yaml` and the directory `d.yaml`; the hidden manifest and
the `.yml` file are not applied. -/
theorem manifestFiles_literal_hidden :
    LiteralName "enabled" ∧ LiteralName "TF-1" ∧
      manifestFiles bracketTree (definitionPattern "enabled" "TF-1") =
        .ok ["tf-k8s/scenarios/enabled/TF-1/k8s/a.yaml", "tf-k8s/scenarios/enabled/TF-1/k8s/d.yaml"] :=
  ⟨by decide, by decide, (manifestFiles_literal bracketTree (by decide) (by decide)).trans
    (congrArg Except.ok (by decide))⟩

/-- For every tree, every location `glob` reads literally, and every identifier
with magic and no `/` whose pattern `re` compiles: when the scenario directory
has a `k8s` entry, the manifests `setup_scenario` applies are those of the
`k8s` directories of every directory of the location that the identifier
matches as a shell wildcard, in listing order. The scenario's own `k8s`
directory is among them only when its name matches itself. -/
theorem manifestFiles_wild (t : FileTree) {location scenarioId : String} {atoms : List (Option Atom)}
    (hloc : LiteralName location) (hmagic : hasMagic scenarioId.data = true) (hslash : '/' ∉ scenarioId.data)
    (hc : (translate scenarioId.data).mapM compilePiece = .ok atoms) :
    manifestFiles t (definitionPattern location scenarioId) =
      .ok (if hasK8s t location scenarioId then
        (((t.subdirs (locationDir location)).filter fun n =>
          ((isHidden scenarioId.data || !isHidden n.data) && decide (Wild atoms n.data)) &&
            hasK8s t location n).map (yamlManifests t location)).flatten
      else []) := by
  have hid : PlainName scenarioId := by
    refine ⟨⟨?_, ?_, ?_⟩, hslash⟩ <;> rintro rfl <;> exact absurd hmagic (by decide)
  rw [manifestFiles, lexists_k8sDir t hloc.1 hid]
  cases hk : hasK8s t location scenarioId
  · rfl
  · obtain ⟨hnul, -⟩ := hasK8s_nul hk
    have hDm : hasMagic (locationPath location ++ '/' :: (scenarioId.data ++ '/' :: "k8s".data)) = true := by
      simp [hmagic]
    obtain ⟨m, hm⟩ : ∃ m, (String.mk (locationPath location ++ '/' :: (scenarioId.data ++ '/' :: "k8s".data)) ++
        "/*.yaml").length = m + 2 :=
      ⟨_, (Nat.sub_add_cancel (by rw [String.length_append]; exact Nat.le_trans (by decide) (Nat.le_add_left _ _))).symm⟩
    rw [if_pos rfl, if_pos rfl, k8sDir_definitionPattern location hid, FileTree.glob, hm]
    show List.map String.mk <$> t.iglob (m + 2 + 1)
      (locationPath location ++ '/' :: (scenarioId.data ++ '/' :: "k8s".data) ++ "/*.yaml".data) false = _
    rw [k8sPath_concat, iglob_yaml t (by decide), ← k8sPath_concat, hDm, if_pos rfl,
      iglob_locationChild t hloc hslash hmagic (glob1_location_wild t hloc.1 hnul hc) (b := "k8s") (by decide) m true]
    rw [exceptOk_bind]
    beta_reduce
    rw [mapM_map_eq_ok (g := fun n => (yamlManifests t location n).map String.data), exceptOk_bind]
    · show Except.ok _ = _
      simp [List.map_flatten, Function.comp_def]
      rfl
    · -- each directory found is a directory of the tree, with names of the tree
      intro n hn
      have hsub := List.mem_of_mem_filter hn
      exact glob1_k8sDir t hloc.1 (subdirs_plainName t hsub)
        ⟨hnul, (t.valid_names _ ((t.mem_subdirs).1 hsub) n (by simp)).2.2.2.2.1⟩

/-- `TF-[1]` applies the manifests of `TF-1`, and not its own `b.yaml`. -/
theorem manifestFiles_wild_bracket :
    LiteralName "enabled" ∧ hasMagic "TF-[1]".data = true ∧ '/' ∉ "TF-[1]".data ∧
      (translate "TF-[1]".data).mapM compilePiece =
        .ok [some (.lit 'T'), some (.lit 'F'), some (.lit '-'), some (.set false [.single '1'])] ∧
      manifestFiles bracketTree (definitionPattern "enabled" "TF-[1]") =
        .ok ["tf-k8s/scenarios/enabled/TF-1/k8s/a.yaml", "tf-k8s/scenarios/enabled/TF-1/k8s/d.yaml"] :=
  have hc : (translate "TF-[1]".data).mapM compilePiece =
      .ok [some (.lit 'T'), some (.lit 'F'), some (.lit '-'), some (.set false [.single '1'])] := rfl
  ⟨by decide, rfl, by decide, hc, (manifestFiles_wild bracketTree (by decide) (by decide) (by decide) hc).trans
    (congrArg Except.ok (by decide))⟩

end TfK8s.Runner
