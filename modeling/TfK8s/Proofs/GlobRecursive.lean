import TfK8s.Proofs.Glob

/-!
# `glob(..., recursive=True)` below a directory

A `**` component lists, with `_rlistdir`, every directory below the one before
it, each as a path relative to it. Which paths those are is what a pattern
such as `eidc/**/schemas/*.yaml` finds, so the lemma that matters here is
`rlistdir_dirs`: started at a path of valid names, `_rlistdir` lists only
directories of the tree below it, each reached through directories. The
names `_listdir` returns are names of entries, so they are valid names, and
the paths `os.path.join` builds from them come apart at their slashes.

`iglobRecursive_succ` is the step of `_iglob` for a pattern with magic and a
directory part; a fixed pattern is read through it one level at a time, with
`mem_of_mapM_eq_ok` for the loop over the directories found at the level above.
-/

namespace TfK8s.Py

/-- Everything `mapM` returns came from some element. -/
theorem mem_of_mapM_eq_ok {α β : Type} {f : α → Except PyExc β} :
    ∀ {l : List α} {r : List β}, l.mapM f = .ok r → ∀ y ∈ r, ∃ x ∈ l, f x = .ok y
  | [], r, h => by cases h; simp
  | x :: l, r, h => by
      rw [List.mapM_cons] at h
      obtain ⟨y, hy, h⟩ := exceptBind_eq_ok h
      obtain ⟨ys, hys, h⟩ := exceptBind_eq_ok h
      cases h
      intro z hz
      rcases List.mem_cons.1 hz with rfl | hz
      · exact ⟨x, List.mem_cons_self _ _, hy⟩
      · obtain ⟨w, hw, hfw⟩ := mem_of_mapM_eq_ok hys z hz
        exact ⟨w, List.mem_cons_of_mem _ hw, hfw⟩

theorem mem_joinComps {c : Char} :
    ∀ {cs : List String}, c ∈ joinComps cs → c = '/' ∨ ∃ x ∈ cs, c ∈ x.data
  | [], h => absurd h (List.not_mem_nil _)
  | [x], h => .inr ⟨x, List.mem_singleton_self _, by simpa using h⟩
  | x :: y :: rest, h => by
      rw [joinComps_cons_cons, List.mem_append, List.mem_cons] at h
      rcases h with h | rfl | h
      · exact .inr ⟨x, List.mem_cons_self _ _, h⟩
      · exact .inl rfl
      · rcases mem_joinComps h with h | ⟨z, hz, h⟩
        · exact .inl h
        · exact .inr ⟨z, List.mem_cons_of_mem _ hz, h⟩

section Joined

variable {a b : List String}

theorem joinComps_head?_ne (ha : a ≠ []) (hca : ∀ c ∈ a, Component c) :
    (joinComps a).head? ≠ some '/' := by
  obtain ⟨c, rest, rfl⟩ := List.exists_cons_of_ne_nil ha
  rw [joinComps_head? (hca c (List.mem_cons_self _ _))]
  exact (hca c (List.mem_cons_self _ _)).head?_ne

theorem joinComps_ne_nil (ha : a ≠ []) (hca : ∀ c ∈ a, Component c) : joinComps a ≠ [] := by
  obtain ⟨c, rest, rfl⟩ := List.exists_cons_of_ne_nil ha
  have hc := hca c (List.mem_cons_self _ _)
  intro h
  have hhead := joinComps_head? hc rest
  rw [h, List.head?_nil] at hhead
  exact hc.1 (List.head?_eq_none_iff.1 hhead.symm)

/-- `glob._join` of two joined paths is the path of all their components. -/
theorem globJoin_joinComps (ha : a ≠ []) (hb : b ≠ []) (hca : ∀ c ∈ a, Component c)
    (hcb : ∀ c ∈ b, Component c) : globJoin (joinComps a) (joinComps b) = joinComps (a ++ b) := by
  simp [globJoin, joinComps_ne_nil ha hca, joinComps_ne_nil hb hcb, pathJoin_joinComps ha hb hca hcb]

end Joined

namespace FileTree

variable (t : FileTree)

/-- The names `_listdir` returns are names of entries. -/
theorem validName_of_listdir {p : List Char} {dironly : Bool} {names : List String}
    (h : t.listdir p dironly = .ok names) : ∀ n ∈ names, ValidName n := by
  intro n hn
  unfold listdir at h
  split at h
  · cases h
  · split at h
    · split at h
      · cases h
        obtain ⟨e, he, hne⟩ := List.mem_filterMap.1 hn
        split at hne
        · exact t.valid_names e he n (by rw [childName_eq_some.1 hne]; simp)
        · cases hne
      · cases h; cases hn
    · cases h; cases hn

theorem validName_of_glob1 {d pattern : List Char} {dironly : Bool} {names : List (List Char)}
    (h : t.glob1 d pattern dironly = .ok names) : ∀ n ∈ names, ∃ m, ValidName m ∧ n = m.data := by
  obtain ⟨listed, hlisted, h⟩ := exceptBind_eq_ok h
  obtain ⟨kept, hkept, h⟩ := exceptBind_eq_ok h
  cases h
  obtain ⟨r, -, hr⟩ := exceptBind_eq_ok hkept
  cases hr
  intro n hn
  obtain ⟨m, hm, rfl⟩ := List.mem_map.1 hn
  refine ⟨m, t.validName_of_listdir hlisted m ?_, rfl⟩
  have hm' := (List.mem_filter.1 hm).1
  split at hm'
  · exact hm'
  · exact (List.mem_filter.1 hm').1

theorem mem_glob0 {d basename n : List Char} (h : n ∈ t.glob0 d basename) : n = basename := by
  unfold glob0 at h
  split_ifs at h <;> simp_all

/-- `_rlistdir` from a directory reached by valid names lists paths, relative
to it, of directories of the tree. -/
theorem rlistdir_dirs :
    ∀ (fuel : Nat) {ns : List String} {rs : List (List Char)}, ns ≠ [] → (∀ n ∈ ns, ValidName n) →
      t.rlistdir fuel (joinComps ns) true = .ok rs →
      ∀ r ∈ rs, ∃ q, q ≠ [] ∧ r = joinComps q ∧ (ns ++ q, true) ∈ t.entries
  | 0, _, _, _, _, h => by cases h; simp
  | fuel + 1, ns, rs, hne, hns, h => by
      have hc : ∀ n ∈ ns, Component n := fun n hn => (hns n hn).component
      have hnul : '\x00' ∉ joinComps ns := fun hm => by
        rcases mem_joinComps hm with h0 | ⟨x, hx, h0⟩
        · exact absurd h0 (by decide)
        · exact (hns x hx).2.2.2.2.1 h0
      rw [rlistdir, t.listdir_dironly hnul (joinComps_head?_ne hne hc) (joinComps_ne_nil hne hc)
        (splitSlash_joinComps hne fun n hn => (hc n hn).2) (fun n hn => (hns n hn).ordinary),
        exceptOk_bind] at h
      obtain ⟨found, hfound, h⟩ := exceptBind_eq_ok h
      cases h
      intro r hr
      obtain ⟨y, hy, hry⟩ := List.mem_flatten.1 hr
      obtain ⟨x, hx, hxy⟩ := mem_of_mapM_eq_ok hfound y hy
      have hxd : (ns ++ [x], true) ∈ t.entries := t.mem_subdirs.1 (List.mem_filter.1 hx).1
      have hxv : ValidName x := t.valid_names _ hxd x (by simp)
      have hjoin : globJoin (joinComps ns) x.data = joinComps (ns ++ [x]) := by
        simpa using globJoin_joinComps hne (List.cons_ne_nil x []) hc (by simpa using hxv.component)
      rw [hjoin] at hxy
      obtain ⟨below, hbelow, hy'⟩ := exceptBind_eq_ok hxy
      cases hy'
      rcases List.mem_cons.1 hry with rfl | hr'
      · exact ⟨[x], List.cons_ne_nil _ _, by simp, hxd⟩
      · obtain ⟨b, hb, rfl⟩ := List.mem_map.1 hr'
        obtain ⟨q, hq, rfl, hqd⟩ := rlistdir_dirs fuel (by simp)
          (List.forall_mem_append.2 ⟨hns, by simpa using hxv⟩) hbelow b hb
        have hqv : ∀ n ∈ q, ValidName n := fun n hn => t.valid_names _ hqd n (by simp [hn])
        refine ⟨x :: q, List.cons_ne_nil _ _, ?_, by simpa using hqd⟩
        simpa using globJoin_joinComps (List.cons_ne_nil x []) hq (by simpa using hxv.component)
          fun n hn => (hqv n hn).component

/-- One step of `_iglob` with `recursive=True`, for a pattern with magic and a
directory part. -/
theorem iglobRecursive_succ {fuel : Nat} {pathname dirname basename : List Char} {dironly : Bool}
    (hs : pathSplit pathname = (dirname, basename)) (hm : hasMagic pathname = true)
    (hd : dirname ≠ []) :
    t.iglobRecursive (fuel + 1) pathname dironly = (do
      let dirs ← if dirname ≠ pathname && hasMagic dirname then t.iglobRecursive fuel dirname true
        else pure [dirname]
      let found ← dirs.mapM fun d => do
        let names ← if basename = "**".data then t.glob2 d dironly
          else if hasMagic basename then t.glob1 d basename dironly
          else pure (t.glob0 d basename)
        pure (names.map (pathJoin d))
      pure found.flatten) := by
  rw [iglobRecursive, hs]
  simp [hm, hd]

end FileTree

end TfK8s.Py
