import TfK8s.Proofs.Hashing

/-!
# The scan is `re.findall`

`re.findall` scans the string left to right: it returns the group of the
leftmost match, then looks for the leftmost match after the end of that one,
and so on until no match is left. `FindAll` states that reading for the hash
pattern without reference to the scan: the text is some characters where no
match starts, a match, and a rest read in the same way. `findAll_iff` says that
`findallHash` computes exactly that reading: it finds every match the reading
finds and no other, in the same order.

`hashLabelAt` finds a match at the start of a text exactly when a label with a
separator and 64 lower-case hex digits begins it (`matchAt_iff`); the group is
the label's. After a match, the scan skips its 91 further characters
(`findallGo_eq_drop`); at a position where no match starts it moves one on
(`findallHash_cons`). A stretch where no match starts is passed over whole
(`findallHash_skip`).
-/

namespace TfK8s.Verify

open Py Hashlib

/-! ## Matches -/

/-- A match of `process[._]command_line_hash="([a-f0-9]{64})"` starts `cs`,
with group `g`. -/
def MatchAt (cs g : List Char) : Prop :=
  ∃ sep, (sep = '.' ∨ sep = '_') ∧ g.length = 64 ∧ (∀ c ∈ g, isLowerHex c = true) ∧
    hashLabel sep g <+: cs

/-- No match starts in the first `n` characters of `cs`. -/
def NoMatchBefore (n : Nat) (cs : List Char) : Prop :=
  ∀ k < n, ∀ g, ¬MatchAt (cs.drop k) g

/-- The groups `re.findall` returns: the leftmost match and then the matches
after it, or none when no match starts anywhere. -/
inductive FindAll : List Char → List (List Char) → Prop
  | none {s : List Char} : NoMatchBefore s.length s → FindAll s []
  | next {u v : List Char} {sep : Char} {g : List Char} {gs : List (List Char)} :
      NoMatchBefore u.length (u ++ hashLabel sep g ++ v) → (sep = '.' ∨ sep = '_') → g.length = 64 →
        (∀ c ∈ g, isLowerHex c = true) → FindAll v gs → FindAll (u ++ hashLabel sep g ++ v) (g :: gs)

theorem hashLabel_length (sep : Char) {g : List Char} (hlen : g.length = 64) :
    (hashLabel sep g).length = 92 := by
  simp [hashLabel, labelHead_length, hlen]

/-- `hashLabelAt` finds exactly the match that starts the text. -/
theorem matchAt_iff {cs g : List Char} : MatchAt cs g ↔ hashLabelAt cs = some g := by
  constructor
  · rintro ⟨sep, hsep, hlen, hhex, rest, rfl⟩
    exact hashLabelAt_label hsep hlen hhex rest
  · intro h
    unfold hashLabelAt at h
    dsimp only at h
    split_ifs at h with hhead hgroup
    obtain rfl := Option.some.inj h
    simp only [Bool.and_eq_true, decide_eq_true_eq, List.all_eq_true, beq_iff_eq] at hgroup
    obtain ⟨⟨hlen, hhex⟩, hq⟩ := hgroup
    obtain ⟨sep, hsep, t, rfl⟩ : ∃ sep, (sep = '.' ∨ sep = '_') ∧ labelHead sep <+: cs := by
      rcases Bool.or_eq_true_iff.1 hhead with h | h
      exacts [⟨'.', .inl rfl, List.isPrefixOf_iff_prefix.1 h⟩, ⟨'_', .inr rfl, List.isPrefixOf_iff_prefix.1 h⟩]
    have h27 : (labelHead sep ++ t).drop 27 = t := by rw [← labelHead_length sep, List.drop_left]
    rw [h27] at hlen hhex ⊢
    obtain ⟨r, hr⟩ : ∃ r, t.drop 64 = '"' :: r := by
      rw [show 91 = 27 + 64 from rfl, ← List.drop_drop, h27] at hq
      exact ⟨_, List.cons_head?_tail hq |>.symm⟩
    refine ⟨sep, hsep, hlen, hhex, r, ?_⟩
    rw [hashLabel, List.append_assoc, List.append_assoc, List.singleton_append, ← hr, List.take_append_drop]

theorem noMatchBefore_cons {c : Char} {cs : List Char} {n : Nat} (h0 : ∀ g, ¬MatchAt (c :: cs) g)
    (h : NoMatchBefore n cs) : NoMatchBefore (n + 1) (c :: cs)
  | 0, _, g => h0 g
  | k + 1, hk, g => h k (Nat.lt_of_succ_lt_succ hk) g

theorem NoMatchBefore.tail {c : Char} {cs : List Char} {n : Nat} (h : NoMatchBefore (n + 1) (c :: cs)) :
    NoMatchBefore n cs :=
  fun k hk => h (k + 1) (Nat.succ_lt_succ hk)

/-! ## The scan -/

theorem findallGo_eq_drop : ∀ (skip : Nat) (cs : List Char), findallGo skip cs = findallHash (cs.drop skip)
  | _, [] => by simp [findallGo, findallHash]
  | 0, _ :: _ => rfl
  | skip + 1, _ :: cs => findallGo_eq_drop skip cs

/-- One position of the scan: a match there is found and skipped, and
otherwise the scan moves one character on. -/
theorem findallHash_cons (c : Char) (cs : List Char) :
    findallHash (c :: cs) = match hashLabelAt (c :: cs) with
      | some g => g :: findallHash ((c :: cs).drop 92)
      | none => findallHash cs := by
  rw [findallHash, findallGo]
  cases hashLabelAt (c :: cs)
  · rfl
  · exact congrArg _ (findallGo_eq_drop 91 cs)

/-- Characters where no match starts are passed over. -/
theorem findallHash_skip (t : List Char) :
    ∀ u : List Char, NoMatchBefore u.length (u ++ t) → findallHash (u ++ t) = findallHash t
  | [], _ => rfl
  | c :: u, h => by
      have hnone : hashLabelAt (c :: (u ++ t)) = none :=
        Option.eq_none_iff_forall_not_mem.2 fun g hg => h 0 (Nat.succ_pos _) g (matchAt_iff.2 hg)
      rw [List.cons_append, findallHash_cons, hnone]
      exact findallHash_skip t u h.tail

/-- What the scan returns is the reading of `re.findall`. -/
theorem findAll_findallHash (s : List Char) : FindAll s (findallHash s) := by
  match s with
  | [] => exact .none fun k hk => absurd hk (Nat.not_lt_zero k)
  | c :: cs =>
    rw [findallHash_cons]
    cases h : hashLabelAt (c :: cs) with
    | some g =>
        obtain ⟨sep, hsep, hlen, hhex, r, hr⟩ := matchAt_iff.2 h
        have hdrop : (c :: cs).drop 92 = r := by
          rw [← hr, ← hashLabel_length sep hlen, List.drop_left]
        have hrec := findAll_findallHash r
        rw [hdrop, ← hr]
        exact .next (u := []) (fun k hk => absurd hk (Nat.not_lt_zero k)) hsep hlen hhex hrec
    | none =>
        have h0 : ∀ g, ¬MatchAt (c :: cs) g := fun g hg => by rw [matchAt_iff.1 hg] at h; cases h
        have hrec := findAll_findallHash cs
        generalize findallHash cs = gs at hrec ⊢
        cases hrec with
        | none hn => exact .none (noMatchBefore_cons h0 hn)
        | next hu hsep hlen hhex hv => exact .next (u := c :: _) (noMatchBefore_cons h0 hu) hsep hlen hhex hv
termination_by s.length
decreasing_by
  all_goals simp_wf
  · have := congrArg List.length hr
    simp only [List.length_cons, List.length_append, hashLabel_length sep hlen] at this
    omega

/-- A reading of `re.findall` is what the scan returns. -/
theorem findallHash_of_findAll {s : List Char} {gs : List (List Char)} (h : FindAll s gs) :
    findallHash s = gs := by
  induction h with
  | none hn => simpa using findallHash_skip [] _ (by simpa using hn)
  | next hu hsep hlen hhex _ ih =>
      rw [List.append_assoc, findallHash_skip _ _ (by rwa [← List.append_assoc]),
        findallHash_label hsep hlen hhex, ih]

/-- The hashes the verifier collects are exactly the groups `re.findall`
returns: those of the leftmost match of the hash pattern, then of the leftmost
match after it, and so on, for every text. -/
theorem findAll_iff (s : List Char) (gs : List (List Char)) : FindAll s gs ↔ findallHash s = gs :=
  ⟨findallHash_of_findAll, fun h => h ▸ findAll_findallHash s⟩

end TfK8s.Verify
