import TfK8s.Verify.Hashing

/-!
# What `check_hashed_command_lines` lets through

The verifier passes a metrics text exactly when `re.findall` found some hash
label, none of the three secrets of the test process occurs in the text, and
`sum(hash_matches) / len(hashed_commands) * 100` compares equal to `100`. The
last holds when at most one in `2^54` of the hashes found differ from the
expected digest (`PyFloat.share_percent_eq_hundred`). A text holds no more
hashes than characters, so for any text shorter than `2^54` characters, which
is any a metrics file can be, it holds when every hash found is the expected
one (`checkHashedCommandLines_eq_zero_iff_of_lt`).

What the text holds besides the hash labels the pattern matches is never
examined, except for the three secrets. A plain-text
`process.command_line="..."` label, or a hash label whose value is not 64
lower-case hex digits, passes unseen beside one well-formed label with the
expected digest. `hashLabel` builds such a label, and `findallHash_label` reads
it back; since the expected digest is a hex digest, 64 characters of
`[a-f0-9]`, the text below is read without evaluating SHA-256.
-/

namespace TfK8s.Verify

open Py Hashlib

/-! ## The expected digest -/

theorem expectedHash_length : expectedHash.length = 64 := by
  rw [expectedHash, hexdigest_length, sha256_length]

theorem expectedHash_lowerHex : ∀ c ∈ expectedHash, isLowerHex c = true :=
  hexdigest_lowerHex _

/-! ## Reading a label -/

/-- What a match of the pattern spans: the label with group `group`. -/
def hashLabel (sep : Char) (group : List Char) : List Char :=
  labelHead sep ++ group ++ ['"']

theorem labelHead_length (sep : Char) : (labelHead sep).length = 27 := rfl

theorem hashLabelAt_label {sep : Char} (hsep : sep = '.' ∨ sep = '_') {group : List Char}
    (hlen : group.length = 64) (hhex : ∀ c ∈ group, isLowerHex c = true) (rest : List Char) :
    hashLabelAt (hashLabel sep group ++ rest) = some group := by
  have hpre : (labelHead sep).isPrefixOf (hashLabel sep group ++ rest) = true :=
    List.isPrefixOf_iff_prefix.2 ⟨group ++ ['"'] ++ rest, by simp [hashLabel]⟩
  have hhead : ((labelHead '.').isPrefixOf (hashLabel sep group ++ rest) ||
      (labelHead '_').isPrefixOf (hashLabel sep group ++ rest)) = true := by
    rcases hsep with rfl | rfl <;> simp [hpre]
  have hdrop : (hashLabel sep group ++ rest).drop 27 = group ++ '"' :: rest := by
    rw [hashLabel, List.append_assoc, List.append_assoc, ← labelHead_length sep, List.drop_left]
    rfl
  have hquote : (hashLabel sep group ++ rest).drop 91 = '"' :: rest := by
    rw [show 91 = 27 + 64 from rfl, ← List.drop_drop, hdrop, ← hlen, List.drop_left]
  have hall : group.all isLowerHex = true := List.all_eq_true.2 hhex
  rw [hashLabelAt, if_pos hhead]
  simp only [hdrop, hquote, ← hlen, List.take_left, hall, List.head?_cons]
  simp

/-- Skipping the characters of a match. -/
theorem findallGo_skip (b : List Char) : ∀ a : List Char, findallGo a.length (a ++ b) = findallHash b
  | [] => rfl
  | _ :: a => findallGo_skip b a

/-- A well-formed label is found, and the scan goes on after it. -/
theorem findallHash_label {sep : Char} (hsep : sep = '.' ∨ sep = '_') {group : List Char}
    (hlen : group.length = 64) (hhex : ∀ c ∈ group, isLowerHex c = true) (rest : List Char) :
    findallHash (hashLabel sep group ++ rest) = group :: findallHash rest := by
  obtain ⟨c, cs, hcs⟩ : ∃ c cs, hashLabel sep group ++ rest = c :: (cs ++ rest) ∧ cs.length = 91 :=
    ⟨'p', "rocess".data ++ sep :: "command_line_hash=\"".data ++ group ++ ['"'], by
      simp only [hashLabel, labelHead, List.append_assoc]; rfl, by simp [hlen]⟩
  have hat := hashLabelAt_label hsep hlen hhex rest
  rw [hcs.1] at hat ⊢
  rw [findallHash, findallGo, hat, ← hcs.2, findallGo_skip]

/-- Each hash found takes at least one character of the text. -/
theorem length_findallGo_le : ∀ (skip : Nat) (cs : List Char), (findallGo skip cs).length ≤ cs.length
  | _, [] => by simp [findallGo]
  | skip + 1, _ :: cs => Nat.le_succ_of_le (length_findallGo_le skip cs)
  | 0, c :: cs => by
      have h0 := length_findallGo_le 0 cs
      have h91 := length_findallGo_le 91 cs
      simp only [findallGo]
      split <;> simp only [List.length_cons] <;> omega

/-! ## What the verifier decides -/

theorem count_beq_add_length_filter_ne (e : List Char) :
    ∀ l : List (List Char), (l.map (· == e)).count true + (l.filter (· ≠ e)).length = l.length
  | [] => rfl
  | x :: l => by
      have ih := count_beq_add_length_filter_ne e l
      by_cases hx : x = e <;> simp [hx, List.filter_cons, List.count_cons] at ih ⊢ <;> omega

/-- `results` from what the scan and the search found: the consistency
percentage compares equal to `100` exactly when some hash was found and at
most one in `2^54` of them differ from the expected digest. -/
theorem hashingResults_eq (s : List Char) : ∃ c, hashingResults s =
      .ok ⟨if findallHash s = [] then 0 else 100,
        (sensitivePatterns.filter fun p => isSubstr p.data s).length, c⟩ ∧
    (PyVal.numEq c (.inl 100) = true ↔ findallHash s ≠ [] ∧
      2 ^ 54 * ((findallHash s).filter (· ≠ expectedHash)).length ≤ (findallHash s).length) := by
  unfold hashingResults
  cases h : findallHash s with
  | nil => exact ⟨.inl 0, rfl, by simp [PyVal.numEq]⟩
  | cons g gs =>
    have hsum := count_beq_add_length_filter_ne expectedHash (g :: gs)
    obtain ⟨y, hy, hiff⟩ := PyFloat.share_percent_eq_hundred
      (show 0 < (g :: gs).length from Nat.succ_pos _) (Nat.le.intro hsum)
    obtain ⟨share, hshare, hmul⟩ := exceptBind_eq_ok hy
    refine ⟨.inr y, ?_, ?_⟩
    · simp only [List.isEmpty_cons, Bool.false_eq_true, if_false, reduceCtorEq]
      rw [hshare, exceptOk_bind, hmul]
      rfl
    · rw [show PyVal.numEq (.inr y) (.inl 100) = y.eqInt 100 from rfl, hiff]
      simp only [ne_eq, reduceCtorEq, not_false_eq_true, true_and] at hsum ⊢
      omega

/-- The exit status from what the scan and the search found. -/
theorem checkHashedCommandLines_eq (s : String) :
    checkHashedCommandLines s = .ok (if findallHash s.data ≠ [] ∧
      (∀ p ∈ sensitivePatterns, ¬p.data <:+: s.data) ∧
      2 ^ 54 * ((findallHash s.data).filter (· ≠ expectedHash)).length ≤
        (findallHash s.data).length then 0 else 1) := by
  obtain ⟨c, hres, hc⟩ := hashingResults_eq s.data
  have hleak : (sensitivePatterns.filter fun p => isSubstr p.data s.data).length = 0 ↔
      ∀ p ∈ sensitivePatterns, ¬p.data <:+: s.data := by
    simp [List.filter_eq_nil_iff, isSubstr_iff]
  rw [checkHashedCommandLines, hres, exceptOk_bind]
  refine congrArg Except.ok (if_congr ?_ rfl rfl)
  simp only [Bool.and_eq_true, beq_iff_eq, hleak, hc]
  by_cases hf : findallHash s.data = [] <;> simp [hf]

/-- The verifier passes a metrics text exactly when it finds a hash label, no
secret of the test process, and at most one in `2^54` of the hashes found
differ from the expected digest. -/
theorem checkHashedCommandLines_eq_zero_iff (s : String) :
    checkHashedCommandLines s = .ok 0 ↔
      findallHash s.data ≠ [] ∧ (∀ p ∈ sensitivePatterns, ¬p.data <:+: s.data) ∧
      2 ^ 54 * ((findallHash s.data).filter (· ≠ expectedHash)).length ≤
        (findallHash s.data).length := by
  rw [checkHashedCommandLines_eq]
  split_ifs with h
  · exact iff_of_true rfl h
  · exact iff_of_false (fun e => absurd (Except.ok.inj e) (by decide)) h

/-- For a text shorter than `2^54` characters, the verifier passes exactly
when it finds a hash label, no secret of the test process, and no hash but the
expected digest. -/
theorem checkHashedCommandLines_eq_zero_iff_of_lt {s : String} (hs : s.length < 2 ^ 54) :
    checkHashedCommandLines s = .ok 0 ↔
      findallHash s.data ≠ [] ∧ (∀ p ∈ sensitivePatterns, ¬p.data <:+: s.data) ∧
      ∀ h ∈ findallHash s.data, h = expectedHash := by
  have hfound : (findallHash s.data).length < 2 ^ 54 :=
    Nat.lt_of_le_of_lt (length_findallGo_le 0 s.data) hs
  have hshare : 2 ^ 54 * ((findallHash s.data).filter (· ≠ expectedHash)).length ≤
      (findallHash s.data).length ↔ ∀ h ∈ findallHash s.data, h = expectedHash := by
    have hall : (∀ h ∈ findallHash s.data, h = expectedHash) ↔
        ((findallHash s.data).filter (· ≠ expectedHash)).length = 0 := by
      simp [List.filter_eq_nil_iff]
    rw [hall]
    omega
  rw [checkHashedCommandLines_eq, ← hshare]
  split_ifs with h
  · exact iff_of_true rfl h
  · exact iff_of_false (fun e => absurd (Except.ok.inj e) (by decide)) h

/-! ## A plain-text command line passes -/

/-- A well-formed label with the expected digest, then a plain-text command line. -/
def plaintextMetrics : String :=
  ⟨hashLabel '.' expectedHash ++ "\nprocess.command_line=\"ls\"".data⟩

theorem not_infix_of_mem_not_mem {c : Char} {p s : List Char} (hp : c ∈ p) (hs : c ∉ s) :
    ¬p <:+: s :=
  fun h => hs (h.subset hp)

/-- A character that is no hex digit and occurs in neither fixed part of the
text does not occur in it. -/
theorem not_mem_plaintextMetrics {c : Char} (hhex : isLowerHex c = false)
    (hhead : c ∉ labelHead '.') (htail : c ∉ '"' :: "\nprocess.command_line=\"ls\"".data) :
    c ∉ plaintextMetrics.data := by
  have hdigest : c ∉ expectedHash := fun h => by rw [expectedHash_lowerHex c h] at hhex; cases hhex
  simp only [plaintextMetrics, hashLabel, List.append_assoc, List.singleton_append, List.mem_append]
  rintro (h | h | h)
  exacts [hhead h, hdigest h, htail h]

/-- The verifier passes a text that holds a plain-text command-line label. -/
theorem checkHashedCommandLines_passes_plaintext :
    "process.command_line=\"ls\"".data <:+: plaintextMetrics.data ∧
      checkHashedCommandLines plaintextMetrics = .ok 0 := by
  have hfound : findallHash plaintextMetrics.data = [expectedHash] := by
    rw [show plaintextMetrics.data = hashLabel '.' expectedHash ++ "\nprocess.command_line=\"ls\"".data
      from rfl, findallHash_label (.inl rfl) expectedHash_length expectedHash_lowerHex]
    rfl
  have hlen : plaintextMetrics.length < 2 ^ 54 := by
    simp only [plaintextMetrics, hashLabel, String.length, List.length_append, expectedHash_length]
    decide
  refine ⟨⟨hashLabel '.' expectedHash ++ ['\n'], [], by simp [plaintextMetrics]⟩,
    (checkHashedCommandLines_eq_zero_iff_of_lt hlen).2 ⟨by simp [hfound], ?_, by simp [hfound]⟩⟩
  simp only [sensitivePatterns, List.mem_cons, List.mem_singleton, List.not_mem_nil, or_false,
    forall_eq_or_imp, forall_eq]
  exact ⟨@not_infix_of_mem_not_mem 'u' _ _ (by decide) (not_mem_plaintextMetrics rfl (by decide) (by decide)),
    @not_infix_of_mem_not_mem 'w' _ _ (by decide) (not_mem_plaintextMetrics rfl (by decide) (by decide)),
    @not_infix_of_mem_not_mem 'k' _ _ (by decide) (not_mem_plaintextMetrics rfl (by decide) (by decide))⟩

end TfK8s.Verify
