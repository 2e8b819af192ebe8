import TfK8s.Template.ParseText

/-!
# What `_parse_text_format` makes of an exposition line

The text exposition format writes a sample as its name, its labels as
`name="value"` pairs between braces, separated by `,`, then a space and the
value; a label value has `\`, `"` and newlines escaped, and a sample without
labels has no braces. `expositionLine` below is that encoding, written from
the format, to be read back by the parser of the model.

The parser reads it back only where its shortcuts do not bite: it needs the
braces, splits the label text at every `,` whatever is quoted, stops at the
first `}`, strips every quote character from both ends of a value, keeps the
escapes, and breaks lines at every `str.splitlines` break. For a line with at
least one label whose values avoid all of that, the parse is exact:
`parseTextFormat_expositionLine`. The proof follows the line left to right,
one lemma per group of the pattern, each a run of its class ended by a
character the class excludes.
-/

namespace TfK8s.Template

open Py

/-! ## The encoding -/

/-- The format's escaping of a label value: `\` as `\\`, `"` as `\"` and a
newline as `\n`. -/
def escapeLabelValue (v : List Char) : List Char :=
  v.flatMap fun c =>
    if c = '\\' then ['\\', '\\'] else if c = '"' then ['\\', '"'] else if c = '\n' then ['\\', 'n']
    else [c]

/-- `name="value"`. -/
def labelPairText (l : String × String) : List Char :=
  l.1.data ++ '=' :: '"' :: escapeLabelValue l.2.data ++ ['"']

/-- The exposition line of a sample without a timestamp. -/
def expositionLine (name : String) (labels : List (String × String)) (value : String) : String :=
  ⟨name.data ++ (if labels.isEmpty then [] else '{' :: [','].intercalate (labels.map labelPairText) ++ ['}']) ++
    ' ' :: value.data⟩

/-- `[a-zA-Z_:][a-zA-Z0-9_:]*`. -/
def isMetricName : List Char → Bool
  | [] => false
  | c :: rest => isNameStart c && rest.all isNameChar

/-- `[a-zA-Z_][a-zA-Z0-9_]*`. -/
def isLabelName : List Char → Bool
  | [] => false
  | c :: rest => (c.isAlpha || c = '_') && rest.all fun d => d.isAlphanum || d = '_'

/-- A label value the parser reads back as it is: no `,`, `}`, quote,
backslash or line break in it, and no `'` at either end. -/
def isPlainLabelValue (v : List Char) : Bool :=
  v.all (fun c => !(c = ',' || c = '}' || c = '"' || c = '\\' || isLineBreak c)) &&
    v.head? != some '\'' && v.getLast? != some '\''

/-! ## Characters -/

/-- The characters `str.splitlines` breaks at. -/
def lineBreaks : List Char :=
  ['\n', '\r', '\x0b', '\x0c', '\x1c', '\x1d', '\x1e', '\x85', '\u2028', '\u2029']

theorem isLineBreak_iff {c : Char} : isLineBreak c = true ↔ c ∈ lineBreaks := by
  simp [isLineBreak, lineBreaks, or_assoc]

/-- A character of a class that has no line break is not one. -/
theorem not_lineBreak_of {q : Char → Bool} (hq : ∀ d ∈ lineBreaks, q d = false) {c : Char}
    (hc : q c = true) : isLineBreak c = false := by
  cases h : isLineBreak c
  · rfl
  · exact absurd hc (by rw [hq c (isLineBreak_iff.1 h)]; decide)

theorem not_lineBreak_of_word {c : Char} (h : (c.isAlphanum || c = '_' || c = ':') = true) :
    isLineBreak c = false :=
  @not_lineBreak_of (fun c => c.isAlphanum || c = '_' || c = ':') (by decide) c h

theorem isPySpace_of_isValueChar {c : Char} (h : isValueChar c = true) : isPySpace c = false := by
  simp only [isValueChar, Bool.or_eq_true, decide_eq_true_eq] at h
  rcases h with ((((hd | rfl) | rfl) | rfl) | rfl) | rfl
  · have := (isDigit_iff_toNat c).1 hd
    simp [isPySpace]
    omega
  all_goals decide

/-- A run of `p` followed by a character `p` rejects is what `takeWhile`
takes and what `dropWhile` leaves the rest at. -/
theorem span_append {p : Char → Bool} {a b : List Char} {c : Char} (ha : ∀ x ∈ a, p x = true)
    (hc : p c = false) : (a ++ c :: b).takeWhile p = a ∧ (a ++ c :: b).dropWhile p = c :: b := by
  rw [List.takeWhile_append_of_pos ha, List.dropWhile_append_of_pos ha,
    List.takeWhile_cons_of_neg (by simp [hc]), List.dropWhile_cons_of_neg (by simp [hc])]
  simp

/-- The groups of `name{body} text`, when each is a run of its class. -/
theorem metricMatch_line {name body text : List Char} (hname : isMetricName name = true)
    (hbody : '}' ∉ body) (htext : text ≠ []) (hval : ∀ c ∈ text, isValueChar c = true) :
    metricMatch (name ++ '{' :: body ++ '}' :: ' ' :: text) = some (name, body, text) := by
  obtain ⟨c, rest, rfl⟩ := List.exists_cons_of_ne_nil (show name ≠ [] by rintro rfl; cases hname)
  obtain ⟨t, ts, rfl⟩ := List.exists_cons_of_ne_nil htext
  simp only [isMetricName, Bool.and_eq_true, List.all_eq_true] at hname
  have hn : (rest ++ '{' :: (body ++ '}' :: ' ' :: t :: ts)).takeWhile isNameChar = rest ∧
      (rest ++ '{' :: (body ++ '}' :: ' ' :: t :: ts)).dropWhile isNameChar =
        '{' :: (body ++ '}' :: ' ' :: t :: ts) :=
    span_append hname.2 (by decide)
  have hb : (body ++ '}' :: ' ' :: t :: ts).takeWhile (· ≠ '}') = body ∧
      (body ++ '}' :: ' ' :: t :: ts).dropWhile (· ≠ '}') = '}' :: ' ' :: t :: ts :=
    span_append (fun x hx => by simpa using fun e : x = '}' => hbody (e ▸ hx)) (by decide)
  have hs : ([' '] ++ t :: ts).takeWhile isPySpace = [' '] ∧
      ([' '] ++ t :: ts).dropWhile isPySpace = t :: ts :=
    span_append (by decide) (isPySpace_of_isValueChar (hval t (List.mem_cons_self _ _)))
  have hv : (t :: ts).takeWhile isValueChar = t :: ts := List.takeWhile_eq_self_iff.2 hval
  simp only [List.singleton_append] at hs
  simp only [List.cons_append, List.append_assoc]
  simp only [metricMatch, hname.1, if_true, hn.1, hn.2, hb.1, hb.2, hs.1, hs.2, hv]
  rfl

/-! ## Labels -/

theorem mem_of_isLabelName {k : List Char} (h : isLabelName k = true) :
    ∀ c ∈ k, (c.isAlphanum || c = '_') = true := by
  cases k with
  | nil => cases h
  | cons c rest =>
      simp only [isLabelName, Bool.and_eq_true, List.all_eq_true] at h
      refine List.forall_mem_cons.2 ⟨?_, h.2⟩
      rcases (by simpa using h.1 : c.isAlpha = true ∨ c = '_') with h | h <;>
        simp [Char.isAlphanum, h]

theorem plain_chars {v : List Char} (h : isPlainLabelValue v = true) :
    ∀ c ∈ v, c ≠ ',' ∧ c ≠ '}' ∧ c ≠ '"' ∧ c ≠ '\\' ∧ isLineBreak c = false := by
  simp only [isPlainLabelValue, Bool.and_eq_true, List.all_eq_true] at h
  intro c hc
  simpa [and_assoc] using h.1.1 c hc

theorem plain_ends {v : List Char} (h : isPlainLabelValue v = true) :
    v.head? ≠ some '\'' ∧ v.getLast? ≠ some '\'' := by
  simp only [isPlainLabelValue, Bool.and_eq_true, bne_iff_ne, ne_eq] at h
  exact ⟨h.1.2, h.2⟩

theorem escapeLabelValue_plain :
    ∀ {v : List Char}, (∀ c ∈ v, c ≠ '\\' ∧ c ≠ '"' ∧ c ≠ '\n') → escapeLabelValue v = v
  | [], _ => rfl
  | c :: v, h => by
      obtain ⟨⟨h₁, h₂, h₃⟩, hv⟩ := List.forall_mem_cons.1 h
      have ih := escapeLabelValue_plain hv
      unfold escapeLabelValue at ih ⊢
      rw [List.flatMap_cons, ih, if_neg h₁, if_neg h₂, if_neg h₃]
      rfl

theorem not_mem_of_isLabelName {k : List Char} (h : isLabelName k = true) {d : Char}
    (hd : (d.isAlphanum || d = '_') = false) : d ∉ k := fun hm => by
  have := mem_of_isLabelName h d hm
  rw [hd] at this
  cases this

theorem dictSet_new {α : Type} {d : List (String × α)} {key : String} (h : ∀ e ∈ d, e.1 ≠ key)
    (value : α) : dictSet d key value = d ++ [(key, value)] := by
  rw [dictSet, if_neg fun hany => by
    obtain ⟨e, he, hek⟩ := List.any_eq_true.1 hany
    exact h e he (by simpa using hek)]

theorem addLabel_pair {acc : List (String × String)} {l : String × String}
    (hk : isLabelName l.1.data = true) (hv : isPlainLabelValue l.2.data = true)
    (hnew : ∀ e ∈ acc, e.1 ≠ l.1) : addLabel acc (labelPairText l) = acc ++ [l] := by
  have hc := plain_chars hv
  have he := plain_ends hv
  have hesc : escapeLabelValue l.2.data = l.2.data := escapeLabelValue_plain fun c hm =>
    ⟨(hc c hm).2.2.2.1, (hc c hm).2.2.1, fun e => absurd (e ▸ (hc c hm).2.2.2.2) (by decide)⟩
  have hstrip : stripChars ['"', '\''] ('"' :: l.2.data ++ ['"']) = l.2.data := by
    refine stripChars_enclosed (by decide) (fun c h => ?_) (fun c h => ?_)
    · have hm := List.mem_of_mem_head? h
      simpa using ⟨(hc c hm).2.2.1, fun e => he.1 (e ▸ h)⟩
    · have hm := List.mem_of_getLast?_eq_some h
      simpa using ⟨(hc c hm).2.2.1, fun e => he.2 (e ▸ h)⟩
  have hsplit : splitFirst '=' (l.1.data ++ '=' :: ('"' :: l.2.data ++ ['"'])) =
      (l.1.data, '"' :: l.2.data ++ ['"']) :=
    splitFirst_append (not_mem_of_isLabelName hk (show ('='.isAlphanum || decide ('=' = '_')) = false by decide))
  unfold addLabel labelPairText
  rw [hesc, show l.1.data ++ '=' :: '"' :: l.2.data ++ ['"'] = l.1.data ++ '=' :: ('"' :: l.2.data ++ ['"'])
    by simp, if_pos (by simp), hsplit]
  simp only [hstrip]
  exact dictSet_new hnew _

theorem escapeLabelValue_of_plain {v : List Char} (hv : isPlainLabelValue v = true) :
    escapeLabelValue v = v :=
  escapeLabelValue_plain fun c hm => let h := plain_chars hv c hm
    ⟨h.2.2.2.1, h.2.2.1, fun e => absurd (e ▸ h.2.2.2.2) (by decide)⟩

/-- A label pair's text has no `,`, `}` or line break. -/
theorem labelPairText_chars {l : String × String} (hk : isLabelName l.1.data = true)
    (hv : isPlainLabelValue l.2.data = true) :
    ∀ c ∈ labelPairText l, c ≠ ',' ∧ c ≠ '}' ∧ isLineBreak c = false := by
  intro c hc
  rw [labelPairText, escapeLabelValue_of_plain hv] at hc
  simp only [List.mem_append, List.mem_cons, List.mem_singleton, List.not_mem_nil, or_false] at hc
  rcases hc with (hc | rfl | rfl | hc) | rfl
  · have hw := mem_of_isLabelName hk c hc
    refine ⟨fun e => ?_, fun e => ?_, not_lineBreak_of_word (by simp [hw])⟩ <;>
      (subst e; exact absurd hw (by decide))
  · decide
  · decide
  · exact ⟨(plain_chars hv c hc).1, (plain_chars hv c hc).2.1, (plain_chars hv c hc).2.2.2.2⟩
  · decide

theorem foldl_addLabel : ∀ {labels acc : List (String × String)},
    (∀ l ∈ labels, isLabelName l.1.data = true ∧ isPlainLabelValue l.2.data = true) →
    (labels.map (·.1)).Nodup → (∀ e ∈ acc, ∀ l ∈ labels, e.1 ≠ l.1) →
    (labels.map labelPairText).foldl addLabel acc = acc ++ labels
  | [], acc, _, _, _ => by simp
  | l :: labels, acc, h, hnd, hacc => by
      obtain ⟨⟨hk, hv⟩, h⟩ := List.forall_mem_cons.1 h
      have hl : l.1 ∉ labels.map (·.1) := (List.nodup_cons.1 hnd).1
      rw [List.map_cons, List.foldl_cons,
        addLabel_pair hk hv fun e he => hacc e he l (List.mem_cons_self _ _),
        foldl_addLabel h (List.nodup_cons.1 hnd).2 ?_, List.append_assoc, List.singleton_append]
      intro e he l' hl'
      rcases List.mem_append.1 he with he | he
      · exact hacc e he l' (List.mem_cons_of_mem _ hl')
      · rw [List.mem_singleton.1 he]
        exact fun e => hl (e ▸ List.mem_map_of_mem _ hl')

/-- The label text of distinct plain pairs reads back as those pairs, in order. -/
theorem parseLabels_text {labels : List (String × String)} (hne : labels ≠ [])
    (h : ∀ l ∈ labels, isLabelName l.1.data = true ∧ isPlainLabelValue l.2.data = true)
    (hnd : (labels.map (·.1)).Nodup) :
    parseLabels ([','].intercalate (labels.map labelPairText)) = labels := by
  have hpieces : ∀ p ∈ labels.map labelPairText, ',' ∉ p := by
    simp only [List.mem_map]
    rintro _ ⟨l, hl, rfl⟩ hm
    exact (labelPairText_chars (h l hl).1 (h l hl).2 _ hm).1 rfl
  have hne' : ([','].intercalate (labels.map labelPairText)).isEmpty = false := by
    obtain ⟨l, rest, rfl⟩ := List.exists_cons_of_ne_nil hne
    cases rest with
    | nil => simp [List.intercalate, labelPairText]
    | cons l' rest => simp [intercalate_cons_cons, labelPairText]
  rw [parseLabels, hne', if_neg Bool.false_ne_true, splitChar_intercalate (by simpa using hne) hpieces,
    foldl_addLabel h hnd (by simp), List.nil_append]

/-! ## The line -/

/-- One line that matches adds its sample. -/
theorem parseLine_sample {results : List (String × List Sample)} {line name body text : List Char}
    (hhead : line.head? ≠ some '#') (hm : metricMatch line = some (name, body, text)) {v : PyFloat}
    (hv : PyFloat.parse ⟨text⟩ = .ok v) :
    parseLine results line = .ok (addSample results ⟨name⟩ (parseLabels body, v)) := by
  rw [parseLine, if_neg hhead, hm]
  simp only [hv]
  rfl

theorem expositionLine_data {name : String} {labels : List (String × String)} {text : String}
    (hne : labels ≠ []) : (expositionLine name labels text).data =
      name.data ++ '{' :: [','].intercalate (labels.map labelPairText) ++ '}' :: ' ' :: text.data := by
  simp [expositionLine, hne]

theorem word_of_isNameStart {c : Char} (h : isNameStart c = true) :
    (c.isAlphanum || c = '_' || c = ':') = true := by
  simp only [isNameStart, Char.isAlphanum, Bool.or_eq_true] at h ⊢
  tauto

/-- `_parse_text_format` reads an exposition line back exactly when the line
has labels, their names are distinct and their values plain, and the value's
text is one `float` reads. -/
theorem parseTextFormat_expositionLine {name : String} {labels : List (String × String)}
    {text : String} {v : PyFloat} (hname : isMetricName name.data = true) (hne : labels ≠ [])
    (hlabels : ∀ l ∈ labels, isLabelName l.1.data = true ∧ isPlainLabelValue l.2.data = true)
    (hnd : (labels.map (·.1)).Nodup) (htext : text.data ≠ [])
    (hval : ∀ c ∈ text.data, isValueChar c = true) (hv : PyFloat.parse text = .ok v) :
    parseTextFormat (expositionLine name labels text) = .ok [(name, [(labels, v)])] := by
  obtain ⟨c, rest, hcr⟩ := List.exists_cons_of_ne_nil (show name.data ≠ [] by
    intro h; rw [h] at hname; cases hname)
  have hc : isNameStart c = true ∧ ∀ d ∈ rest, isNameChar d = true := by
    simpa [isMetricName, hcr] using hname
  have hbody : ∀ d ∈ [','].intercalate (labels.map labelPairText), d ≠ '}' ∧ isLineBreak d = false := by
    intro d hd
    rcases mem_intercalate hd with rfl | ⟨p, hp, hd⟩
    · decide
    · obtain ⟨l, hl, rfl⟩ := List.mem_map.1 hp
      exact (labelPairText_chars (hlabels l hl).1 (hlabels l hl).2 d hd).2
  have hline : ∀ d ∈ (expositionLine name labels text).data, isLineBreak d = false := by
    rw [expositionLine_data hne, hcr]
    intro d hd
    simp only [List.mem_append, List.mem_cons] at hd
    rcases hd with (((rfl | hd) | rfl | hd) | rfl | rfl | hd)
    · exact not_lineBreak_of_word (word_of_isNameStart hc.1)
    · exact not_lineBreak_of_word (hc.2 d hd)
    · decide
    · exact (hbody d hd).2
    · decide
    · decide
    · exact @not_lineBreak_of isValueChar (by decide) d (hval d hd)
  have hhead : (expositionLine name labels text).data.head? ≠ some '#' := by
    rw [expositionLine_data hne, hcr]
    rintro ⟨⟩
    exact absurd hc.1 (by decide)
  have hmatch := metricMatch_line hname (fun h => (hbody '}' h).1 rfl) htext hval
  rw [← expositionLine_data hne] at hmatch
  rw [parseTextFormat, splitlines_plain hline (by simp [expositionLine]), List.foldlM_cons,
    parseLine_sample hhead hmatch hv, parseLabels_text hne hlabels hnd]
  rfl

theorem parseTextFormat_expositionLine_up :
    ∃ v, PyFloat.parse "1" = .ok v ∧
      parseTextFormat (expositionLine "up" [("job", "api")] "1") = .ok [("up", [([("job", "api")], v)])] :=
  ⟨_, rfl, parseTextFormat_expositionLine (by decide) (by simp) (by decide) (by decide) (by decide)
    (by decide) rfl⟩

/-- A sample without labels is written without braces, which the pattern
needs, and a `,` in a label value splits it. -/
theorem parseTextFormat_misreads_labels :
    parseTextFormat (expositionLine "up" [] "1") = .ok [] ∧
      ∃ v, PyFloat.parse "1" = .ok v ∧
        parseTextFormat (expositionLine "up" [("job", "a,b")] "1") = .ok [("up", [([("job", "a")], v)])] :=
  ⟨rfl, _, rfl, rfl⟩

end TfK8s.Template
