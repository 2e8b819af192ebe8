import Mathlib.Data.List.Dedup
import TfK8s.Proofs.ParseText

/-!
# A whole exposition text, read back

`_parse_text_format` keeps a dict from metric names to lists of samples: the
first line of a name adds the name with an empty list, and each of its lines
appends its sample. So a text read back is its samples grouped by name, the
names in the order of their first line and each name's samples in the order
of its lines, with the comment lines skipped. `parseTextFormat_exposition`
says so for every text made of comment lines and sample lines that each read
back on their own, joined by newlines.

A comment is `#` and a text without line breaks; a sample line carries what
`parseTextFormat_expositionLine` asks of its parts as fields, so no ill-formed
line can be built. `"\n".join` of such lines comes apart again under
`splitlines` (`splitlines_intercalate`), and each line is one pass of the loop
(`parseLine_comment`, `SampleLine.parseLine`). `grouped` says what the dict
should be; `addSample_grouped` is the step for one more sample at the end, and
`foldl_addSample` the whole loop.
-/

namespace TfK8s.Template

open Py

/-! ## Grouping by name -/

/-- The metric names of the samples, each once, in order of first appearance. -/
def firstNames (samples : List (String × Sample)) : List String :=
  (samples.map (·.1)).reverse.dedup.reverse

/-- The samples of `name`, in order. -/
def samplesOf (name : String) (samples : List (String × Sample)) : List Sample :=
  (samples.filter (·.1 = name)).map (·.2)

/-- The samples grouped by metric name: what the dict of sample lists should hold. -/
def grouped (samples : List (String × Sample)) : List (String × List Sample) :=
  (firstNames samples).map fun name => (name, samplesOf name samples)

theorem mem_firstNames {samples : List (String × Sample)} {name : String} :
    name ∈ firstNames samples ↔ name ∈ samples.map (·.1) := by
  simp [firstNames, List.mem_dedup]

theorem firstNames_concat (samples : List (String × Sample)) (x : String × Sample) :
    firstNames (samples ++ [x]) =
      if x.1 ∈ samples.map (·.1) then firstNames samples else firstNames samples ++ [x.1] := by
  unfold firstNames
  split_ifs with h
  · rw [List.map_append, List.reverse_append, List.map_singleton, List.reverse_singleton,
      List.singleton_append, List.dedup_cons_of_mem (List.mem_reverse.2 h)]
  · rw [List.map_append, List.reverse_append, List.map_singleton, List.reverse_singleton,
      List.singleton_append, List.dedup_cons_of_not_mem (mt List.mem_reverse.1 h), List.reverse_cons]

theorem samplesOf_concat (name : String) (samples : List (String × Sample)) (x : String × Sample) :
    samplesOf name (samples ++ [x]) = samplesOf name samples ++ if x.1 = name then [x.2] else [] := by
  unfold samplesOf
  split_ifs with h <;> simp [List.filter_append, h]

theorem samplesOf_eq_nil {name : String} {samples : List (String × Sample)}
    (h : name ∉ samples.map (·.1)) : samplesOf name samples = [] := by
  simp only [samplesOf, List.map_eq_nil_iff, List.filter_eq_nil_iff, decide_eq_true_eq]
  exact fun x hx hn => h (List.mem_map.2 ⟨x, hx, hn⟩)

theorem find?_eq_self {name : String} :
    ∀ {names : List String}, names.find? (· = name) = if name ∈ names then some name else none
  | [] => rfl
  | m :: names => by
      have ih := @find?_eq_self name names
      by_cases hm : m = name
      · simp [hm]
      · simp [hm, Ne.symm hm, ih]

theorem find?_grouped (samples : List (String × Sample)) (name : String) :
    (grouped samples).find? (·.1 = name) =
      if name ∈ samples.map (·.1) then some (name, samplesOf name samples) else none := by
  rw [grouped, List.find?_map]
  simp only [Function.comp_def, find?_eq_self, mem_firstNames]
  split_ifs <;> rfl

/-- One more sample at the end: `results[name].append(sample)`, after adding
the name if it is new, groups it with the others. -/
theorem addSample_grouped (samples : List (String × Sample)) (x : String × Sample) :
    addSample (grouped samples) x.1 x.2 = grouped (samples ++ [x]) := by
  unfold addSample
  rw [find?_grouped]
  by_cases hx : x.1 ∈ samples.map (·.1)
  · have hany : (grouped samples).any (fun e => decide (e.1 = x.1)) = true := by
      simpa [grouped, mem_firstNames] using hx
    simp only [if_pos hx, dictSet]
    rw [if_pos hany]
    simp only [grouped, firstNames_concat, if_pos hx, List.map_map]
    refine List.map_congr_left fun name _ => ?_
    by_cases hn : name = x.1
    · subst hn; simp [samplesOf_concat]
    · simp [hn, Ne.symm hn, samplesOf_concat]
  · simp only [if_neg hx, grouped, firstNames_concat, List.map_append, List.map_singleton,
      samplesOf_concat, samplesOf_eq_nil hx, if_true, List.nil_append]
    refine congrArg (· ++ _) (List.map_congr_left fun name hn => ?_)
    have hne : x.1 ≠ name := fun h => hx (h ▸ mem_firstNames.1 hn)
    simp [hne]

/-- The loop of `_parse_text_format` over the samples, from an empty dict. -/
theorem foldl_addSample (samples : List (String × Sample)) :
    samples.foldl (fun r x => addSample r x.1 x.2) [] = grouped samples := by
  induction samples using List.reverseRecOn with
  | nil => rfl
  | append_singleton samples x ih => rw [List.foldl_append, ih, List.foldl_cons, List.foldl_nil,
      addSample_grouped]

/-! ## The lines of a text -/

/-- A comment line, `#` and a text without line breaks. -/
structure CommentLine where
  text : String
  no_break : ∀ c ∈ text.data, isLineBreak c = false

/-- A sample line whose parts are what `_parse_text_format` reads back: a
metric name, distinct plain labels, at least one, and a value's text that
`float` reads as `value`. -/
structure SampleLine where
  name : String
  labels : List (String × String)
  text : String
  value : PyFloat
  name_ok : isMetricName name.data = true
  labels_ne : labels ≠ []
  labels_ok : ∀ l ∈ labels, isLabelName l.1.data = true ∧ isPlainLabelValue l.2.data = true
  labels_nodup : (labels.map (·.1)).Nodup
  text_ne : text.data ≠ []
  text_ok : ∀ c ∈ text.data, isValueChar c = true
  parse_ok : PyFloat.parse text = .ok value

/-- A line of an exposition text. -/
inductive ExpositionItem where
  | comment (c : CommentLine)
  | sample (s : SampleLine)

/-- The line's characters. -/
def ExpositionItem.line : ExpositionItem → List Char
  | .comment c => '#' :: c.text.data
  | .sample s => (expositionLine s.name s.labels s.text).data

/-- The sample a line holds, under its metric name. -/
def ExpositionItem.sample? : ExpositionItem → Option (String × Sample)
  | .comment _ => none
  | .sample s => some (s.name, (s.labels, s.value))

/-- The text of the lines, joined by newlines. -/
def exposition (items : List ExpositionItem) : String :=
  ⟨['\n'].intercalate (items.map ExpositionItem.line)⟩

theorem labelText_chars {labels : List (String × String)}
    (h : ∀ l ∈ labels, isLabelName l.1.data = true ∧ isPlainLabelValue l.2.data = true) :
    ∀ d ∈ [','].intercalate (labels.map labelPairText), d ≠ '}' ∧ isLineBreak d = false := by
  intro d hd
  rcases mem_intercalate hd with rfl | ⟨p, hp, hd⟩
  · decide
  · obtain ⟨l, hl, rfl⟩ := List.mem_map.1 hp
    exact (labelPairText_chars (h l hl).1 (h l hl).2 d hd).2

/-- A metric name starts with its first character, which is no `#`, and has
no line break. -/
theorem isMetricName_cons {n : List Char} (h : isMetricName n = true) :
    ∃ c rest, n = c :: rest ∧ c ≠ '#' ∧ ∀ d ∈ n, isLineBreak d = false := by
  match n, h with
  | c :: rest, h =>
    simp only [isMetricName, Bool.and_eq_true, List.all_eq_true] at h
    refine ⟨c, rest, rfl, fun e => absurd h.1 (by rw [e]; decide), fun d hd => ?_⟩
    rcases List.mem_cons.1 hd with rfl | hd
    · exact not_lineBreak_of_word (word_of_isNameStart h.1)
    · exact not_lineBreak_of_word (h.2 d hd)

theorem SampleLine.line_ok (s : SampleLine) :
    (expositionLine s.name s.labels s.text).data ≠ [] ∧
      ∀ d ∈ (expositionLine s.name s.labels s.text).data, isLineBreak d = false := by
  obtain ⟨c, rest, hcr, -, hname⟩ := isMetricName_cons s.name_ok
  rw [expositionLine_data s.labels_ne]
  refine ⟨by simp [hcr], fun d hd => ?_⟩
  simp only [List.mem_append, List.mem_cons] at hd
  rcases hd with ((hd | rfl | hd) | rfl | rfl | hd)
  · exact hname d hd
  · decide
  · exact (labelText_chars s.labels_ok d hd).2
  · decide
  · decide
  · exact @not_lineBreak_of isValueChar (by decide) d (s.text_ok d hd)

/-- A sample line is one pass of the loop that adds its sample. -/
theorem SampleLine.parseLine (s : SampleLine) (results : List (String × List Sample)) :
    parseLine results (expositionLine s.name s.labels s.text).data =
      .ok (addSample results s.name (s.labels, s.value)) := by
  obtain ⟨c, rest, hcr, hc, -⟩ := isMetricName_cons s.name_ok
  have hhead : (expositionLine s.name s.labels s.text).data.head? ≠ some '#' := by
    rw [expositionLine_data s.labels_ne, hcr]
    simpa using hc
  have hmatch := metricMatch_line s.name_ok (fun h => (labelText_chars s.labels_ok '}' h).1 rfl)
    s.text_ne s.text_ok
  rw [← expositionLine_data s.labels_ne] at hmatch
  rw [parseLine_sample hhead hmatch s.parse_ok, parseLabels_text s.labels_ne s.labels_ok s.labels_nodup]

theorem parseLine_comment (c : CommentLine) (results : List (String × List Sample)) :
    parseLine results ('#' :: c.text.data) = .ok results := rfl

theorem ExpositionItem.line_ok (item : ExpositionItem) :
    item.line ≠ [] ∧ ∀ d ∈ item.line, isLineBreak d = false := by
  cases item with
  | comment c =>
      refine ⟨List.cons_ne_nil _ _, fun d hd => ?_⟩
      rcases List.mem_cons.1 hd with rfl | hd
      · decide
      · exact c.no_break d hd
  | sample s => exact s.line_ok

/-- The loop over the lines of the items. -/
theorem foldlM_parseLine :
    ∀ (items : List ExpositionItem) (results : List (String × List Sample)),
      (items.map ExpositionItem.line).foldlM parseLine results =
        .ok ((items.filterMap ExpositionItem.sample?).foldl (fun r x => addSample r x.1 x.2) results)
  | [], _ => rfl
  | .comment c :: items, results => by
      rw [List.map_cons, List.foldlM_cons, ExpositionItem.line, parseLine_comment]
      exact foldlM_parseLine items results
  | .sample s :: items, results => by
      rw [List.map_cons, List.foldlM_cons, ExpositionItem.line, SampleLine.parseLine]
      exact foldlM_parseLine items _

/-- `_parse_text_format` reads a text of comment and sample lines back as its
samples grouped by metric name: the names in the order of their first line,
each name's samples in the order of its lines. -/
theorem parseTextFormat_exposition (items : List ExpositionItem) :
    parseTextFormat (exposition items) = .ok (grouped (items.filterMap ExpositionItem.sample?)) := by
  have hlines : ∀ l ∈ items.map ExpositionItem.line, l ≠ [] ∧ ∀ c ∈ l, isLineBreak c = false := by
    simp only [List.mem_map]
    rintro _ ⟨item, -, rfl⟩
    exact item.line_ok
  rw [parseTextFormat, exposition, splitlines_intercalate hlines, foldlM_parseLine, foldl_addSample]

end TfK8s.Template
