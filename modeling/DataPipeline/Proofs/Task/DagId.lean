import DataPipeline.Proofs.Task.WellFormed
import Mathlib.Data.List.Chain
import Mathlib.Data.List.DropRight

/-!
# Ids of DAGs

The id of a DAG is given, or made from the slug of a name. A slug is the words of the name in small
letters with one underscore between two of them: what is put in the place of other characters is
first one underscore for each, then one for each run, and those at the ends go. So slugs have a
normal form, and the slug of a slug is itself.

## Main definitions

* `Text.IsSlug`: the normal form of slugs
* `Text.Slugs`: how a slug comes from a name

## Main results

* `Text.words_eq_filter_splitOnP`: words are what stands between the other characters
* `Text.strip_collapse`: what the passes over the characters make is the words, joined
* `PlanOptions.dagId_canonical`
-/
namespace DataPipeline

namespace Text

variable {c d : Char} {cs : List Char}

/-! ## Words -/

theorem words_cons_of_not (h : isWordChar c = false) : words (c :: cs) = words cs := by
  cases cs <;> simp [words, h]

theorem words_singleton (h : isWordChar c = true) : words [c] = [[c]] := by
  simp [words, h]

theorem words_cons_of_end (h : isWordChar c = true) (hd : isWordChar d = false) :
    words (c :: d :: cs) = [c] :: words (d :: cs) := by
  simp [words, h, hd]

theorem words_ne_nil (h : isWordChar c = true) : words (c :: cs) ≠ [] := by
  cases cs with
  | nil => simp [words, h]
  | cons d cs =>
    rw [words, if_pos h]
    split
    · split <;> simp
    · simp

theorem words_cons_of_inside (h : isWordChar c = true) (hd : isWordChar d = true) :
    words (c :: d :: cs) = (words (d :: cs)).modifyHead (c :: ·) := by
  obtain ⟨w, ws, hw⟩ := List.exists_cons_of_ne_nil (words_ne_nil hd)
  rw [words, if_pos h, if_pos hd, hw, List.modifyHead_cons]

/-- The words of a text are what is left between the characters that belong to none. -/
theorem words_eq_filter_splitOnP (cs : List Char) :
    words cs = (cs.splitOnP (!isWordChar ·)).filter (!·.isEmpty) := by
  induction cs with
  | nil => rfl
  | cons c cs ih =>
    rw [List.splitOnP_cons_eq_if_modifyHead]
    cases hc : isWordChar c with
    | false => simpa [words_cons_of_not hc] using ih
    | true =>
      cases cs with
      | nil => simp [words_singleton hc]
      | cons d cs =>
        rw [List.splitOnP_cons_eq_if_modifyHead] at ih ⊢
        cases hd : isWordChar d with
        | false => simpa [words_cons_of_end hc hd, hd] using ih
        | true =>
          obtain ⟨w, ws, hw⟩ := List.exists_cons_of_ne_nil (List.splitOnP_ne_nil (!isWordChar ·) cs)
          simpa [words_cons_of_inside hc hd, hd, hw] using congrArg (List.modifyHead (c :: ·)) ih

/-! ## Characters -/

theorem isWordChar_iff : isWordChar c = true ↔
    (65 ≤ c.toNat ∧ c.toNat ≤ 90) ∨ (97 ≤ c.toNat ∧ c.toNat ≤ 122) ∨
      (48 ≤ c.toNat ∧ c.toNat ≤ 57) := by
  have h : isWordChar c = (decide (c.val ≥ 'A'.val ∧ c.val ≤ 'Z'.val) ||
      (decide (c.val ≥ 'a'.val) && decide (c.val ≤ 'z'.val)) ||
      (decide (c.val ≥ '0'.val) && decide (c.val ≤ '9'.val))) := rfl
  simp [h, UInt32.le_iff_toNat_le, or_assoc]

theorem toLower_of_isWordChar (h : isWordChar c = true) :
    (97 ≤ c.toLower.toNat ∧ c.toLower.toNat ≤ 122) ∨
      (48 ≤ c.toLower.toNat ∧ c.toLower.toNat ≤ 57) := by
  have hnat := isWordChar_iff.1 h
  by_cases hcapital : c.val ≥ 'A'.val ∧ c.val ≤ 'Z'.val
  · have hlower := toNat_toLower hcapital
    omega
  · have hsame : c.toLower = c := dif_neg hcapital
    have hother : ¬ (65 ≤ c.toNat ∧ c.toNat ≤ 90) := by
      simpa [UInt32.le_iff_toNat_le] using hcapital
    rw [hsame]
    omega

/-- What stands for a character belongs to a word if the character does. -/
theorem isWordChar_slugChar (c : Char) : isWordChar (slugChar c) = isWordChar c := by
  cases h : isWordChar c with
  | true =>
    have hlower := toLower_of_isWordChar h
    rw [slugChar, if_pos h, isWordChar_iff]
    omega
  | false =>
    rw [slugChar, if_neg (by simp [h])]
    decide

theorem slugChar_or (c : Char) : isWordChar (slugChar c) = true ∨ slugChar c = '_' := by
  cases h : isWordChar c with
  | true => exact .inl ((isWordChar_slugChar c).trans h)
  | false => exact .inr (if_neg (by simp [h]))

theorem slugChar_slugChar (c : Char) : slugChar (slugChar c) = slugChar c := by
  cases h : isWordChar c with
  | true =>
    have hslug : slugChar c = c.toLower := if_pos h
    have hword : isWordChar (slugChar c) = true := (isWordChar_slugChar c).trans h
    rw [slugChar, if_pos hword, hslug, toLower_toLower]
  | false => simp [slugChar, h]

theorem slugChar_range (c : Char) : ('a' ≤ slugChar c ∧ slugChar c ≤ 'z') ∨
    ('0' ≤ slugChar c ∧ slugChar c ≤ '9') ∨ slugChar c = '_' := by
  have hle (a b : Char) : a ≤ b ↔ a.toNat ≤ b.toNat := Iff.rfl
  cases h : isWordChar c with
  | false => exact .inr (.inr (if_neg (by simp [h])))
  | true =>
    have hslug : slugChar c = c.toLower := if_pos h
    rw [hslug, hle, hle, hle, hle]
    rcases toLower_of_isWordChar h with hletter | hdigit
    · exact .inl hletter
    · exact .inr (.inl hdigit)

theorem words_map_slugChar (cs : List Char) :
    words (cs.map slugChar) = (words cs).map (·.map Char.toLower) := by
  induction cs with
  | nil => rfl
  | cons c cs ih =>
    have hc' := isWordChar_slugChar c
    cases hc : isWordChar c with
    | false =>
      rw [hc] at hc'
      rw [List.map_cons, words_cons_of_not hc', words_cons_of_not hc, ih]
    | true =>
      rw [hc] at hc'
      have hslug : slugChar c = c.toLower := if_pos hc
      cases cs with
      | nil =>
        rw [List.map_cons, List.map_nil, words_singleton hc', words_singleton hc, hslug]
        rfl
      | cons d cs =>
        have hd' := isWordChar_slugChar d
        rw [List.map_cons, List.map_cons] at *
        cases hd : isWordChar d with
        | false =>
          rw [hd] at hd'
          rw [words_cons_of_end hc' hd', words_cons_of_end hc hd, ih, hslug]
          rfl
        | true =>
          rw [hd] at hd'
          obtain ⟨w, ws, hw⟩ := List.exists_cons_of_ne_nil (words_ne_nil hd)
          rw [words_cons_of_inside hc' hd', words_cons_of_inside hc hd, ih, hw, hslug]
          rfl

/-! ## The passes over the characters -/

theorem words_congr_tail {x y : List Char} (hhead : x.head? = y.head?) (h : words x = words y) :
    words (c :: x) = words (c :: y) := by
  cases hc : isWordChar c with
  | false => rw [words_cons_of_not hc, words_cons_of_not hc, h]
  | true =>
    cases x with
    | nil => rw [List.head?_eq_none_iff.1 hhead.symm]
    | cons d x =>
      obtain ⟨y, rfl⟩ := List.head?_eq_some_iff.1 hhead.symm
      cases hd : isWordChar d with
      | false => rw [words_cons_of_end hc hd, words_cons_of_end hc hd, h]
      | true => rw [words_cons_of_inside hc hd, words_cons_of_inside hc hd, h]

theorem isWordChar_underscore : isWordChar '_' = false := by decide

theorem head?_collapse (cs : List Char) : (collapse cs).head? = cs.head? := by
  fun_induction collapse cs <;> grind

theorem collapse_subset (cs : List Char) : collapse cs ⊆ cs := by
  fun_induction collapse cs <;> grind

/-- Of two underscores side by side one goes. -/
theorem isChain_collapse (cs : List Char) :
    (collapse cs).IsChain fun c d => c ≠ '_' ∨ d ≠ '_' := by
  fun_induction collapse cs with
  | case1 => exact .nil
  | case2 c => exact .singleton c
  | case3 c d cs h ih => exact ih
  | case4 c d cs h ih =>
    refine List.isChain_cons.2 ⟨fun e he => ?_, ih⟩
    rw [head?_collapse] at he
    grind

theorem words_collapse (cs : List Char) : words (collapse cs) = words cs := by
  fun_induction collapse cs with
  | case1 => rfl
  | case2 c => rfl
  | case3 c d cs h ih => rw [ih, h.1, words_cons_of_not isWordChar_underscore]
  | case4 c d cs h ih => exact words_congr_tail (head?_collapse _) ih

theorem stripUnderscores_eq (cs : List Char) :
    stripUnderscores cs = (cs.dropWhile (· == '_')).rdropWhile (· == '_') := rfl

theorem part_strip (cs : List Char) : stripUnderscores cs <:+: cs :=
  (List.rdropWhile_prefix _ _).isInfix.trans (List.dropWhile_suffix _).isInfix

theorem isChain_of_part {R : Char → Char → Prop} {part : List Char} (h : cs.IsChain R)
    (hpart : part <:+: cs) : part.IsChain R := by
  obtain ⟨before, after, rfl⟩ := hpart
  exact h.left_of_append.right_of_append

theorem head?_strip (cs : List Char) : (stripUnderscores cs).head? ≠ some '_' := by
  have hfront := dropWhile_rdropWhile_eq_self (List.dropWhile_idempotent (· == '_') cs)
  rw [← stripUnderscores_eq] at hfront
  intro hhead
  obtain ⟨rest, hcs⟩ := List.head?_eq_some_iff.1 hhead
  rw [hcs] at hfront
  have hlength := congrArg List.length hfront
  have hle := (List.dropWhile_suffix (l := rest) (· == '_')).length_le
  simp at hlength
  omega

theorem getLast?_strip (cs : List Char) : (stripUnderscores cs).getLast? ≠ some '_' := by
  intro hlast
  have hne : stripUnderscores cs ≠ [] := by
    rintro heq
    rw [heq] at hlast
    cases hlast
  have hlast' := List.rdropWhile_last_not (· == '_') (cs.dropWhile (· == '_')) hne
  rw [List.getLast?_eq_some_getLast hne] at hlast
  exact hlast' (by simpa [stripUnderscores_eq] using hlast)

theorem words_concat_underscore (cs : List Char) : words (cs ++ ['_']) = words cs := by
  rw [words_eq_filter_splitOnP, List.splitOnP_append_cons cs [] (by decide), List.filter_append,
    ← words_eq_filter_splitOnP]
  simp

theorem words_strip (cs : List Char) : words (stripUnderscores cs) = words cs := by
  have hfront : words (cs.dropWhile (· == '_')) = words cs := by
    induction cs with
    | nil => rfl
    | cons c cs ih =>
      rw [List.dropWhile_cons]
      split
      · rename_i hc
        rw [ih, eq_of_beq hc, words_cons_of_not isWordChar_underscore]
      · rfl
  have hback (cs : List Char) : words (cs.rdropWhile (· == '_')) = words cs := by
    induction cs using List.reverseRecOn with
    | nil => rfl
    | append_singleton cs c ih =>
      rw [List.rdropWhile_concat]
      split
      · rename_i hc
        rw [ih, eq_of_beq hc, words_concat_underscore]
      · rfl
  rw [stripUnderscores_eq, hback, hfront]

/-! ## Joined words -/

/-- Words with one underscore between two of them. -/
structure Joined (cs : List Char) : Prop where
  chars : ∀ c ∈ cs, isWordChar c = true ∨ c = '_'
  front : cs.head? ≠ some '_'
  back : cs.getLast? ≠ some '_'
  single : cs.IsChain fun c d => c ≠ '_' ∨ d ≠ '_'

/-- The passes leave joined words. -/
theorem joined_strip (h : ∀ c ∈ cs, isWordChar c = true ∨ c = '_') :
    Joined (stripUnderscores (collapse cs)) where
  chars c hc := h c (collapse_subset cs ((part_strip _).subset hc))
  front := head?_strip _
  back := getLast?_strip _
  single := isChain_of_part (isChain_collapse cs) (part_strip _)

/-- Joined words are known by the words. -/
theorem Joined.intercalate_words : {cs : List Char} → Joined cs →
    ['_'].intercalate (words cs) = cs
  | [], _ => rfl
  | [c], h => by
    have hc : isWordChar c = true := (h.chars c (by simp)).resolve_right (by simpa using h.front)
    rw [words_singleton hc, List.intercalate_singleton]
  | c :: d :: cs, h => by
    have hc : isWordChar c = true := (h.chars c (by simp)).resolve_right (by simpa using h.front)
    have hchain := List.isChain_cons.1 (List.isChain_cons.1 h.single).2
    rcases h.chars d (by simp) with hd | rfl
    · -- The word goes on.
      have htail : Joined (d :: cs) := by
        refine ⟨fun e he => h.chars e (.tail c he), ?_, ?_, h.single.tail⟩
        · rintro heq
          cases heq
          simp [isWordChar_underscore] at hd
        · simpa using h.back
      obtain ⟨w, ws, hw⟩ := List.exists_cons_of_ne_nil (words_ne_nil hd)
      have ih := htail.intercalate_words
      rw [words_cons_of_inside hc hd]
      rw [hw] at ih ⊢
      rw [List.modifyHead_cons, List.intercalate_cons_cons_left, ih]
    · -- The word ends, and another one begins behind the underscore.
      have htail : Joined cs := by
        refine ⟨fun e he => h.chars e (.tail c (.tail '_' he)), ?_, ?_, hchain.2⟩
        · intro heq
          rcases hchain.1 '_' heq with h | h <;> exact h rfl
        · intro heq
          cases cs with
          | nil => cases heq
          | cons e cs => exact h.back (by simpa using heq)
      have hne : words cs ≠ [] := by
        cases cs with
        | nil => exact absurd rfl h.back
        | cons e cs =>
          refine words_ne_nil ((htail.chars e (by simp)).resolve_right fun he => ?_)
          exact htail.front (by simp [he])
      rw [words_cons_of_end hc isWordChar_underscore, words_cons_of_not isWordChar_underscore,
        List.intercalate_cons_of_ne_nil hne, htail.intercalate_words]
      rfl

/-- What the passes make is the words, joined. -/
theorem strip_collapse (h : ∀ c ∈ cs, isWordChar c = true ∨ c = '_') :
    stripUnderscores (collapse cs) = ['_'].intercalate (words cs) := by
  rw [← (joined_strip h).intercalate_words, words_strip, words_collapse]

/-! ## Slugs -/

/-- Small letters and digits, with one underscore between two runs of them. -/
structure IsSlug (s : String) : Prop where
  ne_empty : s ≠ ""
  chars : ∀ c ∈ s.toList, ('a' ≤ c ∧ c ≤ 'z') ∨ ('0' ≤ c ∧ c ≤ '9') ∨ c = '_'
  front : s.toList.head? ≠ some '_'
  back : s.toList.getLast? ≠ some '_'
  single : ¬ ['_', '_'] <:+: s.toList

/-- The slug of a name is its words in small letters, joined by underscores, or stands in for them
if there are none. It is its own slug. -/
structure Slugs (name s : String) : Prop where
  joined : s = if words name.toList = [] then "workflow"
    else "_".intercalate ((words name.toList).map fun w => lower (String.ofList w))
  isSlug : IsSlug s
  again : slug s = s

/-- The characters of a slug, unless there are none. -/
def slugChars (cs : List Char) : List Char :=
  ['_'].intercalate ((words cs).map (·.map Char.toLower))

theorem strip_collapse_map (cs : List Char) :
    stripUnderscores (collapse (cs.map slugChar)) = slugChars cs := by
  rw [strip_collapse (by simp [slugChar_or]), words_map_slugChar, slugChars]

theorem mem_slugChars (h : c ∈ slugChars cs) : ∃ d, c = slugChar d := by
  rw [← strip_collapse_map] at h
  obtain ⟨d, -, hd⟩ := List.mem_map.1 (collapse_subset _ ((part_strip _).subset h))
  exact ⟨d, hd.symm⟩

theorem joined_slugChars (cs : List Char) : Joined (slugChars cs) := by
  rw [← strip_collapse_map]
  exact joined_strip (by simp [slugChar_or])

theorem slugChars_slugChars (cs : List Char) : slugChars (slugChars cs) = slugChars cs := by
  have hkept : (slugChars cs).map slugChar = slugChars cs := by
    refine List.map_congr_left (fun c hc => ?_) |>.trans (List.map_id _)
    obtain ⟨d, rfl⟩ := mem_slugChars hc
    exact slugChar_slugChar d
  calc slugChars (slugChars cs)
      = stripUnderscores (collapse ((slugChars cs).map slugChar)) := (strip_collapse_map _).symm
    _ = ['_'].intercalate (words (slugChars cs)) := by
      rw [hkept, strip_collapse (joined_slugChars cs).chars]
    _ = slugChars cs := (joined_slugChars cs).intercalate_words

theorem words_slugChars (cs : List Char) :
    words (slugChars cs) = (words cs).map (·.map Char.toLower) := by
  rw [← strip_collapse_map, words_strip, words_collapse, words_map_slugChar]

theorem slugChars_eq_nil_iff : slugChars cs = [] ↔ words cs = [] := by
  constructor
  · intro h
    have hwords := words_slugChars cs
    rw [h] at hwords
    exact List.map_eq_nil_iff.1 hwords.symm
  · intro h
    rw [slugChars, h]
    rfl

theorem slug_eq (name : String) : slug name =
    if slugChars name.toList = [] then "workflow" else String.ofList (slugChars name.toList) := by
  rw [slug, strip_collapse_map]
  split
  · rename_i h
    rw [if_pos h]
  · rename_i h
    rw [if_neg h]

theorem isSlug_slugChars (h : slugChars cs ≠ []) : IsSlug (String.ofList (slugChars cs)) := by
  have hjoined := joined_slugChars cs
  constructor
  · simpa using h
  · rw [String.toList_ofList]
    intro c hc
    obtain ⟨d, rfl⟩ := mem_slugChars hc
    exact slugChar_range d
  · simpa using hjoined.front
  · simpa using hjoined.back
  · rw [String.toList_ofList]
    intro hinfix
    have htwo := isChain_of_part hjoined.single hinfix
    simp at htwo

theorem slug_slugChars (h : slugChars cs ≠ []) :
    slug (String.ofList (slugChars cs)) = String.ofList (slugChars cs) := by
  rw [slug_eq, String.toList_ofList, slugChars_slugChars, if_neg h]

/-- The word that stands in for a name without any is a slug as well. -/
theorem slugChars_workflow : String.ofList (slugChars "workflow".toList) = "workflow" := by
  decide +kernel

theorem slugs_slug (name : String) : Slugs name (slug name) := by
  by_cases h : slugChars name.toList = []
  · have hslug : slug name = "workflow" := by rw [slug_eq, if_pos h]
    have hne : slugChars "workflow".toList ≠ [] :=
      slugChars_eq_nil_iff.not.2 (words_ne_nil (by decide))
    refine ⟨?_, ?_, ?_⟩
    · rw [hslug, if_pos (slugChars_eq_nil_iff.1 h)]
    · rw [hslug, ← slugChars_workflow]
      exact isSlug_slugChars hne
    · rw [hslug, ← slugChars_workflow]
      exact slug_slugChars hne
  · have hslug : slug name = String.ofList (slugChars name.toList) := by rw [slug_eq, if_neg h]
    rw [hslug]
    refine ⟨?_, isSlug_slugChars h, slug_slugChars h⟩
    rw [if_neg (mt slugChars_eq_nil_iff.2 h), ← String.toList_inj, String.toList_intercalate,
      String.toList_ofList, slugChars]
    simp [lower, Function.comp_def]

example : slug "  Nightly Sales -> Lake " = "nightly_sales_lake" := by decide +kernel

end Text

/-! ## Ids -/

/-- The id of a DAG says something, whatever the options are. One that is not given is made of the
slug of the name: of its runs of letters and digits, in small letters and joined by underscores. -/
theorem PlanOptions.dagId_canonical :
    (∀ cs, Text.words cs = (cs.splitOnP (!Text.isWordChar ·)).filter (!·.isEmpty)) ∧
      (∀ name, Text.Slugs name (Text.slug name)) ∧
      ∀ o : PlanOptions, Text.isBlank o.dagId = false ∧
        o.dagId = (o.explicitDagId.filter (!Text.isBlank ·)).getD ("dag_" ++ Text.slug o.name) := by
  refine ⟨Text.words_eq_filter_splitOnP, Text.slugs_slug, fun o => ⟨o.hasContent_dagId, ?_⟩⟩
  rw [dagId]
  cases o.explicitDagId.filter (!Text.isBlank ·) <;> rfl

end DataPipeline
