import DataPipeline.Text.Basic
import Mathlib.Data.List.DropRight

/-!
# Laws of blank text

A field has content or is missing. Trimming a trimmed text changes nothing. A text that is not blank
is still not blank when it is trimmed, put in small letters or made longer. The content of a field
is its own content, also in small letters.

## Main definitions

* `Text.IsContent`: a text that is its own content
-/
namespace DataPipeline.Text

variable {o : Option String} {s : String}

theorem isNone_content (o : Option String) : (content o).isNone = isMissing o := by
  cases o with
  | none => rfl
  | some s => by_cases h : isBlank s <;> simp [content, isMissing, h]

theorem content_eq_none_iff : content o = none ↔ isMissing o = true := by
  rw [← isNone_content, Option.isNone_iff_eq_none]

theorem eq_trim_of_content (h : content o = some s) : ∃ t, o = some t ∧ trim t = s := by
  cases o with
  | none => cases h
  | some t =>
    rw [content] at h
    split at h
    · cases h
    · exact ⟨t, rfl, Option.some.inj h⟩

theorem isMissing_of_content (h : content o = some s) : isMissing o = false := by
  rw [← isNone_content, h, Option.isNone_some]

theorem trim_eq_empty (h : isBlank s = true) : trim s = "" := by
  have hchars : s.toList.dropWhile isSpace = [] :=
    List.dropWhile_eq_nil_iff.2 (List.all_eq_true.1 h)
  rw [trim, trimChars, hchars]
  rfl

theorem trimChars_eq (cs : List Char) : trimChars cs = (cs.dropWhile isSpace).rdropWhile isSpace :=
  rfl

/-- Nothing is left in front of what is trimmed behind. -/
theorem dropWhile_rdropWhile_eq_self {p : Char → Bool} {cs : List Char}
    (h : cs.dropWhile p = cs) : (cs.rdropWhile p).dropWhile p = cs.rdropWhile p := by
  rw [List.dropWhile_eq_self_iff] at h ⊢
  intro hpos
  rw [(List.rdropWhile_prefix p cs).getElem hpos]
  exact h (hpos.trans_le (List.rdropWhile_prefix p cs).length_le)

theorem trim_trim (s : String) : trim (trim s) = trim s := by
  have hfront := dropWhile_rdropWhile_eq_self (List.dropWhile_idempotent isSpace s.toList)
  have hchars : trimChars (trimChars s.toList) = trimChars s.toList := by
    rw [trimChars_eq, trimChars_eq, hfront, List.rdropWhile_idempotent]
  rw [trim, trim, String.toList_ofList, hchars]

/-! ## What stays when white space goes -/

theorem mem_dropWhile_of_not {p : Char → Bool} {cs : List Char} {c : Char} (hc : c ∈ cs)
    (hp : p c = false) : c ∈ cs.dropWhile p := by
  rw [← List.takeWhile_append_dropWhile (p := p) (l := cs), List.mem_append] at hc
  rcases hc with hc | hc
  · exact absurd (List.mem_takeWhile_imp hc) (by simp [hp])
  · exact hc

/-- Trimming removes nothing but white space. -/
theorem mem_trimChars_iff {cs : List Char} {c : Char} (hc : isSpace c = false) :
    c ∈ trimChars cs ↔ c ∈ cs := by
  constructor
  · intro h
    rw [trimChars_eq] at h
    exact (List.dropWhile_suffix _).subset ((List.rdropWhile_prefix _ _).subset h)
  · intro h
    have hfront := mem_dropWhile_of_not h hc
    simpa [trimChars] using mem_dropWhile_of_not (List.mem_reverse.2 hfront) hc

theorem isBlank_eq_false_iff : isBlank s = false ↔ ∃ c ∈ s.toList, isSpace c = false := by
  simp [isBlank]

theorem isBlank_of_content (h : content o = some s) : isBlank s = false := by
  obtain ⟨t, rfl, rfl⟩ := eq_trim_of_content h
  have hgiven : isBlank t = false := by simpa [isMissing] using isMissing_of_content h
  obtain ⟨c, hc, hspace⟩ := isBlank_eq_false_iff.1 hgiven
  refine isBlank_eq_false_iff.2 ⟨c, ?_, hspace⟩
  rw [trim, String.toList_ofList]
  exact (mem_trimChars_iff hspace).2 hc

theorem isBlank_trim (s : String) : isBlank (trim s) = isBlank s := by
  cases h : isBlank s with
  | true =>
    rw [trim_eq_empty h]
    rfl
  | false =>
    have hcontent : content (some s) = some (trim s) := by simp [content, h]
    exact isBlank_of_content hcontent

@[simp] theorem isBlank_append (s t : String) : isBlank (s ++ t) = (isBlank s && isBlank t) := by
  simp [isBlank]

/-! ## Small letters -/

theorem isSpace_of_visible {c : Char} (hlo : 0x20 < c.toNat) (hhi : c.toNat < 0x80) :
    isSpace c = false := by
  simp only [isSpace, Bool.or_eq_false_iff, Bool.and_eq_false_iff, decide_eq_false_iff_not,
    beq_eq_false_iff_ne]
  omega

/-- A capital and its small letter. -/
theorem toNat_toLower {c : Char} (h : c.val ≥ 'A'.val ∧ c.val ≤ 'Z'.val) :
    65 ≤ c.toNat ∧ c.toNat ≤ 90 ∧ c.toLower.toNat = c.toNat + 32 := by
  have hc : 65 ≤ c.toNat ∧ c.toNat ≤ 90 := by simpa [UInt32.le_iff_toNat_le] using h
  have hval : c.toLower.val = c.val + 32 := congrArg Char.val (dif_pos h)
  refine ⟨hc.1, hc.2, ?_⟩
  rw [Char.toNat, hval, UInt32.toNat_add, Nat.mod_eq_of_lt]
  · rfl
  · simp
    omega

/-- No letter of either case is white space. -/
theorem isSpace_toLower (c : Char) : isSpace c.toLower = isSpace c := by
  by_cases h : c.val ≥ 'A'.val ∧ c.val ≤ 'Z'.val
  · obtain ⟨hlo, hhi, hlower⟩ := toNat_toLower h
    rw [isSpace_of_visible (c := c) (by omega) (by omega)]
    exact isSpace_of_visible (by omega) (by omega)
  · have hsame : c.toLower = c := dif_neg h
    rw [hsame]

/-- A small letter is not a capital. -/
theorem toLower_toLower (c : Char) : c.toLower.toLower = c.toLower := by
  by_cases h : c.val ≥ 'A'.val ∧ c.val ≤ 'Z'.val
  · obtain ⟨hlo, hhi, hlower⟩ := toNat_toLower h
    refine dif_neg fun hcapital => ?_
    have hbound := (toNat_toLower hcapital).2.1
    omega
  · have hsame : c.toLower = c := dif_neg h
    rw [hsame, hsame]

@[simp] theorem isBlank_lower (s : String) : isBlank (lower s) = isBlank s := by
  simp [isBlank, lower, List.all_map, Function.comp_def, isSpace_toLower]

theorem lower_lower (s : String) : lower (lower s) = lower s := by
  have hsmall : Char.toLower ∘ Char.toLower = Char.toLower := funext toLower_toLower
  simp only [lower, String.toList_ofList, List.map_map, hsmall]

theorem trim_lower (s : String) : trim (lower s) = lower (trim s) := by
  have hspace : isSpace ∘ Char.toLower = isSpace := funext isSpace_toLower
  simp [trim, lower, trimChars, List.dropWhile_map, ← List.map_reverse, hspace]

/-- Of a keyword nothing is left exactly if it is blank. -/
theorem isEmpty_lower_trim (s : String) : (lower (trim s)).isEmpty = isBlank s := by
  have hblank : isBlank (lower (trim s)) = isBlank s := by rw [isBlank_lower, isBlank_trim]
  cases h : isBlank s with
  | true =>
    rw [trim_eq_empty h]
    rfl
  | false =>
    refine Bool.eq_false_iff.2 fun hempty => ?_
    rw [String.isEmpty_iff.1 hempty, h] at hblank
    cases hblank

/-! ## Texts that are their own content -/

/-- There is something in the text, and no white space around it. -/
def IsContent (s : String) : Prop := content (some s) = some s

theorem isContent_iff : IsContent s ↔ isBlank s = false ∧ trim s = s := by
  cases h : isBlank s <;> simp [IsContent, content, h]

theorem isContent_of_content (h : content o = some s) : IsContent s := by
  obtain ⟨t, -, rfl⟩ := eq_trim_of_content h
  exact isContent_iff.2 ⟨isBlank_of_content h, trim_trim t⟩

theorem IsContent.lower (h : IsContent s) : IsContent (lower s) := by
  obtain ⟨hblank, htrim⟩ := isContent_iff.1 h
  exact isContent_iff.2 ⟨(isBlank_lower s).trans hblank, by rw [trim_lower, htrim]⟩

/-- Between two characters that are no white space nothing is trimmed. -/
theorem trimChars_eq_self {c d : Char} (hc : isSpace c = false) (hd : isSpace d = false)
    (cs : List Char) : trimChars (c :: (cs ++ [d])) = c :: (cs ++ [d]) := by
  have hreverse : (c :: (cs ++ [d])).reverse = d :: (cs.reverse ++ [c]) := by simp
  rw [trimChars, List.dropWhile_cons_of_neg (by simp [hc]), hreverse,
    List.dropWhile_cons_of_neg (by simp [hd]), ← hreverse, List.reverse_reverse]

/-! ## Fields that agree -/

@[simp] theorem content_content (o : Option String) : content (content o) = content o := by
  cases h : content o with
  | none => rfl
  | some s => exact isContent_of_content h

@[simp] theorem isMissing_content (o : Option String) : isMissing (content o) = isMissing o := by
  rw [← isNone_content, content_content, isNone_content]

theorem content_eq_filter (o : Option String) :
    content o = (some (trim (o.getD ""))).filter (!isBlank ·) := by
  cases o with
  | none => decide
  | some s =>
    cases h : isBlank s <;> simp [content, isBlank_trim, h, Option.filter]

theorem getD_content (o : Option String) : (content o).getD "" = trim (o.getD "") := by
  cases o with
  | none => decide
  | some s => cases h : isBlank s <;> simp [content, h, trim_eq_empty]

/-- Fields have the same content exactly if the same is left of them when they are trimmed, where an
absent field counts as empty. -/
theorem content_eq_content_iff {o o' : Option String} :
    content o = content o' ↔ trim (o.getD "") = trim (o'.getD "") := by
  constructor
  · intro h
    rw [← getD_content, ← getD_content, h]
  · intro h
    rw [content_eq_filter, h, ← content_eq_filter]

end DataPipeline.Text
