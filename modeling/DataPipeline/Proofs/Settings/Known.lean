import DataPipeline.Proofs.Settings.Forms
import DataPipeline.Validation.Node

/-!
# What settings know

The keys that settings keep without knowing them can be exchanged for others. Looking into the
document of the settings for a key that their kind knows, one does not notice: the fields of the
record are found as before, as long as the further keys leave this one alone.

## Main definitions

* `Settings.withExtra`: the settings with other further keys
* `Settings.known`: the settings without further keys
* `Settings.Alike`: settings that agree in all that their kind knows

## Main results

* `Settings.Alike.member_toJson`: their documents have the same value under a key of their kind
-/
namespace DataPipeline

/-! ## Open records -/

section Open

variable {ρ : Type} {l : Layout ρ (Dict Json → ρ)} {extra : ρ → Dict Json} {name key : String}
  {r r' : ρ}

/-- Records with the same fields and the same further member under a key are written with the same
value under it. -/
theorem Layout.member_sorted_congr (hfields : l.toMembers r' = l.toMembers r)
    (hextra : (extra r').find? key = (extra r).find? key) :
    ((Codec.openRecord name l extra).toJson r').sorted.member key =
      ((Codec.openRecord name l extra).toJson r).sorted.member key := by
  rw [member_sorted_openRecord, member_sorted_openRecord, hfields, hextra]

end Open

namespace Settings

variable {s s' : Settings} {d d' : Dict Json} {key : String}

/-! ## Other further keys -/

/-- The settings with other further keys. -/
def withExtra (d : Dict Json) : Settings → Settings
  | start s => start { s with extra := d }
  | finish s => finish { s with extra := d }
  | readFile s => readFile { s with extra := d }
  | writeFile s => writeFile { s with extra := d }
  | copyFile s => copyFile { s with extra := d }
  | renameFile s => renameFile { s with extra := d }
  | deleteFile s => deleteFile { s with extra := d }
  | inlineInput s => inlineInput { s with extra := d }
  | inlineOutput s => inlineOutput { s with extra := d }
  | database s => database { s with extra := d }
  | salesforceRead s => salesforceRead { s with extra := d }
  | salesforceWrite s => salesforceWrite { s with extra := d }
  | filter s => filter { s with extra := d }
  | scheduler s => scheduler { s with extra := d }
  | code s => code { s with extra := d }

@[simp] theorem withExtra_withExtra (s : Settings) (d d' : Dict Json) :
    (s.withExtra d).withExtra d' = s.withExtra d' := by
  cases s <;> rfl

@[simp] theorem withExtra_extra (s : Settings) : s.withExtra s.extra = s := by
  cases s <;> rfl

@[simp] theorem extra_withExtra (s : Settings) (d : Dict Json) : (s.withExtra d).extra = d := by
  cases s <;> rfl

@[simp] theorem kind_withExtra (s : Settings) (d : Dict Json) : (s.withExtra d).kind = s.kind := by
  cases s <;> rfl

@[simp] theorem needs_withExtra (s : Settings) (d : Dict Json) :
    (s.withExtra d).needs = s.needs := by
  cases s <;> rfl

theorem apart_withExtra (h : ∀ m ∈ d.entries, m.1 ∉ s.kind.keys) : (s.withExtra d).Apart := by
  simpa [Apart] using h

/-- Further keys hide no other key. -/
theorem member_toJson_withExtra (h : d.find? key = s.extra.find? key) :
    (s.withExtra d).toJson.member key = s.toJson.member key := by
  cases s <;> exact Layout.member_sorted_congr rfl h

/-! ## Settings that agree -/

/-- What the kind of the settings knows of them. -/
def known (s : Settings) : Settings := s.withExtra Dict.empty

/-- The settings agree in kind and fields. What else they keep may differ; only keys that their kind
knows must not be among it, unless both keep them. -/
structure Alike (s s' : Settings) : Prop where
  known : s.known = s'.known
  extra : ∀ key ∈ s.kind.keys, s.extra.find? key = s'.extra.find? key

namespace Alike

theorem eq_withExtra (h : s.Alike s') : s' = s.withExtra s'.extra :=
  calc s' = s'.known.withExtra s'.extra := by simp [Settings.known]
    _ = s.known.withExtra s'.extra := by rw [h.known]
    _ = s.withExtra s'.extra := withExtra_withExtra s Dict.empty s'.extra

theorem of_apart (h : s.Apart) (h' : s'.Apart) (hknown : s.known = s'.known) : s.Alike s' := by
  have hkind : s.kind = s'.kind := by simpa [Settings.known] using congrArg kind hknown
  refine ⟨hknown, fun key hkey => ?_⟩
  have hs : s.extra.find? key = none :=
    Dict.lookup_eq_none_iff.2 fun m hm heq => h m hm (heq ▸ hkey)
  have hs' : s'.extra.find? key = none :=
    Dict.lookup_eq_none_iff.2 fun m hm heq => h' m hm (hkind ▸ heq ▸ hkey)
  rw [hs, hs']

theorem kind_eq (h : s.Alike s') : s'.kind = s.kind := by
  rw [h.eq_withExtra, kind_withExtra]

theorem needs_eq (h : s.Alike s') : s'.needs = s.needs := by
  rw [h.eq_withExtra, needs_withExtra]

theorem member_toJson (h : s.Alike s') (hkey : key ∈ s.kind.keys) :
    s'.toJson.member key = s.toJson.member key := by
  rw [h.eq_withExtra]
  exact member_toJson_withExtra (h.extra key hkey).symm

end Alike

end Settings

end DataPipeline
