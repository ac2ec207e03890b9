/-!
# Dictionaries with sorted keys

Finite maps from texts, kept as a list of entries whose keys rise strictly. The order of keys is the
order of their code points. Two dictionaries with the same look-ups are equal.

## Main definitions

* `Dict`: the dictionaries; `find?`, `insert`, `ofList`, `overlay`
* `KeySet`: dictionaries without values, the sets of texts
-/
namespace DataPipeline

/-- A finite map from texts. -/
structure Dict (α : Type) where
  entries : List (String × α)
  sorted : entries.Pairwise (fun a b => a.1 < b.1)

namespace Dict

variable {α : Type}

/-! ## Lists of entries -/

/-- The value at the first entry with the key `k`. -/
def lookup (k : String) : List (String × α) → Option α
  | [] => none
  | (k', v) :: es => if k = k' then some v else lookup k es

/-- Puts an entry at its place among sorted ones, replacing the one with the same key. -/
def insertEntry (k : String) (v : α) : List (String × α) → List (String × α)
  | [] => [(k, v)]
  | (k', v') :: es =>
    if k < k' then (k, v) :: (k', v') :: es
    else if k = k' then (k, v) :: es
    else (k', v') :: insertEntry k v es

theorem mem_insertEntry {k : String} {v : α} {e : String × α} {es : List (String × α)}
    (h : e ∈ insertEntry k v es) : e = (k, v) ∨ e ∈ es := by
  induction es with
  | nil => simpa [insertEntry] using h
  | cons d es ih => grind [insertEntry]

theorem sorted_insertEntry (k : String) (v : α) {es : List (String × α)}
    (h : es.Pairwise (fun a b => a.1 < b.1)) :
    (insertEntry k v es).Pairwise (fun a b => a.1 < b.1) := by
  induction es with
  | nil => simp [insertEntry]
  | cons d es ih =>
    obtain ⟨k', v'⟩ := d
    have hd := List.pairwise_cons.1 h
    rw [insertEntry]
    split
    · rename_i hk
      refine List.pairwise_cons.2 ⟨fun a ha => ?_, h⟩
      rcases List.mem_cons.1 ha with rfl | ha
      · exact hk
      · exact String.lt_trans hk (hd.1 a ha)
    · rename_i hk
      split
      · rename_i he
        subst he
        exact List.pairwise_cons.2 ⟨hd.1, hd.2⟩
      · rename_i he
        refine List.pairwise_cons.2 ⟨fun a ha => ?_, ih hd.2⟩
        rcases mem_insertEntry ha with rfl | ha
        · exact Std.lt_of_le_of_ne (String.not_lt.1 hk) (Ne.symm he)
        · exact hd.1 a ha

/-! ## Dictionaries -/

def empty : Dict α := ⟨[], .nil⟩

instance : Inhabited (Dict α) := ⟨empty⟩

def isEmpty (d : Dict α) : Bool := d.entries.isEmpty

def find? (d : Dict α) (k : String) : Option α := lookup k d.entries

def contains (d : Dict α) (k : String) : Bool := (d.find? k).isSome

/-- Sets the value at `k`. -/
def insert (d : Dict α) (k : String) (v : α) : Dict α :=
  ⟨insertEntry k v d.entries, sorted_insertEntry k v d.sorted⟩

/-- Sets the value at `k` unless there is one. -/
def insertNew (d : Dict α) (k : String) (v : α) : Dict α :=
  if d.contains k then d else d.insert k v

/-- Enters a list of entries one after the other: of equal keys the last wins. -/
def overlayList (d : Dict α) (es : List (String × α)) : Dict α :=
  es.foldl (fun d e => d.insert e.1 e.2) d

/-- Enters the entries of `e`, which win over those of `d`. -/
def overlay (d e : Dict α) : Dict α := d.overlayList e.entries

def ofList (es : List (String × α)) : Dict α := empty.overlayList es

def keys (d : Dict α) : List String := d.entries.map (·.1)

instance [DecidableEq α] : DecidableEq (Dict α) := fun d e =>
  if h : d.entries = e.entries then isTrue (by cases d; cases e; simp_all)
  else isFalse fun hde => h (hde ▸ rfl)

end Dict

/-! ## Sets of texts -/

/-- A finite set of texts. -/
abbrev KeySet := Dict Unit

namespace KeySet

def ofList (ks : List String) : KeySet := Dict.ofList (ks.map (·, ()))

/-- The set with the texts `ks` added. -/
def addAll (s : KeySet) (ks : List String) : KeySet := s.overlayList (ks.map (·, ()))

/-- The members in order. -/
def toList (s : KeySet) : List String := s.keys

end KeySet

end DataPipeline
