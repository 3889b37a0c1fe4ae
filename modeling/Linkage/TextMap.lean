/-! Finite maps from texts to texts, in ascending order of their keys. -/

namespace Linkage

structure TextMap where
  entries : List (String × String)
  ascending : entries.Pairwise (·.1 < ·.1)
  deriving DecidableEq, Repr

namespace TextMap

def empty : TextMap :=
  ⟨[], .nil⟩

instance : EmptyCollection TextMap := ⟨empty⟩

instance : Inhabited TextMap := ⟨empty⟩

/-- Binds a key in an ascending list, in place of what it was bound to. -/
def insertEntry (key value : String) : List (String × String) → List (String × String)
  | [] => [(key, value)]
  | (other, held) :: rest =>
    if key < other then (key, value) :: (other, held) :: rest
    else if key = other then (key, value) :: rest
    else (other, held) :: insertEntry key value rest

theorem key_of_mem_insertEntry {key value : String} {entries : List (String × String)} {entry : String × String}
    (member : entry ∈ insertEntry key value entries) : entry.1 = key ∨ entry ∈ entries := by
  induction entries with
  | nil => simp_all [insertEntry]
  | cons first rest ih =>
    unfold insertEntry at member
    split at member
    · rcases List.mem_cons.mp member with rfl | held
      · exact .inl rfl
      · exact .inr held
    · split at member
      · rcases List.mem_cons.mp member with rfl | held
        · exact .inl rfl
        · exact .inr (List.mem_cons_of_mem _ held)
      · rcases List.mem_cons.mp member with rfl | held
        · exact .inr (List.mem_cons_self ..)
        · exact (ih held).imp_right (List.mem_cons_of_mem _)

theorem insertEntry_ascending {key value : String} {entries : List (String × String)}
    (ascending : entries.Pairwise (·.1 < ·.1)) : (insertEntry key value entries).Pairwise (·.1 < ·.1) := by
  induction entries with
  | nil => simp [insertEntry]
  | cons first rest ih =>
    obtain ⟨above, sorted⟩ := List.pairwise_cons.mp ascending
    unfold insertEntry
    split
    · rename_i below
      refine List.pairwise_cons.mpr ⟨fun entry member => ?_, ascending⟩
      rcases List.mem_cons.mp member with rfl | held
      · exact below
      · exact String.lt_trans below (above entry held)
    · rename_i notBelow
      split
      · rename_i same
        exact List.pairwise_cons.mpr ⟨fun entry held => same ▸ above entry held, sorted⟩
      · rename_i different
        refine List.pairwise_cons.mpr ⟨fun entry member => ?_, ih sorted⟩
        rcases key_of_mem_insertEntry member with same | held
        · rw [same]
          exact Classical.byContradiction fun notAbove =>
            different (String.le_antisymm (String.not_lt.mp notAbove) (String.not_lt.mp notBelow))
        · exact above entry held

def insert (key value : String) (map : TextMap) : TextMap :=
  ⟨insertEntry key value map.entries, insertEntry_ascending map.ascending⟩

def ofList (entries : List (String × String)) : TextMap :=
  entries.foldl (fun map entry => map.insert entry.1 entry.2) ∅

def isEmpty (map : TextMap) : Bool :=
  map.entries.isEmpty

end TextMap
end Linkage
