import Mathlib.Data.List.Perm.Basic

namespace ScriptAudit

structure Table (κ ν : Type) where
  find? : κ → Option ν

namespace Table

variable {κ ν : Type} {table : Table κ ν} {entries others : List (κ × ν)}

def empty : Table κ ν := ⟨fun _ => none⟩

def update [DecidableEq κ] (table : Table κ ν) (key : κ) (first : ν) (change : ν → ν) : Table κ ν :=
  ⟨fun other => if other = key then some (change ((table.find? key).getD first)) else table.find? other⟩

structure Lists (table : Table κ ν) (entries : List (κ × ν)) : Prop where
  complete : ∀ key value, (key, value) ∈ entries ↔ table.find? key = some value
  once : entries.Nodup

theorem Lists.iff_perm (listed : table.Lists entries) : table.Lists others ↔ others.Perm entries := by
  constructor
  · intro again
    rw [List.perm_ext_iff_of_nodup again.once listed.once]
    rintro ⟨key, value⟩
    rw [again.complete, listed.complete]
  · intro same
    refine ⟨?_, same.nodup_iff.mpr listed.once⟩
    intro key value
    rw [same.mem_iff, listed.complete]

end Table

end ScriptAudit
