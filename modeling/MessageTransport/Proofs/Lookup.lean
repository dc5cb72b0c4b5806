import Std.Data.TreeMap

set_option autoImplicit false

namespace MessageTransport

theorem mem_keys_iff {Key Value : Type} [Ord Key] [Std.TransOrd Key] [Std.LawfulEqOrd Key]
    {m : Std.TreeMap Key Value} {key : Key} : key ∈ m.keys ↔ ∃ value, m[key]? = some value := by
  rw [Std.TreeMap.mem_keys, Std.TreeMap.mem_iff_isSome_getElem?, Option.isSome_iff_exists]

theorem nodup_toList {Key Value : Type} [Ord Key] [Std.TransOrd Key] [Std.LawfulEqOrd Key]
    (m : Std.TreeMap Key Value) : m.toList.Nodup := by
  have once : (m.toList.map Prod.fst).Nodup := by
    rw [Std.TreeMap.map_fst_toList_eq_keys]
    exact Std.TreeMap.nodup_keys
  exact (List.pairwise_map.mp once).imp (fun apart same => apart (congrArg Prod.fst same))

variable {Key Value : Type} [Ord Key] [Std.TransOrd Key] [Std.LawfulEqOrd Key] [DecidableEq Key]

theorem getElem?_inserted (m : Std.TreeMap Key Value) (key other : Key) (value : Value) :
    (m.insert key value)[other]? = if key = other then some value else m[other]? := by
  rw [Std.TreeMap.getElem?_insert]
  simp only [Std.LawfulEqCmp.compare_eq_iff_eq]

theorem getElem?_erased (m : Std.TreeMap Key Value) (key other : Key) :
    (m.erase key)[other]? = if key = other then none else m[other]? := by
  rw [Std.TreeMap.getElem?_erase]
  simp only [Std.LawfulEqCmp.compare_eq_iff_eq]

end MessageTransport
