import EntityGen.Proofs.Disk.LinkFree
import EntityGen.Proofs.Disk.Order

/-! A disk without some of its places. -/

namespace EntityGen.Disk

/-- How much the file at a place holds; nothing where no file is. -/
def sizeAt (d : Disk) (l : Place) : Nat := ((d.file? l).map ByteArray.size).getD 0

variable {d : Disk} {gone gone' : Place → Bool} {l m : Place}

@[simp] theorem without_false (d : Disk) : d.without (fun _ => false) = d := by
  simp [without, List.filter_eq_self.2]

theorem without_erase (d : Disk) (gone : Place → Bool) (l : Place) :
    (d.without gone).erase l = d.without fun m => decide (m = l) || gone m := by
  simp [without, erase, List.filter_filter]

theorem without_without (d : Disk) (gone gone' : Place → Bool) :
    (d.without gone).without gone' = d.without fun m => gone m || gone' m := by
  simp [without, List.filter_filter, Bool.and_comm]

theorem without_congr (h : ∀ l ∈ d.entries.map (·.1), gone l = gone' l) : d.without gone = d.without gone' := by
  unfold without
  congr 1
  apply List.filter_congr
  intro e he
  rw [h e.1 (List.mem_map_of_mem he)]

theorem placesBelow_without (d : Disk) (gone : Place → Bool) (l : Place) :
    (d.without gone).placesBelow l = (d.placesBelow l).filter fun m => !gone m := by
  simp [placesBelow, without, List.filter_filter, List.filter_map, Function.comp_def, Bool.and_comm]

theorem Sound.nodup_placesBelow (h : d.Sound) (l : Place) : (d.placesBelow l).Nodup := h.distinct.filter _

theorem LinkFree.without (h : d.LinkFree) (gone : Place → Bool) : (d.without gone).LinkFree :=
  fun l t ht => h l t (get?_of_without ht)

theorem sizeAt_congr {d' : Disk} (h : d'.get? l = d.get? l) : d'.sizeAt l = d.sizeAt l := by
  simp [sizeAt, file?, h]

end EntityGen.Disk
