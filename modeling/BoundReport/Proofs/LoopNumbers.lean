import Mathlib.Data.List.Nodup
import BoundReport.Loop

/-!
# Numbers of Loops

Every extraction numbers the loops that it takes out from zero. Within one extraction a number
names one loop, and the loop is found under it. Over several extractions it does not: a document
may still hold a placeholder of an earlier extraction when its loops are taken out again, and the
placeholder is kept, but the loops that are taken out get the old numbers. In the new table the
kept placeholder is then that of another loop.

## Main results

* `exists_scan_numbers`: what reading on does to numbers and placeholders.
* `get?_extractLoops`: a loop is found under its place.
* `extractLoops_numbers`: over any number of extractions, numbers are used once just if at most
  one of them takes out a loop.
-/

namespace BoundReport

/-! ### One extraction -/

/-- **Reading on numbers loops in a row.** The loop that is being read comes first, and then loops
with the numbers from `next` on. The placeholders of these are the new ones. -/
theorem exists_scan_numbers (next : Nat) (current : Option Loop) (document : Document) :
    ∃ count,
      (Extraction.scan next current document).table.loops.map Loop.id =
        current.toList.map Loop.id ++ (List.range' next count).map LoopId.mk ∧
      (Extraction.scan next current document).document.placeholders.Perm
        (document.placeholders ++ (List.range' next count).map LoopId.mk) := by
  fun_induction Extraction.scan next current document with
  | case1 | case2 => exact ⟨0, rfl, .refl _⟩
  | case3 next current id rest ih =>
    obtain ⟨count, hids, hplaceholders⟩ := ih
    exact ⟨count, hids, hplaceholders.cons id⟩
  | case4 next line rest header hstart ih =>
    obtain ⟨count, hids, hplaceholders⟩ := ih
    refine ⟨count + 1, ?_, ?_⟩
    · rw [List.range'_succ]
      exact hids
    · rw [List.range'_succ]
      exact (hplaceholders.cons ⟨next⟩).trans List.perm_middle.symm
  | case5 next line rest hplain ih => exact ih
  | case6 next loop line rest hstop ih =>
    obtain ⟨count, hids, hplaceholders⟩ := ih
    exact ⟨count, congrArg (loop.id :: ·) hids, hplaceholders⟩
  | case7 next loop line rest hbody ih => exact ih

/-- The loops of a document have the numbers from zero on, in their order. -/
theorem map_id_extractLoops (document : Document) :
    (extractLoops document).table.loops.map Loop.id =
      (List.range (extractLoops document).table.loops.length).map LoopId.mk := by
  obtain ⟨count, hids, -⟩ := exists_scan_numbers 0 none document
  have hcount : (extractLoops document).table.loops.length = count := by
    have hlength := congrArg List.length hids
    rwa [List.length_map, Option.toList_none, List.map_nil, List.nil_append, List.length_map,
      List.length_range'] at hlength
  rw [hcount, List.range_eq_range']
  exact hids

/-- Extraction keeps the placeholders of a document and adds one for each loop. -/
theorem placeholders_extractLoops (document : Document) :
    (extractLoops document).document.placeholders.Perm
      (document.placeholders ++ (extractLoops document).table.loops.map Loop.id) := by
  obtain ⟨count, hids, hplaceholders⟩ := exists_scan_numbers 0 none document
  have hall : (extractLoops document).table.loops.map Loop.id = _ := hids
  rw [hall]
  exact hplaceholders

/-- The number of a loop is its place. -/
theorem id_getElem_extractLoops (document : Document) {i : Nat}
    (h : i < (extractLoops document).table.loops.length) :
    (extractLoops document).table.loops[i].id = ⟨i⟩ := by
  have hplace := congrArg (·[i]?) (map_id_extractLoops document)
  simpa [h] using hplace

/-- **A loop is found under its place.** -/
theorem get?_extractLoops (document : Document) (id : LoopId) :
    (extractLoops document).table.get? id = (extractLoops document).table.loops[id.index]? := by
  rw [LoopTable.get?]
  cases hloop : (extractLoops document).table.loops[id.index]? with
  | none =>
    refine List.find?_eq_none.2 fun loop hmem => ?_
    obtain ⟨j, hj, rfl⟩ := List.getElem_of_mem hmem
    have hbound := List.getElem?_eq_none_iff.1 hloop
    rw [id_getElem_extractLoops document hj, decide_eq_true_eq]
    rintro rfl
    exact Nat.not_lt.2 hbound hj
  | some loop =>
    obtain ⟨hbound, rfl⟩ := List.getElem?_eq_some_iff.1 hloop
    refine List.find?_eq_some_iff_getElem.2
      ⟨by simp [id_getElem_extractLoops], id.index, hbound, rfl, fun j hj => ?_⟩
    rw [id_getElem_extractLoops document (Nat.lt_trans hj hbound), Bool.not_eq_true',
      decide_eq_false_iff_not]
    rintro rfl
    exact Nat.lt_irrefl _ hj

/-- A loop is found under its own number. -/
theorem get?_id_of_mem {document : Document} {loop : Loop}
    (h : loop ∈ (extractLoops document).table.loops) :
    (extractLoops document).table.get? loop.id = some loop := by
  obtain ⟨i, hi, rfl⟩ := List.getElem_of_mem h
  rw [get?_extractLoops, id_getElem_extractLoops]
  exact List.getElem?_eq_getElem hi

/-- A loop has a placeholder. -/
theorem placeholder_mem_document {document : Document} {loop : Loop}
    (h : loop ∈ (extractLoops document).table.loops) :
    .placeholder loop.id ∈ (extractLoops document).document := by
  have hmem : loop.id ∈ (extractLoops document).document.placeholders :=
    (placeholders_extractLoops document).mem_iff.2
      (List.mem_append_right _ (List.mem_map_of_mem h))
  obtain ⟨line, hline, hid⟩ := List.mem_filterMap.1 hmem
  cases line with
  | text content => cases hid
  | placeholder id =>
    obtain rfl : id = loop.id := Option.some.inj hid
    exact hline

/-- Within one extraction a number names one loop. -/
theorem nodup_ids (document : Document) :
    ((extractLoops document).table.loops.map Loop.id).Nodup := by
  rw [map_id_extractLoops]
  exact List.nodup_range.map fun _ _ h => congrArg LoopId.index h

/-! ### Several extractions -/

/-- The numbers that loops get when the loops of these documents are taken out, one document after
the other. -/
def openedIds (documents : List Document) : List LoopId :=
  documents.flatMap fun document => (extractLoops document).table.loops.map Loop.id

/-- Two extractions that both take out a loop both use the number zero. -/
theorem disjoint_ids_iff {first second : Document} :
    ((extractLoops first).table.loops.map Loop.id).Disjoint
        ((extractLoops second).table.loops.map Loop.id) ↔
      (extractLoops first).table.loops = [] ∨ (extractLoops second).table.loops = [] := by
  have hzero (document : Document) (h : (extractLoops document).table.loops ≠ []) :
      ⟨0⟩ ∈ (extractLoops document).table.loops.map Loop.id := by
    rw [map_id_extractLoops]
    exact List.mem_map_of_mem (List.mem_range.2 (List.length_pos_iff.2 h))
  constructor
  · intro hdisjoint
    by_contra! h
    exact hdisjoint (hzero first h.1) (hzero second h.2)
  · rintro (h | h) <;> simp [h]

/-- **Every extraction numbers from zero.** It keeps the placeholders that it meets, adds those of
its own loops, and finds under a number, whichever extraction gave it, its own loop at that place.
So over several extractions each number is used once just if at most one of them takes out a
loop. -/
theorem extractLoops_numbers (documents : List Document) :
    (∀ document,
      (extractLoops document).table.loops.map Loop.id =
        (List.range (extractLoops document).table.loops.length).map LoopId.mk ∧
      (extractLoops document).document.placeholders.Perm
        (document.placeholders ++ (extractLoops document).table.loops.map Loop.id) ∧
      ∀ id, (extractLoops document).table.get? id =
        (extractLoops document).table.loops[id.index]?) ∧
    ((openedIds documents).Nodup ↔ documents.Pairwise fun first second =>
      (extractLoops first).table.loops = [] ∨ (extractLoops second).table.loops = []) := by
  refine ⟨fun document => ⟨map_id_extractLoops document, placeholders_extractLoops document,
    get?_extractLoops document⟩, ?_⟩
  rw [openedIds, List.nodup_flatMap, and_iff_right fun document _ => nodup_ids document]
  exact List.Pairwise.iff fun _ _ => disjoint_ids_iff

/-- A loop over `A`. -/
def firstLines : List Text := ["{% for a in A %}", "{{ a.x }}", "{% endfor %}"]

/-- A loop over `B`. -/
def secondLines : List Text := ["{% for b in B %}", "{{ b.y }}", "{% endfor %}"]

/-- The placeholder of the first loop, and the lines of the second one behind it. -/
def extendedDocument : Document :=
  (extractLoops (firstLines.map Line.text)).document ++ secondLines.map Line.text

/-- **A kept placeholder is taken for another loop.** Its number is given out again, and it is found
in both tables: first as the loop that it stands for, and then as the loop put behind it. -/
theorem extractLoops_extendedDocument :
    openedIds [firstLines.map Line.text, extendedDocument] = [⟨0⟩, ⟨0⟩] ∧
      ¬ (openedIds [firstLines.map Line.text, extendedDocument]).Nodup ∧
      (extractLoops extendedDocument).document = [.placeholder ⟨0⟩, .placeholder ⟨0⟩] ∧
      ((extractLoops (firstLines.map Line.text)).table.get? ⟨0⟩).map Loop.dataSet = some "A" ∧
      ((extractLoops extendedDocument).table.get? ⟨0⟩).map Loop.dataSet = some "B" := by
  decide +kernel

end BoundReport
