import Trackage.Console.Schematic
import Trackage.Proofs.Store.Table
import Trackage.Proofs.Track.RoundTrip
import Trackage.Service.Basic

/-!
Rows of schematics. The service shows sections with their parts, and the schematic puts the parts
together again to the text by which segments name their section. On a track that was read all these
texts are different, so that every section has a row of its own, which each of its segments names.
-/

namespace Trackage

/-- No two sections of a track that was read have the same text. -/
theorem Track.nodup_texts {track : Track} (writable : ∀ s ∈ track.sections, s.Writable) :
    (track.sections.map Section.text).Nodup := by
  rw [List.Nodup, List.pairwise_map]
  refine track.apart.imp_of_mem fun {s t} s_in t_in apart texts => ?_
  -- The text of a section is read as the section alone.
  have read := Section.ofLine_text (writable s s_in) none
  rw [texts, Section.ofLine_text (writable t t_in) none] at read
  obtain rfl := Except.ok.inj read
  exact apart t.first (by simp) (by simp)

namespace Schematic

/-- A section as the service shows it. -/
def shownSection (s : Section) : ShownSection where
  length := .natural s.length
  first := ⟨.string s.first.junction, .string s.first.branch.text⟩
  second := ⟨.string s.second.junction, .string s.second.branch.text⟩

theorem ofJson_sectionJson (s : Section) :
    ShownSection.ofJson (Service.sectionJson s) = .ok (shownSection s) := rfl

theorem text_shownSection (s : Section) : (shownSection s).text = s.text := by
  have number : (s.length : Int).repr = s.length.repr := rfl
  have text (t : String) : toString t = t := rfl
  apply String.toList_injective
  simp [ShownSection.text, shownSection, Json.natural, Json.plain, Json.display, Section.text,
    EndPoint.text, number, text]

/-- The rows of sections, numbered in their order. -/
def rowsFor (sections : List Section) : List Row :=
  sections.zipIdx.map fun numbered => ⟨numbered.2, shownSection numbered.1⟩

theorem addRow_of_new {row : Row} {rows : List Row}
    (new : ∀ other ∈ rows, other.on.text ≠ row.on.text) : addRow row rows = rows ++ [row] := by
  induction rows with
  | nil => rfl
  | cons other rows ih =>
    obtain ⟨first, others⟩ := List.forall_mem_cons.mp new
    rw [addRow, if_neg first, ih others, List.cons_append]

/-- Rows with different texts are all added. -/
theorem foldl_addRow {known rows : List Row}
    (distinct : ((known ++ rows).map fun row => row.on.text).Nodup) :
    rows.foldl (fun known row => addRow row known) known = known ++ rows := by
  induction rows generalizing known with
  | nil => rw [List.foldl_nil, List.append_nil]
  | cons row rows ih =>
    have new : ∀ other ∈ known, other.on.text ≠ row.on.text := by
      rw [List.Nodup, List.pairwise_map] at distinct
      exact fun other member => (List.pairwise_append.mp distinct).2.2 other member row
        List.mem_cons_self
    rw [List.append_cons] at distinct ⊢
    rw [List.foldl_cons, addRow_of_new new, ih distinct]

theorem text_rowsFor (sections : List Section) :
    (rowsFor sections).map (fun row => row.on.text) = sections.map Section.text := by
  have texts : (fun s => (shownSection s).text) = Section.text := funext text_shownSection
  rw [rowsFor, List.map_map, ← texts]
  change sections.zipIdx.map ((fun s => (shownSection s).text) ∘ Prod.fst) = _
  rw [← List.map_map, List.zipIdx_map_fst]

/-- Sections with different texts have one row each, in their order. -/
theorem rowsOf_shownSection {sections : List Section}
    (distinct : (sections.map Section.text).Nodup) :
    rowsOf (sections.map shownSection) = rowsFor sections := by
  rw [← text_rowsFor] at distinct
  have all := @foldl_addRow [] (rowsFor sections) distinct
  rw [List.nil_append, rowsFor, List.foldl_map] at all
  rw [rowsOf, List.zipIdx_map, List.foldl_map]
  exact all

/-- A text finds the row of its section. -/
theorem find?_rowsFor {sections : List Section} (distinct : (sections.map Section.text).Nodup)
    {i : Nat} {s : Section} (found : sections[i]? = some s) :
    (rowsFor sections).find? (fun row => row.on.text == s.text) = some ⟨i, shownSection s⟩ := by
  rw [← text_rowsFor] at distinct
  refine (find?_key_eq_some_iff distinct).mpr ⟨?_, text_shownSection s⟩
  exact List.mem_map.mpr ⟨(s, i), List.mem_zipIdx_iff_getElem?.mpr found, rfl⟩

end Schematic

end Trackage
