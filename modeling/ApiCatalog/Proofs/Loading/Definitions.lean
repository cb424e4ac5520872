import ApiCatalog.Proofs.Document.Unlinked
import ApiCatalog.Proofs.Loading.Success

/-!
# The definitions of a load

A load takes its definitions in a stable order by URL and links the document of each one in its place. The order is
characterised by what it keeps (`StablySorted`), each result by the text that it was read from (`InPlace`); both are
said of the definitions and the library alone. Definitions with different URLs have one order only, so a load of them
is the same in whatever order they are given.
-/

namespace ApiCatalog

/-! ## The order -/

/-- The same definitions in ascending order of their URLs, those with one URL as they stood before. -/
structure StablySorted (definitions sorted : List Definition) : Prop where
  perm : sorted.Perm definitions
  ascending : sorted.Pairwise (·.url ≤ ·.url)
  stable (url : String) : sorted.filter (·.url = url) = definitions.filter (·.url = url)

namespace Library
variable {library : Library} {patches : List SchemaPatch} {definitions : List Definition} {loaded : Loaded}
  {index : Nat}

theorem loadOrder_ascending (definitions : List Definition) : (loadOrder definitions).Pairwise (·.url ≤ ·.url) :=
  ascending_mergeSort Definition.url definitions

theorem stablySorted_loadOrder (definitions : List Definition) : StablySorted definitions (loadOrder definitions) where
  perm := loadOrder_perm definitions
  ascending := loadOrder_ascending definitions
  stable url := by
    have hequal : (definitions.filter (·.url = url)).Pairwise fun a b => decide (a.url ≤ b.url) = true := by
      refine List.pairwise_of_forall_mem_list fun a ha b hb => decide_eq_true (le_of_eq ?_)
      rw [of_decide_eq_true (List.mem_filter.1 ha).2, of_decide_eq_true (List.mem_filter.1 hb).2]
    -- definitions with one URL are in order already, so sorting leaves them as they stand
    have hsublist : (definitions.filter (·.url = url)).Sublist (loadOrder definitions) :=
      List.sublist_mergeSort (text_le_trans Definition.url) (text_le_total Definition.url) hequal List.filter_sublist
    have hfiltered := hsublist.filter (·.url = url)
    rw [List.filter_filter, List.filter_congr (q := (·.url = url)) (by simp)] at hfiltered
    exact (hfiltered.eq_of_length ((loadOrder_perm definitions).symm.filter _).length_eq).symm

theorem loadOrder_eq_of_perm {other : List Definition} (hperm : other.Perm definitions)
    (hnodup : (definitions.map (·.url)).Nodup) : loadOrder other = loadOrder definitions := by
  have hsorted : (loadOrder other).Perm (loadOrder definitions) :=
    (loadOrder_perm other).trans (hperm.trans (loadOrder_perm definitions).symm)
  refine hsorted.eq_of_pairwise (fun a b ha hb hab hba => ?_) (loadOrder_ascending other)
    (loadOrder_ascending definitions)
  have ha : a ∈ definitions := hperm.mem_iff.1 ((loadOrder_perm other).mem_iff.1 ha)
  have hb : b ∈ definitions := (loadOrder_perm definitions).mem_iff.1 hb
  exact List.inj_on_of_nodup_map hnodup ha hb (le_antisymm hab hba)

/-! ## The places -/

/-- What stands at a position after a load: a document of the kind that the definition selects, which points back to
the position and is otherwise, but for its references, what is read from the text at the URL of the definition. A
reference that is blank is gone, and any other is in canonical form. -/
structure InPlace (library : Library) (index : Nat) (result : LoadedDefinition) : Prop where
  kind : DocumentKind.ofSchemaUrl? result.definition.schema = some result.document.kind
  belongs : result.document.BelongsTo ⟨index⟩
  frame : ∃ body document, library.find? result.definition.url = some body ∧
    Document.decode result.document.kind result.definition.url body = .ok document ∧
    result.document.unlinked = document.mapReferences linkedReference

theorem inPlace_of_named {definition : Definition} {document linked : Document}
    (hopens : library.Opens definition document) (hnamed : document.named ⟨index⟩ = .ok linked) :
    library.InPlace index { definition, document := linked } := by
  obtain ⟨kind, body, hkind, hbody, hdecode⟩ := hopens
  have hlinked : linked.kind = kind := (Document.kind_of_named hnamed).trans (Document.kind_of_decode hdecode)
  refine ⟨?_, Document.belongsTo_of_named hnamed, body, document, hbody, ?_, ?_⟩
  · rw [hkind, hlinked]
  · rw [hlinked]
    exact hdecode
  · rw [Document.unlinked_of_named hnamed, Document.unlinked_of_decode hdecode]

theorem Linked.inPlace {results : List LoadedDefinition} (h : Linked library index definitions results) :
    results.map (·.definition) = definitions ∧
      ∀ place (hplace : place < results.length), library.InPlace (index + place) results[place] := by
  induction h with
  | nil => exact ⟨rfl, fun place hplace => absurd hplace (Nat.not_lt_zero place)⟩
  | @cons index definition document linked rest more hopens _ hnamed _ ih =>
    obtain ⟨hdefinitions, hplaces⟩ := ih
    refine ⟨by rw [List.map_cons, hdefinitions], fun place hplace => ?_⟩
    cases place with
    | zero => exact inPlace_of_named hopens hnamed
    | succ place =>
      have hrest := hplaces place (Nat.lt_of_succ_lt_succ hplace)
      rwa [Nat.add_assoc, Nat.add_comm 1] at hrest

/-- **Definitions are loaded in place.** After a load that succeeds the definitions are those given, stably sorted by
URL, and each has its document. Definitions with different URLs give the same result, error or not, and the same
session in any order. -/
theorem definitions_in_place (library : Library) (patches : List SchemaPatch) (definitions : List Definition) :
    (∀ loaded t, Load.perform (library.loadDefinitions patches definitions) {} = (.ok loaded, t) →
      StablySorted definitions (loaded.definitions.map (·.definition)) ∧
        ∀ index (hindex : index < loaded.definitions.length), library.InPlace index loaded.definitions[index]) ∧
    ∀ other : List Definition, other.Perm definitions → (definitions.map (·.url)).Nodup → ∀ s,
      Load.perform (library.loadDefinitions patches other) s =
        Load.perform (library.loadDefinitions patches definitions) s := by
  refine ⟨fun loaded t hrun => ?_, fun other hperm hnodup s => ?_⟩
  · obtain ⟨-, -, hlinked, -⟩ := linked_of_loadDefinitions hrun
    obtain ⟨hdefinitions, hplaces⟩ := hlinked.inPlace
    refine ⟨by rw [hdefinitions]; exact stablySorted_loadOrder definitions, fun index hindex => ?_⟩
    have hplace := hplaces index hindex
    rwa [Nat.zero_add] at hplace
  · rw [loadDefinitions, loadDefinitions, loadOrder_eq_of_perm hperm hnodup]

/-- The reference that leads to the cycle stands at the position 0, and it may be given before or after one that is not
there at all. -/
theorem cyclic_definitions_in_place :
    (∃ loaded t, Load.perform (cyclic.loadDefinitions SchemaPatch.builtin [cyclicDefinition]) {} = (.ok loaded, t) ∧
      StablySorted [cyclicDefinition] (loaded.definitions.map (·.definition)) ∧
      ∀ index (hindex : index < loaded.definitions.length), cyclic.InPlace index loaded.definitions[index]) ∧
    Load.perform (cyclic.loadDefinitions [] [⟨"http://r/b.json", "", "B", ""⟩, cyclicDefinition]) {} =
      Load.perform (cyclic.loadDefinitions [] [cyclicDefinition, ⟨"http://r/b.json", "", "B", ""⟩]) {} := by
  constructor
  · obtain ⟨loaded, t, hrun⟩ := cyclic_loads
    exact ⟨loaded, t, hrun, (definitions_in_place cyclic SchemaPatch.builtin [cyclicDefinition]).1 loaded t hrun⟩
  · exact (definitions_in_place cyclic [] _).2 _ (.swap ..) (by decide) {}

end Library

end ApiCatalog
