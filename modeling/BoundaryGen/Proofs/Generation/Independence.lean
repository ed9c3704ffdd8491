-- The law of independence: a file whose classes have none of the names that other files use, and
-- whose functions have nothing to do with a model of these, does not change what is generated for
-- the model. It does not matter what else stands in the file, nor where it is listed.
import Mathlib
import BoundaryGen.Proofs.Generation.Accounting
import BoundaryGen.Proofs.Generation.Renumbering
import BoundaryGen.Proofs.Generation.Restriction
import BoundaryGen.Proofs.Manifest.Arguments
import BoundaryGen.Proofs.Snapshot.Unrelated
import BoundaryGen.Source.Build

namespace BoundaryGen.Snapshot

variable {s s' : Snapshot} {config : Config} {m : Model}

/-! ## What a model knows -/

theorem known_of_declares {id : DeclId} {name qualifiedName : String}
    {parameters : List Parameter} {returnType : Option TypeRef}
    (h : s.Declares id name qualifiedName parameters returnType) {p : Parameter}
    (hp : p ∈ parameters) : ∀ name ∈ p.type.names, name ∈ knownNames s.entries := by
  obtain ⟨d, hd, f, hf, -, -, -, rfl, -⟩ := h
  obtain ⟨i, hi⟩ := get?_of_mem (Array.mem_toList_iff.mpr hd)
  intro name hname
  exact mem_knownNames_of_typeNames hi name (Declaration.names_subset_of_parameter hf hp hname)

/-- A model is made of a class of its name. -/
theorem exists_class_of_mem_models (hm : m ∈ s.models config) :
    ∃ d c, s.get? m.decl = some d ∧ d.class? = some c ∧ s.model? config m.decl = some m ∧
      m.qualifiedName = d.qualifiedName := by
  obtain ⟨i, hi, hmodel⟩ := List.mem_filterMap.mp hm
  obtain ⟨d, hd, hclass⟩ := exists_class_of_mem_modelIds hi
  obtain ⟨c, hc⟩ := Option.isSome_iff_exists.mp hclass
  have hdecl : m.decl = i := by
    rw [model?, hd] at hmodel
    cases hmodel
    rfl
  exact ⟨d, c, by rw [hdecl, hd], hc, by rw [hdecl, hmodel], qualifiedName_of_model? hd hmodel⟩

/-- A snapshot knows the names of its models. -/
theorem qualifiedName_mem_knownNames (hm : m ∈ s.models config) :
    m.qualifiedName ∈ knownNames s.entries := by
  obtain ⟨d, c, hd, hc, -, hname⟩ := exists_class_of_mem_models hm
  rw [hname]
  exact mem_knownNames_of_class hd (by rw [hc]; rfl)

/-- A snapshot knows the names in the types of its models. -/
theorem known_types (hm : m ∈ s.models config) :
    ∀ type ∈ m.types, ∀ name ∈ type.names, name ∈ knownNames s.entries := by
  obtain ⟨d, c, hd, hc, hmodel, -⟩ := exists_class_of_mem_models hm
  have hmade := hmodel
  rw [model?, hd] at hmade
  have htype : m.type = s.starProjectedType m.decl :=
    (congrArg Model.type (Option.some.inj hmade)).symm
  have hfields : m.fields = c.properties := by
    have hmap : (d.class?.map (·.properties)).getD [] = m.fields :=
      congrArg Model.fields (Option.some.inj hmade)
    rw [← hmap, hc]
    rfl
  intro type hmem
  simp only [Model.types, List.cons_append, List.mem_cons, List.mem_append, List.mem_map,
    List.mem_flatMap, Option.mem_toList] at hmem
  rcases hmem with rfl | (⟨p, hp, rfl⟩ | ⟨i, hi, p, hp, rfl⟩) | ⟨i, hi, p, hp, rfl⟩
  · intro name hmem
    rw [htype, starProjectedType, hd, TypeRef.names_starProjected, List.mem_singleton] at hmem
    rw [hmem]
    exact mem_knownNames_of_class hd (by rw [hc]; rfl)
  · intro name hmem
    rw [hfields] at hp
    exact mem_knownNames_of_typeNames hd name (Declaration.names_subset_of_property hc hp hmem)
  · exact known_of_declares (declares_of_init hmodel hi) hp
  · exact known_of_declares (declares_of_mem_intents hmodel hi) hp

theorem types_renumber (ρ : DeclId → DeclId) (m : Model) : (m.renumber ρ).types = m.types := by
  cases hi : m.init <;>
    simp [Model.types, Model.renumber, hi, List.flatMap_map, Init.renumber, Intent.renumber]

/-- The models come in the order of their declarations. -/
theorem map_decl_models (s : Snapshot) (config : Config) :
    (s.models config).map (·.decl) = s.modelIds config := by
  rw [models, List.map_filterMap]
  refine (List.filterMap_congr fun i hi => ?_).trans (List.filterMap_some)
  obtain ⟨d, hd, -⟩ := exists_class_of_mem_modelIds hi
  rw [model?, hd]
  rfl

/-! ## The law of independence -/

/-- What is generated for a model of one snapshot is generated for it in another one, where it has
other numbers. -/
structure Unaffected (s s' : Snapshot) (config : Config) (m m' : Model) : Prop where
  found : m' ∈ (s'.generate config).models
  unit : (s'.unit config m').1.withoutIds = (s.unit config m).1.withoutIds
  findings : (s'.unit config m').2 = (s.unit config m).2
  manifest : (s'.generate config).manifest.models.get? m.qualifiedName =
    (s.generate config).manifest.models.get? m.qualifiedName

section Law

variable {ρ : DeclId → DeclId} {t : Snapshot} {kept : DeclId → Bool}

/-- What is generated for a model, when all numbers that it gets are kept. -/
theorem unit_renumber (hw : WellNumbered s) (hw' : WellNumbered s') (hr : Renumbering s t ρ)
    (h : Restricts s' t kept (· ∈ knownNames s.entries)) (hkept : ∀ i, kept (ρ i) = true)
    (config : Config) (m : Model) :
    s'.unit config (m.renumber ρ) = ((s.unit config m).1.renumber ρ, (s.unit config m).2) := by
  rw [← hr.unit]
  refine (h.unit (h.isAssignable_eq hr hw hw') (hkept m.decl) config ?_ ?_).symm
  · intro i hi
    obtain ⟨i, -, rfl⟩ := Option.map_eq_some_iff.mp hi
    exact hkept i.decl
  · intro i hi
    obtain ⟨i, -, rfl⟩ := List.mem_map.mp hi
    exact hkept i.decl

theorem unaffected (hw : WellNumbered s) (hw' : WellNumbered s') (hr : Renumbering s t ρ)
    (h : Restricts s' t kept (· ∈ knownNames s.entries)) (hkept : ∀ i, kept (ρ i) = true)
    (hm : m ∈ s.models config) (hq : ¬ s'.Mentioned kept m.qualifiedName) :
    Unaffected s s' config m (m.renumber ρ) := by
  have hknown := qualifiedName_mem_knownNames hm
  have hunit := unit_renumber hw hw' hr h hkept config m
  refine ⟨?_, ?_, ?_, ?_⟩
  · have hfound : m.renumber ρ ∈ (s'.models config).filter
        fun other => other.qualifiedName = m.qualifiedName := by
      rw [← h.models_named hknown hq config, List.mem_filter, hr.models]
      exact ⟨List.mem_map_of_mem hm, decide_eq_true rfl⟩
    exact (List.mem_filter.mp hfound).1
  · rw [hunit, WrapperUnit.withoutIds_renumber]
  · rw [hunit]
  · have htypes : ∀ m ∈ t.models config, ∀ type ∈ m.types, ∀ name ∈ type.names,
        name ∈ knownNames s.entries := by
      intro other hother
      rw [hr.models] at hother
      obtain ⟨before, hbefore, rfl⟩ := List.mem_map.mp hother
      rw [types_renumber]
      exact known_types hbefore
    have hmanifest : t.manifest (t.models config) = s.manifest (s.models config) := by
      rw [hr.models, hr.manifest]
    show (s'.manifest (s'.models config)).models.get? m.qualifiedName =
      (s.manifest (s.models config)).models.get? m.qualifiedName
    rw [← h.get?_manifest hknown hq htypes, hmanifest]

end Law

/-- One more file among others, at any place, leaves the order of their models and what is generated
for a model as it was, if no class of the file has a name that the others use and no function of it
takes or gives a type of the name of the model. The declarations of the file are inserted in one
piece, and the numbers make room for it. -/
theorem unrelated_files_do_not_matter {before after : List SourceFile} {file : SourceFile}
    (h : ofFiles (before ++ after) = .ok s) (h' : ofFiles (before ++ file :: after) = .ok s')
    (hclasses : ∀ e ∈ file.entries, e.isClass →
      e.qualifiedName ∉ knownNames (listing (before ++ after))) (config : Config) :
    ∃ n, (∀ i, s'.get? (skipGap n file.entries.length i) =
        (s.get? i).map (·.renumber (skipGap n file.entries.length))) ∧
      ((s'.generate config).models.map (·.decl)).filter (!inGap n file.entries.length ·) =
        ((s.generate config).models.map (·.decl)).map (skipGap n file.entries.length) ∧
      ∀ m ∈ (s.generate config).models,
        (∀ e ∈ file.entries, ¬ e.shape.Mentions m.qualifiedName) →
        Unaffected s s' config m (m.renumber (skipGap n file.entries.length)) := by
  obtain ⟨files, files', hentries, hentries', first, middle, last, hinserted, hfirst, hmiddle⟩ :=
    exists_inserted h h'
  have hlists := lists_ofFiles h
  have hlists' := lists_ofFiles h'
  have hknown {name : String} :
      name ∈ knownNames s.entries ↔ name ∈ knownNames (listing (before ++ after)) := by
    rw [hlists.entries]
    exact mem_knownNames_congr ((List.mergeSort_perm _ _).flatMap_right _)
  have hgap : ∀ {i d}, inGap first.length middle.length i = true → s'.get? i = some d →
      d.entry s'.place? ∈ file.entries := by
    intro i d hi hd
    rw [hfirst, hmiddle] at hi
    exact entry_mem_of_inGap hentries' hi hd
  have hrestricts := hinserted.restricts hlists hlists' fun d hd hclass hmem => by
    obtain ⟨hin, hget⟩ := hinserted.get?_of_mem_middle hlists'.wellNumbered hd
    exact hclasses _ (hgap hin hget) (by rw [isClass_entry, hclass]) (hknown.mp hmem)
  have hr := hinserted.renumbering
  rw [hmiddle] at hrestricts hr hgap
  refine ⟨first.length, ?_, ?_, ?_⟩
  · rw [← hmiddle]
    exact hinserted.get?_skipGap
  · show ((s'.models config).map _).filter _ = ((s.models config).map _).map _
    rw [map_decl_models, map_decl_models, ← hrestricts.modelIds, hr.modelIds]
  · intro m hm hq
    refine unaffected hlists.wellNumbered hlists'.wellNumbered hr hrestricts
      (fun i => by rw [inGap_skipGap, Bool.not_false]) hm ?_
    rintro ⟨i, d, f, hd, hi, hf, hmentions⟩
    refine hq _ (hgap (Bool.not_eq_false' _ ▸ hi) hd) ?_
    rw [Declaration.entry, Declaration.shape_of_function? hf]
    exact hmentions

/-- The file of the store is broken and comes first, and does not matter to the label. -/
theorem the_label_is_generated_beside_the_store : ∃ s s',
    ofFiles [labelFile "rename" "text"] = .ok s ∧
    ofFiles [{ storeFile with path := "app/Goods.kt" }, labelFile "rename" "text"] = .ok s' ∧
    ∃ m ∈ (s.generate {}).models, (s.unit {} m).1.wrappers.length = 3 ∧
      ∃ n, Unaffected s s' {} m (m.renumber (skipGap n 6)) := by
  let file : SourceFile := { storeFile with path := "app/Goods.kt" }
  obtain ⟨s, hs, m, hm, hcount, hmentions⟩ := exists_ofFiles_singleton (labelFile "rename" "text")
    (fun s => ∃ m ∈ (s.generate {}).models, (s.unit {} m).1.wrappers.length = 3 ∧
      ∀ e ∈ file.entries, ¬ e.shape.Mentions m.qualifiedName) (by decide +kernel)
  obtain ⟨s', hs'⟩ : ∃ s', ofFiles [file, labelFile "rename" "text"] = .ok s' :=
    exists_ofFiles (by decide +kernel)
  have hclasses : ∀ e ∈ file.entries, e.isClass →
      e.qualifiedName ∉ knownNames (listing ([] ++ [labelFile "rename" "text"])) := by
    decide +kernel
  obtain ⟨n, -, -, hlaw⟩ := @unrelated_files_do_not_matter s s' [] _ file hs hs' hclasses {}
  exact ⟨s, s', hs, hs', m, hm, hcount, n, hlaw m hm hmentions⟩

end BoundaryGen.Snapshot
