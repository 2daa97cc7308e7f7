import ScriptGlue.Catalog.Document
import ScriptGlue.Proofs.Outcome
import ScriptGlue.Proofs.Rebuild
import ScriptGlue.Proofs.TypeName

namespace ScriptGlue

namespace CppType

theorem ofJson_toJson {t : CppType} (h : normalizeName t.name = t.name) :
    ofJson t.toJson = .ok t := by
  have hread : ofJson t.toJson = .ok { t with name := normalizeName t.name } := rfl
  rw [hread, h]

theorem normalizeName_of_ofSpellingValue {j : Json} {t : CppType}
    (h : ofSpellingValue j = .ok t) : normalizeName t.name = t.name := by
  rw [ofSpellingValue.eq_def] at h
  split at h
  · rw [← Except.ok.inj h]
    exact normalizeName_ofSpelling _
  · split at h
    · cases h
    · rw [← Except.ok.inj h]
      exact normalizeName_ofSpelling _

theorem normalizeName_of_ofMembers {ms : List (String × Json)} {t : CppType}
    (h : ofMembers ms = .ok t) : normalizeName t.name = t.name := by
  rw [ofMembers] at h
  split at h
  · exact normalizeName_of_ofSpellingValue h
  · obtain ⟨v, -, h⟩ := Outcome.bind_eq_ok.1 h
    obtain ⟨name, -, h⟩ := Outcome.bind_eq_ok.1 h
    rw [← Except.ok.inj h]
    exact normalizeName_idem name

theorem normalizeName_of_ofJson {j : Json} {t : CppType} (h : ofJson j = .ok t) :
    normalizeName t.name = t.name := by
  rw [ofJson.eq_def] at h
  split at h
  · rw [← Except.ok.inj h]
    exact normalizeName_ofSpelling _
  · obtain ⟨ms, -, h⟩ := Outcome.bind_eq_ok.1 h
    exact normalizeName_of_ofMembers h

end CppType

def Key.isText : Key → Bool
  | .text _ => true
  | _ => false

theorem Key.exists_text {k : Key} (h : k.isText = true) : ∃ s, k = .text s := by
  cases k with
  | text s => exact ⟨s, rfl⟩
  | _ => cases h

theorem FunctionKind.ofJson_name (k : FunctionKind) : ofJson (.string k.name) = .ok k := by
  cases k <;> rfl

theorem specializationOfJson_members {t : Table Key Attribute} (hn : t.keys.Nodup)
    (ht : ∀ k ∈ t.keys, k.isText = true) :
    specializationOfJson (.object (t.entries.map fun e => (e.1.memberName, e.2))) = .ok t := by
  have hentries : (t.entries.map fun e => (e.1.memberName, e.2)).map
      (fun m => (Key.text m.1, m.2)) = t.entries := by
    rw [List.map_map]
    refine (List.map_congr_left fun e he => ?_).trans (List.map_id _)
    obtain ⟨k, v⟩ := e
    obtain ⟨s, rfl⟩ := Key.exists_text (ht k (List.mem_map_of_mem he))
    rfl
  rw [specializationOfJson, hentries, Table.ofList_entries hn]

/-- The types of the function have names in the normal form, and the parameters that stand for
something else are names, each one once. -/
structure FunctionDecl.IsCanonical (f : FunctionDecl) : Prop where
  returnType : CppType.normalizeName f.returnType.name = f.returnType.name
  parameters : ∀ p ∈ f.parameters, CppType.normalizeName p.type.name = p.type.name
  nodup : f.specialization.keys.Nodup

theorem ClassDecl.ofJson_toJson (c : ClassDecl) : ofJson c.toJson = .ok c := rfl

theorem EnumDecl.ofJson_toJson (e : EnumDecl) : ofJson e.toJson = .ok e := rfl

theorem AliasDecl.ofJson_toJson (a : AliasDecl) : ofJson a.toJson = .ok a := rfl

theorem Parameter.ofJson_toJson {p : Parameter}
    (h : CppType.normalizeName p.type.name = p.type.name) : ofJson p.toJson = .ok p := by
  have hread : ofJson p.toJson = (do
    return { p with type := ← CppType.ofJson p.type.toJson }) := rfl
  rw [hread, CppType.ofJson_toJson h]
  rfl

theorem FieldDecl.ofJson_toJson {f : FieldDecl}
    (h : CppType.normalizeName f.type.name = f.type.name) : ofJson f.toJson = .ok f := by
  have hread : ofJson f.toJson = (do
    return { f with type := ← CppType.ofJson f.type.toJson }) := rfl
  rw [hread, CppType.ofJson_toJson h]
  rfl

theorem mapM_ofJson_toJson {α : Type} {toJson : α → Json} {ofJson : Json → Except DecodeFault α}
    {xs : List α} (h : ∀ x ∈ xs, ofJson (toJson x) = .ok x) :
    (xs.map toJson).mapM ofJson = .ok xs := by
  rw [Outcome.mapM_eq_ok, List.forall₂_map_left_iff]
  exact List.forall₂_same.2 h

theorem FunctionDecl.ofJson_toJson {f : FunctionDecl} (h : f.IsCanonical)
    (ht : ∀ k ∈ f.specialization.keys, k.isText = true) : ofJson f.toJson = .ok f := by
  have hread : ofJson f.toJson = (do
    return { f with
      returnType := ← CppType.ofJson f.returnType.toJson
      parameters := ← (f.parameters.map (·.toJson)).mapM Parameter.ofJson
      kind := ← FunctionKind.ofJson (.string f.kind.name)
      specialization := ← specializationOfJson
        (.object (f.specialization.entries.map fun e => (e.1.memberName, e.2))) }) := rfl
  rw [hread, CppType.ofJson_toJson h.returnType, FunctionKind.ofJson_name,
    mapM_ofJson_toJson fun p hp => Parameter.ofJson_toJson (h.parameters p hp),
    specializationOfJson_members h.nodup ht]
  rfl

namespace Inputs

/-- The catalog was built from entries that tables can take, and the types of the declarations have
names in the normal form. -/
structure IsCanonical (conventions : Conventions) (i : Inputs) : Prop where
  catalog : ∃ e : CatalogEntries, e.isIndexable = true ∧ i.catalog = e.build conventions
  functions : ∀ f ∈ i.functions, f.IsCanonical
  fields : ∀ f ∈ i.fields, CppType.normalizeName f.type.name = f.type.name

/-- The parameters of class templates are called by texts. -/
def HasTextSpecializations (i : Inputs) : Prop :=
  ∀ f ∈ i.functions, ∀ k ∈ f.specialization.keys, k.isText = true

instance (i : Inputs) : Decidable i.HasTextSpecializations :=
  inferInstanceAs (Decidable (∀ f ∈ i.functions, ∀ k ∈ f.specialization.keys, k.isText = true))

variable {conventions : Conventions} {i : Inputs}

theorem entriesOfJson_toJson (i : Inputs) :
    CatalogEntries.ofJson i.toJson = .ok i.catalog.entries := by
  have hread : CatalogEntries.ofJson i.toJson = (do
    return {
      classes := ← (i.catalog.classes.values.map (·.toJson)).mapM ClassDecl.ofJson
      enums := ← (i.catalog.enums.values.map (·.toJson)).mapM EnumDecl.ofJson
      aliases := ← (i.catalog.aliases.values.map (·.toJson)).mapM AliasDecl.ofJson }) := rfl
  rw [hread, mapM_ofJson_toJson fun c _ => ClassDecl.ofJson_toJson c,
    mapM_ofJson_toJson fun e _ => EnumDecl.ofJson_toJson e,
    mapM_ofJson_toJson fun a _ => AliasDecl.ofJson_toJson a]
  rfl

theorem ofDocument_toJson (h : i.IsCanonical conventions) (ht : i.HasTextSpecializations)
    (path : Path) : (ofDocument conventions path i.toJson).outcome = .ok i := by
  obtain ⟨e, he, hcatalog⟩ := h.catalog
  have hindexable : i.catalog.entries.isIndexable = true :=
    hcatalog ▸ CatalogEntries.isIndexable_entries he conventions
  have hbuild : i.catalog.entries.build conventions = i.catalog := by
    rw [hcatalog, CatalogEntries.build_entries]
  rw [ofDocument]
  refine Run.bind_eq_ok.2 ⟨_, Run.ofExcept_eq_ok.2 (entriesOfJson_toJson i), ?_⟩
  refine Run.bind_eq_ok.2 ⟨(), rfl, ?_⟩
  rw [hindexable]
  refine Run.bind_eq_ok.2 ⟨_, rfl, ?_⟩
  refine Run.bind_eq_ok.2 ⟨_, Run.ofExcept_eq_ok.2 (mapM_ofJson_toJson fun f hf =>
    FunctionDecl.ofJson_toJson (h.functions f hf) (ht f hf)), ?_⟩
  refine Run.bind_eq_ok.2 ⟨_, Run.ofExcept_eq_ok.2 (mapM_ofJson_toJson fun f hf =>
    FieldDecl.ofJson_toJson (h.fields f hf)), ?_⟩
  rw [hbuild]
  rfl

end Inputs

end ScriptGlue
