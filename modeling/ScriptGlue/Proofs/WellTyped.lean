import ScriptGlue.Proofs.Conversion
import ScriptGlue.Proofs.Generation

namespace ScriptGlue

structure Parameter.IsTyped (p : Parameter) : Prop where
  name : p.name.isText = true
  default : p.default.isTextOrEmpty = true

def Specialization.isPlain : Key × Attribute → Bool
  | (.text _, .string concrete) => !concrete.toList.contains '\\'
  | _ => false

structure FunctionDecl.IsTyped (f : FunctionDecl) : Prop where
  name : f.name.isText = true
  header : f.header.isText = true
  parameters : ∀ p ∈ f.parameters, p.IsTyped
  specialization : ∀ e ∈ f.specialization.entries, Specialization.isPlain e = true

structure Inputs.IsTyped (i : Inputs) : Prop where
  comments : ∀ e ∈ i.catalog.classes.entries, e.2.comment.isText = true
  functions : ∀ f ∈ i.functions, f.IsTyped
  fieldHeaders : ∀ f ∈ i.fields, f.header.isText = true

instance (p : Parameter) : Decidable p.IsTyped :=
  decidable_of_iff (p.name.isText = true ∧ p.default.isTextOrEmpty = true)
    ⟨fun ⟨hn, hd⟩ => ⟨hn, hd⟩, fun ⟨hn, hd⟩ => ⟨hn, hd⟩⟩

instance (f : FunctionDecl) : Decidable f.IsTyped :=
  decidable_of_iff (f.name.isText = true ∧ f.header.isText = true ∧
      (∀ p ∈ f.parameters, p.IsTyped) ∧
      ∀ e ∈ f.specialization.entries, Specialization.isPlain e = true)
    ⟨fun ⟨hn, hh, hp, hs⟩ => ⟨hn, hh, hp, hs⟩, fun ⟨hn, hh, hp, hs⟩ => ⟨hn, hh, hp, hs⟩⟩

instance (i : Inputs) : Decidable i.IsTyped :=
  decidable_of_iff ((∀ e ∈ i.catalog.classes.entries, e.2.comment.isText = true) ∧
      (∀ f ∈ i.functions, f.IsTyped) ∧ ∀ f ∈ i.fields, f.header.isText = true)
    ⟨fun ⟨hc, hf, hh⟩ => ⟨hc, hf, hh⟩, fun ⟨hc, hf, hh⟩ => ⟨hc, hf, hh⟩⟩

namespace Json

theorem isSearchable_of_isText {a : Json} (h : a.isText = true) : a.isSearchable = true := by
  cases a with
  | string s => rfl
  | _ => cases h

theorem isTextOrEmpty_of_isText {a : Json} (h : a.isText = true) : a.isTextOrEmpty = true := by
  rw [isTextOrEmpty, h, Bool.true_or]

end Json

namespace Replacement

theorem pieceAt_of_ne {c : Char} {cs : List Char} (h : c ≠ '\\') :
    pieceAt (c :: cs) = .ok ([.character c], 1) := by
  unfold pieceAt
  split <;> simp_all

theorem readFrom_eq {cs : List Char} (h : '\\' ∉ cs) :
    readFrom 0 cs = .ok (cs.map .character) := by
  induction cs with
  | nil => rfl
  | cons c cs ih =>
    rw [List.mem_cons, not_or] at h
    exact Outcome.bind_total (pieceAt_of_ne (Ne.symm h.1)) (Outcome.bind_total (ih h.2) rfl)

end Replacement

theorem Specialization.step_total {e : Key × Attribute} (h : isPlain e = true)
    (spelling : String) : ∃ s, step spelling e = .ok s := by
  unfold isPlain at h
  split at h
  · rename_i param concrete
    have hc : '\\' ∉ concrete.toList := by simpa using h
    exact ⟨_, Outcome.bind_total (Replacement.readFrom_eq hc) rfl⟩
  · cases h

theorem Specialization.apply_total {specialization : Table Key Attribute}
    (h : ∀ e ∈ specialization.entries, isPlain e = true) (spelling : String) :
    ∃ s, apply specialization spelling = .ok s :=
  Outcome.foldlM_total (fun e he => step_total (h e he)) spelling

namespace Catalog

variable {c : Catalog}

theorem isUndecided_eq_false (hc : ∀ e ∈ c.classes.entries, e.2.comment.isText = true)
    (name : String) : c.isUndecided name = false := by
  rw [isUndecided]
  cases h : c.class? name with
  | none => rw [Option.any_none, Bool.and_false]
  | some d =>
    have hd := Json.isSearchable_of_isText (hc _ (Table.mem_entries_of_get? h))
    rw [Option.any_some, hd, Bool.not_true, Bool.and_false, Bool.and_false]

theorem isGenerallyUndecided_eq_false (hc : ∀ e ∈ c.classes.entries, e.2.comment.isText = true)
    (t : CppType) (usage : Usage) : c.isGenerallyUndecided t usage = false := by
  rw [isGenerallyUndecided, isUndecided_eq_false hc, Bool.and_false]

theorem isStuck_eq_false (hc : ∀ e ∈ c.classes.entries, e.2.comment.isText = true) (t : CppType)
    (name : String) (usage : Usage) (default : Attribute) :
    c.isStuck t name usage default = false := by
  rw [isStuck]
  split
  · exact isGenerallyUndecided_eq_false hc t usage
  · rfl

theorem fits_of_isTyped {p : Parameter} (hp : p.IsTyped) (c : Catalog) :
    c.fits p.type p.name .parameter p.default = true := by
  rw [fits]
  split
  · rfl
  · exact hp.default
  · rw [hp.name, Bool.or_true]

end Catalog

namespace Wrapper

variable {c : Catalog} {f : FunctionDecl} {w : Wrapper} {o : GlueOptions}

theorem meetsMisfit_eq_false (hc : ∀ e ∈ c.classes.entries, e.2.comment.isText = true)
    {ps : List Parameter} (hp : ∀ p ∈ ps, p.IsTyped) : meetsMisfit c ps = false := by
  induction ps with
  | nil => rfl
  | cons p ps ih =>
    rw [List.forall_mem_cons] at hp
    rw [meetsMisfit, Catalog.isStuck_eq_false hc, Catalog.fits_of_isTyped hp.1, ih hp.2]
    simp only [Bool.not_true, Bool.or_false, Bool.and_false]

theorem isMisfit_eq_false (hc : ∀ e ∈ c.classes.entries, e.2.comment.isText = true)
    (hf : f.IsTyped) : isMisfit c f = false := by
  have hh := Json.isTextOrEmpty_of_isText hf.header
  rw [isMisfit, meetsMisfit_eq_false hc hf.parameters, Catalog.isStuck_eq_false hc,
    FunctionDecl.isNameable, hf.name, hh]
  simp only [Bool.and_true, Bool.not_true, Bool.and_false, Bool.or_false]

theorem registrationExpression_total (hf : f.IsTyped) :
    ∃ e, f.registrationExpression = .ok e := by
  have hspecialized : ∃ ts, f.parameters.mapM (fun p =>
      Specialization.apply f.specialization p.type.spelling) = .ok ts :=
    Outcome.mapM_total fun p _ => Specialization.apply_total hf.specialization p.type.spelling
  obtain ⟨ts, hts⟩ := hspecialized
  have hparameters : f.specializedParameters = .ok ("(" ++ ", ".intercalate ts ++ ")") :=
    Outcome.bind_total hts rfl
  rw [FunctionDecl.registrationExpression]
  split
  · exact ⟨_, Outcome.bind_total hparameters rfl⟩
  · exact ⟨_, Outcome.bind_total hparameters rfl⟩

theorem parts_total (h : build c f = .ok w) : ∃ p, w.parts = .ok p := by
  rw [parts]
  rw [length_of_build h, bne_self_eq_false, if_neg Bool.false_ne_true]
  exact ⟨_, rfl⟩

theorem bind_total (hf : f.IsTyped) (h : build c f = .ok w) : ∃ b, w.bind .packaged o = .ok b := by
  cases hn : w.isNeeded with
  | true =>
    obtain ⟨p, hp⟩ := parts_total h
    exact ⟨_, (bind_of_isNeeded hn).2 ⟨p.text, render_packaged.2 ⟨p, hp, rfl⟩, rfl⟩⟩
  | false =>
    obtain ⟨e, he⟩ := registrationExpression_total hf
    refine ⟨_, (bind_of_direct hn).2 ⟨e, ?_, rfl⟩⟩
    rw [function_of_build h, he]

end Wrapper

theorem FieldDecl.isMisfit_eq_false {c : Catalog} {f : FieldDecl}
    (hc : ∀ e ∈ c.classes.entries, e.2.comment.isText = true) (hf : f.header.isText = true) :
    f.isMisfit c = false := by
  have hh := Json.isTextOrEmpty_of_isText hf
  rw [isMisfit, Catalog.isDeclarationStuck, Catalog.isGenerallyUndecided_eq_false hc, hh]
  simp only [Bool.not_true, Bool.and_false, Bool.or_false]

namespace Inputs

variable {i : Inputs} {o : GlueOptions}

theorem isText_of_mem_givenHeaders (hi : i.IsTyped) {h : Attribute} (hm : h ∈ i.givenHeaders) :
    h.isText = true := by
  rcases List.mem_append.1 (List.mem_of_mem_filter hm) with hm | hm
  · obtain ⟨f, hf, rfl⟩ := List.mem_map.1 hm
    exact (hi.functions f hf).header
  · obtain ⟨f, hf, rfl⟩ := List.mem_map.1 hm
    exact hi.fieldHeaders f hf

theorem checkFunctions_outcome (hi : i.IsTyped) : i.checkFunctions.outcome = .ok () := by
  have hfits : i.functions.all (fun f => !Wrapper.isMisfit i.catalog f) = true := by
    rw [List.all_eq_true]
    intro f hf
    rw [Wrapper.isMisfit_eq_false hi.comments (hi.functions f hf), Bool.not_false]
  rw [checkFunctions]
  simp only [hfits, if_true]
  rfl

theorem checkFields_outcome (hi : i.IsTyped) (o : GlueOptions) :
    (i.checkFields o).outcome = .ok () := by
  have hfits : i.fields.all (fun f => !f.isMisfit i.catalog) = true := by
    rw [List.all_eq_true]
    intro f hf
    rw [FieldDecl.isMisfit_eq_false hi.comments (hi.fieldHeaders f hf), Bool.not_false]
  rw [checkFields]
  simp only [hfits, Bool.or_true, if_true]
  rfl

theorem checkHeaders_outcome (hi : i.IsTyped) (ho : o.strippedHead.isText = true) :
    (i.checkHeaders o).outcome = .ok () := by
  have hfits : i.givenHeaders.all (fun h => h.isText && o.strippedHead.isText) = true := by
    rw [List.all_eq_true]
    intro h hm
    rw [isText_of_mem_givenHeaders hi hm, ho, Bool.and_self]
  rw [checkHeaders]
  simp only [hfits, Bool.or_true, if_true]
  rfl

end Inputs

namespace Glue

variable {templates : List Notice → TemplateLibrary} {o : GlueOptions} {i : Inputs}

theorem generate_of_checks {t : List Notice → TemplateLibrary} {bs : List Binding} {text : String}
    (hf : i.checkFunctions.outcome = .ok ()) (hx : (i.checkFields o).outcome = .ok ())
    (hh : (i.checkHeaders o).outcome = .ok ())
    (hb : i.selected.mapM (fun w => w.bind (t i.functionNotices) o) = .ok bs)
    (hs : (t (i.functionNotices ++ i.fieldNotices o)).render o.bindingsTemplate
      (scope o (i.headers o.strippedHead) (bs ++ i.boundFields o)) = .ok text) :
    ∃ g, (generate t o i).outcome = .ok g ∧ g.text = text := by
  rw [generate]
  simp only [Run.bind_eq_ok, Run.ofExcept_eq_ok]
  exact ⟨_, ⟨(), hf, (), rfl, bs, hb, (), hx, (), rfl, (), hh, text, hs, rfl⟩, rfl⟩

theorem generate_total (hi : i.IsTyped) (ht : ∀ told, templates told = .packaged)
    (ho : o.bindingsTemplate = Template.bindingsName) (hs : o.strippedHead.isText = true) :
    ∃ g, (generate templates o i).outcome = .ok g := by
  have hbind : ∃ bs, i.selected.mapM (fun w => w.bind .packaged o) = .ok bs := by
    refine Outcome.mapM_total fun w hw => ?_
    obtain ⟨f, hf, hb⟩ := Inputs.exists_build_of_mem_selected hw
    exact Wrapper.bind_total (hi.functions f hf) hb
  obtain ⟨bs, hbs⟩ := hbind
  obtain ⟨g, hg, -⟩ := generate_of_checks (t := templates)
    (Inputs.checkFunctions_outcome hi) (Inputs.checkFields_outcome hi o)
    (Inputs.checkHeaders_outcome hi hs) (by rw [ht]; exact hbs)
    (by rw [ht, ho]; exact TemplateLibrary.render_bindings ..)
  exact ⟨g, hg⟩

end Glue

end ScriptGlue
