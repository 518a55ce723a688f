import ApiScribe.Proofs.Dialect.CSharp
import ApiScribe.Proofs.Dialect.Java
import ApiScribe.Proofs.Dialect.TypeScript
import ApiScribe.Proofs.Generate.Files

/-!
# The shape of what a job writes

Where the texts of a job hold no braces, all braces of what it writes come from the language, which
closes what it opens. This holds of single members, and it is carried from them to whole classes:
the header and the head of a class open what its end closes, and each member between them leaves the
depth as it was.

The same walk serves line breaks. Where the texts of a job hold none, no line of a layout does.
-/

namespace ApiScribe

open Model Plan Source Text

variable {k : Mark}

theorem Language.isShaped_dialect (l : Language) : l.dialect.IsShaped k := by
  cases l with
  | csharp => exact CSharp.isShaped
  | java => exact Java.isShaped
  | typescript => exact TypeScript.isShaped

namespace Job

section Layouts

variable {j : Job} (h : FreeIn k j.texts)

include h

theorem freeIn_model : FreeIn k j.model.texts := fun s hs ↦ h s (List.mem_append_left _ hs)

theorem freeIn_config : FreeIn k j.config.texts := fun s hs ↦ h s (List.mem_append_right _ hs)

theorem shapes_of_methodLayout {c : ClassDef} (hc : c ∈ j.model.classes) {m : Method}
    (hm : m ∈ c.methods) {layout : List Step} (hlayout : j.methodLayout c m = .ok layout) :
    Shapes k 0 0 layout := by
  have hdialect : j.dialect.IsShaped k := j.config.language.isShaped_dialect
  have howner := CodeModel.freeIn_class (freeIn_model h) hc
  have hsite : (j.site c m).IsFree k :=
    ⟨hdialect.spelling, freeIn_model h, howner, ClassDef.freeIn_method howner hm⟩
  obtain ⟨-, p, b, hp, hb, rfl⟩ := methodLayout_eq_ok_iff.1 hlayout
  exact hdialect.method (isFree_doc hsite) (isFree_prototype hsite hp) (free_guards hsite)
    (isFree_body hsite hb)

theorem shapes_of_propertyLayout {c : ClassDef} (hc : c ∈ j.model.classes) {p : Property}
    (hp : p ∈ c.properties) {layout : List Step} (hlayout : j.propertyLayout c p = .ok layout) :
    Shapes k 0 0 layout := by
  have hdialect : j.dialect.IsShaped k := j.config.language.isShaped_dialect
  have howner := CodeModel.freeIn_class (freeIn_model h) hc
  obtain ⟨decl, hdecl, rfl⟩ := map_eq_ok_iff.1 hlayout
  exact hdialect.property decl (isFree_propertyHead hdialect.spelling howner hp hdecl)

theorem shapes_of_properties {c : ClassDef} (hc : c ∈ j.model.classes) {parts : List (List Step)}
    (hparts : c.properties.map (j.propertyLayout c) = parts.map .ok) :
    ∀ part ∈ parts, Shapes k 0 0 part := by
  intro part hpart
  obtain ⟨p, hp, hlayout⟩ := exists_of_mem_results hparts hpart
  exact shapes_of_propertyLayout h hc hp hlayout

theorem shapes_of_methods {c : ClassDef} (hc : c ∈ j.model.classes) {parts : List (List Step)}
    (hparts : (j.methodsOf c).map (j.methodLayout c) = parts.map .ok) :
    ∀ part ∈ parts, Shapes k 0 0 part := by
  intro part hpart
  obtain ⟨m, hm, hlayout⟩ := exists_of_mem_results hparts hpart
  exact shapes_of_methodLayout h hc (List.mem_filter.1 hm).1 hlayout

/-- **A class closes the braces that it opens.** The members stand at the depth that the head of the
class leaves, and leave it in turn to the end of the class. -/
theorem shapes_of_classLayout {c : ClassDef} (hc : c ∈ j.model.classes) {decl : ClassHead}
    (hdecl : classHead j.model j.spelling j.config c = .ok decl) {layout : List Step}
    (hlayout : j.classLayout c decl = .ok layout) : Shapes k 0 0 layout := by
  have hdialect : j.dialect.IsShaped k := j.config.language.isShaped_dialect
  have howner := CodeModel.freeIn_class (freeIn_model h) hc
  obtain ⟨depth, hopen, hclose⟩ := hdialect.frame
  obtain ⟨properties, methods, hproperties, hmethods, rfl⟩ := classLayout_eq_ok_iff.1 hlayout
  have hhead := hopen decl
    (isFree_classHead (freeIn_model h) hdialect.spelling (freeIn_config h) howner hdecl)
  have hpropertyShapes : Shapes k 0 0 properties.flatten :=
    .flatten (shapes_of_properties h hc hproperties)
  have hmethodShapes : Shapes k 0 0 (methods.map (Step.blank :: ·)).flatten := by
    refine .flatten fun part hpart ↦ ?_
    obtain ⟨own, hown, rfl⟩ := List.mem_map.1 hpart
    exact .cons .blank (shapes_of_methods h hc hmethods own hown)
  -- Members are counted from zero on pages of their own, and here from the depth of the head.
  have hmembers : Shapes k depth depth
      (properties.flatten ++ (methods.map (Step.blank :: ·)).flatten) := by
    have hmoved := (hpropertyShapes.append hmethodShapes).add depth
    rwa [Nat.zero_add] at hmoved
  rw [List.append_assoc (_ ++ _) properties.flatten]
  exact (hhead.append hmembers).append hclose

theorem shapes_of_enumHead {e : EnumDef} (he : e ∈ j.model.enums) {decl : EnumHead}
    (hdecl : enumHead j.model j.config e = .ok decl) :
    Shapes k 0 0 (j.dialect.enumeration decl) :=
  j.config.language.isShaped_dialect.enumeration decl
    (isFree_enumHead (freeIn_model h) (freeIn_config h)
      (CodeModel.freeIn_enum (freeIn_model h) he) hdecl)

end Layouts

/-- **Braces balance** in every file and every single member that a job writes, where no text of the
job holds a brace. -/
theorem braces_balance (j : Job)
    (h : ∀ text ∈ j.texts, '\x7b' ∉ text.toList ∧ '\x7d' ∉ text.toList) :
    (∀ id file, j.classFile id = .ok file → Balanced file.source) ∧
      (∀ id file, j.enumFile id = .ok file → Balanced file.source) ∧
      (∀ id index text, j.methodText id index = .ok text → Balanced text) ∧
      ∀ id index text, j.propertyText id index = .ok text → Balanced text := by
  have hfree : FreeIn .brace j.texts := by
    intro text htext c hc
    obtain ⟨hopen, hclose⟩ := h text htext
    rcases List.mem_cons.1 hc with rfl | hc
    · exact hopen
    · rw [List.mem_singleton.1 hc]
      exact hclose
  refine ⟨fun id file hfile ↦ ?_, fun id file hfile ↦ ?_, fun id index text htext ↦ ?_,
    fun id index text htext ↦ ?_⟩
  · obtain ⟨c, decl, layout, hc, hdecl, hlayout, rfl⟩ := classFile_eq_ok_iff.1 hfile
    exact (shapes_of_classLayout hfree (List.mem_of_getElem? hc) hdecl hlayout).balanced
  · obtain ⟨e, decl, he, hdecl, rfl⟩ := enumFile_eq_ok_iff.1 hfile
    exact (shapes_of_enumHead hfree (List.mem_of_getElem? he) hdecl).balanced
  · obtain ⟨c, hc, m, hm, layout, hlayout, rfl⟩ := exists_of_methodText htext
    exact (shapes_of_methodLayout hfree hc hm hlayout).balanced
  · obtain ⟨c, hc, p, hp, layout, hlayout, rfl⟩ := exists_of_propertyText htext
    exact (shapes_of_propertyLayout hfree hc hp hlayout).balanced

/-- A class with a method that opens two braces at once and one that closes a brace where it opens
the next, and an enum. -/
def nestedBracesJob : Job where
  model :=
    { namespaces := [{ name := "", parent := none, classes := [0], enums := [0] }]
      classes :=
        [{ name := "ferry"
           parent := 0
           properties := [{ name := "seats", kind := .custom, type := { name := "int" } }]
           methods :=
             [{ name := "readers", kind := .deserializer, returnType := some { name := "map" } },
              { name := "request", kind := .requestGenerator, verb := some .get,
                returnType := some { name := "RequestInformation" } },
              { name := "get", kind := .requestExecutor, verb := some .get, isAsync := true,
                returnType := some { name := "ferry" } }] }]
      enums := [{ name := "deck", parent := 0, members := ["car", "top"] }] }
  config := { language := .java }

theorem braces_balance_nestedBraces :
    (∀ text ∈ nestedBracesJob.texts, '\x7b' ∉ text.toList ∧ '\x7d' ∉ text.toList) ∧
      (∃ file, nestedBracesJob.classFile 0 = .ok file ∧ Balanced file.source) ∧
      (∃ file, nestedBracesJob.enumFile 0 = .ok file ∧ Balanced file.source) ∧
      (∃ text, nestedBracesJob.methodText 0 2 = .ok text ∧ Balanced text) ∧
      ∃ text, nestedBracesJob.propertyText 0 0 = .ok text ∧ Balanced text := by
  have hplain : ∀ text ∈ nestedBracesJob.texts, '\x7b' ∉ text.toList ∧ '\x7d' ∉ text.toList := by
    decide
  obtain ⟨hclass, henum, hmethod, hproperty⟩ := braces_balance nestedBracesJob hplain
  exact ⟨hplain, ⟨_, rfl, hclass 0 _ rfl⟩, ⟨_, rfl, henum 0 _ rfl⟩, ⟨_, rfl, hmethod 0 2 _ rfl⟩,
    ⟨_, rfl, hproperty 0 0 _ rfl⟩⟩

end Job

end ApiScribe
